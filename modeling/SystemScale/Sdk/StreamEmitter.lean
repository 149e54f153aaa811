import Mathlib.Data.List.Nodup
import Mathlib.Data.List.Range
import Mathlib.Logic.Function.Basic
import SystemScale.Lib.Runs

set_option autoImplicit false

/-!
# The queue of the Python SDK's StreamEmitter

Callers put frames on a queue, and a background thread posts them to the agent. While there is no
agent the thread puts a frame back behind the others.
-/

namespace SystemScale.Sdk

open Runs

namespace StreamEmitter

/-- `serial` is no part of the program: how many frames were accepted before this one. -/
structure Item (F : Type) where
  ident : Nat
  serial : Nat
  frame : F

/-- Where `_run` is with the frame it got. An exception ends the thread. -/
inductive Sender (F : Type) where
  | idle
  | taken (item : Item F)
  | requeueing (item : Item F)
  | posting (item : Item F)
  | dead

-- `accepted` is what `send` put on the queue, `posted` what the agent got.
structure State (F : Type) where
  queue : List (Item F)
  agentless : Bool
  requeueCount : Nat → Nat
  sender : Sender F
  accepted : List (Item F)
  posted : List (Item F)

/-- What becomes of one attempt to post. One that failed may still have reached the agent. -/
inductive Attempt where
  | status (code : Nat)
  | failed (received : Bool)

inductive Action (F : Type) where
  | send (frame : F) (ident : Nat)
  | setAgentless (value : Bool)
  | get
  | look
  | put
  | post (attempts : List Attempt)

variable {F : Type}

def Sender.held : Sender F → List (Item F)
  | .taken item => [item]
  | .requeueing item => [item]
  | .posting item => [item]
  | _ => []

/-- How often the agent takes the body of `post_with_retry`. -/
def postWithRetry : Nat → List Attempt → Nat
  | 0, _ => 0
  | _, [] => 0
  | _ + 1, .status code :: _ => if 200 ≤ code ∧ code < 300 then 1 else 0
  | retries + 1, .failed received :: rest =>
    (if received then 1 else 0) + postWithRetry retries rest

section Steps

-- The size of the queue, none at all if it is zero, and whether a body can be made of a frame.
variable (queueSize : Nat) (encodes : F → Bool)

def full (queue : List (Item F)) : Bool := 0 < queueSize && queueSize ≤ queue.length

/-- An object has an id that no living one has. -/
def step (state : State F) : Action F → Option (State F)
  | .send frame ident =>
    if ident ∈ (state.sender.held ++ state.queue).map Item.ident then none
    else if full queueSize state.queue then some state
    else
      let item := ⟨ident, state.accepted.length, frame⟩
      some { state with queue := state.queue ++ [item], accepted := state.accepted ++ [item] }
  | .setAgentless value => some { state with agentless := value }
  | .get =>
    match state.sender, state.queue with
    | .idle, item :: rest => some { state with queue := rest, sender := .taken item }
    | _, _ => none
  | .look =>
    match state.sender with
    | .taken item =>
      if state.agentless then
        let retries := state.requeueCount item.ident
        if retries < 3 then
          some { state with
            requeueCount := Function.update state.requeueCount item.ident (retries + 1)
            sender := .requeueing item }
        else
          some { state with
            requeueCount := Function.update state.requeueCount item.ident 0
            sender := .idle }
      else
        some { state with
          requeueCount := fun _ => 0
          sender := if encodes item.frame then .posting item else .dead }
    | _ => none
  | .put =>
    match state.sender with
    | .requeueing item =>
      if full queueSize state.queue then some { state with sender := .idle }
      else some { state with queue := state.queue ++ [item], sender := .idle }
    | _ => none
  | .post attempts =>
    match state.sender with
    | .posting item =>
      some { state with
        posted := state.posted ++ List.replicate (postWithRetry 3 attempts) item
        sender := .idle }
    | _ => none

end Steps

def start : State F := ⟨[], false, fun _ => 0, .idle, [], []⟩

/-! ## What is promised -/

/-- The agent got the first frames, each once, and the others wait in the order they were sent. -/
def Kept (state : State F) : Prop :=
  state.posted ++ state.sender.held ++ state.queue = state.accepted

/-- A frame that is put back has no other behind it and was put back less than three times, one that
is to be posted can be encoded, and the agent takes a post once. -/
def Careful (encodes : F → Bool) (state : State F) : Action F → Prop
  | .look =>
    match state.sender with
    | .taken item =>
      if state.agentless then state.requeueCount item.ident < 3 else encodes item.frame = true
    | _ => True
  | .put => state.queue = []
  | .post attempts => postWithRetry 3 attempts = 1
  | _ => True

def Numbered (state : State F) : Prop :=
  state.accepted.map Item.serial = List.range state.accepted.length

section Proofs

variable {queueSize : Nat} {encodes : F → Bool}

theorem step_numbered {state next : State F} {action : Action F} (numbered : Numbered state)
    (taken : step queueSize encodes state action = some next) : Numbered next := by
  cases action with
  | send frame ident =>
    simp only [step] at taken
    split_ifs at taken
    · exact Option.some.inj taken ▸ numbered
    · obtain rfl := Option.some.inj taken
      unfold Numbered at numbered
      simp [Numbered, numbered, List.range_succ]
  | setAgentless value => exact Option.some.inj taken ▸ numbered
  | get =>
    simp only [step] at taken
    split at taken
    · exact Option.some.inj taken ▸ numbered
    · cases taken
  | look =>
    simp only [step] at taken
    split at taken
    · split_ifs at taken <;> exact Option.some.inj taken ▸ numbered
    · cases taken
  | put =>
    simp only [step] at taken
    split at taken
    · split_ifs at taken <;> exact Option.some.inj taken ▸ numbered
    · cases taken
  | post attempts =>
    simp only [step] at taken
    split at taken
    · exact Option.some.inj taken ▸ numbered
    · cases taken

theorem Numbered.nodup {state : State F} (numbered : Numbered state) : state.accepted.Nodup := by
  refine List.Nodup.of_map Item.serial ?_
  rw [numbered]
  exact List.nodup_range

theorem requeued_iff {posted queue accepted : List (Item F)} {item : Item F}
    (kept : posted ++ [item] ++ queue = accepted) (nodup : accepted.Nodup) :
    posted ++ [] ++ (queue ++ [item]) = accepted ↔ queue = [] := by
  constructor
  · intro again
    cases queue with
    | nil => rfl
    | cons first rest =>
      -- The next frame to post would be `item` and `first` at once.
      simp only [List.append_nil, List.append_assoc, List.cons_append, List.nil_append] at kept again
      have same := List.append_cancel_left (again.trans kept.symm)
      obtain ⟨rfl, -⟩ := List.cons.inj same
      rw [← kept, List.nodup_append] at nodup
      simp at nodup
  · rintro rfl
    simpa using kept

theorem step_kept {state next : State F} {action : Action F} (numbered : Numbered state)
    (kept : Kept state) (taken : step queueSize encodes state action = some next) :
    Kept next ↔ Careful encodes state action := by
  -- A frame too few or too many shows in the length.
  have size := congrArg List.length kept
  simp only [List.length_append] at size
  cases action with
  | send frame ident =>
    refine iff_of_true ?_ trivial
    simp only [step] at taken
    split_ifs at taken
    · exact Option.some.inj taken ▸ kept
    · obtain rfl := Option.some.inj taken
      unfold Kept at kept
      simp only [Kept, ← kept, List.append_assoc]
  | setAgentless value =>
    obtain rfl := Option.some.inj taken
    exact iff_of_true kept trivial
  | get =>
    refine iff_of_true ?_ trivial
    simp only [step] at taken
    split at taken
    · next item rest idle queued =>
      obtain rfl := Option.some.inj taken
      simpa [Kept, idle, queued, Sender.held] using kept
    · cases taken
  | look =>
    simp only [step] at taken
    split at taken
    · next item held =>
      simp only [Careful, held]
      simp only [Kept, held, Sender.held] at kept size
      split_ifs at taken ⊢ with absent fresh encoded
      · obtain rfl := Option.some.inj taken
        exact iff_of_true kept fresh
      · obtain rfl := Option.some.inj taken
        refine iff_of_false (fun all => ?_) fresh
        have fewer := congrArg List.length all
        simp [Sender.held] at fewer size
        omega
      · obtain rfl := Option.some.inj taken
        exact iff_of_true kept encoded
      · obtain rfl := Option.some.inj taken
        refine iff_of_false (fun all => ?_) encoded
        have fewer := congrArg List.length all
        simp [Sender.held] at fewer size
        omega
    · cases taken
  | put =>
    simp only [step] at taken
    split at taken
    · next item held =>
      simp only [Kept, held, Sender.held] at kept size
      split_ifs at taken with filled
      · obtain rfl := Option.some.inj taken
        refine iff_of_false (fun all => ?_) (fun empty => ?_)
        · have fewer := congrArg List.length all
          simp [Sender.held] at fewer size
          omega
        · change state.queue = [] at empty
          simp only [full, empty, List.length_nil, Bool.and_eq_true, decide_eq_true_eq] at filled
          omega
      · obtain rfl := Option.some.inj taken
        exact requeued_iff kept numbered.nodup
    · cases taken
  | post attempts =>
    simp only [step] at taken
    split at taken
    · next item held =>
      obtain rfl := Option.some.inj taken
      simp only [Kept, held, Sender.held] at kept size
      constructor
      · intro all
        have more := congrArg List.length all
        simp [Sender.held] at more size
        simp only [Careful]
        omega
      · intro once
        simp only [Careful] at once
        simpa [Kept, Sender.held, once] using kept
    · cases taken

/-! ## Once the agent is there -/

def round : List (Action F) := [.get, .look, .post [.status 200]]

theorem exec_round {state : State F} {item : Item F} {rest : List (Item F)}
    (idle : state.sender = .idle) (queued : state.queue = item :: rest)
    (available : state.agentless = false) (encoded : encodes item.frame = true) :
    exec (step queueSize encodes) state round =
      some { state with
        queue := rest, requeueCount := fun _ => 0, posted := state.posted ++ [item] } := by
  simp [round, exec, step, idle, queued, available, encoded, postWithRetry]

theorem exec_rounds {state : State F} (idle : state.sender = .idle)
    (available : state.agentless = false)
    (encoded : ∀ item ∈ state.queue, encodes item.frame = true) :
    ∃ final, exec (step queueSize encodes) state
        (List.replicate state.queue.length round).flatten = some final ∧
      final.queue = [] ∧ final.sender = .idle ∧ final.posted = state.posted ++ state.queue := by
  obtain ⟨queue, are⟩ : ∃ queue, queue = state.queue := ⟨_, rfl⟩
  rw [← are] at encoded ⊢
  induction queue generalizing state with
  | nil => exact ⟨state, rfl, are.symm, idle, (List.append_nil _).symm⟩
  | cons item rest ih =>
    have first : exec (step queueSize encodes) state round = _ :=
      exec_round idle are.symm available (encoded item List.mem_cons_self)
    let later : State F := { state with
      queue := rest, requeueCount := fun _ => 0, posted := state.posted ++ [item] }
    obtain ⟨final, ran, empty, idle_then, posted⟩ :=
      ih (show later.sender = .idle from idle) (show later.agentless = false from available)
        (fun other member => encoded other (List.mem_cons_of_mem item member))
        (show rest = later.queue from rfl)
    refine ⟨final, ?_, empty, idle_then, ?_⟩
    · rw [List.length_cons, List.replicate_succ, List.flatten_cons, exec_append, first]
      exact ran
    · rw [posted, List.append_assoc, List.singleton_append]

/-- The frames of a run are kept if and only if its steps are careful; frames that are kept are all
posted as soon as the agent is there. -/
theorem frames_posted_iff (actions : List (Action F)) :
    (Throughout (step queueSize encodes) Kept start actions ↔
      Along (step queueSize encodes) (Careful encodes) start actions) ∧
    ∀ state, exec (step queueSize encodes) start actions = some state → Kept state →
      state.agentless = false → state.sender = .idle →
      (∀ item ∈ state.queue, encodes item.frame = true) →
        ∃ final, exec (step queueSize encodes) state
            (List.replicate state.queue.length round).flatten = some final ∧
          final.queue = [] ∧ final.posted = state.accepted := by
  constructor
  · exact throughout_iff_along
      (fun _ _ _ numbered _ _ taken => step_numbered numbered taken)
      (fun _ _ _ numbered kept taken => step_kept numbered kept taken)
      (show Numbered start from rfl) (show Kept start from rfl)
  · intro state _ kept available idle encoded
    obtain ⟨final, ran, empty, -, posted⟩ := exec_rounds idle available encoded
    refine ⟨final, ran, empty, ?_⟩
    simpa [Kept, idle, Sender.held, posted] using kept

end Proofs

/-! ## Two runs -/

-- The agent comes after 0.1 s, and the only frame was put back once.
def shortWait : List (Action Unit) :=
  [.setAgentless true, .send () 1, .get, .look, .put, .setAgentless false]

def waited : State Unit :=
  ⟨[⟨1, 0, ()⟩], false, Function.update (fun _ => 0) 1 1, .idle, [⟨1, 0, ()⟩], []⟩

theorem shortWait_posted : ∃ final,
    exec (step 8192 fun _ => true) waited (List.replicate 1 round).flatten = some final ∧
      final.queue = [] ∧ final.posted = [⟨1, 0, ()⟩] :=
  (frames_posted_iff shortWait).2 waited rfl rfl rfl rfl fun _ _ => rfl

-- It comes after 0.4 s, and the frame is gone.
def longWait : List (Action Unit) :=
  [.setAgentless true, .send () 1] ++ (List.replicate 3 [.get, .look, .put]).flatten ++
    [.get, .look, .setAgentless false]

theorem longWait_lost : ¬Throughout (step 8192 fun _ => true) Kept start longWait := by
  intro all
  have kept := throughout_iff_prefixes.mp all longWait [] _ (List.append_nil _).symm rfl
  have fewer := congrArg List.length kept
  simp [Sender.held, start] at fewer

end StreamEmitter

end SystemScale.Sdk
