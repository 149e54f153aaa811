import SystemScale.Lib.Runs

set_option autoImplicit false

/-!
# Stopping the Python SDK's StreamEmitter

`stop` sets a flag that the background thread reads between two frames, and puts a sentinel behind
the frames that wait. There is an agent here, which answers every post.
-/

namespace SystemScale.Sdk.Emitter

open Runs

inductive Entry (F : Type) where
  | frame (item : F)
  | stop

/-- Where `_run` is: no thread yet, before the test of its loop, in `get`, with a frame in hand, in
the post of one. An exception ends the thread as the loop's end does. -/
inductive Loop (F : Type) where
  | absent
  | testing
  | getting
  | taken (item : F)
  | posting (item : F)
  | ended

/-- Where a call of `stop` is: none, behind the flag, in `join`. -/
inductive Phase where
  | idle
  | flagged
  | joining

-- `accepted` is what `send` put on the queue, `posted` what the agent got.
structure State (F : Type) where
  queue : List (Entry F)
  stopped : Bool
  loop : Loop F
  phase : Phase
  accepted : List F
  posted : List F

inductive Action (F : Type) where
  | start
  | send (item : F)
  | stop
  | putSentinel
  | joined
  | test
  | get
  | timeout
  | look
  | post

variable {F : Type}

section Steps

-- The size of the queue, none at all if it is zero, and whether a body can be made of a frame.
variable (queueSize : Nat) (encodes : F → Bool)

def full (queue : List (Entry F)) : Bool := 0 < queueSize && queueSize ≤ queue.length

/-- Calls of `start` and `stop` come one after the other. -/
def step (state : State F) : Action F → Option (State F)
  | .start =>
    match state.phase, state.loop with
    | .idle, .absent => some { state with stopped := false, loop := .testing }
    | .idle, _ => some state
    | _, _ => none
  | .send item =>
    if full queueSize state.queue then some state
    else some { state with
      queue := state.queue ++ [.frame item], accepted := state.accepted ++ [item] }
  | .stop =>
    match state.phase with
    | .idle => if state.stopped then some state
      else some { state with stopped := true, phase := .flagged }
    | _ => none
  | .putSentinel =>
    match state.phase with
    | .flagged => some { state with
        queue := if full queueSize state.queue then state.queue else state.queue ++ [.stop]
        phase := .joining }
    | _ => none
  | .joined =>
    match state.phase, state.loop with
    | .joining, .absent => some { state with phase := .idle }
    | .joining, .ended => some { state with phase := .idle }
    | _, _ => none
  | .test =>
    match state.loop with
    | .testing => some { state with loop := if state.stopped then .ended else .getting }
    | _ => none
  | .get =>
    match state.loop, state.queue with
    | .getting, .frame item :: rest => some { state with queue := rest, loop := .taken item }
    | .getting, .stop :: rest => some { state with queue := rest, loop := .ended }
    | _, _ => none
  | .timeout =>
    match state.loop, state.queue with
    | .getting, [] => some { state with loop := .testing }
    | _, _ => none
  | .look =>
    match state.loop with
    | .taken item => some { state with loop := if encodes item then .posting item else .ended }
    | _ => none
  | .post =>
    match state.loop with
    | .posting item => some { state with posted := state.posted ++ [item], loop := .testing }
    | _ => none

/-- What the thread still posts once it is told to stop: the frame in hand, or the next one where it
has already passed the test. -/
def due (state : State F) : List F :=
  match state.loop, state.queue with
  | .getting, .frame item :: _ => if encodes item then [item] else []
  | .taken item, _ => if encodes item then [item] else []
  | .posting item, _ => [item]
  | _, _ => []

/-- All frames so far are posted, but for one that is about to be. -/
def Drained (state : State F) : Prop := state.accepted = state.posted ++ due encodes state

/-- A call of `stop` from one state returns in the other. -/
inductive StopReturns (state : State F) : State F → Prop where
  | ignored (already : state.stopped = true)
      (returned : step queueSize encodes state .stop = some state) : StopReturns state state
  | joined {later : List (Action F)} {final : State F} (only : .stop ∉ later)
      (fresh : state.stopped = false)
      (ran : exec (step queueSize encodes) state (.stop :: (later ++ [.joined])) = some final) :
      StopReturns state final

end Steps

def init : State F := ⟨[], false, .absent, .idle, [], []⟩

/-! ## Every reachable state -/

def Entry.item : Entry F → List F
  | .frame item => [item]
  | .stop => []

def Loop.held : Loop F → List F
  | .taken item => [item]
  | .posting item => [item]
  | _ => []

/-- A thread that runs has lost no frame, and it does not run once a call of `stop` is over. -/
structure Inv (state : State F) : Prop where
  order : state.posted <+: state.accepted
  alive : state.loop ≠ .ended →
    state.posted ++ (state.loop.held ++ state.queue.flatMap Entry.item) = state.accepted
  settled : state.stopped = true → state.phase = .idle → state.loop = .absent ∨ state.loop = .ended
  flagged : state.phase ≠ .idle → state.stopped = true

section Proofs

variable {queueSize : Nat} {encodes : F → Bool} {state next : State F}

theorem step_inv {action : Action F} (inv : Inv state)
    (taken : step queueSize encodes state action = some next) : Inv next := by
  obtain ⟨order, alive, settled, flagged⟩ := inv
  cases action with
  | start =>
    simp only [step] at taken
    split at taken
    · next idle absent =>
      obtain rfl := Option.some.inj taken
      rw [absent] at alive
      exact ⟨order, fun _ => alive (by simp), fun set => by simp at set,
        fun busy => absurd idle busy⟩
    · exact Option.some.inj taken ▸ ⟨order, alive, settled, flagged⟩
    · cases taken
  | send item =>
    simp only [step] at taken
    split_ifs at taken
    · exact Option.some.inj taken ▸ ⟨order, alive, settled, flagged⟩
    · obtain rfl := Option.some.inj taken
      refine ⟨order.trans (List.prefix_append _ _), fun runs => ?_, settled, flagged⟩
      rw [← alive runs]
      simp [Entry.item]
  | stop =>
    simp only [step] at taken
    split at taken
    · split_ifs at taken
      · exact Option.some.inj taken ▸ ⟨order, alive, settled, flagged⟩
      · obtain rfl := Option.some.inj taken
        exact ⟨order, alive, fun _ idle => (nomatch idle), fun _ => rfl⟩
    · cases taken
  | putSentinel =>
    simp only [step] at taken
    split at taken
    · next phase =>
      obtain rfl := Option.some.inj taken
      refine ⟨order, fun runs => ?_, fun _ idle => (nomatch idle),
        fun _ => flagged (by simp [phase])⟩
      rw [← alive runs]
      dsimp only
      split_ifs <;> simp [Entry.item]
    · cases taken
  | joined =>
    simp only [step] at taken
    split at taken
    · next phase absent =>
      obtain rfl := Option.some.inj taken
      exact ⟨order, alive, fun _ _ => .inl absent, fun busy => absurd rfl busy⟩
    · next phase ended =>
      obtain rfl := Option.some.inj taken
      exact ⟨order, alive, fun _ _ => .inr ended, fun busy => absurd rfl busy⟩
    · cases taken
  | test =>
    simp only [step] at taken
    split at taken
    · next testing =>
      obtain rfl := Option.some.inj taken
      rw [testing] at alive settled
      refine ⟨order, fun runs => ?_, fun set idle => ?_, flagged⟩
      · rw [← alive (by simp)]
        dsimp only
        split_ifs <;> rfl
      · exact absurd (settled set idle) (by simp)
    · cases taken
  | get =>
    simp only [step] at taken
    split at taken
    · next item rest getting queued =>
      obtain rfl := Option.some.inj taken
      rw [getting] at alive settled
      refine ⟨order, fun _ => ?_, fun set idle => absurd (settled set idle) (by simp), flagged⟩
      rw [← alive (by simp), queued]
      rfl
    · next rest getting queued =>
      obtain rfl := Option.some.inj taken
      exact ⟨order, fun runs => absurd rfl runs, fun _ _ => .inr rfl, flagged⟩
    · cases taken
  | timeout =>
    simp only [step] at taken
    split at taken
    · next getting queued =>
      obtain rfl := Option.some.inj taken
      rw [getting] at alive settled
      exact ⟨order, fun _ => alive (by simp), fun set idle => absurd (settled set idle) (by simp),
        flagged⟩
    · cases taken
  | look =>
    simp only [step] at taken
    split at taken
    · next item held =>
      obtain rfl := Option.some.inj taken
      rw [held] at alive settled
      refine ⟨order, fun runs => ?_, fun set idle => absurd (settled set idle) (by simp), flagged⟩
      rw [← alive (by simp)]
      dsimp only at runs ⊢
      split_ifs at runs ⊢
      · rfl
      · exact absurd rfl runs
    · cases taken
  | post =>
    simp only [step] at taken
    split at taken
    · next item held =>
      obtain rfl := Option.some.inj taken
      rw [held] at alive settled
      have all := alive (by simp)
      rw [← List.append_assoc] at all
      refine ⟨⟨_, all⟩, fun _ => all, fun set idle => absurd (settled set idle) (by simp), flagged⟩
    · cases taken

/-! ## From the call to its return -/

theorem init_inv : Inv (init : State F) :=
  ⟨List.prefix_rfl, fun _ => rfl, fun set => (nomatch set), fun busy => absurd rfl busy⟩

/-- The thread is told to stop. Beyond the frames that were due at the call it posts others only
where those were all. -/
structure During (encodes : F → Bool) (before sure : List F) (state : State F) : Prop where
  inv : Inv state
  busy : state.phase ≠ .idle
  ahead : before <+: state.accepted
  posts : ∃ more, state.posted ++ due encodes state = sure ++ more ∧ (more ≠ [] → before = sure)

theorem due_prefix (encodes : F → Bool) (inv : Inv state) : state.posted ++ due encodes state <+: state.accepted := by
  by_cases ended : state.loop = .ended
  · simpa [due, ended] using inv.order
  · rw [← inv.alive ended]
    refine (List.prefix_append_right_inj _).mpr ?_
    unfold due
    split
    · next item rest getting queued =>
      rw [getting, queued]
      split_ifs
      · exact List.prefix_append [item] _
      · exact List.nil_prefix
    · next item held =>
      rw [held]
      split_ifs
      · exact List.prefix_append [item] _
      · exact List.nil_prefix
    · next item held =>
      rw [held]
      exact List.prefix_append [item] _
    · exact List.nil_prefix

-- Outside `get` with an empty queue nothing that comes up behind changes what is due.
theorem due_behind {queue : List (Entry F)} (same : next.loop = state.loop)
    (behind : next.queue = state.queue ++ queue)
    (other : state.loop = .getting → state.queue ≠ []) :
    due encodes next = due encodes state := by
  unfold due
  rw [same, behind]
  cases place : state.loop with
  | getting =>
    cases queued : state.queue with
    | nil => exact absurd queued (other place)
    | cons entry rest => cases entry <;> rfl
  | _ => rfl

theorem step_during {before sure : List F} {action : Action F} (inside : sure <+: before)
    (during : During encodes before sure state) (only : action ≠ .stop)
    (open_call : action ≠ .joined)
    (taken : step queueSize encodes state action = some next) :
    During encodes before sure next := by
  have kept := step_inv during.inv taken
  obtain ⟨inv, busy, ahead, more, posts, extra⟩ := during
  have stopped := inv.flagged busy
  cases action with
  | start =>
    simp only [step] at taken
    split at taken
    · next idle _ => exact absurd idle busy
    · next idle _ => exact absurd idle busy
    · cases taken
  | send item =>
    simp only [step] at taken
    split_ifs at taken
    · exact Option.some.inj taken ▸ ⟨inv, busy, ahead, more, posts, extra⟩
    · obtain rfl := Option.some.inj taken
      have ahead' := ahead.trans (List.prefix_append state.accepted [item])
      by_cases waits : state.loop = .getting ∧ state.queue = []
      · -- The frames before the call were all posted, and this one may be the next.
        have all := inv.alive (by simp [waits.1])
        rw [waits.1, waits.2] at all
        have none_due : due encodes state = [] := by simp [due, waits.1, waits.2]
        rw [none_due, List.append_nil] at posts
        simp only [Loop.held, List.flatMap_nil, List.append_nil] at all
        have same : before = sure := by
          by_cases first : more = []
          · rw [← all, posts, first, List.append_nil] at ahead
            exact ahead.eq_of_length_le inside.length_le
          · exact extra first
        have grown : ∀ late, ∃ most, state.posted ++ late = sure ++ most ∧
            (most ≠ [] → before = sure) := fun late =>
          ⟨more ++ late, by rw [posts, List.append_assoc], fun _ => same⟩
        exact ⟨kept, busy, ahead', grown _⟩
      · refine ⟨kept, busy, ahead', more, ?_, extra⟩
        rw [← posts]
        exact congrArg _ (due_behind rfl rfl fun getting queued => waits ⟨getting, queued⟩)
  | stop => exact absurd rfl only
  | putSentinel =>
    simp only [step] at taken
    split at taken
    · next phase =>
      obtain rfl := Option.some.inj taken
      refine ⟨kept, by simp, ahead, more, ?_, extra⟩
      rw [← posts]
      refine congrArg _ ?_
      split_ifs
      · rfl
      · by_cases waits : state.loop = .getting ∧ state.queue = []
        · simp [due, waits.1, waits.2]
        · exact due_behind rfl rfl fun getting queued => waits ⟨getting, queued⟩
    · cases taken
  | joined => exact absurd rfl open_call
  | test =>
    simp only [step] at taken
    split at taken
    · next testing =>
      obtain rfl := Option.some.inj taken
      refine ⟨kept, busy, ahead, more, ?_, extra⟩
      rw [← posts]
      simp [due, stopped, testing]
    · cases taken
  | get =>
    simp only [step] at taken
    split at taken
    · next item rest getting queued =>
      obtain rfl := Option.some.inj taken
      refine ⟨kept, busy, ahead, more, ?_, extra⟩
      rw [← posts]
      simp [due, getting, queued]
    · next rest getting queued =>
      obtain rfl := Option.some.inj taken
      refine ⟨kept, busy, ahead, more, ?_, extra⟩
      rw [← posts]
      simp [due, getting, queued]
    · cases taken
  | timeout =>
    simp only [step] at taken
    split at taken
    · next getting queued =>
      obtain rfl := Option.some.inj taken
      refine ⟨kept, busy, ahead, more, ?_, extra⟩
      rw [← posts]
      simp [due, getting, queued]
    · cases taken
  | look =>
    simp only [step] at taken
    split at taken
    · next item held =>
      obtain rfl := Option.some.inj taken
      refine ⟨kept, busy, ahead, more, ?_, extra⟩
      rw [← posts]
      unfold due
      rw [held]
      dsimp only
      split_ifs <;> rfl
    · cases taken
  | post =>
    simp only [step] at taken
    split at taken
    · next item held =>
      obtain rfl := Option.some.inj taken
      refine ⟨kept, busy, ahead, more, ?_, extra⟩
      rw [← posts]
      simp [due, held]
    · cases taken

theorem stop_during (inv : Inv state) (fresh : state.stopped = false)
    (taken : step queueSize encodes state .stop = some next) :
    During encodes state.accepted (state.posted ++ due encodes state) next := by
  have kept := step_inv inv taken
  simp only [step] at taken
  split at taken
  · rw [if_neg (by simp [fresh])] at taken
    obtain rfl := Option.some.inj taken
    exact ⟨kept, by simp, List.prefix_rfl, [], (List.append_nil _).symm,
      fun never => absurd rfl never⟩
  · cases taken

theorem joined_ends (taken : step queueSize encodes state .joined = some next) :
    due encodes state = [] ∧ next.posted = state.posted ∧ next.phase = .idle := by
  simp only [step] at taken
  split at taken
  · next absent =>
    obtain rfl := Option.some.inj taken
    exact ⟨by simp [due, absent], rfl, rfl⟩
  · next ended =>
    obtain rfl := Option.some.inj taken
    exact ⟨by simp [due, ended], rfl, rfl⟩
  · cases taken

theorem idle_stays {action : Action F} (idle : state.phase = .idle) (only : action ≠ .stop)
    (taken : step queueSize encodes state action = some next) :
    next.phase = .idle ∧ action ≠ .joined := by
  cases action with
  | stop => exact absurd rfl only
  | putSentinel => simp [step, idle] at taken
  | joined => simp [step, idle] at taken
  | send item =>
    simp only [step] at taken
    split_ifs at taken <;> exact Option.some.inj taken ▸ ⟨idle, fun same => (nomatch same)⟩
  | start | test | get | timeout | look | post =>
    simp only [step] at taken
    split at taken <;> first
      | exact Option.some.inj taken ▸ ⟨idle, fun same => (nomatch same)⟩
      | cases taken

/-- When a call of `stop` returns, the frames accepted before it are posted exactly if it found them
drained. -/
theorem stop_drains_iff {actions : List (Action F)} {final : State F}
    (reached : exec (step queueSize encodes) init actions = some state)
    (returns : StopReturns queueSize encodes state final) :
    state.accepted <+: final.posted ↔ Drained encodes state := by
  have inv : Inv state :=
    exec_invariant (fun _ _ _ inv taken => step_inv inv taken) init_inv reached
  have inside := due_prefix encodes inv
  cases returns with
  | ignored already returned =>
    have idle : state.phase = .idle := by
      simp only [step] at returned
      split at returned
      · assumption
      · cases returned
    have none_due : due encodes state = [] := by
      rcases inv.settled already idle with absent | ended
      · simp [due, absent]
      · simp [due, ended]
    rw [Drained, none_due, List.append_nil]
    constructor
    · exact fun ahead => ahead.eq_of_length_le inv.order.length_le
    · exact fun same => same ▸ List.prefix_rfl
  | @joined later _ only fresh ran =>
    rw [exec_cons, Option.bind_eq_some_iff] at ran
    obtain ⟨called, stops, ran⟩ := ran
    rw [exec_append, Option.bind_eq_some_iff] at ran
    obtain ⟨last, waited, ran⟩ := ran
    obtain ⟨joined, ends, is⟩ := Option.bind_eq_some_iff.mp ran
    obtain rfl := Option.some.inj is
    -- A call that has returned before the last `join` would leave that none to return from.
    let Open (now : State F) : Prop :=
      During encodes state.accepted (state.posted ++ due encodes state) now ∨ now.phase = .idle
    have kept : ∀ now action next, Open now → action ≠ .stop →
        step queueSize encodes now action = some next → Open next := by
      intro now action next opened other taken
      rcases opened with during | idle
      · by_cases returns : action = .joined
        · subst returns
          exact .inr (joined_ends taken).2.2
        · exact .inl (step_during inside during other returns taken)
      · exact .inr (idle_stays idle other taken).1
    have opened : Open last := exec_invariant_of kept
      (fun action member same => only (same ▸ member)) (.inl (stop_during inv fresh stops)) waited
    obtain ⟨none_due, posted, -⟩ := joined_ends ends
    rcases opened with during | idle
    · obtain ⟨more, posts, extra⟩ := during.posts
      rw [none_due, List.append_nil] at posts
      rw [posted, posts, Drained]
      constructor
      · intro ahead
        by_cases first : more = []
        · rw [first, List.append_nil] at ahead
          exact ahead.eq_of_length_le inside.length_le
        · exact extra first
      · intro same
        rw [← same]
        exact List.prefix_append _ _
    · exact absurd rfl (idle_stays idle (by simp) ends).2

end Proofs

/-- The thread waits in `get` when the frames come. -/
def waiting (items : List Nat) : State Nat :=
  ⟨items.map .frame, false, .getting, .idle, items, []⟩

def stopped (queue : List (Entry Nat)) (accepted posted : List Nat) : State Nat :=
  ⟨queue, true, .ended, .idle, accepted, posted⟩

theorem one_returns : StopReturns 8192 (fun _ => true) (waiting [1]) (stopped [.stop] [1] [1]) :=
  .joined (by simp : Action.stop ∉ [.putSentinel, .get, .look, .post, .test]) rfl rfl

theorem one_posted : (waiting [1]).accepted <+: (stopped [.stop] [1] [1]).posted :=
  (stop_drains_iff (rfl : exec (step 8192 fun _ => true) init [.start, .test, .send 1] =
    some (waiting [1])) one_returns).mpr rfl

/-- The second frame is still on the queue when `stop` returns. -/
theorem second_left : ∃ state final : State Nat,
    exec (step 8192 fun _ => true) init [.start, .test, .send 1, .send 2] = some state ∧
      StopReturns 8192 (fun _ => true) state final ∧ ¬state.accepted <+: final.posted :=
  ⟨waiting [1, 2], stopped [.frame 2, .stop] [1, 2] [1], rfl,
    .joined (by simp : Action.stop ∉ [.putSentinel, .get, .look, .post, .test]) rfl rfl, by decide⟩

end SystemScale.Sdk.Emitter
