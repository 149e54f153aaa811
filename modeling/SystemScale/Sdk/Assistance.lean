import SystemScale.Lib.Lookups
import SystemScale.Lib.Runs
import SystemScale.Sdk.GoReceiver
import SystemScale.Sdk.PythonMessage

set_option autoImplicit false

/-!
# Requests for assistance

A call registers its id, sends the request and waits. The thread that reads the agent's stream looks
up the id of each response and fills the box of the call that has it. The two SDKs differ in the
box, in what ends a call and in what an exception leaves behind.
-/

namespace SystemScale.Sdk.Assistance

open Runs Lookups
open Json (Value lookup)

/-- What the SDKs do differently. `take` is what a call gets of a box, and what it leaves there. -/
structure Variant (Data Response Box : Type) where
  read : Data → Option (String × Response)
  carries : Response → String → Prop
  carries_read : ∀ data id response, read data = some (id, response) → carries response id
  empty : Box
  put : Box → Response → Box
  take : Box → Option (Response × Box)
  take_put : ∀ responses : List Response,
    (take (responses.foldl put empty)).map Prod.fst = responses.head?
  cleansUp : Bool
  endsOnStop : Bool

inductive Outcome (Response : Type) where
  | response (response : Response)
  | timedOut
  | stopped
  | raised

/-- A call is `leaving` until its id is taken out of the map. -/
inductive Phase (Response : Type) where
  | registered
  | waiting
  | leaving (outcome : Outcome Response)
  | returned (outcome : Outcome Response)

def Phase.inProgress {Response : Type} : Phase Response → Bool
  | .returned _ => false
  | _ => true

def Phase.outcome {Response : Type} : Phase Response → Option (Outcome Response)
  | .leaving outcome => some outcome
  | .returned outcome => some outcome
  | _ => none

-- `seen` is no part of the programs: the responses to the call that were looked up in its time.
structure Call (Response Box : Type) where
  requestId : String
  box : Box
  phase : Phase Response
  seen : List Response

/-- `reader` is the response that the reader has looked up, with the call it is for. -/
structure Desk (Response Box : Type) where
  calls : List (Call Response Box)
  pending : String → Option Nat
  reader : Option (Nat × Response)
  stopped : Bool

inductive Action (Data : Type) where
  | call (requestId : String)
  | sent (index : Nat)
  | raises (index : Nat)
  | take (index : Nat)
  | expire (index : Nat)
  | stop
  | observeStop (index : Nat)
  | leave (index : Nat)
  | event (data : Data)
  | put

section Steps

variable {Data Response Box : Type} (sdk : Variant Data Response Box)

def Desk.start : Desk Response Box := ⟨[], fun _ => none, none, false⟩

namespace Desk

def setPhase (desk : Desk Response Box) (index : Nat) (call : Call Response Box)
    (phase : Phase Response) : Desk Response Box :=
  { desk with calls := desk.calls.set index { call with phase := phase } }

/-- What an exception does to a call. Without a clean-up its entry stays. -/
def raised (desk : Desk Response Box) (index : Nat) (call : Call Response Box) :
    Desk Response Box :=
  desk.setPhase index call (if sdk.cleansUp then .leaving .raised else .returned .raised)

/-- Whether a response is for a call, and the call if it is. -/
def addressed (desk : Desk Response Box) (data : Data) : Option (Nat × Response) :=
  match sdk.read data with
  | none => none
  | some (id, response) => (desk.pending id).map fun index => (index, response)

def step (desk : Desk Response Box) : Action Data → Option (Desk Response Box)
  | .call requestId =>
    if requestId ∈ desk.calls.map Call.requestId then none
    else
      some { desk with
        calls := desk.calls ++ [⟨requestId, sdk.empty, .registered, []⟩]
        pending := Function.update desk.pending requestId (some desk.calls.length) }
  | .sent index => do
    let call ← desk.calls[index]?
    match call.phase with
    | .registered => some (desk.setPhase index call .waiting)
    | _ => none
  | .raises index => do
    let call ← desk.calls[index]?
    match call.phase with
    | .registered => some (desk.raised sdk index call)
    | .waiting => some (desk.raised sdk index call)
    | _ => none
  | .take index => do
    let call ← desk.calls[index]?
    match call.phase, sdk.take call.box with
    | .waiting, some (response, box) =>
      some (desk.setPhase index { call with box := box } (.leaving (.response response)))
    | _, _ => none
  | .expire index => do
    let call ← desk.calls[index]?
    match call.phase with
    | .waiting => some (desk.setPhase index call (.leaving .timedOut))
    | _ => none
  | .stop => some { desk with stopped := true }
  | .observeStop index => do
    let call ← desk.calls[index]?
    match call.phase with
    | .waiting =>
      if desk.stopped && sdk.endsOnStop then some (desk.setPhase index call (.leaving .stopped))
      else none
    | _ => none
  | .leave index => do
    let call ← desk.calls[index]?
    match call.phase with
    | .leaving outcome =>
      some { desk.setPhase index call (.returned outcome) with
        pending := Function.update desk.pending call.requestId none }
    | _ => none
  | .event data =>
    match desk.reader with
    | some _ => none
    | none =>
      match desk.addressed sdk data with
      | none => some desk
      | some (index, response) => do
        let call ← desk.calls[index]?
        some { desk with
          calls := desk.calls.set index { call with seen := call.seen ++ [response] }
          reader := some (index, response) }
  | .put =>
    match desk.reader with
    | none => none
    | some (index, response) => do
      let call ← desk.calls[index]?
      some { desk with
        calls := desk.calls.set index { call with box := sdk.put call.box response }
        reader := none }

end Desk

end Steps

/-! ## What is promised -/

section Promises

variable {Data Response Box : Type} (sdk : Variant Data Response Box)

/-- A call that returns a response got the first one that was looked up in its time, with its own
id. The map has the ids of the calls in progress, and nothing holds up the reader. -/
structure Served (desk : Desk Response Box) : Prop where
  answers : ∀ call ∈ desk.calls, ∀ response, call.phase.outcome = some (.response response) →
    sdk.carries response call.requestId ∧ call.seen.head? = some response
  pending : ∀ id, (desk.pending id).isSome ↔
    ∃ call ∈ desk.calls, call.requestId = id ∧ call.phase.inProgress
  reads : desk.reader = none → ∀ data, (desk.step sdk (.event data)).isSome
  delivers : desk.reader ≠ none → (desk.step sdk .put).isSome

/-- An exception is followed by the clean-up. -/
def Cleans (_ : Desk Response Box) : Action Data → Prop
  | .raises _ => sdk.cleansUp = true
  | _ => True

end Promises

/-! ## Steps -/

section Changes

variable {Data Response Box : Type} {sdk : Variant Data Response Box}
  {desk next : Desk Response Box} {action : Action Data}

/-- What one step can do. -/
inductive Change (sdk : Variant Data Response Box) (desk : Desk Response Box) :
    Action Data → Desk Response Box → Prop
  | called (requestId : String) (unused : requestId ∉ desk.calls.map Call.requestId) :
      Change sdk desk (.call requestId)
        { desk with
          calls := desk.calls ++ [⟨requestId, sdk.empty, .registered, []⟩]
          pending := Function.update desk.pending requestId (some desk.calls.length) }
  | sent (index : Nat) (call : Call Response Box) (is : desk.calls[index]? = some call)
      (was : call.phase = .registered) :
      Change sdk desk (.sent index) (desk.setPhase index call .waiting)
  | ends (action : Action Data) (index : Nat) (call : Call Response Box) (box : Box)
      (outcome : Outcome Response) (is : desk.calls[index]? = some call)
      (was : call.phase.outcome = none)
      (taken : ∀ response, outcome = .response response → sdk.take call.box = some (response, box))
      (cleans : Cleans sdk desk action) :
      Change sdk desk action (desk.setPhase index { call with box := box } (.leaving outcome))
  | abandons (index : Nat) (call : Call Response Box) (is : desk.calls[index]? = some call)
      (was : call.phase.outcome = none) (unclean : sdk.cleansUp = false) :
      Change sdk desk (.raises index) (desk.setPhase index call (.returned .raised))
  | stops : Change sdk desk .stop { desk with stopped := true }
  | leaves (index : Nat) (call : Call Response Box) (outcome : Outcome Response)
      (is : desk.calls[index]? = some call) (was : call.phase = .leaving outcome) :
      Change sdk desk (.leave index)
        { desk.setPhase index call (.returned outcome) with
          pending := Function.update desk.pending call.requestId none }
  | ignores (data : Data) : Change sdk desk (.event data) desk
  | looksUp (data : Data) (index : Nat) (response : Response) (call : Call Response Box)
      (idle : desk.reader = none) (found : desk.addressed sdk data = some (index, response))
      (is : desk.calls[index]? = some call) :
      Change sdk desk (.event data)
        { desk with
          calls := desk.calls.set index { call with seen := call.seen ++ [response] }
          reader := some (index, response) }
  | fills (index : Nat) (response : Response) (call : Call Response Box)
      (reading : desk.reader = some (index, response)) (is : desk.calls[index]? = some call) :
      Change sdk desk .put
        { desk with
          calls := desk.calls.set index { call with box := sdk.put call.box response }
          reader := none }

theorem raised_change {index : Nat} {call : Call Response Box}
    (is : desk.calls[index]? = some call) (was : call.phase.outcome = none) :
    Change sdk desk (.raises index) (desk.raised sdk index call) := by
  unfold Desk.raised
  split_ifs with cleans
  · exact .ends _ index call call.box .raised is was (fun _ response => nomatch response) cleans
  · exact .abandons index call is was (by simpa using cleans)

theorem step_change (moved : desk.step sdk action = some next) : Change sdk desk action next := by
  cases action with
  | call requestId =>
    by_cases used : requestId ∈ desk.calls.map Call.requestId
    · simp only [Desk.step, if_pos used, reduceCtorEq] at moved
    · simp only [Desk.step, if_neg used, Option.some.injEq] at moved
      exact moved ▸ .called requestId used
  | stop => exact Option.some.inj moved ▸ .stops
  | event data =>
    cases reader : desk.reader with
    | some held => simp only [Desk.step, reader, reduceCtorEq] at moved
    | none =>
      cases found : desk.addressed sdk data with
      | none =>
        simp only [Desk.step, reader, found, Option.some.injEq] at moved
        exact moved ▸ .ignores data
      | some address =>
        obtain ⟨index, response⟩ := address
        simp only [Desk.step, reader, found, Option.bind_eq_bind, Option.bind_eq_some_iff] at moved
        obtain ⟨call, is, moved⟩ := moved
        exact Option.some.inj moved ▸ .looksUp data index response call reader found is
  | put =>
    cases reader : desk.reader with
    | none => simp only [Desk.step, reader, reduceCtorEq] at moved
    | some held =>
      obtain ⟨index, response⟩ := held
      simp only [Desk.step, reader, Option.bind_eq_bind, Option.bind_eq_some_iff] at moved
      obtain ⟨call, is, moved⟩ := moved
      exact Option.some.inj moved ▸ .fills index response call reader is
  | sent index =>
    simp only [Desk.step, Option.bind_eq_bind, Option.bind_eq_some_iff] at moved
    obtain ⟨call, is, moved⟩ := moved
    cases was : call.phase <;> simp only [was, reduceCtorEq] at moved
    exact Option.some.inj moved ▸ .sent index call is was
  | raises index =>
    simp only [Desk.step, Option.bind_eq_bind, Option.bind_eq_some_iff] at moved
    obtain ⟨call, is, moved⟩ := moved
    cases was : call.phase <;> simp only [was, reduceCtorEq] at moved
    · exact Option.some.inj moved ▸ raised_change is (by rw [was]; rfl)
    · exact Option.some.inj moved ▸ raised_change is (by rw [was]; rfl)
  | take index =>
    simp only [Desk.step, Option.bind_eq_bind, Option.bind_eq_some_iff] at moved
    obtain ⟨call, is, moved⟩ := moved
    cases was : call.phase <;> simp only [was, reduceCtorEq] at moved
    cases box : sdk.take call.box with
    | none => simp only [box, reduceCtorEq] at moved
    | some taken =>
      obtain ⟨response, left⟩ := taken
      simp only [box] at moved
      refine Option.some.inj moved ▸ .ends _ index call left (.response response) is
        (by rw [was]; rfl) (fun other same => ?_) trivial
      obtain rfl := Outcome.response.inj same
      exact box
  | expire index =>
    simp only [Desk.step, Option.bind_eq_bind, Option.bind_eq_some_iff] at moved
    obtain ⟨call, is, moved⟩ := moved
    cases was : call.phase <;> simp only [was, reduceCtorEq] at moved
    exact Option.some.inj moved ▸ .ends _ index call call.box .timedOut is (by rw [was]; rfl)
      (fun _ response => nomatch response) trivial
  | observeStop index =>
    simp only [Desk.step, Option.bind_eq_bind, Option.bind_eq_some_iff] at moved
    obtain ⟨call, is, moved⟩ := moved
    cases was : call.phase <;> simp only [was, reduceCtorEq] at moved
    by_cases stopped : (desk.stopped && sdk.endsOnStop) = true
    · rw [if_pos stopped] at moved
      exact Option.some.inj moved ▸ .ends _ index call call.box .stopped is (by rw [was]; rfl)
        (fun _ response => nomatch response) trivial
    · rw [if_neg stopped] at moved
      cases moved
  | leave index =>
    simp only [Desk.step, Option.bind_eq_bind, Option.bind_eq_some_iff] at moved
    obtain ⟨call, is, moved⟩ := moved
    cases was : call.phase <;> simp only [was, reduceCtorEq] at moved
    exact Option.some.inj moved ▸ .leaves index call _ is was

/-! ## The map -/

/-- The map has the ids of the calls in progress, each with its own call. -/
structure Listed (desk : Desk Response Box) : Prop where
  owner : ∀ id index, desk.pending id = some index →
    ∃ call, desk.calls[index]? = some call ∧ call.requestId = id ∧ call.phase.inProgress
  entry : ∀ (index : Nat) (call : Call Response Box), desk.calls[index]? = some call →
    call.phase.inProgress → desk.pending call.requestId = some index

theorem Listed.set (listed : Listed desk) {index : Nat} {call : Call Response Box}
    (is : desk.calls[index]? = some call) (new : Call Response Box)
    (same_id : new.requestId = call.requestId)
    (same_progress : new.phase.inProgress = call.phase.inProgress) :
    Listed { desk with calls := desk.calls.set index new } := by
  constructor
  · intro id other found
    obtain ⟨own, own_is, own_id, progress⟩ := listed.owner id other found
    by_cases same : other = index
    · subst same
      obtain rfl := Option.some.inj (is.symm.trans own_is)
      refine ⟨new, ?_, same_id.trans own_id, same_progress.trans progress⟩
      rw [lookup_set is, if_pos rfl]
    · refine ⟨own, ?_, own_id, progress⟩
      rw [lookup_set is, if_neg same, own_is]
  · intro other own own_is progress
    rw [lookup_set is] at own_is
    split_ifs at own_is with same
    · obtain rfl := Option.some.inj own_is
      subst same
      rw [same_id]
      exact listed.entry other call is (same_progress ▸ progress)
    · exact listed.entry other own own_is progress

theorem Listed.called (listed : Listed desk) {requestId : String}
    (unused : requestId ∉ desk.calls.map Call.requestId) (box : Box) :
    Listed { desk with
      calls := desk.calls ++ [⟨requestId, box, .registered, []⟩]
      pending := Function.update desk.pending requestId (some desk.calls.length) } := by
  constructor
  · intro id index found
    rcases update_some found with ⟨rfl, rfl⟩ | ⟨_, before⟩
    · exact ⟨_, List.getElem?_concat_length, rfl, rfl⟩
    · obtain ⟨call, is, own_id, progress⟩ := listed.owner id index before
      exact ⟨call, kept_append _ is, own_id, progress⟩
  · intro index call is progress
    rw [lookup_append] at is
    split_ifs at is with last
    · obtain rfl := Option.some.inj is
      simp [last]
    · have other : call.requestId ≠ requestId := by
        rintro rfl
        exact unused (List.mem_map_of_mem (List.mem_of_getElem? is))
      exact (Function.update_of_ne other _ _).trans (listed.entry index call is progress)

theorem Listed.leaves (listed : Listed desk) {index : Nat} {call : Call Response Box}
    {outcome : Outcome Response} (is : desk.calls[index]? = some call)
    (was : call.phase = .leaving outcome) :
    Listed { desk.setPhase index call (.returned outcome) with
      pending := Function.update desk.pending call.requestId none } := by
  have own := listed.entry index call is (by rw [was]; rfl)
  constructor
  · intro id other found
    have differs : id ≠ call.requestId := by
      rintro rfl
      simp [Function.update_self] at found
    have found : desk.pending id = some other := (Function.update_of_ne differs _ _).symm.trans found
    obtain ⟨owner, owner_is, own_id, progress⟩ := listed.owner id other found
    refine ⟨owner, ?_, own_id, progress⟩
    refine (lookup_set is _ other).trans ?_
    rw [if_neg, owner_is]
    rintro rfl
    obtain rfl := Option.some.inj (is.symm.trans owner_is)
    exact differs own_id.symm
  · intro other owner owner_is progress
    replace owner_is := (lookup_set is _ other).symm.trans owner_is
    split_ifs at owner_is with same
    · obtain rfl := Option.some.inj owner_is
      cases progress
    · have found := listed.entry other owner owner_is progress
      refine (Function.update_of_ne (fun same_id => same ?_) _ _).trans found
      rw [same_id, own] at found
      exact (Option.some.inj found).symm

theorem step_listed (listed : Listed desk) (cleans : Cleans sdk desk action)
    (moved : desk.step sdk action = some next) : Listed next := by
  cases step_change moved with
  | called requestId unused => exact listed.called unused _
  | sent index call is was => exact listed.set is _ rfl (by rw [was]; rfl)
  | ends action index call box outcome is was taken cleans =>
    refine listed.set is _ rfl ?_
    cases phase : call.phase with
    | registered => rfl
    | waiting => rfl
    | leaving old => rw [phase] at was; cases was
    | returned old => rw [phase] at was; cases was
  | abandons index call is was unclean =>
    have cleans : sdk.cleansUp = true := cleans
    rw [cleans] at unclean
    cases unclean
  | stops => exact ⟨listed.owner, listed.entry⟩
  | leaves index call outcome is was => exact listed.leaves is was
  | ignores data => exact listed
  | looksUp data index response call idle found is =>
    have kept := listed.set is { call with seen := call.seen ++ [response] } rfl rfl
    exact ⟨kept.owner, kept.entry⟩
  | fills index response call reading is =>
    have kept := listed.set is { call with box := sdk.put call.box response } rfl rfl
    exact ⟨kept.owner, kept.entry⟩

-- The id of a call that was abandoned stays in the map.
theorem Listed.abandoned (listed : Listed desk) {index : Nat} {call : Call Response Box}
    (is : desk.calls[index]? = some call) (was : call.phase.outcome = none) :
    ¬Served sdk (desk.setPhase index call (.returned .raised)) := by
  intro served
  have progress : call.phase.inProgress := by
    cases phase : call.phase with
    | returned outcome => rw [phase] at was; cases was
    | _ => rfl
  have own := listed.entry index call is progress
  obtain ⟨other, member, same_id, others⟩ :=
    (served.pending call.requestId).mp (Option.isSome_iff_exists.mpr ⟨index, own⟩)
  obtain ⟨place, other_is⟩ := List.mem_iff_getElem?.mp member
  have now := (lookup_set is _ place).symm.trans other_is
  split_ifs at now with same
  · obtain rfl := Option.some.inj now
    cases others
  · have found := listed.entry place other now others
    rw [same_id, own] at found
    exact same (Option.some.inj found).symm

/-! ## The boxes -/

/-- The responses to a call that have come into its box. The reader may hold one more. -/
def Desk.delivered (desk : Desk Response Box) (index : Nat) (call : Call Response Box) :
    List Response :=
  if desk.reader.map Prod.fst = some index then call.seen.dropLast else call.seen

structure Told (sdk : Variant Data Response Box) (desk : Desk Response Box) : Prop where
  own : ∀ (index : Nat) (call : Call Response Box), desk.calls[index]? = some call →
    ∀ response ∈ call.seen, sdk.carries response call.requestId
  reading : ∀ index response, desk.reader = some (index, response) →
    ∃ call, desk.calls[index]? = some call ∧ call.seen.getLast? = some response
  boxes : ∀ (index : Nat) (call : Call Response Box), desk.calls[index]? = some call →
    call.phase.outcome = none → call.box = (desk.delivered index call).foldl sdk.put sdk.empty
  answered : ∀ (index : Nat) (call : Call Response Box), desk.calls[index]? = some call →
    ∀ response, call.phase.outcome = some (.response response) → call.seen.head? = some response

theorem head_of_delivered {index : Nat} {call : Call Response Box} {response : Response}
    (first : (desk.delivered index call).head? = some response) :
    call.seen.head? = some response := by
  unfold Desk.delivered at first
  split_ifs at first
  · cases seen : call.seen with
    | nil => simp [seen] at first
    | cons head rest => cases rest <;> simp_all
  · exact first

theorem Told.set (told : Told sdk desk) {index : Nat} {call : Call Response Box}
    (is : desk.calls[index]? = some call) (new : Call Response Box)
    (same_id : new.requestId = call.requestId) (same_seen : new.seen = call.seen)
    (box : new.phase.outcome = none →
      new.box = (desk.delivered index call).foldl sdk.put sdk.empty)
    (answer : ∀ response, new.phase.outcome = some (.response response) →
      call.seen.head? = some response) :
    Told sdk { desk with calls := desk.calls.set index new } := by
  constructor
  · intro other own own_is
    rw [lookup_set is] at own_is
    split_ifs at own_is with same
    · obtain rfl := Option.some.inj own_is
      rw [same_seen, same_id]
      exact told.own index call is
    · exact told.own other own own_is
  · intro other response held
    obtain ⟨own, own_is, last⟩ := told.reading other response held
    by_cases same : other = index
    · subst same
      obtain rfl := Option.some.inj (is.symm.trans own_is)
      exact ⟨new, by rw [lookup_set is, if_pos rfl], same_seen ▸ last⟩
    · exact ⟨own, by rw [lookup_set is, if_neg same, own_is], last⟩
  · intro other own own_is unended
    rw [lookup_set is] at own_is
    split_ifs at own_is with same
    · obtain rfl := Option.some.inj own_is
      subst same
      have delivered : Desk.delivered { desk with calls := desk.calls.set other new } other new =
          desk.delivered other call := by
        unfold Desk.delivered
        rw [same_seen]
      rw [delivered]
      exact box unended
    · exact told.boxes other own own_is unended
  · intro other own own_is
    rw [lookup_set is] at own_is
    split_ifs at own_is with same
    · obtain rfl := Option.some.inj own_is
      rw [same_seen]
      exact answer
    · exact told.answered other own own_is

theorem Told.called (told : Told sdk desk) (requestId : String) (pending : String → Option Nat) :
    Told sdk { desk with
      calls := desk.calls ++ [⟨requestId, sdk.empty, .registered, []⟩]
      pending := pending } := by
  constructor
  · intro index call is
    rw [lookup_append] at is
    split_ifs at is
    · obtain rfl := Option.some.inj is
      simp
    · exact told.own index call is
  · intro index response held
    obtain ⟨call, is, last⟩ := told.reading index response held
    exact ⟨call, kept_append _ is, last⟩
  · intro index call is unended
    rw [lookup_append] at is
    split_ifs at is
    · obtain rfl := Option.some.inj is
      simp [Desk.delivered]
    · exact told.boxes index call is unended
  · intro index call is response ended
    rw [lookup_append] at is
    split_ifs at is
    · obtain rfl := Option.some.inj is
      cases ended
    · exact told.answered index call is response ended

theorem Told.looksUp (told : Told sdk desk) {index : Nat} {call : Call Response Box}
    {response : Response} (idle : desk.reader = none) (is : desk.calls[index]? = some call)
    (carries : sdk.carries response call.requestId) :
    Told sdk { desk with
      calls := desk.calls.set index { call with seen := call.seen ++ [response] }
      reader := some (index, response) } := by
  constructor
  · intro other own own_is
    rw [lookup_set is] at own_is
    split_ifs at own_is with same
    · obtain rfl := Option.some.inj own_is
      intro seen member
      rcases List.mem_append.mp member with before | last
      · exact told.own index call is seen before
      · rw [List.mem_singleton.mp last]
        exact carries
    · exact told.own other own own_is
  · intro other held reading
    obtain ⟨rfl, rfl⟩ := Prod.mk.inj (Option.some.inj reading)
    exact ⟨_, by rw [lookup_set is, if_pos rfl], List.getLast?_concat⟩
  · intro other own own_is unended
    rw [lookup_set is] at own_is
    split_ifs at own_is with same
    · obtain rfl := Option.some.inj own_is
      have before := told.boxes index call is unended
      simpa [Desk.delivered, idle, same] using before
    · have before := told.boxes other own own_is unended
      simpa [Desk.delivered, idle, Ne.symm same] using before
  · intro other own own_is answer ended
    rw [lookup_set is] at own_is
    split_ifs at own_is with same
    · obtain rfl := Option.some.inj own_is
      have first := told.answered index call is answer ended
      simp [List.head?_append, first]
    · exact told.answered other own own_is answer ended

theorem Told.fills (told : Told sdk desk) {index : Nat} {call : Call Response Box}
    {response : Response} (reading : desk.reader = some (index, response))
    (is : desk.calls[index]? = some call) :
    Told sdk { desk with
      calls := desk.calls.set index { call with box := sdk.put call.box response }
      reader := none } := by
  constructor
  · intro other own own_is
    rw [lookup_set is] at own_is
    split_ifs at own_is with same
    · obtain rfl := Option.some.inj own_is
      exact told.own index call is
    · exact told.own other own own_is
  · exact nofun
  · intro other own own_is unended
    rw [lookup_set is] at own_is
    split_ifs at own_is with same
    · obtain rfl := Option.some.inj own_is
      obtain ⟨held, held_is, last⟩ := told.reading index response reading
      obtain rfl := Option.some.inj (is.symm.trans held_is)
      have before := told.boxes index call is unended
      have split := List.dropLast_append_getLast? response last
      simp only [Desk.delivered, reading, Option.map_some, if_true] at before
      simp only [Desk.delivered, Option.map_none, reduceCtorEq, if_false]
      rw [before, ← split, List.foldl_append, List.dropLast_concat]
      rfl
    · have before := told.boxes other own own_is unended
      simpa [Desk.delivered, reading, Ne.symm same] using before
  · intro other own own_is
    rw [lookup_set is] at own_is
    split_ifs at own_is with same
    · obtain rfl := Option.some.inj own_is
      exact told.answered index call is
    · exact told.answered other own own_is

theorem carries_addressed (listed : Listed desk) {data : Data} {index : Nat} {response : Response}
    (found : desk.addressed sdk data = some (index, response)) :
    ∃ call, desk.calls[index]? = some call ∧ sdk.carries response call.requestId := by
  unfold Desk.addressed at found
  cases read : sdk.read data with
  | none => simp [read] at found
  | some keyed =>
    obtain ⟨id, other⟩ := keyed
    simp only [read, Option.map_eq_some_iff, Prod.mk.injEq] at found
    obtain ⟨place, is_pending, rfl, rfl⟩ := found
    obtain ⟨call, is, rfl, _⟩ := listed.owner id place is_pending
    exact ⟨call, is, sdk.carries_read data _ other read⟩

theorem step_told (listed : Listed desk) (told : Told sdk desk)
    (moved : desk.step sdk action = some next) : Told sdk next := by
  cases step_change moved with
  | called requestId unused => exact told.called requestId _
  | sent index call is was =>
    exact told.set is _ rfl rfl (fun _ => told.boxes index call is (by rw [was]; rfl))
      (fun _ ended => nomatch ended)
  | ends action index call box outcome is was taken cleans =>
    refine told.set is _ rfl rfl (fun unended => nomatch unended) fun response ended => ?_
    obtain rfl : outcome = .response response := Option.some.inj ended
    -- What is in the box is what was delivered, and the call takes the first of it.
    have full := taken response rfl
    have first := sdk.take_put (desk.delivered index call)
    rw [← told.boxes index call is was, full, Option.map_some] at first
    exact head_of_delivered first.symm
  | abandons index call is was unclean =>
    exact told.set is _ rfl rfl (fun unended => nomatch unended) (fun _ ended => nomatch ended)
  | stops => exact ⟨told.own, told.reading, told.boxes, told.answered⟩
  | leaves index call outcome is was =>
    have kept := told.set is { call with phase := .returned outcome } rfl rfl
      (fun unended => nomatch unended) (fun response ended => told.answered index call is response
        (by rw [was]; exact ended))
    exact ⟨kept.own, kept.reading, kept.boxes, kept.answered⟩
  | ignores data => exact told
  | looksUp data index response call idle found is =>
    obtain ⟨other, other_is, carries⟩ := carries_addressed listed found
    obtain rfl := Option.some.inj (is.symm.trans other_is)
    exact told.looksUp idle is carries
  | fills index response call reading is => exact told.fills reading is

theorem served_of_told (listed : Listed desk) (told : Told sdk desk) : Served sdk desk := by
  refine ⟨?_, ?_, ?_, ?_⟩
  · intro call member response ended
    obtain ⟨index, is⟩ := List.mem_iff_getElem?.mp member
    have first := told.answered index call is response ended
    exact ⟨told.own index call is response (List.mem_of_mem_head? first), first⟩
  · intro id
    constructor
    · intro found
      obtain ⟨index, found⟩ := Option.isSome_iff_exists.mp found
      obtain ⟨call, is, own_id, progress⟩ := listed.owner id index found
      exact ⟨call, List.mem_of_getElem? is, own_id, progress⟩
    · rintro ⟨call, member, rfl, progress⟩
      obtain ⟨index, is⟩ := List.mem_iff_getElem?.mp member
      rw [listed.entry index call is progress]
      rfl
  · intro idle data
    cases found : desk.addressed sdk data with
    | none => simp [Desk.step, idle, found]
    | some address =>
      obtain ⟨index, response⟩ := address
      obtain ⟨call, is, _⟩ := carries_addressed listed found
      simp [Desk.step, idle, found, is]
  · intro busy
    obtain ⟨held, reading⟩ := Option.ne_none_iff_exists'.mp busy
    obtain ⟨index, response⟩ := held
    obtain ⟨call, is, _⟩ := told.reading index response reading
    simp [Desk.step, reading, is]

theorem no_call (index : Nat) (call : Call Response Box) :
    (Desk.start : Desk Response Box).calls[index]? ≠ some call := by simp [Desk.start]

theorem start_listed : Listed (Desk.start : Desk Response Box) :=
  ⟨nofun, fun index call is => absurd is (no_call index call)⟩

theorem start_told : Told sdk Desk.start :=
  ⟨fun index call is => absurd is (no_call index call), nofun,
    fun index call is => absurd is (no_call index call),
    fun index call is => absurd is (no_call index call)⟩

theorem served_iff (actions : List (Action Data)) :
    Throughout (Desk.step sdk) (Served sdk) Desk.start actions ↔
      Along (Desk.step sdk) (Cleans sdk) Desk.start actions := by
  have start : Listed (Desk.start : Desk Response Box) ∧ Told sdk Desk.start :=
    ⟨start_listed, start_told⟩
  have keeps (desk : Desk Response Box) (action : Action Data) (next : Desk Response Box)
      (inv : Listed desk ∧ Told sdk desk) (_ : Served sdk desk) (cleans : Cleans sdk desk action)
      (moved : desk.step sdk action = some next) : Listed next ∧ Told sdk next :=
    ⟨step_listed inv.1 cleans moved, step_told inv.1 inv.2 moved⟩
  refine throughout_iff_along keeps ?_ start (served_of_told start.1 start.2)
  intro desk action next inv served moved
  constructor
  · intro after
    cases step_change moved with
    | ends action index call box outcome is was taken cleans => exact cleans
    | abandons index call is was unclean => exact absurd after (inv.1.abandoned is was)
    | _ => trivial
  · intro cleans
    have kept := keeps desk action next inv served cleans moved
    exact served_of_told kept.1 kept.2

end Changes

/-! ## The two SDKs -/

namespace Client

/-- `resolveAssistance`, up to its look into the map. -/
def readResponse (data : Object) : Option (String × Go.AssistanceResponse) :=
  let requestID := Go.stringOf (lookup "request_id" data)
  if requestID = "" then none
  else
    some (requestID,
      { requestID := requestID
        approved := Go.boolOf (lookup "approved" data)
        instruction := Go.stringOf (lookup "instruction" data) })

/-- A channel for one response. A send that finds it full is dropped. -/
def sdk : Variant Object Go.AssistanceResponse (Option Go.AssistanceResponse) where
  read := readResponse
  carries := fun response id => response.requestID = id
  carries_read := by
    intro data id response read
    unfold readResponse at read
    simp only at read
    split_ifs at read
    obtain ⟨rfl, rfl⟩ := Prod.mk.inj (Option.some.inj read)
    rfl
  empty := none
  put := fun channel response => channel.or (some response)
  take := fun channel => channel.map fun response => (response, none)
  take_put := by
    intro responses
    have kept (first : Go.AssistanceResponse) (rest : List Go.AssistanceResponse) :
        rest.foldl (fun channel response => channel.or (some response)) (some first) =
          some first := by
      induction rest with
      | nil => rfl
      | cons response rest ih => exact ih
    cases responses with
    | nil => rfl
    | cons first rest =>
      simp only [List.foldl_cons, Option.none_or, kept]
      rfl
  cleansUp := true
  endsOnStop := true

theorem resolveAssistance_eq (pending : List String) (data : Object) :
    Go.Client.resolveAssistance pending data =
      match readResponse data with
      | some (id, response) => if id ∈ pending then .resolved response else .ignored
      | none => .ignored := by
  by_cases unnamed : Go.stringOf (lookup "request_id" data) = ""
  · simp [Go.Client.resolveAssistance, Go.resolve, readResponse, unnamed]
  · simp [Go.Client.resolveAssistance, Go.resolve, readResponse, unnamed]

end Client

namespace Python

/-- The result list of a call, and whether its event is set. -/
structure Waiter where
  result : List AssistanceResponse
  isSet : Bool

/-- `_dispatch`, up to its look into the map. The keys of the map are strings. -/
def readResponse (payload : List (String × Value)) : Option (String × AssistanceResponse) :=
  match dispatchAssistance payload with
  | .assistance response =>
    match response.requestId with
    | .string id => some (id, response)
    | _ => none
  | _ => none

-- Nobody looks at the list between `append` and `set`.
def sdk : Variant (List (String × Value)) AssistanceResponse Waiter where
  read := readResponse
  carries := fun response id => response.requestId = .string id
  carries_read := by
    intro payload id response read
    unfold readResponse at read
    cases dispatched : dispatchAssistance payload with
    | assistance found =>
      simp only [dispatched] at read
      cases own : found.requestId with
      | string text =>
        simp only [own, Option.some.injEq, Prod.mk.injEq] at read
        obtain ⟨rfl, rfl⟩ := read
        exact own
      | _ => simp [own] at read
    | _ => simp [dispatched] at read
  empty := ⟨[], false⟩
  put := fun waiter response => ⟨waiter.result ++ [response], true⟩
  take := fun waiter =>
    if waiter.isSet then waiter.result.head?.map fun response => (response, waiter) else none
  take_put := by
    intro responses
    have filled (waiter : Waiter) :
        responses.foldl (fun waiter response => ⟨waiter.result ++ [response], true⟩) waiter =
          ⟨waiter.result ++ responses, waiter.isSet || !responses.isEmpty⟩ := by
      induction responses generalizing waiter with
      | nil => simp
      | cons first rest ih => simp [ih]
    rw [filled]
    cases responses <;> rfl
  cleansUp := false
  endsOnStop := false

end Python

/-- Where `send` or `wait` raises, the id of the request stays in `_pending`. -/
def NoneRaises (_ : Desk AssistanceResponse Python.Waiter) :
    Action (List (String × Value)) → Prop
  | .raises _ => False
  | _ => True

theorem requests_served (client device : List (Action (List (String × Value)))) :
    Throughout (Desk.step Client.sdk) (Served Client.sdk) Desk.start client ∧
    (Throughout (Desk.step Python.sdk) (Served Python.sdk) Desk.start device ↔
      Along (Desk.step Python.sdk) NoneRaises Desk.start device) := by
  constructor
  · refine (served_iff client).mpr (Along.always ?_ _ _)
    intro desk action
    cases action <;> simp [Cleans, Client.sdk]
  · have same : Cleans Python.sdk = NoneRaises := by
      funext desk action
      cases action <;> simp [Cleans, NoneRaises, Python.sdk]
    rw [served_iff, same]

/-- `event.wait` raises, as it does for a timeout that is infinite. -/
def endlessWait : List (Action (List (String × Value))) := [.call "r", .sent 0, .raises 0]

theorem endlessWait_listed :
    (∃ final, exec (Desk.step Python.sdk) Desk.start endlessWait = some final ∧
      final.pending "r" = some 0 ∧ final.calls.all fun call => !call.phase.inProgress) ∧
    ¬Throughout (Desk.step Python.sdk) (Served Python.sdk) Desk.start endlessWait := by
  refine ⟨⟨_, rfl, rfl, rfl⟩, fun served => ?_⟩
  obtain ⟨_, called⟩ := served
  obtain ⟨_, sent⟩ := called _ rfl
  obtain ⟨_, raised⟩ := sent _ rfl
  obtain ⟨call, member, _, progress⟩ := ((raised _ rfl).start.pending "r").mp rfl
  obtain rfl := List.mem_singleton.mp member
  cases progress

end SystemScale.Sdk.Assistance
