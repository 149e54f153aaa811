import SystemScale.Cloud.AckService

set_option autoImplicit false

/-!
# What observers of a command are told

`GET /v1/commands/{id}` and its `/stream` read the entry that is stored for the id, and every ACK
writes it.
-/

namespace SystemScale.Cloud

open Runs Lookups

namespace AckService

/-- Every answer so far has the status of the first ACK, and so has the next one. -/
structure Agreed (state : AckService) : Prop where
  told : ∀ answer ∈ state.told, ∃ first, answer.1 = some first ∧
    first.commandID = answer.2.commandID ∧ answer.2.status = first.status
  now : ∀ commandID entry first, state.acks commandID = some entry →
    state.first commandID = some first → entry.status = first.status

/-- An ACK for an id that has an entry has the entry's status. -/
def SameStatus (state : AckService) : Action → Prop
  | .store => ∀ entry found, state.hand = some entry →
      state.acks entry.commandID = some found → entry.status = found.status
  | _ => True

structure Firsts (state : AckService) : Prop where
  known : ∀ commandID, (state.acks commandID).isSome = (state.first commandID).isSome
  named : ∀ commandID first, state.first commandID = some first → first.commandID = commandID
  told : ∀ (index : Nat) client entry, state.clients[index]? = some client →
    client.channel = some entry ∨ client.written = some entry →
    ∃ first, (first, entry) ∈ state.told

section Answers

variable {state next : AckService}

theorem Firsts.found (firsts : Firsts state) {commandID : GoString} {entry : AckEntry}
    (is : state.acks commandID = some entry) :
    ∃ first, state.first commandID = some first ∧ first.commandID = commandID := by
  have known := firsts.known commandID
  rw [is] at known
  obtain ⟨first, here⟩ := Option.isSome_iff_exists.mp known.symm
  exact ⟨first, here, firsts.named commandID first here⟩

theorem Firsts.set (firsts : Firsts state) {index : Nat} {old new : Client}
    (was : state.clients[index]? = some old)
    (entries : ∀ entry, new.channel = some entry ∨ new.written = some entry →
      old.channel = some entry ∨ old.written = some entry) : Firsts (state.set index new) where
  known := firsts.known
  named := firsts.named
  told other client entry is holds := by
    rw [set_clients, lookup_set was] at is
    split_ifs at is
    · obtain rfl := Option.some.inj is
      exact firsts.told index old entry was (entries entry holds)
    · exact firsts.told other client entry is holds

theorem store_firsts (firsts : Firsts state) (entry : AckEntry) :
    Firsts (state.store entry) := by
  constructor
  · intro commandID
    show (Function.update state.acks entry.commandID (some entry) commandID).isSome =
      ((if state.acks entry.commandID = none then
        Function.update state.first entry.commandID (some entry) else state.first) commandID).isSome
    have known := firsts.known commandID
    by_cases same : commandID = entry.commandID
    · subst same
      rw [Function.update_self]
      split_ifs with absent
      · rw [Function.update_self]
      · rw [← known]
        exact (Option.isSome_iff_ne_none.mpr absent).symm
    · rw [Function.update_of_ne same]
      split_ifs
      · rw [Function.update_of_ne same, known]
      · exact known
  · intro commandID first is
    have is : (if state.acks entry.commandID = none then
        Function.update state.first entry.commandID (some entry) else state.first) commandID =
      some first := is
    split_ifs at is
    · rcases update_some is with ⟨rfl, rfl⟩ | ⟨-, is⟩
      · rfl
      · exact firsts.named commandID first is
    · exact firsts.named commandID first is
  · intro index client held is holds
    rw [store, lookup_notifyAll, Option.map_eq_some_iff] at is
    obtain ⟨earlier, was, rfl⟩ := is
    have before (had : earlier.channel = some held ∨ earlier.written = some held) :
        ∃ first, (first, held) ∈ (state.store entry).told := by
      obtain ⟨first, member⟩ := firsts.told index earlier held was had
      exact ⟨first, List.mem_append_left _ member⟩
    split_ifs at holds with waits
    · unfold Client.notify at holds
      split_ifs at holds
      · rcases holds with channel | written
        · obtain rfl := Option.some.inj channel
          exact ⟨_, List.mem_append_right _ (List.mem_map.mpr ⟨index, waits, rfl⟩)⟩
        · exact before (.inr written)
      · exact before holds
    · exact before holds

theorem get_firsts (firsts : Firsts state) {path : GoString}
    (taken : Taken state next (.get path)) : Firsts next := by
  obtain ⟨_, _, _, acks, first, _⟩ := get_same state path taken
  constructor
  · rw [acks, first]
    exact firsts.known
  · rw [first]
    exact firsts.named
  · obtain rfl | rfl := taken
    · unfold handleCommandStream
      split_ifs
      · exact firsts.told
      · split
        next entry stored =>
          intro index client held is holds
          rw [lookup_append] at is
          split_ifs at is
          · obtain rfl := Option.some.inj is
            simp only [reduceCtorEq, false_or, Option.some.injEq] at holds
            exact ⟨_, List.mem_append_right _ (by rw [← holds]; exact List.mem_singleton_self _)⟩
          · obtain ⟨first, member⟩ := firsts.told index client held is holds
            exact ⟨first, List.mem_append_left _ member⟩
        next =>
          intro index client held is holds
          rw [lookup_append] at is
          split_ifs at is
          · obtain rfl := Option.some.inj is
            simp at holds
          · exact firsts.told index client held is holds
    · unfold handleGetCommand
      split_ifs
      · exact firsts.told
      · split
        next =>
          intro index client held is holds
          obtain ⟨first, member⟩ := firsts.told index client held is holds
          exact ⟨first, List.mem_append_left _ member⟩
        next => exact firsts.told

theorem step_firsts {action : Action} (firsts : Firsts state)
    (moved : step state action = some next) : Firsts next := by
  have taken := step_taken moved
  cases action with
  | pass elapsed =>
    obtain rfl := taken
    exact ⟨firsts.known, firsts.named, firsts.told⟩
  | receive data =>
    obtain ⟨_, ⟨ack, _, rfl⟩ | rfl | rfl⟩ := taken <;>
      exact ⟨firsts.known, firsts.named, firsts.told⟩
  | store =>
    obtain ⟨entry, _, rfl⟩ := taken
    exact store_firsts firsts entry
  | tick =>
    obtain ⟨_, rfl⟩ := taken
    exact ⟨firsts.known, firsts.named, firsts.told⟩
  | expire =>
    obtain ⟨ticked, _, rfl⟩ := taken
    refine ⟨?_, ?_, firsts.told⟩
    · intro commandID
      have known := firsts.known commandID
      simp only [AckService.expire]
      split_ifs with kept
      · obtain ⟨entry, is⟩ := Option.isSome_iff_exists.mp kept
        rw [is, ← known, (Option.filter_eq_some_iff.mp is).1]
      · simpa using kept
    · intro commandID first is
      simp only [AckService.expire] at is
      split_ifs at is
      exact firsts.named commandID first is
  | get path => exact get_firsts firsts taken
  | take index =>
    obtain ⟨client, entry, was, channel, _, rfl⟩ := taken
    refine firsts.set was ?_
    rintro other (held | held)
    · cases held
    · exact .inl (channel.trans held)
  | disconnect index =>
    obtain ⟨client, was, _, rfl⟩ := taken
    exact firsts.set was fun _ holds => holds
  | cleanUp index =>
    obtain ⟨client, was, _, rfl⟩ := taken
    have aside : Firsts { state with
        waiters := Function.update state.waiters client.commandID
          ((state.waiters client.commandID).erase index) } :=
      ⟨firsts.known, firsts.named, firsts.told⟩
    exact aside.set was fun _ holds => holds

theorem store_agrees (woken : Woken state) (firsts : Firsts state) (agreed : Agreed state)
    {entry : AckEntry} (hand : state.hand = some entry) :
    Agreed (state.store entry) ↔ SameStatus state .store := by
  constructor
  · intro after other found same is
    obtain rfl := Option.some.inj (hand.symm.trans same)
    obtain ⟨first, here, _⟩ := firsts.found is
    have now := after.now entry.commandID entry first (Function.update_self _ _ _) (by
      rw [store, if_neg (by simp [is])]
      exact here)
    rw [now, agreed.now entry.commandID found first is here]
  · intro same
    constructor
    · intro answer member
      rcases List.mem_append.mp member with before | new
      · exact agreed.told answer before
      · obtain ⟨index, waits, rfl⟩ := List.mem_map.mp new
        have absent : state.acks entry.commandID = none := by
          cases is : state.acks entry.commandID with
          | none => rfl
          | some found =>
            rw [(woken.stored entry.commandID found is).2] at waits
            simp at waits
        refine ⟨entry, ?_, rfl, rfl⟩
        simp [absent]
    · intro commandID found first is here
      have is : Function.update state.acks entry.commandID (some entry) commandID = some found := is
      have here : (if state.acks entry.commandID = none then
          Function.update state.first entry.commandID (some entry) else state.first) commandID =
        some first := here
      rcases update_some is with ⟨rfl, rfl⟩ | ⟨equal, is⟩
      · split_ifs at here with absent
        · rw [Function.update_self] at here
          rw [Option.some.inj here]
        · obtain ⟨earlier, stored⟩ := Option.ne_none_iff_exists'.mp absent
          rw [same found earlier hand stored]
          exact agreed.now found.commandID earlier first stored here
      · refine agreed.now commandID found first is ?_
        split_ifs at here
        · rwa [Function.update_of_ne equal] at here
        · exact here

theorem tell_agrees (woken : Woken state) (firsts : Firsts state) (agreed : Agreed state)
    {commandID : GoString} {entry : AckEntry} (is : state.acks commandID = some entry) :
    Agreed (state.tell entry) where
  told answer member := by
    rcases List.mem_append.mp member with before | last
    · exact agreed.told answer before
    · obtain rfl := List.mem_singleton.mp last
      obtain ⟨rfl, _⟩ := woken.stored commandID entry is
      obtain ⟨first, here, named⟩ := firsts.found is
      exact ⟨first, here, named, agreed.now _ entry first is here⟩
  now := agreed.now

theorem step_agrees {action : Action} (woken : Woken state) (firsts : Firsts state)
    (agreed : Agreed state) (moved : step state action = some next) :
    Agreed next ↔ SameStatus state action := by
  have taken := step_taken moved
  cases action with
  | pass elapsed =>
    obtain rfl := taken
    exact iff_of_true ⟨agreed.told, agreed.now⟩ trivial
  | receive data =>
    obtain ⟨_, ⟨ack, _, rfl⟩ | rfl | rfl⟩ := taken <;>
      exact iff_of_true ⟨agreed.told, agreed.now⟩ trivial
  | store =>
    obtain ⟨entry, hand, rfl⟩ := taken
    exact store_agrees woken firsts agreed hand
  | tick =>
    obtain ⟨_, rfl⟩ := taken
    exact iff_of_true ⟨agreed.told, agreed.now⟩ trivial
  | expire =>
    obtain ⟨ticked, _, rfl⟩ := taken
    refine iff_of_true ⟨agreed.told, ?_⟩ trivial
    intro commandID entry first is here
    simp only [AckService.expire] at here
    split_ifs at here
    exact agreed.now commandID entry first (Option.filter_eq_some_iff.mp is).1 here
  | get path =>
    refine iff_of_true ?_ trivial
    obtain rfl | rfl := taken
    · unfold handleCommandStream
      split_ifs
      · exact agreed
      · split
        next entry is =>
          have told := tell_agrees woken firsts agreed is
          exact ⟨told.told, told.now⟩
        next => exact ⟨agreed.told, agreed.now⟩
    · unfold handleGetCommand
      split_ifs
      · exact agreed
      · split
        next entry is => exact tell_agrees woken firsts agreed is
        next => exact agreed
  | take index =>
    obtain ⟨client, entry, _, _, _, rfl⟩ := taken
    exact iff_of_true ⟨agreed.told, agreed.now⟩ trivial
  | disconnect index =>
    obtain ⟨client, _, _, rfl⟩ := taken
    exact iff_of_true ⟨agreed.told, agreed.now⟩ trivial
  | cleanUp index =>
    obtain ⟨client, _, _, rfl⟩ := taken
    exact iff_of_true ⟨agreed.told, agreed.now⟩ trivial

end Answers

/-- Observers agree exactly in the runs in which later ACKs repeat the status that is stored. -/
theorem observers_agree_iff (actions : List Action) :
    (Throughout step Agreed start actions ↔ Along step SameStatus start actions) ∧
    ∀ state, exec step start actions = some state → Along step SameStatus start actions →
      ∀ (index : Nat) client entry, state.clients[index]? = some client →
        client.channel = some entry ∨ client.written = some entry →
        ∃ first, (some first, entry) ∈ state.told ∧ first.commandID = client.commandID ∧
          entry.status = first.status := by
  have keeps (state : AckService) (action : Action) (next : AckService)
      (good : Woken state ∧ Firsts state) (moved : step state action = some next) :
      Woken next ∧ Firsts next := ⟨step_woken good.1 moved, step_firsts good.2 moved⟩
  have begun : Woken start ∧ Firsts start := by
    refine ⟨start_woken, ?_⟩
    constructor <;> simp [start]
  have exactly : Throughout step Agreed start actions ↔ Along step SameStatus start actions :=
    throughout_iff_along (fun state action next good _ _ moved => keeps state action next good moved)
      (fun state action next good agreed moved => step_agrees good.1 good.2 agreed moved) begun
      (by constructor <;> simp [start])
  refine ⟨exactly, ?_⟩
  intro state ran same index client entry is holds
  obtain ⟨woken, firsts⟩ := exec_invariant keeps begun ran
  have agreed := throughout_iff_prefixes.mp (exactly.mpr same) actions [] state (by simp) ran
  obtain ⟨noted, member⟩ := firsts.told index client entry is holds
  obtain ⟨first, rfl, named, status⟩ := agreed.told _ member
  exact ⟨first, member, named.trans (woken.own index client entry is holds), status⟩

def commandPath : GoString := Utf8.encode "/v1/commands/c1"

-- The vehicle's COMPLETED comes first, the SDK's FAILED second.
def twoAcksRun : List Action :=
  [.receive (c1Message 2), .store, .get commandPath, .receive (c1Message 3), .store,
    .get commandPath]

theorem second_ack_told :
    ∃ state, exec step start twoAcksRun = some state ∧
      state.told = [(some (c1Entry 2 0), c1Entry 2 0), (some (c1Entry 2 0), c1Entry 3 0)] ∧
      (c1Entry 2 0).status = "completed" ∧ (c1Entry 3 0).status = "failed" :=
  ⟨_, rfl, rfl, rfl, rfl⟩

end AckService

end SystemScale.Cloud
