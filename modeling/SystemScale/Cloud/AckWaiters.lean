import SystemScale.Cloud.AckService

set_option autoImplicit false

/-!
# The map of waiters in the REST server

`rs.waiters` is a map of lists. An id without an entry and an id with an empty list read alike, but
only the first takes no room, so the map's keys are kept here beside the lists.
-/

namespace SystemScale.Cloud

open Runs Lookups

/-- A call that has registered and has neither got an entry nor cleaned up. -/
structure Client.Waits (client : Client) : Prop where
  present : client.phase ≠ .gone
  idle : client.channel = none
  silent : client.written = none

namespace AckService

/-- The service, and the ids that have an entry in `rs.waiters`. -/
structure World where
  service : AckService
  present : GoString → Bool

/-- The id under which a request registers its channel. -/
def registers (state : AckService) (path : GoString) : Option GoString :=
  if CommandApi.streamSuffix.isSuffixOf path = true ∧ streamID path ≠ [] ∧
      state.acks (streamID path) = none then
    some (streamID path)
  else none

namespace World

def start : World := ⟨AckService.start, fun _ => false⟩

-- The clean-up writes to the map only where it finds its channel, so it adds no key and deletes
-- none.
def presentAfter (world : World) : Action → GoString → Bool
  | .get path =>
    match world.service.registers path with
    | some commandID => Function.update world.present commandID true
    | none => world.present
  | .store =>
    match world.service.hand with
    | some entry => Function.update world.present entry.commandID false
    | none => world.present
  | _ => world.present

def step (world : World) (action : Action) : Option World :=
  (AckService.step world.service action).map fun service => ⟨service, world.presentAfter action⟩

/-- The map has an entry for the ids for which a call waits, with the channels of these calls. -/
structure Exact (world : World) : Prop where
  entry : ∀ commandID, world.present commandID = true ↔
    ∃ client ∈ world.service.clients, client.commandID = commandID ∧ client.Waits
  list : ∀ commandID index, index ∈ world.service.waiters commandID ↔
    ∃ client, world.service.clients[index]? = some client ∧ client.commandID = commandID ∧
      client.Waits
  distinct : ∀ commandID, (world.service.waiters commandID).Nodup

/-- A call that cleans up is not the last of its list. -/
def LeavesOthers (world : World) : Action → Prop
  | .cleanUp index => ∀ client, world.service.clients[index]? = some client →
      world.service.waiters client.commandID ≠ [index]
  | _ => True

end World

/-! ## Who is on the lists -/

section Lists

variable {state next : AckService} {action : Action}

/-- Nobody on a list has written an answer. -/
def Silent (state : AckService) : Prop :=
  ∀ commandID, ∀ index ∈ state.waiters commandID, ∀ client,
    state.clients[index]? = some client → client.written = none

theorem Silent.set (silent : Silent state) {index : Nat} {old new : Client}
    (was : state.clients[index]? = some old)
    (quiet : ∀ commandID, index ∈ state.waiters commandID → new.written = none) :
    Silent (state.set index new) := by
  intro commandID other waits client is
  rw [set_clients, lookup_set was] at is
  split_ifs at is with here
  · obtain rfl := Option.some.inj is
    exact quiet commandID (here ▸ waits)
  · exact silent commandID other waits client is

theorem waiter_inside (woken : Woken state) {commandID : GoString} {index : Nat}
    (waits : index ∈ state.waiters commandID) : index < state.clients.length := by
  obtain ⟨client, is, _⟩ := woken.empty commandID index waits
  exact (List.getElem?_eq_some_iff.mp is).1

theorem stream_silent (woken : Woken state) (silent : Silent state) (path : GoString) :
    Silent (state.handleCommandStream path) := by
  unfold handleCommandStream
  split_ifs
  · exact silent
  · split
    next entry stored =>
      intro commandID index waits client is
      have waits : index ∈ state.waiters commandID := waits
      have inside := waiter_inside woken waits
      replace is := (lookup_append _ _ index).symm.trans is
      rw [if_neg (by omega)] at is
      exact silent commandID index waits client is
    next absent =>
      intro commandID index waits client is
      replace is := (lookup_append _ _ index).symm.trans is
      rcases (waits_joined state _ commandID index).mp waits with before | ⟨_, last⟩
      · have inside := waiter_inside woken before
        rw [if_neg (by omega)] at is
        exact silent commandID index before client is
      · rw [if_pos last] at is
        exact Option.some.inj is ▸ rfl

theorem step_silent (woken : Woken state) (silent : Silent state)
    (moved : AckService.step state action = some next) : Silent next := by
  have taken := step_taken moved
  cases action with
  | pass elapsed =>
    obtain rfl := taken
    exact silent
  | receive data =>
    obtain ⟨_, ⟨ack, _, rfl⟩ | rfl | rfl⟩ := taken
    · exact silent
    · exact silent
    · exact silent
  | store =>
    obtain ⟨entry, _, rfl⟩ := taken
    intro commandID index waits client is
    have waits : index ∈ Function.update state.waiters entry.commandID [] commandID := waits
    have others : commandID ≠ entry.commandID := by
      rintro rfl
      simp at waits
    rw [Function.update_of_ne others] at waits
    rw [store, lookup_notifyAll, Option.map_eq_some_iff] at is
    obtain ⟨earlier, was, rfl⟩ := is
    have quiet := silent commandID index waits earlier was
    split_ifs
    · unfold Client.notify
      split_ifs <;> exact quiet
    · exact quiet
  | tick =>
    obtain ⟨_, rfl⟩ := taken
    exact silent
  | expire =>
    obtain ⟨ticked, _, rfl⟩ := taken
    exact silent
  | get path =>
    obtain rfl | rfl := taken
    · exact stream_silent woken silent path
    · unfold handleGetCommand
      split_ifs
      · exact silent
      · split <;> exact silent
  | take index =>
    obtain ⟨client, entry, was, channel, waiting, rfl⟩ := taken
    refine silent.set was fun commandID waits => ?_
    obtain ⟨found, is, _, _, idle⟩ := woken.empty commandID index waits
    obtain rfl := Option.some.inj (was.symm.trans is)
    rw [channel] at idle
    cases idle
  | disconnect index =>
    obtain ⟨client, was, waiting, rfl⟩ := taken
    exact silent.set was fun commandID waits => silent commandID index waits client was
  | cleanUp index =>
    obtain ⟨client, was, _, rfl⟩ := taken
    have shorter : Silent { state with
        waiters := Function.update state.waiters client.commandID
          ((state.waiters client.commandID).erase index) } := by
      intro commandID other waits found is
      have waits : other ∈ Function.update state.waiters client.commandID
        ((state.waiters client.commandID).erase index) commandID := waits
      by_cases same : commandID = client.commandID
      · rw [same, Function.update_self] at waits
        exact silent client.commandID other (List.mem_of_mem_erase waits) found is
      · rw [Function.update_of_ne same] at waits
        exact silent commandID other waits found is
    exact shorter.set was fun commandID waits => shorter commandID index waits client was

theorem mem_waiters_iff (woken : Woken state) (silent : Silent state) (commandID : GoString)
    (index : Nat) :
    index ∈ state.waiters commandID ↔
      ∃ client, state.clients[index]? = some client ∧ client.commandID = commandID ∧
        client.Waits := by
  constructor
  · intro waits
    obtain ⟨client, is, named, present, idle⟩ := woken.empty commandID index waits
    exact ⟨client, is, named, present, idle, silent commandID index waits client is⟩
  · rintro ⟨client, is, rfl, waits⟩
    exact woken.listed index client is waits.present waits.idle waits.silent

end Lists

/-! ## Which ids have an entry -/

namespace World

section Entries

variable {world next : World} {action : Action}

/-- An entry for exactly the ids whose list is not empty. -/
def Tight (world : World) : Prop :=
  ∀ commandID, world.present commandID = true ↔ world.service.waiters commandID ≠ []

theorem exact_iff (woken : Woken world.service) (silent : Silent world.service) :
    world.Exact ↔ world.Tight := by
  have nonempty (commandID : GoString) : world.service.waiters commandID ≠ [] ↔
      ∃ client ∈ world.service.clients, client.commandID = commandID ∧ client.Waits := by
    constructor
    · intro filled
      obtain ⟨index, waits⟩ := List.exists_mem_of_ne_nil _ filled
      obtain ⟨client, is, rest⟩ := (mem_waiters_iff woken silent commandID index).mp waits
      exact ⟨client, List.mem_of_getElem? is, rest⟩
    · rintro ⟨client, member, rest⟩
      obtain ⟨index, is⟩ := List.mem_iff_getElem?.mp member
      exact List.ne_nil_of_mem
        ((mem_waiters_iff woken silent commandID index).mpr ⟨client, is, rest⟩)
  constructor
  · intro exact commandID
    exact (exact.entry commandID).trans (nonempty commandID).symm
  · intro tight
    refine ⟨fun commandID => (tight commandID).trans (nonempty commandID), ?_, woken.distinct⟩
    exact mem_waiters_iff woken silent

theorem step_service (moved : step world action = some next) :
    AckService.step world.service action = some next.service ∧
      next.present = world.presentAfter action := by
  obtain ⟨service, taken, rfl⟩ := Option.map_eq_some_iff.mp moved
  exact ⟨taken, rfl⟩

theorem tight_of_same (tight : world.Tight) (waiters : next.service.waiters = world.service.waiters)
    (present : next.present = world.present) : next.Tight := by
  intro commandID
  rw [waiters, present]
  exact tight commandID

theorem registers_waiters (state : AckService) (path : GoString) {after : AckService}
    (taken : AckService.step state (.get path) = some after) :
    after.waiters = match state.registers path with
      | some commandID => Function.update state.waiters commandID
          (state.waiters commandID ++ [state.clients.length])
      | none => state.waiters := by
  unfold AckService.step at taken
  split at taken
  next => simp at taken
  next =>
    simp only at taken
    by_cases stream : CommandApi.streamSuffix.isSuffixOf path = true
    · rw [if_pos stream] at taken
      obtain rfl := Option.some.inj taken
      by_cases unnamed : streamID path = []
      · simp [registers, handleCommandStream, unnamed]
      · cases stored : state.acks (streamID path) with
        | some entry => simp [registers, handleCommandStream, unnamed, stored, tell]
        | none => simp [registers, handleCommandStream, unnamed, stored, stream]
    · rw [if_neg stream] at taken
      obtain rfl := Option.some.inj taken
      have none_registers : state.registers path = none := if_neg fun both => stream both.1
      rw [none_registers]
      unfold handleGetCommand
      split_ifs
      · rfl
      · split <;> rfl

theorem get_tight (tight : world.Tight) {path : GoString}
    (moved : step world (.get path) = some next) : next.Tight := by
  obtain ⟨taken, present⟩ := step_service moved
  have waiters := registers_waiters world.service path taken
  rw [presentAfter] at present
  cases registered : world.service.registers path with
  | none =>
    rw [registered] at waiters present
    exact tight_of_same tight waiters present
  | some own =>
    rw [registered] at waiters present
    intro commandID
    rw [waiters, present]
    by_cases same : commandID = own
    · simp [same]
    · simp only [Function.update_of_ne same]
      exact tight commandID

theorem store_tight (tight : world.Tight) (moved : step world .store = some next) :
    next.Tight := by
  obtain ⟨taken, present⟩ := step_service moved
  obtain ⟨entry, hand, is⟩ := step_taken taken
  simp only [presentAfter, hand] at present
  have waiters : next.service.waiters =
      Function.update world.service.waiters entry.commandID [] := by rw [is]; rfl
  intro commandID
  rw [waiters, present]
  by_cases same : commandID = entry.commandID
  · simp [same]
  · simp only [Function.update_of_ne same]
    exact tight commandID

-- Taking a member out leaves an empty list only where there was no other.
theorem erase_clears_iff {waiters : List Nat} {index : Nat} (filled : waiters ≠ []) :
    waiters.erase index = [] ↔ waiters = [index] := by
  constructor
  · intro cleared
    rcases (List.erase_eq_nil_iff).mp cleared with empty | one
    · exact absurd empty filled
    · exact one
  · rintro rfl
    simp

theorem cleanUp_tight (tight : world.Tight) {index : Nat}
    (moved : step world (.cleanUp index) = some next) :
    next.Tight ↔ world.LeavesOthers (.cleanUp index) := by
  obtain ⟨taken, present⟩ := step_service moved
  obtain ⟨client, was, _, is⟩ := step_taken taken
  simp only [presentAfter] at present
  have waiters : next.service.waiters = Function.update world.service.waiters client.commandID
      ((world.service.waiters client.commandID).erase index) := by rw [is]; rfl
  constructor
  · intro after found found_is last
    obtain rfl := Option.some.inj (was.symm.trans found_is)
    have kept := (after client.commandID).mp (by rw [present, tight, last]; simp)
    rw [waiters, Function.update_self, last] at kept
    simp at kept
  · intro leaves commandID
    rw [waiters, present]
    by_cases same : commandID = client.commandID
    · rw [same, Function.update_self, tight]
      by_cases filled : world.service.waiters client.commandID = []
      · simp [filled]
      · refine iff_of_true filled fun cleared => ?_
        exact leaves client was ((erase_clears_iff filled).mp cleared)
    · rw [Function.update_of_ne same]
      exact tight commandID

theorem step_tight (tight : world.Tight) (moved : step world action = some next) :
    next.Tight ↔ world.LeavesOthers action := by
  obtain ⟨taken, present⟩ := step_service moved
  have changed := step_taken taken
  cases action with
  | cleanUp index => exact cleanUp_tight tight moved
  | get path => exact iff_of_true (get_tight tight moved) trivial
  | store => exact iff_of_true (store_tight tight moved) trivial
  | receive data =>
    refine iff_of_true (tight_of_same tight ?_ present) trivial
    obtain ⟨_, ⟨ack, _, is⟩ | is | is⟩ := changed <;> rw [is]
  | expire =>
    obtain ⟨ticked, _, is⟩ := changed
    exact iff_of_true (tight_of_same tight (by rw [is]; rfl) present) trivial
  | take index =>
    obtain ⟨client, entry, _, _, _, is⟩ := changed
    exact iff_of_true (tight_of_same tight (by rw [is]; rfl) present) trivial
  | disconnect index =>
    obtain ⟨client, _, _, is⟩ := changed
    exact iff_of_true (tight_of_same tight (by rw [is]; rfl) present) trivial
  | pass elapsed => exact iff_of_true (tight_of_same tight (by rw [changed]) present) trivial
  | tick => exact iff_of_true (tight_of_same tight (by rw [changed.2]) present) trivial

end Entries

/-- The map is exact in the runs in which every call that leaves without an ACK leaves another
channel on its list. -/
theorem waiters_exact_iff (actions : List Action) :
    Throughout step Exact start actions ↔ Along step LeavesOthers start actions := by
  have keeps (world : World) (action : Action) (next : World)
      (inv : Woken world.service ∧ Silent world.service) (moved : step world action = some next) :
      Woken next.service ∧ Silent next.service :=
    have taken := (step_service moved).1
    ⟨step_woken inv.1 taken, step_silent inv.1 inv.2 taken⟩
  have begun : Woken start.service ∧ Silent start.service :=
    ⟨start_woken, fun _ _ waits => nomatch waits⟩
  refine throughout_iff_along (fun world action next inv _ _ moved => keeps world action next inv moved)
    ?_ begun ((exact_iff begun.1 begun.2).mpr fun commandID => by simp [start, AckService.start])
  intro world action next inv exact moved
  obtain ⟨woken, silent⟩ := keeps world action next inv moved
  rw [exact_iff woken silent]
  exact step_tight ((exact_iff inv.1 inv.2).mp exact) moved

/-- A client asks for an id that nobody acknowledges, and leaves. -/
def departure : List Action :=
  [.get (Utf8.encode "/v1/commands/c1/stream"), .disconnect 0, .cleanUp 0]

theorem departure_leaves_entry :
    (∃ final, exec step start departure = some final ∧
      final.present (Utf8.encode "c1") = true ∧
      final.service.waiters (Utf8.encode "c1") = [] ∧
      final.service.clients.map Client.phase = [.gone]) ∧
    ¬Throughout step Exact start departure := by
  have ran : ∃ final, exec step start departure = some final ∧
      final.present (Utf8.encode "c1") = true ∧
      final.service.waiters (Utf8.encode "c1") = [] ∧
      final.service.clients.map Client.phase = [.gone] := ⟨_, rfl, rfl, rfl, rfl⟩
  refine ⟨ran, fun exact => ?_⟩
  obtain ⟨final, taken, present, _, phases⟩ := ran
  have last := throughout_iff_prefixes.mp exact departure [] final (by simp) taken
  obtain ⟨client, member, _, waits⟩ := (last.entry _).mp present
  have phase := List.mem_map_of_mem (f := Client.phase) member
  rw [phases, List.mem_singleton] at phase
  exact waits.present phase

end World

end AckService

end SystemScale.Cloud
