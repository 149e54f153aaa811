import SystemScale.Lib.Lookups
import SystemScale.Cloud.CommandService

set_option autoImplicit false

/-!
# The REST server's ACKs

The ACK consumer, the expiry ticker and a goroutine for each `/stream` request; a step is what one
of them does under the lock or between two locks. Clients are named by their place in the order of
their requests.
-/

namespace SystemScale.Cloud

open Runs Lookups

inductive ClientPhase where
  | waiting
  -- Its select is over, and its clean-up is yet to take the lock.
  | leaving
  | gone
  deriving DecidableEq

structure Client where
  commandID : GoString
  phase : ClientPhase
  channel : Option AckEntry
  written : Option AckEntry

/-- `first` and `told` are no part of the program: the entry that was stored when there was none for
the id, and what requests were answered with while it was there. -/
structure AckService where
  acks : GoString → Option AckEntry
  waiters : GoString → List Nat
  clients : List Client
  -- What the ACK consumer is about to store.
  hand : Option AckEntry
  clock : Nat
  -- When the ticker fired, if it is yet to take the lock.
  ticked : Option Nat
  first : GoString → Option AckEntry
  told : List (Option AckEntry × AckEntry)
  up : Bool

inductive AckService.Action where
  | pass (elapsed : Nat)
  | receive (data : List UInt8)
  | store
  | tick
  | expire
  | get (path : GoString)
  | take (client : Nat)
  | disconnect (client : Nat)
  | cleanUp (client : Nat)

-- Five minutes, in nanoseconds.
def ackLifetime : Nat := 300000000000

-- `select` with a default: what does not fit is dropped.
def Client.notify (client : Client) (entry : AckEntry) : Client :=
  if client.channel = none then { client with channel := some entry } else client

def AckEntry.expired (entry : AckEntry) (ticked : Nat) : Prop :=
  entry.receivedAt + ackLifetime < ticked

instance (entry : AckEntry) (ticked : Nat) : Decidable (entry.expired ticked) :=
  inferInstanceAs (Decidable (_ < _))

namespace AckService

def start : AckService := ⟨fun _ => none, fun _ => [], [], none, 0, none, fun _ => none, [], true⟩

def set (state : AckService) (index : Nat) (client : Client) : AckService :=
  { state with clients := state.clients.set index client }

def notifyAll (clients : List Client) (waiters : List Nat) (entry : AckEntry) : List Client :=
  waiters.foldl (fun clients index => clients.modify index fun client => client.notify entry) clients

def tell (state : AckService) (entry : AckEntry) : AckService :=
  { state with told := state.told ++ [(state.first entry.commandID, entry)] }

def getID (path : GoString) : GoString := CommandApi.trimPrefix path CommandApi.commandsPath

def streamID (path : GoString) : GoString :=
  CommandApi.trimSuffix (CommandApi.trimPrefix path CommandApi.commandsPath) CommandApi.streamSuffix

def handleGetCommand (state : AckService) (path : GoString) : AckService :=
  if getID path = [] then state
  else
    match state.acks (getID path) with
    | some entry => state.tell entry
    | none => state

def handleCommandStream (state : AckService) (path : GoString) : AckService :=
  if streamID path = [] then state
  else
    match state.acks (streamID path) with
    | some entry =>
      { state.tell entry with
        clients := state.clients ++ [⟨streamID path, .gone, none, some entry⟩] }
    | none =>
      { state with
        clients := state.clients ++ [⟨streamID path, .waiting, none, none⟩]
        waiters := Function.update state.waiters (streamID path)
          (state.waiters (streamID path) ++ [state.clients.length]) }

def store (state : AckService) (entry : AckEntry) : AckService :=
  let first :=
    if state.acks entry.commandID = none then
      Function.update state.first entry.commandID (some entry)
    else state.first
  { state with
    hand := none
    acks := Function.update state.acks entry.commandID (some entry)
    clients := notifyAll state.clients (state.waiters entry.commandID) entry
    waiters := Function.update state.waiters entry.commandID []
    first
    told := state.told ++
      (state.waiters entry.commandID).map fun _ => (first entry.commandID, entry) }

def expire (state : AckService) (ticked : Nat) : AckService :=
  let acks := fun commandID => (state.acks commandID).filter fun entry => !entry.expired ticked
  { state with
    ticked := none
    acks
    first := fun commandID => if (acks commandID).isSome then state.first commandID else none }

def step (state : AckService) (action : Action) : Option AckService :=
  if state.up = false then none
  else
    match action with
    | .pass elapsed => some { state with clock := state.clock + elapsed }
    | .receive data =>
      if state.hand = none then
        match decodeCommandAck data with
        | .ok ack => some { state with hand := some (ack.entry state.clock) }
        | .err _ => some state
        -- The panic of a goroutine ends the process.
        | .panic => some { state with up := false }
        | .hang => none
      else none
    | .store => state.hand.map state.store
    | .tick => if state.ticked = none then some { state with ticked := some state.clock } else none
    | .expire => state.ticked.map state.expire
    | .get path =>
      if CommandApi.streamSuffix.isSuffixOf path then some (state.handleCommandStream path)
      else some (state.handleGetCommand path)
    | .take index => do
      let client ← state.clients[index]?
      let entry ← client.channel
      if client.phase = .waiting then
        some (state.set index
          { client with phase := .leaving, channel := none, written := some entry })
      else none
    | .disconnect index => do
      let client ← state.clients[index]?
      if client.phase = .waiting then some (state.set index { client with phase := .leaving })
      else none
    | .cleanUp index => do
      let client ← state.clients[index]?
      if client.phase = .leaving then
        some ({ state with
          waiters := Function.update state.waiters client.commandID
            ((state.waiters client.commandID).erase index)
          }.set index { client with phase := .gone })
      else none

/-! ## What one step does -/

def Taken (state next : AckService) : Action → Prop
  | .pass elapsed => next = { state with clock := state.clock + elapsed }
  | .receive data => state.hand = none ∧
      ((∃ ack, decodeCommandAck data = .ok ack ∧
          next = { state with hand := some (ack.entry state.clock) }) ∨
        next = state ∨ next = { state with up := false })
  | .store => ∃ entry, state.hand = some entry ∧ next = state.store entry
  | .tick => state.ticked = none ∧ next = { state with ticked := some state.clock }
  | .expire => ∃ ticked, state.ticked = some ticked ∧ next = state.expire ticked
  | .get path => next = state.handleCommandStream path ∨ next = state.handleGetCommand path
  | .take index => ∃ client entry, state.clients[index]? = some client ∧
      client.channel = some entry ∧ client.phase = .waiting ∧
      next = state.set index
        { client with phase := .leaving, channel := none, written := some entry }
  | .disconnect index => ∃ client, state.clients[index]? = some client ∧
      client.phase = .waiting ∧ next = state.set index { client with phase := .leaving }
  | .cleanUp index => ∃ client, state.clients[index]? = some client ∧ client.phase = .leaving ∧
      next = { state with
        waiters := Function.update state.waiters client.commandID
          ((state.waiters client.commandID).erase index)
        }.set index { client with phase := .gone }

theorem step_taken {state next : AckService} {action : Action}
    (taken : step state action = some next) : Taken state next action := by
  unfold step at taken
  split at taken
  next => simp at taken
  next =>
    cases action with
    | pass elapsed => exact (Option.some.inj taken).symm
    | receive data =>
      simp only at taken
      split_ifs at taken with free
      refine ⟨free, ?_⟩
      cases decoded : decodeCommandAck data with
      | ok ack =>
        rw [decoded] at taken
        exact .inl ⟨ack, rfl, (Option.some.inj taken).symm⟩
      | err message =>
        rw [decoded] at taken
        exact .inr (.inl (Option.some.inj taken).symm)
      | panic =>
        rw [decoded] at taken
        exact .inr (.inr (Option.some.inj taken).symm)
      | hang => simp [decoded] at taken
    | store =>
      obtain ⟨entry, hand, is⟩ := Option.map_eq_some_iff.mp taken
      exact ⟨entry, hand, is.symm⟩
    | tick =>
      simp only at taken
      split_ifs at taken with free
      exact ⟨free, (Option.some.inj taken).symm⟩
    | expire =>
      obtain ⟨ticked, is, done⟩ := Option.map_eq_some_iff.mp taken
      exact ⟨ticked, is, done.symm⟩
    | get path =>
      simp only at taken
      split_ifs at taken
      · exact .inl (Option.some.inj taken).symm
      · exact .inr (Option.some.inj taken).symm
    | take index =>
      obtain ⟨client, was, taken⟩ := Option.bind_eq_some_iff.mp taken
      obtain ⟨entry, channel, taken⟩ := Option.bind_eq_some_iff.mp taken
      split_ifs at taken with waiting
      exact ⟨client, entry, was, channel, waiting, (Option.some.inj taken).symm⟩
    | disconnect index =>
      obtain ⟨client, was, taken⟩ := Option.bind_eq_some_iff.mp taken
      split_ifs at taken with waiting
      exact ⟨client, was, waiting, (Option.some.inj taken).symm⟩
    | cleanUp index =>
      obtain ⟨client, was, taken⟩ := Option.bind_eq_some_iff.mp taken
      split_ifs at taken with leaving
      exact ⟨client, was, leaving, (Option.some.inj taken).symm⟩

/-! ## Waking the clients -/

theorem notify_notify (client : Client) (entry : AckEntry) :
    (client.notify entry).notify entry = client.notify entry := by
  unfold Client.notify
  split_ifs <;> simp_all

theorem lookup_notifyAll (clients : List Client) (waiters : List Nat) (entry : AckEntry)
    (index : Nat) :
    (notifyAll clients waiters entry)[index]? = (clients[index]?).map fun client =>
      if index ∈ waiters then client.notify entry else client := by
  unfold notifyAll
  induction waiters generalizing clients with
  | nil => simp
  | cons waiter rest ih =>
    rw [List.foldl_cons, ih, List.getElem?_modify, Option.map_eq_map, Option.map_map]
    refine Option.map_congr fun client _ => ?_
    by_cases here : waiter = index <;> by_cases later : index ∈ rest <;>
      simp [here, later, Ne.symm, notify_notify]

@[simp] theorem set_clients (state : AckService) (index : Nat) (client : Client) :
    (state.set index client).clients = state.clients.set index client := rfl

/-! ## No lost wake-up -/

/-- A client without an entry is among the waiters of its id exactly once, and nobody waits for an
id that has an entry. -/
structure Woken (state : AckService) : Prop where
  listed : ∀ (index : Nat) client, state.clients[index]? = some client → client.phase ≠ .gone →
    client.channel = none → client.written = none → index ∈ state.waiters client.commandID
  empty : ∀ commandID, ∀ index ∈ state.waiters commandID, ∃ client,
    state.clients[index]? = some client ∧ client.commandID = commandID ∧ client.phase ≠ .gone ∧
      client.channel = none
  distinct : ∀ commandID, (state.waiters commandID).Nodup
  own : ∀ (index : Nat) client entry, state.clients[index]? = some client →
    client.channel = some entry ∨ client.written = some entry → entry.commandID = client.commandID
  stored : ∀ commandID entry, state.acks commandID = some entry →
    entry.commandID = commandID ∧ state.waiters commandID = []

section Wakes

variable {state next : AckService}

theorem Woken.same (woken : Woken state) (waiters : next.waiters = state.waiters)
    (clients : next.clients = state.clients)
    (fewer : ∀ commandID entry, next.acks commandID = some entry →
      state.acks commandID = some entry) : Woken next where
  listed := by
    rw [waiters, clients]
    exact woken.listed
  empty := by
    rw [waiters, clients]
    exact woken.empty
  distinct := by
    rw [waiters]
    exact woken.distinct
  own := by
    rw [clients]
    exact woken.own
  stored commandID entry is := by
    rw [waiters]
    exact woken.stored commandID entry (fewer commandID entry is)

theorem Woken.set (woken : Woken state) {index : Nat} {old new : Client}
    (was : state.clients[index]? = some old) (same : new.commandID = old.commandID)
    (entries : ∀ entry, new.channel = some entry ∨ new.written = some entry →
      old.channel = some entry ∨ old.written = some entry)
    (listed : new.phase ≠ .gone → new.channel = none → new.written = none →
      old.phase ≠ .gone ∧ old.channel = none ∧ old.written = none)
    (empty : ∀ commandID, index ∈ state.waiters commandID →
      new.phase ≠ .gone ∧ new.channel = none) : Woken (state.set index new) where
  listed other client is present idle silent := by
    rw [set_clients, lookup_set was] at is
    split_ifs at is with here
    · obtain rfl := Option.some.inj is
      obtain ⟨was_present, was_idle, was_silent⟩ := listed present idle silent
      rw [same, here]
      exact woken.listed index old was was_present was_idle was_silent
    · exact woken.listed other client is present idle silent
  empty commandID other waits := by
    obtain ⟨client, is, named, rest⟩ := woken.empty commandID other waits
    rw [set_clients, lookup_set was]
    by_cases here : other = index
    · subst here
      obtain rfl := Option.some.inj (was.symm.trans is)
      exact ⟨new, if_pos rfl, same.trans named, empty commandID waits⟩
    · exact ⟨client, (if_neg here).trans is, named, rest⟩
  distinct := woken.distinct
  own other client entry is holds := by
    rw [set_clients, lookup_set was] at is
    split_ifs at is with here
    · obtain rfl := Option.some.inj is
      rw [same]
      exact woken.own index old entry was (entries entry holds)
    · exact woken.own other client entry is holds
  stored := woken.stored

theorem store_woken (woken : Woken state) (entry : AckEntry) : Woken (state.store entry) := by
  have waiting (index : Nat) (client : Client) (is : state.clients[index]? = some client)
      (waits : index ∈ state.waiters entry.commandID) : client.commandID = entry.commandID := by
    obtain ⟨found, was, named, _⟩ := woken.empty entry.commandID index waits
    obtain rfl := Option.some.inj (was.symm.trans is)
    exact named
  have before {index : Nat} {client : Client}
      (is : (state.store entry).clients[index]? = some client) :
      ∃ earlier, state.clients[index]? = some earlier ∧
        client = if index ∈ state.waiters entry.commandID then earlier.notify entry else earlier := by
    rw [store, lookup_notifyAll, Option.map_eq_some_iff] at is
    obtain ⟨earlier, was, rfl⟩ := is
    exact ⟨earlier, was, rfl⟩
  constructor
  · intro index client is present idle silent
    obtain ⟨earlier, was, rfl⟩ := before is
    split_ifs at present idle silent ⊢ with waits
    · unfold Client.notify at idle
      split_ifs at idle with free
      exact absurd idle free
    · have differs : earlier.commandID ≠ entry.commandID := by
        intro equal
        exact waits (equal ▸ woken.listed index earlier was present idle silent)
      show index ∈ Function.update state.waiters entry.commandID [] earlier.commandID
      rw [Function.update_of_ne differs]
      exact woken.listed index earlier was present idle silent
  · intro commandID index waits
    have waits : index ∈ Function.update state.waiters entry.commandID [] commandID := waits
    by_cases same : commandID = entry.commandID
    · subst same
      simp at waits
    · rw [Function.update_of_ne same] at waits
      obtain ⟨client, is, named, rest⟩ := woken.empty commandID index waits
      have elsewhere : index ∉ state.waiters entry.commandID := by
        intro here
        exact same (named.symm.trans (waiting index client is here))
      refine ⟨client, ?_, named, rest⟩
      rw [store, lookup_notifyAll, is, Option.map_some, if_neg elsewhere]
  · intro commandID
    show (Function.update state.waiters entry.commandID [] commandID).Nodup
    by_cases same : commandID = entry.commandID
    · subst same
      simp
    · rw [Function.update_of_ne same]
      exact woken.distinct commandID
  · intro index client held is holds
    obtain ⟨earlier, was, rfl⟩ := before is
    split_ifs at holds ⊢ with waits
    · have named := waiting index earlier was waits
      unfold Client.notify at holds ⊢
      split_ifs at holds ⊢ with free
      · rcases holds with channel | written
        · obtain rfl := Option.some.inj channel
          exact named.symm
        · exact woken.own index earlier held was (.inr written)
      · exact woken.own index earlier held was holds
    · exact woken.own index earlier held was holds
  · intro commandID found is
    have is : Function.update state.acks entry.commandID (some entry) commandID = some found := is
    show found.commandID = commandID ∧ Function.update state.waiters entry.commandID [] commandID = []
    by_cases same : commandID = entry.commandID
    · subst same
      rw [Function.update_self] at is ⊢
      obtain rfl := Option.some.inj is
      exact ⟨rfl, rfl⟩
    · rw [Function.update_of_ne same] at is ⊢
      exact woken.stored commandID found is

theorem Woken.answered (woken : Woken state) {commandID : GoString} {entry : AckEntry}
    (stored : state.acks commandID = some entry) :
    Woken { state with clients := state.clients ++ [⟨commandID, .gone, none, some entry⟩] } where
  listed index client is present := by
    rw [lookup_append] at is
    split_ifs at is
    · obtain rfl := Option.some.inj is
      exact absurd rfl present
    · exact woken.listed index client is present
  empty other index waits := by
    obtain ⟨client, is, rest⟩ := woken.empty other index waits
    exact ⟨client, kept_append _ is, rest⟩
  distinct := woken.distinct
  own index client held is holds := by
    rw [lookup_append] at is
    split_ifs at is
    · obtain rfl := Option.some.inj is
      simp only [reduceCtorEq, false_or, Option.some.injEq] at holds
      rw [← holds, (woken.stored commandID entry stored).1]
    · exact woken.own index client held is holds
  stored := woken.stored

theorem waits_joined (state : AckService) (commandID other : GoString) (index : Nat) :
    index ∈ Function.update state.waiters commandID
        (state.waiters commandID ++ [state.clients.length]) other ↔
      index ∈ state.waiters other ∨ other = commandID ∧ index = state.clients.length := by
  by_cases same : other = commandID
  · rw [same, Function.update_self, List.mem_append, List.mem_singleton]
    simp
  · rw [Function.update_of_ne same]
    simp [same]

theorem Woken.joined (woken : Woken state) {commandID : GoString}
    (absent : state.acks commandID = none) :
    Woken { state with
      clients := state.clients ++ [⟨commandID, .waiting, none, none⟩]
      waiters := Function.update state.waiters commandID
        (state.waiters commandID ++ [state.clients.length]) } where
  listed index client is present idle silent := by
    rw [lookup_append] at is
    rw [waits_joined]
    split_ifs at is with last
    · obtain rfl := Option.some.inj is
      exact .inr ⟨rfl, last⟩
    · exact .inl (woken.listed index client is present idle silent)
  empty other index waits := by
    rcases (waits_joined state commandID other index).mp waits with earlier | ⟨rfl, rfl⟩
    · obtain ⟨client, is, rest⟩ := woken.empty other index earlier
      exact ⟨client, kept_append _ is, rest⟩
    · exact ⟨_, by rw [lookup_append, if_pos rfl], rfl, by simp, rfl⟩
  distinct other := by
    show (Function.update state.waiters commandID _ other).Nodup
    by_cases same : other = commandID
    · rw [same, Function.update_self, List.nodup_append]
      refine ⟨woken.distinct _, by simp, ?_⟩
      intro index waits last is
      obtain ⟨client, found, _⟩ := woken.empty _ index waits
      have inside := (List.getElem?_eq_some_iff.mp found).1
      have is := List.mem_singleton.mp is
      omega
    · rw [Function.update_of_ne same]
      exact woken.distinct other
  own index client held is holds := by
    rw [lookup_append] at is
    split_ifs at is
    · obtain rfl := Option.some.inj is
      simp at holds
    · exact woken.own index client held is holds
  stored other entry is := by
    obtain ⟨named, none_wait⟩ := woken.stored other entry is
    have differs : other ≠ commandID := by
      rintro rfl
      rw [absent] at is
      cases is
    exact ⟨named, (Function.update_of_ne differs _ _).trans none_wait⟩

theorem commandStream_woken (woken : Woken state) (path : GoString) :
    Woken (state.handleCommandStream path) := by
  unfold handleCommandStream
  split_ifs
  · exact woken
  · split
    next entry stored =>
      have told : Woken (state.tell entry) := woken.same rfl rfl fun _ _ is => is
      exact told.answered stored
    next absent => exact woken.joined absent

theorem cleanUp_woken (woken : Woken state) {index : Nat} {client : Client}
    (was : state.clients[index]? = some client) :
    Woken ({ state with
      waiters := Function.update state.waiters client.commandID
        ((state.waiters client.commandID).erase index)
      }.set index { client with phase := .gone }) := by
  have waiters (commandID : GoString) (other : Nat) :
      other ∈ Function.update state.waiters client.commandID
          ((state.waiters client.commandID).erase index) commandID ↔
        other ∈ state.waiters commandID ∧ other ≠ index := by
    by_cases same : commandID = client.commandID
    · subst same
      rw [Function.update_self, (woken.distinct _).mem_erase_iff, and_comm]
    · rw [Function.update_of_ne same]
      refine ⟨fun waits => ⟨waits, ?_⟩, And.left⟩
      rintro rfl
      obtain ⟨found, is, named, _⟩ := woken.empty commandID other waits
      obtain rfl := Option.some.inj (was.symm.trans is)
      exact same named.symm
  constructor
  · intro other found is present idle silent
    rw [set_clients, lookup_set was] at is
    split_ifs at is with here
    · obtain rfl := Option.some.inj is
      exact absurd rfl present
    · exact (waiters _ _).mpr ⟨woken.listed other found is present idle silent, here⟩
  · intro commandID other waits
    obtain ⟨waits, here⟩ := (waiters commandID other).mp waits
    obtain ⟨found, is, rest⟩ := woken.empty commandID other waits
    exact ⟨found, by rw [set_clients, lookup_set was, if_neg here, is], rest⟩
  · intro commandID
    show (Function.update state.waiters client.commandID _ commandID).Nodup
    by_cases same : commandID = client.commandID
    · subst same
      rw [Function.update_self]
      exact (woken.distinct _).erase index
    · rw [Function.update_of_ne same]
      exact woken.distinct commandID
  · intro other found entry is holds
    rw [set_clients, lookup_set was] at is
    split_ifs at is with here
    · obtain rfl := Option.some.inj is
      exact woken.own index client entry was holds
    · exact woken.own other found entry is holds
  · intro commandID entry is
    obtain ⟨named, none_wait⟩ := woken.stored commandID entry is
    refine ⟨named, ?_⟩
    rw [List.eq_nil_iff_forall_not_mem]
    intro other waits
    have here := ((waiters commandID other).mp waits).1
    rw [none_wait] at here
    simp at here

theorem step_woken {action : Action} (woken : Woken state)
    (moved : step state action = some next) : Woken next := by
  have taken := step_taken moved
  cases action with
  | pass elapsed =>
    obtain rfl := taken
    exact woken.same rfl rfl fun _ _ is => is
  | receive data =>
    obtain ⟨_, ⟨ack, _, rfl⟩ | rfl | rfl⟩ := taken
    · exact woken.same rfl rfl fun _ _ is => is
    · exact woken
    · exact woken.same rfl rfl fun _ _ is => is
  | store =>
    obtain ⟨entry, _, rfl⟩ := taken
    exact store_woken woken entry
  | tick =>
    obtain ⟨_, rfl⟩ := taken
    exact woken.same rfl rfl fun _ _ is => is
  | expire =>
    obtain ⟨ticked, _, rfl⟩ := taken
    exact woken.same rfl rfl fun _ _ is => (Option.filter_eq_some_iff.mp is).1
  | get path =>
    obtain rfl | rfl := taken
    · exact commandStream_woken woken path
    · unfold handleGetCommand
      split_ifs
      · exact woken
      · split
        next => exact woken.same rfl rfl fun _ _ is => is
        next => exact woken
  | take index =>
    obtain ⟨client, entry, was, channel, waiting, rfl⟩ := taken
    refine woken.set was rfl ?_ (by simp) ?_
    · rintro other (held | held)
      · cases held
      · exact .inl (channel.trans held)
    · intro commandID waits
      obtain ⟨found, is, _, _, idle⟩ := woken.empty commandID index waits
      obtain rfl := Option.some.inj (was.symm.trans is)
      rw [channel] at idle
      cases idle
  | disconnect index =>
    obtain ⟨client, was, waiting, rfl⟩ := taken
    refine woken.set was rfl (fun _ holds => holds) ?_ ?_
    · exact fun _ idle silent => ⟨by simp [waiting], idle, silent⟩
    · intro commandID waits
      obtain ⟨found, is, _, _, idle⟩ := woken.empty commandID index waits
      obtain rfl := Option.some.inj (was.symm.trans is)
      exact ⟨by simp, idle⟩
  | cleanUp index =>
    obtain ⟨client, was, _, rfl⟩ := taken
    exact cleanUp_woken woken was

end Wakes

/-! ## Entries that have not expired -/

/-- The consumer stores entries in the order of their times, and none is from the future. -/
structure Timely (state : AckService) : Prop where
  stored : ∀ commandID entry, state.acks commandID = some entry → entry.receivedAt ≤ state.clock ∧
    ∀ later, state.hand = some later → entry.receivedAt ≤ later.receivedAt
  hand : ∀ entry, state.hand = some entry → entry.receivedAt ≤ state.clock
  ticked : ∀ ticked, state.ticked = some ticked → ticked ≤ state.clock

section Times

variable {state next : AckService}

theorem Timely.same (timely : Timely state) (clock : next.clock = state.clock)
    (hand : next.hand = state.hand) (ticked : next.ticked = state.ticked)
    (acks : next.acks = state.acks) : Timely next := by
  constructor
  · rw [acks, clock, hand]
    exact timely.stored
  · rw [hand, clock]
    exact timely.hand
  · rw [ticked, clock]
    exact timely.ticked

theorem get_same (state : AckService) (path : GoString) {next : AckService}
    (is : next = state.handleCommandStream path ∨ next = state.handleGetCommand path) :
    next.clock = state.clock ∧ next.hand = state.hand ∧ next.ticked = state.ticked ∧
      next.acks = state.acks ∧ next.first = state.first ∧ next.up = state.up := by
  rcases is with rfl | rfl
  · unfold handleCommandStream
    split_ifs
    · exact ⟨rfl, rfl, rfl, rfl, rfl, rfl⟩
    · split <;> exact ⟨rfl, rfl, rfl, rfl, rfl, rfl⟩
  · unfold handleGetCommand
    split_ifs
    · exact ⟨rfl, rfl, rfl, rfl, rfl, rfl⟩
    · split <;> exact ⟨rfl, rfl, rfl, rfl, rfl, rfl⟩

theorem step_timely {action : Action} (timely : Timely state)
    (moved : step state action = some next) : Timely next := by
  have taken := step_taken moved
  cases action with
  | pass elapsed =>
    obtain rfl := taken
    constructor
    · intro commandID entry is
      obtain ⟨before, later⟩ := timely.stored commandID entry is
      exact ⟨Nat.le_add_right_of_le before, later⟩
    · exact fun entry is => Nat.le_add_right_of_le (timely.hand entry is)
    · exact fun ticked is => Nat.le_add_right_of_le (timely.ticked ticked is)
  | receive data =>
    obtain ⟨_, ⟨ack, _, rfl⟩ | rfl | rfl⟩ := taken
    · constructor
      · intro commandID entry is
        have before := (timely.stored commandID entry is).1
        refine ⟨before, fun later hand => ?_⟩
        obtain rfl := Option.some.inj hand
        exact before
      · intro entry hand
        obtain rfl := Option.some.inj hand
        exact Nat.le_refl _
      · exact timely.ticked
    · exact timely
    · exact timely.same rfl rfl rfl rfl
  | store =>
    obtain ⟨entry, hand, rfl⟩ := taken
    constructor
    · intro commandID found is
      have is : Function.update state.acks entry.commandID (some entry) commandID = some found := is
      refine ⟨?_, fun later none => by cases none⟩
      rcases update_some is with ⟨-, rfl⟩ | ⟨-, is⟩
      · exact timely.hand found hand
      · exact (timely.stored commandID found is).1
    · exact fun later none => by cases none
    · exact timely.ticked
  | tick =>
    obtain ⟨_, rfl⟩ := taken
    exact ⟨timely.stored, timely.hand, fun ticked is => Nat.le_of_eq (Option.some.inj is).symm⟩
  | expire =>
    obtain ⟨ticked, _, rfl⟩ := taken
    refine ⟨?_, timely.hand, fun other none => by cases none⟩
    exact fun commandID entry is => timely.stored commandID entry (Option.filter_eq_some_iff.mp is).1
  | get path =>
    obtain ⟨clock, hand, ticked, acks, _⟩ := get_same state path taken
    exact timely.same clock hand ticked acks
  | take index =>
    obtain ⟨client, entry, _, _, _, rfl⟩ := taken
    exact timely.same rfl rfl rfl rfl
  | disconnect index =>
    obtain ⟨client, _, _, rfl⟩ := taken
    exact timely.same rfl rfl rfl rfl
  | cleanUp index =>
    obtain ⟨client, _, _, rfl⟩ := taken
    exact timely.same rfl rfl rfl rfl

/-- The id has an entry at least as new as the given one. -/
def StoredSince (commandID : GoString) (since : Nat) (state : AckService) : Prop :=
  state.clock ≤ since + ackLifetime →
    ∃ entry, state.acks commandID = some entry ∧ since ≤ entry.receivedAt

theorem step_storedSince {action : Action} (timely : Timely state)
    (moved : step state action = some next) {commandID : GoString} {since : Nat}
    (stored : StoredSince commandID since state) : StoredSince commandID since next := by
  have taken := step_taken moved
  cases action with
  | pass elapsed =>
    obtain rfl := taken
    exact fun young => stored (Nat.le_of_add_right_le young)
  | receive data =>
    obtain ⟨_, ⟨ack, _, rfl⟩ | rfl | rfl⟩ := taken <;> exact stored
  | store =>
    obtain ⟨entry, hand, rfl⟩ := taken
    intro young
    obtain ⟨found, is, since_found⟩ := stored young
    show ∃ entry', Function.update state.acks entry.commandID (some entry) commandID = some entry' ∧ _
    by_cases same : commandID = entry.commandID
    · refine ⟨entry, by rw [same, Function.update_self], ?_⟩
      exact since_found.trans ((timely.stored commandID found is).2 entry hand)
    · exact ⟨found, by rw [Function.update_of_ne same, is], since_found⟩
  | tick =>
    obtain ⟨_, rfl⟩ := taken
    exact stored
  | expire =>
    obtain ⟨ticked, fired, rfl⟩ := taken
    intro young
    obtain ⟨found, is, since_found⟩ := stored young
    have past := timely.ticked ticked fired
    have young : state.clock ≤ since + ackLifetime := young
    refine ⟨found, Option.filter_eq_some_iff.mpr ⟨is, ?_⟩, since_found⟩
    rw [Bool.not_eq_true', decide_eq_false_iff_not]
    unfold AckEntry.expired
    omega
  | get path =>
    obtain ⟨clock, _, _, acks, _⟩ := get_same state path taken
    unfold StoredSince
    rw [clock, acks]
    exact stored
  | take index =>
    obtain ⟨client, entry, _, _, _, rfl⟩ := taken
    exact stored
  | disconnect index =>
    obtain ⟨client, _, _, rfl⟩ := taken
    exact stored
  | cleanUp index =>
    obtain ⟨client, _, _, rfl⟩ := taken
    exact stored

theorem StoredSince.later {commandID : GoString} {since : Nat} {more : List Action}
    (stored : StoredSince commandID since state) (timely : Timely state)
    (went : exec step state more = some next) : StoredSince commandID since next := by
  have keeps (before : AckService) (action : Action) (after : AckService)
      (holds : Timely before ∧ StoredSince commandID since before)
      (moved : step before action = some after) :
      Timely after ∧ StoredSince commandID since after :=
    ⟨step_timely holds.1 moved, step_storedSince holds.1 moved holds.2⟩
  exact (exec_invariant keeps ⟨timely, stored⟩ went).2

end Times

/-! ## What a client has it keeps -/

section Clients

variable {state next : AckService}

def Got (state : AckService) (index : Nat) (entry : AckEntry) : Prop :=
  ∃ client, state.clients[index]? = some client ∧
    (client.channel = some entry ∨ client.written = some entry ∧ client.phase ≠ .waiting)

theorem Got.set {place : Nat} {old new : Client} {index : Nat} {entry : AckEntry}
    (got : Got state index entry) (was : state.clients[place]? = some old)
    (keeps : old.channel = some entry ∨ old.written = some entry ∧ old.phase ≠ .waiting →
      new.channel = some entry ∨ new.written = some entry ∧ new.phase ≠ .waiting) :
    Got (state.set place new) index entry := by
  obtain ⟨client, is, holds⟩ := got
  unfold Got
  rw [set_clients, lookup_set was]
  by_cases here : index = place
  · subst here
    obtain rfl := Option.some.inj (was.symm.trans is)
    exact ⟨new, if_pos rfl, keeps holds⟩
  · exact ⟨client, (if_neg here).trans is, holds⟩

theorem step_got {action : Action} {index : Nat} {entry : AckEntry} (got : Got state index entry)
    (moved : step state action = some next) : Got next index entry := by
  have taken := step_taken moved
  cases action with
  | pass elapsed =>
    obtain rfl := taken
    exact got
  | receive data =>
    obtain ⟨_, ⟨ack, _, rfl⟩ | rfl | rfl⟩ := taken <;> exact got
  | store =>
    obtain ⟨stored, _, rfl⟩ := taken
    obtain ⟨client, is, holds⟩ := got
    unfold Got
    rw [store, lookup_notifyAll, is]
    refine ⟨_, rfl, ?_⟩
    dsimp only
    split_ifs
    · unfold Client.notify
      split_ifs with free
      · rw [free] at holds
        exact .inr (holds.resolve_left (by simp))
      · exact holds
    · exact holds
  | tick =>
    obtain ⟨_, rfl⟩ := taken
    exact got
  | expire =>
    obtain ⟨ticked, _, rfl⟩ := taken
    exact got
  | get path =>
    obtain ⟨client, is, holds⟩ := got
    obtain rfl | rfl := taken
    · unfold handleCommandStream
      split_ifs
      · exact ⟨client, is, holds⟩
      · split
        next => exact ⟨client, kept_append _ is, holds⟩
        next => exact ⟨client, kept_append _ is, holds⟩
    · unfold handleGetCommand
      split_ifs
      · exact ⟨client, is, holds⟩
      · split <;> exact ⟨client, is, holds⟩
  | take place =>
    obtain ⟨client, taken, was, channel, waiting, rfl⟩ := taken
    refine got.set was ?_
    rintro (held | ⟨_, done⟩)
    · exact .inr ⟨channel.symm.trans held, by simp⟩
    · exact absurd waiting done
  | disconnect place =>
    obtain ⟨client, was, waiting, rfl⟩ := taken
    exact got.set was fun holds => holds.imp id fun done => ⟨done.1, by simp⟩
  | cleanUp place =>
    obtain ⟨client, was, _, rfl⟩ := taken
    have aside : Got { state with
        waiters := Function.update state.waiters client.commandID
          ((state.waiters client.commandID).erase place) } index entry := got
    exact aside.set was fun holds => holds.imp id fun done => ⟨done.1, by simp⟩

theorem Got.forever {more : List Action} {index : Nat} {entry : AckEntry}
    (got : Got state index entry) (went : exec step state more = some next) :
    Got next index entry := by
  have keeps (before : AckService) (action : Action) (after : AckService)
      (got : Got before index entry) (moved : step before action = some after) :
      Got after index entry := step_got got moved
  exact exec_invariant keeps got went

end Clients

theorem start_woken : Woken start := by
  constructor <;> simp [start]

theorem start_timely : Timely start := by
  constructor <;> simp [start]

theorem stream_answered {state : AckService} {path : GoString} {entry : AckEntry}
    (up : state.up = true) (streams : CommandApi.streamSuffix.isSuffixOf path = true)
    (named : streamID path ≠ []) (is : state.acks (streamID path) = some entry) :
    ∃ next, step state (.get path) = some next ∧
      next.clients[state.clients.length]? = some ⟨streamID path, .gone, none, some entry⟩ := by
  refine ⟨state.handleCommandStream path, by simp [step, up, streams], ?_⟩
  unfold handleCommandStream
  rw [if_neg named, is]
  exact (lookup_append _ _ _).trans (if_pos rfl)

/-- Every client that waits when the ACK for its command is stored gets it, whoever comes before it
expired is answered at once, and nobody gets the ACK of another command. -/
theorem no_lost_wakeup (actions : List Action) (state : AckService)
    (ran : exec step start actions = some state) :
    (∀ entry next, state.hand = some entry → step state .store = some next →
      (∀ (index : Nat) client, state.clients[index]? = some client →
        client.commandID = entry.commandID → client.phase ≠ .gone → client.channel = none →
        client.written = none →
        next.clients[index]? = some { client with channel := some entry } ∧
          ∀ more later, exec step next more = some later → Got later index entry) ∧
      ∀ more later, exec step next more = some later →
        later.clock ≤ entry.receivedAt + ackLifetime → later.up = true →
        ∀ path, CommandApi.streamSuffix.isSuffixOf path = true → streamID path = entry.commandID →
          entry.commandID ≠ [] →
          ∃ answered found, step later (.get path) = some answered ∧
            found.commandID = entry.commandID ∧ entry.receivedAt ≤ found.receivedAt ∧
            answered.clients[later.clients.length]? =
              some ⟨entry.commandID, .gone, none, some found⟩) ∧
    ∀ (index : Nat) client entry, state.clients[index]? = some client →
      client.channel = some entry ∨ client.written = some entry →
      entry.commandID = client.commandID := by
  have keeps (before : AckService) (action : Action) (after : AckService)
      (good : Woken before ∧ Timely before) (moved : step before action = some after) :
      Woken after ∧ Timely after := ⟨step_woken good.1 moved, step_timely good.2 moved⟩
  have good : Woken state ∧ Timely state := exec_invariant keeps ⟨start_woken, start_timely⟩ ran
  refine ⟨?_, good.1.own⟩
  intro entry next hand moved
  have after := keeps state .store next good moved
  obtain ⟨found, same, stored⟩ := step_taken moved
  obtain rfl := Option.some.inj (hand.symm.trans same)
  constructor
  · intro index client is named present idle silent
    have waits := good.1.listed index client is present idle silent
    rw [named] at waits
    have woken : next.clients[index]? = some { client with channel := some entry } := by
      rw [stored, store, lookup_notifyAll, is, Option.map_some, if_pos waits, Client.notify,
        if_pos idle]
    exact ⟨woken, fun more later went => Got.forever ⟨_, woken, .inl rfl⟩ went⟩
  · intro more later went young up path streams asked named
    have since : StoredSince entry.commandID entry.receivedAt next := by
      intro _
      rw [stored]
      exact ⟨entry, Function.update_self _ _ _, Nat.le_refl _⟩
    obtain ⟨woken, _⟩ := exec_invariant keeps after went
    obtain ⟨held, is, newer⟩ := since.later after.2 went young
    rw [← asked] at is named
    obtain ⟨answered, moved, written⟩ := stream_answered up streams named is
    rw [← asked]
    exact ⟨answered, held, moved, (woken.stored _ _ is).1, newer, written⟩

/-- CommandAck{command_id "c1", status}. -/
def c1Message (status : UInt8) : List UInt8 := [0x0A, 2, 0x63, 0x31, 0x18, status]

def c1Entry (status : Int32) (receivedAt : Nat) : AckEntry :=
  (CommandAck.mk (Utf8.encode "c1") [] status [] 0).entry receivedAt

def streamPath : GoString := Utf8.encode "/v1/commands/c1/stream"

theorem waiting_client_woken :
    ∃ state next, exec step start [.get streamPath, .pass 5, .receive (c1Message 2)] = some state ∧
      step state .store = some next ∧
      next.clients[0]? = some ⟨Utf8.encode "c1", .waiting, some (c1Entry 2 5), none⟩ :=
  ⟨_, _, rfl, rfl, (((no_lost_wakeup [.get streamPath, .pass 5, .receive (c1Message 2)] _ rfl).1
    (c1Entry 2 5) _ rfl rfl).1 0 ⟨Utf8.encode "c1", .waiting, none, none⟩ rfl rfl (by simp) rfl rfl).1⟩

end AckService

end SystemScale.Cloud
