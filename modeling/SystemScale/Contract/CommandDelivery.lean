import Mathlib.Data.List.Nodup
import Mathlib.Logic.Function.Basic
import SystemScale.Lib.Runs

set_option autoImplicit false

/-!
# A command's way to the vehicle

command-api publishes to JetStream, a forwarder in each region puts messages on the channels of
vehicle sessions, and the agents dispatch what arrives. Times are in milliseconds.
-/

namespace SystemScale.Contract

open Runs

/-- What an operator sends. `commandId` is the operator's own, empty where none is given. -/
structure Request where
  operator : String
  vehicleId : String
  commandId : String
  deriving DecidableEq

/-- What is published. `commandId` numbers the UUIDs drawn, which are all distinct. -/
structure Message where
  request : Request
  commandId : Nat
  sentAt : Nat
  deriving DecidableEq

structure Session where
  vehicleId : String
  channel : List Message
  wire : List Message
  isOpen : Bool

inductive Settlement where
  | waiting
  | outstanding
  | acked
  deriving DecidableEq

structure Consumed where
  settlement : Settlement
  deliveries : Nat

/-- Messages are named by their place in the stream. Acknowledgments are on their way until they
arrive, if ever. -/
structure Forwarder where
  buffer : List Nat
  acks : List Nat
  naks : List Nat

/-- Consumers and forwarders are given by region. `forwarded` are the messages ever put on a
channel. -/
structure Delivery where
  now : Nat
  nextId : Nat
  stream : List Message
  consumers : String → Nat → Consumed
  forwarders : String → Forwarder
  registry : String → String → Option Nat
  sessions : List Session
  received : List Message
  dispatched : List Message
  forwarded : List Message

inductive Delivery.Action where
  | send (request : Request)
  | pass (duration : Nat)
  | deliver (region : String) (index : Nat)
  | forward (region : String)
  | ackArrives (region : String) (index : Nat)
  | nakArrives (region : String) (index : Nat)
  | ackWaitExpires (region : String) (index : Nat)
  | connect (region vehicleId : String)
  | unregister (region vehicleId : String)
  | close (session : Nat)
  | write (session : Nat)
  | receive (session : Nat)
  -- The agent cannot decode the envelope, and skips it.
  | skip (session : Nat)
  | dispatch (vehicleId : String)

def maxDeliver : Nat := 5

def channelCapacity : Nat := 64

def duplicateWindow : Nat := 2 * 60 * 1000

namespace Delivery

def start : Delivery where
  now := 0
  nextId := 0
  stream := []
  consumers _ _ := ⟨.waiting, 0⟩
  forwarders _ := ⟨[], [], []⟩
  registry _ _ := none
  sessions := []
  received := []
  dispatched := []
  forwarded := []

/-- JetStream stores a message unless it has its id from less than two minutes ago. -/
def publish (state : Delivery) (message : Message) : Delivery :=
  if state.stream.any fun stored =>
      stored.commandId = message.commandId ∧ message.sentAt ≤ stored.sentAt + duplicateWindow then
    state
  else { state with stream := state.stream ++ [message] }

def setConsumed (state : Delivery) (region : String) (index : Nat) (consumed : Consumed) :
    Delivery :=
  { state with
    consumers := Function.update state.consumers region
      (Function.update (state.consumers region) index consumed) }

def setForwarder (state : Delivery) (region : String) (forwarder : Forwarder) : Delivery :=
  { state with forwarders := Function.update state.forwarders region forwarder }

def setRegistered (state : Delivery) (region vehicleId : String) (session : Option Nat) :
    Delivery :=
  { state with
    registry := Function.update state.registry region
      (Function.update (state.registry region) vehicleId session) }

def addSession (state : Delivery) (session : Session) : Delivery :=
  { state with sessions := state.sessions ++ [session] }

def setSession (state : Delivery) (index : Nat) (session : Session) : Delivery :=
  { state with sessions := state.sessions.set index session }

/-- The subject is `command.` and the vehicle; one with more tokens is not forwarded. -/
def plainSubject (vehicleId : String) : Bool :=
  vehicleId ≠ "" && !vehicleId.toList.contains '.'

/-- The session whose channel takes the message: registered in the region, open and not full. -/
def target (state : Delivery) (region : String) (message : Message) : Option (Nat × Session) := do
  let index ← state.registry region message.request.vehicleId
  let session ← state.sessions[index]?
  if session.isOpen ∧ session.channel.length < channelCapacity then some (index, session) else none

def step (state : Delivery) : Action → Option Delivery
  -- The operator's id is replaced before the message is built.
  | .send request => some
      ({ state with nextId := state.nextId + 1 }.publish ⟨request, state.nextId, state.now⟩)
  | .pass duration => some { state with now := state.now + duration }
  | .deliver region index =>
    let consumed := state.consumers region index
    if index < state.stream.length ∧ consumed.settlement = .waiting ∧
        consumed.deliveries < maxDeliver then
      let forwarder := state.forwarders region
      some ((state.setConsumed region index ⟨.outstanding, consumed.deliveries + 1⟩).setForwarder
        region { forwarder with buffer := forwarder.buffer ++ [index] })
    else none
  | .forward region =>
    let forwarder := state.forwarders region
    match forwarder.buffer with
    | [] => none
    | index :: buffer => do
      let message ← state.stream[index]?
      if plainSubject message.request.vehicleId then
        match state.target region message with
        | some (place, session) =>
          let sent := state.setSession place { session with channel := session.channel ++ [message] }
          some ({ sent with forwarded := state.forwarded ++ [message] }.setForwarder region
            { forwarder with buffer, acks := forwarder.acks ++ [index] })
        | none =>
          some (state.setForwarder region { forwarder with buffer, naks := forwarder.naks ++ [index] })
      else some (state.setForwarder region { forwarder with buffer, acks := forwarder.acks ++ [index] })
  | .ackArrives region index =>
    let forwarder := state.forwarders region
    if index ∈ forwarder.acks then
      some ((state.setConsumed region index
          ⟨.acked, (state.consumers region index).deliveries⟩).setForwarder region
        { forwarder with acks := forwarder.acks.erase index })
    else none
  | .nakArrives region index =>
    let forwarder := state.forwarders region
    if index ∈ forwarder.naks ∧ (state.consumers region index).settlement = .outstanding then
      some ((state.setConsumed region index
          ⟨.waiting, (state.consumers region index).deliveries⟩).setForwarder region
        { forwarder with naks := forwarder.naks.erase index })
    else none
  | .ackWaitExpires region index =>
    if (state.consumers region index).settlement = .outstanding then
      some (state.setConsumed region index ⟨.waiting, (state.consumers region index).deliveries⟩)
    else none
  | .connect region vehicleId => some
      ((state.addSession ⟨vehicleId, [], [], true⟩).setRegistered region vehicleId
        (some state.sessions.length))
  | .unregister region vehicleId => some (state.setRegistered region vehicleId none)
  | .close index => do
    let session ← state.sessions[index]?
    some (state.setSession index { session with channel := [], wire := [], isOpen := false })
  | .write index => do
    let session ← state.sessions[index]?
    match session.channel with
    | [] => none
    | message :: channel =>
      some (state.setSession index { session with channel, wire := session.wire ++ [message] })
  | .receive index => do
    let session ← state.sessions[index]?
    match session.wire with
    | [] => none
    | message :: wire =>
      some { state.setSession index { session with wire } with
        received := state.received ++ [message] }
  | .skip index => do
    let session ← state.sessions[index]?
    match session.wire with
    | [] => none
    | _ :: wire => some (state.setSession index { session with wire })
  | .dispatch vehicleId => do
    -- Each agent takes its own vehicle's commands in order.
    let message ← state.received.find? fun message => message.request.vehicleId = vehicleId
    some { state with
      received := state.received.erase message
      dispatched := state.dispatched ++ [message] }

/-! ## What is promised -/

/-- One published command, or an operator's retry within two minutes. -/
def SameCommand (first second : Message) : Prop :=
  first.commandId = second.commandId ∨
    (first.request = second.request ∧ first.request.commandId ≠ "" ∧
      first.sentAt ≤ second.sentAt + duplicateWindow ∧
      second.sentAt ≤ first.sentAt + duplicateWindow)

def DispatchedOnce (state : Delivery) : Prop :=
  state.dispatched.Pairwise fun first second => ¬ SameCommand first second

/-- Operators do not retry within the window, and no message is put on a channel twice. -/
def Single (state : Delivery) : Action → Prop
  | .send request => request.commandId ≠ "" → ∀ message ∈ state.stream,
      message.request = request → message.sentAt + duplicateWindow < state.now
  | .forward region => ∀ index ∈ (state.forwarders region).buffer.head?,
      ∀ message ∈ state.stream[index]?, (state.target region message).isSome →
        message ∉ state.forwarded
  | _ => True

/-! ## Runs that are single -/

/-- The messages on their way from a forwarder, or dispatched. -/
def places (state : Delivery) : List Message :=
  (state.sessions.flatMap fun session => session.channel ++ session.wire) ++
    (state.received ++ state.dispatched)

structure Sound (state : Delivery) : Prop where
  drawn : ∀ message ∈ state.stream, message.commandId < state.nextId
  past : ∀ message ∈ state.stream, message.sentAt ≤ state.now
  apart : ∀ first ∈ state.stream, ∀ second ∈ state.stream,
    SameCommand first second → first = second
  stored : ∀ message ∈ state.forwarded, message ∈ state.stream
  once : ∀ message, state.places.count message ≤ 1
  left : ∀ message, 0 < state.places.count message → message ∈ state.forwarded

theorem SameCommand.symm {first second : Message} (same : SameCommand first second) :
    SameCommand second first := by
  rcases same with number | ⟨request, given, before, after⟩
  · exact .inl number.symm
  · exact .inr ⟨request.symm, request ▸ given, after, before⟩

theorem Sound.dispatchedOnce {state : Delivery} (sound : Sound state) :
    DispatchedOnce state := by
  have nodup : state.places.Nodup := List.nodup_iff_count.mpr sound.once
  have sublist : state.dispatched.Sublist state.places :=
    (List.sublist_append_right _ _).trans (List.sublist_append_right _ _)
  have inStream {message : Message} (member : message ∈ state.dispatched) :
      message ∈ state.stream :=
    sound.stored message (sound.left message (List.count_pos_iff.mpr (sublist.subset member)))
  refine (nodup.sublist sublist).imp_of_mem ?_
  intro first second firstIn secondIn differ same
  exact differ (sound.apart first (inStream firstIn) second (inStream secondIn) same)

theorem Sound.moved {state next : Delivery} (sound : Sound state)
    (nextId : next.nextId = state.nextId) (now : state.now ≤ next.now)
    (stream : next.stream = state.stream) (forwarded : next.forwarded = state.forwarded)
    (fewer : ∀ message, next.places.count message ≤ state.places.count message) : Sound next := by
  constructor
  · rw [stream, nextId]
    exact sound.drawn
  · intro message member
    rw [stream] at member
    exact Nat.le_trans (sound.past message member) now
  · rw [stream]
    exact sound.apart
  · rw [stream, forwarded]
    exact sound.stored
  · intro message
    exact Nat.le_trans (fewer message) (sound.once message)
  · intro message held
    rw [forwarded]
    exact sound.left message (Nat.lt_of_lt_of_le held (fewer message))

theorem count_set_flatMap {sessions : List Session} {index : Nat} {old : Session}
    (was : sessions[index]? = some old) (new : Session) (message : Message) :
    ((sessions.set index new).flatMap fun session => session.channel ++ session.wire).count
        message + (old.channel.count message + old.wire.count message) =
      (sessions.flatMap fun session => session.channel ++ session.wire).count message +
        (new.channel.count message + new.wire.count message) := by
  induction sessions generalizing index with
  | nil => simp at was
  | cons first rest ih =>
    cases index with
    | zero =>
      obtain rfl := Option.some.inj was
      simp only [List.set_cons_zero, List.flatMap_cons, List.count_append]
      omega
    | succ index =>
      have later := @ih index was
      simp only [List.set_cons_succ, List.flatMap_cons, List.count_append] at later ⊢
      omega

theorem count_places (state : Delivery) (message : Message) :
    state.places.count message =
      (state.sessions.flatMap fun session => session.channel ++ session.wire).count message +
        (state.received.count message + state.dispatched.count message) := by
  simp [places, List.count_append]

theorem send_sound {state next : Delivery} {request : Request} (sound : Sound state)
    (single : Single state (.send request)) (taken : step state (.send request) = some next) :
    Sound next := by
  obtain rfl := Option.some.inj taken
  have moved : Sound { state with nextId := state.nextId + 1 } := by
    refine ⟨?_, sound.past, sound.apart, sound.stored, sound.once, sound.left⟩
    intro message member
    exact Nat.lt_succ_of_lt (sound.drawn message member)
  unfold publish
  split_ifs
  · exact moved
  · have new (message : Message) (member : message ∈ state.stream) :
        ¬ SameCommand message ⟨request, state.nextId, state.now⟩ := by
      have drawn := sound.drawn message member
      rintro (number | ⟨same, given, _, recent⟩)
      · exact Nat.lt_irrefl _ (number ▸ drawn)
      · have same : message.request = request := same
        have waited := single (same ▸ given) message member same
        exact Nat.lt_irrefl _ (Nat.lt_of_lt_of_le waited recent)
    constructor
    · intro message member
      rcases List.mem_append.mp member with old | last
      · exact Nat.lt_succ_of_lt (sound.drawn message old)
      · obtain rfl := List.mem_singleton.mp last
        exact Nat.lt_succ_self _
    · intro message member
      rcases List.mem_append.mp member with old | last
      · exact sound.past message old
      · obtain rfl := List.mem_singleton.mp last
        exact Nat.le_refl _
    · intro first firstIn second secondIn same
      rcases List.mem_append.mp firstIn with firstOld | firstLast
      · rcases List.mem_append.mp secondIn with secondOld | secondLast
        · exact sound.apart first firstOld second secondOld same
        · obtain rfl := List.mem_singleton.mp secondLast
          exact absurd same (new first firstOld)
      · obtain rfl := List.mem_singleton.mp firstLast
        rcases List.mem_append.mp secondIn with secondOld | secondLast
        · exact absurd same.symm (new second secondOld)
        · exact (List.mem_singleton.mp secondLast).symm
    · intro message member
      exact List.mem_append_left _ (sound.stored message member)
    · exact sound.once
    · exact sound.left

theorem target_session {state : Delivery} {region : String} {message : Message} {place : Nat}
    {session : Session} (found : state.target region message = some (place, session)) :
    state.sessions[place]? = some session := by
  simp only [target, Option.bind_eq_bind, Option.bind_eq_some_iff] at found
  obtain ⟨index, _, found⟩ := found
  obtain ⟨there, is, found⟩ := found
  split_ifs at found
  obtain ⟨rfl, rfl⟩ := Prod.mk.inj (Option.some.inj found)
  exact is

theorem forward_sound {state next : Delivery} {region : String} (sound : Sound state)
    (single : Single state (.forward region)) (taken : step state (.forward region) = some next) :
    Sound next := by
  simp only [step] at taken
  split at taken
  next => cases taken
  next index buffer head =>
    simp only [Option.bind_eq_bind, Option.bind_eq_some_iff] at taken
    obtain ⟨message, is, taken⟩ := taken
    have inStream := List.mem_of_getElem? is
    split_ifs at taken
    · split at taken
      next place session found =>
        obtain rfl := Option.some.inj taken
        have unforwarded : message ∉ state.forwarded :=
          single index (by rw [head]; rfl) message is (by rw [found]; rfl)
        have absent : state.places.count message = 0 := by
          by_contra held
          exact unforwarded (sound.left message (Nat.pos_of_ne_zero held))
        have added (other : Message) :
            (state.setSession place { session with channel := session.channel ++ [message] }).places.count
                other = state.places.count other + if message = other then 1 else 0 := by
          have moved := count_set_flatMap (target_session found)
            { session with channel := session.channel ++ [message] } other
          simp only [List.count_append, List.count_singleton, beq_iff_eq] at moved
          rw [count_places, count_places]
          simp only [setSession]
          omega
        refine ⟨sound.drawn, sound.past, sound.apart, ?_, ?_, ?_⟩
        · intro other member
          rcases List.mem_append.mp member with earlier | last
          · exact sound.stored other earlier
          · obtain rfl := List.mem_singleton.mp last
            exact inStream
        · intro other
          refine Nat.le_trans (Nat.le_of_eq (added other)) ?_
          by_cases same : message = other
          · subst same
            simp [absent]
          · rw [if_neg same]
            exact sound.once other
        · intro other held
          have held := Nat.lt_of_lt_of_eq held (added other)
          by_cases same : message = other
          · subst same
            exact List.mem_append_right _ (List.mem_singleton.mpr rfl)
          · rw [if_neg same] at held
            exact List.mem_append_left _ (sound.left other held)
      next =>
        obtain rfl := Option.some.inj taken
        exact sound.moved rfl (Nat.le_refl _) rfl rfl fun _ => Nat.le_refl _
    · obtain rfl := Option.some.inj taken
      exact sound.moved rfl (Nat.le_refl _) rfl rfl fun _ => Nat.le_refl _

theorem session_sound {state : Delivery} (sound : Sound state) {index : Nat} {old new : Session}
    (was : state.sessions[index]? = some old) {received : List Message}
    (fewer : ∀ message, new.channel.count message + new.wire.count message +
        received.count message ≤
      old.channel.count message + old.wire.count message + state.received.count message) :
    Sound { state.setSession index new with received } := by
  refine sound.moved rfl (Nat.le_refl _) rfl rfl ?_
  intro message
  have moved := count_set_flatMap was new message
  have less := fewer message
  rw [count_places, count_places]
  simp only [setSession]
  omega

theorem step_sound {state next : Delivery} {action : Action} (sound : Sound state)
    (single : Single state action) (taken : step state action = some next) : Sound next := by
  cases action with
  | send request => exact send_sound sound single taken
  | pass duration =>
    obtain rfl := Option.some.inj taken
    exact sound.moved rfl (Nat.le_add_right _ _) rfl rfl fun _ => Nat.le_refl _
  | deliver region index =>
    simp only [step] at taken
    split_ifs at taken
    obtain rfl := Option.some.inj taken
    exact sound.moved rfl (Nat.le_refl _) rfl rfl fun _ => Nat.le_refl _
  | forward region => exact forward_sound sound single taken
  | ackArrives region index =>
    simp only [step] at taken
    split_ifs at taken
    obtain rfl := Option.some.inj taken
    exact sound.moved rfl (Nat.le_refl _) rfl rfl fun _ => Nat.le_refl _
  | nakArrives region index =>
    simp only [step] at taken
    split_ifs at taken
    obtain rfl := Option.some.inj taken
    exact sound.moved rfl (Nat.le_refl _) rfl rfl fun _ => Nat.le_refl _
  | ackWaitExpires region index =>
    simp only [step] at taken
    split_ifs at taken
    obtain rfl := Option.some.inj taken
    exact sound.moved rfl (Nat.le_refl _) rfl rfl fun _ => Nat.le_refl _
  | connect region vehicleId =>
    obtain rfl := Option.some.inj taken
    refine sound.moved rfl (Nat.le_refl _) rfl rfl fun message => ?_
    rw [count_places, count_places]
    simp [setRegistered, addSession]
  | unregister region vehicleId =>
    obtain rfl := Option.some.inj taken
    exact sound.moved rfl (Nat.le_refl _) rfl rfl fun _ => Nat.le_refl _
  | close index =>
    simp only [step, Option.bind_eq_bind, Option.bind_eq_some_iff] at taken
    obtain ⟨session, was, taken⟩ := taken
    obtain rfl := Option.some.inj taken
    refine session_sound sound was fun message => ?_
    simp
  | write index =>
    simp only [step, Option.bind_eq_bind, Option.bind_eq_some_iff] at taken
    obtain ⟨session, was, taken⟩ := taken
    split at taken
    next => cases taken
    next message channel head =>
      obtain rfl := Option.some.inj taken
      refine session_sound sound was fun other => ?_
      simp only [head, List.count_cons, List.count_append, List.count_nil]
      omega
  | receive index =>
    simp only [step, Option.bind_eq_bind, Option.bind_eq_some_iff] at taken
    obtain ⟨session, was, taken⟩ := taken
    split at taken
    next => cases taken
    next message wire head =>
      obtain rfl := Option.some.inj taken
      refine session_sound sound was fun other => ?_
      simp only [head, List.count_cons, List.count_append, List.count_nil]
      omega
  | skip index =>
    simp only [step, Option.bind_eq_bind, Option.bind_eq_some_iff] at taken
    obtain ⟨session, was, taken⟩ := taken
    split at taken
    next => cases taken
    next message wire head =>
      obtain rfl := Option.some.inj taken
      refine session_sound sound was fun other => ?_
      simp only [head, List.count_cons]
      omega
  | dispatch vehicleId =>
    simp only [step, Option.bind_eq_bind, Option.bind_eq_some_iff] at taken
    obtain ⟨message, found, taken⟩ := taken
    obtain rfl := Option.some.inj taken
    refine sound.moved rfl (Nat.le_refl _) rfl rfl fun other => ?_
    have there := List.count_pos_iff.mpr (List.mem_of_find?_eq_some found)
    rw [count_places, count_places]
    simp only [List.count_erase, List.count_append, List.count_singleton, beq_iff_eq]
    by_cases same : message = other
    · subst same
      simp only [if_true]
      omega
    · simp only [if_neg same]
      omega

def landRequest : Request := ⟨"operator", "v1", "c1"⟩

/-- The acknowledgment of the first delivery is late, and the message comes a second time. -/
def redelivered : List Action :=
  [.connect "eu" "v1", .send landRequest, .deliver "eu" 0, .forward "eu", .ackWaitExpires "eu" 0,
    .deliver "eu" 0, .forward "eu", .write 0, .write 0, .receive 0, .receive 0, .dispatch "v1",
    .dispatch "v1"]

def retried : List Action :=
  [.connect "eu" "v1", .send landRequest, .pass 1000, .send landRequest, .deliver "eu" 0,
    .forward "eu", .deliver "eu" 1, .forward "eu", .write 0, .write 0, .receive 0, .receive 0,
    .dispatch "v1", .dispatch "v1"]

end Delivery

end SystemScale.Contract
