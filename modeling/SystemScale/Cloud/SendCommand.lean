import SystemScale.Lib.Lookups
import SystemScale.Cloud.CommandService

set_option autoImplicit false

/-!
# One SendCommand stream

The receive loop, the ACK router and a goroutine for each command, step by step. Between two steps
of one of them the others may take any number of theirs. Commands are named by their place in the
order of receipt.
-/

namespace SystemScale.Cloud

open Runs Lookups

/-- An ACK message of the subscription, numbered as it came in. -/
structure Arrival where
  serial : Nat
  ack : CommandAck
  deriving DecidableEq

inductive Reply where
  | ack (arrival : Arrival)
  | timeout
  deriving DecidableEq

inductive CommandPhase where
  | failed (ack : CommandAck)
  -- Published, and not yet in `pendingACKs`.
  | published
  | registered
  | waiting
  | chosen (reply : Reply)
  -- Its entry of `pendingACKs` is deleted.
  | forgotten (reply : Reply)
  | answered (reply : Reply)
  | left
  deriving DecidableEq

/-- `first` is no part of the program: the first ACK that came in before the timer fired. -/
structure Tracked where
  cmd : CommandEnvelope
  phase : CommandPhase
  channel : Option Arrival
  expired : Bool
  first : Option Arrival

structure SendSession where
  claims : Claims
  commands : List Tracked
  pendingACKs : GoString → Option Nat
  -- The command that the receive loop is about to register.
  registering : Option Nat
  queue : List (Nat × List UInt8)
  -- The channel that the router found, and what it is about to put there.
  hand : Option (Nat × Arrival)
  -- The ids of the ACKs that came in, and the number of messages.
  heard : List GoString
  arrivals : Nat
  sent : List (Nat × CommandAck)
  published : List (Nat × List UInt8)
  isOpen : Bool
  alive : Bool

inductive SendSession.Action where
  | receive (cmd : CommandEnvelope) (commandID : GoString) (now : UInt64) (pubErr : Option GoString)
  | register
  | start (index : Nat)
  | expire (index : Nat)
  | arrive (data : List UInt8)
  | route
  | push
  | takeAck (index : Nat)
  | timeout (index : Nat)
  | leave (index : Nat)
  | forget (index : Nat)
  | send (index : Nat)
  | cancel

def subscriptionCapacity : Nat := 256

def ackOf (data : List UInt8) : Option CommandAck :=
  match decodeCommandAck data with
  | .ok ack => some ack
  | _ => none

def CommandPhase.isFailed : CommandPhase → Bool
  | .failed _ => true
  | _ => false

def Tracked.note (tracked : Tracked) (arrival : Arrival) : Tracked :=
  if tracked.cmd.commandID = arrival.ack.commandID ∧ tracked.phase.isFailed = false ∧
      tracked.expired = false ∧ tracked.first = none then
    { tracked with first := some arrival }
  else tracked

def timeoutAck (cmd : CommandEnvelope) : CommandAck :=
  ⟨cmd.commandID, cmd.vehicleID, 4, Utf8.encode "vehicle did not ACK within TTL", 0⟩

def Reply.commandAck (cmd : CommandEnvelope) : Reply → CommandAck
  | .ack arrival => arrival.ack
  | .timeout => timeoutAck cmd

namespace SendSession

def start (claims : Claims) : SendSession :=
  ⟨claims, [], fun _ => none, none, [], none, [], 0, [], [], true, true⟩

def set (state : SendSession) (index : Nat) (tracked : Tracked) : SendSession :=
  { state with commands := state.commands.set index tracked }

/-- The receive loop sends FAILED and goes on. -/
def fail (state : SendSession) (cmd : CommandEnvelope) (message : GoString) : SendSession :=
  let ack : CommandAck := ⟨cmd.commandID, cmd.vehicleID, 3, message, 0⟩
  { state with
    commands := state.commands ++ [⟨cmd, .failed ack, none, false, none⟩]
    sent := state.sent ++ [(state.commands.length, ack)] }

-- A new UUID is nobody's id yet.
def Fresh (state : SendSession) (commandID : GoString) : Prop :=
  (∀ tracked ∈ state.commands, tracked.cmd.commandID ≠ commandID) ∧ commandID ∉ state.heard

instance (state : SendSession) (commandID : GoString) : Decidable (Fresh state commandID) :=
  inferInstanceAs (Decidable (_ ∧ _))

def receive (state : SendSession) (cmd : CommandEnvelope) (commandID : GoString) (now : UInt64)
    (pubErr : Option GoString) : SendSession :=
  if state.claims.canAccess cmd.vehicleID then
    let cmd := { cmd with
      commandID := commandID, issuerID := Utf8.encode state.claims.subject, issuedAt := now }
    match pubErr with
    | some err => state.fail cmd (Utf8.encode "publish error: " ++ err)
    | none =>
      { state with
        commands := state.commands ++ [⟨cmd, .published, none, false, none⟩]
        registering := some state.commands.length
        published := state.published ++ [(state.commands.length, encodeCommandEnvelope cmd)] }
  else state.fail cmd (Utf8.encode "not authorized for this vehicle")

def noted (state : SendSession) (data : List UInt8) : SendSession :=
  match ackOf data with
  | some ack =>
    { state with
      commands := state.commands.map fun tracked => tracked.note ⟨state.arrivals, ack⟩
      heard := ack.commandID :: state.heard }
  | none => state

def advance (state : SendSession) (index : Nat) (next : Tracked → Option CommandPhase) :
    Option SendSession := do
  let tracked ← state.commands[index]?
  let phase ← next tracked
  some (state.set index { tracked with phase })

def step (state : SendSession) (action : Action) : Option SendSession :=
  if state.alive = false then none
  else
    match action with
    | .receive cmd commandID now pubErr =>
      if state.isOpen ∧ state.registering = none ∧ state.Fresh commandID then
        some (state.receive cmd commandID now pubErr)
      else none
    | .register => do
      let index ← state.registering
      let tracked ← state.commands[index]?
      some ({ state with
        registering := none
        pendingACKs := Function.update state.pendingACKs tracked.cmd.commandID (some index)
        }.set index { tracked with phase := .registered })
    | .start index =>
      state.advance index fun tracked => if tracked.phase = .registered then some .waiting else none
    | .expire index => do
      let tracked ← state.commands[index]?
      if tracked.phase = .waiting then some (state.set index { tracked with expired := true })
      else none
    -- The callback of the subscription drops what does not fit.
    | .arrive data =>
      let noted := { state.noted data with arrivals := state.arrivals + 1 }
      if state.queue.length < subscriptionCapacity then
        some { noted with queue := state.queue ++ [(state.arrivals, data)] }
      else some noted
    | .route =>
      match state.hand, state.queue with
      | none, (serial, data) :: queue =>
        match decodeCommandAck data with
        | .ok ack => some
            { state with
              queue
              hand := (state.pendingACKs ack.commandID).map fun index => (index, ⟨serial, ack⟩) }
        | .err _ => some { state with queue }
        -- The panic of a goroutine ends the process.
        | .panic => some { state with queue, isOpen := false, alive := false }
        | .hang => none
      | _, _ => none
    | .push => do
      let (index, arrival) ← state.hand
      let tracked ← state.commands[index]?
      if tracked.channel = none then
        some ({ state with hand := none }.set index { tracked with channel := some arrival })
      else some { state with hand := none }
    | .takeAck index => do
      let tracked ← state.commands[index]?
      let arrival ← tracked.channel
      if tracked.phase = .waiting then
        some (state.set index { tracked with phase := .chosen (.ack arrival), channel := none })
      else none
    | .timeout index =>
      state.advance index fun tracked =>
        if tracked.phase = .waiting ∧ tracked.expired then some (.chosen .timeout) else none
    | .leave index =>
      state.advance index fun tracked =>
        if tracked.phase = .waiting ∧ state.isOpen = false then some .left else none
    | .forget index => do
      let tracked ← state.commands[index]?
      match tracked.phase with
      | .chosen reply =>
        some ({ state with
          pendingACKs := Function.update state.pendingACKs tracked.cmd.commandID none
          }.set index { tracked with phase := .forgotten reply })
      | _ => none
    | .send index => do
      let tracked ← state.commands[index]?
      match tracked.phase with
      | .forgotten reply =>
        some ({ state with
          sent := state.sent ++ [(index, reply.commandAck tracked.cmd)]
          }.set index { tracked with phase := .answered reply })
      | _ => none
    | .cancel => some { state with isOpen := false }

/-! ## What one step does -/

def Taken (state next : SendSession) : Action → Prop
  | .receive cmd commandID now pubErr =>
    state.isOpen = true ∧ state.registering = none ∧ state.Fresh commandID ∧
      next = state.receive cmd commandID now pubErr
  | .register => ∃ index tracked, state.registering = some index ∧
      state.commands[index]? = some tracked ∧
      next = { state with
        registering := none
        pendingACKs := Function.update state.pendingACKs tracked.cmd.commandID (some index)
        }.set index { tracked with phase := .registered }
  | .start index => ∃ tracked, state.commands[index]? = some tracked ∧
      tracked.phase = .registered ∧ next = state.set index { tracked with phase := .waiting }
  | .expire index => ∃ tracked, state.commands[index]? = some tracked ∧
      tracked.phase = .waiting ∧ next = state.set index { tracked with expired := true }
  | .arrive data =>
      next = { state.noted data with
        arrivals := state.arrivals + 1
        queue := if state.queue.length < subscriptionCapacity then
          state.queue ++ [(state.arrivals, data)] else (state.noted data).queue }
  | .route => ∃ serial data queue, state.hand = none ∧ state.queue = (serial, data) :: queue ∧
      ((∃ ack, decodeCommandAck data = .ok ack ∧
          next = { state with
            queue
            hand := (state.pendingACKs ack.commandID).map fun index => (index, ⟨serial, ack⟩) }) ∨
        ackOf data = none ∧ next = { state with queue } ∨
        ackOf data = none ∧ next = { state with queue, isOpen := false, alive := false })
  | .push => ∃ index arrival tracked, state.hand = some (index, arrival) ∧
      state.commands[index]? = some tracked ∧
      (tracked.channel = none ∧
          next = { state with hand := none }.set index { tracked with channel := some arrival } ∨
        tracked.channel ≠ none ∧ next = { state with hand := none })
  | .takeAck index => ∃ tracked arrival, state.commands[index]? = some tracked ∧
      tracked.channel = some arrival ∧ tracked.phase = .waiting ∧
      next = state.set index { tracked with phase := .chosen (.ack arrival), channel := none }
  | .timeout index => ∃ tracked, state.commands[index]? = some tracked ∧
      tracked.phase = .waiting ∧ tracked.expired = true ∧
      next = state.set index { tracked with phase := .chosen .timeout }
  | .leave index => ∃ tracked, state.commands[index]? = some tracked ∧
      tracked.phase = .waiting ∧ state.isOpen = false ∧
      next = state.set index { tracked with phase := .left }
  | .forget index => ∃ tracked reply, state.commands[index]? = some tracked ∧
      tracked.phase = .chosen reply ∧
      next = { state with
        pendingACKs := Function.update state.pendingACKs tracked.cmd.commandID none
        }.set index { tracked with phase := .forgotten reply }
  | .send index => ∃ tracked reply, state.commands[index]? = some tracked ∧
      tracked.phase = .forgotten reply ∧
      next = { state with
        sent := state.sent ++ [(index, reply.commandAck tracked.cmd)]
        }.set index { tracked with phase := .answered reply }
  | .cancel => next = { state with isOpen := false }

theorem advance_eq {state next : SendSession} {index : Nat}
    {choose : Tracked → Option CommandPhase} (taken : state.advance index choose = some next) :
    ∃ tracked phase, state.commands[index]? = some tracked ∧ choose tracked = some phase ∧
      next = state.set index { tracked with phase } := by
  obtain ⟨tracked, was, taken⟩ := Option.bind_eq_some_iff.mp taken
  obtain ⟨phase, is, taken⟩ := Option.bind_eq_some_iff.mp taken
  exact ⟨tracked, phase, was, is, (Option.some.inj taken).symm⟩

theorem step_taken {state next : SendSession} {action : Action}
    (taken : step state action = some next) : Taken state next action := by
  unfold step at taken
  split at taken
  next => simp at taken
  next =>
    cases action with
    | receive cmd commandID now pubErr =>
      simp only at taken
      split_ifs at taken with free
      exact ⟨free.1, free.2.1, free.2.2, (Option.some.inj taken).symm⟩
    | register =>
      obtain ⟨index, registering, taken⟩ := Option.bind_eq_some_iff.mp taken
      obtain ⟨tracked, was, taken⟩ := Option.bind_eq_some_iff.mp taken
      exact ⟨index, tracked, registering, was, (Option.some.inj taken).symm⟩
    | start index =>
      obtain ⟨tracked, phase, was, is, rfl⟩ := advance_eq taken
      split_ifs at is with registered
      obtain rfl := Option.some.inj is
      exact ⟨tracked, was, registered, rfl⟩
    | expire index =>
      obtain ⟨tracked, was, taken⟩ := Option.bind_eq_some_iff.mp taken
      split_ifs at taken with waiting
      exact ⟨tracked, was, waiting, (Option.some.inj taken).symm⟩
    | arrive data =>
      dsimp only at taken
      show next = _
      split_ifs at taken ⊢ <;> exact (Option.some.inj taken).symm
    | route =>
      simp only at taken
      split at taken
      next serial data queue hand is =>
        refine ⟨serial, data, queue, hand, is, ?_⟩
        unfold ackOf
        cases decoded : decodeCommandAck data with
        | ok ack =>
          rw [decoded] at taken
          exact .inl ⟨ack, rfl, (Option.some.inj taken).symm⟩
        | err message =>
          rw [decoded] at taken
          exact .inr (.inl ⟨rfl, (Option.some.inj taken).symm⟩)
        | panic =>
          rw [decoded] at taken
          exact .inr (.inr ⟨rfl, (Option.some.inj taken).symm⟩)
        | hang => simp [decoded] at taken
      next => simp at taken
    | push =>
      obtain ⟨⟨index, arrival⟩, hand, taken⟩ := Option.bind_eq_some_iff.mp taken
      obtain ⟨tracked, was, taken⟩ := Option.bind_eq_some_iff.mp taken
      refine ⟨index, arrival, tracked, hand, was, ?_⟩
      split_ifs at taken with free
      · exact .inl ⟨free, (Option.some.inj taken).symm⟩
      · exact .inr ⟨free, (Option.some.inj taken).symm⟩
    | takeAck index =>
      obtain ⟨tracked, was, taken⟩ := Option.bind_eq_some_iff.mp taken
      obtain ⟨arrival, channel, taken⟩ := Option.bind_eq_some_iff.mp taken
      split_ifs at taken with waiting
      exact ⟨tracked, arrival, was, channel, waiting, (Option.some.inj taken).symm⟩
    | timeout index =>
      obtain ⟨tracked, phase, was, is, rfl⟩ := advance_eq taken
      split_ifs at is with ready
      obtain rfl := Option.some.inj is
      exact ⟨tracked, was, ready.1, ready.2, rfl⟩
    | leave index =>
      obtain ⟨tracked, phase, was, is, rfl⟩ := advance_eq taken
      split_ifs at is with ready
      obtain rfl := Option.some.inj is
      exact ⟨tracked, was, ready.1, ready.2, rfl⟩
    | forget index =>
      obtain ⟨tracked, was, taken⟩ := Option.bind_eq_some_iff.mp taken
      split at taken
      next reply phase => exact ⟨tracked, reply, was, phase, (Option.some.inj taken).symm⟩
      next => simp at taken
    | send index =>
      obtain ⟨tracked, was, taken⟩ := Option.bind_eq_some_iff.mp taken
      split at taken
      next reply phase => exact ⟨tracked, reply, was, phase, (Option.some.inj taken).symm⟩
      next => simp at taken
    | cancel => exact (Option.some.inj taken).symm

/-! ## One reply for each command -/

end SendSession

def CommandPhase.reply : CommandPhase → Option Reply
  | .chosen reply => some reply
  | .forgotten reply => some reply
  | .answered reply => some reply
  | _ => none

def CommandPhase.started : CommandPhase → Bool
  | .failed _ => false
  | .published => false
  | .registered => false
  | _ => true

def CommandPhase.silent : CommandPhase → Bool
  | .failed _ => false
  | .answered _ => false
  | _ => true

def Tracked.Holds (tracked : Tracked) (arrival : Arrival) : Prop :=
  tracked.channel = some arrival ∨ tracked.phase.reply = some (.ack arrival)

theorem Tracked.holds_moved {tracked : Tracked} {phase : CommandPhase}
    (kept : ∀ arrival, phase.reply = some (.ack arrival) →
      tracked.phase.reply = some (.ack arrival)) (arrival : Arrival)
    (held : Tracked.Holds { tracked with phase } arrival) : tracked.Holds arrival :=
  held.imp id (kept arrival)

/-- What was sent on the stream for the command. -/
def Tracked.replies (tracked : Tracked) : List CommandAck :=
  match tracked.phase with
  | .failed ack => [ack]
  | .answered reply => [reply.commandAck tracked.cmd]
  | _ => []

structure Tracked.Own (tracked : Tracked) : Prop where
  held : ∀ arrival, tracked.Holds arrival → arrival.ack.commandID = tracked.cmd.commandID
  failed : ∀ ack, tracked.phase = .failed ack → ack.commandID = tracked.cmd.commandID
  timed : tracked.expired = true → tracked.phase.started = true

theorem Tracked.Own.replies {tracked : Tracked} (own : tracked.Own) :
    ∀ ack ∈ tracked.replies, ack.commandID = tracked.cmd.commandID := by
  intro ack member
  unfold Tracked.replies at member
  split at member
  next failed phase =>
    obtain rfl := List.mem_singleton.mp member
    exact own.failed ack phase
  next reply phase =>
    obtain rfl := List.mem_singleton.mp member
    cases reply with
    | ack arrival => exact own.held arrival (.inr (by rw [phase, CommandPhase.reply]))
    | timeout => rfl
  next => simp at member

namespace SendSession

def sentFor (state : SendSession) (index : Nat) : List CommandAck :=
  (state.sent.filter fun entry => entry.1 = index).map Prod.snd

structure Accounted (state : SendSession) : Prop where
  running : state.alive = false → state.isOpen = false
  registering : ∀ index : Nat, state.registering = some index →
    ∃ tracked, state.commands[index]? = some tracked ∧ tracked.phase = .published
  pending : ∀ commandID (index : Nat), state.pendingACKs commandID = some index →
    ∃ tracked, state.commands[index]? = some tracked ∧ tracked.cmd.commandID = commandID
  hand : ∀ (index : Nat) arrival, state.hand = some (index, arrival) →
    ∃ tracked, state.commands[index]? = some tracked ∧
      arrival.ack.commandID = tracked.cmd.commandID
  own : ∀ (index : Nat) tracked, state.commands[index]? = some tracked → tracked.Own
  left : ∀ (index : Nat) tracked, state.commands[index]? = some tracked →
    tracked.phase = .left → state.isOpen = false
  replies : ∀ index : Nat,
    state.sentFor index = ((state.commands[index]?).map Tracked.replies).getD []
  authorised : ∀ entry ∈ state.published, ∃ tracked, state.commands[entry.1]? = some tracked ∧
    state.claims.canAccess tracked.cmd.vehicleID = true ∧
    entry.2 = encodeCommandEnvelope tracked.cmd

section Changes

variable {state : SendSession} {index : Nat} {old new : Tracked}

@[simp] theorem set_commands (state : SendSession) (index : Nat) (new : Tracked) :
    (state.set index new).commands = state.commands.set index new := rfl

theorem kept_set (was : state.commands[index]? = some old) (same : new.cmd = old.cmd)
    {other : Nat} {tracked : Tracked} (is : state.commands[other]? = some tracked) :
    ∃ later, (state.commands.set index new)[other]? = some later ∧ later.cmd = tracked.cmd := by
  rw [lookup_set was]
  by_cases here : other = index
  · subst here
    obtain rfl := Option.some.inj (was.symm.trans is)
    exact ⟨new, if_pos rfl, same⟩
  · exact ⟨tracked, (if_neg here).trans is, rfl⟩

theorem Accounted.say (accounted : Accounted state) (was : state.commands[index]? = some old)
    (new : Tracked) (same : new.cmd = old.cmd)
    (awaited : state.registering = some index → old.phase = .published → new.phase = .published)
    (own : new.Own) (left : new.phase = .left → state.isOpen = false)
    {sent : List (Nat × CommandAck)} {more : List CommandAck}
    (adds : ∀ other, sentFor { state with sent } other =
      state.sentFor other ++ if index = other then more else [])
    (replies : new.replies = old.replies ++ more) :
    Accounted ({ state with sent }.set index new) where
  running := accounted.running
  registering other is := by
    obtain ⟨tracked, found, phase⟩ := accounted.registering other is
    rw [set_commands, lookup_set was]
    by_cases here : other = index
    · subst here
      obtain rfl := Option.some.inj (was.symm.trans found)
      exact ⟨new, if_pos rfl, awaited is phase⟩
    · exact ⟨tracked, (if_neg here).trans found, phase⟩
  pending commandID other entry := by
    obtain ⟨tracked, is, named⟩ := accounted.pending commandID other entry
    obtain ⟨later, found, kept⟩ := kept_set was same is
    exact ⟨later, found, by rw [kept, named]⟩
  hand other arrival held := by
    obtain ⟨tracked, is, named⟩ := accounted.hand other arrival held
    obtain ⟨later, found, kept⟩ := kept_set was same is
    exact ⟨later, found, by rw [kept, named]⟩
  own other tracked is := by
    rw [set_commands, lookup_set was] at is
    split_ifs at is
    · exact Option.some.inj is ▸ own
    · exact accounted.own other tracked is
  left other tracked is := by
    rw [set_commands, lookup_set was] at is
    split_ifs at is
    · exact Option.some.inj is ▸ left
    · exact accounted.left other tracked is
  replies other := by
    have before := accounted.replies other
    have lookup := lookup_set was new other
    refine (adds other).trans ?_
    rw [before]
    rw [set_commands, lookup]
    by_cases here : other = index
    · subst here
      rw [was, if_pos rfl, if_pos rfl, Option.map_some, Option.map_some, replies]
      rfl
    · rw [if_neg here, if_neg (Ne.symm here), List.append_nil]
  authorised entry member := by
    obtain ⟨tracked, is, access, encoded⟩ := accounted.authorised entry member
    obtain ⟨later, found, kept⟩ := kept_set was same is
    exact ⟨later, found, by rw [kept]; exact access, by rw [kept]; exact encoded⟩

theorem Accounted.set (accounted : Accounted state) (was : state.commands[index]? = some old)
    (same : new.cmd = old.cmd)
    (awaited : state.registering = some index → old.phase = .published → new.phase = .published)
    (own : new.Own) (left : new.phase = .left → state.isOpen = false)
    (replies : new.replies = old.replies) : Accounted (state.set index new) := by
  have adds (other : Nat) : sentFor { state with sent := state.sent } other =
      state.sentFor other ++ if index = other then [] else [] := by
    rw [ite_self, List.append_nil]
  exact accounted.say was new same awaited own left adds (by rw [replies, List.append_nil])

theorem sentFor_append (state : SendSession) (index other : Nat) (ack : CommandAck) :
    ({ state with sent := state.sent ++ [(index, ack)] } : SendSession).sentFor other =
      state.sentFor other ++ if index = other then [ack] else [] := by
  simp only [sentFor, List.filter_append, List.map_append]
  by_cases same : index = other <;> simp [same]

theorem Accounted.append (accounted : Accounted state) (new : Tracked) (own : new.Own)
    (left : new.phase ≠ .left)
    {next : SendSession} (commands : next.commands = state.commands ++ [new])
    (registering : ∀ index, next.registering = some index →
      index = state.commands.length ∧ new.phase = .published)
    (pending : next.pendingACKs = state.pendingACKs) (hand : next.hand = state.hand)
    (alive : next.alive = state.alive) (opened : next.isOpen = state.isOpen)
    (replies : ∀ other, next.sentFor other =
      state.sentFor other ++ if state.commands.length = other then new.replies else [])
    (authorised : ∀ entry ∈ next.published, entry ∈ state.published ∨
      entry = (state.commands.length, encodeCommandEnvelope new.cmd) ∧
        next.claims.canAccess new.cmd.vehicleID = true)
    (claims : next.claims = state.claims) : Accounted next where
  running := by
    rw [alive, opened]
    exact accounted.running
  registering index is := by
    obtain ⟨rfl, phase⟩ := registering index is
    exact ⟨new, by rw [commands, List.getElem?_concat_length], phase⟩
  pending commandID other entry := by
    obtain ⟨tracked, is, named⟩ := accounted.pending commandID other (pending ▸ entry)
    exact ⟨tracked, by rw [commands, kept_append new is], named⟩
  hand other arrival held := by
    obtain ⟨tracked, is, named⟩ := accounted.hand other arrival (hand ▸ held)
    exact ⟨tracked, by rw [commands, kept_append new is], named⟩
  own other tracked is := by
    rw [commands, lookup_append] at is
    split_ifs at is
    · exact Option.some.inj is ▸ own
    · exact accounted.own other tracked is
  left other tracked is gone := by
    rw [commands, lookup_append] at is
    rw [opened]
    split_ifs at is
    · exact absurd gone (Option.some.inj is ▸ left)
    · exact accounted.left other tracked is gone
  replies other := by
    rw [replies, accounted.replies, commands, lookup_append]
    by_cases last : other = state.commands.length
    · rw [if_pos last.symm, if_pos last, last, List.getElem?_eq_none (Nat.le_refl _)]
      rfl
    · rw [if_neg (Ne.symm last), if_neg last, List.append_nil]
  authorised entry member := by
    rcases authorised entry member with earlier | ⟨rfl, access⟩
    · obtain ⟨tracked, is, access, encoded⟩ := accounted.authorised entry earlier
      exact ⟨tracked, by rw [commands, kept_append new is], claims ▸ access, encoded⟩
    · exact ⟨new, by rw [commands, List.getElem?_concat_length], access, rfl⟩

end Changes

theorem note_same (tracked : Tracked) (arrival : Arrival) :
    (tracked.note arrival).cmd = tracked.cmd ∧ (tracked.note arrival).phase = tracked.phase ∧
      (tracked.note arrival).channel = tracked.channel ∧
      (tracked.note arrival).expired = tracked.expired := by
  unfold Tracked.note
  split_ifs <;> exact ⟨rfl, rfl, rfl, rfl⟩

theorem noted_eq (state : SendSession) (data : List UInt8) :
    ∃ note : Tracked → Tracked, ∃ heard,
      state.noted data = { state with commands := state.commands.map note, heard } ∧
      ∀ tracked, (note tracked).cmd = tracked.cmd ∧ (note tracked).phase = tracked.phase ∧
        (note tracked).channel = tracked.channel ∧ (note tracked).expired = tracked.expired := by
  unfold noted
  cases ackOf data with
  | some ack => exact ⟨_, _, rfl, fun tracked => note_same tracked _⟩
  | none =>
    refine ⟨id, state.heard, ?_, fun tracked => ⟨rfl, rfl, rfl, rfl⟩⟩
    rw [List.map_id]

theorem arrive_accounted {state next : SendSession} {data : List UInt8}
    (accounted : Accounted state) (taken : Taken state next (.arrive data)) : Accounted next := by
  obtain ⟨note, heard, noted, same⟩ := noted_eq state data
  have commands : next.commands = state.commands.map note := by rw [taken, noted]
  have lookup (index : Nat) : next.commands[index]? = (state.commands[index]?).map note := by
    rw [commands, List.getElem?_map]
  have pending : next.pendingACKs = state.pendingACKs := by rw [taken, noted]
  have hand : next.hand = state.hand := by rw [taken, noted]
  have opened : next.isOpen = state.isOpen := by rw [taken, noted]
  have sent : next.sent = state.sent := by rw [taken, noted]
  have claims : next.claims = state.claims := by rw [taken, noted]
  have published : next.published = state.published := by rw [taken, noted]
  have registering : next.registering = state.registering := by rw [taken, noted]
  have alive : next.alive = state.alive := by rw [taken, noted]
  constructor
  · rw [alive, opened]
    exact accounted.running
  · intro index is
    obtain ⟨tracked, found, phase⟩ := accounted.registering index (registering ▸ is)
    exact ⟨note tracked, by rw [lookup, found]; rfl, (same tracked).2.1.trans phase⟩
  · intro commandID index entry
    obtain ⟨tracked, is, named⟩ := accounted.pending commandID index (pending ▸ entry)
    exact ⟨note tracked, by rw [lookup, is]; rfl, by rw [(same tracked).1, named]⟩
  · intro index arrival held
    obtain ⟨tracked, is, named⟩ := accounted.hand index arrival (hand ▸ held)
    exact ⟨note tracked, by rw [lookup, is]; rfl, by rw [(same tracked).1, named]⟩
  · intro index tracked is
    rw [lookup, Option.map_eq_some_iff] at is
    obtain ⟨before, was, rfl⟩ := is
    obtain ⟨cmd, phase, channel, expired⟩ := same before
    obtain ⟨held, failed, timed⟩ := accounted.own index before was
    constructor
    · intro arrival holds
      unfold Tracked.Holds at holds
      rw [channel, phase] at holds
      rw [cmd]
      exact held arrival holds
    · rw [phase, cmd]
      exact failed
    · rw [phase, expired]
      exact timed
  · intro index tracked is
    rw [lookup, Option.map_eq_some_iff] at is
    obtain ⟨before, was, rfl⟩ := is
    rw [(same before).2.1, opened]
    exact accounted.left index before was
  · intro index
    have before := accounted.replies index
    rw [sentFor, sent, lookup]
    rw [sentFor] at before
    rw [before]
    cases state.commands[index]? with
    | none => rfl
    | some tracked =>
      obtain ⟨cmd, phase, _⟩ := same tracked
      simp only [Option.map_some, Option.getD_some, Tracked.replies, phase, cmd]
  · intro entry member
    obtain ⟨tracked, is, access, encoded⟩ := accounted.authorised entry (published ▸ member)
    refine ⟨note tracked, by rw [lookup, is]; rfl, ?_, ?_⟩
    · rw [claims, (same tracked).1]
      exact access
    · rw [(same tracked).1]
      exact encoded

theorem fail_accounted {state : SendSession} (accounted : Accounted state)
    (free : state.registering = none) (cmd : CommandEnvelope) (message : GoString) :
    Accounted (state.fail cmd message) := by
  refine accounted.append ⟨cmd, .failed ⟨cmd.commandID, cmd.vehicleID, 3, message, 0⟩, none, false,
    none⟩ ⟨?_, ?_, ?_⟩ (by simp) rfl (by simp [fail, free]) rfl rfl rfl rfl ?_ ?_
    rfl
  · rintro arrival (held | held) <;> simp [CommandPhase.reply] at held
  · intro ack failed
    obtain rfl := CommandPhase.failed.inj failed
    rfl
  · simp
  · intro other
    exact sentFor_append state state.commands.length other _
  · exact fun entry member => .inl member

theorem receive_accounted {state : SendSession} (accounted : Accounted state)
    (free : state.registering = none) (cmd : CommandEnvelope) (commandID : GoString) (now : UInt64)
    (pubErr : Option GoString) :
    Accounted (state.receive cmd commandID now pubErr) := by
  unfold receive
  split_ifs with access
  · cases pubErr with
    | some err => exact fail_accounted accounted free _ _
    | none =>
      refine accounted.append ⟨_, .published, none, false, none⟩ ⟨?_, ?_, ?_⟩ (by simp) rfl
        (by simp) rfl rfl rfl rfl ?_ ?_ rfl
      · rintro arrival (held | held) <;> simp [CommandPhase.reply] at held
      · simp
      · simp
      · intro other
        split_ifs <;> exact (List.append_nil _).symm
      · intro entry member
        rcases List.mem_append.mp member with earlier | last
        · exact .inl earlier
        · exact .inr ⟨List.mem_singleton.mp last, access⟩
  · exact fail_accounted accounted free _ _

theorem Accounted.update {state : SendSession} (accounted : Accounted state) (commandID : GoString)
    (entry : Option Nat)
    (named : ∀ index, entry = some index → ∃ tracked, state.commands[index]? = some tracked ∧
      tracked.cmd.commandID = commandID) {registering : Option Nat}
    (same : ∀ index, registering = some index → state.registering = some index) :
    Accounted { state with
      pendingACKs := Function.update state.pendingACKs commandID entry, registering } where
  running := accounted.running
  registering index is := accounted.registering index (same index is)
  pending other index is := by
    dsimp only at is
    by_cases same : other = commandID
    · subst same
      rw [Function.update_self] at is
      exact named index is
    · rw [Function.update_of_ne same] at is
      exact accounted.pending other index is
  hand := accounted.hand
  own := accounted.own
  left := accounted.left
  replies := accounted.replies
  authorised := accounted.authorised

theorem Accounted.quiet {state : SendSession} (accounted : Accounted state)
    (queue : List (Nat × List UInt8)) (alive : Bool) {hand : Option (Nat × Arrival)}
    (named : ∀ (index : Nat) arrival, hand = some (index, arrival) →
      ∃ tracked, state.commands[index]? = some tracked ∧
        arrival.ack.commandID = tracked.cmd.commandID)
    {isOpen : Bool} (closes : state.isOpen = false → isOpen = false)
    (running : alive = false → isOpen = false) :
    Accounted { state with queue, alive, hand, isOpen } where
  running := running
  registering := accounted.registering
  pending := accounted.pending
  hand := named
  own := accounted.own
  left index tracked is gone := closes (accounted.left index tracked is gone)
  replies := accounted.replies
  authorised := accounted.authorised

theorem silent_replies {tracked : Tracked} (silent : tracked.phase.silent = true) :
    tracked.replies = [] := by
  unfold Tracked.replies
  split
  next ack is => simp [is, CommandPhase.silent] at silent
  next reply is => simp [is, CommandPhase.silent] at silent
  next => rfl

theorem Accounted.moved {state : SendSession} (accounted : Accounted state) {index : Nat}
    {old new : Tracked} (was : state.commands[index]? = some old) (same : new.cmd = old.cmd)
    (awaited : state.registering = some index → old.phase = .published → new.phase = .published)
    (held : ∀ arrival, new.Holds arrival → old.Holds arrival) (was_silent : old.phase.silent = true)
    (silent : new.phase.silent = true) (timed : new.expired = true → new.phase.started = true)
    (left : new.phase = .left → state.isOpen = false) : Accounted (state.set index new) := by
  have own := accounted.own index old was
  refine accounted.set was same awaited ⟨?_, ?_, timed⟩ left
    (by rw [silent_replies silent, silent_replies was_silent])
  · intro arrival holds
    rw [same]
    exact own.held arrival (held arrival holds)
  · intro ack failed
    simp [failed, CommandPhase.silent] at silent

theorem push_accounted {state : SendSession} (accounted : Accounted state) {index : Nat}
    {arrival : Arrival} {tracked : Tracked} (hand : state.hand = some (index, arrival))
    (was : state.commands[index]? = some tracked) :
    Accounted ({ state with hand := none }.set index { tracked with channel := some arrival }) := by
  have own := accounted.own index tracked was
  have emptied : Accounted { state with hand := none } :=
    accounted.quiet state.queue state.alive (by simp) id accounted.running
  refine emptied.set was rfl (fun _ => id) ⟨?_, own.failed, own.timed⟩
    (accounted.left index tracked was) rfl
  rintro other (channel | reply)
  · obtain rfl := Option.some.inj channel
    obtain ⟨owner, is, named⟩ := accounted.hand index arrival hand
    obtain rfl := Option.some.inj (was.symm.trans is)
    exact named
  · exact own.held other (.inr reply)

theorem send_accounted {state : SendSession} (accounted : Accounted state) {index : Nat}
    {old : Tracked} {reply : Reply} (was : state.commands[index]? = some old)
    (phase : old.phase = .forgotten reply) :
    Accounted ({ state with
      sent := state.sent ++ [(index, reply.commandAck old.cmd)]
      }.set index { old with phase := .answered reply }) := by
  have own := accounted.own index old was
  refine accounted.say was { old with phase := .answered reply } rfl (by simp [phase])
    ⟨?_, by simp, fun _ => rfl⟩ (by simp)
    (fun other => sentFor_append state index other (reply.commandAck old.cmd)) ?_
  · rintro arrival (held | held)
    · exact own.held arrival (.inl held)
    · exact own.held arrival (.inr (by rw [phase]; exact held))
  · have silent : old.replies = [] := silent_replies (by rw [phase]; rfl)
    rw [silent]
    rfl

theorem step_accounted {state next : SendSession} {action : Action} (accounted : Accounted state)
    (moved : step state action = some next) : Accounted next := by
  have taken := step_taken moved
  cases action with
  | receive cmd commandID now pubErr =>
    obtain ⟨_, free, _, rfl⟩ := taken
    exact receive_accounted accounted free cmd commandID now pubErr
  | register =>
    obtain ⟨index, tracked, registering, was, rfl⟩ := taken
    obtain ⟨same, is, phase⟩ := accounted.registering index registering
    obtain rfl := Option.some.inj (was.symm.trans is)
    have updated := accounted.update tracked.cmd.commandID (some index)
      (fun other is => Option.some.inj is ▸ ⟨tracked, was, rfl⟩)
      (show ∀ index, none = some index → _ by simp)
    refine updated.moved was rfl (by simp) (Tracked.holds_moved (by simp [CommandPhase.reply]))
      (by simp [phase, CommandPhase.silent]) rfl ?_ (by simp)
    intro expired
    have started := (accounted.own index tracked was).timed expired
    simp [phase, CommandPhase.started] at started
  | start index =>
    obtain ⟨tracked, was, phase, rfl⟩ := taken
    exact accounted.moved was rfl (by simp [phase])
      (Tracked.holds_moved (by simp [CommandPhase.reply])) (by simp [phase, CommandPhase.silent]) rfl
      (fun _ => rfl) (by simp)
  | expire index =>
    obtain ⟨tracked, was, phase, rfl⟩ := taken
    exact accounted.moved was rfl (fun _ => id) (fun _ held => held)
      (by simp [phase, CommandPhase.silent]) (by simp [phase, CommandPhase.silent])
      (by simp [phase, CommandPhase.started]) (by simp [phase])
  | arrive data => exact arrive_accounted accounted taken
  | route =>
    obtain ⟨serial, data, queue, hand, _, ⟨ack, _, rfl⟩ | ⟨_, rfl⟩ | ⟨_, rfl⟩⟩ := taken
    · refine accounted.quiet queue state.alive ?_ id accounted.running
      intro index arrival found
      obtain ⟨place, entry, pair⟩ := Option.map_eq_some_iff.mp found
      obtain ⟨rfl, rfl⟩ := Prod.mk.inj pair
      obtain ⟨tracked, is, named⟩ := accounted.pending ack.commandID place entry
      exact ⟨tracked, is, named.symm⟩
    · exact accounted.quiet queue state.alive accounted.hand id accounted.running
    · exact accounted.quiet queue false accounted.hand (fun _ => rfl) fun _ => rfl
  | push =>
    obtain ⟨index, arrival, tracked, hand, was, ⟨free, rfl⟩ | ⟨_, rfl⟩⟩ := taken
    · exact push_accounted accounted hand was
    · exact accounted.quiet state.queue state.alive (by simp) id accounted.running
  | takeAck index =>
    obtain ⟨tracked, arrival, was, channel, phase, rfl⟩ := taken
    refine accounted.moved was rfl (by simp [phase]) ?_ (by simp [phase, CommandPhase.silent]) rfl
      (fun _ => rfl) (by simp)
    rintro other (held | held)
    · simp at held
    · obtain rfl := Reply.ack.inj (Option.some.inj held)
      exact .inl channel
  | timeout index =>
    obtain ⟨tracked, was, phase, expired, rfl⟩ := taken
    exact accounted.moved was rfl (by simp [phase])
      (Tracked.holds_moved (by simp [CommandPhase.reply])) (by simp [phase, CommandPhase.silent]) rfl
      (fun _ => rfl) (by simp)
  | leave index =>
    obtain ⟨tracked, was, phase, closed, rfl⟩ := taken
    exact accounted.moved was rfl (by simp [phase])
      (Tracked.holds_moved (by simp [CommandPhase.reply])) (by simp [phase, CommandPhase.silent]) rfl
      (fun _ => rfl) (fun _ => closed)
  | forget index =>
    obtain ⟨tracked, reply, was, phase, rfl⟩ := taken
    have updated := accounted.update tracked.cmd.commandID none (by simp) fun _ is => is
    have same : (CommandPhase.forgotten reply).reply = tracked.phase.reply := by rw [phase]; rfl
    exact updated.moved was rfl (by simp [phase])
      (Tracked.holds_moved fun _ held => same.symm.trans held)
      (by simp [phase, CommandPhase.silent]) rfl (fun _ => rfl) (by simp)
  | send index =>
    obtain ⟨tracked, reply, was, phase, rfl⟩ := taken
    exact send_accounted accounted was phase
  | cancel =>
    obtain rfl := taken
    exact accounted.quiet state.queue state.alive accounted.hand (fun _ => rfl) fun _ => rfl

theorem step_claims {state next : SendSession} {action : Action}
    (moved : step state action = some next) : next.claims = state.claims := by
  have taken := step_taken moved
  cases action with
  | receive cmd commandID now pubErr =>
    obtain ⟨_, _, _, rfl⟩ := taken
    unfold receive fail
    split_ifs
    · cases pubErr <;> rfl
    · rfl
  | register =>
    obtain ⟨index, tracked, _, _, rfl⟩ := taken
    rfl
  | start index =>
    obtain ⟨tracked, _, _, rfl⟩ := taken
    rfl
  | expire index =>
    obtain ⟨tracked, _, _, rfl⟩ := taken
    rfl
  | arrive data =>
    obtain ⟨note, heard, noted, _⟩ := noted_eq state data
    rw [taken, noted]
  | route =>
    obtain ⟨serial, data, queue, _, _, ⟨ack, _, rfl⟩ | ⟨_, rfl⟩ | ⟨_, rfl⟩⟩ := taken <;> rfl
  | push =>
    obtain ⟨index, arrival, tracked, _, _, ⟨_, rfl⟩ | ⟨_, rfl⟩⟩ := taken <;> rfl
  | takeAck index =>
    obtain ⟨tracked, arrival, _, _, _, rfl⟩ := taken
    rfl
  | timeout index =>
    obtain ⟨tracked, _, _, _, rfl⟩ := taken
    rfl
  | leave index =>
    obtain ⟨tracked, _, _, _, rfl⟩ := taken
    rfl
  | forget index =>
    obtain ⟨tracked, reply, _, _, rfl⟩ := taken
    rfl
  | send index =>
    obtain ⟨tracked, reply, _, _, rfl⟩ := taken
    rfl
  | cancel =>
    obtain rfl := taken
    rfl

theorem start_accounted (claims : Claims) : Accounted (start claims) := by
  constructor <;> simp [start, sentFor]

def ownSteps (index : Nat) : List Action :=
  [.start index, .takeAck index, .timeout index, .leave index, .forget index, .send index]

theorem finished_answered {state : SendSession} (accounted : Accounted state) {index : Nat}
    {tracked : Tracked} (is : state.commands[index]? = some tracked) (opened : state.isOpen = true)
    (expired : tracked.expired = true)
    (finished : ∀ action ∈ ownSteps index, step state action = none) :
    ∃ reply, tracked.phase = .answered reply := by
  have alive : ¬state.alive = false := by
    intro dead
    rw [accounted.running dead] at opened
    cases opened
  have started := (accounted.own index tracked is).timed expired
  cases phase : tracked.phase with
  | answered reply => exact ⟨reply, rfl⟩
  | waiting =>
    have stuck := finished (.timeout index) (by simp [ownSteps])
    simp [step, alive, advance, is, phase, expired] at stuck
  | chosen reply =>
    have stuck := finished (.forget index) (by simp [ownSteps])
    simp [step, alive, is, phase] at stuck
  | forgotten reply =>
    have stuck := finished (.send index) (by simp [ownSteps])
    simp [step, alive, is, phase] at stuck
  | left =>
    rw [accounted.left index tracked is phase] at opened
    cases opened
  | failed ack => simp [phase, CommandPhase.started] at started
  | published => simp [phase, CommandPhase.started] at started
  | registered => simp [phase, CommandPhase.started] at started

/-- Of every command at most one reply is sent, exactly one once its time is up and its goroutine is
through, and only commands for the caller's vehicles are published. -/
theorem commands_answered_once (claims : Claims) (actions : List Action) (state : SendSession)
    (ran : exec step (start claims) actions = some state) :
    (∀ index, (state.sentFor index).length ≤ 1) ∧
    (∀ entry ∈ state.sent, ∃ tracked, state.commands[entry.1]? = some tracked ∧
      entry.2.commandID = tracked.cmd.commandID) ∧
    (∀ entry ∈ state.published, ∃ tracked, state.commands[entry.1]? = some tracked ∧
      claims.canAccess tracked.cmd.vehicleID = true ∧
      entry.2 = encodeCommandEnvelope tracked.cmd) ∧
    ∀ index tracked, state.commands[index]? = some tracked → state.isOpen = true →
      tracked.expired = true → (∀ action ∈ ownSteps index, step state action = none) →
      (state.sentFor index).length = 1 := by
  have accounted : Accounted state :=
    exec_invariant (fun _ _ _ accounted taken => step_accounted accounted taken)
      (start_accounted claims) ran
  have keeps (before : SendSession) (action : Action) (after : SendSession)
      (same : before.claims = claims) (taken : step before action = some after) :
      after.claims = claims := (step_claims taken).trans same
  have same : state.claims = claims := exec_invariant keeps rfl ran
  refine ⟨?_, ?_, ?_, ?_⟩
  · intro index
    rw [accounted.replies]
    cases state.commands[index]? with
    | none => simp
    | some tracked =>
      rw [Option.map_some, Option.getD_some, Tracked.replies]
      split <;> simp
  · intro entry member
    have sent : entry.2 ∈ state.sentFor entry.1 :=
      List.mem_map.mpr ⟨entry, List.mem_filter.mpr ⟨member, by simp⟩, rfl⟩
    rw [accounted.replies] at sent
    cases is : state.commands[entry.1]? with
    | none => simp [is] at sent
    | some tracked =>
      rw [is, Option.map_some, Option.getD_some] at sent
      exact ⟨tracked, rfl, (accounted.own entry.1 tracked is).replies entry.2 sent⟩
  · intro entry member
    obtain ⟨tracked, is, access, encoded⟩ := accounted.authorised entry member
    exact ⟨tracked, is, same ▸ access, encoded⟩
  · intro index tracked is opened expired finished
    obtain ⟨reply, phase⟩ := finished_answered accounted is opened expired finished
    rw [accounted.replies, is, Option.map_some, Option.getD_some, Tracked.replies, phase]
    rfl

def operatorClaims : Claims := ⟨"", "", "operator", []⟩

def landCommand : CommandEnvelope :=
  { CommandEnvelope.empty with vehicleID := Utf8.encode "v1", ttlMs := 1000 }

def unansweredRun : List Action :=
  [.receive landCommand (Utf8.encode "c1") 0 none, .register, .start 0, .expire 0, .timeout 0,
    .forget 0, .send 0]

theorem unanswered_command_times_out :
    ∃ state, exec step (start operatorClaims) unansweredRun = some state ∧
      (state.sentFor 0).length ≤ 1 ∧ (state.sentFor 0).map CommandAck.status = [4] :=
  ⟨_, rfl, (commands_answered_once operatorClaims unansweredRun _ rfl).1 0, rfl⟩

end SendSession

end SystemScale.Cloud
