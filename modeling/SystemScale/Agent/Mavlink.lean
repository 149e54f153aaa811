import Mathlib.Logic.Function.Basic
import SystemScale.Agent.AdapterTrait
import SystemScale.Lib.Runs
import SystemScale.Lib.Wire

set_option autoImplicit false

/-!
# The MAVLink adapter

`send_command` calls run side by side. Each leaves a one-shot sender in `pending_acks`, under the
16-bit id of its command, for the receive loop to find when a COMMAND_ACK arrives.
-/

namespace SystemScale.Agent.Mavlink

open AdapterTrait Runs
open Wire (Step loop)

/-! ## Payloads -/

/-- The parameters are kept as the bits of their floats. -/
structure MavlinkCommandDecoded where
  command : UInt32
  param1 : UInt32
  param2 : UInt32
  param3 : UInt32
  param4 : UInt32
  param5 : UInt32
  param6 : UInt32
  param7 : UInt32
  deriving DecidableEq

def MavlinkCommandDecoded.setParam (cmd : MavlinkCommandDecoded) (field : Nat) (v : UInt32) :
    MavlinkCommandDecoded :=
  match field with
  | 2 => { cmd with param1 := v }
  | 3 => { cmd with param2 := v }
  | 4 => { cmd with param3 := v }
  | 5 => { cmd with param4 := v }
  | 6 => { cmd with param5 := v }
  | 7 => { cmd with param6 := v }
  | 8 => { cmd with param7 := v }
  | _ => cmd

def readVarint (buf : List UInt8) (pos : Nat) : Except String (UInt64 × Nat) :=
  match Varint.read (buf.drop pos) with
  | .value word length => .ok (word, pos + length)
  | .truncated => .error "varint truncated"
  | .overflow => .error "varint overflow"

def readF32 (buf : List UInt8) (pos : Nat) : Except String (UInt32 × Nat) :=
  if pos + 4 ≤ buf.length then .ok (UInt32.ofNat (Bytes.leValue (Bytes.slice buf pos 4)), pos + 4)
  else .error "f32 truncated"

def decodeMavlinkCommandStep (payload : List UInt8) : Nat × MavlinkCommandDecoded →
    Step (Nat × MavlinkCommandDecoded) (Except String MavlinkCommandDecoded)
  | (pos, cmd) =>
    if pos < payload.length then
      match readVarint payload pos with
      | .error e => .done (.error e)
      | .ok (tag, pos) =>
        let field := (tag >>> 3).toUInt32.toNat
        match (tag &&& 0x7).toNat with
        | 0 =>
          match readVarint payload pos with
          | .error e => .done (.error e)
          | .ok (v, pos) => .next (pos, if field = 1 then { cmd with command := v.toUInt32 } else cmd)
        | 5 =>
          if 2 ≤ field ∧ field ≤ 8 then
            match readF32 payload pos with
            | .error e => .done (.error e)
            | .ok (v, pos) => .next (pos, cmd.setParam field v)
          else .next (pos + 4, cmd)
        | 1 => .next (pos + 8, cmd)
        | _ => .done (.ok cmd)
    else .done (.ok cmd)

-- Every iteration reads a byte at least, so the fuel is never used up.
def decodeMavlinkCommand (payload : List UInt8) : Except String MavlinkCommandDecoded :=
  (loop (decodeMavlinkCommandStep payload) (payload.length + 1) (0, ⟨0, 0, 0, 0, 0, 0, 0, 0⟩)).getD
    (.error "")

/-! ## Calls -/

inductive MavResult where
  | accepted
  | temporarilyRejected
  | denied
  | unsupported
  | failed
  | other (name : String)
  deriving DecidableEq

def MavResult.status : MavResult → AckStatus
  | .accepted => .accepted
  | .temporarilyRejected => .rejected
  | .denied => .rejected
  | .unsupported => .rejected
  | .failed => .failed
  | .other _ => .failed

-- The `Debug` text.
def MavResult.message : MavResult → String
  | .accepted => "MAV_RESULT_ACCEPTED"
  | .temporarilyRejected => "MAV_RESULT_TEMPORARILY_REJECTED"
  | .denied => "MAV_RESULT_DENIED"
  | .unsupported => "MAV_RESULT_UNSUPPORTED"
  | .failed => "MAV_RESULT_FAILED"
  | .other name => name

/-- An `Ack` less its clock reading. -/
structure Reply where
  commandId : String
  status : AckStatus
  message : String
  deriving DecidableEq

def mavCmdDoSetMode : UInt32 := 176

/-- The command that is sent for a decoded one; `known` are the numbers `MavCmd::from_u32` knows. -/
def sentCommand (known : UInt32 → Bool) (mavCmd : MavlinkCommandDecoded) : UInt32 :=
  if known mavCmd.command then mavCmd.command else mavCmdDoSetMode

/-- The state of a call's one-shot channel. -/
inductive Channel where
  | empty
  | sent (result : MavResult)
  | dropped

inductive Phase where
  | started
  | registered
  | waiting
  -- The wait ended without a result; the waiter is to be removed.
  | expired
  | returned (outcome : Except String Reply)

/-- `answer` is the result of the autopilot's COMMAND_ACK for this call's COMMAND_LONG. -/
structure Call where
  cmd : CommandEnvelope
  mavCmd : MavlinkCommandDecoded
  phase : Phase
  channel : Channel
  answer : Option MavResult

def Call.key (call : Call) : UInt16 := call.mavCmd.command.toUInt16

def Call.sent (call : Call) : Bool :=
  match call.phase with
  | .waiting => true
  | .expired => true
  | .returned (.ok _) => true
  | _ => false

structure Adapter where
  calls : List Call
  pendingAcks : UInt16 → Option Nat

inductive Action where
  | sendCommand (cmd : CommandEnvelope)
  | register (call : Nat)
  | send (call : Nat)
  | sendFails (call : Nat) (context : String)
  -- The autopilot's answer to the call's COMMAND_LONG arrives.
  | ack (call : Nat) (result : MavResult)
  | receive (call : Nat)
  | deadline (call : Nat)
  | removeWaiter (call : Nat)

namespace Adapter

def start : Adapter := ⟨[], fun _ => none⟩

def setPhase (adapter : Adapter) (index : Nat) (phase : Phase) : Adapter :=
  { adapter with calls := adapter.calls.modify index fun call => { call with phase } }

def setChannel (adapter : Adapter) (index : Nat) (channel : Channel) : Adapter :=
  { adapter with calls := adapter.calls.modify index fun call => { call with channel } }

def setAnswer (adapter : Adapter) (index : Nat) (result : MavResult) : Adapter :=
  { adapter with
    calls := adapter.calls.modify index fun call => { call with answer := some result } }

/-- Take the sender under `key` out of the map; what becomes of its channel depends on its use. -/
def takeSender (adapter : Adapter) (key : UInt16) (use : Channel) : Adapter :=
  match adapter.pendingAcks key with
  | none => adapter
  | some owner =>
    { adapter with pendingAcks := Function.update adapter.pendingAcks key none }.setChannel owner use

def insertSender (adapter : Adapter) (key : UInt16) (index : Nat) : Adapter :=
  { adapter with pendingAcks := Function.update adapter.pendingAcks key (some index) }

def timeoutReply (call : Call) : Reply :=
  ⟨call.cmd.commandId, .timeout, "No COMMAND_ACK from autopilot within deadline"⟩

def resultReply (call : Call) (result : MavResult) : Reply :=
  ⟨call.cmd.commandId, result.status, result.message⟩

def step (known : UInt32 → Bool) (adapter : Adapter) : Action → Option Adapter
  | .sendCommand cmd =>
    match decodeMavlinkCommand cmd.payload with
    | .ok mavCmd =>
      some { adapter with calls := adapter.calls ++ [⟨cmd, mavCmd, .started, .empty, none⟩] }
    | .error _ =>
      some { adapter with
        calls := adapter.calls ++ [⟨cmd, ⟨0, 0, 0, 0, 0, 0, 0, 0⟩, .returned (.error
          "decoding CommandEnvelope payload as MavlinkCommand proto"), .dropped, none⟩] }
  | .register index => do
    let call ← adapter.calls[index]?
    match call.phase with
    -- `insert` drops the sender that was there, if any.
    | .started => some (((adapter.takeSender call.key .dropped).insertSender call.key index).setPhase
        index .registered)
    | _ => none
  | .send index => do
    let call ← adapter.calls[index]?
    match call.phase with
    | .registered => some (adapter.setPhase index .waiting)
    | _ => none
  | .sendFails index context => do
    let call ← adapter.calls[index]?
    match call.phase with
    | .registered => some (adapter.setPhase index (.returned (.error context)))
    | _ => none
  | .ack index result => do
    let call ← adapter.calls[index]?
    if call.sent ∧ call.answer = none then
      some ((adapter.setAnswer index result).takeSender
        (sentCommand known call.mavCmd).toUInt16 (.sent result))
    else none
  | .receive index => do
    let call ← adapter.calls[index]?
    match call.phase, call.channel with
    | .waiting, .sent result => some (adapter.setPhase index (.returned (.ok (resultReply call result))))
    | .waiting, .dropped => some (adapter.setPhase index .expired)
    | _, _ => none
  | .deadline index => do
    -- The autopilot answers before the deadline, so a call times out only after its answer.
    let call ← adapter.calls[index]?
    match call.phase, call.channel, call.answer with
    | .waiting, .empty, some _ => some (adapter.setPhase index .expired)
    | _, _, _ => none
  | .removeWaiter index => do
    let call ← adapter.calls[index]?
    match call.phase with
    | .expired => some ((adapter.takeSender call.key .dropped).setPhase index
        (.returned (.ok (timeoutReply call))))
    | _ => none

/-! ## Steps -/

/-- When a step can be taken, and what it makes of the adapter. -/
inductive Change (known : UInt32 → Bool) (adapter : Adapter) : Action → Adapter → Prop
  | decoded {cmd : CommandEnvelope} {mavCmd : MavlinkCommandDecoded}
      (decoded : decodeMavlinkCommand cmd.payload = .ok mavCmd) :
      Change known adapter (.sendCommand cmd)
        { adapter with calls := adapter.calls ++ [⟨cmd, mavCmd, .started, .empty, none⟩] }
  | undecoded (cmd : CommandEnvelope) {err : String}
      (undecoded : decodeMavlinkCommand cmd.payload = .error err) :
      Change known adapter (.sendCommand cmd)
        { adapter with
          calls := adapter.calls ++ [⟨cmd, ⟨0, 0, 0, 0, 0, 0, 0, 0⟩, .returned (.error
            "decoding CommandEnvelope payload as MavlinkCommand proto"), .dropped, none⟩] }
  | register {index : Nat} {call : Call} (was : adapter.calls[index]? = some call)
      (phase : call.phase = .started) :
      Change known adapter (.register index)
        (((adapter.takeSender call.key .dropped).insertSender call.key index).setPhase
          index .registered)
  | send {index : Nat} {call : Call} (was : adapter.calls[index]? = some call)
      (phase : call.phase = .registered) :
      Change known adapter (.send index) (adapter.setPhase index .waiting)
  | sendFails {index : Nat} {call : Call} (context : String)
      (was : adapter.calls[index]? = some call) (phase : call.phase = .registered) :
      Change known adapter (.sendFails index context)
        (adapter.setPhase index (.returned (.error context)))
  | ack {index : Nat} {call : Call} (result : MavResult)
      (was : adapter.calls[index]? = some call) (sent : call.sent = true)
      (unanswered : call.answer = none) :
      Change known adapter (.ack index result)
        ((adapter.setAnswer index result).takeSender
          (sentCommand known call.mavCmd).toUInt16 (.sent result))
  | receive {index : Nat} {call : Call} {result : MavResult}
      (was : adapter.calls[index]? = some call) (phase : call.phase = .waiting)
      (channel : call.channel = .sent result) :
      Change known adapter (.receive index)
        (adapter.setPhase index (.returned (.ok (resultReply call result))))
  | disconnect {index : Nat} {call : Call} (was : adapter.calls[index]? = some call)
      (phase : call.phase = .waiting) (channel : call.channel = .dropped) :
      Change known adapter (.receive index) (adapter.setPhase index .expired)
  | deadline {index : Nat} {call : Call} {result : MavResult}
      (was : adapter.calls[index]? = some call) (phase : call.phase = .waiting)
      (channel : call.channel = .empty) (answered : call.answer = some result) :
      Change known adapter (.deadline index) (adapter.setPhase index .expired)
  | removeWaiter {index : Nat} {call : Call} (was : adapter.calls[index]? = some call)
      (phase : call.phase = .expired) :
      Change known adapter (.removeWaiter index)
        ((adapter.takeSender call.key .dropped).setPhase index
          (.returned (.ok (timeoutReply call))))

theorem step_change {known : UInt32 → Bool} {adapter next : Adapter} {action : Action}
    (taken : step known adapter action = some next) : Change known adapter action next := by
  cases action with
  | sendCommand cmd =>
    simp only [step] at taken
    split at taken
    next mavCmd decoded =>
      obtain rfl := Option.some.inj taken
      exact .decoded decoded
    next err undecoded =>
      obtain rfl := Option.some.inj taken
      exact .undecoded cmd undecoded
  | register index =>
    simp only [step, Option.bind_eq_bind, Option.bind_eq_some_iff] at taken
    obtain ⟨call, was, taken⟩ := taken
    split at taken
    next phase =>
      obtain rfl := Option.some.inj taken
      exact .register was phase
    next => cases taken
  | send index =>
    simp only [step, Option.bind_eq_bind, Option.bind_eq_some_iff] at taken
    obtain ⟨call, was, taken⟩ := taken
    split at taken
    next phase =>
      obtain rfl := Option.some.inj taken
      exact .send was phase
    next => cases taken
  | sendFails index context =>
    simp only [step, Option.bind_eq_bind, Option.bind_eq_some_iff] at taken
    obtain ⟨call, was, taken⟩ := taken
    split at taken
    next phase =>
      obtain rfl := Option.some.inj taken
      exact .sendFails context was phase
    next => cases taken
  | ack index result =>
    simp only [step, Option.bind_eq_bind, Option.bind_eq_some_iff] at taken
    obtain ⟨call, was, taken⟩ := taken
    split_ifs at taken with answerable
    obtain rfl := Option.some.inj taken
    exact .ack result was answerable.1 answerable.2
  | receive index =>
    simp only [step, Option.bind_eq_bind, Option.bind_eq_some_iff] at taken
    obtain ⟨call, was, taken⟩ := taken
    split at taken
    next result phase channel =>
      obtain rfl := Option.some.inj taken
      exact .receive was phase channel
    next phase channel =>
      obtain rfl := Option.some.inj taken
      exact .disconnect was phase channel
    next => cases taken
  | deadline index =>
    simp only [step, Option.bind_eq_bind, Option.bind_eq_some_iff] at taken
    obtain ⟨call, was, taken⟩ := taken
    split at taken
    next result phase channel answered =>
      obtain rfl := Option.some.inj taken
      exact .deadline was phase channel answered
    next => cases taken
  | removeWaiter index =>
    simp only [step, Option.bind_eq_bind, Option.bind_eq_some_iff] at taken
    obtain ⟨call, was, taken⟩ := taken
    split at taken
    next phase =>
      obtain rfl := Option.some.inj taken
      exact .removeWaiter was phase
    next => cases taken

/-! ## What is promised -/

/-- The autopilot sent this result in a COMMAND_ACK for `command`. -/
def Answered (known : UInt32 → Bool) (adapter : Adapter) (command : UInt32)
    (result : MavResult) : Prop :=
  ∃ (index : Nat) (call : Call), adapter.calls[index]? = some call ∧
    sentCommand known call.mavCmd = command ∧
    call.answer = some result

/-- A call that returned has the status of a result for its command, and one whose answer has
arrived has such a result waiting for it. -/
def CallServed (known : UInt32 → Bool) (adapter : Adapter) (call : Call) : Prop :=
  match call.phase with
  | .returned outcome => ∃ result, Answered known adapter call.mavCmd.command result ∧
      outcome = .ok (resultReply call result)
  | .waiting => call.answer.isSome → ∃ result,
      Answered known adapter call.mavCmd.command result ∧ call.channel = .sent result
  | .expired => False
  | _ => True

def Served (known : UInt32 → Bool) (adapter : Adapter) : Prop :=
  ∀ (index : Nat) (call : Call), adapter.calls[index]? = some call → CallServed known adapter call

/-- Payloads decode and are sent, and a call registers a command that MAVLink knows while no other
call waits under its id. -/
def Orderly (known : UInt32 → Bool) (adapter : Adapter) : Action → Prop
  | .sendCommand cmd => ∃ mavCmd, decodeMavlinkCommand cmd.payload = .ok mavCmd
  | .register index => ∀ call, adapter.calls[index]? = some call →
      known call.mavCmd.command ∧ adapter.pendingAcks call.key = none
  | .sendFails _ _ => False
  | _ => True

/-! ## Orderly runs -/

/-- The call's sender is in the map, and nothing has come of it yet. -/
def Awaits (call : Call) : Prop :=
  (call.phase = .registered ∨ call.phase = .waiting) ∧ call.channel = .empty ∧ call.answer = none

def CallSound (known : UInt32 → Bool) (adapter : Adapter) (index : Nat) (call : Call) : Prop :=
  match call.phase with
  | .started => call.channel = .empty ∧ call.answer = none
  | .registered => known call.mavCmd.command ∧ Awaits call ∧
      adapter.pendingAcks call.key = some index
  | .waiting => known call.mavCmd.command ∧
      (Awaits call ∧ adapter.pendingAcks call.key = some index ∨
        ∃ result, call.answer = some result ∧ call.channel = .sent result)
  | .expired => False
  | .returned outcome => known call.mavCmd.command ∧
      ∃ result, call.answer = some result ∧ outcome = .ok (resultReply call result)

structure Sound (known : UInt32 → Bool) (adapter : Adapter) : Prop where
  owner : ∀ key index, adapter.pendingAcks key = some index →
    ∃ call, adapter.calls[index]? = some call ∧ call.key = key ∧ Awaits call
  calls : ∀ (index : Nat) (call : Call), adapter.calls[index]? = some call →
    CallSound known adapter index call

variable {known : UInt32 → Bool} {adapter next : Adapter} {index : Nat} {call : Call}

theorem CallSound.transfer (sound : CallSound known adapter index call)
    (kept : ∀ key, adapter.pendingAcks key = some index → next.pendingAcks key = some index) :
    CallSound known next index call := by
  unfold CallSound at sound ⊢
  cases phase : call.phase with
  | started => simpa only [phase] using sound
  | registered =>
    simp only [phase] at sound
    exact ⟨sound.1, sound.2.1, kept _ sound.2.2⟩
  | waiting =>
    simp only [phase] at sound
    rcases sound with ⟨isKnown, ⟨awaits, held⟩ | received⟩
    · exact ⟨isKnown, .inl ⟨awaits, kept _ held⟩⟩
    · exact ⟨isKnown, .inr received⟩
  | expired => simp only [phase] at sound
  | returned outcome => simpa only [phase] using sound

-- A step that changes one call, and of the map at most that call's own sender.
theorem Sound.of_change (sound : Sound known adapter) {new : Call}
    (others : ∀ other, other ≠ index → next.calls[other]? = adapter.calls[other]?)
    (now : next.calls[index]? = some new)
    (map : ∀ key owner, owner ≠ index →
      (next.pendingAcks key = some owner ↔ adapter.pendingAcks key = some owner))
    (own : ∀ key, next.pendingAcks key = some index → new.key = key ∧ Awaits new)
    (fits : CallSound known next index new) : Sound known next := by
  constructor
  · intro key owner held
    by_cases same : owner = index
    · subst same
      exact ⟨new, now, own key held⟩
    · rw [others owner same]
      exact sound.owner key owner ((map key owner same).mp held)
  · intro other call is
    by_cases same : other = index
    · subst same
      obtain rfl := Option.some.inj (now.symm.trans is)
      exact fits
    · rw [others other same] at is
      exact (sound.calls other call is).transfer fun key => (map key other same).mpr

theorem lookup_modify (was : adapter.calls[index]? = some call) (change : Call → Call) :
    (adapter.calls.modify index change)[index]? = some (change call) := by
  rw [List.getElem?_modify_eq, was]
  rfl

theorem lookup_modify_other (change : Call → Call) {other : Nat} (differs : other ≠ index) :
    (adapter.calls.modify index change)[other]? = adapter.calls[other]? :=
  List.getElem?_modify_ne change adapter.calls (Ne.symm differs)

theorem sendCommand_sound {cmd : CommandEnvelope} (sound : Sound known adapter)
    (orderly : Orderly known adapter (.sendCommand cmd))
    (taken : step known adapter (.sendCommand cmd) = some next) : Sound known next := by
  obtain ⟨mavCmd, decoded⟩ := orderly
  simp only [step, decoded] at taken
  obtain rfl := Option.some.inj taken
  have lookup {place : Nat} (inside : place < adapter.calls.length) :
      (adapter.calls ++ [(⟨cmd, mavCmd, .started, .empty, none⟩ : Call)])[place]? =
        adapter.calls[place]? := List.getElem?_append_left inside
  constructor
  · intro key owner held
    obtain ⟨call, is, holds⟩ := sound.owner key owner held
    exact ⟨call, (lookup (List.getElem?_eq_some_iff.mp is).1).trans is, holds⟩
  · intro place call is
    by_cases last : place = adapter.calls.length
    · subst last
      simp only [List.getElem?_concat_length, Option.some.injEq] at is
      subst is
      exact ⟨rfl, rfl⟩
    · have inside := (List.getElem?_eq_some_iff.mp is).1
      simp only [List.length_append, List.length_singleton] at inside
      have inside : place < adapter.calls.length := by omega
      exact (sound.calls place call ((lookup inside).symm.trans is)).transfer fun _ held => held

theorem register_sound (sound : Sound known adapter)
    (orderly : Orderly known adapter (.register index))
    (taken : step known adapter (.register index) = some next) : Sound known next := by
  cases step_change taken with
  | @register _ call was phase =>
    obtain ⟨isKnown, free⟩ := orderly call was
    have started := sound.calls index call was
    simp only [CallSound, phase] at started
    have untouched : adapter.takeSender call.key .dropped = adapter := by
      rw [takeSender, free]
    rw [untouched]
    have awaits : Awaits { call with phase := .registered } := ⟨.inl rfl, started.1, started.2⟩
    refine sound.of_change (fun other => lookup_modify_other _) (lookup_modify was _) ?_ ?_ ?_
    · intro key owner differs
      show Function.update adapter.pendingAcks call.key (some index) key = some owner ↔ _
      by_cases same : key = call.key
      · subst same
        rw [Function.update_self, free]
        simp [Ne.symm differs]
      · rw [Function.update_of_ne same]
    · intro key held
      refine ⟨show call.key = key from ?_, awaits⟩
      by_contra differs
      have held : Function.update adapter.pendingAcks call.key (some index) key = some index := held
      rw [Function.update_of_ne (Ne.symm differs)] at held
      obtain ⟨owner, is, _, waits⟩ := sound.owner key index held
      obtain rfl := Option.some.inj (was.symm.trans is)
      rcases waits.1 with registered | waiting
      · simp [phase] at registered
      · simp [phase] at waiting
    · exact ⟨isKnown, awaits, Function.update_self ..⟩

theorem send_sound (sound : Sound known adapter)
    (taken : step known adapter (.send index) = some next) : Sound known next := by
  cases step_change taken with
  | @send _ call was phase =>
    have registered := sound.calls index call was
    simp only [CallSound, phase] at registered
    obtain ⟨isKnown, waits, held⟩ := registered
    have awaits : Awaits { call with phase := .waiting } := ⟨.inr rfl, waits.2⟩
    refine sound.of_change (fun other => lookup_modify_other _) (lookup_modify was _)
      (fun _ _ _ => Iff.rfl) ?_ ⟨isKnown, .inl ⟨awaits, held⟩⟩
    intro key held
    obtain ⟨owner, is, keyed, _⟩ := sound.owner key index held
    obtain rfl := Option.some.inj (was.symm.trans is)
    exact ⟨keyed, awaits⟩

-- An answered call awaits nothing: it was answered through its own sender.
theorem ack_sound {result : MavResult} (sound : Sound known adapter)
    (taken : step known adapter (.ack index result) = some next) : Sound known next := by
  cases step_change taken with
  | @ack _ call _ was isSent unanswered =>
    have state := sound.calls index call was
    obtain ⟨phase, isKnown, held⟩ : call.phase = .waiting ∧ known call.mavCmd.command = true ∧
        adapter.pendingAcks call.key = some index := by
      unfold Call.sent at isSent
      cases phase : call.phase with
      | started => simp [phase] at isSent
      | registered => simp [phase] at isSent
      | waiting =>
        simp only [CallSound, phase] at state
        rcases state with ⟨isKnown, ⟨_, held⟩ | ⟨result, answered, _⟩⟩
        · exact ⟨rfl, isKnown, held⟩
        · rw [unanswered] at answered
          cases answered
      | expired => simp only [CallSound, phase] at state
      | returned outcome =>
        simp only [CallSound, phase] at state
        obtain ⟨_, result, answered, _⟩ := state
        rw [unanswered] at answered
        cases answered
    have key : (sentCommand known call.mavCmd).toUInt16 = call.key := by
      rw [sentCommand, if_pos isKnown]
      rfl
    have taken : ((adapter.setAnswer index result).takeSender call.key (.sent result)) =
        { adapter.setAnswer index result with
          pendingAcks := Function.update adapter.pendingAcks call.key none }.setChannel index
            (.sent result) := by
      have held : (adapter.setAnswer index result).pendingAcks call.key = some index := held
      rw [takeSender, held]
      rfl
    rw [key, taken]
    refine sound.of_change ?_ (lookup_modify (lookup_modify was _) _) ?_ ?_
      (by simp only [CallSound, phase]; exact ⟨isKnown, .inr ⟨result, rfl, rfl⟩⟩)
    · intro other differs
      exact (lookup_modify_other _ differs).trans (lookup_modify_other _ differs)
    · intro other owner differs
      show Function.update adapter.pendingAcks call.key none other = some owner ↔ _
      by_cases same : other = call.key
      · subst same
        rw [Function.update_self, held]
        simp [Ne.symm differs]
      · rw [Function.update_of_ne same]
    · intro other still
      have still : Function.update adapter.pendingAcks call.key none other = some index := still
      by_cases same : other = call.key
      · subst same
        rw [Function.update_self] at still
        cases still
      · rw [Function.update_of_ne same] at still
        obtain ⟨owner, is, keyed, _⟩ := sound.owner other index still
        obtain rfl := Option.some.inj (was.symm.trans is)
        exact absurd keyed.symm same

theorem receive_sound (sound : Sound known adapter)
    (taken : step known adapter (.receive index) = some next) : Sound known next := by
  cases step_change taken with
  | @receive _ call result was phase channel =>
    have state := sound.calls index call was
    simp only [CallSound, phase] at state
    rcases state with ⟨isKnown, ⟨awaits, _⟩ | ⟨answer, answered, sent⟩⟩
    · rw [awaits.2.1] at channel
      cases channel
    · obtain rfl : result = answer := Channel.sent.inj (channel.symm.trans sent)
      refine sound.of_change (fun other => lookup_modify_other _) (lookup_modify was _)
        (fun _ _ _ => Iff.rfl) ?_ ⟨isKnown, result, answered, rfl⟩
      intro key held
      obtain ⟨owner, is, _, awaits⟩ := sound.owner key index held
      obtain rfl := Option.some.inj (was.symm.trans is)
      rw [awaits.2.2] at answered
      cases answered
  | @disconnect _ call was phase channel =>
    have state := sound.calls index call was
    simp only [CallSound, phase] at state
    rcases state with ⟨_, ⟨awaits, _⟩ | ⟨answer, _, sent⟩⟩
    · rw [awaits.2.1] at channel
      cases channel
    · rw [sent] at channel
      cases channel

theorem step_sound {action : Action} (sound : Sound known adapter)
    (orderly : Orderly known adapter action) (taken : step known adapter action = some next) :
    Sound known next := by
  cases action with
  | sendCommand cmd => exact sendCommand_sound sound orderly taken
  | register index => exact register_sound sound orderly taken
  | send index => exact send_sound sound taken
  | sendFails index context => exact orderly.elim
  | ack index result => exact ack_sound sound taken
  | receive index => exact receive_sound sound taken
  | deadline index =>
    cases step_change taken with
    | @deadline _ call result was phase channel answered =>
      have state := sound.calls index call was
      simp only [CallSound, phase] at state
      rcases state with ⟨_, ⟨awaits, _⟩ | ⟨answer, _, sent⟩⟩
      · rw [awaits.2.2] at answered
        cases answered
      · rw [sent] at channel
        cases channel
  | removeWaiter index =>
    cases step_change taken with
    | @removeWaiter _ call was phase =>
      have state := sound.calls index call was
      simp only [CallSound, phase] at state

theorem Sound.served (sound : Sound known adapter) : Served known adapter := by
  intro index call is
  have state := sound.calls index call is
  have command (isKnown : known call.mavCmd.command = true) :
      sentCommand known call.mavCmd = call.mavCmd.command := by
    rw [sentCommand, if_pos isKnown]
  unfold CallServed
  cases phase : call.phase with
  | started => trivial
  | registered => trivial
  | waiting =>
    intro answered
    simp only [CallSound, phase] at state
    rcases state with ⟨isKnown, ⟨awaits, _⟩ | ⟨result, answer, sent⟩⟩
    · rw [awaits.2.2] at answered
      cases answered
    · exact ⟨result, ⟨index, call, is, command isKnown, answer⟩, sent⟩
  | expired => simp only [CallSound, phase] at state
  | returned outcome =>
    simp only [CallSound, phase] at state
    obtain ⟨isKnown, result, answer, reply⟩ := state
    exact ⟨result, ⟨index, call, is, command isKnown, answer⟩, reply⟩

/-- In an orderly run every call is served in every state, whatever the order of the steps. -/
theorem orderly_runs_serve (known : UInt32 → Bool) (actions : List Action)
    (orderly : Along (step known) (Orderly known) start actions) :
    Throughout (step known) (Served known) start actions := by
  have begin_sound : Sound known start := by
    constructor
    · intro key index held
      cases held
    · intro index call is
      cases is
  exact throughout_of_along (fun _ _ _ sound orderly taken => step_sound sound orderly taken)
    (fun _ sound => sound.served) begin_sound orderly

/-! ## Two calls under one id -/

def armDisarm : UInt32 → Bool := fun command => command == 400

def armCommand (commandId : String) : CommandEnvelope :=
  ⟨"v1", commandId, [0x08, 0x90, 0x03], .normal, 0⟩

theorem single_call_served : Throughout (step armDisarm) (Served armDisarm) start
    [.sendCommand (armCommand "c1"), .register 0, .send 0, .ack 0 .accepted, .receive 0] := by
  apply orderly_runs_serve
  refine .cons rfl ⟨_, rfl⟩ (.cons rfl ?_ (.cons rfl trivial (.cons rfl trivial (.cons rfl trivial
    (.nil _)))))
  intro call is
  obtain rfl := Option.some.inj is
  exact ⟨rfl, rfl⟩

/-- Both COMMAND_LONGs are answered, but the second call replaced the first one's sender. -/
def twoArms : List Action :=
  [.sendCommand (armCommand "c1"), .sendCommand (armCommand "c2"), .register 0, .register 1,
    .send 0, .send 1, .ack 0 .accepted, .ack 1 .accepted, .receive 0, .removeWaiter 0]

theorem replaced_waiter_times_out :
    (∃ final call, exec (step armDisarm) start twoArms = some final ∧
      final.calls[0]? = some call ∧ call.answer = some .accepted ∧
      call.phase = .returned (.ok (timeoutReply call))) ∧
    ¬ Throughout (step armDisarm) (Served armDisarm) start twoArms := by
  have ran : ∃ final call, exec (step armDisarm) start twoArms = some final ∧
      final.calls[0]? = some call ∧ call.answer = some .accepted ∧
      call.phase = .returned (.ok (timeoutReply call)) := ⟨_, _, rfl, rfl, rfl, rfl⟩
  refine ⟨ran, fun all => ?_⟩
  obtain ⟨final, call, ran, is, _, phase⟩ := ran
  have served := throughout_iff_prefixes.mp all twoArms [] final (List.append_nil _).symm ran 0
    call is
  simp only [CallServed, phase] at served
  obtain ⟨result, _, reply⟩ := served
  have status : AckStatus.timeout = result.status :=
    congrArg Reply.status (Except.ok.inj reply)
  cases result <;> cases status

end Adapter

end SystemScale.Agent.Mavlink
