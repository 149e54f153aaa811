import SystemScale.Agent.Mavlink

set_option autoImplicit false

/-!
# The COMMAND_LONG of a call

The number of a command is narrowed to 16 bits for the waiter, and looked up among the members of
`MavCmd` for the frame.
-/

namespace SystemScale.Agent.Mavlink

structure MavlinkAdapterConfig where
  gcsSystemId : UInt8 := 255
  gcsComponentId : UInt8 := 190

structure MavHeader where
  systemId : UInt8
  componentId : UInt8
  sequence : UInt8

/-- `COMMAND_LONG_DATA`. The command is the number of its `MavCmd`. -/
structure CommandLong where
  param1 : UInt32
  param2 : UInt32
  param3 : UInt32
  param4 : UInt32
  param5 : UInt32
  param6 : UInt32
  param7 : UInt32
  command : UInt32
  targetSystem : UInt8
  targetComponent : UInt8
  confirmation : UInt8

/-- The command's id in the frame, which has 16 bits. The autopilot echoes it. -/
def CommandLong.wireId (message : CommandLong) : UInt16 := message.command.toUInt16

def CommandLong.params (message : CommandLong) : List UInt32 :=
  [message.param1, message.param2, message.param3, message.param4, message.param5,
    message.param6, message.param7]

def MavlinkCommandDecoded.params (mavCmd : MavlinkCommandDecoded) : List UInt32 :=
  [mavCmd.param1, mavCmd.param2, mavCmd.param3, mavCmd.param4, mavCmd.param5, mavCmd.param6,
    mavCmd.param7]

def commandLong (known : UInt32 → Bool) (mavCmd : MavlinkCommandDecoded) : CommandLong where
  param1 := mavCmd.param1
  param2 := mavCmd.param2
  param3 := mavCmd.param3
  param4 := mavCmd.param4
  param5 := mavCmd.param5
  param6 := mavCmd.param6
  param7 := mavCmd.param7
  command := sentCommand known mavCmd
  targetSystem := 1
  targetComponent := 1
  confirmation := 0

inductive Transmission where
  | failed (context : String)
  | sent (waiter : UInt16) (header : MavHeader) (message : CommandLong)

/-- `send_command` up to its wait. `serialises` and `sends` tell whether `write_v2_msg` and the
socket take the frame. -/
def transmit (known : UInt32 → Bool) (serialises sends : MavHeader → CommandLong → Bool)
    (config : MavlinkAdapterConfig) (seq : UInt8) (payload : List UInt8) : Transmission :=
  match decodeMavlinkCommand payload with
  | .error _ => .failed "decoding CommandEnvelope payload as MavlinkCommand proto"
  | .ok mavCmd =>
    let cmdId := mavCmd.command.toUInt16
    let header := ⟨config.gcsSystemId, config.gcsComponentId, seq⟩
    let message := commandLong known mavCmd
    if serialises header message then
      if sends header message then .sent cmdId header message
      else .failed "sending MAVLink COMMAND_LONG via UDP"
    else .failed "serializing MAVLink COMMAND_LONG"

/-- The frame says what was decoded, and its answer finds the waiter. -/
structure Exact (mavCmd : MavlinkCommandDecoded) (waiter : UInt16) (message : CommandLong) :
    Prop where
  command : message.wireId.toNat = mavCmd.command.toNat
  params : message.params = mavCmd.params
  waiter : waiter = message.wireId

def SendsExactly (mavCmd : MavlinkCommandDecoded) : Transmission → Prop
  | .failed _ => True
  | .sent waiter _ message => Exact mavCmd waiter message

section Calls

variable {known : UInt32 → Bool} {mavCmd : MavlinkCommandDecoded} {payload : List UInt8}

theorem commandLong_exact_iff :
    Exact mavCmd mavCmd.command.toUInt16 (commandLong known mavCmd) ↔
      mavCmd.command.toNat < 2 ^ 16 ∧
        (known mavCmd.command = true ∨ mavCmd.command = mavCmdDoSetMode) := by
  have same (is : (commandLong known mavCmd).command = mavCmd.command)
      (narrow : mavCmd.command.toNat < 2 ^ 16) :
      Exact mavCmd mavCmd.command.toUInt16 (commandLong known mavCmd) := by
    refine ⟨?_, rfl, ?_⟩
    · rw [CommandLong.wireId, is, UInt32.toNat_toUInt16, Nat.mod_eq_of_lt narrow]
    · rw [CommandLong.wireId, is]
  constructor
  · rintro ⟨command, _, _⟩
    have narrow : mavCmd.command.toNat < 2 ^ 16 := command ▸ UInt16.toNat_lt _
    refine ⟨narrow, ?_⟩
    by_cases member : known mavCmd.command = true
    · exact .inl member
    · have fallback : (commandLong known mavCmd).command = mavCmdDoSetMode := if_neg member
      rw [CommandLong.wireId, fallback] at command
      exact .inr (UInt32.toNat_inj.mp command.symm)
  · rintro ⟨narrow, member | fallback⟩
    · exact same (if_pos member) narrow
    · refine same ?_ narrow
      show sentCommand known mavCmd = mavCmd.command
      rw [sentCommand, fallback]
      split_ifs <;> rfl

/-- A command is sent as it is exactly if `MavCmd` knows it and it has 16 bits. -/
theorem command_sent_exactly_iff (decoded : decodeMavlinkCommand payload = .ok mavCmd) :
    (∀ serialises sends config seq,
      SendsExactly mavCmd (transmit known serialises sends config seq payload)) ↔
      mavCmd.command.toNat < 2 ^ 16 ∧
        (known mavCmd.command = true ∨ mavCmd.command = mavCmdDoSetMode) := by
  rw [← commandLong_exact_iff]
  constructor
  · intro always
    have sent := always (fun _ _ => true) (fun _ _ => true) {} 0
    rw [transmit, decoded] at sent
    exact sent
  · intro exactly serialises sends config seq
    rw [transmit, decoded]
    simp only
    split_ifs
    · exact exactly
    · trivial
    · trivial

end Calls

/-- Two of the many members of `MavCmd`: setting the mode and arming. -/
def someCommands : UInt32 → Bool := fun command => command == 176 || command == 400

theorem arm_sent_exactly :
    decodeMavlinkCommand [0x08, 0x90, 0x03] = .ok ⟨400, 0, 0, 0, 0, 0, 0, 0⟩ ∧
      ∀ serialises sends config seq, SendsExactly ⟨400, 0, 0, 0, 0, 0, 0, 0⟩
        (transmit someCommands serialises sends config seq [0x08, 0x90, 0x03]) :=
  ⟨rfl, (command_sent_exactly_iff rfl).mpr ⟨by decide, .inl rfl⟩⟩

/-- Command 99999, of which no member of `MavCmd` is, sets the mode. -/
theorem unknown_command_sets_mode :
    (∃ header message, transmit someCommands (fun _ _ => true) (fun _ _ => true) {} 0
        [0x08, 0x9F, 0x8D, 0x06] = .sent 34463 header message ∧ message.wireId = 176) ∧
    ¬ ∀ serialises sends config seq,
      SendsExactly ⟨99999, 0, 0, 0, 0, 0, 0, 0⟩
        (transmit someCommands serialises sends config seq [0x08, 0x9F, 0x8D, 0x06]) := by
  refine ⟨⟨_, _, rfl, rfl⟩, fun always => ?_⟩
  have sent := always (fun _ _ => true) (fun _ _ => true) {} 0
  exact absurd sent.command (by decide)

end SystemScale.Agent.Mavlink
