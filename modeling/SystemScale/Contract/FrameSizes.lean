import SystemScale.Agent.CommandCodec
import SystemScale.Agent.Encode
import SystemScale.Agent.LocalApi
import SystemScale.Agent.Ring
import SystemScale.Cloud.Commands
import SystemScale.Relay.Telemetry

set_option autoImplicit false

/-!
# The sizes of the frames between agent and relay

Only the readers have limits. What one side admits is measured here, and compared with what the
reader of the other side takes.
-/

namespace SystemScale.Contract

open AdapterTrait Agent Relay Wire

/-! ## What the two sides write -/

/-- A length-delimited field with one byte of tag. -/
def delimitedSize (length : Nat) : Nat := 1 + (Varint.varint length).length + length

def varintSize (word : UInt64) : Nat := 1 + (Varint.varint word.toNat).length

theorem bytes_low {number : Nat} (low : number < 16) (payload : Payload) :
    Field.bytes ⟨number, payload⟩ =
      [UInt8.ofNat (number * 8 + payload.wireType)] ++ payload.bytes := by
  have code := payload.wireType_lt
  rw [Field.bytes, Field.tag, Varint.varint_of_lt (by simp only; omega)]

theorem length_delimited {number : Nat} (low : number < 16) (data : List UInt8) :
    (Field.bytes ⟨number, .delimited data⟩).length = delimitedSize data.length := by
  rw [bytes_low low, Payload.bytes, delimitedSize, List.length_append, List.length_append,
    List.length_singleton, Nat.add_assoc]

theorem length_varint_field {number : Nat} (low : number < 16) (word : UInt64) :
    (Field.bytes ⟨number, .varint word⟩).length = varintSize word := by
  rw [bytes_low low, Payload.bytes, varintSize, List.length_append, List.length_singleton]

theorem length_fixed64_field {number : Nat} (low : number < 16) (bits : UInt64) :
    (Field.bytes ⟨number, .fixed64 bits⟩).length = 9 := by
  rw [bytes_low low, Payload.bytes, List.length_append, Bytes.length_leBytes, List.length_singleton]

theorem length_fixed32_field {number : Nat} (low : number < 16) (bits : UInt32) :
    (Field.bytes ⟨number, .fixed32 bits⟩).length = 5 := by
  rw [bytes_low low, Payload.bytes, List.length_append, Bytes.length_leBytes, List.length_singleton]

def ackSize (commandId message : String) (ackTimeNs : UInt64) : Nat :=
  delimitedSize (Utf8.encode commandId).length + 2 +
  (if message ≠ "" then delimitedSize (Utf8.encode message).length else 0) + varintSize ackTimeNs

def envelopeSize (env : DataEnvelope) : Nat :=
  delimitedSize (Utf8.encode env.vehicleId).length + varintSize env.timestampNs +
  varintSize env.streamType.toU64 + delimitedSize env.payload.length +
  (if nonzeroF64 env.lat then 18 else 0) + (if nonzeroF32 env.alt then 5 else 0) +
  varintSize env.seq.toUInt64

theorem payload_le_envelopeSize (env : DataEnvelope) : env.payload.length ≤ envelopeSize env := by
  simp only [envelopeSize, delimitedSize]
  omega

def commandSize (cmd : Cloud.CommandEnvelope) : Nat :=
  delimitedSize cmd.vehicleID.length + delimitedSize cmd.commandID.length +
  delimitedSize cmd.payload.length + varintSize cmd.priority.toInt64.toUInt64 +
  (if cmd.issuerID ≠ [] then delimitedSize cmd.issuerID.length else 0) +
  (if cmd.issuedAt > 0 then varintSize cmd.issuedAt else 0) +
  (if cmd.ttlMs > 0 then varintSize cmd.ttlMs.toUInt64 else 0)

theorem length_encodeAck (ack : Ack) :
    (encodeAck ack).length = ackSize ack.commandId ack.message ack.ackTimeNs := by
  have status : varintSize (ackStatusVal ack.status) = 2 := by
    cases ack.status <;> simp [ackStatusVal, varintSize, Varint.varint_of_lt]
  rw [encodeAck_eq, ackFields, ackSize]
  split_ifs <;> simp [length_delimited, length_varint_field, status, Nat.add_assoc]

theorem length_encodeEnvelope (env : DataEnvelope) :
    (encodeEnvelopeToBuf env).length = envelopeSize env := by
  rw [encodeEnvelopeToBuf_eq, envelopeFields, envelopeSize]
  split_ifs <;>
    simp [length_delimited, length_varint_field, length_fixed64_field, length_fixed32_field,
      Nat.add_assoc] <;>
    omega

theorem length_encodeCommand {cmd : Cloud.CommandEnvelope}
    (held : (Cloud.encodeCommandEnvelope cmd).length < 2 ^ 63) :
    (Cloud.encodeCommandEnvelope cmd).length = commandSize cmd := by
  rw [Cloud.encodeCommandEnvelope_eq cmd held, Cloud.commandFields, commandSize]
  split_ifs <;> simp [length_delimited, length_varint_field, Nat.add_assoc]

/-! ## The search for the stream type -/

theorem read_taken (word : UInt64) (rest : List UInt8) (kept : Nat) :
    Varint.read ((Varint.varint word.toNat ++ rest).take kept) =
      if (Varint.varint word.toNat).length ≤ kept then
        .value word (Varint.varint word.toNat).length
      else .truncated := by
  by_cases whole : (Varint.varint word.toNat).length ≤ kept
  · rw [if_pos whole, List.take_append, List.take_of_length_le whole, Varint.read_varint]
  · rw [if_neg whole, List.take_append_of_le_length (by omega),
      Varint.read_cut word.toNat_lt (by omega)]

theorem fastReadStep_behind {buf : List UInt8} {pos : Nat} (behind : buf.length ≤ pos) :
    fastReadStep buf pos = .done 1 := by
  rw [fastReadStep, if_neg (by omega)]

section Taken

variable {buf rest : List UInt8} {kept : Nat}

theorem fast_taken (before : List UInt8) (word : UInt64)
    (is : buf = (before ++ (Varint.varint word.toNat ++ rest)).take kept) :
    protoReadVarintFast buf before.length =
      if (Varint.varint word.toNat).length ≤ kept - before.length then
        (some word, before.length + (Varint.varint word.toNat).length)
      else (none, max before.length buf.length) := by
  have here : buf.drop before.length =
      (Varint.varint word.toNat ++ rest).take (kept - before.length) := by
    rw [is, List.drop_take, List.drop_left]
  rw [protoReadVarintFast, here, read_taken]
  split_ifs <;> rfl

theorem tag_taken (before : List UInt8) {tag : UInt64} (small : tag.toNat < 128)
    (is : buf = (before ++ (Varint.varint tag.toNat ++ rest)).take kept)
    (inside : before.length < buf.length) :
    protoReadVarintFast buf before.length = (some tag, before.length + 1) := by
  have one : (Varint.varint tag.toNat).length = 1 := by rw [Varint.varint_of_lt small]; rfl
  have room : before.length < kept := by
    rw [is, List.length_take] at inside
    omega
  rw [fast_taken before tag is, one, if_pos (by omega)]

end Taken

section Search

variable {buf before rest : List UInt8} {kept : Nat}

theorem loop_time {time : UInt64} {fuel : Nat}
    (is : buf = (before ++ (Field.bytes ⟨2, .varint time⟩ ++ rest)).take kept)
    (later : (loop (fastReadStep buf) (fuel + 1)
      (before ++ Field.bytes ⟨2, .varint time⟩).length).isSome) :
    (loop (fastReadStep buf) (fuel + 2) before.length).isSome := by
  by_cases inside : before.length < buf.length ∧ before.length < 64
  · have tag : protoReadVarintFast buf before.length = (some 16, before.length + 1) :=
      tag_taken before (by decide) (by rw [is, Field.bytes, List.append_assoc]; rfl) inside.1
    have behind : buf =
        (before ++ [16] ++ (Varint.varint time.toNat ++ rest)).take kept := by
      rw [is, bytes_low (by decide), List.append_assoc, List.append_assoc]
      rfl
    have value := fast_taken (before ++ [16]) time behind
    rw [List.length_append, List.length_singleton] at value
    have step : fastReadStep buf before.length =
        .next (protoReadVarintFast buf (before.length + 1)).2 := by
      rw [fastReadStep, if_pos inside, tag]
      rfl
    rw [loop_next _ step, value]
    split_ifs with whole
    · have size : (before ++ Field.bytes ⟨2, .varint time⟩).length =
          before.length + 1 + (Varint.varint time.toNat).length := by
        rw [List.length_append, length_varint_field (by decide), varintSize, Nat.add_assoc]
      rwa [size] at later
    · rw [loop_done _ (fastReadStep_behind (by simp))]
      rfl
  · have step : fastReadStep buf before.length = .done 1 := by rw [fastReadStep, if_neg inside]
    rw [loop_done _ step]
    rfl

theorem loop_kind (kind : UInt64) {fuel : Nat}
    (is : buf = (before ++ (Field.bytes ⟨3, .varint kind⟩ ++ rest)).take kept) :
    (loop (fastReadStep buf) (fuel + 1) before.length).isSome := by
  by_cases inside : before.length < buf.length ∧ before.length < 64
  · have tag : protoReadVarintFast buf before.length = (some 24, before.length + 1) :=
      tag_taken before (by decide) (by rw [is, Field.bytes, List.append_assoc]; rfl) inside.1
    have step : fastReadStep buf before.length =
        .done ((protoReadVarintFast buf (before.length + 1)).1.getD 0).toUInt32 := by
      rw [fastReadStep, if_pos inside, tag]
      rfl
    rw [loop_done _ step]
    rfl
  · have step : fastReadStep buf before.length = .done 1 := by rw [fastReadStep, if_neg inside]
    rw [loop_done _ step]
    rfl

theorem step_vehicle {vehicle : List UInt8} (held : vehicle.length < 2 ^ 63) (room : 11 ≤ kept)
    (is : buf = (Field.bytes ⟨1, .delimited vehicle⟩ ++ rest).take kept) :
    fastReadStep buf 0 = .next (Field.bytes ⟨1, .delimited vehicle⟩).length := by
  have short : (Varint.varint vehicle.length).length ≤ 10 := Varint.length_varint_word (by omega)
  have word : (UInt64.ofNat vehicle.length).toNat = vehicle.length := Varint.word_ofNat (by omega)
  have size : (Field.bytes ⟨1, .delimited vehicle⟩).length = delimitedSize vehicle.length :=
    length_delimited (by decide) vehicle
  have nonempty : 0 < buf.length := by
    rw [is, List.length_take, List.length_append, size, delimitedSize]
    omega
  have tag : protoReadVarintFast buf 0 = (some 10, 0 + 1) :=
    tag_taken [] (by decide) (by rw [is, Field.bytes, List.append_assoc]; rfl) nonempty
  have behind : buf = ([10] ++ (Varint.varint (UInt64.ofNat vehicle.length).toNat ++
      (vehicle ++ rest))).take kept := by
    rw [is, word, bytes_low (by decide), Payload.bytes, List.append_assoc, List.append_assoc]
    rfl
  have length := fast_taken [10] (UInt64.ofNat vehicle.length) behind
  rw [word, if_pos (by simp; omega), List.length_singleton] at length
  rw [fastReadStep, if_pos ⟨nonempty, by decide⟩, tag]
  have step : (1 + (Varint.varint vehicle.length).length + vehicle.length) % 2 ^ 64 =
      (Field.bytes ⟨1, .delimited vehicle⟩).length := by
    rw [size, delimitedSize]
    exact Nat.mod_eq_of_lt (by omega)
  rw [← step]
  show Step.next (((protoReadVarintFast buf 1).2 +
    ((protoReadVarintFast buf 1).1.getD 0).toNat) % 2 ^ 64) = _
  rw [length, Option.getD_some, word]

end Search

theorem stored_survives (geometry : Geometry) (env : DataEnvelope) :
    (fastReadStreamType (stored geometry env)).isSome := by
  have held := env.held
  have room := geometry.room
  simp only [headerSize] at room
  obtain ⟨tail, fields⟩ : ∃ tail, envelopeFields env =
      ⟨1, .delimited (Utf8.encode env.vehicleId)⟩ :: ⟨2, .varint env.timestampNs⟩ ::
        ⟨3, .varint env.streamType.toU64⟩ :: tail := ⟨_, rfl⟩
  rw [stored, encodeEnvelopeToBuf_eq, fields, encode_cons, encode_cons, encode_cons,
    fastReadStreamType, loop_next 64 (step_vehicle (by omega) _ rfl)]
  · exact loop_time rfl (loop_kind env.streamType.toU64 (by rw [List.append_assoc]))
  · simp only [Geometry.maxPayload, headerSize]
    omega

/-! ## What the readers take -/

theorem ack_taken_iff (vehicleId : String) (ack : Ack) :
    (receiveCommandAcks vehicleId).Takes (encodeAck ack) ↔
      ackSize ack.commandId ack.message ack.ackTimeNs ≤ 4096 := by
  have accepted := receiveCommandAcks_accepts vehicleId (encodeAck ack)
  rw [Frames.Reader.takes_iff _ (by simp [receiveCommandAcks]), ← length_encodeAck,
    and_iff_left accepted]
  rfl

theorem openRing_slotSize {geometry : Geometry} {config : RingBufferConfig} {file : List UInt8}
    {ring : Agent.Ring geometry} (opened : openRing config file = .ok ⟨geometry, ring⟩) :
    geometry.slotSize = config.slotSize.toNat := by
  simp only [openRing] at opened
  split_ifs at opened
  cases opened
  rfl

theorem stored_taken_iff (vehicleId : String) (geometry : Geometry) (env : DataEnvelope) :
    (handleTelemetryStream vehicleId).Takes (stored geometry env) ↔
      envelopeSize env ≤ 65536 ∨ geometry.slotSize ≤ 65552 := by
  have size : (stored geometry env).length = min geometry.maxPayload (envelopeSize env) := by
    rw [stored, List.length_take, length_encodeEnvelope]
  have room : geometry.maxPayload = geometry.slotSize - 16 := rfl
  have limit : (handleTelemetryStream vehicleId).limit = 65536 := rfl
  rw [Frames.Reader.takes_iff _ (by omega), limit]
  constructor
  · rintro ⟨small, _⟩
    omega
  · intro either
    have small : (stored geometry env).length ≤ 65536 := by omega
    exact ⟨small, (handleTelemetryStream_accepts small).mpr (stored_survives geometry env)⟩

theorem decode_survives {cmd : Cloud.CommandEnvelope}
    (held : (Cloud.encodeCommandEnvelope cmd).length < 2 ^ 63) :
    decodeCommandEnvelope (Cloud.encodeCommandEnvelope cmd) ≠ .panic := by
  have written := Cloud.encodeCommandEnvelope_eq cmd held
  rw [written] at held ⊢
  rw [decodeCommandEnvelope_encode _ (Cloud.commandFields_number cmd) held, finishCommandEnvelope]
  split_ifs <;> simp

theorem command_taken_iff (cmd : Cloud.CommandEnvelope) :
    receiveCommandsLoop.Takes (Cloud.encodeCommandEnvelope cmd) ↔ commandSize cmd ≤ 65536 := by
  have limit : receiveCommandsLoop.limit = 65536 := rfl
  rw [Frames.Reader.takes_iff _ (by omega), limit, receiveCommandsLoop_accepts]
  by_cases held : (Cloud.encodeCommandEnvelope cmd).length < 2 ^ 63
  · rw [length_encodeCommand held]
    exact and_iff_left (decode_survives held)
  · have more := Cloud.length_encodeCommandEnvelope_le cmd
    have issuer : (if cmd.issuerID ≠ [] then delimitedSize cmd.issuerID.length else 0) ≥
        cmd.issuerID.length := by
      split_ifs with unnamed
      · simp [delimitedSize]
      · simp [not_not.mp unnamed]
    constructor
    · rintro ⟨small, _⟩
      omega
    · intro small
      simp only [commandSize] at small
      simp only [delimitedSize] at small issuer
      omega

/-- Which of the messages that one side admits the other side's reader takes. -/
theorem messages_taken_iff (vehicleId : String) :
    (∀ ack : Ack, (receiveCommandAcks vehicleId).Takes (encodeAck ack) ↔
      ackSize ack.commandId ack.message ack.ackTimeNs ≤ 4096) ∧
    (∀ ackRoom commandId req nowNs ack,
      handleAck ackRoom commandId req nowNs = .ok (200, some ack) →
        ((receiveCommandAcks vehicleId).Takes (encodeAck ack) ↔
          ackSize commandId req.message nowNs ≤ 4096)) ∧
    (∀ config file geometry, ∀ ring : Agent.Ring geometry, openRing config file = .ok ⟨geometry, ring⟩ →
      ∀ env, (handleTelemetryStream vehicleId).Takes (stored geometry env) ↔
        envelopeSize env ≤ 65536 ∨ config.slotSize.toNat ≤ 65552) ∧
    (∀ cmd, receiveCommandsLoop.Takes (Cloud.encodeCommandEnvelope cmd) ↔
      commandSize cmd ≤ 65536) ∧
    ∀ claims body commandID now subject encoded id,
      Cloud.handleSendCommand claims body commandID now = .published subject encoded id →
        ∃ cmd, encoded = Cloud.encodeCommandEnvelope cmd ∧
          (receiveCommandsLoop.Takes encoded ↔ commandSize cmd ≤ 65536) := by
  refine ⟨ack_taken_iff vehicleId, ?_, ?_, command_taken_iff, ?_⟩
  · intro ackRoom commandId req nowNs ack accepted
    obtain ⟨rfl, message, rfl⟩ := handleAck_accepted accepted
    rw [ack_taken_iff, message]
  · intro config file geometry ring opened env
    rw [stored_taken_iff, openRing_slotSize opened]
  · intro claims body commandID now subject encoded id published
    obtain ⟨_, cmd, _, _, _, _, rfl⟩ := Cloud.handleSendCommand_published published
    exact ⟨cmd, rfl, command_taken_iff cmd⟩

-- An SDK that is done with a command and reports at length.
def report (length : Nat) : AckRequest := ⟨"completed", String.ofList (List.replicate length 'a')⟩

def longReport : AckRequest := report 4096

def largeEnvelope : DataEnvelope where
  vehicleId := "v"
  timestampNs := 0
  streamType := .log
  payload := List.replicate 66000 0
  lat := 0
  lon := 0
  alt := 0
  seq := 0
  fleetId := ""
  orgId := ""
  streamName := ""
  senderId := ""
  senderType := ""
  receiverId := ""
  receiverType := ""
  held := by rw [List.length_replicate]; decide

def largeCommand : Cloud.CommandEnvelope :=
  ⟨Utf8.encode "v", Utf8.encode "c", List.replicate 65536 0, 0, [], 0, 0⟩

theorem length_report (length : Nat) : (Utf8.encode (report length).message).length = length := by
  rw [report, Utf8.encode, String.toList_ofList]
  induction length with
  | zero => rfl
  | succ length ih =>
    rw [List.replicate_succ, List.flatMap_cons, List.length_append, ih, Nat.add_comm]
    rfl

theorem oversized_not_taken :
    (∃ ack, handleAck true "c" longReport 0 = .ok (200, some ack) ∧
      ¬ (receiveCommandAcks "v").Takes (encodeAck ack)) ∧
    (∃ geometry ring, openRing ⟨1048576, 70000⟩ [] = .ok ⟨geometry, ring⟩ ∧
      ¬ (handleTelemetryStream "v").Takes (stored geometry largeEnvelope)) ∧
    ¬ receiveCommandsLoop.Takes (Cloud.encodeCommandEnvelope largeCommand) := by
  refine ⟨?_, ?_, ?_⟩
  · have size : (Utf8.encode longReport.message).length = 4096 := length_report 4096
    have held : (Utf8.encode "c").length + (Utf8.encode longReport.message).length + 128 < 2 ^ 63 := by
      rw [size]
      decide
    have accepted : handleAck true "c" longReport 0 =
        .ok (200, some ⟨"c", .completed, longReport.message, 0, held⟩) := by
      rw [handleAck, dif_pos held]
      rfl
    refine ⟨_, accepted, ?_⟩
    rw [ack_taken_iff, ackSize, size]
    have filled : longReport.message ≠ "" := by
      intro empty
      rw [empty] at size
      simp at size
    rw [if_pos filled, delimitedSize, delimitedSize]
    omega
  · refine ⟨_, _, rfl, ?_⟩
    rw [stored_taken_iff]
    have payload : largeEnvelope.payload.length = 66000 := List.length_replicate
    have size : 66000 ≤ envelopeSize largeEnvelope := payload ▸ payload_le_envelopeSize largeEnvelope
    rintro (small | narrow)
    · omega
    · exact absurd narrow (by decide)
  · have payload : largeCommand.payload.length = 65536 := List.length_replicate
    rw [command_taken_iff, commandSize, payload]
    simp only [delimitedSize]
    omega

end SystemScale.Contract
