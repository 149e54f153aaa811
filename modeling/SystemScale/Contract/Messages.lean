import SystemScale.Agent.Encode
import SystemScale.Cloud.CommandCodec
import SystemScale.Cloud.IngestCodec
import SystemScale.Relay.GatewayCodec

set_option autoImplicit false

/-!
# What the services read of the agent's messages

The relay forwards both kinds of message byte for byte, so each is what a service's decoder makes
of what an agent's writer wrote.
-/

namespace SystemScale.Contract

open AdapterTrait Agent Cloud Relay Wire

/-! ## Acknowledgments -/

-- What is left of an acknowledgment: the decoder looks for the status in field 3 and the message
-- in field 4, where the agent writes the message and the time.
def receivedAck (ack : Ack) : CommandAck :=
  { CommandAck.empty with commandID := Utf8.encode ack.commandId }

theorem decodeCommandAck_encodeAck (ack : Ack) :
    decodeCommandAck (encodeAck ack) = .ok (receivedAck ack) := by
  have good : ∀ field ∈ ackFields ack, AckField field := by
    intro field member
    have small := (ackFields_small ack field member).1
    refine ⟨by omega, ?_⟩
    unfold ackFields at member
    split_ifs at member <;> simp at member <;> rcases member with rfl | rfl | rfl | rfl <;>
      simp [Payload.wireType]
  rw [encodeAck_eq, decodeCommandAck_encode _ good (ack_held ack)]
  unfold ackFields
  split_ifs <;> rfl

/-- The outcome an acknowledgment reports has the name that command-api shows. -/
def NamesOutcome (status : AckStatus) (name : String) : Prop :=
  match status with
  | .accepted => True
  | .completed => name = "completed"
  | .failed => name = "failed"
  | .timeout => name = "timeout"
  | .rejected => name ≠ "completed" ∧ name ≠ "pending"

def AckDelivered (ack : Ack) (received : Outcome CommandAck) : Prop :=
  ∃ decoded, received = .ok decoded ∧
    decoded.commandID = Utf8.encode ack.commandId ∧
    decoded.message = Utf8.encode ack.message ∧
    NamesOutcome ack.status (commandStatusNames decoded.status)

theorem ack_delivered_iff (ack : Ack) :
    AckDelivered ack (decodeCommandAck (encodeAck ack)) ↔
      ack.status = .accepted ∧ ack.message = "" := by
  rw [decodeCommandAck_encodeAck]
  have pending : commandStatusNames (receivedAck ack).status = "pending" := rfl
  constructor
  · rintro ⟨decoded, read, _, message, outcome⟩
    obtain rfl := Outcome.ok.inj read
    rw [pending] at outcome
    refine ⟨?_, Utf8.encode_eq_nil.mp message.symm⟩
    cases status : ack.status with
    | accepted => rfl
    | completed => simp [status, NamesOutcome] at outcome
    | rejected => simp [status, NamesOutcome] at outcome
    | failed => simp [status, NamesOutcome] at outcome
    | timeout => simp [status, NamesOutcome] at outcome
  · rintro ⟨status, message⟩
    exact ⟨_, rfl, rfl, (Utf8.encode_eq_nil.mpr message).symm, by rw [status]; trivial⟩

-- A completed command is shown as pending.
theorem completed_ack_not_delivered :
    ¬ AckDelivered ⟨"c1", .completed, "", 7, by decide⟩
      (decodeCommandAck (encodeAck ⟨"c1", .completed, "", 7, by decide⟩)) := by
  rintro ⟨decoded, read, _, _, outcome⟩
  rw [decodeCommandAck_encodeAck] at read
  obtain rfl := Outcome.ok.inj read
  have shown : "pending" = "completed" := outcome
  simp at shown

/-! ## Envelopes -/

def ingested (env : DataEnvelope) : Envelope :=
  { Envelope.empty with
    vehicleID := Utf8.encode env.vehicleId
    timestampNs := env.timestampNs
    streamType := env.streamType.toU64
    payload := env.payload
    lat := if nonzeroF64 env.lat then env.lat else 0
    lon := if nonzeroF64 env.lat then env.lon else 0
    alt := if nonzeroF32 env.alt then env.alt else 0
    seq := env.seq.toUInt64 }

theorem envelope_numbers (env : DataEnvelope) :
    ∀ field ∈ envelopeFields env, field.number < 2 ^ 29 := by
  intro field member
  have small := (envelopeFields_small env field member).1
  omega

theorem decodeDataEnvelope_encodeEnvelope (env : DataEnvelope) :
    decodeDataEnvelope (encodeEnvelopeToBuf env) = .ok (ingested env) := by
  rw [encodeEnvelopeToBuf_eq,
    decodeDataEnvelope_encode _ (envelope_numbers env) (envelope_held env)]
  unfold envelopeFields ingested
  split_ifs <;> rfl

theorem decodeEnvelopeRouting_encodeEnvelope (env : DataEnvelope) :
    decodeEnvelopeRouting (encodeEnvelopeToBuf env) = .ok (some (env.vehicleId, env.payload)) := by
  rw [encodeEnvelopeToBuf_eq, decodeEnvelopeRouting,
    decode_encode _ _ _ (envelope_numbers env) (envelope_held env)]
  conv_rhs => rw [← Utf8.lossy_encode env.vehicleId]
  unfold envelopeFields
  split_ifs <;> rfl

def rendered (env : DataEnvelope) : JsonFrame where
  vehicleId := env.vehicleId
  timestampNs := env.timestampNs
  seqNum := env.seq.toUInt64
  payload := env.payload
  lat := if nonzeroF64 env.lat then env.lat else 0
  lon := if nonzeroF64 env.lat then env.lon else 0
  alt := if nonzeroF32 env.alt then env.alt else 0

theorem envelopeToJsonFrame_encodeEnvelope (env : DataEnvelope) :
    envelopeToJsonFrame (encodeEnvelopeToBuf env) = .ok (some (rendered env)) := by
  rw [encodeEnvelopeToBuf_eq, envelopeToJsonFrame,
    decode_encode _ _ _ (envelope_numbers env) (envelope_held env)]
  unfold rendered
  conv_rhs => rw [← Utf8.lossy_encode env.vehicleId]
  unfold envelopeFields
  split_ifs <;> rfl

theorem peekDataEnvelope_encodeEnvelope (env : DataEnvelope) :
    peekDataEnvelope (encodeEnvelopeToBuf env) =
      .ok (Utf8.encode env.vehicleId, env.streamType.toU64.toUInt32) := by
  rw [encodeEnvelopeToBuf_eq,
    peekDataEnvelope_encode _ (envelope_numbers env) (envelope_held env)]
  unfold envelopeFields
  split_ifs <;> simp [foldUntil, Peek.apply, Peek.complete]

theorem envelope_read_alike (env : DataEnvelope) :
    (∃ decoded, decodeDataEnvelope (encodeEnvelopeToBuf env) = .ok decoded ∧
      decoded.vehicleID = Utf8.encode env.vehicleId ∧
      decoded.timestampNs = env.timestampNs ∧
      decoded.streamType = env.streamType.toU64 ∧
      decoded.payload = env.payload ∧
      decoded.seq = env.seq.toUInt64) ∧
    decodeEnvelopeRouting (encodeEnvelopeToBuf env) = .ok (some (env.vehicleId, env.payload)) ∧
    (∃ frame, envelopeToJsonFrame (encodeEnvelopeToBuf env) = .ok (some frame) ∧
      frame.vehicleId = env.vehicleId ∧
      frame.timestampNs = env.timestampNs ∧
      frame.seqNum = env.seq.toUInt64 ∧
      frame.payload = env.payload) ∧
    peekDataEnvelope (encodeEnvelopeToBuf env) =
      .ok (Utf8.encode env.vehicleId, env.streamType.toU64.toUInt32) :=
  ⟨⟨_, decodeDataEnvelope_encodeEnvelope env, rfl, rfl, rfl, rfl, rfl⟩,
    decodeEnvelopeRouting_encodeEnvelope env,
    ⟨_, envelopeToJsonFrame_encodeEnvelope env, rfl, rfl, rfl, rfl⟩,
    peekDataEnvelope_encodeEnvelope env⟩

/-! ## Positions -/

-- Equal patterns, or a zero for a zero of either sign.
def SameF64 (first second : UInt64) : Prop :=
  first = second ∨ (¬ nonzeroF64 first ∧ ¬ nonzeroF64 second)

def SameF32 (first second : UInt32) : Prop :=
  first = second ∨ (¬ nonzeroF32 first ∧ ¬ nonzeroF32 second)

theorem same_zero_f64 (bits : UInt64) : SameF64 0 bits ↔ ¬ nonzeroF64 bits := by
  have zero : ¬ nonzeroF64 0 := by decide
  constructor
  · rintro (same | both)
    · rwa [← same]
    · exact both.2
  · intro none
    exact .inr ⟨zero, none⟩

theorem same_written_f32 (bits : UInt32) :
    SameF32 (if nonzeroF32 bits then bits else 0) bits := by
  split_ifs with written
  · exact .inl rfl
  · exact .inr ⟨by decide, written⟩

def SamePosition (lat lon : UInt64) (alt : UInt32) (env : DataEnvelope) : Prop :=
  SameF64 lat env.lat ∧ SameF64 lon env.lon ∧ SameF32 alt env.alt

-- The longitude is written under the test for the latitude.
theorem same_position_iff (env : DataEnvelope) :
    SamePosition (if nonzeroF64 env.lat then env.lat else 0)
        (if nonzeroF64 env.lat then env.lon else 0)
        (if nonzeroF32 env.alt then env.alt else 0) env ↔
      nonzeroF64 env.lat ∨ ¬ nonzeroF64 env.lon := by
  by_cases written : nonzeroF64 env.lat
  · simp [SamePosition, written, SameF64, same_written_f32]
  · simp [SamePosition, written, same_zero_f64, same_written_f32]

def PositionDelivered (env : DataEnvelope) (buf : List UInt8) : Prop :=
  (∃ decoded, decodeDataEnvelope buf = .ok decoded ∧
    SamePosition decoded.lat decoded.lon decoded.alt env) ∧
  ∃ frame, envelopeToJsonFrame buf = .ok (some frame) ∧
    SamePosition frame.lat frame.lon frame.alt env

theorem position_delivered_iff (env : DataEnvelope) :
    PositionDelivered env (encodeEnvelopeToBuf env) ↔
      nonzeroF64 env.lat ∨ ¬ nonzeroF64 env.lon := by
  rw [PositionDelivered, decodeDataEnvelope_encodeEnvelope, envelopeToJsonFrame_encodeEnvelope,
    ← same_position_iff]
  constructor
  · rintro ⟨⟨decoded, read, same⟩, _⟩
    obtain rfl := Outcome.ok.inj read
    exact same
  · intro same
    exact ⟨⟨_, rfl, same⟩, ⟨_, rfl, same⟩⟩

-- On the equator, at 30 degrees east.
def equator : DataEnvelope :=
  ⟨"v1", 1, .telemetry, [], 0, 0x403E000000000000, 0, 1, "", "", "", "", "", "", "", by decide⟩

theorem equator_position_lost : ¬ PositionDelivered equator (encodeEnvelopeToBuf equator) := by
  rintro ⟨⟨decoded, read, _, lon, _⟩, _⟩
  rw [decodeDataEnvelope_encodeEnvelope] at read
  obtain rfl := Outcome.ok.inj read
  have lost : (ingested equator).lon = 0 := by decide
  rw [lost, same_zero_f64] at lon
  exact lon (by decide)

end SystemScale.Contract
