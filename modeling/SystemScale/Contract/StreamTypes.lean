import SystemScale.Contract.FrameSizes
import SystemScale.Contract.Messages
import SystemScale.Relay.FastRead

set_option autoImplicit false

/-!
# The stream type on the relay's fast path

The relay looks for the stream type at the first 64 bytes of a frame and takes telemetry where it
finds none. How far in the field stands depends on the vehicle's name and on the time.
-/

namespace SystemScale.Contract

open AdapterTrait Agent Cloud Relay Wire

/-- Where the agent writes the field of the stream type. -/
def streamTypeAt (env : DataEnvelope) : Nat :=
  delimitedSize (Utf8.encode env.vehicleId).length + varintSize env.timestampNs

/-- The relay and the full decoder read the same stream type of an encoded envelope, and the
subject names it. -/
def StreamTypeAgrees (env : DataEnvelope) : Prop :=
  (∃ value decoded, fastReadStreamType (encodeEnvelopeToBuf env) = some value ∧
    decodeDataEnvelope (encodeEnvelopeToBuf env) = .ok decoded ∧
    value.toUInt64 = decoded.streamType) ∧
  ∀ vehicleId message, handleTelemetryFrame vehicleId (encodeEnvelopeToBuf env) = .ok message →
    message.subject =
      s!"telemetry.{vehicleId}.{streamTypeName env.streamType.toU64.toUInt32}"

theorem fastReadStreamType_encodeEnvelope (env : DataEnvelope) :
    fastReadStreamType (encodeEnvelopeToBuf env) =
      some (if streamTypeAt env < 64 then env.streamType.toU64.toUInt32 else 1) := by
  obtain ⟨tail, fields⟩ : ∃ tail, envelopeFields env =
      ⟨1, .delimited (Utf8.encode env.vehicleId)⟩ :: ⟨2, .varint env.timestampNs⟩ ::
        ⟨3, .varint env.streamType.toU64⟩ :: tail := ⟨_, rfl⟩
  have held := envelope_held env
  rw [encodeEnvelopeToBuf_eq]
  rw [fields] at held ⊢
  have first_size := length_delimited (show 1 < 16 by decide) (Utf8.encode env.vehicleId)
  have second_size := length_varint_field (show 2 < 16 by decide) env.timestampNs
  generalize whole : encode (⟨1, .delimited (Utf8.encode env.vehicleId)⟩ ::
    ⟨2, .varint env.timestampNs⟩ :: ⟨3, .varint env.streamType.toU64⟩ :: tail) = data at held ⊢
  have first : FieldAt data 0 ⟨1, .delimited (Utf8.encode env.vehicleId)⟩ _ :=
    FieldAt.of_split (show 1 < 2 ^ 29 by decide) (whole.symm.trans (List.nil_append _).symm)
  have second : FieldAt data (Field.bytes ⟨1, .delimited (Utf8.encode env.vehicleId)⟩).length
      ⟨2, .varint env.timestampNs⟩ _ := .of_split (show 2 < 2 ^ 29 by decide) whole.symm
  have third : FieldAt data (Field.bytes ⟨1, .delimited (Utf8.encode env.vehicleId)⟩ ++
      Field.bytes ⟨2, .varint env.timestampNs⟩).length ⟨3, .varint env.streamType.toU64⟩ _ :=
    .of_split (show 3 < 2 ^ 29 by decide) (by rw [← whole, List.append_assoc]; rfl)
  rw [List.length_append] at third
  have name := fastReadStep_field held (by decide) first (by simp)
  rw [Nat.zero_add] at name
  have out_of_reach {position : Nat} (past : 64 ≤ position) :
      fastReadStep data position = .done 1 := by
    rw [fastReadStep, if_neg (by omega)]
  rw [fastReadStreamType, loop_next 64 name, streamTypeAt, ← first_size, ← second_size]
  by_cases near : (Field.bytes ⟨1, .delimited (Utf8.encode env.vehicleId)⟩).length < 64
  · have time := fastReadStep_field held near second (by simp)
    rw [loop_next 63 time]
    split_ifs with reached
    · rw [loop_done 62 (fastReadStep_stream_type reached third)]
    · rw [loop_done 62 (out_of_reach (by omega))]
  · rw [loop_done 63 (out_of_reach (by omega)), if_neg (by omega)]

theorem streamType_word (kind : StreamType) :
    kind.toU64.toUInt32.toUInt64 = kind.toU64 ∧ (kind.toU64.toUInt32 = 1 ↔ kind = .telemetry) := by
  cases kind <;> decide

theorem stream_type_agrees_iff (env : DataEnvelope) :
    StreamTypeAgrees env ↔ streamTypeAt env < 64 ∨ env.streamType = .telemetry := by
  have word := streamType_word env.streamType
  have fast := fastReadStreamType_encodeEnvelope env
  have full := decodeDataEnvelope_encodeEnvelope env
  constructor
  · rintro ⟨⟨value, decoded, read, decodes, same⟩, _⟩
    rw [fast] at read
    rw [full] at decodes
    obtain rfl := Option.some.inj read
    obtain rfl := Outcome.ok.inj decodes
    by_cases reached : streamTypeAt env < 64
    · exact .inl reached
    · rw [if_neg reached] at same
      refine .inr (word.2.mp ?_)
      have kind : (1 : UInt32).toUInt64 = env.streamType.toU64 := same
      rw [← kind]
      rfl
  · intro either
    have read : fastReadStreamType (encodeEnvelopeToBuf env) =
        some env.streamType.toU64.toUInt32 := by
      rw [fast]
      split_ifs with reached
      · rfl
      · rw [word.2.mpr (either.resolve_left reached)]
    refine ⟨⟨_, _, read, full, word.1⟩, ?_⟩
    intro vehicleId message published
    rw [handleTelemetryFrame] at published
    split_ifs at published
    rw [read] at published
    rw [← Outcome.ok.inj published]

/-- An event of a vehicle with a name of 52 bytes, at a time of nine bytes. -/
def longNamed : DataEnvelope where
  vehicleId := "survey-drone-0123456789-0123456789-0123456789-012345"
  timestampNs := 1700000000000000000
  streamType := .event
  payload := []
  lat := 0
  lon := 0
  alt := 0
  seq := 0
  fleetId := ""
  orgId := ""
  streamName := ""
  senderId := ""
  senderType := ""
  receiverId := ""
  receiverType := ""
  held := by decide

theorem long_name_misread :
    ¬ StreamTypeAgrees longNamed ∧ fastReadStreamType (encodeEnvelopeToBuf longNamed) = some 1 := by
  have far : ¬ streamTypeAt longNamed < 64 := by
    have name : (Utf8.encode longNamed.vehicleId).length = 52 := by decide
    have time : longNamed.timestampNs.toNat = 1700000000000000000 := rfl
    simp [streamTypeAt, delimitedSize, varintSize, name, time, Varint.varint_of_lt,
      Varint.varint_of_ge]
  have read : fastReadStreamType (encodeEnvelopeToBuf longNamed) = some 1 := by
    rw [fastReadStreamType_encodeEnvelope, if_neg far]
  refine ⟨?_, read⟩
  rintro ⟨⟨value, decoded, fast, full, same⟩, _⟩
  rw [read] at fast
  rw [decodeDataEnvelope_encodeEnvelope] at full
  obtain rfl := Option.some.inj fast
  obtain rfl := Outcome.ok.inj full
  exact absurd same (by decide)

end SystemScale.Contract
