import SystemScale.Agent.UnixReading
import SystemScale.Cloud.IngestReading
import SystemScale.Contract.PythonEnvelope

set_option autoImplicit false

/-!
# What becomes of a client's raw frame

The adapter reads the routing fields of the client's envelope, and the frame is the payload of its
own.
-/

namespace SystemScale.Contract

open AdapterTrait Agent Cloud Sdk Wire

/-- What goes to the ring buffer once the sequencer has numbered it. -/
def numbered (env : PartialEnvelope) (seq : UInt32)
    (held : (Utf8.encode env.vehicleId).length + env.payload.length + 128 < 2 ^ 63) :
    DataEnvelope :=
  ⟨env.vehicleId, env.timestampNs, env.streamType, env.payload, env.lat, env.lon, env.alt, seq,
    "", "", "", "", "", "", "", held⟩

/-- The last values of the client's fields, or what stands for an absent one. -/
structure Routed (frame : List UInt8) (fields : List Field) (vehicleId : String) (now : UInt64)
    (env : PartialEnvelope) : Prop where
  vehicleId : env.vehicleId =
    last (fun field => (field.delimited? 1).map Utf8.lossy) vehicleId fields
  timestampNs : env.timestampNs = last (Field.varint? 2) now fields
  streamType : env.streamType =
    last (fun field => (field.varint? 3).map rawStreamType) .telemetry fields
  alt : env.alt = last (Field.fixed32? 7) 0 fields
  payload : env.payload = frame

/-- What is decoded of the envelope that the agent writes. -/
structure Rewritten (frame : List UInt8) (client : Envelope) (env : PartialEnvelope)
    (decoded : Envelope) : Prop where
  vehicleID : decoded.vehicleID = Utf8.encode env.vehicleId
  timestampNs : decoded.timestampNs = env.timestampNs
  streamType : decoded.streamType = env.streamType.toU64
  alt : SameF32 decoded.alt env.alt
  payload : decoded.payload = frame
  client : decodeDataEnvelope decoded.payload = .ok client

-- A name that the client gave is kept.
theorem Routed.named {frame : List UInt8} {fields : List Field} {vehicleId name : String}
    {now : UInt64} {env : PartialEnvelope} (routed : Routed frame fields vehicleId now env)
    (gave : (Envelope.ofFields fields).vehicleID = Utf8.encode name) (given : name ≠ "") :
    env.vehicleId = name := by
  have is : last (Field.delimited? 1) [] fields = Utf8.encode name := gave
  have present : last (Field.delimited? 1) [] fields ≠ [] := by
    rw [is]
    exact fun empty => given (Utf8.encode_eq_nil.mp empty)
  rw [routed.vehicleId, last_map _ _ _ present, is, Utf8.lossy_encode]

/-- The routing fields of a raw frame are read, and the frame itself goes along. -/
theorem raw_frame_routed {frame : List UInt8} {fields : List Field} (held : frame.length < 2 ^ 63)
    (formed : WellFormed frame fields) (vehicleId : String) (now : UInt64) :
    ∃ env, partialDecodeEnvelope frame vehicleId now = .ok env ∧
      Routed frame fields vehicleId now env ∧
      (∀ name, name ≠ "" → (Envelope.ofFields fields).vehicleID = Utf8.encode name →
        env.vehicleId = name) ∧
      ∀ seq small, ∃ decoded,
        decodeDataEnvelope (encodeEnvelopeToBuf (numbered env seq small)) = .ok decoded ∧
        Rewritten frame (.ofFields fields) env decoded := by
  have routed : Routed frame fields vehicleId now ((emptyEnvelope frame vehicleId now).collect
      fun pick absent => last pick absent fields) := ⟨rfl, rfl, rfl, rfl, rfl⟩
  refine ⟨_, partialDecodeEnvelope_reads held formed vehicleId now, routed,
    fun name given gave => routed.named gave given, ?_⟩
  intro seq small
  refine ⟨_, decodeDataEnvelope_encodeEnvelope _, rfl, rfl, rfl, same_written_f32 _, rfl, ?_⟩
  exact decodeDataEnvelope_reads held formed.1.readsTo

/-! ## Frames of the Python SDK -/

theorem packed_of_encoded {args : EnvelopeArgs} {ts : UInt64} {bytes : List UInt8}
    (encoded : encodeDataEnvelope args ts = .ok bytes) :
    ∃ alt, Binary.narrow args.alt = some alt := by
  cases packed : Binary.narrow args.alt with
  | some alt => exact ⟨alt, rfl⟩
  | none =>
    have written : ¬ isZero args.alt = true := by
      intro zero
      obtain ⟨single, is, _⟩ := narrow_isZero zero
      rw [packed] at is
      cases is
    simp [encodeDataEnvelope, fieldFloat, written, packed] at encoded

theorem dataEnvelopeFields_legal (args : EnvelopeArgs) (ts : UInt64) (alt : UInt32) :
    ∀ field ∈ dataEnvelopeFields args ts alt, field.Legal := by
  have bytes {number : Nat} {data : List UInt8} (small : 0 < number ∧ number < 2 ^ 29) :
      ∀ field ∈ bytesField number data, field.Legal := by
    unfold bytesField
    split_ifs
    · simp
    · simpa [Field.Legal] using small
  have varint {number : Nat} {value : UInt64} (small : 0 < number ∧ number < 2 ^ 29) :
      ∀ field ∈ varintField number value, field.Legal := by
    unfold varintField
    split_ifs
    · simp
    · simpa [Field.Legal] using small
  have double {number : Nat} {value : UInt64} (small : 0 < number ∧ number < 2 ^ 29) :
      ∀ field ∈ doubleField number value, field.Legal := by
    unfold doubleField
    split_ifs
    · simp
    · simpa [Field.Legal] using small
  have float {number : Nat} {value : UInt64} {single : UInt32}
      (small : 0 < number ∧ number < 2 ^ 29) :
      ∀ field ∈ floatField number value single, field.Legal := by
    unfold floatField
    split_ifs
    · simp
    · simpa [Field.Legal] using small
  simp only [dataEnvelopeFields, List.forall_mem_append]
  exact ⟨⟨⟨⟨⟨⟨⟨⟨⟨⟨⟨⟨⟨⟨bytes (by decide), varint (by decide)⟩, varint (by decide)⟩,
    bytes (by decide)⟩, double (by decide)⟩, double (by decide)⟩, float (by decide)⟩,
    varint (by decide)⟩, bytes (by decide)⟩, bytes (by decide)⟩, bytes (by decide)⟩,
    bytes (by decide)⟩, bytes (by decide)⟩, bytes (by decide)⟩, bytes (by decide)⟩

theorem python_frame_formed {args : EnvelopeArgs} {ts : UInt64} {bytes : List UInt8}
    (encoded : encodeDataEnvelope args ts = .ok bytes) :
    bytes.length < 2 ^ 63 ∧ ∃ fields, WellFormed bytes fields := by
  obtain ⟨alt, packed⟩ := packed_of_encoded encoded
  have legal := dataEnvelopeFields_legal args ts alt
  obtain ⟨_, held⟩ := dataEnvelope_good args ts alt
  rw [encodeDataEnvelope_eq ts packed] at encoded
  obtain rfl := Outcome.ok.inj encoded
  exact ⟨held, _, wellFormed_encode legal held⟩

def eventArgs : EnvelopeArgs :=
  ⟨"v1", "event", [0x41], 0, 0, 0, 0, "", "", "", "", "", "", "", by decide⟩

theorem event_frame_routed :
    ∃ bytes fields env, encodeDataEnvelope eventArgs 1 = .ok bytes ∧
      partialDecodeEnvelope bytes "v0" 7 = .ok env ∧ Routed bytes fields "v0" 7 env := by
  obtain ⟨alt, packed, _⟩ := narrow_isZero (show isZero eventArgs.alt = true by decide)
  have encoded := encodeDataEnvelope_eq 1 packed
  obtain ⟨held, fields, formed⟩ := python_frame_formed encoded
  obtain ⟨env, decoded, routed, _⟩ := raw_frame_routed held formed "v0" 7
  exact ⟨_, fields, env, encoded, decoded, routed⟩

/-- The same values as in the client's envelope. -/
structure SameValues (client : Envelope) (env : PartialEnvelope) : Prop where
  vehicleId : Utf8.encode env.vehicleId = client.vehicleID
  timestampNs : env.timestampNs = client.timestampNs
  streamType : env.streamType.toU64 = client.streamType
  lat : SameF64 env.lat client.lat
  lon : SameF64 env.lon client.lon
  alt : SameF32 env.alt client.alt
  payload : env.payload = client.payload

/-- No vehicle, at 40 degrees north and 8 degrees east. -/
def audioArgs : EnvelopeArgs :=
  ⟨"", "audio", [0x41], 0x4044000000000000, 0x4020000000000000, 0, 0, "", "", "", "", "", "", "",
    by decide⟩

def audioFrame : List UInt8 :=
  [0x10, 0x01, 0x18, 0x06, 0x22, 0x01, 0x41] ++
  [0x29, 0x00, 0x00, 0x00, 0x00, 0x00, 0x00, 0x44, 0x40] ++
  [0x31, 0x00, 0x00, 0x00, 0x00, 0x00, 0x00, 0x20, 0x40]

theorem audio_frame_misread :
    encodeDataEnvelope audioArgs 1 = .ok audioFrame ∧
    (∃ client env, decodeDataEnvelope audioFrame = .ok client ∧
      partialDecodeEnvelope audioFrame "v0" 7 = .ok env ∧ ¬ SameValues client env ∧
      client.vehicleID = [] ∧ env.vehicleId = "v0" ∧
      client.streamType = 6 ∧ env.streamType = .telemetry ∧
      client.payload = [0x41] ∧ env.payload = audioFrame ∧
      client.lat = 0x4044000000000000 ∧ env.lat = 0 ∧
      client.lon = 0x4020000000000000 ∧ env.lon = 0) := by
  have same : encodeDataEnvelope audioArgs 1 = .ok audioFrame := by
    obtain ⟨alt, packed, _⟩ := narrow_isZero (show isZero audioArgs.alt = true by decide)
    have fields : dataEnvelopeFields audioArgs 1 alt =
        [⟨2, .varint 1⟩, ⟨3, .varint 6⟩, ⟨4, .delimited [0x41]⟩,
          ⟨5, .fixed64 0x4044000000000000⟩, ⟨6, .fixed64 0x4020000000000000⟩] := rfl
    rw [encodeDataEnvelope_eq 1 packed, fields]
    simp [Field.bytes, Field.tag, Payload.bytes, Payload.wireType, Varint.varint_of_lt,
      Bytes.leBytes, audioFrame]
  refine ⟨same, _, _, rfl, rfl, fun same => ?_, rfl, rfl, rfl, rfl, rfl, rfl, rfl, rfl, rfl, rfl⟩
  exact absurd same.payload (by decide)

end SystemScale.Contract
