import SystemScale.Cloud.IngestCodec
import SystemScale.Contract.Messages
import SystemScale.Sdk.Proto

set_option autoImplicit false

/-!
# What ingest reads of the Python SDK's envelopes

The writer leaves out what is zero or empty, and the decoder starts from an empty envelope.
-/

namespace SystemScale.Contract

open Cloud Sdk Wire

/-! ## Sizes -/

/-- Fields that a decoder takes, encoded in at most so many bytes. -/
structure Fits (fields : List Field) (size : Nat) : Prop where
  numbers : ∀ field ∈ fields, field.number < 2 ^ 29
  length : (encode fields).length ≤ size

theorem Fits.append {first second : List Field} {size other : Nat} (fits : Fits first size)
    (fits_second : Fits second other) : Fits (first ++ second) (size + other) where
  numbers field member := by
    rcases List.mem_append.mp member with left | right
    · exact fits.numbers field left
    · exact fits_second.numbers field right
  length := by
    have := fits.length
    have := fits_second.length
    rw [encode_append, List.length_append]
    omega

theorem fits_one {field : Nat} {payload : Payload} (small : field < 2048)
    (held : payload.room < 2 ^ 64) : Fits [⟨field, payload⟩] (payload.room + 2) where
  numbers item member := by
    obtain rfl := List.mem_singleton.mp member
    exact Nat.lt_trans small (by decide)
  length := by
    have bound : (Field.bytes ⟨field, payload⟩).length ≤ payload.room + 2 :=
      Field.length_bytes_le small held
    simpa using bound

theorem fits_none (size : Nat) : Fits [] size := ⟨by simp, by simp⟩

section Pieces

variable {field : Nat} (small : field < 2048)
include small

theorem fits_bytes {data : List UInt8} (held : data.length < 2 ^ 63) :
    Fits (bytesField field data) (data.length + 12) := by
  unfold bytesField
  split_ifs
  · exact fits_none _
  · exact fits_one small (show data.length + 10 < 2 ^ 64 by omega)

theorem fits_varint (value : UInt64) : Fits (varintField field value) 12 := by
  unfold varintField
  split_ifs
  · exact fits_none _
  · exact fits_one small (show 10 < 2 ^ 64 by omega)

theorem fits_double (value : UInt64) : Fits (doubleField field value) 12 := by
  unfold doubleField
  split_ifs
  · exact fits_none _
  · exact fits_one small (show 10 < 2 ^ 64 by omega)

theorem fits_float (value : UInt64) (single : UInt32) :
    Fits (floatField field value single) 12 := by
  unfold floatField
  split_ifs
  · exact fits_none _
  · exact fits_one small (show 10 < 2 ^ 64 by omega)

end Pieces

theorem dataEnvelope_good (args : EnvelopeArgs) (ts : UInt64) (alt : UInt32) :
    (∀ field ∈ dataEnvelopeFields args ts alt, field.number < 2 ^ 29) ∧
      (encode (dataEnvelopeFields args ts alt)).length < 2 ^ 63 := by
  have held := args.held
  have text {field : Nat} (small : field < 2048) {data : List UInt8}
      (within : data.length < 2 ^ 63) : Fits (bytesField field data) (data.length + 12) :=
    fits_bytes small within
  have vehicle := text (show 1 < 2048 by omega)
    (show (Utf8.encode args.vehicleId).length < 2 ^ 63 by omega)
  have time := fits_varint (show 2 < 2048 by omega) ts
  have stream := fits_varint (show 3 < 2048 by omega)
    (UInt64.ofNat ((streamTypes args.stream).getD 1))
  have payload := text (show 4 < 2048 by omega) (show args.payload.length < 2 ^ 63 by omega)
  have lat := fits_double (show 5 < 2048 by omega) args.lat
  have lon := fits_double (show 6 < 2048 by omega) args.lon
  have height := fits_float (show 7 < 2048 by omega) args.alt alt
  have seq := fits_varint (show 8 < 2048 by omega) args.seq.toUInt64
  have fleet := text (show 16 < 2048 by omega)
    (show (Utf8.encode args.fleetId).length < 2 ^ 63 by omega)
  have org := text (show 17 < 2048 by omega)
    (show (Utf8.encode args.orgId).length < 2 ^ 63 by omega)
  have name := text (show 18 < 2048 by omega)
    (show (Utf8.encode args.streamName).length < 2 ^ 63 by omega)
  have sender := text (show 19 < 2048 by omega)
    (show (Utf8.encode args.senderId).length < 2 ^ 63 by omega)
  have senderType := text (show 20 < 2048 by omega)
    (show (Utf8.encode args.senderType).length < 2 ^ 63 by omega)
  have receiver := text (show 21 < 2048 by omega)
    (show (Utf8.encode args.receiverId).length < 2 ^ 63 by omega)
  have receiverType := text (show 22 < 2048 by omega)
    (show (Utf8.encode args.receiverType).length < 2 ^ 63 by omega)
  have fits : Fits (dataEnvelopeFields args ts alt) _ :=
    vehicle |>.append time |>.append stream |>.append payload |>.append lat |>.append lon
      |>.append height |>.append seq |>.append fleet |>.append org |>.append name
      |>.append sender |>.append senderType |>.append receiver |>.append receiverType
  have length := fits.length
  exact ⟨fits.numbers, by omega⟩

/-! ## Fields that were left out -/

section Walk

variable {env after : Envelope} {rest : List Field} {field : Nat}

theorem walk_bytes {data : List UInt8} (blank : env.setBytes field [] = env)
    (walk : rest.foldl Envelope.apply (env.setBytes field data) = after) :
    (bytesField field data ++ rest).foldl Envelope.apply env = after := by
  unfold bytesField
  split_ifs with none
  · rwa [none, blank] at walk
  · exact walk

theorem walk_varint {value : UInt64} (blank : env.setVarint field 0 = env)
    (walk : rest.foldl Envelope.apply (env.setVarint field value) = after) :
    (varintField field value ++ rest).foldl Envelope.apply env = after := by
  unfold varintField
  split_ifs with none
  · rwa [none, blank] at walk
  · exact walk

theorem walk_double {value : UInt64} (blank : env.setFixed64 field 0 = env)
    (walk : rest.foldl Envelope.apply (env.setFixed64 field (if isZero value then 0 else value)) =
      after) : (doubleField field value ++ rest).foldl Envelope.apply env = after := by
  unfold doubleField
  split_ifs at walk ⊢
  · rwa [blank] at walk
  · exact walk

theorem walk_float {value : UInt64} {single : UInt32} (blank : env.setFixed32 field 0 = env)
    (walk : rest.foldl Envelope.apply (env.setFixed32 field (if isZero value then 0 else single)) =
      after) : (floatField field value single ++ rest).foldl Envelope.apply env = after := by
  unfold floatField
  split_ifs at walk ⊢
  · rwa [blank] at walk
  · exact walk

end Walk

def pythonEnvelope (args : EnvelopeArgs) (ts : UInt64) (alt : UInt32) : Envelope where
  vehicleID := Utf8.encode args.vehicleId
  timestampNs := ts
  streamType := UInt64.ofNat ((streamTypes args.stream).getD 1)
  payload := args.payload
  lat := if isZero args.lat then 0 else args.lat
  lon := if isZero args.lon then 0 else args.lon
  alt := if isZero args.alt then 0 else alt
  seq := args.seq.toUInt64
  fleetID := Utf8.encode args.fleetId
  orgID := Utf8.encode args.orgId
  streamName := Utf8.encode args.streamName
  senderID := Utf8.encode args.senderId
  senderType := Utf8.encode args.senderType
  receiverID := Utf8.encode args.receiverId
  receiverType := Utf8.encode args.receiverType

theorem foldl_dataEnvelopeFields (args : EnvelopeArgs) (ts : UInt64) (alt : UInt32) :
    (dataEnvelopeFields args ts alt).foldl Envelope.apply .empty =
      pythonEnvelope args ts alt := by
  rw [← List.append_nil (dataEnvelopeFields args ts alt)]
  simp only [dataEnvelopeFields, List.append_assoc]
  -- The envelope so far is evaluated now and then, or the checks of its blank fields pile up.
  refine walk_bytes rfl (walk_varint rfl ?_)
  dsimp only [Envelope.empty, Envelope.setBytes, Envelope.setVarint]
  refine walk_varint rfl (walk_bytes rfl ?_)
  dsimp only [Envelope.setBytes, Envelope.setVarint]
  refine walk_double rfl (walk_double rfl ?_)
  dsimp only [Envelope.setFixed64]
  refine walk_float rfl (walk_varint rfl ?_)
  dsimp only [Envelope.setFixed32, Envelope.setVarint]
  refine walk_bytes rfl (walk_bytes rfl ?_)
  dsimp only [Envelope.setBytes]
  refine walk_bytes rfl (walk_bytes rfl ?_)
  dsimp only [Envelope.setBytes]
  refine walk_bytes rfl (walk_bytes rfl ?_)
  dsimp only [Envelope.setBytes]
  exact walk_bytes rfl rfl

theorem decodeDataEnvelope_encodeDataEnvelope {args : EnvelopeArgs} (ts : UInt64) {alt : UInt32}
    (packed : Binary.narrow args.alt = some alt) :
    ∃ bytes, encodeDataEnvelope args ts = .ok bytes ∧
      decodeDataEnvelope bytes = .ok (pythonEnvelope args ts alt) := by
  obtain ⟨numbers, held⟩ := dataEnvelope_good args ts alt
  refine ⟨_, encodeDataEnvelope_eq ts packed, ?_⟩
  rw [decodeDataEnvelope_encode _ numbers held, foldl_dataEnvelopeFields]

/-! ## Values that come back -/

/-- All but the altitude. A zero comes back as a zero. -/
structure Returned (args : EnvelopeArgs) (ts : UInt64) (decoded : Envelope) : Prop where
  vehicleID : decoded.vehicleID = Utf8.encode args.vehicleId
  timestampNs : decoded.timestampNs = ts
  streamType : decoded.streamType.toNat = (streamTypes args.stream).getD 1
  payload : decoded.payload = args.payload
  lat : SameF64 decoded.lat args.lat
  lon : SameF64 decoded.lon args.lon
  seq : decoded.seq = args.seq.toUInt64
  fleetID : decoded.fleetID = Utf8.encode args.fleetId
  orgID : decoded.orgID = Utf8.encode args.orgId
  streamName : decoded.streamName = Utf8.encode args.streamName
  senderID : decoded.senderID = Utf8.encode args.senderId
  senderType : decoded.senderType = Utf8.encode args.senderType
  receiverID : decoded.receiverID = Utf8.encode args.receiverId
  receiverType : decoded.receiverType = Utf8.encode args.receiverType

theorem isZero_iff (value : UInt64) : isZero value = true ↔ ¬ Agent.nonzeroF64 value := by
  simp [isZero, Agent.nonzeroF64]

theorem same_unless_zero (value : UInt64) :
    SameF64 (if isZero value then 0 else value) value := by
  split_ifs with zero
  · exact (same_zero_f64 value).mpr ((isZero_iff value).mp zero)
  · exact .inl rfl

theorem pythonEnvelope_returned (args : EnvelopeArgs) (ts : UInt64) (alt : UInt32) :
    Returned args ts (pythonEnvelope args ts alt) where
  vehicleID := rfl
  timestampNs := rfl
  streamType := by
    have small := streamTypes_small args.stream
    exact Varint.word_ofNat (by omega)
  payload := rfl
  lat := same_unless_zero args.lat
  lon := same_unless_zero args.lon
  seq := rfl
  fleetID := rfl
  orgID := rfl
  streamName := rfl
  senderID := rfl
  senderType := rfl
  receiverID := rfl
  receiverType := rfl

theorem narrow_isZero {value : UInt64} (zero : isZero value = true) :
    ∃ single, Binary.narrow value = some single ∧ ¬ Agent.nonzeroF32 single := by
  have mask : value.toNat &&& (2 ^ 63 - 1) = value.toNat % 2 ^ 63 :=
    Nat.and_two_pow_sub_one_eq_mod _ 63
  have low : value.toNat % 2 ^ 63 = 0 := by
    have none : value &&& 0x7FFFFFFFFFFFFFFF = 0 := by simpa [isZero] using zero
    rw [← mask]
    exact congrArg UInt64.toNat none
  have bounded := value.toNat_lt
  have exponent : Binary.exponent64 value = 0 := by
    simp only [Binary.exponent64]
    omega
  have fraction : Binary.fraction64 value = 0 := by
    simp only [Binary.fraction64]
    omega
  have packed : Binary.narrow value = some (Binary.word32 (Binary.sign64 value) 0 0) := by
    simp only [Binary.narrow, exponent, fraction, Binary.narrowMagnitude_zero]
    rfl
  have sign : Binary.sign64 value = 0 ∨ Binary.sign64 value = 1 := by
    simp only [Binary.sign64]
    omega
  refine ⟨_, packed, ?_⟩
  rcases sign with positive | negative
  · rw [positive]
    decide
  · rw [negative]
    decide

/-- Every value comes back as it was given. -/
def ReturnsExactly (args : EnvelopeArgs) (ts : UInt64) : Prop :=
  ∃ bytes decoded, encodeDataEnvelope args ts = .ok bytes ∧
    decodeDataEnvelope bytes = .ok decoded ∧ Returned args ts decoded ∧
    SameF64 (Binary.widen decoded.alt) args.alt

theorem packed_alt {args : EnvelopeArgs} {alt : UInt32}
    (packed : Binary.narrow args.alt = some alt) :
    SameF32 (if isZero args.alt then 0 else alt) alt := by
  split_ifs with zero
  · obtain ⟨single, is, none⟩ := narrow_isZero zero
    rw [is] at packed
    obtain rfl := Option.some.inj packed
    exact .inr ⟨by decide, none⟩
  · exact .inl rfl

/-- The altitude is packed as a binary32: it comes back rounded, a binary32 value unchanged, and
what is too large for one is refused. -/
theorem python_envelope_returned (args : EnvelopeArgs) (ts : UInt64) :
    (∀ alt, Binary.narrow args.alt = some alt → ∃ bytes decoded,
      encodeDataEnvelope args ts = .ok bytes ∧ decodeDataEnvelope bytes = .ok decoded ∧
      Returned args ts decoded ∧ SameF32 decoded.alt alt) ∧
    (Binary.narrow args.alt = none →
      encodeDataEnvelope args ts = .err "float too large to pack with f format") ∧
    (∀ single, args.alt = Binary.widen single → ReturnsExactly args ts) := by
  refine ⟨?_, ?_, ?_⟩
  · intro alt packed
    obtain ⟨bytes, encoded, decoded⟩ := decodeDataEnvelope_encodeDataEnvelope ts packed
    exact ⟨bytes, _, encoded, decoded, pythonEnvelope_returned args ts alt, packed_alt packed⟩
  · intro overflow
    have written : isZero args.alt = false := by
      by_contra zero
      obtain ⟨single, is, _⟩ := narrow_isZero (Bool.not_eq_false _ ▸ zero)
      rw [is] at overflow
      simp at overflow
    simp [encodeDataEnvelope, fieldFloat, written, overflow]
  · intro single is
    obtain ⟨alt, packed, same⟩ := Binary.narrow_widen single
    rw [← is] at packed same
    obtain ⟨bytes, encoded, decoded⟩ := decodeDataEnvelope_encodeDataEnvelope ts packed
    refine ⟨bytes, _, encoded, decoded, pythonEnvelope_returned args ts alt, ?_⟩
    show SameF64 (Binary.widen (if isZero args.alt then 0 else alt)) args.alt
    split_ifs with zero
    · exact .inr ⟨by decide, (isZero_iff _).mp zero⟩
    · exact .inl same

def atHeight (alt : UInt64) : EnvelopeArgs :=
  ⟨"v1", "telemetry", [], 0, 0, alt, 0, "", "", "", "", "", "", "", by decide⟩

theorem half_returned : ReturnsExactly (atHeight 0x3FE0000000000000) 1 :=
  (python_envelope_returned (atHeight 0x3FE0000000000000) 1).2.2 0x3F000000 (by decide)

-- A tenth of a metre is no binary32 value.
def tenth : EnvelopeArgs := atHeight 0x3FB999999999999A

theorem tenth_rounded : ¬ ReturnsExactly tenth 1 := by
  have packed : Binary.narrow tenth.alt = some 0x3DCCCCCD := by decide
  rintro ⟨bytes, decoded, encoded, accepted, _, same⟩
  obtain ⟨written, encoded_again, decoded_again⟩ :=
    decodeDataEnvelope_encodeDataEnvelope 1 packed
  rw [encoded] at encoded_again
  obtain rfl := Outcome.ok.inj encoded_again
  rw [accepted] at decoded_again
  obtain rfl := Outcome.ok.inj decoded_again
  have alt : (pythonEnvelope tenth 1 0x3DCCCCCD).alt = 0x3DCCCCCD := by decide
  rw [alt] at same
  rcases same with equal | zero
  · exact absurd equal (by decide)
  · exact zero.2 (by decide)

end SystemScale.Contract
