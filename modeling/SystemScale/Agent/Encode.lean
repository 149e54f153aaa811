import SystemScale.Agent.AdapterTrait
import SystemScale.Lib.Wire

set_option autoImplicit false

/-!
# The agent's protobuf writers

`ring-buffer` writes envelopes and `quic-transport` writes acknowledgments, each with its own
varint loop. Both are sequences of wire fields.
-/

namespace SystemScale.Agent

open AdapterTrait Wire

/-! ## ring-buffer -/

def encodeVarint (v : UInt64) : List UInt8 := Varint.writeLoop 10 v

def encodeTag (field wire : UInt32) : List UInt8 :=
  encodeVarint (((field <<< 3) ||| wire).toUInt64)

def encodeUint64Field (field : UInt32) (v : UInt64) : List UInt8 :=
  encodeTag field 0 ++ encodeVarint v

def encodeLenDelimField (field : UInt32) (data : List UInt8) : List UInt8 :=
  encodeTag field 2 ++ encodeVarint (UInt64.ofNat data.length) ++ data

def encodeDoubleField (field : UInt32) (v : UInt64) : List UInt8 :=
  encodeTag field 1 ++ Bytes.leBytes 8 v.toNat

def encodeFloatField (field : UInt32) (v : UInt32) : List UInt8 :=
  encodeTag field 5 ++ Bytes.leBytes 4 v.toNat

-- `v != 0.0` holds of every pattern but the two zeros, so also of NaN.
def nonzeroF64 (bits : UInt64) : Bool := bits &&& 0x7FFFFFFFFFFFFFFF != 0

def nonzeroF32 (bits : UInt32) : Bool := bits &&& 0x7FFFFFFF != 0

def encodeEnvelopeToBuf (env : DataEnvelope) : List UInt8 :=
  encodeLenDelimField 1 (Utf8.encode env.vehicleId) ++
  encodeUint64Field 2 env.timestampNs ++
  encodeUint64Field 3 env.streamType.toU64 ++
  encodeLenDelimField 4 env.payload ++
  (if nonzeroF64 env.lat then encodeDoubleField 5 env.lat ++ encodeDoubleField 6 env.lon else []) ++
  (if nonzeroF32 env.alt then encodeFloatField 7 env.alt else []) ++
  encodeUint64Field 8 env.seq.toUInt64

/-! ## quic-transport -/

def appendVarint (v : UInt64) : List UInt8 := Varint.writeLoop 10 v

def ackStatusVal : AckStatus → UInt64
  | .accepted => 1
  | .completed => 2
  | .rejected => 3
  | .failed => 4
  | .timeout => 5

def encodeAck (ack : Ack) : List UInt8 :=
  let idBytes := Utf8.encode ack.commandId
  let msgBytes := Utf8.encode ack.message
  [0x0A] ++ appendVarint (UInt64.ofNat idBytes.length) ++ idBytes ++
  [0x10] ++ appendVarint (ackStatusVal ack.status) ++
  (if ack.message ≠ "" then
    [0x1A] ++ appendVarint (UInt64.ofNat msgBytes.length) ++ msgBytes else []) ++
  [0x20] ++ appendVarint ack.ackTimeNs

/-! ## The fields they write -/

theorem encodeVarint_eq (v : UInt64) : encodeVarint v = Varint.varint v.toNat :=
  Varint.writeLoop_ten v

theorem appendVarint_eq (v : UInt64) : appendVarint v = Varint.varint v.toNat :=
  Varint.writeLoop_ten v

theorem encodeVarint_length {length : Nat} (held : length < 2 ^ 64) :
    encodeVarint (UInt64.ofNat length) = Varint.varint length := by
  rw [encodeVarint_eq, Varint.word_ofNat held]

theorem appendVarint_length {length : Nat} (held : length < 2 ^ 64) :
    appendVarint (UInt64.ofNat length) = Varint.varint length := encodeVarint_length held

theorem encodeTag_eq (number wire : Nat) (small : number < 32) (code : wire < 8) :
    encodeTag (UInt32.ofNat number) (UInt32.ofNat wire) = Varint.varint (number * 8 + wire) := by
  rw [encodeTag, encodeVarint_eq, tag_word number wire small code]

theorem encodeUint64Field_eq (number : Nat) (small : number < 32) (v : UInt64) :
    encodeUint64Field (UInt32.ofNat number) v = Field.bytes ⟨number, .varint v⟩ := by
  rw [encodeUint64Field, encodeVarint_eq]
  exact congrArg (· ++ _) (encodeTag_eq number 0 small (by omega))

theorem encodeLenDelimField_eq (number : Nat) (small : number < 32) {data : List UInt8}
    (held : data.length < 2 ^ 64) :
    encodeLenDelimField (UInt32.ofNat number) data = Field.bytes ⟨number, .delimited data⟩ := by
  rw [encodeLenDelimField, encodeVarint_length held, List.append_assoc]
  exact congrArg (· ++ _) (encodeTag_eq number 2 small (by omega))

theorem encodeDoubleField_eq (number : Nat) (small : number < 32) (v : UInt64) :
    encodeDoubleField (UInt32.ofNat number) v = Field.bytes ⟨number, .fixed64 v⟩ :=
  congrArg (· ++ _) (encodeTag_eq number 1 small (by omega))

theorem encodeFloatField_eq (number : Nat) (small : number < 32) (v : UInt32) :
    encodeFloatField (UInt32.ofNat number) v = Field.bytes ⟨number, .fixed32 v⟩ :=
  congrArg (· ++ _) (encodeTag_eq number 5 small (by omega))

def envelopeFields (env : DataEnvelope) : List Field :=
  [⟨1, .delimited (Utf8.encode env.vehicleId)⟩, ⟨2, .varint env.timestampNs⟩,
    ⟨3, .varint env.streamType.toU64⟩, ⟨4, .delimited env.payload⟩] ++
  (if nonzeroF64 env.lat then [⟨5, .fixed64 env.lat⟩, ⟨6, .fixed64 env.lon⟩] else []) ++
  (if nonzeroF32 env.alt then [⟨7, .fixed32 env.alt⟩] else []) ++
  [⟨8, .varint env.seq.toUInt64⟩]

theorem encodeEnvelopeToBuf_eq (env : DataEnvelope) :
    encodeEnvelopeToBuf env = encode (envelopeFields env) := by
  have held := env.held
  have vehicle := encodeLenDelimField_eq 1 (by omega)
    (show (Utf8.encode env.vehicleId).length < 2 ^ 64 by omega)
  have payload := encodeLenDelimField_eq 4 (by omega)
    (show env.payload.length < 2 ^ 64 by omega)
  have timestamp := encodeUint64Field_eq 2 (by omega) env.timestampNs
  have stream := encodeUint64Field_eq 3 (by omega) env.streamType.toU64
  have seq := encodeUint64Field_eq 8 (by omega) env.seq.toUInt64
  have lat := encodeDoubleField_eq 5 (by omega) env.lat
  have lon := encodeDoubleField_eq 6 (by omega) env.lon
  have alt := encodeFloatField_eq 7 (by omega) env.alt
  simp only [UInt32.reduceOfNat] at vehicle payload timestamp stream seq lat lon alt
  simp only [encodeEnvelopeToBuf, envelopeFields, vehicle, payload, timestamp, stream, seq, lat,
    lon, alt]
  split_ifs <;> simp

theorem envelopeFields_small (env : DataEnvelope) :
    ∀ field ∈ envelopeFields env, field.number < 16 ∧ field.payload.room < 2 ^ 64 := by
  have held := env.held
  intro field member
  unfold envelopeFields at member
  split_ifs at member <;> simp at member <;> rcases member with rfl | rfl | rfl | rfl | member <;>
    simp [Payload.room] <;> try omega
  all_goals rcases member with rfl | rfl | rfl | rfl <;> simp

theorem envelope_held (env : DataEnvelope) : (encode (envelopeFields env)).length < 2 ^ 63 := by
  have held := env.held
  have small := envelopeFields_small env
  refine lt_of_le_of_lt (length_encode_le _ fun field member => ?_) ?_
  · have low := (small field member).1
    exact ⟨by omega, (small field member).2⟩
  · unfold envelopeFields
    split_ifs <;> simp [Payload.room] <;> omega

def ackFields (ack : Ack) : List Field :=
  [⟨1, .delimited (Utf8.encode ack.commandId)⟩, ⟨2, .varint (ackStatusVal ack.status)⟩] ++
  (if ack.message ≠ "" then [⟨3, .delimited (Utf8.encode ack.message)⟩] else []) ++
  [⟨4, .varint ack.ackTimeNs⟩]

theorem ackFields_small (ack : Ack) :
    ∀ field ∈ ackFields ack, field.number < 16 ∧ field.payload.room < 2 ^ 64 := by
  have held := ack.held
  intro field member
  unfold ackFields at member
  split_ifs at member <;> simp at member <;> rcases member with rfl | rfl | rfl | rfl <;>
    simp [Payload.room] <;> omega

theorem ack_held (ack : Ack) : (encode (ackFields ack)).length < 2 ^ 63 := by
  have held := ack.held
  have small := ackFields_small ack
  refine lt_of_le_of_lt (length_encode_le _ fun field member => ?_) ?_
  · have low := (small field member).1
    exact ⟨by omega, (small field member).2⟩
  · unfold ackFields
    split_ifs <;> simp [Payload.room] <;> omega

theorem encodeAck_eq (ack : Ack) : encodeAck ack = encode (ackFields ack) := by
  have held := ack.held
  have id := appendVarint_length (show (Utf8.encode ack.commandId).length < 2 ^ 64 by omega)
  have message := appendVarint_length (show (Utf8.encode ack.message).length < 2 ^ 64 by omega)
  simp only [encodeAck, ackFields, id, message, appendVarint_eq]
  split_ifs <;> simp [Field.bytes, Field.tag, Payload.wireType, Payload.bytes,
    Varint.varint_of_lt]

end SystemScale.Agent
