import SystemScale.Lib.Float
import SystemScale.Lib.Utf8
import SystemScale.Lib.Wire

set_option autoImplicit false

/-!
# The Python SDK's envelope writer

Python integers are natural numbers here; its floats are binary64 patterns.
-/

namespace SystemScale.Sdk

open Wire

def encodeVarint (value : Nat) : List UInt8 :=
  if value > 0x7F then
    UInt8.ofNat ((value &&& 0x7F) ||| 0x80) :: encodeVarint (value >>> 7)
  else [UInt8.ofNat (value &&& 0x7F)]
termination_by value
decreasing_by
  rw [Nat.shiftRight_eq_div_pow]
  omega

def fieldVarint (field value : Nat) : List UInt8 :=
  if value = 0 then [] else encodeVarint ((field <<< 3) ||| 0) ++ encodeVarint value

def fieldBytes (field : Nat) (data : List UInt8) : List UInt8 :=
  if data.isEmpty then []
  else encodeVarint ((field <<< 3) ||| 2) ++ encodeVarint data.length ++ data

def fieldString (field : Nat) (s : String) : List UInt8 :=
  if s ≠ "" then fieldBytes field (Utf8.encode s) else []

-- `value == 0.0` holds of both zeros, and of no NaN.
def isZero (value : UInt64) : Bool := value &&& 0x7FFFFFFFFFFFFFFF == 0

def fieldDouble (field : Nat) (value : UInt64) : List UInt8 :=
  if isZero value then []
  else encodeVarint ((field <<< 3) ||| 1) ++ Bytes.leBytes 8 value.toNat

/-- `struct.pack("<f", value)` raises an `OverflowError` where a finite value has no binary32. -/
def fieldFloat (field : Nat) (value : UInt64) : Outcome (List UInt8) :=
  if isZero value then .ok []
  else
    match Binary.narrow value with
    | some single =>
      .ok (encodeVarint ((field <<< 3) ||| 5) ++ Bytes.leBytes 4 single.toNat)
    | none => .err "float too large to pack with f format"

def streamTypes (stream : String) : Option Nat :=
  [("telemetry", 1), ("event", 2), ("sensor", 3), ("video_meta", 4), ("log", 5),
    ("audio", 6)].lookup stream

/-- The arguments of `encode_data_envelope`. They and their encoding are in memory. -/
structure EnvelopeArgs where
  vehicleId : String
  stream : String
  payload : List UInt8
  lat : UInt64
  lon : UInt64
  alt : UInt64
  seq : UInt32
  fleetId : String
  orgId : String
  streamName : String
  senderId : String
  senderType : String
  receiverId : String
  receiverType : String
  held : (Utf8.encode vehicleId).length + payload.length + (Utf8.encode fleetId).length +
    (Utf8.encode orgId).length + (Utf8.encode streamName).length +
    (Utf8.encode senderId).length + (Utf8.encode senderType).length +
    (Utf8.encode receiverId).length + (Utf8.encode receiverType).length + 256 < 2 ^ 63

/-- `ts` is the clock's reading. -/
def encodeDataEnvelope (args : EnvelopeArgs) (ts : UInt64) : Outcome (List UInt8) :=
  let st := (streamTypes args.stream).getD 1
  match fieldFloat 7 args.alt with
  | .ok alt => .ok <|
      fieldString 1 args.vehicleId ++
      fieldVarint 2 ts.toNat ++
      fieldVarint 3 st ++
      fieldBytes 4 args.payload ++
      fieldDouble 5 args.lat ++
      fieldDouble 6 args.lon ++
      alt ++
      fieldVarint 8 args.seq.toNat ++
      fieldString 16 args.fleetId ++
      fieldString 17 args.orgId ++
      fieldString 18 args.streamName ++
      fieldString 19 args.senderId ++
      fieldString 20 args.senderType ++
      fieldString 21 args.receiverId ++
      fieldString 22 args.receiverType
  | failed => failed

/-! ## The fields they write -/

theorem encodeVarint_eq (value : Nat) : encodeVarint value = Varint.varint value := by
  induction value using encodeVarint.induct with
  | case1 value large ih =>
    have low : (value &&& 0x7F) ||| 0x80 = value % 128 + 128 := by
      have mask : value &&& 127 = value % 128 := Nat.and_two_pow_sub_one_eq_mod value 7
      rw [mask, Nat.or_comm]
      exact (Nat.two_pow_add_eq_or_of_lt (show value % 128 < 2 ^ 7 by omega) 1).symm.trans
        (by omega)
    have rest : value >>> 7 = value / 128 := Nat.shiftRight_eq_div_pow value 7
    rw [encodeVarint, if_pos large, Varint.varint_of_ge (by omega), ih, low, rest]
  | case2 value small =>
    have same : value &&& 0x7F = value := by
      have mask : value &&& 127 = value % 128 := Nat.and_two_pow_sub_one_eq_mod value 7
      rw [mask]
      omega
    rw [encodeVarint, if_neg small, Varint.varint_of_lt (by omega), same]

theorem tag_eq (field : Nat) {wireType : Nat} (code : wireType < 8) :
    (field <<< 3) ||| wireType = field * 8 + wireType := by
  rw [Nat.shiftLeft_eq, Nat.mul_comm field]
  exact (Nat.two_pow_add_eq_or_of_lt (show wireType < 2 ^ 3 by omega) field).symm

def varintField (field : Nat) (value : UInt64) : List Field :=
  if value = 0 then [] else [⟨field, .varint value⟩]

def bytesField (field : Nat) (data : List UInt8) : List Field :=
  if data = [] then [] else [⟨field, .delimited data⟩]

def doubleField (field : Nat) (value : UInt64) : List Field :=
  if isZero value then [] else [⟨field, .fixed64 value⟩]

def floatField (field : Nat) (value : UInt64) (single : UInt32) : List Field :=
  if isZero value then [] else [⟨field, .fixed32 single⟩]

theorem fieldVarint_eq (field : Nat) (value : UInt64) :
    fieldVarint field value.toNat = encode (varintField field value) := by
  have zero : value.toNat = 0 ↔ value = 0 := by rw [← UInt64.toNat_inj, UInt64.toNat_zero]
  unfold fieldVarint varintField
  simp only [zero]
  split_ifs
  · rfl
  · simp [Nat.shiftLeft_eq, encodeVarint_eq, Field.bytes, Field.tag, Payload.wireType,
      Payload.bytes]

theorem fieldBytes_eq (field : Nat) (data : List UInt8) :
    fieldBytes field data = encode (bytesField field data) := by
  unfold fieldBytes bytesField
  simp only [List.isEmpty_iff]
  split_ifs
  · rfl
  · simp [tag_eq, encodeVarint_eq, Field.bytes, Field.tag, Payload.wireType, Payload.bytes]

theorem fieldString_eq (field : Nat) (s : String) :
    fieldString field s = encode (bytesField field (Utf8.encode s)) := by
  unfold fieldString
  split_ifs with written
  · exact fieldBytes_eq field (Utf8.encode s)
  · have empty : Utf8.encode s = [] := Utf8.encode_eq_nil.mpr (not_not.mp written)
    rw [empty]
    rfl

theorem fieldDouble_eq (field : Nat) (value : UInt64) :
    fieldDouble field value = encode (doubleField field value) := by
  unfold fieldDouble doubleField
  split_ifs
  · rfl
  · simp [tag_eq, encodeVarint_eq, Field.bytes, Field.tag, Payload.wireType, Payload.bytes]

theorem fieldFloat_eq (field : Nat) {value : UInt64} {single : UInt32}
    (packed : Binary.narrow value = some single) :
    fieldFloat field value = .ok (encode (floatField field value single)) := by
  unfold fieldFloat floatField
  split_ifs
  · rfl
  · simp [packed, tag_eq, encodeVarint_eq, Field.bytes, Field.tag, Payload.wireType,
      Payload.bytes]

def dataEnvelopeFields (args : EnvelopeArgs) (ts : UInt64) (alt : UInt32) : List Field :=
  bytesField 1 (Utf8.encode args.vehicleId) ++
  varintField 2 ts ++
  varintField 3 (UInt64.ofNat ((streamTypes args.stream).getD 1)) ++
  bytesField 4 args.payload ++
  doubleField 5 args.lat ++
  doubleField 6 args.lon ++
  floatField 7 args.alt alt ++
  varintField 8 args.seq.toUInt64 ++
  bytesField 16 (Utf8.encode args.fleetId) ++
  bytesField 17 (Utf8.encode args.orgId) ++
  bytesField 18 (Utf8.encode args.streamName) ++
  bytesField 19 (Utf8.encode args.senderId) ++
  bytesField 20 (Utf8.encode args.senderType) ++
  bytesField 21 (Utf8.encode args.receiverId) ++
  bytesField 22 (Utf8.encode args.receiverType)

theorem streamTypes_small (stream : String) : (streamTypes stream).getD 1 < 7 := by
  unfold streamTypes
  simp only [List.lookup_cons, List.lookup_nil]
  repeat' split
  all_goals simp

theorem encodeDataEnvelope_eq {args : EnvelopeArgs} (ts : UInt64) {alt : UInt32}
    (packed : Binary.narrow args.alt = some alt) :
    encodeDataEnvelope args ts = .ok (encode (dataEnvelopeFields args ts alt)) := by
  have streams := streamTypes_small args.stream
  have stream : (UInt64.ofNat ((streamTypes args.stream).getD 1)).toNat =
      (streamTypes args.stream).getD 1 := Varint.word_ofNat (by omega)
  have st := fieldVarint_eq 3 (UInt64.ofNat ((streamTypes args.stream).getD 1))
  rw [stream] at st
  have seq : args.seq.toUInt64.toNat = args.seq.toNat := rfl
  simp only [encodeDataEnvelope, fieldFloat_eq 7 packed, fieldString_eq, fieldVarint_eq,
    fieldBytes_eq, fieldDouble_eq, st, ← seq, dataEnvelopeFields, encode_append]

end SystemScale.Sdk
