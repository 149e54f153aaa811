import SystemScale.Lib.VarintLoops
import SystemScale.Lib.WellFormed
import SystemScale.Lib.Zigzag

set_option autoImplicit false

/-!
# The MAVLink adapter's telemetry payloads

The adapter writes `TelemetryFrame` messages by hand, field by field. Their meaning is taken from
the schema. The attitude, which it computes from floats, is left out.
-/

namespace SystemScale.Agent.Mavlink

open Wire

/-! ## telemetry.proto -/

inductive Scalar where
  | sint32
  | uint32
  | bool

/-- The varints of a type's values are those below it. -/
def Scalar.bound : Scalar → Nat
  | .sint32 => 2 ^ 32
  | .uint32 => 2 ^ 32
  | .bool => 2

/-- Fields that are absent have the default values. -/
structure TelemetryFrame where
  rollMdeg : Int32 := 0
  pitchMdeg : Int32 := 0
  yawMdeg : Int32 := 0
  vxCms : Int32 := 0
  vyCms : Int32 := 0
  vzCms : Int32 := 0
  batteryMv : UInt32 := 0
  batteryCurrentMa : Int32 := 0
  batteryPct : UInt32 := 0
  mode : UInt32 := 0
  armed : Bool := false
  gpsFix : UInt32 := 0
  gpsSats : UInt32 := 0
  hdopCm : UInt32 := 0
  heading : UInt32 := 0
  altRelMm : Int32 := 0
  climbCms : Int32 := 0
  rssi : UInt32 := 0
  linkQual : UInt32 := 0
  deriving DecidableEq

namespace TelemetryFrame

def type : Nat → Option Scalar
  | 1 => some .sint32
  | 2 => some .sint32
  | 3 => some .sint32
  | 4 => some .sint32
  | 5 => some .sint32
  | 6 => some .sint32
  | 7 => some .uint32
  | 8 => some .sint32
  | 9 => some .uint32
  | 10 => some .uint32
  | 11 => some .bool
  | 12 => some .uint32
  | 13 => some .uint32
  | 14 => some .uint32
  | 15 => some .uint32
  | 16 => some .sint32
  | 17 => some .sint32
  | 18 => some .uint32
  | 19 => some .uint32
  | _ => none

/-- A field of the schema, with a value of its type. -/
def Typed (field : Field) : Prop :=
  ∃ scalar word, type field.number = some scalar ∧ field.payload = .varint word ∧
    word.toNat < scalar.bound

def sint32 (word : UInt64) : Int32 := Int32.ofInt (Zigzag.decode word.toUInt32.toNat)

def ofFields (fields : List Field) : TelemetryFrame :=
  let word number := last (Field.varint? number) 0 fields
  { rollMdeg := sint32 (word 1)
    pitchMdeg := sint32 (word 2)
    yawMdeg := sint32 (word 3)
    vxCms := sint32 (word 4)
    vyCms := sint32 (word 5)
    vzCms := sint32 (word 6)
    batteryMv := (word 7).toUInt32
    batteryCurrentMa := sint32 (word 8)
    batteryPct := (word 9).toUInt32
    mode := (word 10).toUInt32
    armed := word 11 != 0
    gpsFix := (word 12).toUInt32
    gpsSats := (word 13).toUInt32
    hdopCm := (word 14).toUInt32
    heading := (word 15).toUInt32
    altRelMm := sint32 (word 16)
    climbCms := sint32 (word 17)
    rssi := (word 18).toUInt32
    linkQual := (word 19).toUInt32 }

/-- The bytes are a message of the schema, with each field at most once. -/
def Decodes (data : List UInt8) (frame : TelemetryFrame) : Prop :=
  ∃ fields, WellFormed data fields ∧ (∀ field ∈ fields, Typed field) ∧
    (fields.map Field.number).Nodup ∧ frame = ofFields fields

theorem Decodes.unique {data : List UInt8} {frame other : TelemetryFrame}
    (first : Decodes data frame) (second : Decodes data other) : frame = other := by
  obtain ⟨fields, formed, -, -, rfl⟩ := first
  obtain ⟨others, again, -, -, rfl⟩ := second
  rw [formed.1.unique again.1]

theorem type_legal {number : Nat} {scalar : Scalar} (typed : type number = some scalar) :
    0 < number ∧ number < 32 := by
  unfold type at typed
  split at typed <;> first | omega | cases typed

theorem decodes_encode {data : List UInt8} {frame : TelemetryFrame} (fields : List Field)
    (bytes : data = encode fields) (typed : ∀ field ∈ fields, Typed field)
    (once : (fields.map Field.number).Nodup) (values : frame = ofFields fields) :
    Decodes data frame := by
  subst bytes
  refine ⟨fields, ⟨reads_encode fields fun field member => ?_, fun field member => ?_⟩, typed,
    once, values⟩
  · obtain ⟨scalar, word, known, is, -⟩ := typed field member
    have legal := type_legal known
    rw [is]
    exact ⟨by omega, by simp [Payload.room]⟩
  · obtain ⟨scalar, word, known, -, -⟩ := typed field member
    have legal := type_legal known
    exact ⟨legal.1, by omega⟩

end TelemetryFrame

/-! ## Fields -/

def encodeVarint (buf : List UInt8) (v : UInt64) : List UInt8 := Varint.pushLoop buf v

def encodeTag (buf : List UInt8) (field wireType : UInt32) : List UInt8 :=
  encodeVarint buf ((field <<< 3) ||| wireType).toUInt64

def encodeUint32Field (buf : List UInt8) (field v : UInt32) : List UInt8 :=
  encodeVarint (encodeTag buf field 0) v.toUInt64

def encodeSint32Field (buf : List UInt8) (field : UInt32) (v : Int32) : List UInt8 :=
  -- The right shift of an `i32` fills in its sign.
  let z := ((v <<< 1) ^^^ (v >>> 31)).toUInt32
  encodeVarint (encodeTag buf field 0) z.toUInt64

def encodeBoolField (buf : List UInt8) (field : UInt32) (v : Bool) : List UInt8 :=
  encodeTag buf field 0 ++ [if v then 1 else 0]

/-! ## Payloads -/

-- Where the vehicle is goes into the envelope, not into the payload.
def encodePositionPayload (_lat _lon : UInt64) (_alt : UInt32) (relAltMm : Int32)
    (vx vy vz : Int16) (hdg : UInt16) : List UInt8 :=
  let buf := encodeSint32Field [] 4 (vx.toInt32 * 100 / 100)
  let buf := encodeSint32Field buf 5 (vy.toInt32 * 100 / 100)
  let buf := encodeSint32Field buf 6 (vz.toInt32 * 100 / 100)
  let buf := encodeSint32Field buf 16 relAltMm
  encodeUint32Field buf 15 hdg.toUInt32

def encodeBatteryPayload (voltageMv : UInt32) (currentMa : Int32) (remaining : UInt32) :
    List UInt8 :=
  let buf := encodeUint32Field [] 7 voltageMv
  let buf := encodeSint32Field buf 8 currentMa
  encodeUint32Field buf 9 remaining

def encodeHeartbeatPayload (baseMode : UInt8) (status : UInt32) : List UInt8 :=
  -- `MAV_MODE_FLAG_SAFETY_ARMED`
  let armed := baseMode &&& 0x80 != 0
  let buf := encodeBoolField [] 11 armed
  encodeUint32Field buf 10 status

def encodeGpsPayload (_lat _lon : UInt64) (_alt : UInt32) (fix sats eph : UInt32) : List UInt8 :=
  let buf := encodeUint32Field [] 12 fix
  let buf := encodeUint32Field buf 13 sats
  encodeUint32Field buf 14 eph

def encodeSysStatusPayload (voltageMv : UInt16) (currentMa : Int16) (remaining : Int8) :
    List UInt8 :=
  let buf := encodeUint32Field [] 7 voltageMv.toUInt32
  let buf := encodeSint32Field buf 8 currentMa.toInt32
  encodeUint32Field buf 9 (max remaining 0).toInt32.toUInt32

/-! ## What the fields hold -/

theorem encodeTag_eq (buf : List UInt8) {field : UInt32} (small : field < 32) :
    encodeTag buf field 0 = buf ++ Varint.varint (field.toNat * 8) := by
  have tag := tag_word field.toNat 0 (UInt32.lt_iff_toNat_lt.mp small) (by omega)
  rw [UInt32.ofNat_toNat] at tag
  rw [encodeTag, encodeVarint, Varint.pushLoop_eq]
  exact congrArg (fun value => buf ++ Varint.varint value) tag

inductive Value where
  | sint32 (v : Int32)
  | uint32 (v : UInt32)
  | bool (v : Bool)

namespace Value

def scalar : Value → Scalar
  | .sint32 _ => .sint32
  | .uint32 _ => .uint32
  | .bool _ => .bool

def word : Value → UInt64
  | .sint32 v => ((v <<< 1) ^^^ (v >>> 31)).toUInt32.toUInt64
  | .uint32 v => v.toUInt64
  | .bool v => if v then 1 else 0

def field (number : Nat) (value : Value) : Field := ⟨number, .varint value.word⟩

theorem word_lt (value : Value) : value.word.toNat < value.scalar.bound := by
  cases value with
  | sint32 v => exact UInt32.toNat_lt _
  | uint32 v => exact v.toNat_lt
  | bool v => cases v <;> decide

theorem typed {number : Nat} {value : Value}
    (known : TelemetryFrame.type number = some value.scalar) :
    TelemetryFrame.Typed (value.field number) :=
  ⟨value.scalar, value.word, known, rfl, value.word_lt⟩

@[simp] theorem sint32_word (v : Int32) : TelemetryFrame.sint32 (sint32 v).word = v := by
  have number : (sint32 v).word.toUInt32.toNat = (Zigzag.encode v.toBitVec).toNat := by
    rw [word, UInt32.toUInt32_toUInt64]
    rfl
  rw [TelemetryFrame.sint32, number, Zigzag.decode_encode]
  exact Int32.ofInt_toInt v

@[simp] theorem uint32_word (v : UInt32) : (uint32 v).word.toUInt32 = v :=
  UInt32.toUInt32_toUInt64 v

@[simp] theorem bool_word (v : Bool) : ((bool v).word != 0) = v := by
  cases v <;> rfl

end Value

@[simp] theorem sint32_zero : TelemetryFrame.sint32 0 = 0 := by
  decide

theorem encodeUint32Field_eq (buf : List UInt8) {number : UInt32} (small : number < 32)
    (v : UInt32) :
    encodeUint32Field buf number v = buf ++ ((Value.uint32 v).field number.toNat).bytes := by
  rw [encodeUint32Field, encodeTag_eq buf small, encodeVarint, Varint.pushLoop_eq,
    List.append_assoc]
  rfl

theorem encodeSint32Field_eq (buf : List UInt8) {number : UInt32} (small : number < 32)
    (v : Int32) :
    encodeSint32Field buf number v = buf ++ ((Value.sint32 v).field number.toNat).bytes :=
  encodeUint32Field_eq buf small ((v <<< 1) ^^^ (v >>> 31)).toUInt32

theorem encodeBoolField_eq (buf : List UInt8) {number : UInt32} (small : number < 32)
    (v : Bool) :
    encodeBoolField buf number v = buf ++ ((Value.bool v).field number.toNat).bytes := by
  rw [encodeBoolField, encodeTag_eq buf small, List.append_assoc]
  cases v <;> simp [Value.field, Value.word, Field.bytes, Field.tag, Payload.wireType,
    Payload.bytes, Varint.varint_of_lt]

theorem scaled_back (v : Int16) : v.toInt32 * 100 / 100 = v.toInt32 := by
  -- a hundred times an `i16` fits an `i32`
  have least := v.le_toInt
  have greatest := v.toInt_lt
  have product : (v.toInt32 * 100).toInt = v.toInt * 100 := by
    rw [Int32.toInt_mul, Int16.toInt_toInt32]
    exact Int.bmod_eq_of_le (by simp at *; omega) (by simp at *; omega)
  apply Int32.toInt_inj.mp
  rw [Int32.toInt_div_of_ne_right _ _ (by decide), product, Int16.toInt_toInt32]
  exact Int.mul_tdiv_cancel _ (by decide)

theorem charge_word (remaining : Int8) :
    (max remaining 0).toInt32.toUInt32 = UInt32.ofNat remaining.toInt.toNat := by
  change (if remaining ≤ 0 then 0 else remaining).toInt32.toUInt32 = _
  by_cases empty : remaining ≤ 0
  · have negative : remaining.toInt ≤ 0 := Int8.le_iff_toInt_le.mp empty
    have none : remaining.toInt.toNat = 0 := by omega
    rw [if_pos empty, none]
    rfl
  · have positive : 0 ≤ remaining.toInt32 := by
      rw [Int8.le_iff_toInt_le] at empty
      rw [Int32.le_iff_toInt_le, Int8.toInt_toInt32]
      exact le_of_lt (not_le.mp empty)
    have bounded := remaining.toInt_lt
    apply UInt32.toNat_inj.mp
    rw [if_neg empty, Int32.toNat_toUInt32_of_le positive, ← Int32.toNat_toInt,
      Int8.toInt_toInt32, UInt32.toNat_ofNat', Nat.mod_eq_of_lt (by omega)]

/-! ## What is decoded -/

/-- The fields with these numbers and values. -/
def written (values : List (Nat × Value)) : List Field :=
  values.map fun value => value.2.field value.1

theorem decodes_written {data : List UInt8} {frame : TelemetryFrame}
    (values : List (Nat × Value)) (bytes : data = encode (written values))
    (known : ∀ value ∈ values, TelemetryFrame.type value.1 = some value.2.scalar)
    (once : (values.map Prod.fst).Nodup)
    (decoded : frame = TelemetryFrame.ofFields (written values)) :
    TelemetryFrame.Decodes data frame := by
  refine TelemetryFrame.decodes_encode (written values) bytes ?_ ?_ decoded
  · intro field member
    obtain ⟨value, held, rfl⟩ := List.mem_map.mp member
    exact Value.typed (known value held)
  · have numbers : (written values).map Field.number = values.map Prod.fst := by
      rw [written, List.map_map]
      rfl
    rw [numbers]
    exact once

theorem position_decodes (lat lon : UInt64) (alt : UInt32) (relAltMm : Int32) (vx vy vz : Int16)
    (hdg : UInt16) :
    TelemetryFrame.Decodes (encodePositionPayload lat lon alt relAltMm vx vy vz hdg)
      { vxCms := vx.toInt32, vyCms := vy.toInt32, vzCms := vz.toInt32, altRelMm := relAltMm,
        heading := hdg.toUInt32 } := by
  refine decodes_written [(4, .sint32 vx.toInt32), (5, .sint32 vy.toInt32),
    (6, .sint32 vz.toInt32), (16, .sint32 relAltMm), (15, .uint32 hdg.toUInt32)] ?_ ?_ ?_ ?_
  · simp (disch := decide) [encodePositionPayload, scaled_back, encodeSint32Field_eq,
      encodeUint32Field_eq, written]
  · simp [TelemetryFrame.type, Value.scalar]
  · simp
  · simp [TelemetryFrame.ofFields, written, Value.field, Field.varint?]

theorem battery_decodes (voltageMv : UInt32) (currentMa : Int32) (remaining : UInt32) :
    TelemetryFrame.Decodes (encodeBatteryPayload voltageMv currentMa remaining)
      { batteryMv := voltageMv, batteryCurrentMa := currentMa, batteryPct := remaining } := by
  refine decodes_written [(7, .uint32 voltageMv), (8, .sint32 currentMa), (9, .uint32 remaining)]
    ?_ ?_ ?_ ?_
  · simp (disch := decide) [encodeBatteryPayload, encodeUint32Field_eq, encodeSint32Field_eq,
      written]
  · simp [TelemetryFrame.type, Value.scalar]
  · simp
  · simp [TelemetryFrame.ofFields, written, Value.field, Field.varint?]

theorem heartbeat_decodes (baseMode : UInt8) (status : UInt32) :
    TelemetryFrame.Decodes (encodeHeartbeatPayload baseMode status)
      { armed := baseMode &&& 0x80 != 0, mode := status } := by
  unfold encodeHeartbeatPayload
  generalize (baseMode &&& 0x80 != 0) = armed
  refine decodes_written [(11, .bool armed), (10, .uint32 status)] ?_ ?_ ?_ ?_
  · simp (disch := decide) [encodeBoolField_eq, encodeUint32Field_eq, written]
  · simp [TelemetryFrame.type, Value.scalar]
  · simp
  · simp [TelemetryFrame.ofFields, written, Value.field, Field.varint?]

theorem gps_decodes (lat lon : UInt64) (alt fix sats eph : UInt32) :
    TelemetryFrame.Decodes (encodeGpsPayload lat lon alt fix sats eph)
      { gpsFix := fix, gpsSats := sats, hdopCm := eph } := by
  refine decodes_written [(12, .uint32 fix), (13, .uint32 sats), (14, .uint32 eph)] ?_ ?_ ?_ ?_
  · simp (disch := decide) [encodeGpsPayload, encodeUint32Field_eq, written]
  · simp [TelemetryFrame.type, Value.scalar]
  · simp
  · simp [TelemetryFrame.ofFields, written, Value.field, Field.varint?]

-- A negative charge is read as zero.
theorem sysStatus_decodes (voltageMv : UInt16) (currentMa : Int16) (remaining : Int8) :
    TelemetryFrame.Decodes (encodeSysStatusPayload voltageMv currentMa remaining)
      { batteryMv := voltageMv.toUInt32, batteryCurrentMa := currentMa.toInt32,
        batteryPct := UInt32.ofNat remaining.toInt.toNat } := by
  rw [← charge_word]
  exact battery_decodes voltageMv.toUInt32 currentMa.toInt32 (max remaining 0).toInt32.toUInt32

theorem payloads_decode :
    (∀ (lat lon : UInt64) (alt : UInt32) (relAltMm : Int32) (vx vy vz : Int16) (hdg : UInt16),
      TelemetryFrame.Decodes (encodePositionPayload lat lon alt relAltMm vx vy vz hdg)
        { vxCms := vx.toInt32, vyCms := vy.toInt32, vzCms := vz.toInt32, altRelMm := relAltMm,
          heading := hdg.toUInt32 }) ∧
    (∀ (voltageMv : UInt32) (currentMa : Int32) (remaining : UInt32),
      TelemetryFrame.Decodes (encodeBatteryPayload voltageMv currentMa remaining)
        { batteryMv := voltageMv, batteryCurrentMa := currentMa, batteryPct := remaining }) ∧
    (∀ (baseMode : UInt8) (status : UInt32),
      TelemetryFrame.Decodes (encodeHeartbeatPayload baseMode status)
        { armed := baseMode &&& 0x80 != 0, mode := status }) ∧
    (∀ (lat lon : UInt64) (alt fix sats eph : UInt32),
      TelemetryFrame.Decodes (encodeGpsPayload lat lon alt fix sats eph)
        { gpsFix := fix, gpsSats := sats, hdopCm := eph }) ∧
    ∀ (voltageMv : UInt16) (currentMa : Int16) (remaining : Int8),
      TelemetryFrame.Decodes (encodeSysStatusPayload voltageMv currentMa remaining)
        { batteryMv := voltageMv.toUInt32, batteryCurrentMa := currentMa.toInt32,
          batteryPct := UInt32.ofNat remaining.toInt.toNat } :=
  ⟨position_decodes, battery_decodes, heartbeat_decodes, gps_decodes, sysStatus_decodes⟩

end SystemScale.Agent.Mavlink
