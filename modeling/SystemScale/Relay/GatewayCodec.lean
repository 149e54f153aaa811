import SystemScale.Lib.Utf8
import SystemScale.Lib.WellFormed

set_option autoImplicit false

/-!
# ws-gateway's decoders of envelopes

`decode_envelope_routing` and `envelope_to_json_frame` walk the buffer alike and keep different
fields. `usize` has 64 bits and its addition wraps.
-/

namespace SystemScale.Relay

open Wire

def readVarint (data : List UInt8) : UInt64 × Nat :=
  match Varint.read data with
  | .value word length => (word, length)
  | .truncated => (0, 0)
  | .overflow => (0, 0)

/-- What a decoder keeps of the fields it meets. -/
structure Sink (Env : Type) where
  varint : Env → Nat → UInt64 → Env
  fixed64 : Env → Nat → UInt64 → Env
  fixed32 : Env → Nat → UInt32 → Env
  vehicleId : Env → String → Env
  payload : Env → List UInt8 → Env

variable {Env : Type}

def Sink.delimited (sink : Sink Env) (env : Env) (field : Nat) (bytes : List UInt8) : Env :=
  match field with
  | 1 => sink.vehicleId env (Utf8.lossy bytes)
  | 4 => sink.payload env bytes
  | _ => env

def decodeStep (sink : Sink Env) (data : List UInt8) :
    Nat × Env → Step (Nat × Env) (Outcome (Option Env))
  | (pos, env) =>
    if pos < data.length then
      let (tag, n) := readVarint (data.drop pos)
      if n = 0 then .done (.ok (some env))
      else
        let pos := pos + n
        let field := (tag >>> 3).toUInt32.toNat
        match (tag &&& 0x7).toNat with
        | 0 =>
          let (v, n2) := readVarint (data.drop pos)
          if n2 = 0 then .done (.ok none)
          else .next (pos + n2, sink.varint env field v)
        | 1 =>
          if pos + 8 > data.length then .done (.ok none)
          else
            let val := UInt64.ofNat (Bytes.leValue (Bytes.slice data pos 8))
            .next (pos + 8, sink.fixed64 env field val)
        | 2 =>
          let (len, n2) := readVarint (data.drop pos)
          if n2 = 0 then .done (.ok none)
          else
            let pos := pos + n2
            let stop := (pos + len.toNat) % 2 ^ 64
            if stop > data.length then .done (.ok none)
            -- A wrapped `end` panics where the range is sliced, and is a jump back elsewhere.
            else if stop < pos ∧ (field = 1 ∨ field = 4) then .done .panic
            else .next (stop, sink.delimited env field (Bytes.slice data pos (stop - pos)))
        | 5 =>
          if pos + 4 > data.length then .done (.ok none)
          else
            let val := UInt32.ofNat (Bytes.leValue (Bytes.slice data pos 4))
            .next (pos + 4, sink.fixed32 env field val)
        | _ => .done (.ok none)
    else .done (.ok (some env))

def decode (sink : Sink Env) (start : Env) (data : List UInt8) : Outcome (Option Env) :=
  (loop (decodeStep sink data) (data.length + 1) (0, start)).getD .hang

/-! ## The two decoders -/

abbrev Routing := String × List UInt8

def routingSink : Sink Routing where
  varint routing _ _ := routing
  fixed64 routing _ _ := routing
  fixed32 routing _ _ := routing
  vehicleId routing vehicle_id := (vehicle_id, routing.2)
  payload routing payload := (routing.1, payload)

def decodeEnvelopeRouting (data : List UInt8) : Outcome (Option Routing) :=
  decode routingSink ("", []) data

/-- The fields that are rendered as JSON. Floats are kept as their bits, `alt` before it is
widened. -/
structure JsonFrame where
  vehicleId : String
  timestampNs : UInt64
  seqNum : UInt64
  payload : List UInt8
  lat : UInt64
  lon : UInt64
  alt : UInt32
  deriving DecidableEq

def jsonFrameSink : Sink JsonFrame where
  varint frame field v :=
    match field with
    | 2 => { frame with timestampNs := v }
    | 8 => { frame with seqNum := v }
    | _ => frame
  fixed64 frame field val :=
    match field with
    | 5 => { frame with lat := val }
    | 6 => { frame with lon := val }
    | _ => frame
  fixed32 frame field val := if field = 7 then { frame with alt := val } else frame
  vehicleId frame vehicle_id := { frame with vehicleId := vehicle_id }
  payload frame payload := { frame with payload := payload }

def envelopeToJsonFrame (data : List UInt8) : Outcome (Option JsonFrame) :=
  decode jsonFrameSink ⟨"", 0, 0, [], 0, 0, 0⟩ data

/-! ## Well-formed messages -/

def Sink.apply (sink : Sink Env) (env : Env) (field : Field) : Env :=
  match field.payload with
  | .varint v => sink.varint env field.number v
  | .fixed64 val => sink.fixed64 env field.number val
  | .delimited bytes => sink.delimited env field.number bytes
  | .fixed32 val => sink.fixed32 env field.number val

theorem decodeStep_scan {data : List UInt8} {pos length : Nat} {field : Field}
    (held : data.length < 2 ^ 63) (sink : Sink Env) (env : Env) (inside : pos < data.length)
    (small : field.number < 2 ^ 32) (scanned : scanField (data.drop pos) = some (field, length)) :
    decodeStep sink data (pos, env) = .next (pos + length, sink.apply env field) := by
  obtain ⟨number, payload⟩ := field
  obtain ⟨tag, tagLength, size, read, cast, kind, content, rfl⟩ := scanField_content32 scanned
  have some_tag := (Varint.read_bounds read).1.ne'
  have number_is := cast.trans (Nat.mod_eq_of_lt small)
  rw [decodeStep, if_pos inside, readVarint, read]
  simp only [if_neg some_tag, number_is, kind]
  cases content with
  | varint value =>
    have some_word := (Varint.read_bounds value).1.ne'
    simp only [Payload.wireType, readVarint, value, if_neg some_word, Sink.apply, Nat.add_assoc]
  | fixed64 whole =>
    simp only [Payload.wireType, Sink.apply, Nat.add_assoc]
    rw [if_neg (by omega)]
  | @delimited count countLength value whole =>
    have some_count := (Varint.read_bounds value).1.ne'
    have stop : (pos + tagLength + countLength + count.toNat) % 2 ^ 64 =
        pos + tagLength + countLength + count.toNat := Nat.mod_eq_of_lt (by omega)
    simp only [Payload.wireType, readVarint, value, if_neg some_count, stop]
    rw [if_neg (by omega), if_neg (by omega), Nat.add_sub_cancel_left]
    simp only [Sink.apply, Nat.add_assoc]
  | fixed32 whole =>
    simp only [Payload.wireType, Sink.apply, Nat.add_assoc]
    rw [if_neg (by omega)]

theorem decode_encode (sink : Sink Env) (start : Env) (fields : List Field)
    (good : ∀ field ∈ fields, field.number < 2 ^ 29) (held : (encode fields).length < 2 ^ 63) :
    decode sink start (encode fields) = .ok (some (fields.foldl sink.apply start)) := by
  have walk := decode_fields (decodeStep sink (encode fields)) Prod.mk sink.apply
    (fun env => .ok (some env)) fields start (fun _ small => small)
    (fun _ _ _ env small at_field => decodeStep_scan held sink env at_field.inside
      (by omega) (at_field.scans held))
    (fun env => by simp [decodeStep]) good
  exact congrArg (Option.getD · _) walk

end SystemScale.Relay
