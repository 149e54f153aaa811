import SystemScale.Agent.LocalApi
import SystemScale.Lib.Decimal
import SystemScale.Relay.GatewayCodec

set_option autoImplicit false

/-!
# ws-gateway's JSON frames

An envelope is shown to a subscriber of the format `json` as an object of eight keys.
-/

namespace SystemScale.Relay

open Agent (serdeStyle)
open Json (Number Value)
open Wire

/-! ## base64 -/

def base64Char (value : Nat) : Char :=
  if value < 26 then Char.ofNat (65 + value)
  else if value < 52 then Char.ofNat (71 + value)
  else if value < 62 then Char.ofNat (value - 4)
  else if value = 62 then '+'
  else '/'

def base64Group (a b c : UInt8) : List Char :=
  [a.toNat / 4, a.toNat % 4 * 16 + b.toNat / 16, b.toNat % 16 * 4 + c.toNat / 64, c.toNat % 64].map
    base64Char

def base64Encode : List UInt8 → List Char
  | [] => []
  | [a] => (base64Group a 0 0).take 2 ++ ['=', '=']
  | [a, b] => (base64Group a b 0).take 3 ++ ['=']
  | a :: b :: c :: rest => base64Group a b c ++ base64Encode rest

example : base64Encode [0x68, 0x69] = "aGk=".toList := by decide

/-! ## Frames -/

section Rendering

-- The text that serde_json writes for a finite number.
variable (floatText : UInt64 → Number)

/-- A number that is not finite is written as `null`. -/
def floatValue (bits : UInt64) : Value :=
  if Binary.finite bits then .number (floatText bits) else .null

def wordValue (word : UInt64) : Value := .number (.ofInt word.toNat)

def JsonFrame.fields (frame : JsonFrame) : List (String × Value) :=
  [("alt", floatValue floatText (Binary.widen frame.alt)),
    ("lat", floatValue floatText frame.lat),
    ("lon", floatValue floatText frame.lon),
    ("payload_b64", .string (String.ofList (base64Encode frame.payload))),
    ("seq", wordValue frame.seqNum),
    ("ts", wordValue frame.timestampNs),
    ("type", .string "telemetry"),
    ("vehicle_id", .string frame.vehicleId)]

def JsonFrame.text (frame : JsonFrame) : List Char :=
  Value.write serdeStyle (.object (frame.fields floatText))

def envelopeToJsonText (data : List UInt8) : Outcome (Option (List Char)) :=
  (envelopeToJsonFrame data).bind fun frame => .ok (frame.map (JsonFrame.text floatText))

theorem floatValue_within (bits : UInt64) (nesting : Nat) :
    (floatValue floatText bits).Within nesting := by
  unfold floatValue
  split_ifs <;> simp [Value.Within]

-- Every reader reads the keys and values of the frame.
theorem JsonFrame.read_text (frame : JsonFrame) {reader : Json.Reader} (deep : 0 < reader.nesting) :
    reader.read (frame.text floatText) = some (.object (frame.fields floatText)) := by
  refine reader.read_write serdeStyle _ ?_
  obtain ⟨nesting, levels⟩ := Nat.exists_eq_succ_of_ne_zero deep.ne'
  rw [levels, Value.Within]
  intro field member
  simp only [JsonFrame.fields, List.mem_cons, List.not_mem_nil, or_false] at member
  rcases member with rfl | rfl | rfl | rfl | rfl | rfl | rfl | rfl
  · exact floatValue_within floatText _ _
  · exact floatValue_within floatText _ _
  · exact floatValue_within floatText _ _
  all_goals simp [wordValue, Value.Within]

end Rendering

end SystemScale.Relay
