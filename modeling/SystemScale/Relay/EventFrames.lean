import SystemScale.Agent.LocalApi
import SystemScale.Relay.GatewayCodec

set_option autoImplicit false

/-!
# ws-gateway's alerts

`route_event_frame` looks for an alert or a request for assistance in an envelope's payload, which
is protobuf or, from the SDK, JSON.
-/

namespace SystemScale.Relay

open Agent (serdeFromSlice serdeStyle)
open Json (Value)
open Wire

/-! ## Protobuf payloads -/

structure EventFrame where
  eventType : Int
  description : String
  metadata : List UInt8

-- `v as i64` keeps the bits.
def EventFrame.setVarint (frame : EventFrame) (field : Nat) (v : UInt64) : EventFrame :=
  if field = 1 then { frame with eventType := Int.bmod v.toNat (2 ^ 64) } else frame

def EventFrame.setBytes (frame : EventFrame) (field : Nat) (bytes : List UInt8) : EventFrame :=
  match field with
  | 2 => { frame with description := Utf8.lossy bytes }
  | 3 => { frame with metadata := bytes }
  | _ => frame

-- Where `decode_envelope_routing` gives up, this one keeps what it has read.
def decodeEventStep (data : List UInt8) :
    Nat × EventFrame → Step (Nat × EventFrame) (Outcome EventFrame)
  | (pos, frame) =>
    if pos < data.length then
      let (tag, n) := readVarint (data.drop pos)
      if n = 0 then .done (.ok frame)
      else
        let pos := pos + n
        let field := (tag >>> 3).toUInt32.toNat
        match (tag &&& 0x7).toNat with
        | 0 =>
          let (v, n2) := readVarint (data.drop pos)
          if n2 = 0 then .done (.ok frame)
          else .next (pos + n2, frame.setVarint field v)
        | 2 =>
          let (len, n2) := readVarint (data.drop pos)
          if n2 = 0 then .done (.ok frame)
          else
            let pos := pos + n2
            let stop := (pos + len.toNat) % 2 ^ 64
            if stop > data.length then .done (.ok frame)
            else if stop < pos ∧ (field = 2 ∨ field = 3) then .done .panic
            else .next (stop, frame.setBytes field (Bytes.slice data pos (stop - pos)))
        | 1 => if pos + 8 > data.length then .done (.ok frame) else .next (pos + 8, frame)
        | 5 => if pos + 4 > data.length then .done (.ok frame) else .next (pos + 4, frame)
        | _ => .done (.ok frame)
    else .done (.ok frame)

def decodeEventFrame (data : List UInt8) : Outcome EventFrame :=
  (loop (decodeEventStep data) (data.length + 1) (0, ⟨0, "", []⟩)).getD .hang

-- Fixed-width fields are skipped without a look at the end of the buffer.
def decodePairStep (data : List UInt8) :
    Nat × String × String → Step (Nat × String × String) (Outcome (String × String))
  | (pos, pair) =>
    if pos < data.length then
      let (tag, n) := readVarint (data.drop pos)
      if n = 0 then .done (.ok pair)
      else
        let pos := pos + n
        let field := (tag >>> 3).toUInt32.toNat
        match (tag &&& 0x7).toNat with
        | 2 =>
          let (len, n2) := readVarint (data.drop pos)
          if n2 = 0 then .done (.ok pair)
          else
            let pos := pos + n2
            let stop := (pos + len.toNat) % 2 ^ 64
            if stop > data.length then .done (.ok pair)
            else if stop < pos ∧ (field = 1 ∨ field = 2) then .done .panic
            else
              let text := Utf8.lossy (Bytes.slice data pos (stop - pos))
              .next (stop,
                if field = 1 then (text, pair.2) else if field = 2 then (pair.1, text) else pair)
        | 0 => .next (pos + max (readVarint (data.drop pos)).2 1, pair)
        | 1 => .next (pos + 8, pair)
        | 5 => .next (pos + 4, pair)
        | _ => .done (.ok pair)
    else .done (.ok pair)

/-- The two string fields 1 and 2. `decode_alert_frame` and `decode_assistance_frame` differ in
what stands for an absent first one. -/
def decodePair (first : String) (data : List UInt8) : Outcome (String × String) :=
  (loop (decodePairStep data) (data.length + 1) (0, first, "")).getD .hang

def decodeAlertFrame (data : List UInt8) : Outcome (String × String) := decodePair "info" data

def decodeAssistanceFrame (data : List UInt8) : Outcome (String × String) := decodePair "" data

/-! ## JSON payloads -/

def getKey (key : String) : Value → Option Value
  | .object fields => Json.lookup key fields
  | _ => none

def asStr : Value → Option String
  | .string text => some text
  | _ => none

def asI64 : Value → Option Int
  | .number number => number.toInt?.filter fun value => -2 ^ 63 ≤ value ∧ value < 2 ^ 63
  | _ => none

def strKey (key : String) (value : Value) : Option String := (getKey key value).bind asStr

/-- The event type, and the object it is found in. -/
def jsonEvent (payload : List UInt8) : Option (Int × Value) := do
  let value ← serdeFromSlice payload
  let kind ← getKey "_event_type" value
  some ((asI64 kind).getD 0, value)

/-! ## Frames for the operator -/

def eventTypeAlert : Int := 101

def eventTypeAssistanceReq : Int := 102

-- `serde_json` writes the keys of an object in order.
def alertText (device level message : String) : String :=
  String.ofList (Value.write serdeStyle (.object [("device", .string device),
    ("level", .string level), ("message", .string message), ("type", .string "alert")]))

def assistanceText (device requestId reason : String) : String :=
  String.ofList (Value.write serdeStyle (.object [("device", .string device),
    ("reason", .string reason), ("request_id", .string requestId),
    ("type", .string "assistance_request")]))

def alertOf (json : Option Value) (frame : EventFrame) : Outcome (String × String) :=
  match json with
  | some value => .ok ((strKey "level" value).getD "info",
      ((strKey "message" value).or (strKey "description" value)).getD frame.description)
  | none =>
    if frame.metadata ≠ [] then decodeAlertFrame frame.metadata else .ok ("info", frame.description)

def assistanceOf (json : Option Value) (frame : EventFrame) : Outcome (String × String) :=
  match json with
  | some value => .ok ((strKey "_request_id" value).getD "",
      (strKey "reason" value).getD frame.description)
  | none =>
    if frame.metadata ≠ [] then decodeAssistanceFrame frame.metadata
    else .ok ("", frame.description)

/-- The text for the operator, or `none` of an event of another type. -/
def routeFrame (vehicleId : String) (payload : List UInt8) (frame : EventFrame) :
    Outcome (Option String) :=
  let json := if frame.eventType = 0 then jsonEvent payload else none
  let eventType := (json.map Prod.fst).getD frame.eventType
  if eventType = eventTypeAlert then
    (alertOf (json.map Prod.snd) frame).bind fun (level, message) =>
      .ok (some (alertText vehicleId level message))
  else if eventType = eventTypeAssistanceReq then
    (assistanceOf (json.map Prod.snd) frame).bind fun (requestId, reason) =>
      .ok (some (assistanceText vehicleId requestId reason))
  else .ok none

def routeEventFrame (data : List UInt8) (vehicleId : String) : Outcome (Option String) :=
  (decodeEnvelopeRouting data).bind fun routing =>
    match routing with
    | none => .ok none
    | some (_, payload) => (decodeEventFrame payload).bind (routeFrame vehicleId payload)

end SystemScale.Relay
