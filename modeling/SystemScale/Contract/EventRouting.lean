import SystemScale.Agent.CommandStream
import SystemScale.Contract.EventDelivery
import SystemScale.Relay.EventReading

set_option autoImplicit false

/-!
# Events of either form at the gateway

A payload is tried as protobuf first, and as JSON if that gives no event type. No object is taken
for an event of the other form, and no event for an object.
-/

namespace SystemScale.Contract

open AdapterTrait Agent Relay Sdk Wire
open Json (Value lookup)

/-! ## The JSON library's room -/

section Held

-- How the JSON library keeps a number, where it has room for it.
variable (number : Json.Number → Option Json.Number)

/-- `jsonEvent` with a library that has no room for every number. -/
def heldEvent (payload : List UInt8) : Option (Int × Value) := do
  let value ← fromSlice number payload
  let kind ← getKey "_event_type" value
  some ((asI64 kind).getD 0, value)

/-- The text for the operator, or `none` of an event of another type. -/
def routeFound (vehicleId : String) (json : Option (Int × Value)) (frame : EventFrame) :
    Outcome (Option String) :=
  let eventType := (json.map Prod.fst).getD frame.eventType
  if eventType = eventTypeAlert then
    (alertOf (json.map Prod.snd) frame).bind fun (level, message) =>
      .ok (some (alertText vehicleId level message))
  else if eventType = eventTypeAssistanceReq then
    (assistanceOf (json.map Prod.snd) frame).bind fun (requestId, reason) =>
      .ok (some (assistanceText vehicleId requestId reason))
  else .ok none

def routeHeldEvent (data : List UInt8) (vehicleId : String) : Outcome (Option String) :=
  (decodeEnvelopeRouting data).bind fun routing =>
    match routing with
    | none => .ok none
    | some (_, payload) => (decodeEventFrame payload).bind fun frame =>
      routeFound vehicleId (if frame.eventType = 0 then heldEvent number payload else none) frame

theorem routeFrame_found (vehicleId : String) (payload : List UInt8) (frame : EventFrame) :
    routeFrame vehicleId payload frame =
      routeFound vehicleId (if frame.eventType = 0 then jsonEvent payload else none) frame := rfl

theorem routeHeldEvent_payload (env : DataEnvelope) {frame : EventFrame}
    (decoded : decodeEventFrame env.payload = .ok frame) (device : String) :
    routeHeldEvent number (encodeEnvelopeToBuf env) device =
      routeFound device (if frame.eventType = 0 then heldEvent number env.payload else none)
        frame := by
  rw [routeHeldEvent, decodeEnvelopeRouting_encodeEnvelope]
  simp only [Outcome.bind, decoded]

end Held

/-- A number that is kept is the same 64-bit integer, or none as before. The zero with a sign is
kept as a float. -/
def Precise (number : Json.Number → Option Json.Number) : Prop :=
  ∀ given kept, number given = some kept →
    (asI64 (.number kept)).getD 0 = (asI64 (.number given)).getD 0

/-! ## Objects -/

section Objects

variable {number : Json.Number → Option Json.Number}

def written (style : Json.Style) (fields : Object) : List UInt8 :=
  Utf8.encode (String.ofList ((Value.object fields).write style))

-- A brace is a tag of field 15 with a wire type that ends the decoding.
theorem decodeEventFrame_written (style : Json.Style) (fields : Object) :
    decodeEventFrame (written style fields) = .ok ⟨0, "", []⟩ := by
  have brace : String.utf8EncodeChar '{' = [0x7B] := by decide
  have text : (Value.object fields).write style =
      '{' :: (style.separate (Json.writeFields style fields) ++ ['}']) := by
    rw [Value.write]
    rfl
  rw [written, text, Utf8.encode, String.toList_ofList, List.flatMap_cons, brace, decodeEventFrame]
  rfl

-- What is kept of the last value of a key stands there alone.
theorem lookup_serdeFields {key : String} {fields made kept : Object}
    (read : serdeFields number made fields = some kept) :
    lookup key kept = ((lookup key fields).bind (serdeValue number)).or (lookup key made) ∧
      ∀ value, lookup key fields = some value → (serdeValue number value).isSome := by
  induction fields generalizing made with
  | nil =>
    obtain rfl := Option.some.inj read
    simp [Json.lookup_nil]
  | cons field rest ih =>
    obtain ⟨name, given⟩ := field
    rw [serdeFields] at read
    obtain ⟨value, first, read⟩ := Option.bind_eq_some_iff.mp read
    obtain ⟨found, held⟩ := ih read
    rw [found, Json.lookup_cons, mapInsert_inserts]
    cases later : lookup key rest with
    | some last =>
      obtain ⟨value, is⟩ := Option.isSome_iff_exists.mp (held last later)
      simp [is]
    | none =>
      by_cases same : key = name
      · simp [same, first]
      · simp [same]

theorem serdeValue_asStr {given kept : Value} (read : serdeValue number given = some kept) :
    asStr kept = asStr given := by
  cases given with
  | number given =>
    obtain ⟨kept, _, rfl⟩ := Option.map_eq_some_iff.mp read
    rfl
  | array items =>
    obtain ⟨kept, _, rfl⟩ := Option.map_eq_some_iff.mp read
    rfl
  | object fields =>
    obtain ⟨kept, _, rfl⟩ := Option.map_eq_some_iff.mp read
    rfl
  | _ =>
    obtain rfl := Option.some.inj read
    rfl

theorem serdeValue_asI64 (precise : Precise number) {given kept : Value}
    (read : serdeValue number given = some kept) : (asI64 kept).getD 0 = (asI64 given).getD 0 := by
  cases given with
  | number given =>
    obtain ⟨kept, is, rfl⟩ := Option.map_eq_some_iff.mp read
    exact precise given kept is
  | array items =>
    obtain ⟨kept, _, rfl⟩ := Option.map_eq_some_iff.mp read
    rfl
  | object fields =>
    obtain ⟨kept, _, rfl⟩ := Option.map_eq_some_iff.mp read
    rfl
  | _ =>
    obtain rfl := Option.some.inj read
    rfl

variable {fields kept : Object}

theorem lookup_kept (read : serdeFields number [] fields = some kept) (key : String) :
    lookup key kept = (lookup key fields).bind (serdeValue number) := by
  rw [(lookup_serdeFields read).1, Json.lookup_nil, Option.or_none]

theorem strKey_kept (read : serdeFields number [] fields = some kept) (key : String) :
    strKey key (.object kept) = strKey key (.object fields) := by
  show (lookup key kept).bind asStr = (lookup key fields).bind asStr
  rw [lookup_kept read]
  cases found : lookup key fields with
  | none => rfl
  | some given =>
    obtain ⟨value, is⟩ := Option.isSome_iff_exists.mp ((lookup_serdeFields read).2 given found)
    simp [is, serdeValue_asStr is]

/-- The event type that the gateway finds. -/
def kindOf (fields : Object) : Int := ((lookup "_event_type" fields).bind asI64).getD 0

theorem kindOf_kept (precise : Precise number) (read : serdeFields number [] fields = some kept) :
    kindOf kept = kindOf fields := by
  rw [kindOf, kindOf, lookup_kept read]
  cases found : lookup "_event_type" fields with
  | none => rfl
  | some given =>
    obtain ⟨value, is⟩ := Option.isSome_iff_exists.mp ((lookup_serdeFields read).2 given found)
    simp [is, serdeValue_asI64 precise is]

theorem heldEvent_written (style : Json.Style) (within : (Value.object fields).Within 127)
    (read : serdeFields number [] fields = some kept) :
    heldEvent number (written style fields) =
      (lookup "_event_type" kept).map fun kind => ((asI64 kind).getD 0, .object kept) := by
  have value : serdeValue number (.object fields) = some (.object kept) := by
    rw [serdeValue, read]
    rfl
  rw [heldEvent, fromSlice, written, serdeFromSlice_written style _ within]
  show (serdeValue number (.object fields)).bind _ = _
  rw [value]
  show (lookup "_event_type" kept).bind _ = _
  cases lookup "_event_type" kept <;> rfl

theorem fromSlice_some {payload : List UInt8} {value : Value}
    (found : fromSlice number payload = some value) :
    ∃ given, serdeFromSlice payload = some given ∧ serdeValue number given = some value :=
  Option.bind_eq_some_iff.mp found

theorem serdeFromSlice_object {style : Json.Style} {given : Value}
    (parsed : serdeFromSlice (written style fields) = some given) :
    given = .object fields ∧ (Value.object fields).Within 127 := by
  rw [serdeFromSlice, written, Utf8.strict_encode, Option.bind_eq_bind, Option.bind_some,
    String.toList_ofList] at parsed
  exact Json.Reader.read_written style parsed

-- An object that the library does not hold has no event.
theorem heldEvent_unheld (style : Json.Style)
    (unheld : ¬ ((Value.object fields).Within 127 ∧ (serdeFields number [] fields).isSome)) :
    heldEvent number (written style fields) = none := by
  have nothing : fromSlice number (written style fields) = none := by
    by_contra some_value
    obtain ⟨value, found⟩ := Option.ne_none_iff_exists'.mp some_value
    obtain ⟨given, parsed, kept⟩ := fromSlice_some found
    obtain ⟨rfl, within⟩ := serdeFromSlice_object parsed
    obtain ⟨held, is, _⟩ := Option.map_eq_some_iff.mp kept
    exact unheld ⟨within, by rw [is]; rfl⟩
  rw [heldEvent, nothing]
  rfl

theorem routedObject_kind (device : String) : routedObject device fields =
    if kindOf fields = 101 then
      some (alertText device ((strKey "level" (.object fields)).getD "info")
        (((strKey "message" (.object fields)).or (strKey "description" (.object fields))).getD ""))
    else if kindOf fields = 102 then
      some (assistanceText device ((strKey "_request_id" (.object fields)).getD "")
        ((strKey "reason" (.object fields)).getD ""))
    else none := by
  rw [routedObject, kindOf]
  cases (lookup "_event_type" fields).bind asI64 <;> simp

theorem routeFound_kept (device : String) :
    routeFound device ((lookup "_event_type" kept).map fun kind =>
      ((asI64 kind).getD 0, .object kept)) ⟨0, "", []⟩ = .ok (routedObject device kept) := by
  rw [routedObject_kind, kindOf]
  cases lookup "_event_type" kept with
  | none => rfl
  | some kind =>
    show (if (asI64 kind).getD 0 = 101 then _ else if (asI64 kind).getD 0 = 102 then _ else _) =
      Outcome.ok (if (asI64 kind).getD 0 = 101 then _ else if (asI64 kind).getD 0 = 102 then _
        else _)
    split_ifs <;> rfl

theorem routedObject_kept (precise : Precise number)
    (read : serdeFields number [] fields = some kept) (device : String) :
    routedObject device kept = routedObject device fields := by
  rw [routedObject_kind, routedObject_kind, kindOf_kept precise read]
  simp only [strKey_kept read]

theorem routeHeldEvent_object (precise : Precise number) {env : DataEnvelope} {style : Json.Style}
    (payload : env.payload = written style fields) (within : (Value.object fields).Within 127)
    (held : (serdeFields number [] fields).isSome) (device : String) :
    routeHeldEvent number (encodeEnvelopeToBuf env) device =
      .ok (routedObject device fields) := by
  obtain ⟨kept, read⟩ := Option.isSome_iff_exists.mp held
  have decoded : decodeEventFrame env.payload = .ok ⟨0, "", []⟩ := by
    rw [payload, decodeEventFrame_written]
  rw [routeHeldEvent_payload number env decoded, if_pos rfl, payload,
    heldEvent_written style within read, routeFound_kept, routedObject_kept precise read]

theorem routeHeldEvent_unheld {env : DataEnvelope} {style : Json.Style}
    (payload : env.payload = written style fields)
    (unheld : ¬ ((Value.object fields).Within 127 ∧ (serdeFields number [] fields).isSome))
    (device : String) :
    routeHeldEvent number (encodeEnvelopeToBuf env) device = .ok none := by
  have decoded : decodeEventFrame env.payload = .ok ⟨0, "", []⟩ := by
    rw [payload, decodeEventFrame_written]
  rw [routeHeldEvent_payload number env decoded, if_pos rfl, payload,
    heldEvent_unheld style unheld]
  rfl

end Objects

/-! ## Events -/

section Events

variable {number : Json.Number → Option Json.Number} {event : EventMessage}
  {parts : List EventPart} {env : DataEnvelope}

/-- What the operator is shown of an event with these two texts. -/
def routedEvent (device : String) (eventType : Int32) (first : Option String) (second : String) :
    Option String :=
  if eventType = 101 then some (alertText device (first.getD "info") second)
  else if eventType = 102 then some (assistanceText device (first.getD "") second)
  else none

theorem routeHeldEvent_event (encodes : event.Encodes parts env.payload) (device : String) :
    routeHeldEvent number (encodeEnvelopeToBuf env) device =
      routeFound device none event.frame := by
  have held := env.held
  have decoded := decodeEventFrame_encodes (show env.payload.length < 2 ^ 63 by omega) encodes
  have no_json : heldEvent number env.payload = none := by
    rw [heldEvent, fromSlice, serdeFromSlice_event encodes]
    rfl
  rw [routeHeldEvent_payload number env decoded, no_json, ite_self]

theorem toInt_eq_iff (eventType : Int32) :
    (eventType.toInt = 101 ↔ eventType = 101) ∧ (eventType.toInt = 102 ↔ eventType = 102) := by
  have alert : (101 : Int32).toInt = 101 := by decide
  have assistance : (102 : Int32).toInt = 102 := by decide
  rw [← Int32.toInt_inj, alert, ← Int32.toInt_inj, assistance]
  exact ⟨Iff.rfl, Iff.rfl⟩

-- An event of another type, whatever its metadata is.
theorem routeHeldEvent_other (encodes : event.Encodes parts env.payload)
    (other : event.eventType ≠ 101 ∧ event.eventType ≠ 102) (device : String) :
    routeHeldEvent number (encodeEnvelopeToBuf env) device = .ok none := by
  obtain ⟨alert, assistance⟩ := toInt_eq_iff event.eventType
  rw [routeHeldEvent_event encodes device]
  simp only [routeFound, EventMessage.frame, Option.map_none, Option.getD_none, eventTypeAlert,
    eventTypeAssistanceReq, alert, assistance, if_neg other.1, if_neg other.2]

theorem routeFound_event {device : String} {first : Option String} {second : String}
    (alert : alertOf none event.frame = .ok (first.getD "info", second))
    (assistance : assistanceOf none event.frame = .ok (first.getD "", second)) :
    routeFound device none event.frame = .ok (routedEvent device event.eventType first second) := by
  obtain ⟨is_alert, is_assistance⟩ := toInt_eq_iff event.eventType
  have kind : event.frame.eventType = event.eventType.toInt := rfl
  simp only [routeFound, Option.map_none, Option.getD_none, eventTypeAlert, eventTypeAssistanceReq,
    kind, is_alert, is_assistance, alert, assistance, routedEvent, Outcome.bind]
  split_ifs <;> rfl

theorem routeHeldEvent_bare (encodes : event.Encodes parts env.payload)
    (bare : event.metadata = []) (device : String) :
    routeHeldEvent number (encodeEnvelopeToBuf env) device =
      .ok (routedEvent device event.eventType none event.description) := by
  rw [routeHeldEvent_event encodes device]
  apply routeFound_event <;> simp [alertOf, assistanceOf, EventMessage.frame, bare]

theorem routeHeldEvent_framed {frame : List FramePart}
    (encodes : event.Encodes parts env.payload) (given : event.metadata ≠ [])
    (reads : Reads event.metadata (frame.map FramePart.field)) (device : String) :
    routeHeldEvent number (encodeEnvelopeToBuf env) device =
      .ok (routedEvent device event.eventType (frame.filterMap FramePart.first?).getLast?
        (lastOf FramePart.second? "" frame)) := by
  have held := env.held
  have fits : event.metadata.length < 2 ^ 63 := by
    have inside := encodes.metadata_le
    omega
  have metadata : event.frame.metadata = event.metadata := rfl
  rw [routeHeldEvent_event encodes device]
  apply routeFound_event
  · rw [alertOf, metadata, if_pos given, decodeAlertFrame, decodePair_encodes _ fits reads]
    rfl
  · rw [assistanceOf, metadata, if_pos given, decodeAssistanceFrame,
      decodePair_encodes _ fits reads]
    rfl

end Events

/-! ## Every payload -/

/-- The object of a payload, if the JSON library goes deep enough and has room for its numbers. -/
structure HeldObject (number : Json.Number → Option Json.Number) (fields : Object)
    (payload : List UInt8) : Prop where
  text : ∃ style, payload = written style fields
  within : (Value.object fields).Within 127
  numbers : (serdeFields number [] fields).isSome

/-- What the gateway makes of an envelope: for events with no metadata, for those with a frame in
it, for objects, and for the other event types of either form. -/
structure RoutesEvents (number : Json.Number → Option Json.Number) (env : DataEnvelope)
    (device : String) : Prop where
  bare : ∀ (event : EventMessage) parts, event.Encodes parts env.payload → event.metadata = [] →
    routeHeldEvent number (encodeEnvelopeToBuf env) device =
      .ok (routedEvent device event.eventType none event.description)
  framed : ∀ (event : EventMessage) parts frame, event.Encodes parts env.payload → event.metadata ≠ [] →
    Reads event.metadata (frame.map FramePart.field) →
    routeHeldEvent number (encodeEnvelopeToBuf env) device =
      .ok (routedEvent device event.eventType (frame.filterMap FramePart.first?).getLast?
        (lastOf FramePart.second? "" frame))
  object : ∀ fields, HeldObject number fields env.payload →
    routeHeldEvent number (encodeEnvelopeToBuf env) device = .ok (routedObject device fields)
  otherEvent : ∀ (event : EventMessage) parts, event.Encodes parts env.payload →
    event.eventType ≠ 101 ∧ event.eventType ≠ 102 →
    routeHeldEvent number (encodeEnvelopeToBuf env) device = .ok none
  otherObject : ∀ style fields, env.payload = written style fields →
    kindOf fields ≠ 101 ∧ kindOf fields ≠ 102 →
    routeHeldEvent number (encodeEnvelopeToBuf env) device = .ok none

def envelopeWith (payload : List UInt8) (held : payload.length + 129 < 2 ^ 63) : DataEnvelope :=
  ⟨"v", 1, .event, payload, 0, 0, 0, 0, "", "", "", "", "", "", "", by
    rw [show (Utf8.encode "v").length = 1 from rfl]
    omega⟩

theorem envelopeWith_payload (payload : List UInt8) (held : payload.length + 129 < 2 ^ 63) :
    (envelopeWith payload held).payload = payload := rfl

def nested : Nat → Value
  | 0 => .null
  | depth + 1 => .array [nested depth]

theorem nested_within {depth nesting : Nat} (within : (nested depth).Within nesting) :
    depth ≤ nesting := by
  induction depth generalizing nesting with
  | zero => exact Nat.zero_le _
  | succ depth ih =>
    cases nesting with
    | zero => exact within.elim
    | succ nesting => exact Nat.succ_le_succ (ih (within _ (by simp)))

theorem length_written (style : Json.Style) (fields : Object) : (written style fields).length =
    (((Value.object fields).write style).flatMap String.utf8EncodeChar).length := by
  rw [written, Utf8.encode, String.toList_ofList]

def deepAlert : Object := [("_event_type", .number (.ofInt 101)), ("data", nested 127)]

end SystemScale.Contract
