import SystemScale.Contract.Messages
import SystemScale.Relay.EventFrames
import SystemScale.Sdk.Events

set_option autoImplicit false

/-!
# What becomes of an alert

An event call of an SDK goes through the agent to the gateway, which makes the operator's text of
the object that it finds.
-/

namespace SystemScale.Contract

open AdapterTrait Agent Cloud Relay Sdk Wire
open Json (Value lookup)

/-! ## The texts for the operator -/

theorem text_injective {first second : Value} (firstWithin : first.Within 127)
    (secondWithin : second.Within 127)
    (same : String.ofList (first.write serdeStyle) = String.ofList (second.write serdeStyle)) :
    first = second := by
  have texts := String.ofList_injective same
  have read := serdeReader.read_write serdeStyle first firstWithin
  rw [texts, serdeReader.read_write serdeStyle second secondWithin] at read
  exact (Option.some.inj read).symm

theorem strings_within {fields : List (String × Value)}
    (strings : ∀ field ∈ fields, ∃ text, field.2 = .string text) :
    (Value.object fields).Within 127 := by
  intro field member
  obtain ⟨text, is⟩ := strings field member
  rw [is]
  trivial

theorem alertText_inj {device level message level' message' : String} :
    alertText device level message = alertText device level' message' ↔
      level = level' ∧ message = message' := by
  constructor
  · intro same
    have values := text_injective (strings_within (by simp)) (strings_within (by simp)) same
    simp_all
  · rintro ⟨rfl, rfl⟩
    rfl

theorem assistanceText_inj {device requestId reason requestId' reason' : String} :
    assistanceText device requestId reason = assistanceText device requestId' reason' ↔
      requestId = requestId' ∧ reason = reason' := by
  constructor
  · intro same
    have values := text_injective (strings_within (by simp)) (strings_within (by simp)) same
    simp_all
  · rintro ⟨rfl, rfl⟩
    rfl

theorem alertText_ne (device level message requestId reason : String) :
    alertText device level message ≠ assistanceText device requestId reason := by
  intro same
  have values := text_injective (strings_within (by simp)) (strings_within (by simp)) same
  simp at values

/-! ## An object at the gateway -/

section Gateway

variable (fields : Object)

def objectBytes : List UInt8 :=
  Utf8.encode (String.ofList ((Value.object fields).write serdeStyle))

theorem objectBytes_brace : ∃ rest, objectBytes fields = 0x7B :: rest := by
  have brace : String.utf8EncodeChar '{' = [0x7B] := by decide
  have text : (Value.object fields).write serdeStyle =
      '{' :: (serdeStyle.separate (Json.writeFields serdeStyle fields) ++ ['}']) := by
    rw [Value.write]
    rfl
  rw [objectBytes, text, Utf8.encode, String.toList_ofList, List.flatMap_cons, brace]
  exact ⟨_, rfl⟩

-- A brace is a tag of field 15 with a wire type that ends the decoding.
theorem decodeEventFrame_object : decodeEventFrame (objectBytes fields) = .ok ⟨0, "", []⟩ := by
  obtain ⟨rest, starts⟩ := objectBytes_brace fields
  rw [starts, decodeEventFrame]
  rfl

theorem serdeFromSlice_written (style : Json.Style) (value : Value) (within : value.Within 127) :
    serdeFromSlice (Utf8.encode (String.ofList (value.write style))) = some value := by
  rw [serdeFromSlice, Utf8.strict_encode]
  show serdeReader.read (String.ofList (value.write style)).toList = some value
  rw [String.toList_ofList]
  exact serdeReader.read_write style value within

theorem jsonEvent_object {fields : Object} (within : (Value.object fields).Within 127) :
    jsonEvent (objectBytes fields) =
      (lookup "_event_type" fields).map fun kind => ((asI64 kind).getD 0, .object fields) := by
  rw [jsonEvent, objectBytes, serdeFromSlice_written serdeStyle _ within]
  show (lookup "_event_type" fields).bind _ = _
  cases lookup "_event_type" fields <;> rfl

end Gateway

/-! ## When the operator reads what was meant -/

/-- The last entry of that name holds the text. Where it is no string, something else stands for
it. -/
def Keeps (fields : Object) (key text : String) (otherwise : Prop) : Prop :=
  match lookup key fields with
  | some (.string found) => found = text
  | _ => otherwise

structure KeepsAlert (fields : Object) (level message : String) : Prop where
  kind : (lookup "_event_type" fields).bind asI64 = some 101
  level : Keeps fields "level" level ("info" = level)
  message : Keeps fields "message" message (Keeps fields "description" message ("" = message))

structure KeepsAssistance (fields : Object) (requestId reason : String) : Prop where
  kind : (lookup "_event_type" fields).bind asI64 = some 102
  requestId : Keeps fields "_request_id" requestId ("" = requestId)
  reason : Keeps fields "reason" reason ("" = reason)

theorem strKey_keeps (fields : Object) (key text : String) (default : Option String)
    (last : String) : ((strKey key (.object fields)).or default).getD last = text ↔
      Keeps fields key text (default.getD last = text) := by
  have found : strKey key (.object fields) = (lookup key fields).bind asStr := rfl
  rw [found, Keeps]
  cases lookup key fields with
  | none => rfl
  | some value => cases value <;> rfl

theorem Keeps.congr {first second : Object} {key text : String} {otherwise alternative : Prop}
    (same : lookup key first = lookup key second) (others : otherwise ↔ alternative) :
    Keeps first key text otherwise ↔ Keeps second key text alternative := by
  unfold Keeps
  rw [same]
  split
  · exact Iff.rfl
  · exact others

theorem keepsAlert_iff {fields : Object} {level message : String} : KeepsAlert fields level message ↔
    (lookup "_event_type" fields).bind asI64 = some 101 ∧ Keeps fields "level" level ("info" = level) ∧
      Keeps fields "message" message (Keeps fields "description" message ("" = message)) :=
  ⟨fun keeps => ⟨keeps.kind, keeps.level, keeps.message⟩, fun ⟨kind, level, message⟩ =>
    ⟨kind, level, message⟩⟩

theorem keepsAssistance_iff {fields : Object} {requestId reason : String} :
    KeepsAssistance fields requestId reason ↔ (lookup "_event_type" fields).bind asI64 = some 102 ∧
      Keeps fields "_request_id" requestId ("" = requestId) ∧
      Keeps fields "reason" reason ("" = reason) :=
  ⟨fun keeps => ⟨keeps.kind, keeps.requestId, keeps.reason⟩, fun ⟨kind, requestId, reason⟩ =>
    ⟨kind, requestId, reason⟩⟩

/-- Only names without slashes are looked at. -/
def SameNames (first second : Object) : Prop :=
  ∀ key : String, '/' ∉ key.toList → lookup key first = lookup key second

theorem SameNames.alert {first second : Object} (same : SameNames first second)
    {level message : String} : KeepsAlert first level message ↔ KeepsAlert second level message := by
  rw [keepsAlert_iff, keepsAlert_iff, same "_event_type" (by decide),
    Keeps.congr (same "level" (by decide)) Iff.rfl, Keeps.congr (same "message" (by decide))
      (Keeps.congr (same "description" (by decide)) Iff.rfl)]

theorem SameNames.assistance {first second : Object} (same : SameNames first second)
    {requestId reason : String} :
    KeepsAssistance first requestId reason ↔ KeepsAssistance second requestId reason := by
  rw [keepsAssistance_iff, keepsAssistance_iff, same "_event_type" (by decide),
    Keeps.congr (same "_request_id" (by decide)) Iff.rfl,
    Keeps.congr (same "reason" (by decide)) Iff.rfl]

section Routed

variable {fields : Object} {level message requestId reason : String} (device : String)

def routedObject (device : String) (fields : Object) : Option String :=
  match (lookup "_event_type" fields).bind asI64 with
  | some kind =>
    if kind = 101 then
      some (alertText device ((strKey "level" (.object fields)).getD "info")
        (((strKey "message" (.object fields)).or (strKey "description" (.object fields))).getD ""))
    else if kind = 102 then
      some (assistanceText device ((strKey "_request_id" (.object fields)).getD "")
        ((strKey "reason" (.object fields)).getD ""))
    else none
  | none => none

theorem routeFrame_object (within : (Value.object fields).Within 127) :
    routeFrame device (objectBytes fields) ⟨0, "", []⟩ = .ok (routedObject device fields) := by
  rw [routeFrame, routedObject]
  simp only [if_true, jsonEvent_object within]
  cases lookup "_event_type" fields with
  | none => rfl
  | some kind =>
    cases number : asI64 kind with
    | none =>
      simp [number, eventTypeAlert, eventTypeAssistanceReq]
    | some value =>
      simp only [Option.map_some, Option.getD_some, number, Option.bind_some, eventTypeAlert,
        eventTypeAssistanceReq]
      split_ifs <;> rfl

theorem routeEventFrame_object {env : DataEnvelope} (payload : env.payload = objectBytes fields)
    (within : (Value.object fields).Within 127) :
    routeEventFrame (encodeEnvelopeToBuf env) device = .ok (routedObject device fields) := by
  rw [routeEventFrame, decodeEnvelopeRouting_encodeEnvelope, payload]
  simp only [Outcome.bind, decodeEventFrame_object, routeFrame_object device within]

theorem routed_alert_iff : routedObject device fields = some (alertText device level message) ↔
    KeepsAlert fields level message := by
  have level_kept := strKey_keeps fields "level" level none "info"
  have message_kept :=
    strKey_keeps fields "message" message (strKey "description" (.object fields)) ""
  have description_kept := strKey_keeps fields "description" message none ""
  rw [Option.or_none] at level_kept description_kept
  rw [description_kept] at message_kept
  rw [routedObject]
  constructor
  · intro routed
    split at routed
    · next kind is =>
      split_ifs at routed with alert assistance
      · obtain ⟨levels, messages⟩ := alertText_inj.mp (Option.some.inj routed)
        exact ⟨alert ▸ is, level_kept.mp levels, message_kept.mp messages⟩
      · exact absurd (Option.some.inj routed).symm (alertText_ne _ _ _ _ _)
    · cases routed
  · intro keeps
    rw [keeps.kind]
    simp only [if_true]
    rw [level_kept.mpr keeps.level, message_kept.mpr keeps.message]

theorem routed_assistance_iff :
    routedObject device fields = some (assistanceText device requestId reason) ↔
      KeepsAssistance fields requestId reason := by
  have id_kept := strKey_keeps fields "_request_id" requestId none ""
  have reason_kept := strKey_keeps fields "reason" reason none ""
  rw [Option.or_none] at id_kept reason_kept
  rw [routedObject]
  constructor
  · intro routed
    split at routed
    · next kind is =>
      split_ifs at routed with alert assistance
      · exact absurd (Option.some.inj routed) (alertText_ne _ _ _ _ _)
      · obtain ⟨ids, reasons⟩ := assistanceText_inj.mp (Option.some.inj routed)
        exact ⟨assistance ▸ is, id_kept.mp ids, reason_kept.mp reasons⟩
    · cases routed
  · intro keeps
    have other : ¬ (102 : Int) = 101 := by decide
    rw [keeps.kind]
    simp only [if_neg other, if_true]
    rw [id_kept.mpr keeps.requestId, reason_kept.mpr keeps.reason]

end Routed

/-! ## From the call to the gateway -/

/-- What the gateway is given of a request that the agent has taken, if all of it gets there. -/
def Reaches (body : List Char) (frame : List UInt8) : Prop :=
  ∃ readF64 readF32 value req state now envelope seq,
    serdeFromSlice (Utf8.encode (String.ofList body)) = some value ∧
    readLogRequest readF64 readF32 value = some req ∧
    handleLog state req now = .ok (200, some envelope) ∧
    frame = encodeEnvelopeToBuf (sequenced envelope seq)

/-- A body with this object as its data. -/
structure Posts (body : List Char) (fields : Object) : Prop where
  written : ∃ style others, body = Value.write style (.object others) ∧
    keyOnce "data" others = some (some (.object fields)) ∧ keyOnce "tags" others = some none

theorem mem_keyOnce {key : String} {fields : Object} {value : Value}
    (once : keyOnce key fields = some (some value)) : (key, value) ∈ fields := by
  unfold keyOnce at once
  split at once
  · cases once
  · next field only =>
    obtain rfl := Option.some.inj (Option.some.inj once)
    have member : field ∈ fields.filter fun field => field.1 = key := by simp [only]
    obtain ⟨inside, named⟩ := List.mem_filter.mp member
    obtain rfl : field.1 = key := of_decide_eq_true named
    exact inside
  · cases once

theorem handleLog_payload {state : LocalApiState} {req : LogRequest} {now : UInt64}
    {envelope : DataEnvelope} (accepted : handleLog state req now = .ok (200, some envelope)) :
    envelope.payload = Utf8.encode (String.ofList ((logData req).write serdeStyle)) := by
  simp only [handleLog] at accepted
  split_ifs at accepted with held room
  · obtain rfl := Option.some.inj (Prod.mk.inj (Outcome.ok.inj accepted)).2
    rfl
  · simp at accepted

theorem reaches_object {body : List Char} {fields : Object} {frame : List UInt8}
    (posts : Posts body fields) (reaches : Reaches body frame) (device : String) :
    routeEventFrame frame device = .ok (routedObject device fields) := by
  obtain ⟨style, others, rfl, data, tags⟩ := posts.written
  obtain ⟨readF64, readF32, value, req, state, now, envelope, seq, parsed, read, accepted, rfl⟩ := reaches
  have parsed : serdeReader.read (Value.write style (.object others)) = some value := by
    rw [serdeFromSlice, Utf8.strict_encode] at parsed
    have read : serdeReader.read (String.ofList (Value.write style (.object others))).toList =
      some value := parsed
    rwa [String.toList_ofList] at read
  obtain ⟨rfl, within⟩ := serdeReader.read_written style parsed
  obtain ⟨found, made, once, tagged⟩ := readLogRequest_data readF64 readF32 read
  obtain rfl : others = found := Option.some.inj made
  rw [data] at once
  have untagged : req.tags = none := by
    rw [keyOr, tags] at tagged
    exact (Option.some.inj tagged).symm
  have logged : logData req = .object fields := by
    rw [logData, untagged]
    exact (Option.some.inj (Option.some.inj once)).symm
  have payload : (sequenced envelope seq).payload = objectBytes fields := by
    show envelope.payload = _
    rw [handleLog_payload accepted, logged, objectBytes]
  have whole : (Value.object others).Within (126 + 1) := within
  have inner : (Value.object fields).Within 126 := whole _ (mem_keyOnce data)
  exact routeEventFrame_object device payload (Value.within_succ inner)

/-! ## The calls of the SDKs -/

inductive EventCall where
  | alert (projectID message level : GoString) (data visited : Entries)
      (order : visited.Perm (update (alertEntries (goString level) (goString message)) data))
  | sendEvent (project message level : GoString) (data : Entries) (target : GoString)
  | pythonSendEvent (project message level : String) (data : Option Entries)
      (target : Option String)
  | requestAssistance (projectID requestID reason : GoString) (data visited : Entries)
      (order : visited.Perm (update (assistanceEntries (goString requestID) (goString reason)) data))
  | pythonRequestAssistance (project requestId reason : String) (data : Option Entries)

namespace EventCall

/-- What is posted to the agent. -/
def body : EventCall → List Char
  | .alert projectID _ _ _ visited _ => logFrame projectID (flattenKeys mapInsert visited "")
  | .sendEvent project message level data target => Sdk.sendEvent project message level data target
  | .pythonSendEvent project message level data target =>
    Sdk.pythonSendEvent project message level data target
  | .requestAssistance projectID _ _ _ visited _ =>
    logFrame projectID (flattenKeys mapInsert visited "")
  | .pythonRequestAssistance project requestId reason data =>
    Sdk.pythonRequestAssistance project requestId reason data

/-- The call's entries, in the order they are put into the object that is posted, without those that
get a longer name. -/
def entries : EventCall → Object
  | .alert _ _ _ _ visited _ => named visited
  | .sendEvent _ message level data _ =>
    (update (alertEntries (goString level) (goString message)) data).map fun entry =>
      (entry.1, entry.2.toJson mapInsert)
  | .pythonSendEvent _ message level data _ =>
    (update (alertEntries level message) (data.getD [])).map fun entry =>
      (entry.1, entry.2.toJson assign)
  | .requestAssistance _ _ _ _ visited _ => named visited
  | .pythonRequestAssistance _ requestId reason data =>
    named (update (assistanceEntries requestId reason) (data.getD []))

/-- The level and the message of an alert, the id and the reason of a request. -/
def texts : EventCall → GoString × GoString
  | .alert _ message level _ _ _ => (level, message)
  | .sendEvent _ message level _ _ => (level, message)
  | .pythonSendEvent _ message level _ _ => (Utf8.encode level, Utf8.encode message)
  | .requestAssistance _ requestID reason _ _ _ => (requestID, reason)
  | .pythonRequestAssistance _ requestId reason _ => (Utf8.encode requestId, Utf8.encode reason)

def isAlert : EventCall → Bool
  | .requestAssistance .. => false
  | .pythonRequestAssistance .. => false
  | _ => true

/-- The text for the operator says what the call does, to the byte. -/
def Answered (call : EventCall) (device : String) (answer : Outcome (Option String)) : Prop :=
  ∃ first second, Utf8.encode first = call.texts.1 ∧ Utf8.encode second = call.texts.2 ∧
    answer = .ok (some (if call.isAlert then alertText device first second
      else assistanceText device first second))

/-- The texts are UTF-8, and the caller's data overrides nothing that counts. -/
def Intact (call : EventCall) : Prop :=
  ∃ first second, Utf8.encode first = call.texts.1 ∧ Utf8.encode second = call.texts.2 ∧
    if call.isAlert then KeepsAlert call.entries first second
    else KeepsAssistance call.entries first second

/-- The object that is posted as the data. -/
def object : EventCall → Object
  | .alert _ _ _ _ visited _ => flattenKeys mapInsert visited ""
  | .sendEvent _ message level data _ =>
    objectFrom mapInsert [] (update (alertEntries (goString level) (goString message)) data)
  | .pythonSendEvent _ message level data _ =>
    objectFrom assign [] (update (alertEntries level message) (data.getD []))
  | .requestAssistance _ _ _ _ visited _ => flattenKeys mapInsert visited ""
  | .pythonRequestAssistance _ requestId reason data =>
    flattenKeys assign (update (assistanceEntries requestId reason) (data.getD [])) ""

theorem object_names (call : EventCall) : SameNames call.object call.entries := by
  intro key plain
  cases call with
  | alert _ _ _ _ visited _ => exact lookup_flattenKeys mapInsert_inserts plain visited
  | sendEvent _ message level data _ =>
    exact (lookup_objectFrom mapInsert_inserts _ []).trans Option.or_none
  | pythonSendEvent _ message level data _ =>
    exact (lookup_objectFrom assign_inserts _ []).trans Option.or_none
  | requestAssistance _ _ _ _ visited _ => exact lookup_flattenKeys mapInsert_inserts plain visited
  | pythonRequestAssistance _ requestId reason data =>
    exact lookup_flattenKeys assign_inserts plain _

theorem logFrame_posts (projectID : GoString) (data : Object) :
    Posts (logFrame projectID data) data := by
  refine ⟨_, _, rfl, ?_, ?_⟩ <;> by_cases given : projectID = [] <;> simp [given, keyOnce]

theorem body_posts (call : EventCall) : Posts call.body call.object := by
  cases call with
  | alert projectID _ _ _ visited _ => exact logFrame_posts projectID _
  | sendEvent _ message level data target =>
    rw [object]
    refine ⟨_, _, rfl, ?_, ?_⟩ <;> by_cases given : target = [] <;> simp [given, keyOnce]
  | pythonSendEvent _ message level data target =>
    rw [object]
    refine ⟨_, _, rfl, ?_, ?_⟩ <;> by_cases given : target.getD "" = "" <;> simp [given, keyOnce]
  | requestAssistance projectID _ _ _ visited _ => exact logFrame_posts projectID _
  | pythonRequestAssistance _ requestId reason data =>
    rw [object]
    refine ⟨_, _, rfl, ?_, ?_⟩ <;> simp [keyOnce]

end EventCall

/-- The gateway makes of a call's frame what the call says exactly if its texts are UTF-8 and the
caller's data leaves them, and the event type, as they are. -/
theorem answered_iff_intact (call : EventCall) {frame : List UInt8} (reaches : Reaches call.body frame)
    (device : String) :
    call.Answered device (routeEventFrame frame device) ↔ call.Intact := by
  rw [reaches_object call.body_posts reaches device, EventCall.Answered, EventCall.Intact]
  refine exists₂_congr fun first second => and_congr_right fun _ => and_congr_right fun _ => ?_
  rw [Outcome.ok.injEq]
  cases call.isAlert with
  | true => exact (routed_alert_iff device).trans call.object_names.alert
  | false => exact (routed_assistance_iff device).trans call.object_names.assistance

/-! ## Data that touches nothing -/

namespace EventCall

def data : EventCall → Entries
  | .alert _ _ _ data _ _ => data
  | .sendEvent _ _ _ data _ => data
  | .pythonSendEvent _ _ _ data _ => data.getD []
  | .requestAssistance _ _ _ data _ _ => data
  | .pythonRequestAssistance _ _ _ data => data.getD []

/-- The names of the SDK's own entries. -/
def names (call : EventCall) : List String :=
  if call.isAlert then ["_event_type", "level", "message"]
  else ["_event_type", "_request_id", "reason"]

end EventCall

theorem alert_own {level message key : String} {value : Value}
    (there : (key, Item.other value) ∈ alertEntries level message) :
    Own (alertEntries level message) key value where
  plain := by simp [alertEntries]
  there := there
  only item member := by
    simp only [alertEntries, List.mem_cons, List.not_mem_nil, or_false, Prod.mk.injEq] at there member
    rcases there with ⟨rfl, is⟩ | ⟨rfl, is⟩ | ⟨rfl, is⟩ <;> simp_all

theorem assistance_own {requestId reason key : String} {value : Value}
    (there : (key, Item.other value) ∈ assistanceEntries requestId reason) :
    Own (assistanceEntries requestId reason) key value where
  plain := by simp [assistanceEntries]
  there := there
  only item member := by
    simp only [assistanceEntries, List.mem_cons, List.not_mem_nil, or_false, Prod.mk.injEq]
      at there member
    rcases there with ⟨rfl, is⟩ | ⟨rfl, is⟩ | ⟨rfl, is⟩ <;> simp_all

theorem alert_names {level message key : String} {value : Value}
    (there : (key, Item.other value) ∈ alertEntries level message) :
    key ∈ ["_event_type", "level", "message"] := by
  have member := List.mem_map_of_mem there (f := Prod.fst)
  simpa [alertEntries] using member

theorem assistance_names {requestId reason key : String} {value : Value}
    (there : (key, Item.other value) ∈ assistanceEntries requestId reason) :
    key ∈ ["_event_type", "_request_id", "reason"] := by
  have member := List.mem_map_of_mem there (f := Prod.fst)
  simpa [assistanceEntries] using member

theorem keepsAlert_own {fields : Object} {level message : String}
    (own : ∀ key value, (key, Item.other value) ∈ alertEntries level message →
      lookup key fields = some value) : KeepsAlert fields level message where
  kind := by
    rw [own "_event_type" (.number (.ofInt 101)) (by simp [alertEntries])]
    decide
  level := by
    rw [Keeps, own "level" (.string level) (by simp [alertEntries])]
  message := by
    rw [Keeps, own "message" (.string message) (by simp [alertEntries])]

theorem keepsAssistance_own {fields : Object} {requestId reason : String}
    (own : ∀ key value, (key, Item.other value) ∈ assistanceEntries requestId reason →
      lookup key fields = some value) : KeepsAssistance fields requestId reason where
  kind := by
    rw [own "_event_type" (.number (.ofInt 102)) (by simp [assistanceEntries])]
    decide
  requestId := by
    rw [Keeps, own "_request_id" (.string requestId) (by simp [assistanceEntries])]
  reason := by
    rw [Keeps, own "reason" (.string reason) (by simp [assistanceEntries])]

-- Calls with texts in UTF-8 whose data has none of the SDK's own names are intact.
theorem untouched_intact (call : EventCall) {first second : String}
    (first_is : Utf8.encode first = call.texts.1) (second_is : Utf8.encode second = call.texts.2)
    (untouched : ∀ key ∈ call.names, Untouched call.data key) : call.Intact := by
  refine ⟨first, second, first_is, second_is, ?_⟩
  cases call with
  | alert _ message level data visited order =>
    obtain rfl : Utf8.encode first = level := first_is
    obtain rfl : Utf8.encode second = message := second_is
    rw [goString_encode, goString_encode] at order
    refine keepsAlert_own fun key value there => ?_
    exact (alert_own there).named (untouched key (alert_names there)) order
  | sendEvent _ message level data target =>
    obtain rfl : Utf8.encode first = level := first_is
    obtain rfl : Utf8.encode second = message := second_is
    refine keepsAlert_own fun key value there => ?_
    rw [EventCall.entries, goString_encode, goString_encode]
    exact (alert_own there).toJson (untouched key (alert_names there)) mapInsert
  | pythonSendEvent _ message level data target =>
    obtain rfl : first = level := Utf8.encode_injective first_is
    obtain rfl : second = message := Utf8.encode_injective second_is
    refine keepsAlert_own fun key value there => ?_
    exact (alert_own there).toJson (untouched key (alert_names there)) assign
  | requestAssistance _ requestID reason data visited order =>
    obtain rfl : Utf8.encode first = requestID := first_is
    obtain rfl : Utf8.encode second = reason := second_is
    rw [goString_encode, goString_encode] at order
    refine keepsAssistance_own fun key value there => ?_
    exact (assistance_own there).named (untouched key (assistance_names there)) order
  | pythonRequestAssistance _ requestId reason data =>
    obtain rfl : first = requestId := Utf8.encode_injective first_is
    obtain rfl : second = reason := Utf8.encode_injective second_is
    refine keepsAssistance_own fun key value there => ?_
    exact (assistance_own there).named (untouched key (assistance_names there)) (.refl _)

/-! ## Calls at work -/

theorem posted_reaches (style : Json.Style) {fields : Object}
    (within : (Value.object fields).Within 127) {req : LogRequest} {envelope : DataEnvelope}
    (read : readLogRequest (fun _ => some 0) (fun _ => some 0) (.object fields) = some req)
    (accepted : handleLog ⟨"v", true⟩ req 1 = .ok (200, some envelope)) :
    Reaches (Value.write style (.object fields)) (encodeEnvelopeToBuf (sequenced envelope 0)) :=
  ⟨_, _, _, req, _, _, envelope, 0, serdeFromSlice_written style _ within, read, accepted, rfl⟩

theorem event_body_within (data : Object) (within : (Value.object data).Within (125 + 1)) :
    (Value.object [("data", .object data), ("stream", .string "event"), ("project_id", .string ""),
      ("lat", floatZero), ("lon", floatZero), ("alt", floatZero)]).Within (126 + 1) := by
  simp only [Value.Within, List.forall_mem_cons]
  exact ⟨within, trivial, trivial, trivial, trivial, trivial, by simp⟩

def lowBattery : EventCall :=
  .pythonSendEvent "" "low battery" "warning" (some [("zone", .other (.string "north"))]) none

theorem low_battery_answered : ∃ frame, Reaches lowBattery.body frame ∧
    lowBattery.Answered "v" (routeEventFrame frame "v") := by
  have reaches := posted_reaches pythonStyle (event_body_within lowBattery.object (by
    simp [Value.Within, lowBattery, EventCall.object, update, assign, alertEntries, objectFrom,
      Item.toJson])) rfl rfl
  have intact : lowBattery.Intact := untouched_intact lowBattery rfl rfl (by decide)
  exact ⟨_, reaches, (answered_iff_intact lowBattery reaches "v").mpr intact⟩

/-- The level of a battery overrides the level of the alert, and is no string. -/
def batteryLevel : EventCall :=
  .pythonSendEvent "" "low battery" "warning" (some [("level", .other (.number (.ofInt 12)))]) none

theorem battery_level_shown : ¬ ∀ (call : EventCall) (frame : List UInt8),
    Reaches call.body frame → ∀ device, call.Answered device (routeEventFrame frame device) := by
  intro answered
  have reaches := posted_reaches pythonStyle (event_body_within batteryLevel.object (by
    simp [Value.Within, batteryLevel, EventCall.object, update, assign, alertEntries, objectFrom,
      Item.toJson])) rfl rfl
  obtain ⟨level, message, level_is, _, answer⟩ := answered batteryLevel _ reaches "v"
  rw [reaches_object batteryLevel.body_posts reaches] at answer
  have shown : routedObject "v" batteryLevel.object = some (alertText "v" "info" "low battery") := rfl
  rw [shown] at answer
  have same := (alertText_inj.mp (Option.some.inj (Outcome.ok.inj answer))).1
  have given : level = "warning" := Utf8.encode_injective level_is
  rw [given] at same
  exact absurd same (by decide)

end SystemScale.Contract
