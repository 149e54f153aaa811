import SystemScale.Agent.AdapterTrait
import SystemScale.Lib.JsonLaws
import SystemScale.Lib.Wire

set_option autoImplicit false

/-!
# The agent's local API

`handle_commands_sse` turns a broadcast command into one event of the stream. `handle_log` turns a
request of the SDK into an envelope, and `handle_ack` into an acknowledgment.
-/

namespace SystemScale.Agent

open AdapterTrait
open Wire (Outcome)

/-! ## serde_json -/

def serdeStyle : Json.Style where
  raw c := 0x20 ≤ c.toNat
  space := []
  printable _ raw := of_decide_eq_true raw
  gap _ member := by simp at member

def serdeReader : Json.Reader := ⟨none, 127⟩

def serdeFromSlice (bytes : List UInt8) : Option Json.Value := do
  let text ← Utf8.strict bytes
  serdeReader.read text.toList

/-! ## Events -/

def hexEncode (bytes : List UInt8) : String :=
  String.ofList (bytes.flatMap fun byte =>
    [(byte.toNat / 16).digitChar, (byte.toNat % 16).digitChar])

/-- Raw binary is shown as a hex string. -/
def commandData (payload : List UInt8) : Json.Value :=
  (serdeFromSlice payload).getD (.string (hexEncode payload))

def priorityStr : Priority → String
  | .normal => "normal"
  | .high => "high"
  | .emergency => "emergency"

structure CommandEvent where
  id : String
  commandType : String
  data : Json.Value
  priority : String

def CommandEvent.toJson (event : CommandEvent) : Json.Value :=
  .object [("id", .string event.id), ("command_type", .string event.commandType),
    ("data", event.data), ("priority", .string event.priority)]

def commandEvent (cmd : CommandEnvelope) : CommandEvent where
  id := cmd.commandId
  commandType := "command"
  data := commandData cmd.payload
  priority := priorityStr cmd.priority

/-- One line of an event. A value with a line break is refused with a panic. -/
def sseField (name : String) (value : List Char) : Option (List Char) :=
  if '\n' ∈ value ∨ '\r' ∈ value then none
  else some (name.toList ++ ':' :: ' ' :: value ++ ['\n'])

/-- The text of the event for a command, or `none` where the stream panics. -/
def handleCommandsSse (cmd : CommandEnvelope) : Option (List Char) := do
  let json := (commandEvent cmd).toJson.write serdeStyle
  let id ← if '\x00' ∈ cmd.commandId.toList then none else sseField "id" cmd.commandId.toList
  let data ← sseField "data" json
  some (id ++ data ++ ['\n'])

/-! ## Logging -/

structure LocalApiState where
  vehicleId : String
  -- Whether the channel to the sequencer has a free place.
  logRoom : Bool

structure LogRequest where
  data : Json.Value
  stream : String
  lat : UInt64
  lon : UInt64
  alt : UInt32
  projectId : Option String
  streamName : Option String
  tags : Option (List (String × Json.Value))
  -- `to` in the source.
  toActor : Option String
  toType : Option String
  senderType : Option String

section Request

-- How the JSON library reads a number as an `f64` and as an `f32`.
variable (readF64 : Json.Number → Option UInt64) (readF32 : Json.Number → Option UInt32)

def logRequestKeys : List String :=
  ["data", "stream", "lat", "lon", "alt", "project_id", "stream_name", "tags", "to", "to_type",
    "sender_type"]

/-- The fields of the request; an array has their values in order. -/
def requestFields : Json.Value → Option (List (String × Json.Value))
  | .object fields => some fields
  | .array items =>
    if items.length ≤ logRequestKeys.length then some (logRequestKeys.zip items) else none
  | _ => none

/-- The value of a key, if there is one. A key that is there twice is an error. -/
def keyOnce (key : String) (fields : List (String × Json.Value)) : Option (Option Json.Value) :=
  match fields.filter fun field => field.1 = key with
  | [] => some none
  | [field] => some (some field.2)
  | _ => none

def keyOr {α : Type} (read : Json.Value → Option α) (default : α) (key : String)
    (fields : List (String × Json.Value)) : Option α := do
  match ← keyOnce key fields with
  | none => some default
  | some value => read value

def readText : Json.Value → Option String
  | .string text => some text
  | _ => none

def readNullable {α : Type} (read : Json.Value → Option α) : Json.Value → Option (Option α)
  | .null => some none
  | value => (read value).map some

def readMap : Json.Value → Option (List (String × Json.Value))
  | .object fields => some fields
  | _ => none

def readNumber {α : Type} (read : Json.Number → Option α) : Json.Value → Option α
  | .number number => read number
  | _ => none

def readLogRequest (value : Json.Value) : Option LogRequest := do
  let fields ← requestFields value
  let data ← keyOnce "data" fields
  some
    { data := ← data
      stream := ← keyOr readText "telemetry" "stream" fields
      lat := ← keyOr (readNumber readF64) 0 "lat" fields
      lon := ← keyOr (readNumber readF64) 0 "lon" fields
      alt := ← keyOr (readNumber readF32) 0 "alt" fields
      projectId := ← keyOr (readNullable readText) none "project_id" fields
      streamName := ← keyOr (readNullable readText) none "stream_name" fields
      tags := ← keyOr (readNullable readMap) none "tags" fields
      toActor := ← keyOr (readNullable readText) none "to" fields
      toType := ← keyOr (readNullable readText) none "to_type" fields
      senderType := ← keyOr (readNullable readText) none "sender_type" fields }

theorem readLogRequest_data {value : Json.Value} {req : LogRequest}
    (read : readLogRequest readF64 readF32 value = some req) :
    ∃ fields, requestFields value = some fields ∧ keyOnce "data" fields = some (some req.data) ∧
      keyOr (readNullable readMap) none "tags" fields = some req.tags := by
  unfold readLogRequest at read
  obtain ⟨fields, made, read⟩ := Option.bind_eq_some_iff.mp read
  obtain ⟨data, once, read⟩ := Option.bind_eq_some_iff.mp read
  obtain ⟨found, given, read⟩ := Option.bind_eq_some_iff.mp read
  iterate 6 obtain ⟨_, _, read⟩ := Option.bind_eq_some_iff.mp read
  obtain ⟨tags, tagged, read⟩ := Option.bind_eq_some_iff.mp read
  iterate 3 obtain ⟨_, _, read⟩ := Option.bind_eq_some_iff.mp read
  obtain rfl := Option.some.inj read
  exact ⟨fields, made, given ▸ once, tagged⟩

end Request

def logStreamType (stream : String) : StreamType :=
  if stream = "telemetry" then .telemetry
  else if stream = "sensor" then .sensor
  else if stream = "event" then .event
  else if stream = "log" then .log
  else .telemetry

-- A map keeps its keys in order, and one value for each.
def mapInsert (key : String) (value : Json.Value) (fields : List (String × Json.Value)) :
    List (String × Json.Value) :=
  let others := fields.filter fun field => field.1 ≠ key
  others.takeWhile (fun field => field.1 < key) ++
    (key, value) :: others.dropWhile fun field => field.1 < key

def logData (req : LogRequest) : Json.Value :=
  match req.tags with
  | none => req.data
  | some tags =>
    let obj :=
      match req.data with
      | .object fields => fields
      | other => [("_value", other)]
    .object (mapInsert "_tags" (.object tags) obj)

/-- The type and the id of the receiver. -/
def parseTo (toActor toType : Option String) : String × String :=
  match toActor with
  | some actor =>
    match actor.toList.dropWhile (· ≠ ':') with
    | _ :: id =>
      (toType.getD (String.ofList (actor.toList.takeWhile (· ≠ ':'))), String.ofList id)
    | [] => (toType.getD "", actor)
  | none => ("", "")

/-- The status of the answer, and the envelope that was queued. -/
def handleLog (state : LocalApiState) (req : LogRequest) (nowNs : UInt64) :
    Outcome (Nat × Option DataEnvelope) :=
  let payload := Utf8.encode (String.ofList ((logData req).write serdeStyle))
  let (receiverType, receiverId) := parseTo req.toActor req.toType
  -- No buffer outgrows the address space.
  if held : (Utf8.encode state.vehicleId).length + payload.length + 128 < 2 ^ 63 then
    let envelope : DataEnvelope :=
      { vehicleId := state.vehicleId
        timestampNs := nowNs
        streamType := logStreamType req.stream
        payload := payload
        lat := req.lat
        lon := req.lon
        alt := req.alt
        seq := 0
        fleetId := req.projectId.getD ""
        orgId := ""
        streamName := req.streamName.getD ""
        senderId := state.vehicleId
        senderType := req.senderType.getD "device"
        receiverId := receiverId
        receiverType := receiverType
        held := held }
    if state.logRoom then .ok (200, some envelope) else .ok (503, none)
  else .panic

/-- The sequencer numbers an envelope before it is pushed. -/
def sequenced (envelope : DataEnvelope) (seq : UInt32) : DataEnvelope :=
  { envelope with seq := seq }

theorem handleLog_queued {state : LocalApiState} {req : LogRequest} {nowNs : UInt64}
    {envelope : DataEnvelope} (accepted : handleLog state req nowNs = .ok (200, some envelope)) :
    envelope.fleetId = req.projectId.getD "" ∧
    envelope.streamName = req.streamName.getD "" ∧
    envelope.senderId = state.vehicleId ∧
    envelope.senderType = req.senderType.getD "device" ∧
    (envelope.receiverType, envelope.receiverId) = parseTo req.toActor req.toType := by
  simp only [handleLog] at accepted
  split_ifs at accepted with held room
  · obtain rfl := Option.some.inj (Prod.mk.inj (Outcome.ok.inj accepted)).2
    exact ⟨rfl, rfl, rfl, rfl, rfl⟩
  · simp at accepted

/-! ## handle_ack -/

structure AckRequest where
  status : String
  message : String

-- A status that is none of these is taken for a failure, with a warning.
def ackRequestStatus (status : String) : AckStatus :=
  if status = "ok" ∨ status = "completed" then .completed
  else if status = "accepted" then .accepted
  else if status = "rejected" then .rejected
  else .failed

/-- The status code, and what is put on the channel of acknowledgments, if it has room. -/
def handleAck (ackRoom : Bool) (commandId : String) (req : AckRequest) (nowNs : UInt64) :
    Outcome (Nat × Option Ack) :=
  if held : (Utf8.encode commandId).length + (Utf8.encode req.message).length + 128 < 2 ^ 63 then
    let ack : Ack :=
      { commandId := commandId
        status := ackRequestStatus req.status
        message := req.message
        ackTimeNs := nowNs
        held := held }
    if ackRoom then .ok (200, some ack) else .ok (503, none)
  else .panic

theorem handleAck_accepted {ackRoom : Bool} {commandId : String} {req : AckRequest}
    {nowNs : UInt64} {ack : Ack}
    (accepted : handleAck ackRoom commandId req nowNs = .ok (200, some ack)) :
    ack.commandId = commandId ∧ ack.message = req.message ∧ ack.ackTimeNs = nowNs := by
  unfold handleAck at accepted
  split_ifs at accepted with held room
  · obtain rfl := Option.some.inj (Prod.mk.inj (Outcome.ok.inj accepted)).2
    exact ⟨rfl, rfl, rfl⟩
  · simp at accepted

end SystemScale.Agent
