import SystemScale.Sdk.Events

set_option autoImplicit false

/-!
# The Go SDK's commands

The bodies that `OperatorClient.SendCommand` and `MessageSender.sendCommand` post to command-api.
Durations are in nanoseconds.
-/

namespace SystemScale.Sdk.Go

open Agent (mapInsert)
open Cloud (GoString goStyle)
open Json (Value)

/-- A data map of the caller. No JSON can be written for a channel, a function or a NaN in it. -/
inductive DataMap where
  | nil
  | entries (entries : Entries)
  | unmarshalable

def DataMap.marshal : DataMap → Option Value
  | .nil => some .null
  | .entries given => some (.object (objectFrom mapInsert [] given))
  | .unmarshalable => none

/-- A body whose error is dropped, so that it is empty where the writer fails. -/
def marshalBody (fields : Value → Object) (data : DataMap) : List Char :=
  match data.marshal with
  | some data => Value.write goStyle (.object (fields data))
  | none => []

def second : Int := 1000000000

def millisecond : Int := 1000000

section Bodies

-- The float64 seconds of a duration, cut to an integer.
variable (seconds : Int → Int)

structure CommandRequest where
  service : GoString
  type : GoString
  data : DataMap
  priority : GoString
  timeout : Int

def CommandRequest.timeoutOrDefault (req : CommandRequest) : Int :=
  if req.timeout ≤ 0 then 30 * second else req.timeout

def OperatorClient.sendCommandBody (req : CommandRequest) : List Char :=
  let priority := if req.priority = [] then Utf8.encode "normal" else req.priority
  marshalBody (fun data =>
    [("command_type", .string (goString req.type)), ("data", data),
      ("priority", .string (goString priority)),
      ("timeout_s", .number (.ofInt (seconds req.timeoutOrDefault))),
      ("vehicle_id", .string (goString req.service))]) req.data

end Bodies

structure SendOpt where
  -- `to` in the source.
  toActor : GoString
  data : DataMap
  priority : GoString
  timeout : Int

/-- `resolveVehicleID` looks a device's name up in fleet-api, and gives the empty id where it fails. -/
def MessageSender.vehicleID (resolveVehicleID : GoString → GoString) (o : SendOpt) : GoString :=
  if (Utf8.encode "device:").isPrefixOf o.toActor then resolveVehicleID (o.toActor.drop 7) else []

def MessageSender.sendCommandBody (resolveVehicleID : GoString → GoString) (cmdType : GoString)
    (o : SendOpt) : List Char :=
  marshalBody (fun data =>
    [("command_type", .string (goString cmdType)), ("data", data),
      ("priority", .string (goString o.priority)),
      ("ttl_ms", .number (.ofInt (o.timeout.tdiv millisecond))),
      ("vehicle_id", .string (goString (MessageSender.vehicleID resolveVehicleID o)))]) o.data

end SystemScale.Sdk.Go
