import SystemScale.Agent.CommandCodec
import SystemScale.Cloud.Commands
import SystemScale.Sdk.GoOperator

set_option autoImplicit false

/-!
# Commands of Go operators

The Go SDK posts the priority as a text, and command-api reads a number.
-/

namespace SystemScale.Contract

open Agent Cloud
open Json (Value)
open Sdk Sdk.Go
open Wire (Outcome)

def requestedPriority (priority : GoString) : Option AdapterTrait.Priority :=
  if priority = [] ∨ priority = Utf8.encode "normal" then some .normal
  else if priority = Utf8.encode "high" then some .high
  else if priority = Utf8.encode "emergency" then some .emergency
  else none

/-- The request was accepted, and the agent is asked for what the operator asked for. -/
def Commanded (response : SendResponse) (vehicle : GoString) (timeout : Int) (priority : GoString) :
    Prop :=
  ∃ subject encoded id cmd, response = .published subject encoded id ∧
    decodeCommandEnvelope encoded = .ok cmd ∧ Utf8.encode cmd.vehicleId = vehicle ∧
    (cmd.ttlMs.toNat : Int) = timeout.tdiv millisecond ∧
    requestedPriority priority = some cmd.priority

-- command-api decodes no body whose priority is a text.
theorem decode_object_textual {fields : Object} (found : Value)
    (written : goReader.first (Value.write goStyle (.object fields)) = some found)
    (textual : fields.foldlM (fun req field => SendRequest.set req field.1 field.2) .empty = none) :
    SendRequest.decode (Value.write goStyle (.object fields)) = none := by
  obtain ⟨rfl, _⟩ := goReader.first_written goStyle written
  rw [SendRequest.decode, written]
  exact textual

theorem decode_marshalBody (data : DataMap) (fields : Value → Object)
    (textual : ∀ data, (fields data).foldlM
      (fun req field => SendRequest.set req field.1 field.2) .empty = none) :
    SendRequest.decode (marshalBody fields data) = none := by
  unfold marshalBody
  cases data.marshal with
  | none => rfl
  | some value =>
    cases read : goReader.first (Value.write goStyle (.object (fields value))) with
    | none => simp only [SendRequest.decode, read]
    | some found => exact decode_object_textual found read (textual value)

theorem decode_operatorBody (seconds : Int → Int) (req : CommandRequest) :
    SendRequest.decode (OperatorClient.sendCommandBody seconds req) = none := by
  apply decode_marshalBody
  intro data
  simp [SendRequest.set, foldEqual, foldRune, decodeGoString, decodeInt32]

theorem decode_senderBody (resolveVehicleID : GoString → GoString) (cmdType : GoString)
    (o : SendOpt) : SendRequest.decode (MessageSender.sendCommandBody resolveVehicleID cmdType o) = none := by
  apply decode_marshalBody
  intro data
  simp [SendRequest.set, foldEqual, foldRune, decodeGoString, decodeInt32]

theorem undecoded_refused {body : List Char} (undecoded : SendRequest.decode body = none)
    (claims : Claims) (id : String) (now : UInt64) :
    ∃ status message, handleSendCommand (some claims) body id now = .refused status message := by
  simp only [handleSendCommand, undecoded]
  split_ifs
  · exact ⟨_, _, rfl⟩
  · exact ⟨_, _, rfl⟩

/-- No request of a Go operator is accepted, whoever sends it and whatever it asks for. -/
theorem go_operators_command_nothing (seconds : Int → Int) (resolveVehicleID : GoString → GoString)
    (claims : Claims) (req : CommandRequest) (cmdType : GoString) (o : SendOpt) (id : String)
    (now : UInt64) :
    ¬Commanded (handleSendCommand (some claims) (OperatorClient.sendCommandBody seconds req) id now)
      req.service req.timeoutOrDefault req.priority ∧
    ¬Commanded (handleSendCommand (some claims)
        (MessageSender.sendCommandBody resolveVehicleID cmdType o) id now)
      (MessageSender.vehicleID resolveVehicleID o) o.timeout o.priority := by
  obtain ⟨_, _, operator⟩ := undecoded_refused (decode_operatorBody seconds req) claims id now
  obtain ⟨_, _, sender⟩ :=
    undecoded_refused (decode_senderBody resolveVehicleID cmdType o) claims id now
  constructor
  · rintro ⟨subject, encoded, commandID, cmd, published, -⟩
    rw [operator] at published
    cases published
  · rintro ⟨subject, encoded, commandID, cmd, published, -⟩
    rw [sender] at published
    cases published

def goHigh : CommandRequest :=
  ⟨Utf8.encode "drone-001", Utf8.encode "goto", .nil, Utf8.encode "high", 30 * second⟩

theorem goHigh_refused :
    handleSendCommand (some ⟨"", "", "operator", []⟩)
        (OperatorClient.sendCommandBody (fun timeout => timeout / second) goHigh) "c1" 0 =
      .refused 400 "Bad Request: vehicle_id required" := by
  have undecoded := decode_operatorBody (fun timeout => timeout / second) goHigh
  simp only [handleSendCommand, undecoded]
  rfl

end SystemScale.Contract
