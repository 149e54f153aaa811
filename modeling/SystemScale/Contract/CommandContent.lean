import SystemScale.Agent.CommandCodec
import SystemScale.Agent.LocalApi
import SystemScale.Cloud.Commands
import SystemScale.Sdk.PythonMessage

set_option autoImplicit false

/-!
# What is left of a command

A call of the operator's SDK is followed to the handler on the device: through command-api, the
agent's decoder, the agent's event stream and the device's SDK.
-/

namespace SystemScale.Contract

open Agent Cloud Sdk Wire
open Json (Value)

/-! ## The request -/

theorem within_string (nesting : Nat) (text : String) : (Value.string text).Within nesting := by
  cases nesting <;> trivial

theorem within_number (nesting : Nat) (number : Json.Number) :
    (Value.number number).Within nesting := by
  cases nesting <;> trivial

section Request

variable (resolve : String → String) (t : String) (target : Option String)
  (d : Option (List (String × Value))) (p : String) (ttlMs : Int)

/-- What command-api decodes of the body that the SDK posts. -/
def decodedRequest (ttl : UInt32) : SendRequest where
  vehicleID := vehicleOf resolve target
  commandType := t
  payloadB64 := ""
  priority := Int32.ofInt (priorityInt p)
  ttlMs := ttl

theorem decode_sendCommandBody :
    SendRequest.decode (sendCommandBody resolve t target d p ttlMs) =
      (decodeUint32 0 (.number (.ofInt ttlMs))).map (decodedRequest resolve t target p) := by
  have within : Value.Within (9999 + 1) (.object [("vehicle_id", .string (vehicleOf resolve target)),
      ("command_type", .string t), ("priority", .number (.ofInt (priorityInt p))),
      ("ttl_ms", .number (.ofInt ttlMs))]) := by
    intro field member
    simp only [List.mem_cons, List.not_mem_nil, or_false] at member
    rcases member with rfl | rfl | rfl | rfl
    · exact within_string _ _
    · exact within_string _ _
    · exact within_number _ _
    · exact within_number _ _
  have read := goReader.first_write pythonStyle _ within
  have bounds := priorityInt_bounds p
  have priority := decodeInt32_ofInt 0 (show -2147483648 ≤ priorityInt p by omega) (by omega)
  rw [SendRequest.decode, sendCommandBody, read]
  simp [SendRequest.set, foldEqual, foldRune, decodeGoString, priority, SendRequest.empty]
  cases decodeUint32 0 (.number (.ofInt ttlMs)) <;> rfl

/-- The payload that command-api makes up. The SDK sends none, so the data is lost here. -/
def typeOnly : List UInt8 := if t ≠ "" then typePayload t else []

def publishedCommand (id : String) (issuer : GoString) (now : UInt64) (ttl : UInt32) :
    Cloud.CommandEnvelope where
  vehicleID := Utf8.encode (vehicleOf resolve target)
  commandID := Utf8.encode id
  payload := typeOnly t
  priority := Int32.ofInt (priorityInt p)
  issuerID := issuer
  issuedAt := now
  ttlMs := ttl

theorem payload_decodedRequest (ttl : UInt32) :
    (decodedRequest resolve t target p ttl).payload = some (typeOnly t) := by
  by_cases untyped : t = "" <;> simp [SendRequest.payload, decodedRequest, typeOnly, untyped]

theorem published_eq {claims : Option Cloud.Claims} {id subject commandID : String} {now : UInt64}
    {encoded : List UInt8}
    (published : handleSendCommand claims (sendCommandBody resolve t target d p ttlMs) id now =
      .published subject encoded commandID) :
    vehicleOf resolve target ≠ "" ∧ ∃ issuer ttl,
      encoded = encodeCommandEnvelope (publishedCommand resolve t target p id issuer now ttl) := by
  cases claims with
  | none => simp [handleSendCommand] at published
  | some claims =>
    simp only [handleSendCommand, decode_sendCommandBody] at published
    cases ttl : decodeUint32 0 (.number (.ofInt ttlMs)) with
    | none =>
      simp only [ttl, Option.map_none] at published
      split_ifs at published
    | some ttl' =>
      simp only [ttl, Option.map_some, payload_decodedRequest] at published
      split_ifs at published with role vehicle access
      obtain ⟨-, rfl, -⟩ := SendResponse.published.inj published
      exact ⟨vehicle, _, _, rfl⟩

theorem handleSendCommand_accepts (claims : Cloud.Claims) (ttl : UInt32)
    (role : canSendCommand claims.role = true) (vehicle : vehicleOf resolve target ≠ "")
    (access : claims.canAccessVehicle (vehicleOf resolve target) = true)
    (fits : decodeUint32 0 (.number (.ofInt ttlMs)) = some ttl) (id : String) (now : UInt64) :
    handleSendCommand (some claims) (sendCommandBody resolve t target d p ttlMs) id now =
      .published ("command." ++ vehicleOf resolve target)
        (encodeCommandEnvelope (publishedCommand resolve t target p id (Utf8.encode claims.subject) now ttl))
        id := by
  have named : (decodedRequest resolve t target p ttl).vehicleID = vehicleOf resolve target := rfl
  simp only [handleSendCommand, decode_sendCommandBody, fits, Option.map_some,
    payload_decodedRequest, role, named, if_neg vehicle, access, if_true]
  rfl

end Request

/-! ## The envelope -/

theorem decodeCommandEnvelope_encodeCommandEnvelope (cmd : Cloud.CommandEnvelope)
    {vehicle id : String} (vehicle_is : cmd.vehicleID = Utf8.encode vehicle)
    (id_is : cmd.commandID = Utf8.encode id) (some_vehicle : vehicle ≠ "") (some_id : id ≠ "")
    (held : (encodeCommandEnvelope cmd).length < 2 ^ 63) :
    decodeCommandEnvelope (encodeCommandEnvelope cmd) =
      .ok ⟨vehicle, id, cmd.payload, priorityOf cmd.priority.toInt64.toUInt64, cmd.ttlMs⟩ := by
  have written := encodeCommandEnvelope_eq cmd held
  rw [written] at held
  rw [written, decodeCommandEnvelope_encode _ (commandFields_number cmd) held]
  have unset (none : ¬cmd.ttlMs > 0) : 0 = cmd.ttlMs := by
    apply UInt32.toNat_inj.mp
    have zero : ¬0 < cmd.ttlMs.toNat := none
    simp
    omega
  have folded : (commandFields cmd).foldl Agent.CommandEnvelope.apply emptyCommandEnvelope =
      ⟨vehicle, id, cmd.payload, priorityOf cmd.priority.toInt64.toUInt64, cmd.ttlMs⟩ := by
    simp only [commandFields, vehicle_is, id_is]
    split_ifs with issuer issued ttl ttl issued ttl ttl <;>
      simp [Agent.CommandEnvelope.apply, Agent.CommandEnvelope.setDelimited,
        Agent.CommandEnvelope.setVarint, emptyCommandEnvelope, Utf8.lossy_encode]
    all_goals exact unset ttl
  rw [folded, finishCommandEnvelope, if_neg some_vehicle, if_neg some_id]

theorem priority_word_eq {first second : Int32} :
    first.toInt64.toUInt64 = second.toInt64.toUInt64 ↔ first = second := by
  constructor
  · intro same
    have signed : first.toInt64 = second.toInt64 := Int64.toBitVec_inj.mp (UInt64.toBitVec_inj.mpr same)
    apply Int32.toInt_inj.mp
    rw [← Int32.toInt_toInt64, ← Int32.toInt_toInt64, signed]
  · intro same
    rw [same]

theorem priorityOf_extended (priority : Int32) :
    priorityOf priority.toInt64.toUInt64 =
      if priority = 2 then .high else if priority = 3 then .emergency else .normal := by
  have two : priority.toInt64.toUInt64 = (2 : Int32).toInt64.toUInt64 ↔ priority = 2 :=
    priority_word_eq
  have three : priority.toInt64.toUInt64 = (3 : Int32).toInt64.toUInt64 ↔ priority = 3 :=
    priority_word_eq
  have two_word : (2 : Int32).toInt64.toUInt64 = 2 := rfl
  have three_word : (3 : Int32).toInt64.toUInt64 = 3 := rfl
  rw [two_word] at two
  rw [three_word] at three
  simp only [priorityOf, two, three]

/-- The agent reads what command-api published, whatever the priority's sign and whatever bytes
the payload holds. -/
theorem agent_reads_published (cmd : Cloud.CommandEnvelope) (vehicle id : String)
    (vehicle_is : cmd.vehicleID = Utf8.encode vehicle) (id_is : cmd.commandID = Utf8.encode id)
    (some_vehicle : vehicle ≠ "") (some_id : id ≠ "")
    (held : (encodeCommandEnvelope cmd).length < 2 ^ 63) :
    ∃ decoded, decodeCommandEnvelope (encodeCommandEnvelope cmd) = .ok decoded ∧
      decoded.vehicleId = vehicle ∧ decoded.commandId = id ∧ decoded.payload = cmd.payload ∧
      decoded.ttlMs = cmd.ttlMs ∧ (decoded.priority = .high ↔ cmd.priority = 2) ∧
      (decoded.priority = .emergency ↔ cmd.priority = 3) ∧
      (decoded.priority = .normal ↔ cmd.priority ≠ 2 ∧ cmd.priority ≠ 3) := by
  have read := decodeCommandEnvelope_encodeCommandEnvelope cmd vehicle_is id_is some_vehicle some_id held
  refine ⟨_, read, rfl, rfl, rfl, rfl, ?_⟩
  rw [priorityOf_extended]
  by_cases high : cmd.priority = 2
  · simp [high]
  · by_cases emergency : cmd.priority = 3 <;> simp [high, emergency]

def negativeCommand : Cloud.CommandEnvelope where
  vehicleID := Utf8.encode "drone-001"
  commandID := Utf8.encode "c"
  payload := [0x0A, 0xFF]
  priority := -1
  issuerID := []
  issuedAt := 0
  ttlMs := 0

theorem negative_priority_is_normal :
    ∃ decoded, decodeCommandEnvelope (encodeCommandEnvelope negativeCommand) = .ok decoded ∧
      decoded.vehicleId = "drone-001" ∧ decoded.commandId = "c" ∧
      decoded.payload = [0x0A, 0xFF] ∧ decoded.ttlMs = 0 ∧
      (decoded.priority = .high ↔ negativeCommand.priority = 2) ∧
      (decoded.priority = .emergency ↔ negativeCommand.priority = 3) ∧
      (decoded.priority = .normal ↔ negativeCommand.priority ≠ 2 ∧ negativeCommand.priority ≠ 3) :=
  agent_reads_published negativeCommand "drone-001" "c" rfl rfl (by decide) (by decide)
    ((length_encodeCommandEnvelope_le negativeCommand).trans_lt (by decide))

/-! ## The event -/

theorem commandData_typeOnly (t : String) :
    commandData (typeOnly t) =
      if t ≠ "" then .object [("type", .string t)] else .string "" := by
  by_cases untyped : t = ""
  · simp only [untyped, typeOnly]
    rfl
  · have within : Value.Within (126 + 1) (.object [("type", .string t)]) := by
      intro field member
      obtain rfl := List.mem_singleton.mp member
      exact within_string 126 t
    have read := serdeReader.read_write goStyle _ within
    simp only [typeOnly, if_pos untyped, commandData, serdeFromSlice, typePayload,
      Utf8.strict_encode, Option.bind_eq_bind, Option.bind_some, String.toList_ofList, read,
      Option.getD_some, ne_eq]

theorem within_typeOnly (t : String) : (commandData (typeOnly t)).Within (998 + 1) := by
  rw [commandData_typeOnly]
  split_ifs
  · intro field member
    obtain rfl := List.mem_singleton.mp member
    exact within_string 998 t
  · trivial

/-- The events that the device's SDK sees of a published envelope. -/
def receivedEvents (encoded : List UInt8) : List Received :=
  match decodeCommandEnvelope encoded with
  | .ok cmd => ((handleCommandsSse cmd).map consumeSse).getD []
  | _ => []

structure Uuid where
  text : String
  filled : text ≠ ""
  plain : ∀ c ∈ text.toList, c.isAlphanum ∨ c = '-'

theorem Uuid.unbroken (id : Uuid) :
    '\n' ∉ id.text.toList ∧ '\r' ∉ id.text.toList ∧ '\x00' ∉ id.text.toList := by
  refine ⟨?_, ?_, ?_⟩ <;>
  · intro member
    have plain := id.plain _ member
    revert plain
    decide

theorem Printable.unbroken {text : List Char} (printable : Json.Printable text) :
    '\r' ∉ text ∧ '\n' ∉ text := by
  constructor
  · intro member
    have visible := printable _ member
    revert visible
    decide
  · intro member
    have visible := printable _ member
    revert visible
    decide

theorem consumeSse_handleCommandsSse (cmd : AdapterTrait.CommandEnvelope) (id : Uuid)
    (id_is : cmd.commandId = id.text) (within : (commandData cmd.payload).Within 999) :
    (handleCommandsSse cmd).map consumeSse =
      some [dispatch [("id", .string id.text), ("command_type", .string "command"),
        ("data", commandData cmd.payload), ("priority", .string (priorityStr cmd.priority))]] := by
  obtain ⟨no_break, no_return, no_null⟩ := id.unbroken
  have event_within : Value.Within (999 + 1) (commandEvent cmd).toJson := by
    intro field member
    simp only [commandEvent, List.mem_cons, List.not_mem_nil, or_false] at member
    rcases member with rfl | rfl | rfl | rfl
    · exact within_string _ _
    · exact within_string _ _
    · exact within
    · exact within_string _ _
  have read := pythonReader.read_write serdeStyle _ event_within
  have unbroken := Printable.unbroken (Value.printable_write serdeStyle _ _ event_within)
  have starts : (commandEvent cmd).toJson.write serdeStyle = '{' :: _ := rfl
  have consumed := consumeSse_event ⟨no_return, no_break⟩ unbroken starts (by decide)
  have received : receiveEvent ((commandEvent cmd).toJson.write serdeStyle) =
      dispatch [("id", .string cmd.commandId), ("command_type", .string "command"),
        ("data", commandData cmd.payload), ("priority", .string (priorityStr cmd.priority))] := by
    rw [receiveEvent, read]
    rfl
  rw [received, id_is] at consumed
  rw [handleCommandsSse, id_is, if_neg no_null, ← consumed]
  generalize (commandEvent cmd).toJson.write serdeStyle = json at unbroken
  have id_field : sseField "id" id.text.toList =
      some ("id: ".toList ++ id.text.toList ++ ['\n']) := by
    simp [sseField, no_break, no_return]
  have data_field : sseField "data" json = some ("data: ".toList ++ json ++ ['\n']) := by
    simp [sseField, unbroken]
  simp only [id_field, data_field, Option.bind_eq_bind, Option.bind_some, Option.map_some,
    List.append_assoc, List.cons_append, List.nil_append]

/-! ## The whole way -/

/-- What the device gets is what the operator asked for. -/
def CommandFaithful (t : String) (d : List (String × Value)) (p : String) : Received → Prop
  | .command cmd =>
    t ≠ "_assistance_response" ∧ cmd.type = .string t ∧ cmd.data = .object d ∧
      cmd.priority = .string p
  | .assistance _ => t = "_assistance_response"
  | .malformed => False
  | .raised => False

/-- The command that the handler is given, whatever data was sent. -/
def handedOver (t p : String) (id : Uuid) : Sdk.Command where
  id := .string id.text
  type := .string "command"
  data := if t ≠ "" then .object [("type", .string t)] else .object []
  priority := .string (if p = "emergency" then "high" else "normal")

theorem priority_renumbered (p : String) :
    priorityStr (priorityOf (Int32.ofInt (priorityInt p)).toInt64.toUInt64) =
      if p = "emergency" then "high" else "normal" := by
  unfold priorityInt
  split_ifs <;> simp_all <;> decide

theorem dispatch_typeOnly (t p : String) (id : Uuid) :
    dispatch [("id", .string id.text), ("command_type", .string "command"),
        ("data", commandData (typeOnly t)),
        ("priority", .string (if p = "emergency" then "high" else "normal"))] =
      .command (handedOver t p id) := by
  rw [commandData_typeOnly]
  by_cases untyped : t = "" <;>
    simp [dispatch, Sdk.commandType, isAssistanceResponse, eventData, Json.lookup, truthy,
      handedOver, untyped]

section Way

variable {resolve : String → String} {t : String} {target : Option String}
  {d : List (String × Value)} {p : String} {ttlMs : Int} {claims : Option Cloud.Claims} {id : Uuid}
  {now : UInt64} {subject commandID : String} {encoded : List UInt8}

theorem receivedEvents_published
    (published : handleSendCommand claims (sendCommandBody resolve t target (some d) p ttlMs)
      id.text now = .published subject encoded commandID)
    (held : encoded.length < 2 ^ 63) :
    receivedEvents encoded = [.command (handedOver t p id)] := by
  obtain ⟨some_vehicle, issuer, ttl, rfl⟩ := published_eq resolve t target (some d) p ttlMs published
  have decoded := decodeCommandEnvelope_encodeCommandEnvelope _ rfl rfl some_vehicle id.filled held
  have received := consumeSse_handleCommandsSse
    ⟨vehicleOf resolve target, id.text, typeOnly t,
      priorityOf (Int32.ofInt (priorityInt p)).toInt64.toUInt64, ttl⟩ id rfl (within_typeOnly t)
  rw [priority_renumbered, dispatch_typeOnly] at received
  rw [receivedEvents, decoded]
  exact congrArg (Option.getD · []) received

theorem sent_command_faithful_iff
    (published : handleSendCommand claims (sendCommandBody resolve t target (some d) p ttlMs)
      id.text now = .published subject encoded commandID)
    (held : encoded.length < 2 ^ 63) :
    (∃ received, receivedEvents encoded = [received] ∧ CommandFaithful t d p received) ↔
      t = "command" ∧ d = [("type", .string "command")] ∧ p = "normal" := by
  have only := receivedEvents_published published held
  constructor
  · rintro ⟨received, events, faithful⟩
    obtain rfl := List.singleton_inj.mp (only.symm.trans events)
    obtain ⟨-, type, data, priority⟩ := faithful
    obtain rfl := Value.string.inj type
    refine ⟨rfl, (Value.object.inj data).symm, ?_⟩
    have named := Value.string.inj priority
    by_cases emergency : p = "emergency"
    · rw [if_pos emergency, emergency] at named
      exact absurd named (by decide)
    · rw [if_neg emergency] at named
      exact named.symm
  · rintro ⟨rfl, rfl, rfl⟩
    exact ⟨_, only, by decide, rfl, rfl, rfl⟩

end Way

def sampleId : Uuid := ⟨"0190d3c4-7a10-7cc3-8f6e-1b2a3c4d5e6f", by decide, by simp⟩

def sampleSend (t : String) (d : List (String × Value)) (p : String) : SendResponse :=
  handleSendCommand (some ⟨"", "", "operator", []⟩)
    (sendCommandBody (fun name => name) t (some "device:drone-001") (some d) p 30000)
    sampleId.text 0

theorem sampleSend_published (t : String) (d : List (String × Value)) (p : String)
    (short : (typeOnly t).length < 1000) :
    ∃ encoded, sampleSend t d p = .published "command.drone-001" encoded sampleId.text ∧
      encoded.length < 2 ^ 63 := by
  have accepted := handleSendCommand_accepts (fun name => name) t (some "device:drone-001") (some d)
    p 30000 ⟨"", "", "operator", []⟩ 30000 (by decide) (by decide) (by decide) (by decide)
    sampleId.text 0
  have size := length_encodeCommandEnvelope_le
    (publishedCommand (fun name => name) t (some "device:drone-001") p sampleId.text (Utf8.encode "") 0 30000)
  have vehicle : (Utf8.encode (vehicleOf (fun name => name) (some "device:drone-001"))).length = 9 := by
    decide
  have id : (Utf8.encode sampleId.text).length = 36 := by decide
  refine ⟨_, accepted, ?_⟩
  simp only [publishedCommand, vehicle, id, Utf8.encode_empty, List.length_nil] at size
  exact lt_of_le_of_lt size (by omega)

-- Only a call that asks for what every command becomes arrives unchanged.
theorem plain_command_faithful :
    ∃ encoded, sampleSend "command" [("type", .string "command")] "normal" =
        .published "command.drone-001" encoded sampleId.text ∧
      ∃ received, receivedEvents encoded = [received] ∧
        CommandFaithful "command" [("type", .string "command")] "normal" received := by
  obtain ⟨encoded, published, held⟩ :=
    sampleSend_published "command" [("type", .string "command")] "normal" (by decide)
  exact ⟨encoded, published, (sent_command_faithful_iff published held).mpr ⟨rfl, rfl, rfl⟩⟩

theorem goto_unfaithful :
    ∃ encoded, sampleSend "goto" [("lat", .number (.ofInt 28))] "high" =
        .published "command.drone-001" encoded sampleId.text ∧
      ¬ ∃ received, receivedEvents encoded = [received] ∧
        CommandFaithful "goto" [("lat", .number (.ofInt 28))] "high" received := by
  obtain ⟨encoded, published, held⟩ :=
    sampleSend_published "goto" [("lat", .number (.ofInt 28))] "high" (by decide)
  refine ⟨encoded, published, ?_⟩
  rintro ⟨received, events, faithful⟩
  obtain rfl := List.singleton_inj.mp ((receivedEvents_published published held).symm.trans events)
  have type := Value.string.inj faithful.2.1
  revert type
  decide

end SystemScale.Contract
