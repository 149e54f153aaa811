import SystemScale.Cloud.Auth
import SystemScale.Cloud.Proto
import SystemScale.Lib.JsonLaws
import SystemScale.Lib.Utf8

set_option autoImplicit false

/-!
# Sending a command over REST

`POST /v1/commands` of command-api: the request is decoded, checked, and published as a
`CommandEnvelope`.
-/

namespace SystemScale.Cloud

open Wire

/-! ## encoding/json -/

theorem compact_gap : ∀ c ∈ ([] : List Char), c = ' ' := by simp

def goStyle : Json.Style where
  raw c := 0x20 ≤ c.toNat && c ≠ '<' && c ≠ '>' && c ≠ '&' && c ≠ '\u2028' && c ≠ '\u2029'
  space := []
  printable c raw := by
    simp only [Bool.and_eq_true, decide_eq_true_eq] at raw
    exact raw.1.1.1.1.1
  gap := compact_gap

def goReader : Json.Reader := ⟨some '\uFFFD', 10000⟩

-- Two letters outside ASCII fold to letters inside.
def foldRune (c : Char) : Char :=
  if c = '\u017F' then 's' else if c = '\u212A' then 'k' else c.toLower

/-- The key of a JSON object stands for the struct field with this tag. -/
def foldEqual (tag key : String) : Bool := key.toList.map foldRune = tag.toList.map foldRune

def decodeGoString (old : String) : Json.Value → Option String
  | .null => some old
  | .string text => some text
  | _ => none

def decodeInt32 (old : Int32) : Json.Value → Option Int32
  | .null => some old
  | .number number =>
    match number.toInt? with
    | some value =>
      if -2147483648 ≤ value ∧ value < 2147483648 then some (Int32.ofInt value) else none
    | none => none
  | _ => none

theorem decodeInt32_ofInt (old : Int32) {value : Int} (low : -2147483648 ≤ value)
    (high : value < 2147483648) :
    decodeInt32 old (.number (.ofInt value)) = some (Int32.ofInt value) := by
  simp only [decodeInt32, Json.Number.toInt?_ofInt]
  exact if_pos ⟨low, high⟩

def decodeUint32 (old : UInt32) : Json.Value → Option UInt32
  | .null => some old
  | .number number =>
    match number.toInt? with
    | some value =>
      if number.literal.head? ≠ some '-' ∧ value < 4294967296 then some (UInt32.ofNat value.toNat)
      else none
    | none => none
  | _ => none

/-- `Decode` into a struct whose fields are set by tag. -/
def decodeStruct {α : Type} (set : α → String → Json.Value → Option α) (zero : α)
    (body : List Char) : Option α :=
  match goReader.first body with
  | some (.object fields) => fields.foldlM (fun req field => set req field.1 field.2) zero
  | some .null => some zero
  | _ => none

/-! ## encoding/base64 -/

def base64Value (c : Char) : Option Nat :=
  if 'A' ≤ c ∧ c ≤ 'Z' then some (c.toNat - 65)
  else if 'a' ≤ c ∧ c ≤ 'z' then some (c.toNat - 71)
  else if '0' ≤ c ∧ c ≤ '9' then some (c.toNat + 4)
  else if c = '+' then some 62
  else if c = '/' then some 63
  else none

-- The unused bits of the last group are not looked at.
def base64Groups : List Char → Option (List UInt8)
  | [] => some []
  | [a, b, '=', '='] => do
    let a ← base64Value a
    let b ← base64Value b
    some [UInt8.ofNat (a * 4 + b / 16)]
  | [a, b, c, '='] => do
    let a ← base64Value a
    let b ← base64Value b
    let c ← base64Value c
    some [UInt8.ofNat (a * 4 + b / 16), UInt8.ofNat (b % 16 * 16 + c / 4)]
  | a :: b :: c :: d :: rest => do
    let a ← base64Value a
    let b ← base64Value b
    let c ← base64Value c
    let d ← base64Value d
    let rest ← base64Groups rest
    some (UInt8.ofNat (a * 4 + b / 16) :: UInt8.ofNat (b % 16 * 16 + c / 4) ::
      UInt8.ofNat (c % 4 * 64 + d) :: rest)
  | _ => none

/-- `base64.StdEncoding.DecodeString`, which passes over line breaks. -/
def base64Decode (text : String) : Option (List UInt8) :=
  base64Groups (text.toList.filter fun c => c ≠ '\r' && c ≠ '\n')

example : base64Decode "aGk=" = some [0x68, 0x69] := by decide

/-! ## CommandEnvelope -/

structure CommandEnvelope where
  vehicleID : GoString
  commandID : GoString
  payload : List UInt8
  priority : Int32
  issuerID : GoString
  issuedAt : UInt64
  ttlMs : UInt32
  deriving DecidableEq

def appendVarint (v : UInt64) : List UInt8 :=
  if 0x80 ≤ v then (v.toUInt8 ||| 0x80) :: appendVarint (v >>> 7) else [v.toUInt8]
termination_by v.toNat
decreasing_by
  rename_i large
  have : 128 ≤ v.toNat := large
  rw [Varint.shifted]
  omega

def appendProtoVarint (fieldNum : UInt32) (val : UInt64) : List UInt8 :=
  appendVarint ((fieldNum <<< 3) ||| 0).toUInt64 ++ appendVarint val

def appendProtoString (fieldNum : UInt32) (s : GoString) : List UInt8 :=
  appendVarint ((fieldNum <<< 3) ||| 2).toUInt64 ++ appendVarint (UInt64.ofNat s.length) ++ s

def appendProtoBytes (fieldNum : UInt32) (b : List UInt8) : List UInt8 :=
  appendVarint ((fieldNum <<< 3) ||| 2).toUInt64 ++ appendVarint (UInt64.ofNat b.length) ++ b

def encodeCommandEnvelope (cmd : CommandEnvelope) : List UInt8 :=
  appendProtoString 1 cmd.vehicleID ++
  appendProtoString 2 cmd.commandID ++
  appendProtoBytes 3 cmd.payload ++
  appendProtoVarint 4 cmd.priority.toInt64.toUInt64 ++
  (if cmd.issuerID ≠ [] then appendProtoString 5 cmd.issuerID else []) ++
  (if cmd.issuedAt > 0 then appendProtoVarint 6 cmd.issuedAt else []) ++
  (if cmd.ttlMs > 0 then appendProtoVarint 7 cmd.ttlMs.toUInt64 else [])

/-! ## handleSendCommand -/

structure SendRequest where
  vehicleID : String
  commandType : String
  payloadB64 : String
  priority : Int32
  ttlMs : UInt32

def SendRequest.empty : SendRequest := ⟨"", "", "", 0, 0⟩

def SendRequest.set (req : SendRequest) (key : String) (value : Json.Value) :
    Option SendRequest :=
  if foldEqual "vehicle_id" key then do
    let vehicleID ← decodeGoString req.vehicleID value
    some { req with vehicleID := vehicleID }
  else if foldEqual "command_type" key then do
    let commandType ← decodeGoString req.commandType value
    some { req with commandType := commandType }
  else if foldEqual "payload_b64" key then do
    let payloadB64 ← decodeGoString req.payloadB64 value
    some { req with payloadB64 := payloadB64 }
  else if foldEqual "priority" key then do
    let priority ← decodeInt32 req.priority value
    some { req with priority := priority }
  else if foldEqual "ttl_ms" key then do
    let ttlMs ← decodeUint32 req.ttlMs value
    some { req with ttlMs := ttlMs }
  else some req

def SendRequest.decode (body : List Char) : Option SendRequest :=
  match goReader.first body with
  | some (.object fields) => fields.foldlM (fun req field => req.set field.1 field.2) .empty
  | some .null => some .empty
  | _ => none

/-- `published` holds what is handed to the message router. -/
inductive SendResponse where
  | refused (status : Nat) (message : String)
  | published (subject : String) (encoded : List UInt8) (commandID : String)

def typePayload (commandType : String) : List UInt8 :=
  Utf8.encode (String.ofList
    (Json.Value.write goStyle (.object [("type", .string commandType)])))

/-- The payload, or `none` where the request's cannot be decoded. -/
def SendRequest.payload (req : SendRequest) : Option (List UInt8) :=
  if req.payloadB64 ≠ "" then base64Decode req.payloadB64
  else if req.commandType ≠ "" then some (typePayload req.commandType)
  else some []

def handleSendCommand (claims : Option Claims) (body : List Char) (commandID : String)
    (now : UInt64) : SendResponse :=
  match claims with
  | none => .refused 401 "Unauthorized"
  | some claims =>
    if canSendCommand claims.role then
      match SendRequest.decode body with
      | none => .refused 400 "Bad Request: vehicle_id required"
      | some req =>
        if req.vehicleID = "" then .refused 400 "Bad Request: vehicle_id required"
        else if claims.canAccessVehicle req.vehicleID then
          match req.payload with
          | none => .refused 400 "Bad Request: invalid payload_b64"
          | some payload =>
            .published ("command." ++ req.vehicleID)
              (encodeCommandEnvelope
                { vehicleID := Utf8.encode req.vehicleID
                  commandID := Utf8.encode commandID
                  payload := payload
                  priority := req.priority
                  issuerID := Utf8.encode claims.subject
                  issuedAt := now
                  ttlMs := req.ttlMs })
              commandID
        else .refused 403 "Forbidden: vehicle not in vehicle_set"
    else .refused 403 "Forbidden: operator or admin role required"

-- What is published is an envelope for the vehicle of the subject, under the new id.
theorem handleSendCommand_published {claims : Option Claims} {body : List Char}
    {commandID subject id : String} {now : UInt64} {encoded : List UInt8}
    (published : handleSendCommand claims body commandID now = .published subject encoded id) :
    ∃ vehicle cmd, vehicle ≠ "" ∧ subject = "command." ++ vehicle ∧
      cmd.vehicleID = Utf8.encode vehicle ∧ cmd.commandID = Utf8.encode commandID ∧
      encoded = encodeCommandEnvelope cmd := by
  unfold handleSendCommand at published
  cases claims with
  | none => simp at published
  | some claims =>
    dsimp only at published
    split at published
    next =>
      split at published
      next => simp at published
      next req decoded =>
        split at published
        next => simp at published
        next named =>
          split at published
          next =>
            split at published
            next => simp at published
            next payload held =>
              obtain ⟨rfl, rfl, -⟩ := SendResponse.published.inj published
              exact ⟨req.vehicleID, _, named, rfl, rfl, rfl, rfl⟩
          next => simp at published
    next => simp at published

/-! ## The fields that are written -/

theorem appendVarint_eq (v : UInt64) : appendVarint v = Varint.varint v.toNat := by
  have byte : ∀ n < 256, UInt8.ofNat n ||| 0x80 = UInt8.ofNat (n % 128 + 128) := by
    decide +kernel
  induction v using appendVarint.induct with
  | case1 v large ih =>
    have grown : 128 ≤ v.toNat := large
    have low : v.toUInt8 = UInt8.ofNat (v.toNat % 256) := by
      apply UInt8.toNat_inj.mp
      simp
    have group : v.toNat % 256 % 128 = v.toNat % 128 := by omega
    rw [appendVarint, if_pos large, ih, Varint.varint_of_ge grown, Varint.shifted, low,
      byte _ (Nat.mod_lt _ (by omega)), group]
  | case2 v small =>
    have short : v.toNat < 128 := Nat.lt_of_not_le small
    have low : v.toUInt8 = UInt8.ofNat v.toNat := by
      apply UInt8.toNat_inj.mp
      simp
    rw [appendVarint, if_neg small, Varint.varint_of_lt short, low]

theorem appendVarint_tag (number wire : Nat) (small : number < 32) (code : wire < 8) :
    appendVarint ((UInt32.ofNat number <<< 3) ||| UInt32.ofNat wire).toUInt64 =
      Varint.varint (number * 8 + wire) := by
  rw [appendVarint_eq, tag_word number wire small code]

theorem appendProtoVarint_eq (number : Nat) (small : number < 32) (val : UInt64) :
    appendProtoVarint (UInt32.ofNat number) val = Field.bytes ⟨number, .varint val⟩ := by
  rw [appendProtoVarint, appendVarint_eq val]
  exact congrArg (· ++ _) (appendVarint_tag number 0 small (by omega))

theorem appendProtoBytes_eq (number : Nat) (small : number < 32) {b : List UInt8}
    (held : b.length < 2 ^ 64) :
    appendProtoBytes (UInt32.ofNat number) b = Field.bytes ⟨number, .delimited b⟩ := by
  rw [appendProtoBytes, appendVarint_eq (UInt64.ofNat b.length), Varint.word_ofNat held,
    List.append_assoc]
  exact congrArg (· ++ _) (appendVarint_tag number 2 small (by omega))

theorem appendProtoString_eq (number : Nat) (small : number < 32) {s : GoString}
    (held : s.length < 2 ^ 64) :
    appendProtoString (UInt32.ofNat number) s = Field.bytes ⟨number, .delimited s⟩ :=
  appendProtoBytes_eq number small held

def commandFields (cmd : CommandEnvelope) : List Field :=
  [⟨1, .delimited cmd.vehicleID⟩, ⟨2, .delimited cmd.commandID⟩, ⟨3, .delimited cmd.payload⟩,
    ⟨4, .varint cmd.priority.toInt64.toUInt64⟩] ++
  (if cmd.issuerID ≠ [] then [⟨5, .delimited cmd.issuerID⟩] else []) ++
  (if cmd.issuedAt > 0 then [⟨6, .varint cmd.issuedAt⟩] else []) ++
  (if cmd.ttlMs > 0 then [⟨7, .varint cmd.ttlMs.toUInt64⟩] else [])

theorem commandFields_number (cmd : CommandEnvelope) :
    ∀ field ∈ commandFields cmd, field.number < 2 ^ 29 := by
  intro field member
  have small : field.number < 8 := by
    unfold commandFields at member
    split_ifs at member <;> simp at member <;>
      rcases member with rfl | rfl | rfl | rfl | rfl | rfl | rfl | rfl <;> simp
  omega

theorem encodeCommandEnvelope_eq (cmd : CommandEnvelope)
    (held : (encodeCommandEnvelope cmd).length < 2 ^ 63) :
    encodeCommandEnvelope cmd = encode (commandFields cmd) := by
  have size : cmd.vehicleID.length + cmd.commandID.length + cmd.payload.length +
      cmd.issuerID.length ≤ (encodeCommandEnvelope cmd).length := by
    simp only [encodeCommandEnvelope, appendProtoString, appendProtoBytes, List.length_append]
    split_ifs <;> simp_all <;> omega
  have vehicle := appendProtoString_eq 1 (by omega)
    (show cmd.vehicleID.length < 2 ^ 64 by omega)
  have command := appendProtoString_eq 2 (by omega)
    (show cmd.commandID.length < 2 ^ 64 by omega)
  have payload := appendProtoBytes_eq 3 (by omega) (show cmd.payload.length < 2 ^ 64 by omega)
  have priority := appendProtoVarint_eq 4 (by omega) cmd.priority.toInt64.toUInt64
  have issuer := appendProtoString_eq 5 (by omega) (show cmd.issuerID.length < 2 ^ 64 by omega)
  have issued := appendProtoVarint_eq 6 (by omega) cmd.issuedAt
  have ttl := appendProtoVarint_eq 7 (by omega) cmd.ttlMs.toUInt64
  simp only [UInt32.reduceOfNat] at vehicle command payload priority issuer issued ttl
  simp only [encodeCommandEnvelope, commandFields, vehicle, command, payload, priority, issuer,
    issued, ttl]
  split_ifs <;> simp

theorem length_appendVarint_le (v : UInt64) : (appendVarint v).length ≤ 10 := by
  rw [appendVarint_eq]
  exact Varint.length_varint_word v.toNat_lt

theorem length_appendProtoBytes_le (fieldNum : UInt32) (b : List UInt8) :
    (appendProtoBytes fieldNum b).length ≤ b.length + 20 := by
  have tag := length_appendVarint_le ((fieldNum <<< 3) ||| 2).toUInt64
  have size := length_appendVarint_le (UInt64.ofNat b.length)
  simp only [appendProtoBytes, List.length_append]
  omega

theorem length_appendProtoString_le (fieldNum : UInt32) (s : GoString) :
    (appendProtoString fieldNum s).length ≤ s.length + 20 :=
  length_appendProtoBytes_le fieldNum s

theorem length_appendProtoVarint_le (fieldNum : UInt32) (val : UInt64) :
    (appendProtoVarint fieldNum val).length ≤ 20 := by
  have tag := length_appendVarint_le ((fieldNum <<< 3) ||| 0).toUInt64
  have value := length_appendVarint_le val
  simp only [appendProtoVarint, List.length_append]
  omega

theorem length_encodeCommandEnvelope_le (cmd : CommandEnvelope) :
    (encodeCommandEnvelope cmd).length ≤ cmd.vehicleID.length + cmd.commandID.length +
      cmd.payload.length + cmd.issuerID.length + 140 := by
  have vehicle := length_appendProtoString_le 1 cmd.vehicleID
  have command := length_appendProtoString_le 2 cmd.commandID
  have payload := length_appendProtoBytes_le 3 cmd.payload
  have priority := length_appendProtoVarint_le 4 cmd.priority.toInt64.toUInt64
  have issuer := length_appendProtoString_le 5 cmd.issuerID
  have issued := length_appendProtoVarint_le 6 cmd.issuedAt
  have ttl := length_appendProtoVarint_le 7 cmd.ttlMs.toUInt64
  simp only [encodeCommandEnvelope, List.length_append, apply_ite List.length, List.length_nil]
  split_ifs <;> omega

end SystemScale.Cloud
