import SystemScale.Cloud.IlpLine
import SystemScale.Sdk.Events

set_option autoImplicit false

/-!
# The Go SDK's readers of commands

`Client` and `MessageReceiver` each read the agent's event stream line by line, and hand a command
to the handler or to the queue.
-/

namespace SystemScale.Sdk.Go

open Agent (mapInsert)
open Cloud (goReader foldEqual decodeGoString convertibleFields)
open Json (Value lookup)

/-! ## Lines -/

def maxScanTokenSize : Nat := 64 * 1024

def dropCR (line : List Char) : List Char :=
  if line.getLast? = some '\r' then line.dropLast else line

def bytesOf (text : List Char) : Nat := (Utf8.encode (String.ofList text)).length

/-- The scanner's buffer holds the line and the byte that ends it. -/
def fits (line : List Char) : Bool := bytesOf line < maxScanTokenSize

/-- The lines that `bufio.Scanner` gives. One that its buffer does not hold ends the stream. -/
def scanLines (stream : List Char) : List (List Char) :=
  ((lines stream).takeWhile fits).map dropCR

section Lines

variable {α : Type} (handle : Nat → List Char → α)

-- Events are counted, so that each can meet a state of its own.
def consumeLines : Nat → List (List Char) → List (List Char) → List α
  | _, _, [] => []
  | count, dataLines, line :: rest =>
    if "data:".toList.isPrefixOf line then
      consumeLines count (dataLines ++ [line.drop 5]) rest
    else if line.isEmpty && !dataLines.isEmpty then
      handle count (['\n'].intercalate dataLines) :: consumeLines (count + 1) [] rest
    else consumeLines count dataLines rest

end Lines

/-! ## encoding/json -/

/-- Any value but an object and `null` is a type error, and so is a number without a `float64`. A
nil map has no entries. -/
def decodeMap (old : Object) : Value → Option Object
  | .null => some []
  | .object fields =>
    if convertibleFields fields then
      some (fields.foldl (fun made field => mapInsert field.1 field.2 made) old)
    else none
  | _ => none

structure Payload where
  id : String
  commandType : String
  type : String
  data : Object
  priority : String

def Payload.zero : Payload := ⟨"", "", "", [], ""⟩

/-- The tags that the structs of both readers have. -/
def Payload.set (payload : Payload) (key : String) (value : Value) : Option Payload :=
  if foldEqual "id" key then
    (decodeGoString payload.id value).map fun id => { payload with id := id }
  else if foldEqual "command_type" key then
    (decodeGoString payload.commandType value).map fun commandType =>
      { payload with commandType := commandType }
  else if foldEqual "data" key then
    (decodeMap payload.data value).map fun data => { payload with data := data }
  else if foldEqual "priority" key then
    (decodeGoString payload.priority value).map fun priority => { payload with priority := priority }
  else some payload

/-- Only the receiver's struct has the tag `type`. -/
def Payload.setTyped (payload : Payload) (key : String) (value : Value) : Option Payload :=
  if foldEqual "type" key then
    (decodeGoString payload.type value).map fun type => { payload with type := type }
  else payload.set key value

/-- `json.Unmarshal` into a struct whose fields are set by tag. -/
def unmarshal (set : Payload → String → Value → Option Payload) (raw : List Char) :
    Option Payload :=
  match goReader.read raw with
  | some (.object fields) =>
    fields.foldlM (fun payload field => set payload field.1 field.2) Payload.zero
  | some .null => some Payload.zero
  | _ => none

/-! ## Events -/

structure Command where
  id : String
  type : String
  data : Object
  priority : String

structure AssistanceResponse where
  requestID : String
  approved : Bool
  instruction : String

inductive Reaction where
  | handled (cmd : Command)
  | queued (cmd : Command)
  | failed (id message : String)
  | resolved (response : AssistanceResponse)
  | ignored
  | malformed

/-- What an event meets: the requests that wait for an answer, whether there is a handler, and
whether the queue of commands has a free place. -/
structure State where
  assistPending : List String
  handler : Bool
  room : Bool

def stringOf : Option Value → String
  | some (.string text) => text
  | _ => ""

def boolOf : Option Value → Bool
  | some (.bool value) => value
  | _ => false

def resolve (pending : List String) (requestID : String) (data : Object) : Reaction :=
  if requestID = "" then .ignored
  else if requestID ∈ pending then
    .resolved
      { requestID := requestID
        approved := boolOf (lookup "approved" data)
        instruction := stringOf (lookup "instruction" data) }
  else .ignored

def deliver (state : State) (cmd : Command) : Reaction :=
  if state.handler then .handled cmd
  else if state.room then .queued cmd
  else .failed cmd.id "command queue full on device"

def Client.resolveAssistance (pending : List String) (data : Object) : Reaction :=
  resolve pending (stringOf (lookup "request_id" data)) data

def Client.handleSSEEvent (state : State) (raw : List Char) : Reaction :=
  match unmarshal Payload.set raw with
  | none => .malformed
  | some payload =>
    if payload.id = "" then .ignored
    else if payload.commandType = "_assistance_response" then
      Client.resolveAssistance state.assistPending payload.data
    else deliver state ⟨payload.id, payload.commandType, payload.data, payload.priority⟩

def MessageReceiver.resolveAssistance (pending : List String) (data : Object) : Reaction :=
  let rid := stringOf (lookup "_request_id" data)
  resolve pending (if rid = "" then stringOf (lookup "request_id" data) else rid) data

def MessageReceiver.handleEvent (state : State) (raw : List Char) : Reaction :=
  match unmarshal Payload.setTyped raw with
  | none => .malformed
  | some payload =>
    let cmdType := if payload.commandType = "" then payload.type else payload.commandType
    if cmdType = "" ∨ payload.id = "" then .ignored
    else if cmdType = "_assistance_response" then
      MessageReceiver.resolveAssistance state.assistPending payload.data
    else deliver state ⟨payload.id, cmdType, payload.data, payload.priority⟩

def Client.consumeSSE (state : Nat → State) (stream : List Char) : List Reaction :=
  consumeLines (fun count => Client.handleSSEEvent (state count)) 0 [] (scanLines stream)

def MessageReceiver.consumeSSE (state : Nat → State) (stream : List Char) : List Reaction :=
  consumeLines (fun count => MessageReceiver.handleEvent (state count)) 0 [] (scanLines stream)

/-- The id of the command that the handler, the queue or a failed acknowledgment got. -/
def Reaction.served : Reaction → Option String
  | .handled cmd => some cmd.id
  | .queued cmd => some cmd.id
  | .failed id _ => some id
  | _ => none

@[simp] theorem served_deliver (state : State) (cmd : Command) :
    (deliver state cmd).served = some cmd.id := by
  unfold deliver
  split_ifs <;> rfl

/-! ## Reading a stream -/

theorem bytesOf_append (first second : List Char) :
    bytesOf (first ++ second) = bytesOf first + bytesOf second := by
  simp [bytesOf, Utf8.encode]

theorem scanLines_break {line : List Char} (unbroken : '\n' ∉ line) (rest : List Char) :
    scanLines (line ++ '\n' :: rest) = if fits line then dropCR line :: scanLines rest else [] := by
  rw [scanLines, lines_break unbroken, List.takeWhile_cons]
  split_ifs <;> rfl

theorem dropCR_eq {line : List Char} (unbroken : '\r' ∉ line) : dropCR line = line := by
  rw [dropCR, if_neg]
  intro last
  exact unbroken (List.mem_of_getLast? last)

theorem scanLines_blank (rest : List Char) : scanLines ('\n' :: rest) = [] :: scanLines rest :=
  scanLines_break List.not_mem_nil rest

section Reading

variable {α : Type} (handle : Nat → List Char → α) (count : Nat)

-- An event with an id and one line of data, and whatever follows it.
theorem consumeLines_event {id json : List Char} (id_unbroken : '\r' ∉ id ∧ '\n' ∉ id)
    (json_unbroken : '\r' ∉ json ∧ '\n' ∉ json) (rest : List Char) :
    consumeLines handle count []
        (scanLines ("id: ".toList ++ id ++ '\n' :: ("data: ".toList ++ json ++ '\n' :: '\n' :: rest))) =
      if fits ("id: ".toList ++ id) = true ∧ fits ("data: ".toList ++ json) = true then
        handle count (' ' :: json) :: consumeLines handle (count + 1) [] (scanLines rest)
      else [] := by
  have id_line : '\r' ∉ "id: ".toList ++ id ∧ '\n' ∉ "id: ".toList ++ id := by
    simpa using id_unbroken
  have data_line : '\r' ∉ "data: ".toList ++ json ∧ '\n' ∉ "data: ".toList ++ json := by
    simpa using json_unbroken
  rw [scanLines_break id_line.2, scanLines_break data_line.2, scanLines_blank,
    dropCR_eq id_line.1, dropCR_eq data_line.1]
  by_cases first : fits ("id: ".toList ++ id) = true
  · by_cases second : fits ("data: ".toList ++ json) = true
    · rw [if_pos first, if_pos second, if_pos ⟨first, second⟩]
      simp [consumeLines, List.intercalate]
    · rw [if_pos first, if_neg second, if_neg fun both => second both.2]
      simp [consumeLines]
  · rw [if_neg first, if_neg fun both => first both.1]
    rfl

theorem consumeLines_comment (rest : List Char) :
    consumeLines handle count [] (scanLines (':' :: '\n' :: '\n' :: rest)) =
      consumeLines handle count [] (scanLines rest) := by
  have comment : scanLines (':' :: '\n' :: '\n' :: rest) = [':'] :: scanLines ('\n' :: rest) :=
    scanLines_break (show '\n' ∉ [':'] by decide) ('\n' :: rest)
  rw [comment, scanLines_blank]
  simp [consumeLines]

end Reading

end SystemScale.Sdk.Go
