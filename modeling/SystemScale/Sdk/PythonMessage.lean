import Mathlib.Data.List.DropRight
import SystemScale.Lib.Decimal
import SystemScale.Lib.JsonLaws

set_option autoImplicit false

/-!
# The Python SDK's messages

`MessageSender` posts an operator's command, and `MessageReceiver` reads the agent's event stream
on the device.
-/

namespace SystemScale.Sdk

open Json (Value lookup)

/-! ## json -/

-- `ensure_ascii`, and blanks after both separators.
def pythonStyle : Json.Style where
  raw c := 0x20 ≤ c.toNat && c.toNat ≤ 0x7E
  space := [' ']
  printable c raw := by
    simp only [Bool.and_eq_true, decide_eq_true_eq] at raw
    exact raw.1
  gap c member := List.mem_singleton.mp member

-- Half a surrogate pair stays in a Python string; here it is replaced.
def pythonReader : Json.Reader := ⟨some '\uFFFD', 1000⟩

-- A number is false when it is read as one of the two zeros.
def truthy : Value → Bool
  | .null => false
  | .bool value => value
  | .number number => (Binary.parseFloat number.literal).all fun bits =>
      bits ≠ 0 && bits ≠ 0x8000000000000000
  | .string text => text ≠ ""
  | .array items => !items.isEmpty
  | .object fields => !fields.isEmpty

/-! ## MessageSender -/

def priorityInt (priority : String) : Int :=
  if priority = "normal" then 0
  else if priority = "high" then 1
  else if priority = "emergency" then 2
  else 0

theorem priorityInt_bounds (priority : String) :
    0 ≤ priorityInt priority ∧ priorityInt priority ≤ 2 := by
  unfold priorityInt
  split_ifs <;> decide

/-- `resolve` finds the id of the device with a name. -/
def vehicleOf (resolve : String → String) (target : Option String) : String :=
  match target with
  | some actor =>
    if "device:".toList.isPrefixOf actor.toList then
      resolve (String.ofList (actor.toList.drop 7))
    else ""
  | none => ""

/-- The body that `_send_command` posts. -/
def sendCommandBody (resolve : String → String) (commandType : String) (target : Option String)
    (_data : Option (List (String × Value))) (priority : String) (ttlMs : Int) : List Char :=
  Value.write pythonStyle
    (.object [("vehicle_id", .string (vehicleOf resolve target)), ("command_type", .string commandType),
      ("priority", .number (.ofInt (priorityInt priority))),
      ("ttl_ms", .number (.ofInt ttlMs))])

/-! ## MessageReceiver -/

structure Command where
  id : Value
  type : Value
  data : Value
  priority : Value

/-- `str` is yet to be taken of `instruction`. -/
structure AssistanceResponse where
  approved : Bool
  instruction : Value
  requestId : Value

/-- What becomes of an event. One that `raised` ends the connection, and `malformed` ones are
passed over. -/
inductive Received where
  | command (cmd : Command)
  | assistance (response : AssistanceResponse)
  | malformed
  | raised

/-- `payload.get("data") or {}` -/
def eventData (payload : List (String × Value)) : Value :=
  match lookup "data" payload with
  | some data => if truthy data then data else .object []
  | none => .object []

def hashable : Value → Bool
  | .array _ => false
  | .object _ => false
  | _ => true

def dispatchAssistance (payload : List (String × Value)) : Received :=
  let data :=
    match eventData payload with
    | .string text => pythonReader.read text.toList
    | data => some data
  match data with
  | some (.object data) =>
    let requestId := (lookup "_request_id" data).getD (.string "")
    if hashable requestId then
      .assistance
        { approved := truthy ((lookup "approved" data).getD (.bool false))
          instruction := (lookup "instruction" data).getD (.string "")
          requestId := requestId }
    else .malformed
  | _ => .malformed

def commandType (payload : List (String × Value)) : Value :=
  match lookup "command_type" payload with
  | some cmd_type => cmd_type
  | none => (lookup "type" payload).getD (.string "unknown")

def isAssistanceResponse : Value → Bool
  | .string text => text = "_assistance_response"
  | _ => false

def dispatch (payload : List (String × Value)) : Received :=
  if isAssistanceResponse (commandType payload) then dispatchAssistance payload
  else
    let data :=
      match eventData payload with
      | .string text => (pythonReader.read text.toList).getD (.object [])
      | data => data
    match lookup "id" payload with
    | none => .malformed
    | some id =>
      .command
        { id := id
          type := commandType payload
          data := data
          priority := (lookup "priority" payload).getD (.string "normal") }

def receiveEvent (fullData : List Char) : Received :=
  match pythonReader.read fullData with
  | some (.object payload) => dispatch payload
  | some _ => .raised
  | none => .malformed

/-- The lines of a text, without the breaks that end them. -/
def lines : List Char → List (List Char)
  | [] => []
  | c :: rest =>
    if c = '\n' then [] :: lines rest
    else
      match lines rest with
      | [] => [[c]]
      | line :: others => (c :: line) :: others

def rstrip (line : List Char) : List Char := line.rdropWhile fun c => c = '\r' || c = '\n'

def isSpace (c : Char) : Bool :=
  c = ' ' || decide (0x09 ≤ c.toNat ∧ c.toNat ≤ 0x0D) ||
    decide (0x1C ≤ c.toNat ∧ c.toNat ≤ 0x1F) || c.toNat = 0x85 || c.toNat = 0xA0 ||
    c.toNat = 0x1680 || decide (0x2000 ≤ c.toNat ∧ c.toNat ≤ 0x200A) || c.toNat = 0x2028 ||
    c.toNat = 0x2029 || c.toNat = 0x202F || c.toNat = 0x205F || c.toNat = 0x3000

def lstrip (text : List Char) : List Char := text.dropWhile isSpace

def consumeLines : List (List Char) → List (List Char) → List (List Char)
  | _, [] => []
  | pending, rawLine :: rest =>
    let line := rstrip rawLine
    if "data:".toList.isPrefixOf line then
      consumeLines (pending ++ [lstrip (line.drop 5)]) rest
    else if line.isEmpty && !pending.isEmpty then
      ['\n'].intercalate pending :: consumeLines [] rest
    else consumeLines pending rest

def consumeSse (stream : List Char) : List Received :=
  (consumeLines [] (lines stream)).map receiveEvent

/-! ## Reading an event -/

theorem lines_break {line : List Char} (unbroken : '\n' ∉ line) (rest : List Char) :
    lines (line ++ '\n' :: rest) = line :: lines rest := by
  induction line with
  | nil => simp [lines]
  | cons c line ih =>
    obtain ⟨other, unbroken⟩ := List.ne_and_not_mem_of_not_mem_cons unbroken
    rw [List.cons_append, lines, if_neg other.symm, ih unbroken]

theorem rstrip_unbroken {line : List Char} (unbroken : '\r' ∉ line ∧ '\n' ∉ line) :
    rstrip line = line := by
  refine List.rdropWhile_eq_self_iff.mpr fun some_char last => ?_
  have among := List.getLast_mem some_char
  simp only [Bool.or_eq_true, decide_eq_true_eq] at last
  rcases last with last | last
  · exact unbroken.1 (last ▸ among)
  · exact unbroken.2 (last ▸ among)

-- One event with an id and one line of data.
theorem consumeSse_event {id json : List Char} (id_unbroken : '\r' ∉ id ∧ '\n' ∉ id)
    (json_unbroken : '\r' ∉ json ∧ '\n' ∉ json) {c : Char} {tail : List Char}
    (starts : json = c :: tail) (solid : isSpace c = false) :
    consumeSse ("id: ".toList ++ id ++ '\n' :: ("data: ".toList ++ json ++ '\n' :: ['\n'])) =
      [receiveEvent json] := by
  have id_line : '\r' ∉ "id: ".toList ++ id ∧ '\n' ∉ "id: ".toList ++ id := by
    simpa using id_unbroken
  have data_line : '\r' ∉ "data: ".toList ++ json ∧ '\n' ∉ "data: ".toList ++ json := by
    simpa using json_unbroken
  have stripped : lstrip (' ' :: json) = json := by
    rw [starts, lstrip, List.dropWhile_cons_of_pos (by decide)]
    simp [solid]
  have last : lines ['\n'] = [[]] := rfl
  rw [consumeSse, lines_break id_line.2, lines_break data_line.2, last]
  simp only [consumeLines, rstrip_unbroken id_line, rstrip_unbroken data_line]
  simp [stripped, rstrip, List.intercalate]

end SystemScale.Sdk
