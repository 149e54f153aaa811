import SystemScale.Agent.LocalApi

set_option autoImplicit false

/-!
# The agent's stream of commands

What a subscriber of `handle_commands_sse` is sent, to the byte: serde_json writes the payload anew,
with its keys in order and each number in its own form.
-/

namespace SystemScale.Agent

open AdapterTrait
open Json (Value)

/-! ## serde_json::Value -/

section Serde

-- How the JSON library keeps a number and writes it again, where it has room for it.
variable (number : Json.Number → Option Json.Number)

mutual

def serdeValue : Value → Option Value
  | .number given => (number given).map .number
  | .array items => (serdeItems items).map .array
  | .object fields => (serdeFields [] fields).map .object
  | .null => some .null
  | .bool value => some (.bool value)
  | .string text => some (.string text)

def serdeItems : List Value → Option (List Value)
  | [] => some []
  | item :: rest => do
    let item ← serdeValue item
    let rest ← serdeItems rest
    some (item :: rest)

def serdeFields (made : List (String × Value)) :
    List (String × Value) → Option (List (String × Value))
  | [] => some made
  | (key, value) :: rest => do
    let value ← serdeValue value
    serdeFields (mapInsert key value made) rest

end

/-- `serde_json::from_slice`, as a value to be written again. -/
def fromSlice (payload : List UInt8) : Option Value := do
  let value ← serdeFromSlice payload
  serdeValue number value

/-! ## The stream -/

def commandJson (cmd : CommandEnvelope) : List Char :=
  let data := (fromSlice number cmd.payload).getD (.string (hexEncode cmd.payload))
  CommandEvent.toJson { commandEvent cmd with data := data } |>.write serdeStyle

def sseEvent (cmd : CommandEnvelope) : Option (List Char) := do
  let id ← if '\x00' ∈ cmd.commandId.toList then none else sseField "id" cmd.commandId.toList
  let data ← sseField "data" (commandJson number cmd)
  some (id ++ data ++ ['\n'])

inductive Streamed where
  | command (cmd : CommandEnvelope)
  -- A comment, when nothing was sent for a while.
  | keepAlive

/-- All that a subscriber is sent. The panic of one event ends it. -/
def commandStream : List Streamed → List Char
  | [] => []
  | .keepAlive :: rest => ':' :: '\n' :: '\n' :: commandStream rest
  | .command cmd :: rest =>
    match sseEvent number cmd with
    | some event => event ++ commandStream rest
    | none => []

def commandsOf (sent : List Streamed) : List CommandEnvelope :=
  sent.filterMap fun
    | .command cmd => some cmd
    | .keepAlive => none

-- A payload that is kept as it came makes the event of `handleCommandsSse`.
theorem sseEvent_eq_handleCommandsSse (cmd : CommandEnvelope)
    (kept : fromSlice number cmd.payload = serdeFromSlice cmd.payload) :
    sseEvent number cmd = handleCommandsSse cmd := by
  have json : commandJson number cmd = (commandEvent cmd).toJson.write serdeStyle := by
    rw [commandJson, kept]
    rfl
  rw [sseEvent, json, handleCommandsSse]

end Serde

/-! ## What serde_json keeps of a value -/

theorem mem_mapInsert {key : String} {value : Value} {fields : List (String × Value)}
    {field : String × Value} (member : field ∈ mapInsert key value fields) :
    field = (key, value) ∨ field ∈ fields := by
  simp only [mapInsert, List.mem_append, List.mem_cons] at member
  rcases member with before | same | after
  · exact .inr (List.mem_of_mem_filter ((List.takeWhile_subset _) before))
  · exact .inl same
  · exact .inr (List.mem_of_mem_filter ((List.dropWhile_subset _) after))

section Kept

variable {number : Json.Number → Option Json.Number} {P : Value → Prop}

theorem serdeItems_forall {items kept : List Value} (read : serdeItems number items = some kept)
    (each : ∀ item ∈ items, ∀ value, serdeValue number item = some value → P value) :
    ∀ value ∈ kept, P value := by
  induction items generalizing kept with
  | nil =>
    obtain rfl := Option.some.inj read
    simp
  | cons item rest ih =>
    rw [serdeItems] at read
    obtain ⟨value, first, read⟩ := Option.bind_eq_some_iff.mp read
    obtain ⟨others, later, read⟩ := Option.bind_eq_some_iff.mp read
    obtain rfl := Option.some.inj read
    exact List.forall_mem_cons.mpr ⟨each _ (by simp) _ first,
      ih later fun item member => each item (List.mem_cons_of_mem _ member)⟩

theorem serdeFields_forall {fields made kept : List (String × Value)}
    (read : serdeFields number made fields = some kept) (old : ∀ field ∈ made, P field.2)
    (each : ∀ field ∈ fields, ∀ value, serdeValue number field.2 = some value → P value) :
    ∀ field ∈ kept, P field.2 := by
  induction fields generalizing made kept with
  | nil =>
    obtain rfl := Option.some.inj read
    exact old
  | cons field rest ih =>
    obtain ⟨key, given⟩ := field
    rw [serdeFields] at read
    obtain ⟨value, first, read⟩ := Option.bind_eq_some_iff.mp read
    refine ih read ?_ fun field member => each field (List.mem_cons_of_mem _ member)
    intro field member
    rcases mem_mapInsert member with rfl | before
    · exact each (key, given) (by simp) value first
    · exact old field before

theorem serdeValue_within {nesting : Nat} {given kept : Value} (within : given.Within nesting)
    (read : serdeValue number given = some kept) : kept.Within nesting := by
  induction nesting generalizing given kept with
  | zero =>
    cases given with
    | array items => exact within.elim
    | object fields => exact within.elim
    | number given =>
      obtain ⟨kept, _, rfl⟩ := Option.map_eq_some_iff.mp read
      trivial
    | _ =>
      obtain rfl := Option.some.inj read
      trivial
  | succ nesting ih =>
    cases given with
    | array items =>
      obtain ⟨kept, inner, rfl⟩ := Option.map_eq_some_iff.mp read
      exact serdeItems_forall inner fun item member _ one => ih (within item member) one
    | object fields =>
      obtain ⟨kept, inner, rfl⟩ := Option.map_eq_some_iff.mp read
      exact serdeFields_forall inner (by simp) fun field member _ one =>
        ih (within field member) one
    | number given =>
      obtain ⟨kept, _, rfl⟩ := Option.map_eq_some_iff.mp read
      trivial
    | _ =>
      obtain rfl := Option.some.inj read
      trivial

-- No payload is read deeper than the library goes.
theorem fromSlice_within {payload : List UInt8} {value : Value}
    (read : fromSlice number payload = some value) : value.Within 127 := by
  obtain ⟨given, parsed, kept⟩ := Option.bind_eq_some_iff.mp read
  obtain ⟨text, _, parsed⟩ := Option.bind_eq_some_iff.mp parsed
  unfold Json.Reader.read at parsed
  split at parsed
  · next found rest made =>
    split_ifs at parsed
    obtain rfl := Option.some.inj parsed
    exact serdeValue_within (Json.readValue_within made) kept
  · simp at parsed

end Kept

end SystemScale.Agent
