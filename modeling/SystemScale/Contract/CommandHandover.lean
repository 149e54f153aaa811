import SystemScale.Agent.CommandStream
import SystemScale.Contract.CommandContent
import SystemScale.Sdk.GoReceiver

set_option autoImplicit false

/-!
# Commands on the agent's stream

A command that the agent broadcasts is followed through its event to the Go SDK's two readers.
-/

namespace SystemScale.Contract

open Agent
open AdapterTrait (CommandEnvelope)
open Cloud (convertible convertibleItems convertibleFields decodeGoString foldEqual foldRune goReader)
open Json (Value)
open Sdk.Go

/-! ## Numbers -/

/-- Every number that serde_json keeps is a 64-bit integer or a finite double. -/
def Representable (number : Json.Number → Option Json.Number) : Prop :=
  ∀ given kept, number given = some kept → (Binary.parseFloat kept.literal).isSome = true

theorem convertibleItems_iff (items : List Value) :
    convertibleItems items = true ↔ ∀ item ∈ items, convertible item = true := by
  induction items with
  | nil => simp [convertibleItems]
  | cons item rest ih => simp [convertibleItems, ih]

theorem convertibleFields_iff (fields : List (String × Value)) :
    convertibleFields fields = true ↔ ∀ field ∈ fields, convertible field.2 = true := by
  induction fields with
  | nil => simp [convertibleFields]
  | cons field rest ih => simp [convertibleFields, ih]

section Stream

variable {number : Json.Number → Option Json.Number} (representable : Representable number)
include representable

theorem convertible_serdeValue {nesting : Nat} {given kept : Value}
    (within : given.Within nesting) (read : serdeValue number given = some kept) :
    convertible kept = true := by
  induction nesting generalizing given kept with
  | zero =>
    cases given with
    | array items => exact within.elim
    | object fields => exact within.elim
    | number given =>
      obtain ⟨kept, found, rfl⟩ := Option.map_eq_some_iff.mp read
      exact representable given kept found
    | _ =>
      obtain rfl := Option.some.inj read
      rfl
  | succ nesting ih =>
    cases given with
    | array items =>
      obtain ⟨kept, inner, rfl⟩ := Option.map_eq_some_iff.mp read
      exact (convertibleItems_iff kept).mpr
        (serdeItems_forall inner fun item member _ one => ih (within item member) one)
    | object fields =>
      obtain ⟨kept, inner, rfl⟩ := Option.map_eq_some_iff.mp read
      exact (convertibleFields_iff kept).mpr (serdeFields_forall inner (by simp)
        fun field member _ one => ih (within field member) one)
    | number given =>
      obtain ⟨kept, found, rfl⟩ := Option.map_eq_some_iff.mp read
      exact representable given kept found
    | _ =>
      obtain rfl := Option.some.inj read
      rfl

theorem convertible_fromSlice {payload : List UInt8} {value : Value}
    (read : fromSlice number payload = some value) : convertible value = true := by
  obtain ⟨given, _, kept⟩ := Option.bind_eq_some_iff.mp read
  obtain ⟨nesting, within⟩ := given.exists_within
  exact convertible_serdeValue representable within kept

end Stream

/-! ## One event -/

section Event

variable (number : Json.Number → Option Json.Number)

/-- What the payload becomes in the event. -/
def sentData (cmd : CommandEnvelope) : Value :=
  (fromSlice number cmd.payload).getD (.string (hexEncode cmd.payload))

/-- The id has no break and no null character, and neither the id nor the data is too long for a
line of the SDK's scanner. -/
def carried (cmd : CommandEnvelope) : Bool :=
  decide ('\n' ∉ cmd.commandId.toList ∧ '\r' ∉ cmd.commandId.toList ∧
    '\x00' ∉ cmd.commandId.toList) &&
  decide (bytesOf cmd.commandId.toList + 4 < 65536) &&
  decide (bytesOf (serdeStyle.quote cmd.commandId) + bytesOf ((sentData number cmd).write serdeStyle) +
    bytesOf (serdeStyle.quote (priorityStr cmd.priority)) + 58 < 65536)

/-- The payload is the JSON text of an object or of `null`. -/
def mapped (cmd : CommandEnvelope) : Bool :=
  match fromSlice number cmd.payload with
  | some (.object _) => true
  | some .null => true
  | _ => false

def sentEvent (cmd : CommandEnvelope) : CommandEvent :=
  { commandEvent cmd with data := sentData number cmd }

theorem sentEvent_within (cmd : CommandEnvelope) :
    (sentEvent number cmd).toJson.Within (127 + 1) := by
  have data : (sentData number cmd).Within 127 := by
    unfold sentData
    cases read : fromSlice number cmd.payload with
    | none => trivial
    | some value => exact fromSlice_within read
  intro field member
  simp only [List.mem_cons, List.not_mem_nil, or_false] at member
  rcases member with rfl | rfl | rfl | rfl
  · exact within_string _ _
  · exact within_string _ _
  · exact data
  · exact within_string _ _

theorem commandJson_unbroken (cmd : CommandEnvelope) :
    '\r' ∉ commandJson number cmd ∧ '\n' ∉ commandJson number cmd :=
  Printable.unbroken (Value.printable_write serdeStyle _ _ (sentEvent_within number cmd))

theorem unmarshal_event {set : Payload → String → Value → Option Payload}
    (cmd : CommandEnvelope) :
    unmarshal set (' ' :: commandJson number cmd) =
      [("id", .string cmd.commandId), ("command_type", .string "command"),
        ("data", sentData number cmd), ("priority", .string (priorityStr cmd.priority))].foldlM
        (fun payload field => set payload field.1 field.2) Payload.zero := by
  have deep : (sentEvent number cmd).toJson.Within goReader.nesting :=
    Value.within_mono (by decide) (sentEvent_within number cmd)
  have read := goReader.read_write serdeStyle _ deep
  have skipped : goReader.read (' ' :: commandJson number cmd) =
      goReader.read (commandJson number cmd) := rfl
  have same : commandJson number cmd = (sentEvent number cmd).toJson.write serdeStyle := rfl
  rw [unmarshal, skipped, same, read]
  rfl

theorem set_event (id priority : String) (data : Value) :
    [("id", .string id), ("command_type", .string "command"), ("data", data),
        ("priority", .string priority)].foldlM
        (fun payload field => Payload.set payload field.1 field.2) Payload.zero =
      (decodeMap [] data).map fun data => ⟨id, "command", "", data, priority⟩ := by
  simp [Payload.set, foldEqual, foldRune, decodeGoString, Payload.zero]
  cases decodeMap [] data <;> rfl

theorem setTyped_event (id priority : String) (data : Value) :
    [("id", .string id), ("command_type", .string "command"), ("data", data),
        ("priority", .string priority)].foldlM
        (fun payload field => Payload.setTyped payload field.1 field.2) Payload.zero =
      (decodeMap [] data).map fun data => ⟨id, "command", "", data, priority⟩ := by
  simp [Payload.setTyped, Payload.set, foldEqual, foldRune, decodeGoString, Payload.zero]
  cases decodeMap [] data <;> rfl

end Event

section Handover

variable {number : Json.Number → Option Json.Number} (representable : Representable number)
include representable

theorem decodeMap_data (cmd : CommandEnvelope) :
    (∃ data, decodeMap [] (sentData number cmd) = some data) ↔ mapped number cmd = true := by
  simp only [sentData, mapped]
  cases read : fromSlice number cmd.payload with
  | none => simp [decodeMap]
  | some value =>
    have numbers := convertible_fromSlice representable read
    cases value with
    | object fields =>
      have all : convertibleFields fields = true := numbers
      simp [decodeMap, all]
    | _ => simp [decodeMap]

section Events

variable (state : State) {cmd : CommandEnvelope}

-- A reader that serves what it can decode serves the commands whose data is mapped.
theorem served_mapped {reaction : Reaction}
    (taken : ∀ data, decodeMap [] (sentData number cmd) = some data →
      reaction.served = some cmd.commandId)
    (broken : decodeMap [] (sentData number cmd) = none → reaction.served = none) :
    reaction.served = if mapped number cmd then some cmd.commandId else none := by
  have readable := decodeMap_data representable cmd
  cases made : decodeMap [] (sentData number cmd) with
  | none =>
    rw [if_neg fun shape => by simpa [made] using readable.mpr shape]
    exact broken made
  | some data =>
    rw [if_pos (readable.mp ⟨data, made⟩)]
    exact taken data made

variable (named : cmd.commandId ≠ "")
include named

theorem client_serves :
    (Client.handleSSEEvent state (' ' :: commandJson number cmd)).served =
      if mapped number cmd then some cmd.commandId else none := by
  rw [Client.handleSSEEvent, unmarshal_event, set_event]
  refine served_mapped representable (fun data made => ?_) fun none => ?_
  · simp [made, named]
  · rw [none]
    rfl

theorem messageReceiver_serves :
    (MessageReceiver.handleEvent state (' ' :: commandJson number cmd)).served =
      if mapped number cmd then some cmd.commandId else none := by
  rw [MessageReceiver.handleEvent, unmarshal_event, setTyped_event]
  refine served_mapped representable (fun data made => ?_) fun none => ?_
  · simp [made, named]
  · rw [none]
    rfl

end Events

end Handover

/-! ## The whole stream -/

section Stream

variable (number : Json.Number → Option Json.Number)

theorem sseEvent_cases (cmd : CommandEnvelope) :
    sseEvent number cmd =
      if '\n' ∉ cmd.commandId.toList ∧ '\r' ∉ cmd.commandId.toList ∧
          '\x00' ∉ cmd.commandId.toList then
        some ("id: ".toList ++ cmd.commandId.toList ++
          '\n' :: ("data: ".toList ++ commandJson number cmd ++ ['\n', '\n']))
      else none := by
  have unbroken := commandJson_unbroken number cmd
  have data : sseField "data" (commandJson number cmd) =
      some ("data: ".toList ++ commandJson number cmd ++ ['\n']) := by
    simp [sseField, unbroken]
  rw [sseEvent, data]
  by_cases null : '\x00' ∈ cmd.commandId.toList
  · rw [if_pos null, if_neg fun plain => plain.2.2 null]
    rfl
  · by_cases broken : '\n' ∈ cmd.commandId.toList ∨ '\r' ∈ cmd.commandId.toList
    · rw [if_neg null, sseField, if_pos broken, if_neg fun plain => broken.elim plain.1 plain.2.1]
      rfl
    · rw [if_neg null, sseField, if_neg broken, if_pos ⟨fun there => broken (.inl there), fun there => broken (.inr there), null⟩]
      simp

theorem bytesOf_commandJson (cmd : CommandEnvelope) :
    bytesOf (commandJson number cmd) = bytesOf (serdeStyle.quote cmd.commandId) +
      bytesOf ((sentData number cmd).write serdeStyle) +
      bytesOf (serdeStyle.quote (priorityStr cmd.priority)) + 52 := by
  have written : commandJson number cmd =
      '{' :: "\"id\":".toList ++ serdeStyle.quote cmd.commandId ++
      ",\"command_type\":\"command\",\"data\":".toList ++ (sentData number cmd).write serdeStyle ++
      ",\"priority\":".toList ++ serdeStyle.quote (priorityStr cmd.priority) ++ ['}'] := by
    have same : commandJson number cmd = (sentEvent number cmd).toJson.write serdeStyle := rfl
    have space : serdeStyle.space = [] := rfl
    have id : serdeStyle.quote "id" = "\"id\"".toList := by decide
    have type : serdeStyle.quote "command_type" = "\"command_type\"".toList := by decide
    have command : serdeStyle.quote "command" = "\"command\"".toList := by decide
    have data : serdeStyle.quote "data" = "\"data\"".toList := by decide
    have priority : serdeStyle.quote "priority" = "\"priority\"".toList := by decide
    rw [same]
    simp [CommandEvent.toJson, sentEvent, commandEvent, Value.write, Json.writeFields,
      Json.Style.separate, id, type, command, data, priority, space]
  have open_brace : bytesOf ('{' :: "\"id\":".toList) = 6 := by decide
  have middle : bytesOf ",\"command_type\":\"command\",\"data\":".toList = 33 := by decide
  have last : bytesOf ",\"priority\":".toList = 12 := by decide
  have close : bytesOf ['}'] = 1 := by decide
  simp only [written, bytesOf_append, open_brace, middle, last, close]
  omega

theorem carried_iff {cmd : CommandEnvelope} :
    carried number cmd = true ↔
      ('\n' ∉ cmd.commandId.toList ∧ '\r' ∉ cmd.commandId.toList ∧
        '\x00' ∉ cmd.commandId.toList) ∧
      fits ("id: ".toList ++ cmd.commandId.toList) = true ∧
      fits ("data: ".toList ++ commandJson number cmd) = true := by
  have id : bytesOf "id: ".toList = 4 := by decide
  have data : bytesOf "data: ".toList = 6 := by decide
  simp only [carried, fits, maxScanTokenSize, Bool.and_eq_true, decide_eq_true_eq, and_assoc,
    bytesOf_append, id, data, bytesOf_commandJson]
  constructor
  · rintro ⟨newline, carriage, null, short, whole⟩
    exact ⟨newline, carriage, null, by omega, by omega⟩
  · rintro ⟨newline, carriage, null, short, whole⟩
    exact ⟨newline, carriage, null, by omega, by omega⟩

-- A command's event is handled, or the stream ends with it.
theorem consumeLines_command {α : Type} (handle : Nat → List Char → α) (count : Nat)
    (cmd : CommandEnvelope) (rest : List Streamed) :
    consumeLines handle count [] (scanLines (commandStream number (.command cmd :: rest))) =
      if carried number cmd then
        handle count (' ' :: commandJson number cmd) ::
          consumeLines handle (count + 1) [] (scanLines (commandStream number rest))
      else [] := by
  rw [commandStream, sseEvent_cases]
  by_cases plain : '\n' ∉ cmd.commandId.toList ∧ '\r' ∉ cmd.commandId.toList ∧
      '\x00' ∉ cmd.commandId.toList
  · have event := consumeLines_event handle count ⟨plain.2.1, plain.1⟩
      (commandJson_unbroken number cmd) (commandStream number rest)
    have lines : "id: ".toList ++ cmd.commandId.toList ++
        '\n' :: ("data: ".toList ++ commandJson number cmd ++ ['\n', '\n']) ++
          commandStream number rest =
        "id: ".toList ++ cmd.commandId.toList ++
          '\n' :: ("data: ".toList ++ commandJson number cmd ++
            '\n' :: '\n' :: commandStream number rest) := by
      simp only [List.append_assoc, List.cons_append, List.nil_append]
    simp only [if_pos plain, lines, event]
    by_cases held : fits ("id: ".toList ++ cmd.commandId.toList) = true ∧
        fits ("data: ".toList ++ commandJson number cmd) = true
    · rw [if_pos held, if_pos ((carried_iff number).mpr ⟨plain, held⟩)]
    · rw [if_neg held, if_neg fun whole => held ((carried_iff number).mp whole).2]
  · rw [if_neg plain, if_neg fun whole => plain ((carried_iff number).mp whole).1]
    rfl

-- Of the commands before the one that ends the stream, those with a map are served.
theorem served_commandStream {handle : Nat → List Char → Reaction}
    (serves : ∀ count cmd, cmd.commandId ≠ "" →
      (handle count (' ' :: commandJson number cmd)).served =
        if mapped number cmd then some cmd.commandId else none)
    (sent : List Streamed) (named : ∀ cmd ∈ commandsOf sent, cmd.commandId ≠ "") (count : Nat) :
    (consumeLines handle count [] (scanLines (commandStream number sent))).filterMap Reaction.served =
      (((commandsOf sent).takeWhile (carried number)).filter (mapped number)).map
        CommandEnvelope.commandId := by
  induction sent generalizing count with
  | nil => rfl
  | cons first rest ih =>
    cases first with
    | keepAlive =>
      rw [commandStream, consumeLines_comment]
      exact ih named count
    | command cmd =>
      have split : commandsOf (.command cmd :: rest) = cmd :: commandsOf rest := rfl
      rw [split] at named ⊢
      obtain ⟨first, later⟩ := List.forall_mem_cons.mp named
      rw [consumeLines_command]
      by_cases whole : carried number cmd = true
      · rw [if_pos whole, List.filterMap_cons, serves count cmd first, ih later,
          List.takeWhile_cons_of_pos whole, List.filter_cons]
        split_ifs <;> rfl
      · rw [if_neg whole, List.takeWhile_cons_of_neg whole]
        rfl

theorem filter_takeWhile_eq_iff {α β : Type} (ends keeps : α → Bool) (name : α → β) (items : List α) :
    ((items.takeWhile ends).filter keeps).map name = items.map name ↔
      ∀ item ∈ items, ends item = true ∧ keeps item = true := by
  constructor
  · intro same
    have whole : (items.takeWhile ends).filter keeps = items := by
      have kept : ((items.takeWhile ends).filter keeps).Sublist items :=
        List.filter_sublist.trans (List.takeWhile_sublist ends)
      exact kept.eq_of_length (by simpa using congrArg List.length same)
    intro item member
    rw [← whole] at member
    obtain ⟨early, keep⟩ := List.mem_filter.mp member
    exact ⟨List.mem_takeWhile_imp early, keep⟩
  · intro all
    rw [List.takeWhile_eq_self_iff.mpr fun item member => (all item member).1,
      List.filter_eq_self.mpr fun item member => (all item member).2]

/-- Either reader serves every command of the stream just when each is carried and has a map. -/
theorem commands_served_iff (representable : Representable number) (state : Nat → State)
    (sent : List Streamed) (named : ∀ cmd ∈ commandsOf sent, cmd.commandId ≠ "") :
    ((Client.consumeSSE state (commandStream number sent)).filterMap Reaction.served =
        (commandsOf sent).map CommandEnvelope.commandId ↔
      ∀ cmd ∈ commandsOf sent, carried number cmd = true ∧ mapped number cmd = true) ∧
    ((MessageReceiver.consumeSSE state (commandStream number sent)).filterMap Reaction.served =
        (commandsOf sent).map CommandEnvelope.commandId ↔
      ∀ cmd ∈ commandsOf sent, carried number cmd = true ∧ mapped number cmd = true) := by
  have client := served_commandStream number
    (fun count cmd named => client_serves representable (state count) named) sent named 0
  have receiver := served_commandStream number
    (fun count cmd named => messageReceiver_serves representable (state count) named)
    sent named 0
  rw [Client.consumeSSE, MessageReceiver.consumeSSE, client, receiver]
  exact ⟨filter_takeWhile_eq_iff _ _ _ _, filter_takeWhile_eq_iff _ _ _ _⟩

end Stream

/-! ## Two commands -/

/-- Numbers as they came, if there is a double for them. Integers are kept like this. -/
def asWritten (given : Json.Number) : Option Json.Number :=
  if (Binary.parseFloat given.literal).isSome then some given else none

theorem asWritten_representable : Representable asWritten := by
  intro given kept found
  unfold asWritten at found
  split_ifs at found with double
  obtain rfl := Option.some.inj found
  exact double

def commandWith (value : Value) : CommandEnvelope :=
  ⟨"drone-001", "c1", Utf8.encode (String.ofList (value.write serdeStyle)), .normal, 0⟩

theorem fromSlice_commandWith (number : Json.Number → Option Json.Number) (value : Value)
    (within : value.Within 127) :
    fromSlice number (commandWith value).payload = serdeValue number value := by
  have read := serdeReader.read_write serdeStyle value within
  simp only [fromSlice, commandWith, serdeFromSlice, Utf8.strict_encode, Option.bind_eq_bind,
    Option.bind_some, String.toList_ofList, read]

def goHome : Value := .object [("mode", .string "home")]

/-- No handler, and a queue with room. -/
def idle (_count : Nat) : State := ⟨[], false, true⟩

theorem goHome_served :
    (Client.consumeSSE idle (commandStream asWritten
      [.keepAlive, .command (commandWith goHome)])).filterMap Reaction.served = ["c1"] ∧
    (MessageReceiver.consumeSSE idle (commandStream asWritten
      [.keepAlive, .command (commandWith goHome)])).filterMap Reaction.served = ["c1"] := by
  have read := fromSlice_commandWith asWritten goHome (by
    intro field member
    obtain rfl := List.mem_singleton.mp member
    trivial)
  have named : ∀ cmd ∈ commandsOf [.keepAlive, .command (commandWith goHome)], cmd.commandId ≠ "" := by
    intro cmd member
    obtain rfl := List.mem_singleton.mp member
    decide
  have served := commands_served_iff asWritten asWritten_representable idle _ named
  have each : ∀ cmd ∈ commandsOf [.keepAlive, .command (commandWith goHome)],
      carried asWritten cmd = true ∧ mapped asWritten cmd = true := by
    intro cmd member
    obtain rfl := List.mem_singleton.mp member
    constructor
    · rw [carried_iff]
      refine ⟨by decide, by decide, ?_⟩
      rw [commandJson, read]
      decide
    · rw [mapped, read]
      rfl
  exact ⟨served.1.mpr each, served.2.mpr each⟩

def publishedWith (value : Value) : Cloud.CommandEnvelope where
  vehicleID := Utf8.encode "drone-001"
  commandID := Utf8.encode "c1"
  payload := Utf8.encode (String.ofList (value.write serdeStyle))
  priority := 0
  issuerID := []
  issuedAt := 0
  ttlMs := 0

-- The frame is admitted and decoded, and the agent broadcasts what no reader of the SDK takes.
theorem array_dropped :
    (Cloud.encodeCommandEnvelope (publishedWith (.array []))).length ≤ 65536 ∧
    decodeCommandEnvelope (Cloud.encodeCommandEnvelope (publishedWith (.array []))) =
      .ok (commandWith (.array [])) ∧
    ∀ state : Nat → State,
      (Client.consumeSSE state
        (commandStream asWritten [.command (commandWith (.array []))])).filterMap Reaction.served ≠
          ["c1"] ∧
      (MessageReceiver.consumeSSE state
        (commandStream asWritten [.command (commandWith (.array []))])).filterMap Reaction.served ≠
          ["c1"] := by
  have size := Cloud.length_encodeCommandEnvelope_le (publishedWith (.array []))
  have short : (Cloud.encodeCommandEnvelope (publishedWith (.array []))).length ≤ 65536 :=
    size.trans (by decide)
  refine ⟨short, ?_, fun state => ?_⟩
  · exact decodeCommandEnvelope_encodeCommandEnvelope (publishedWith (.array [])) rfl rfl
      (by decide) (by decide) (lt_of_le_of_lt short (by decide))
  · have read := fromSlice_commandWith asWritten (.array []) (by simp [Value.Within])
    have unmapped : mapped asWritten (commandWith (.array [])) = false := by
      rw [mapped, read]
      rfl
    have named : ∀ cmd ∈ commandsOf [.command (commandWith (.array []))], cmd.commandId ≠ "" := by
      intro cmd member
      obtain rfl := List.mem_singleton.mp member
      decide
    have nothing : (((commandsOf [.command (commandWith (.array []))]).takeWhile
        (carried asWritten)).filter (mapped asWritten)).map CommandEnvelope.commandId = [] := by
      rw [List.map_eq_nil_iff, List.filter_eq_nil_iff]
      intro cmd member
      obtain rfl := List.mem_singleton.mp ((List.takeWhile_subset _) member)
      simp [unmapped]
    have client := served_commandStream asWritten (fun count cmd named =>
      client_serves asWritten_representable (state count) named) _ named 0
    have receiver := served_commandStream asWritten (fun count cmd named =>
      messageReceiver_serves asWritten_representable (state count) named) _ named 0
    rw [Client.consumeSSE, MessageReceiver.consumeSSE, client, receiver, nothing]
    exact ⟨by decide, by decide⟩

end SystemScale.Contract
