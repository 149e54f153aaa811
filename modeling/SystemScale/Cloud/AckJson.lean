import SystemScale.Cloud.CommandService
import SystemScale.Lib.JsonPlaces

set_option autoImplicit false

/-!
# The event of an acknowledgment

`handleCommandStream` writes `json.Marshal` of the entry behind `data: `. A byte that is no UTF-8
becomes an escape of six characters.
-/

namespace SystemScale.Cloud

open Json (Body Number Value)

/-! ## json.Marshal -/

/-- The runes that `utf8.DecodeRuneInString` finds one after the other, `none` for a byte that
starts none. -/
def runesLoop : Nat → List Nat → List (Option Char)
  | 0, _ => []
  | _ + 1, [] => []
  | fuel + 1, lead :: following =>
    match Utf8.decodeOne lead following with
    | (some character, taken) => some character :: runesLoop fuel (following.drop taken)
    | (none, _) => none :: runesLoop fuel following

def runes (text : GoString) : List (Option Char) :=
  runesLoop text.length (text.map UInt8.toNat)

def escapeRune : Option Char → List Char
  | some c => goStyle.escape c
  | none => Json.unicode 0xFFFD

def quoteString (text : GoString) : List Char :=
  '"' :: ((runes text).flatMap escapeRune ++ ['"'])

def member (key : String) (text : List Char) : List Char := goStyle.quote key ++ ':' :: text

def AckEntry.marshal (entry : AckEntry) : List Char :=
  '{' :: goStyle.separate
    [member "command_id" (quoteString entry.commandID),
      member "vehicle_id" (quoteString entry.vehicleID),
      member "status" (quoteString (Utf8.encode entry.status)),
      member "message" (quoteString entry.message),
      member "latency_ms" (Nat.toDigits 10 entry.latencyMs.toNat)] ++ ['}']

def AckEntry.line (entry : AckEntry) : List Char := "data: ".toList ++ entry.marshal

-- The equation that Lean makes of the definition would evaluate the string.
theorem AckEntry.line_eq (entry : AckEntry) : entry.line = "data: ".toList ++ entry.marshal := rfl

def AckEntry.event (entry : AckEntry) : List Char := entry.line ++ ['\n', '\n']

/-! ## Strings -/

theorem runesLoop_codes (characters : List Char) (fuel : Nat)
    (enough : (characters.flatMap Utf8.codes).length ≤ fuel) :
    runesLoop fuel (characters.flatMap Utf8.codes) = characters.map some := by
  induction characters generalizing fuel with
  | nil => cases fuel <;> rfl
  | cons character rest ih =>
    obtain ⟨lead, following, split, decoded⟩ := Utf8.decodeOne_codes character
    simp only [List.flatMap_cons, split, List.cons_append, List.length_cons,
      List.length_append] at enough ⊢
    obtain ⟨fuel, rfl⟩ : ∃ less, fuel = less + 1 := ⟨fuel - 1, by omega⟩
    rw [runesLoop, decoded]
    simp only [List.drop_left, ih fuel (by omega), List.map_cons]

theorem runes_encode (text : String) : runes (Utf8.encode text) = text.toList.map some := by
  have mapped := Utf8.map_encode text
  have sized : (Utf8.encode text).length = (text.toList.flatMap Utf8.codes).length := by
    rw [← mapped, List.length_map]
  rw [runes, mapped, sized, runesLoop_codes _ _ (Nat.le_refl _)]

theorem length_runesLoop (fuel : Nat) (bytes : List Nat) : (runesLoop fuel bytes).length ≤ fuel := by
  induction fuel generalizing bytes with
  | zero => exact Nat.le_refl _
  | succ fuel ih =>
    cases bytes with
    | nil => exact Nat.zero_le _
    | cons lead following =>
      rw [runesLoop]
      split <;> exact Nat.succ_le_succ (ih _)

/-- The string that a reader makes of it. -/
def heard (text : GoString) : String :=
  String.ofList ((runes text).map fun rune => rune.getD '\uFFFD')

theorem heard_encode (text : String) : heard (Utf8.encode text) = text := by
  simp [heard, runes_encode, Function.comp_def]

theorem readChar_rune (lone : Option Char) (rune : Option Char) (rest : List Char) :
    Json.readChar lone (escapeRune rune ++ rest) = some (rune.getD '\uFFFD', rest) := by
  cases rune with
  | some c => exact goStyle.readChar_escape lone c rest
  | none =>
    rw [escapeRune, Json.readChar_unicode]
    exact Json.readUnicode_basic lone '\uFFFD' (by decide) rest

theorem readString_quoted (lone : Option Char) (text : GoString) (rest : List Char) :
    Json.readString lone ((runes text).flatMap escapeRune ++ '"' :: rest) =
      some (heard text, rest) :=
  Json.readString_written (readChar_rune lone) (runes text) rest

theorem body_rune (rune : Option Char) : Body (escapeRune rune) := by
  cases rune with
  | some c => exact goStyle.body_escape c
  | none => exact .unicode (by decide)

/-! ## The object -/

theorem readValue_quoted (lone : Option Char) (nesting : Nat) (text : GoString)
    (rest : List Char) :
    Json.readValue lone nesting (quoteString text ++ rest) = some (.string (heard text), rest) := by
  have read := readString_quoted lone text rest
  have scalar : Json.readScalar lone (quoteString text ++ rest) =
      some (.string (heard text), rest) := by
    rw [quoteString, List.cons_append, List.append_assoc, List.singleton_append, Json.readScalar,
      read]
    rfl
  cases nesting with
  | zero => exact scalar
  | succ nesting =>
    rw [← scalar, quoteString, List.cons_append, Json.readValue]
    · exact fun more same => absurd (List.cons.inj same).1 (by decide)
    · exact fun more same => absurd (List.cons.inj same).1 (by decide)

theorem reads_member (lone : Option Char) {read : List Char → Option (Value × List Char)}
    {key : String} {value : Value} {text : List Char}
    (solid : ∀ rest, Json.skip (text ++ rest) = text ++ rest)
    (back : ∀ rest, Json.Ends rest → read (text ++ rest) = some (value, rest)) :
    Json.Reads (Json.readField lone read) '}' (key, value) (member key text) where
  head := ⟨'"', _, rfl, by decide, by decide⟩
  back rest ends := by
    have colon : Json.blank ':' = false := by decide
    have named := goStyle.readString_escape lone key (':' :: (text ++ rest))
    simp only [member, Json.Style.quote, List.append_assoc, List.cons_append, List.nil_append,
      Json.readField, named, Option.bind_eq_bind, Option.bind_some, Json.skip_cons colon, solid,
      back rest ends]

/-- What is read of the event, with its members in the order of the struct. -/
def AckEntry.fields (entry : AckEntry) : List (String × Value) :=
  [("command_id", .string (heard entry.commandID)), ("vehicle_id", .string (heard entry.vehicleID)),
    ("status", .string entry.status), ("message", .string (heard entry.message)),
    ("latency_ms", .number (Number.ofInt entry.latencyMs.toNat))]

theorem reads_string (lone : Option Char) (nesting : Nat) (key : String) (text : GoString) :
    Json.Reads (Json.readField lone (Json.readValue lone nesting)) '}'
      (key, .string (heard text)) (member key (quoteString text)) :=
  reads_member lone (fun rest => Json.skip_cons (by decide) _)
    fun rest _ => readValue_quoted lone nesting text rest

theorem reads_number (lone : Option Char) (nesting : Nat) (key : String) (number : Nat) :
    Json.Reads (Json.readField lone (Json.readValue lone nesting)) '}'
      (key, .number (Number.ofInt number)) (member key (Nat.toDigits 10 number)) := by
  have literal : (Number.ofInt number).literal = Nat.toDigits 10 number := rfl
  refine reads_member lone ?_ fun rest ends => ?_
  · intro rest
    have numeric := (Number.ofInt number).spelled
    rw [literal] at numeric
    cases digits : Nat.toDigits 10 number with
    | nil => exact absurd (literal.trans digits) (Number.ofInt number).literal_ne_nil
    | cons c tail =>
      rw [digits] at numeric
      exact Json.skip_cons (Json.numeric_start (List.all_eq_true.mp numeric c (by simp))).1 _
  · exact Json.readValue_literal lone nesting (Number.ofInt number) ends

/-- The members with their texts. -/
def AckEntry.members (entry : AckEntry) : List ((String × Value) × List Char) :=
  [(("command_id", .string (heard entry.commandID)),
      member "command_id" (quoteString entry.commandID)),
    (("vehicle_id", .string (heard entry.vehicleID)),
      member "vehicle_id" (quoteString entry.vehicleID)),
    (("status", .string entry.status), member "status" (quoteString (Utf8.encode entry.status))),
    (("message", .string (heard entry.message)), member "message" (quoteString entry.message)),
    (("latency_ms", .number (Number.ofInt entry.latencyMs.toNat)),
      member "latency_ms" (Nat.toDigits 10 entry.latencyMs.toNat))]

theorem AckEntry.read_marshal (entry : AckEntry) {reader : Json.Reader}
    (deep : 1 ≤ reader.nesting) : reader.read entry.marshal = some (.object entry.fields) := by
  obtain ⟨nesting, is⟩ : ∃ less, reader.nesting = less + 1 := ⟨reader.nesting - 1, by omega⟩
  have status := reads_string reader.lone nesting "status" (Utf8.encode entry.status)
  rw [heard_encode] at status
  have each : ∀ item ∈ entry.members, Json.Reads
      (Json.readField reader.lone (Json.readValue reader.lone nesting)) '}' item.1 item.2 := by
    simp only [AckEntry.members, List.forall_mem_cons]
    exact ⟨reads_string reader.lone nesting _ _, reads_string reader.lone nesting _ _, status,
      reads_string reader.lone nesting _ _, reads_number reader.lone nesting _ _, by simp⟩
  have inner := goStyle.readMembers_separated (by decide) (by decide) (by decide)
    entry.members each []
  have text : entry.marshal =
      '{' :: (goStyle.separate (entry.members.map Prod.snd) ++ ['}']) := rfl
  have value : Json.readValue reader.lone reader.nesting entry.marshal =
      some (.object entry.fields, []) := by
    rw [is, text, Json.readValue, inner]
    rfl
  have solid : Json.skip entry.marshal = entry.marshal := Json.skip_cons (by decide) _
  rw [Json.Reader.read, solid, value]
  rfl

/-! ## The text -/

def AckEntry.digits (entry : AckEntry) : List Char := Nat.toDigits 10 entry.latencyMs.toNat

def inString (text : GoString) : List Char := (runes text).flatMap escapeRune

/-- A key whose value is a string, up to the string. -/
def opening (key : String) : List Char := goStyle.quote key ++ [':', '"']

/-- All behind the first brace, with the ends of the strings set off, up to `rest`. -/
def AckEntry.inner (entry : AckEntry) (rest : List Char) : List Char :=
  opening "command_id" ++ (inString entry.commandID ++ '"' ::
    (',' :: opening "vehicle_id" ++ (inString entry.vehicleID ++ '"' ::
      (',' :: opening "status" ++ (inString (Utf8.encode entry.status) ++ '"' ::
        (',' :: opening "message" ++ (inString entry.message ++ '"' ::
          (',' :: goStyle.quote "latency_ms" ++ [':'] ++ (entry.digits ++ rest)))))))))

theorem AckEntry.inner_append (entry : AckEntry) (rest more : List Char) :
    entry.inner (rest ++ more) = entry.inner rest ++ more := by
  simp only [AckEntry.inner, List.append_assoc, List.cons_append]

theorem AckEntry.marshal_inner (entry : AckEntry) : entry.marshal = '{' :: entry.inner ['}'] := by
  have space : goStyle.space = [] := rfl
  simp only [AckEntry.marshal, AckEntry.inner, opening, Json.Style.separate, member, quoteString,
    inString, AckEntry.digits, space, List.append_assoc, List.cons_append, List.nil_append]

theorem digits_plain (entry : AckEntry) : ∀ c ∈ entry.digits, Json.numeric c = true := by
  intro c inside
  simp [Json.numeric, Json.isDigit_toDigits _ c inside]

theorem body_inString (text : GoString) : Body (inString text) := .flatMap body_rune (runes text)

-- The brace behind the digits is the first to close the first one.
theorem AckEntry.inner_stays (entry : AckEntry) :
    Json.Place.stays ⟨1, .outside⟩ (entry.inner []) = true := by
  refine Json.Place.stays_string (by decide) (by decide) (body_inString _) ?_
  refine Json.Place.stays_string (by decide) (by decide) (body_inString _) ?_
  refine Json.Place.stays_string (by decide) (by decide) (body_inString _) ?_
  refine Json.Place.stays_string (by decide) (by decide) (body_inString _) ?_
  rw [List.append_nil]
  exact Json.Place.stays_append (by decide) (Json.Place.stays_numeric (digits_plain entry))

/-- The end of a string's value and the next key, which no colon follows. -/
def NextKey (rest : List Char) : Prop :=
  ∃ c more, rest = ',' :: '"' :: c :: more ∧ c ≠ ':' ∧ Json.blank c = false

theorem AckEntry.inner_guarded (entry : AckEntry) {rest : List Char} (closed : '"' ∉ rest) :
    Json.Guarded NextKey (entry.inner rest) := by
  have last : Json.Guarded NextKey (entry.digits ++ rest) := by
    intro front behind split
    have inside : '"' ∈ entry.digits ++ rest := by
      rw [split]
      simp
    rcases List.mem_append.mp inside with digit | other
    · exact absurd (digits_plain entry _ digit) (by decide)
    · exact absurd other closed
  refine .behind (by decide) (.body (body_inString _) ⟨'v', _, rfl, by decide, by decide⟩ ?_)
  refine .behind (by decide) (.body (body_inString _) ⟨'s', _, rfl, by decide, by decide⟩ ?_)
  refine .behind (by decide) (.body (body_inString _) ⟨'m', _, rfl, by decide, by decide⟩ ?_)
  refine .behind (by decide) (.body (body_inString _) ⟨'l', _, rfl, by decide, by decide⟩ ?_)
  exact .behind (by decide) last

theorem printable_inString (text : GoString) : Json.Printable (inString text) := by
  intro c inside
  obtain ⟨rune, _, member⟩ := List.mem_flatMap.mp inside
  cases rune with
  | some other => exact goStyle.printable_escape other c member
  | none => exact Json.printable_unicode (by decide) c member

theorem AckEntry.line_printable (entry : AckEntry) : Json.Printable entry.line := by
  have digits : Json.Printable entry.digits := fun c inside =>
    Json.printable_numeric (digits_plain entry c inside)
  rw [entry.line_eq, entry.marshal_inner]
  simp only [AckEntry.inner, Json.printable_append, Json.printable_cons, printable_inString,
    digits, true_and]
  decide

end SystemScale.Cloud
