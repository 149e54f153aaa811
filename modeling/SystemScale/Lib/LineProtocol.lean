import SystemScale.Lib.JsonLaws

set_option autoImplicit false

/-!
# InfluxDB lines

A line is a measurement with tags, fields and a time. In names and tag values a backslash escapes a
comma, an equals sign or a blank and stands for itself before anything else; in quoted strings it
escapes a quotation mark or another backslash.
-/

namespace LineProtocol

abbrev comma : UInt8 := 0x2C

abbrev equals : UInt8 := 0x3D

abbrev blank : UInt8 := 0x20

abbrev backslash : UInt8 := 0x5C

abbrev mark : UInt8 := 0x22

abbrev newline : UInt8 := 0x0A

abbrev Name := List UInt8

inductive FieldValue where
  | float (text : List Char)
  | integer (value : Int)
  | string (bytes : List UInt8)
  deriving DecidableEq

structure Row where
  measurement : Name
  tags : List (Name × List UInt8)
  fields : List (Name × FieldValue)
  time : Int
  deriving DecidableEq

def special (byte : UInt8) : Bool := byte = comma || byte = equals || byte = blank

/-! ## Reading -/

/-- The text up to the first special byte that no backslash escapes, and what follows it. -/
def scan : List UInt8 → List UInt8 × List UInt8
  | [] => ([], [])
  | [byte] => if special byte then ([], [byte]) else ([byte], [])
  | byte :: next :: rest =>
      if byte = backslash ∧ special next then
        let (text, rest) := scan rest
        (next :: text, rest)
      else if special byte then ([], byte :: next :: rest)
      else
        let (text, rest) := scan (next :: rest)
        (byte :: text, rest)

/-- A name and the equals sign after it. -/
def readName (data : List UInt8) : Option (Name × List UInt8) :=
  match scan data with
  | (name, byte :: rest) => if byte = equals ∧ name ≠ [] then some (name, rest) else none
  | (_, []) => none

/-- Tags, each after a comma, up to the blank before the fields. -/
def readTags : Nat → List UInt8 → Option (List (Name × List UInt8) × List UInt8)
  | 0, _ => none
  | _ + 1, [] => none
  | fuel + 1, byte :: data =>
      if byte = blank then some ([], data)
      else if byte = comma then do
        let (name, data) ← readName data
        let (value, data) := scan data
        if value = [] then none
        else
          let (tags, data) ← readTags fuel data
          some ((name, value) :: tags, data)
      else none

/-- The rest of a quoted string. -/
def readQuoted : List UInt8 → Option (List UInt8 × List UInt8)
  | [] => none
  | [byte] => if byte = mark then some ([], []) else none
  | byte :: next :: rest =>
      if byte = backslash then
        (readQuoted rest).map fun (text, rest) =>
          if next = mark ∨ next = backslash then (next :: text, rest)
          else (byte :: next :: text, rest)
      else if byte = mark then some ([], next :: rest)
      else (readQuoted (next :: rest)).map fun (text, rest) => (byte :: text, rest)

def chars (bytes : List UInt8) : List Char := bytes.map fun byte => Char.ofNat byte.toNat

def readInteger (text : List Char) : Option Int :=
  match text with
  | '-' :: digits => if Json.isDigits digits then some (-Nat.ofDigitChars 10 digits 0) else none
  | digits => if Json.isDigits digits then some (Nat.ofDigitChars 10 digits 0) else none

def isUnsignedFloat (text : List Char) : Bool :=
  !(text.takeWhile Char.isDigit).isEmpty && Json.isFraction (text.dropWhile Char.isDigit)

def isFloat : List Char → Bool
  | '-' :: text => isUnsignedFloat text
  | text => isUnsignedFloat text

/-- Floats, and integers of 64 bits with an `i` after them. -/
def readNumber (token : List UInt8) : Option FieldValue :=
  if token.getLast? = some 0x69 then
    match readInteger (chars token.dropLast) with
    | some value =>
        if -9223372036854775808 ≤ value ∧ value < 9223372036854775808 then some (.integer value)
        else none
    | none => none
  else if isFloat (chars token) then some (.float (chars token))
  else none

def ends (byte : UInt8) : Bool := byte = comma || byte = blank

def readValue (data : List UInt8) : Option (FieldValue × List UInt8) :=
  match data with
  | [] => none
  | byte :: rest =>
      if byte = mark then (readQuoted rest).map fun (text, rest) => (.string text, rest)
      else
        let token := data.takeWhile fun byte => !ends byte
        (readNumber token).map fun value => (value, data.drop token.length)

/-- Fields with commas between them, up to the blank before the time. -/
def readFields : Nat → List UInt8 → Option (List (Name × FieldValue) × List UInt8)
  | 0, _ => none
  | fuel + 1, data => do
      let (name, data) ← readName data
      let (value, data) ← readValue data
      match data with
      | byte :: data =>
          if byte = blank then some ([(name, value)], data)
          else if byte = comma then
            let (fields, data) ← readFields fuel data
            some ((name, value) :: fields, data)
          else none
      | [] => none

def readTime (data : List UInt8) : Option Int :=
  (readInteger (chars data)).filter fun time =>
    -9223372036854775806 ≤ time ∧ time ≤ 9223372036854775806

def readRow (data : List UInt8) : Option Row :=
  match scan data with
  | (measurement, data) =>
      if measurement = [] then none
      else do
        let (tags, data) ← readTags (data.length + 1) data
        let (fields, data) ← readFields (data.length + 1) data
        let time ← readTime data
        some ⟨measurement, tags, fields, time⟩

/-- The bytes are one line, which ends at the first line break, and it says this row. -/
def IsLine (data : List UInt8) (row : Row) : Prop := newline ∉ data ∧ readRow data = some row

/-! ## Escaped text -/

def escape (value : List UInt8) : List UInt8 :=
  value.flatMap fun byte => if special byte then [backslash, byte] else [byte]

/-- Names that need no escapes. -/
def Simple (name : Name) : Prop := name ≠ [] ∧ ∀ byte ∈ name, special byte = false ∧ byte ≠ backslash

instance (name : Name) : Decidable (Simple name) :=
  decidable_of_iff
    (name ≠ [] ∧ (name.all fun byte => !special byte && decide (byte ≠ backslash)) = true)
    (by simp [Simple])

/-- Values whose last byte is not a backslash, which would escape what comes after the value. -/
def Closed (value : List UInt8) : Prop := value.getLast? ≠ some backslash

section Scan

variable {byte next : UInt8} {value data : List UInt8}

theorem escape_append (first second : List UInt8) :
    escape (first ++ second) = escape first ++ escape second := List.flatMap_append

theorem escape_special (stop : special byte = true) : escape [byte] = [backslash, byte] := by
  simp [escape, stop]

theorem escape_plain (plain : special byte = false) : escape [byte] = [byte] := by
  simp [escape, plain]

theorem escape_start (value data : List UInt8) (plain : special byte = false) :
    ∃ first rest, escape value ++ byte :: data = first :: rest ∧ special first = false := by
  cases value with
  | nil => exact ⟨byte, data, rfl, plain⟩
  | cons start others =>
    by_cases stop : special start
    · exact ⟨backslash, start :: (escape others ++ byte :: data), by simp [escape, stop], by decide⟩
    · exact ⟨start, escape others ++ byte :: data, by simp [escape, stop], by simpa using stop⟩

theorem scan_stop (stop : special byte = true) (data : List UInt8) :
    scan (byte :: data) = ([], byte :: data) := by
  have other : byte ≠ backslash := by
    rintro rfl
    exact absurd stop (by decide)
  cases data with
  | nil => simp [scan, stop]
  | cons next rest => simp [scan, stop, other]

theorem scan_escaped (stop : special next = true) (data : List UInt8) :
    scan (backslash :: next :: data) = (next :: (scan data).1, (scan data).2) := by
  simp [scan, stop]

theorem scan_plain (plain : special byte = false) (later : special next = false)
    (data : List UInt8) :
    scan (byte :: next :: data) = (byte :: (scan (next :: data)).1, (scan (next :: data)).2) := by
  simp [scan, plain, later]

theorem scan_last (plain : special byte = false) (other : byte ≠ backslash)
    (stop : special next = true) (data : List UInt8) :
    scan (byte :: next :: data) = ([byte], next :: data) := by
  have rest := scan_stop stop data
  simp [scan, plain, other, rest]

-- Escaped text is read back, whatever comes after it but an unescaped special byte.
theorem scan_escape (value : List UInt8) (plain : special byte = false) (data : List UInt8) :
    scan (escape value ++ byte :: data) =
      (value ++ (scan (byte :: data)).1, (scan (byte :: data)).2) := by
  induction value with
  | nil => rfl
  | cons start others ih =>
    have split : escape (start :: others) = escape [start] ++ escape others :=
      escape_append [start] others
    rw [split, List.append_assoc]
    by_cases stop : special start
    · rw [escape_special stop, List.cons_append, List.singleton_append, scan_escaped stop, ih]
      rfl
    · have stop : special start = false := by simpa using stop
      obtain ⟨first, rest, starts, quiet⟩ := escape_start others data plain
      rw [escape_plain stop, List.singleton_append]
      rw [starts] at ih ⊢
      rw [scan_plain stop quiet, ih]
      rfl

theorem scan_closed (closed : Closed value) (stop : special next = true) (data : List UInt8) :
    scan (escape value ++ next :: data) = (value, next :: data) := by
  rcases List.eq_nil_or_concat value with rfl | ⟨start, last, rfl⟩
  · exact scan_stop stop data
  · have other : last ≠ backslash := by
      rintro rfl
      simp [Closed] at closed
    rw [List.concat_eq_append, escape_append, List.append_assoc]
    by_cases escaped : special last
    · rw [escape_special escaped, List.cons_append, List.singleton_append,
        scan_escape start (by decide), scan_escaped escaped, scan_stop stop]
    · have escaped : special last = false := by simpa using escaped
      rw [escape_plain escaped, List.singleton_append, scan_escape start escaped,
        scan_last escaped other stop]

-- A backslash at the end takes the byte after it into the value.
theorem scan_open (start : List UInt8) (stop : special next = true) (data : List UInt8) :
    scan (escape (start ++ [backslash]) ++ next :: data) =
      (start ++ next :: (scan data).1, (scan data).2) := by
  rw [escape_append, escape_plain (by decide), List.append_assoc, List.singleton_append,
    scan_escape start (by decide), scan_escaped stop]

theorem mem_escape (other : byte ≠ backslash) : byte ∈ escape value ↔ byte ∈ value := by
  unfold escape
  rw [List.mem_flatMap]
  constructor
  · rintro ⟨start, member, written⟩
    split_ifs at written <;> simp_all
  · intro member
    refine ⟨byte, member, ?_⟩
    split_ifs <;> simp

theorem escape_simple {name : Name} (simple : Simple name) : escape name = name := by
  have plain : ∀ byte ∈ name, (if special byte then [backslash, byte] else [byte]) = [byte] := by
    intro byte member
    simp [(simple.2 byte member).1]
  rw [escape, List.flatMap_congr plain]
  simp

theorem scan_simple {name : Name} (simple : Simple name) (stop : special next = true)
    (data : List UInt8) : scan (name ++ next :: data) = (name, next :: data) := by
  have closed : Closed name := by
    intro last
    exact (simple.2 _ (List.mem_of_getLast? last)).2 rfl
  conv_lhs => rw [← escape_simple simple]
  exact scan_closed closed stop data

theorem readName_simple {name : Name} (simple : Simple name) (data : List UInt8) :
    readName (name ++ equals :: data) = some (name, data) := by
  rw [readName, scan_simple simple (by decide)]
  simp [simple.1]

end Scan

/-! ## Tags -/

def writeTags (tags : List (Name × List UInt8)) : List UInt8 :=
  tags.flatMap fun (name, value) => comma :: (name ++ equals :: escape value)

section Tags

variable {tags : List (Name × List UInt8)} {data : List UInt8}

theorem writeTags_cons (name : Name) (value : List UInt8) (tags : List (Name × List UInt8))
    (data : List UInt8) : writeTags ((name, value) :: tags) ++ data =
      comma :: (name ++ equals :: (escape value ++ (writeTags tags ++ data))) := by
  simp [writeTags]

-- After a value comes a comma or the blank, and then a name and an equals sign.
theorem tag_end (simple : ∀ tag ∈ tags, Simple tag.1) {field : Name} (named : Simple field)
    (data : List UInt8) : ∃ next name rest,
      writeTags tags ++ blank :: (field ++ equals :: data) = next :: (name ++ equals :: rest) ∧
        special next = true ∧ Simple name := by
  cases tags with
  | nil => exact ⟨blank, field, data, rfl, by decide, named⟩
  | cons tag others =>
    refine ⟨comma, tag.1, _, writeTags_cons _ _ _ _, by decide, ?_⟩
    exact simple tag (by simp)

theorem readTags_write (simple : ∀ tag ∈ tags, Simple tag.1) (some_value : ∀ tag ∈ tags, tag.2 ≠ [])
    {field : Name} (named : Simple field) (data : List UInt8) {fuel : Nat}
    (enough : tags.length < fuel) :
    (readTags fuel (writeTags tags ++ blank :: (field ++ equals :: data)) =
        some (tags, field ++ equals :: data) ∧ ∀ tag ∈ tags, Closed tag.2) ∨
      (readTags fuel (writeTags tags ++ blank :: (field ++ equals :: data)) = none ∧
        ¬ ∀ tag ∈ tags, Closed tag.2) := by
  induction tags generalizing fuel with
  | nil =>
    obtain ⟨fuel, rfl⟩ := Nat.exists_eq_succ_of_ne_zero (Nat.ne_of_gt enough)
    exact .inl ⟨rfl, by simp⟩
  | cons tag tags ih =>
    obtain ⟨name, value⟩ := tag
    obtain ⟨fuel, rfl⟩ := Nat.exists_eq_succ_of_ne_zero (Nat.ne_of_gt (Nat.zero_lt_of_lt enough))
    have simple_name : Simple name := simple (name, value) (by simp)
    have nonempty : value ≠ [] := some_value (name, value) (by simp)
    have later := ih (fun tag member => simple tag (List.mem_cons_of_mem _ member))
      (fun tag member => some_value tag (List.mem_cons_of_mem _ member))
      (Nat.lt_of_succ_lt_succ enough)
    obtain ⟨next, follower, rest, after, stop, follows⟩ :=
      tag_end (fun tag member => simple tag (List.mem_cons_of_mem _ member)) named data
    have begun : readTags (fuel + 1) (writeTags ((name, value) :: tags) ++
        blank :: (field ++ equals :: data)) =
        if (scan (escape value ++ next :: (follower ++ equals :: rest))).1 = [] then none
        else (readTags fuel (scan (escape value ++ next :: (follower ++ equals :: rest))).2).bind
          fun (tags, data) => some ((name, (scan (escape value ++
            next :: (follower ++ equals :: rest))).1) :: tags, data) := by
      rw [writeTags_cons, after, readTags]
      simp only [readName_simple simple_name]
      rfl
    by_cases closed : Closed value
    · rw [begun, scan_closed closed stop, if_neg nonempty, ← after]
      rcases later with ⟨read, all⟩ | ⟨failed, some_open⟩
      · refine .inl ⟨by rw [read]; rfl, ?_⟩
        simpa [closed] using all
      · refine .inr ⟨by rw [failed]; rfl, ?_⟩
        intro all
        exact some_open fun tag member => all tag (List.mem_cons_of_mem _ member)
    · refine .inr ⟨?_, fun all => closed (all (name, value) (by simp))⟩
      have last : value.getLast? = some backslash := by
        by_contra other
        exact closed other
      obtain ⟨start, rfl⟩ := List.getLast?_eq_some_iff.mp last
      rw [begun, scan_open start stop, scan_simple follows (by decide)]
      cases fuel with
      | zero => simp [readTags]
      | succ fuel => simp [readTags, comma, equals, blank]

theorem newline_writeTags : newline ∉ writeTags tags ↔ ∀ tag ∈ tags, newline ∉ tag.1 ∧ newline ∉ tag.2 := by
  have after_comma : newline ≠ comma := by decide
  have after_equals : newline ≠ equals := by decide
  have escaped (value : List UInt8) : newline ∈ escape value ↔ newline ∈ value := mem_escape (by decide)
  simp [writeTags, after_comma, after_equals, escaped]

end Tags

/-! ## Values -/

/-- What is written for a byte of a quoted string, and what is read back for it. -/
def Quoting (written read : UInt8 → List UInt8) : Prop :=
  ∀ byte, (∃ next, written byte = [next] ∧ next ≠ mark ∧ next ≠ backslash ∧ read byte = [next]) ∨
    ∃ next, written byte = [backslash, next] ∧
      read byte = if next = mark ∨ next = backslash then [next] else [backslash, next]

theorem readQuoted_written {written read : UInt8 → List UInt8} (quoting : Quoting written read)
    (bytes data : List UInt8) :
    readQuoted (bytes.flatMap written ++ mark :: data) = some (bytes.flatMap read, data) := by
  induction bytes with
  | nil => cases data <;> simp [readQuoted, mark, backslash]
  | cons byte rest ih =>
    obtain ⟨first, others, starts⟩ : ∃ first others,
        rest.flatMap written ++ mark :: data = first :: others :=
      List.exists_cons_of_ne_nil (by simp)
    rw [List.flatMap_cons, List.flatMap_cons, List.append_assoc]
    rw [starts] at ih ⊢
    rcases quoting byte with ⟨next, wrote, quotes, escapes, back⟩ | ⟨next, wrote, back⟩
    · rw [wrote, back, List.singleton_append, readQuoted, if_neg escapes, if_neg quotes, ih]
      rfl
    · rw [wrote, back, List.cons_append, List.singleton_append, readQuoted, if_pos rfl, ih]
      split_ifs <;> rfl

/-- The text of a value and what it is read as, whatever ends it. -/
def Reads (text : List UInt8) (value : Option FieldValue) : Prop :=
  ∀ next data, ends next = true →
    readValue (text ++ next :: data) = value.map fun value => (value, next :: data)

theorem reads_quoted {written read : UInt8 → List UInt8} (quoting : Quoting written read)
    (bytes : List UInt8) : Reads (mark :: (bytes.flatMap written ++ [mark]))
      (some (.string (bytes.flatMap read))) := by
  intro next data _
  have back := readQuoted_written quoting bytes (next :: data)
  rw [List.cons_append, List.append_assoc, List.singleton_append, readValue, if_pos rfl, back]
  rfl

-- Number tokens hold no byte that ends them, and do not start like a string.
theorem reads_number {token : List UInt8} (plain : ∀ byte ∈ token, ends byte = false)
    (start : token.head? ≠ some mark) (nonempty : token ≠ []) : Reads token (readNumber token) := by
  intro next data stop
  obtain ⟨first, rest, rfl⟩ := List.exists_cons_of_ne_nil nonempty
  have unquoted : first ≠ mark := by simpa using start
  have taken : (first :: rest ++ next :: data).takeWhile (fun byte => !ends byte) = first :: rest := by
    rw [List.takeWhile_append_of_pos (by simpa using plain)]
    simp [stop]
  have dropped : (first :: rest ++ next :: data).drop (first :: rest).length = next :: data :=
    List.drop_left
  show (if first = mark then _ else _) = _
  rw [if_neg unquoted]
  show ((readNumber ((first :: rest ++ next :: data).takeWhile fun byte => !ends byte)).map
    fun value => (value, (first :: rest ++ next :: data).drop
      ((first :: rest ++ next :: data).takeWhile fun byte => !ends byte).length)) = _
  rw [taken, dropped]

/-! ## Fields -/

structure WrittenField where
  name : Name
  text : List UInt8
  value : Option FieldValue

def WrittenField.Correct (field : WrittenField) : Prop := Simple field.name ∧ Reads field.text field.value

def WrittenField.bytes (field : WrittenField) : List UInt8 := field.name ++ equals :: field.text

/-- The fields with a comma before each but the first. -/
def writeFields : List WrittenField → List UInt8
  | [] => []
  | [field] => field.bytes
  | field :: rest => field.bytes ++ comma :: writeFields rest

def WrittenField.read (field : WrittenField) : Option (Name × FieldValue) :=
  field.value.map fun value => (field.name, value)

theorem writeFields_cons (field : WrittenField) {rest : List WrittenField} (more : rest ≠ []) :
    writeFields (field :: rest) = field.bytes ++ comma :: writeFields rest := by
  cases rest with
  | nil => exact absurd rfl more
  | cons other others => rfl

theorem writeFields_flatMap (field : WrittenField) (rest : List WrittenField) :
    writeFields (field :: rest) = field.bytes ++ rest.flatMap fun other => comma :: other.bytes := by
  induction rest generalizing field with
  | nil => simp [writeFields]
  | cons other others ih => rw [writeFields_cons field (by simp), ih, List.flatMap_cons]; rfl

-- Every field is read as its value.
theorem mapM_read_iff (fields : List (WrittenField × FieldValue)) :
    (fields.map Prod.fst).mapM WrittenField.read =
        some (fields.map fun field => (field.1.name, field.2)) ↔
      ∀ field ∈ fields, field.1.value = some field.2 := by
  induction fields with
  | nil => simp
  | cons field rest ih =>
    rw [List.map_cons, List.mapM_cons, List.map_cons]
    generalize (rest.map Prod.fst).mapM WrittenField.read = read at ih
    cases value : field.1.value with
    | none => simp [WrittenField.read, value]
    | some found =>
      cases read with
      | none => simp_all [WrittenField.read]
      | some others => simp_all [WrittenField.read]

theorem newline_writeFields {fields : List WrittenField}
    (unbroken : ∀ field ∈ fields, newline ∉ field.bytes) : newline ∉ writeFields fields := by
  induction fields with
  | nil => simp [writeFields]
  | cons field rest ih =>
    have first := unbroken field (by simp)
    cases rest with
    | nil => exact first
    | cons other others =>
      have later := ih fun field member => unbroken field (List.mem_cons_of_mem _ member)
      have after_comma : newline ≠ comma := by decide
      rw [writeFields_cons field (by simp)]
      simp [first, later, after_comma]

theorem readFields_write {fields : List WrittenField} (some_field : fields ≠ [])
    (correct : ∀ field ∈ fields, field.Correct) (data : List UInt8) {fuel : Nat}
    (enough : fields.length ≤ fuel) :
    readFields fuel (writeFields fields ++ blank :: data) =
      (fields.mapM WrittenField.read).map fun read => (read, data) := by
  induction fields generalizing fuel with
  | nil => exact absurd rfl some_field
  | cons field rest ih =>
    obtain ⟨fuel, rfl⟩ := Nat.exists_eq_succ_of_ne_zero (Nat.ne_of_gt (Nat.lt_of_lt_of_le
      (Nat.zero_lt_succ _) enough))
    obtain ⟨simple, reads⟩ := correct field (by simp)
    have one (next : UInt8) (stop : ends next = true) (data : List UInt8) :
        readFields (fuel + 1) (field.bytes ++ next :: data) = field.value.bind fun value =>
          if next = blank then some ([(field.name, value)], data)
          else if next = comma then (readFields fuel data).map fun (fields, data) =>
            ((field.name, value) :: fields, data)
          else none := by
      rw [readFields, WrittenField.bytes, List.append_assoc, List.cons_append,
        readName_simple simple]
      show (readValue (field.text ++ next :: data)).bind _ = _
      rw [reads next data stop]
      cases field.value with
      | none => rfl
      | some value =>
        show (if next = blank then _ else if next = comma then _ else _) = _
        split_ifs
        · rfl
        · cases readFields fuel data <;> rfl
        · rfl
    cases rest with
    | nil =>
      rw [writeFields, one blank (by decide)]
      cases value : field.value <;> simp [WrittenField.read, value]
    | cons other others =>
      have later := ih (by simp) (fun field member => correct field (List.mem_cons_of_mem _ member))
        (Nat.le_of_succ_le_succ enough)
      rw [List.mapM_cons, writeFields_cons field (by simp), List.append_assoc, List.cons_append,
        one comma (by decide), later]
      generalize (other :: others).mapM WrittenField.read = read
      cases value : field.value with
      | none => simp [WrittenField.read, value]
      | some value =>
        cases read <;> simp [WrittenField.read, value, comma, blank]

/-! ## Numbers -/

def ascii (text : List Char) : List UInt8 := text.map fun c => UInt8.ofNat c.toNat

/-- Characters that can stand in a number token. -/
def Word (c : Char) : Prop := 0x20 < c.toNat ∧ c.toNat < 0x80 ∧ c ≠ ',' ∧ c ≠ '"'

instance : DecidablePred Word := fun _ => inferInstanceAs (Decidable (_ ∧ _))

section Numbers

variable {text : List Char}

theorem chars_ascii (words : ∀ c ∈ text, Word c) : chars (ascii text) = text := by
  have back : ∀ c ∈ text, Char.ofNat (UInt8.ofNat c.toNat).toNat = c := by
    intro c member
    have small := (words c member).2.1
    rw [UInt8.toNat_ofNat', Nat.mod_eq_of_lt (by omega), Char.ofNat_toNat]
  rw [chars, ascii, List.map_map]
  exact (List.map_congr_left back).trans (List.map_id _)

theorem ascii_inj {c d : Char} (word : Word c) (other : d.toNat < 256)
    (same : UInt8.ofNat c.toNat = UInt8.ofNat d.toNat) : c = d := by
  have values := congrArg UInt8.toNat same
  have small := word.2.1
  rw [UInt8.toNat_ofNat', UInt8.toNat_ofNat', Nat.mod_eq_of_lt (by omega),
    Nat.mod_eq_of_lt (by omega)] at values
  rw [← Char.ofNat_toNat c, ← Char.ofNat_toNat d, values]

theorem ascii_lacks (words : ∀ c ∈ text, Word c) {d : Char} (small : d.toNat < 256)
    (other : ¬ Word d) : UInt8.ofNat d.toNat ∉ ascii text := by
  intro member
  obtain ⟨c, inside, same⟩ := List.mem_map.mp member
  exact other (ascii_inj (words c inside) small same ▸ words c inside)

theorem digit_word {c : Char} (digit : c.isDigit = true) : Word c := by
  have range : 48 ≤ c.toNat ∧ c.toNat ≤ 57 := by
    simpa [Char.isDigit, UInt32.le_iff_toNat_le] using digit
  refine ⟨by omega, by omega, ?_, ?_⟩
  · rintro rfl
    exact absurd range (by decide)
  · rintro rfl
    exact absurd range (by decide)

theorem literal_words (value : Int) : ∀ c ∈ Json.integerLiteral value, Word c := by
  intro c member
  cases value with
  | ofNat n => exact digit_word (Json.isDigit_toDigits n c member)
  | negSucc n =>
    rcases List.mem_cons.mp member with rfl | digits
    · decide
    · exact digit_word (Json.isDigit_toDigits (n + 1) c digits)

theorem readInteger_literal (value : Int) : readInteger (Json.integerLiteral value) = some value := by
  cases value with
  | ofNat n =>
    rw [Json.integerLiteral, readInteger]
    · simp [Json.isDigits_toDigits]
    · exact fun _ => Json.toDigits_unsigned
  | negSucc n => simp [readInteger, Json.integerLiteral, Json.isDigits_toDigits, Int.negSucc_eq]

theorem reads_token (words : ∀ c ∈ text, Word c) (nonempty : text ≠ []) :
    Reads (ascii text) (readNumber (ascii text)) := by
  apply reads_number
  · intro byte member
    have comma_out : comma ∉ ascii text :=
      ascii_lacks words (show (',' : Char).toNat < 256 by decide) (by decide)
    have blank_out : blank ∉ ascii text :=
      ascii_lacks words (show (' ' : Char).toNat < 256 by decide) (by decide)
    have no_comma : byte ≠ comma := fun same => comma_out (same ▸ member)
    have no_blank : byte ≠ blank := fun same => blank_out (same ▸ member)
    simp [ends, no_comma, no_blank]
  · intro start
    have mark_out := ascii_lacks words (show ('"' : Char).toNat < 256 by decide) (by decide)
    exact mark_out (List.mem_of_mem_head? start)
  · simpa [ascii] using nonempty

theorem readNumber_integer (value : Int) :
    readNumber (ascii (Json.integerLiteral value ++ ['i'])) =
      if -9223372036854775808 ≤ value ∧ value < 9223372036854775808 then some (.integer value)
      else none := by
  have split : ascii (Json.integerLiteral value ++ ['i']) = ascii (Json.integerLiteral value) ++ [0x69] := by
    simp [ascii]
  rw [readNumber, split, List.getLast?_concat, if_pos rfl, List.dropLast_concat,
    chars_ascii (literal_words value), readInteger_literal]

theorem readNumber_float (words : ∀ c ∈ text, Word c) (last : text.getLast? ≠ some 'i') :
    readNumber (ascii text) = if isFloat text then some (.float text) else none := by
  have other : (ascii text).getLast? ≠ some 0x69 := by
    rw [ascii, List.getLast?_map]
    intro ends
    obtain ⟨c, is, same⟩ := Option.map_eq_some_iff.mp ends
    have word := words c (List.mem_of_getLast? is)
    have i : c = 'i' := ascii_inj word (by decide) same
    exact last (i ▸ is)
  rw [readNumber, if_neg other, chars_ascii words]

theorem readTime_literal (value : Int) :
    readTime (ascii (Json.integerLiteral value)) =
      if -9223372036854775806 ≤ value ∧ value ≤ 9223372036854775806 then some value else none := by
  rw [readTime, chars_ascii (literal_words value), readInteger_literal]
  simp [Option.filter]

end Numbers

/-! ## Rows -/

/-- A row as it is written. -/
structure WrittenRow where
  measurement : Name
  tags : List (Name × List UInt8)
  fields : List WrittenField
  time : Int

def WrittenRow.bytes (row : WrittenRow) : List UInt8 :=
  row.measurement ++ (writeTags row.tags ++
    blank :: (writeFields row.fields ++ blank :: ascii (Json.integerLiteral row.time)))

structure WrittenRow.Correct (row : WrittenRow) : Prop where
  measurement : Simple row.measurement
  tags : ∀ tag ∈ row.tags, Simple tag.1 ∧ tag.2 ≠ []
  some_field : row.fields ≠ []
  fields : ∀ field ∈ row.fields, field.Correct

theorem writeFields_start {fields : List WrittenField} (some_field : fields ≠ [])
    (correct : ∀ field ∈ fields, field.Correct) (data : List UInt8) : ∃ name rest,
      writeFields fields ++ data = name ++ equals :: rest ∧ Simple name := by
  obtain ⟨field, rest, rfl⟩ := List.exists_cons_of_ne_nil some_field
  have simple := (correct field (by simp)).1
  cases rest with
  | nil => exact ⟨field.name, field.text ++ data, by simp [writeFields, WrittenField.bytes], simple⟩
  | cons other others =>
    exact ⟨field.name, field.text ++ comma :: (writeFields (other :: others) ++ data),
      by simp [writeFields, WrittenField.bytes], simple⟩

theorem length_writeFields (fields : List WrittenField) :
    fields.length ≤ (writeFields fields).length := by
  induction fields with
  | nil => exact Nat.zero_le _
  | cons field rest ih =>
    cases rest with
    | nil => simp [writeFields, WrittenField.bytes]; omega
    | cons other others =>
      rw [writeFields_cons field (by simp)]
      simp only [List.length_append, List.length_cons] at ih ⊢
      omega

theorem length_writeTags (tags : List (Name × List UInt8)) :
    tags.length ≤ (writeTags tags).length := by
  induction tags with
  | nil => exact Nat.zero_le _
  | cons tag tags ih =>
    have split : writeTags (tag :: tags) = comma :: (tag.1 ++ equals :: (escape tag.2 ++ writeTags tags)) := by
      simp [writeTags]
    rw [split, List.length_cons, List.length_cons, List.length_append, List.length_cons,
      List.length_append]
    omega

theorem newline_ascii {text : List Char} (words : ∀ c ∈ text, Word c) : newline ∉ ascii text :=
  ascii_lacks words (show ('\n' : Char).toNat < 256 by decide) (by decide)

theorem newline_row {row : WrittenRow} (measurement : newline ∉ row.measurement)
    (fields : ∀ field ∈ row.fields, newline ∉ field.bytes) :
    newline ∉ row.bytes ↔ newline ∉ writeTags row.tags := by
  have fields := newline_writeFields fields
  have time := newline_ascii (literal_words row.time)
  have after_blank : newline ≠ blank := by decide
  simp [WrittenRow.bytes, measurement, fields, time, after_blank]

-- What a written row is read as: nothing unless all its values are closed and readable.
theorem readRow_bytes {row : WrittenRow} (correct : row.Correct) (read : Row) :
    readRow row.bytes = some read ↔ (∀ tag ∈ row.tags, Closed tag.2) ∧
      ∃ fields, row.fields.mapM WrittenField.read = some fields ∧
        (-9223372036854775806 ≤ row.time ∧ row.time ≤ 9223372036854775806) ∧
        read = ⟨row.measurement, row.tags, fields, row.time⟩ := by
  obtain ⟨field, rest, starts, named⟩ := writeFields_start correct.some_field correct.fields
    (blank :: ascii (Json.integerLiteral row.time))
  have simple : ∀ tag ∈ row.tags, Simple tag.1 := fun tag member => (correct.tags tag member).1
  have some_value : ∀ tag ∈ row.tags, tag.2 ≠ [] := fun tag member => (correct.tags tag member).2
  obtain ⟨next, follower, others, after, stop, _⟩ := tag_end simple named rest
  have measured : scan row.bytes =
      (row.measurement, writeTags row.tags ++ blank :: (field ++ equals :: rest)) := by
    rw [WrittenRow.bytes, starts, after, scan_simple correct.measurement stop]
  have enough : row.tags.length <
      (writeTags row.tags ++ blank :: (field ++ equals :: rest)).length + 1 := by
    have := length_writeTags row.tags
    rw [List.length_append]
    omega
  rw [readRow, measured]
  simp only [correct.measurement.1, if_false]
  rcases readTags_write simple some_value named rest enough with ⟨tagged, closed⟩ | ⟨failed, left⟩
  · have fields_enough : row.fields.length ≤ (field ++ equals :: rest).length + 1 := by
      have := length_writeFields row.fields
      rw [← starts, List.length_append]
      omega
    have fielded := readFields_write correct.some_field correct.fields
      (ascii (Json.integerLiteral row.time)) fields_enough
    rw [starts] at fielded
    rw [tagged]
    show (readFields _ (field ++ equals :: rest)).bind _ = some read ↔ _
    rw [fielded]
    cases values : row.fields.mapM WrittenField.read with
    | none => simp
    | some fields =>
      show (readTime (ascii (Json.integerLiteral row.time))).bind _ = some read ↔ _
      rw [readTime_literal]
      split_ifs with range
      · simp only [Option.bind_some, Option.some.injEq]
        constructor
        · rintro rfl
          exact ⟨closed, fields, rfl, range, rfl⟩
        · rintro ⟨_, found, rfl, _, rfl⟩
          rfl
      · simp only [Option.bind_none, reduceCtorEq, false_iff]
        rintro ⟨_, found, _, inside, _⟩
        exact range inside
  · rw [failed]
    simp only [Option.bind_eq_bind, Option.bind_none, reduceCtorEq, false_iff]
    rintro ⟨closed, _⟩
    exact left closed

end LineProtocol
