import Mathlib.Data.List.Forall2
import SystemScale.Cloud.ApiKeys
import SystemScale.Lib.PgArray

set_option autoImplicit false

/-!
# The scopes of a key

What `handleCreateKey` writes as an array literal, the database hands back with its own quotation
marks, and `parsePGTextArray` takes apart.
-/

namespace SystemScale.Cloud

/-! ## PostgreSQL -/

/-- `$5::TEXT[]` and back, `scopes::TEXT`. -/
def castTextArray (literal : String) : Option String :=
  (PgArray.arrayIn literal.toList).map fun items => String.ofList (PgArray.arrayOut items)

/-! ## handleListKeys -/

structure KeyItem where
  id : String
  name : String
  keyPrefix : String
  scopes : List String
  createdBy : String

def keyItem (key : ApiKey) : KeyItem :=
  { id := key.id
    name := key.name
    keyPrefix := "ssk_live_" ++ key.keyPrefix
    scopes := parsePGTextArray key.scopes
    createdBy := key.createdBy }

/-! ## The literal -/

theorem toList_scopesLiteral (scopes : List String) :
    (scopesLiteral scopes).toList =
      '{' :: [','].intercalate ((scopes.map fun s => (escapeQuotes s).toList).map PgArray.quoted) ++
        ['}'] := by
  have opens : "\x7b".toList = ['{'] := rfl
  have closes : "\x7d".toList = ['}'] := rfl
  have comma : ",".toList = [','] := rfl
  have quotation : "\"".toList = ['"'] := rfl
  simp [scopesLiteral, quotePGArray, String.toList_append, String.toList_intercalate, opens, closes,
    comma, quotation, PgArray.quoted, Function.comp_def]

/-- What stands between the quotation marks. -/
def escaped (text : List Char) : List Char :=
  text.flatMap fun c => if c = '"' then ['\\', '"'] else [c]

theorem toList_escapeQuotes (s : String) : (escapeQuotes s).toList = escaped s.toList :=
  String.toList_ofList

theorem escaped_cons (c : Char) (text : List Char) :
    escaped (c :: text) = if c = '"' then '\\' :: '"' :: escaped text else c :: escaped text := by
  rw [escaped, List.flatMap_cons]
  split_ifs <;> rfl

theorem mem_escaped {c : Char} {text : List Char} (backslash : c ≠ '\\') :
    c ∈ escaped text ↔ c ∈ text := by
  induction text with
  | nil => rfl
  | cons first text ih =>
    rw [escaped_cons]
    split_ifs with quotation
    · simp [backslash, quotation, ih]
    · simp [ih]

/-! ## Scopes that are kept -/

/-- Backslashes stand in pairs. -/
def paired : List Char → Bool
  | [] => true
  | '\\' :: '\\' :: text => paired text
  | '\\' :: _ => false
  | _ :: text => paired text

/-- A scope that comes back as it was. -/
structure Kept (s : String) : Prop where
  filled : s ≠ ""
  plain : ',' ∉ s.toList ∧ '"' ∉ s.toList ∧ '\x00' ∉ s.toList
  pairs : paired s.toList = true
  trimmed : PgArray.needsQuotes s.toList = true ∨ trimSpace s.toList = s.toList

theorem escaped_plain {text : List Char} (plain : '"' ∉ text) : escaped text = text := by
  induction text with
  | nil => rfl
  | cons c text ih =>
    obtain ⟨other, plain⟩ := List.ne_and_not_mem_of_not_mem_cons plain
    rw [escaped_cons, if_neg other.symm, ih plain]

-- Pairs are what the database makes of a text without quotation marks, and what it takes.
theorem unescape_paired {text : List Char} (plain : '"' ∉ text) (pairs : paired text = true) :
    ∃ element, PgArray.unescape false text = some element ∧
      element.flatMap PgArray.escape = text := by
  induction text using paired.induct with
  | case1 => exact ⟨[], rfl, rfl⟩
  | case2 text ih =>
    obtain ⟨element, read, written⟩ := ih (by simp_all) pairs
    exact ⟨'\\' :: element, by simp [PgArray.unescape, read], by simp [PgArray.escape, written]⟩
  | case3 => simp_all [paired]
  | case4 c text double single ih =>
    obtain ⟨other, plain⟩ := List.ne_and_not_mem_of_not_mem_cons plain
    have backslash : c ≠ '\\' := single
    obtain ⟨element, read, written⟩ := ih plain (by simpa [paired] using pairs)
    exact ⟨c :: element, by simp [PgArray.unescape, other.symm, backslash, read],
      by simp [PgArray.escape, other.symm, backslash, written]⟩

-- A text that is written as it was read holds pairs only.
theorem paired_of_written {text element : List Char}
    (read : PgArray.unescape false (escaped text) = some element)
    (written : text <+: element.flatMap PgArray.escape) : '"' ∉ text ∧ paired text = true := by
  induction text using paired.induct generalizing element with
  | case1 => simp [paired]
  | case2 text ih =>
    simp only [escaped_cons] at read
    obtain ⟨later, found, rfl⟩ := Option.map_eq_some_iff.mp read
    have rest := ih found (by simpa [PgArray.escape] using written)
    simpa [paired] using rest
  | case3 text single =>
    cases text with
    | nil => cases read
    | cons c text =>
      have backslash : c ≠ '\\' := fun is => single text (by rw [is])
      by_cases quotation : c = '"'
      · simp [escaped_cons, quotation, PgArray.unescape] at read
      · simp only [escaped_cons, if_neg quotation] at read
        obtain ⟨later, found, rfl⟩ := Option.map_eq_some_iff.mp read
        rw [List.flatMap_cons, PgArray.escape, if_neg (by simp [quotation, backslash])] at written
        exact absurd (List.cons_prefix_cons.mp written).1.symm backslash
  | case4 c text double single ih =>
    have backslash : c ≠ '\\' := single
    by_cases quotation : c = '"'
    · simp only [escaped_cons, if_pos quotation, PgArray.unescape] at read
      obtain ⟨later, found, rfl⟩ := Option.map_eq_some_iff.mp read
      exact absurd (List.cons_prefix_cons.mp written).1 backslash
    · rw [escaped_cons, if_neg quotation, PgArray.unescape, if_neg quotation,
        if_neg backslash] at read
      obtain ⟨later, found, rfl⟩ := Option.map_eq_some_iff.mp read
      rw [List.flatMap_cons, PgArray.escape, if_neg (by simp [quotation, backslash])] at written
      obtain ⟨plain, pairs⟩ := ih found (List.cons_prefix_cons.mp written).2
      exact ⟨by simp [plain, Ne.symm quotation], by simp [paired, pairs]⟩

/-! ## Elements that are shown -/

theorem trimSpace_between {first last : Char} (opens : isSpace first = false)
    (closes : isSpace last = false) (text : List Char) :
    trimSpace (first :: text ++ [last]) = first :: text ++ [last] := by
  have opened : ¬ isSpace first = true := by simp [opens]
  have closed : ¬ isSpace last = true := by simp [closes]
  rw [trimSpace, List.cons_append, List.dropWhile_cons_of_neg opened, ← List.cons_append,
    List.rdropWhile_concat_neg _ _ _ closed]

theorem rdropWhile_plain {text : List Char} (plain : '"' ∉ text) :
    text.rdropWhile (· = '"') = text := by
  rcases List.eq_nil_or_concat text with rfl | ⟨rest, c, rfl⟩
  · rfl
  · have other : c ≠ '"' := by
      rintro rfl
      exact plain (by simp)
    rw [List.concat_eq_append, List.rdropWhile_concat_neg _ _ _ (by simp [other])]

theorem trimQuotes_plain {text : List Char} (plain : '"' ∉ text) : trimQuotes text = text := by
  have front : text.dropWhile (· = '"') = text := by
    cases text with
    | nil => rfl
    | cons c text =>
      have other := (List.ne_and_not_mem_of_not_mem_cons plain).1
      exact List.dropWhile_cons_of_neg (by simp [other.symm])
  rw [trimQuotes, front, rdropWhile_plain plain]

-- The marks around a text are trimmed, and those at its end.
theorem trimQuotes_quoted {text : List Char} (solid : text.head? ≠ some '"') :
    trimQuotes ('"' :: text ++ ['"']) = text.rdropWhile (· = '"') := by
  rw [trimQuotes, List.cons_append, List.dropWhile_cons_of_pos (by simp)]
  cases text with
  | nil => rfl
  | cons c text =>
    have other : c ≠ '"' := fun is => solid (by rw [is]; rfl)
    rw [List.cons_append, List.dropWhile_cons_of_neg (by simp [other]), ← List.cons_append,
      List.rdropWhile_concat_pos _ _ _ (by simp)]

theorem escape_head (element : List Char) :
    (element.flatMap PgArray.escape).head? ≠ some '"' := by
  cases element with
  | nil => simp
  | cons c element =>
    rw [List.flatMap_cons, PgArray.escape]
    split_ifs with special
    · simp
    · simpa using (not_or.mp special).1

/-- What is shown of an element. -/
def shown (item : PgArray.Item) : List Char := trimQuotes (trimSpace (PgArray.write item))

theorem shown_quoted {element : List Char} (quotes : PgArray.needsQuotes element = true) :
    shown (some element) = (element.flatMap PgArray.escape).rdropWhile (· = '"') := by
  rw [shown, PgArray.write, if_pos quotes, trimSpace_between (by decide) (by decide),
    trimQuotes_quoted (escape_head element)]

theorem trimSpace_subset (text : List Char) : trimSpace text ⊆ text := fun _ member =>
  (List.dropWhile_sublist isSpace).subset ((List.rdropWhile_prefix isSpace _).subset member)

theorem shown_bare {element : List Char} (bare : PgArray.needsQuotes element = false) :
    shown (some element) = trimSpace element := by
  have plain : '"' ∉ trimSpace element := fun member =>
    absurd (PgArray.plain_of_bare bare _ (trimSpace_subset element member)) (by decide)
  rw [shown, PgArray.write, if_neg (by simp [bare]), trimQuotes_plain plain]

theorem paired_plain {text : List Char} (plain : '\\' ∉ text) : paired text = true := by
  induction text with
  | nil => rfl
  | cons c text ih =>
    obtain ⟨other, plain⟩ := List.ne_and_not_mem_of_not_mem_cons plain
    simp [paired, other.symm, ih plain]

theorem shown_eq_iff {text element : List Char}
    (read : PgArray.unescape false (escaped text) = some element) :
    shown (some element) = text ↔ '"' ∉ text ∧ paired text = true ∧
      (PgArray.needsQuotes text = true ∨ trimSpace text = text) := by
  -- Of a text that is written as it was read, the database quotes as much as of its element.
  have same (plain : '"' ∉ text) (pairs : paired text = true) :
      element.flatMap PgArray.escape = text := by
    obtain ⟨other, again, written⟩ := unescape_paired plain pairs
    rw [escaped_plain plain, again] at read
    rwa [← Option.some.inj read]
  have bare_same (plain : '"' ∉ text) (pairs : paired text = true)
      (bare : PgArray.needsQuotes text = false) : element = text := by
    have written := same plain pairs
    rw [← written, PgArray.needsQuotes_escape] at bare
    have special := PgArray.plain_of_bare bare
    rwa [PgArray.escape_plain ⟨fun member => absurd (special _ member) (by decide),
      fun member => absurd (special _ member) (by decide)⟩] at written
  constructor
  · intro is
    cases quotes : PgArray.needsQuotes element with
    | true =>
      rw [shown_quoted quotes] at is
      have front := List.rdropWhile_prefix (· = '"') (element.flatMap PgArray.escape)
      rw [is] at front
      obtain ⟨plain, pairs⟩ := paired_of_written read front
      refine ⟨plain, pairs, .inl ?_⟩
      rw [← same plain pairs, PgArray.needsQuotes_escape, quotes]
    | false =>
      rw [shown_bare quotes] at is
      have special := PgArray.plain_of_bare quotes
      have absent {c : Char} (is_special : PgArray.special c = true) : c ∉ text := fun member => by
        have ordinary := special c (trimSpace_subset element (is ▸ member))
        rw [is_special] at ordinary
        cases ordinary
      have plain : '"' ∉ text := absent (by decide)
      have pairs := paired_plain (absent (show PgArray.special '\\' = true by decide))
      rw [← PgArray.needsQuotes_escape, same plain pairs] at quotes
      rw [bare_same plain pairs quotes] at is
      exact ⟨plain, pairs, .inr is⟩
  · rintro ⟨plain, pairs, kept⟩
    cases quotes : PgArray.needsQuotes text with
    | true =>
      rw [← same plain pairs, PgArray.needsQuotes_escape] at quotes
      rw [shown_quoted quotes, same plain pairs, rdropWhile_plain plain]
    | false =>
      rw [bare_same plain pairs quotes, shown_bare quotes]
      exact kept.resolve_left (by simp [quotes])

/-! ## The array -/

section Splitting

variable {separator : Char} {text part : List Char}

theorem splitOn_cons (c : Char) (text : List Char) : splitOn separator (c :: text) =
    if c = separator then [] :: splitOn separator text
    else
      match splitOn separator text with
      | part :: rest => (c :: part) :: rest
      | [] => [[c]] := rfl

theorem mem_splitOn (member : part ∈ splitOn separator text) : separator ∉ part := by
  induction text generalizing part with
  | nil => simp_all [splitOn]
  | cons c text ih =>
    rw [splitOn_cons] at member
    split_ifs at member with is
    · rcases List.mem_cons.mp member with rfl | later
      · exact List.not_mem_nil
      · exact ih later
    · cases parts : splitOn separator text with
      | nil =>
        rw [parts] at member
        obtain rfl := List.mem_singleton.mp member
        simpa using Ne.symm is
      | cons first rest =>
        rw [parts] at member ih
        rcases List.mem_cons.mp member with rfl | later
        · simpa [Ne.symm is] using ih List.mem_cons_self
        · exact ih (List.mem_cons_of_mem _ later)

theorem splitOn_part (plain : separator ∉ part) : splitOn separator part = [part] := by
  induction part with
  | nil => rfl
  | cons c part ih =>
    obtain ⟨other, plain⟩ := List.ne_and_not_mem_of_not_mem_cons plain
    rw [splitOn_cons, if_neg other.symm, ih plain]

theorem splitOn_append (plain : separator ∉ part) (text : List Char) :
    splitOn separator (part ++ separator :: text) = part :: splitOn separator text := by
  induction part with
  | nil => rw [List.nil_append, splitOn_cons, if_pos rfl]
  | cons c part ih =>
    obtain ⟨other, plain⟩ := List.ne_and_not_mem_of_not_mem_cons plain
    rw [List.cons_append, splitOn_cons, if_neg other.symm, ih plain]

theorem splitOn_join {first : List Char} {rest : List (List Char)}
    (plain : ∀ part ∈ first :: rest, ',' ∉ part) :
    splitOn ',' ([','].intercalate (first :: rest)) = first :: rest := by
  induction rest generalizing first with
  | nil =>
    rw [List.intercalate_singleton]
    exact splitOn_part (plain first (by simp))
  | cons second rest ih =>
    rw [List.intercalate_cons_cons, List.append_assoc, List.singleton_append,
      splitOn_append (plain first (by simp)),
      ih fun part member => plain part (List.mem_cons_of_mem _ member)]

end Splitting

-- No scope that is shown has a comma.
theorem parsePGTextArray_plain {text s : String} (member : s ∈ parsePGTextArray text) :
    ',' ∉ s.toList := by
  unfold parsePGTextArray at member
  simp only at member
  split_ifs at member
  · cases member
  · obtain ⟨trimmed, inside, rfl⟩ := List.mem_map.mp member
    obtain ⟨part, split, rfl⟩ := List.mem_map.mp (List.mem_of_mem_filter inside)
    rw [String.toList_ofList]
    intro comma
    have front := (List.rdropWhile_prefix (· = '"') _).subset comma
    have spaced := (List.dropWhile_sublist (· = '"')).subset front
    exact mem_splitOn split (trimSpace_subset part spaced)

theorem parsePGTextArray_braces {joined : List Char} (filled : joined ≠ []) :
    parsePGTextArray (String.ofList ('{' :: joined ++ ['}'])) =
      (((splitOn ',' joined).map fun p => trimQuotes (trimSpace p)).filter (· ≠ [])).map
        String.ofList := by
  have trimmed : trimSpace ('{' :: joined ++ ['}']) = '{' :: joined ++ ['}'] :=
    trimSpace_between (by decide) (by decide) joined
  have unlike : ¬ ('{' :: joined ++ ['}'] = "\x7b\x7d".toList ∨ '{' :: joined ++ ['}'] = []) := by
    rintro (same | same)
    · have length := congrArg List.length same
      have positive := List.length_pos_of_ne_nil filled
      have two : "\x7b\x7d".toList.length = 2 := rfl
      rw [two, List.length_append, List.length_cons, List.length_singleton] at length
      omega
    · cases same
  have inner : trimBraces ('{' :: joined ++ ['}']) = joined := by
    simp [trimBraces]
  rw [parsePGTextArray, String.toList_ofList]
  simp only [trimmed, if_neg unlike, inner]

theorem parsePGTextArray_arrayOut {items : List PgArray.Item}
    (plain : ∀ item ∈ items, ',' ∉ PgArray.write item) :
    parsePGTextArray (String.ofList (PgArray.arrayOut items)) =
      ((items.map shown).filter (· ≠ [])).map String.ofList := by
  cases items with
  | nil => decide
  | cons item items =>
    have parts : ∀ part ∈ (item :: items).map PgArray.write, ',' ∉ part := by
      intro part member
      obtain ⟨other, inside, rfl⟩ := List.mem_map.mp member
      exact plain other inside
    have split := splitOn_join parts
    have filled : [','].intercalate ((item :: items).map PgArray.write) ≠ [] := by
      intro empty
      rw [← List.map_cons, empty] at split
      exact PgArray.write_ne_nil item (List.cons.inj split).1.symm
    rw [PgArray.arrayOut, parsePGTextArray_braces filled, List.map_cons, split, ← List.map_cons,
      List.map_map]
    rfl

/-! ## What comes back -/

/-- The scopes that are read of the array that the database stored. -/
def ScopesBack (scopes : List String) : Prop :=
  ∃ text, castTextArray (scopesLiteral scopes) = some text ∧ parsePGTextArray text = scopes

theorem castTextArray_literal {scopes : List String}
    (plain : ∀ s ∈ scopes, ',' ∉ s.toList ∧ '\x00' ∉ s.toList) :
    castTextArray (scopesLiteral scopes) =
      ((scopes.mapM fun s => PgArray.unescape false (escaped s.toList)).map fun elements =>
        String.ofList (PgArray.arrayOut (elements.map some))) := by
  have bodies : ∀ body ∈ scopes.map fun s => (escapeQuotes s).toList,
      ',' ∉ body ∧ '\x00' ∉ body := by
    intro body member
    obtain ⟨s, inside, rfl⟩ := List.mem_map.mp member
    rw [toList_escapeQuotes, mem_escaped (by decide), mem_escaped (by decide)]
    exact plain s inside
  rw [castTextArray, toList_scopesLiteral, PgArray.arrayIn_quoted bodies, List.mapM_map,
    Option.map_map]
  simp only [toList_escapeQuotes, Function.comp_def]

theorem zero_refused {scopes : List String} {s : String} (member : s ∈ scopes)
    (zero : '\x00' ∈ s.toList) : castTextArray (scopesLiteral scopes) = none := by
  have inside : '\x00' ∈ (scopesLiteral scopes).toList := by
    rw [toList_scopesLiteral, List.map_map]
    have body : '\x00' ∈ PgArray.quoted (escapeQuotes s).toList := by
      simp [PgArray.quoted, toList_escapeQuotes, mem_escaped, zero]
    exact List.mem_append_left _ (List.mem_cons_of_mem _
      (PgArray.subset_join (List.mem_map.mpr ⟨s, member, rfl⟩) body))
  rw [castTextArray, PgArray.zero_rejected inside]
  rfl

-- What the array of a list holds, if the database takes it.
theorem elements_of_mapM {scopes : List String} {elements : List (List Char)}
    (read : (scopes.mapM fun s => PgArray.unescape false (escaped s.toList)) = some elements) :
    List.Forall₂ (fun s element => PgArray.unescape false (escaped s.toList) = some element)
      scopes elements := by
  induction scopes generalizing elements with
  | nil =>
    obtain rfl : [] = elements := Option.some.inj read
    exact .nil
  | cons s scopes ih =>
    rw [List.mapM_cons] at read
    obtain ⟨element, one, read⟩ := Option.bind_eq_some_iff.mp read
    obtain ⟨others, later, read⟩ := Option.bind_eq_some_iff.mp read
    obtain rfl := Option.some.inj read
    exact .cons one (ih later)

theorem mapM_of_elements {scopes : List String} {elements : List (List Char)}
    (read : List.Forall₂ (fun s element => PgArray.unescape false (escaped s.toList) = some element)
      scopes elements) :
    (scopes.mapM fun s => PgArray.unescape false (escaped s.toList)) = some elements := by
  induction read with
  | nil => rfl
  | cons one _ ih =>
    rw [List.mapM_cons, one, ih]
    rfl

/-- A scope and what the database holds for it. -/
structure Stored (s : String) (element : List Char) : Prop where
  read : PgArray.unescape false (escaped s.toList) = some element
  back : shown (some element) = s.toList

theorem stored_of_kept {s : String} (kept : Kept s) : ∃ element, Stored s element := by
  obtain ⟨element, read, _⟩ := unescape_paired kept.plain.2.1 kept.pairs
  rw [← escaped_plain kept.plain.2.1] at read
  exact ⟨element, read, (shown_eq_iff read).mpr ⟨kept.plain.2.1, kept.pairs, kept.trimmed⟩⟩

theorem stored_lists {scopes : List String} (kept : ∀ s ∈ scopes, Kept s) :
    ∃ elements, List.Forall₂ Stored scopes elements := by
  induction scopes with
  | nil => exact ⟨[], .nil⟩
  | cons s scopes ih =>
    obtain ⟨element, stored⟩ := stored_of_kept (kept s (by simp))
    obtain ⟨elements, others⟩ := ih fun other member => kept other (List.mem_cons_of_mem _ member)
    exact ⟨element :: elements, .cons stored others⟩

theorem shown_stored {scopes : List String} {elements : List (List Char)}
    (stored : List.Forall₂ Stored scopes elements) :
    (elements.map fun element => shown (some element)) = scopes.map String.toList := by
  induction stored with
  | nil => rfl
  | cons one _ ih => rw [List.map_cons, List.map_cons, ih, one.back]

-- The elements hold no comma, so each is one part of the text.
theorem parsePGTextArray_elements {scopes : List String} {elements : List (List Char)}
    (plain : ∀ s ∈ scopes, ',' ∉ s.toList)
    (read : List.Forall₂ (fun s element => PgArray.unescape false (escaped s.toList) = some element)
      scopes elements) :
    parsePGTextArray (String.ofList (PgArray.arrayOut (elements.map some))) =
      ((elements.map fun element => shown (some element)).filter (· ≠ [])).map String.ofList := by
  have items : ∀ item ∈ elements.map some, ',' ∉ PgArray.write item := by
    intro item member
    obtain ⟨element, inside, rfl⟩ := List.mem_map.mp member
    obtain ⟨s, there, one⟩ : ∃ s ∈ scopes,
        PgArray.unescape false (escaped s.toList) = some element := by
      clear member
      induction read with
      | nil => cases inside
      | @cons s first scopes elements one _ ih =>
        rcases List.mem_cons.mp inside with rfl | later
        · exact ⟨s, by simp, one⟩
        · obtain ⟨other, there, found⟩ := ih
            (fun other member => plain other (List.mem_cons_of_mem _ member)) later
          exact ⟨other, List.mem_cons_of_mem _ there, found⟩
    refine PgArray.write_plain fun comma => plain s there ?_
    exact (mem_escaped (by decide)).mp (PgArray.unescape_subset one comma)
  rw [parsePGTextArray_arrayOut items, List.map_map]
  rfl

-- A list of parts that comes back has lost none of them.
theorem stored_of_back {scopes : List String} {elements : List (List Char)}
    (read : List.Forall₂ (fun s element => PgArray.unescape false (escaped s.toList) = some element)
      scopes elements)
    (back : ((elements.map fun element => shown (some element)).filter (· ≠ [])).map String.ofList =
      scopes) :
    ∀ s ∈ scopes, s ≠ "" ∧ ∃ element, Stored s element := by
  have length := congrArg List.length back
  have parts : (elements.map fun element => shown (some element)).length = scopes.length := by
    rw [List.length_map, read.length_eq]
  rw [List.length_map, ← parts] at length
  have none_lost := List.length_filter_eq_length_iff.mp length
  rw [List.filter_eq_self.mpr none_lost] at back
  clear length parts
  induction read with
  | nil => simp
  | @cons s element scopes elements one others ih =>
    obtain ⟨first, later⟩ := List.cons.inj back
    rintro other (_ | ⟨_, member⟩)
    · have same : shown (some element) = s.toList := by rw [← first, String.toList_ofList]
      refine ⟨?_, element, one, same⟩
      rintro rfl
      have filled := none_lost (shown (some element)) (by simp)
      rw [same] at filled
      simp at filled
    · exact ih later (fun part inside => none_lost part (List.mem_cons_of_mem _ inside)) other member

theorem scopesBack_iff (scopes : List String) : ScopesBack scopes ↔ ∀ s ∈ scopes, Kept s := by
  constructor
  · rintro ⟨text, stored, back⟩
    have plain : ∀ s ∈ scopes, ',' ∉ s.toList ∧ '\x00' ∉ s.toList := by
      intro s member
      have listed : s ∈ parsePGTextArray text := back.symm ▸ member
      refine ⟨parsePGTextArray_plain listed, fun zero => ?_⟩
      rw [zero_refused member zero] at stored
      cases stored
    rw [castTextArray_literal plain] at stored
    obtain ⟨elements, found, rfl⟩ := Option.map_eq_some_iff.mp stored
    have read := elements_of_mapM found
    rw [parsePGTextArray_elements (fun s member => (plain s member).1) read] at back
    intro s member
    obtain ⟨filled, element, one, same⟩ := stored_of_back read back s member
    obtain ⟨unquoted, pairs, trimmed⟩ := (shown_eq_iff one).mp same
    exact ⟨filled, ⟨(plain s member).1, unquoted, (plain s member).2⟩, pairs, trimmed⟩
  · intro kept
    have plain : ∀ s ∈ scopes, ',' ∉ s.toList ∧ '\x00' ∉ s.toList := fun s member =>
      ⟨(kept s member).plain.1, (kept s member).plain.2.2⟩
    obtain ⟨elements, stored⟩ := stored_lists kept
    have read := stored.imp fun s element (one : Stored s element) => one.read
    refine ⟨_, by rw [castTextArray_literal plain, mapM_of_elements read]; rfl, ?_⟩
    rw [parsePGTextArray_elements (fun s member => (plain s member).1) read,
      shown_stored stored]
    have filled : ∀ text ∈ scopes.map String.toList, decide (text ≠ []) = true := by
      intro text member
      obtain ⟨s, inside, rfl⟩ := List.mem_map.mp member
      exact decide_eq_true fun empty => (kept s inside).filled (String.toList_eq_nil_iff.mp empty)
    rw [List.filter_eq_self.mpr filled, List.map_map]
    simp [Function.comp_def]

/-! ## Keys -/

theorem tokenRole_admin_iff (scopes : List String) :
    tokenRole scopes = "admin" ↔ "admin" ∈ scopes := by
  unfold tokenRole
  split_ifs with found <;> simp_all

section Keys

variable (sha256 : String → String)

/-- The key is stored with the scopes that were asked for: the list shows them, and a token for the
key has the role that they give. -/
def ScopesServed (keys after : List ApiKey) (scopes : List String) : Prop :=
  ∃ key, after = keys ++ [key] ∧ (keyItem key).scopes = scopes ∧
    ∀ later exchange apiKey now, decodeStruct setApiKey "" exchange = some apiKey → apiKey ≠ "" →
      later.find? (fun other => other.keyHash = sha256 apiKey) = some key → ∃ token,
        handleToken sha256 later exchange now = .issued token ∧
          (token.claims.role = "admin" ↔ "admin" ∈ scopes)

variable {keys : List ApiKey} {claims : Claims} {email : String} {body : List Char}
  {id randomHex name : String} {scopes : List String}

theorem created_scopes_served_iff
    (asked : decodeStruct CreateKeyRequest.set ⟨"", []⟩ body = some ⟨name, scopes⟩)
    (named : name ≠ "") :
    ScopesServed sha256 keys
        (handleCreateKey sha256 castTextArray keys claims email body id randomHex).1 scopes ↔
      ∀ s ∈ scopes, Kept s := by
  rw [← scopesBack_iff, handleCreateKey, asked]
  simp only [if_neg named]
  cases stored : castTextArray (scopesLiteral scopes) with
  | none =>
    constructor
    · rintro ⟨key, more, _⟩
      simp at more
    · rintro ⟨text, kept, _⟩
      rw [stored] at kept
      cases kept
  | some text =>
    constructor
    · rintro ⟨key, more, listed, _⟩
      obtain rfl := List.singleton_inj.mp (List.append_cancel_left more)
      exact ⟨text, stored, listed⟩
    · rintro ⟨other, kept, back⟩
      obtain rfl := Option.some.inj (stored.symm.trans kept)
      refine ⟨_, rfl, back, fun later exchange apiKey now decoded filled found => ?_⟩
      rw [handleToken, decoded]
      simp only [if_neg filled, found]
      exact ⟨_, rfl, by rw [back, tokenRole_admin_iff]⟩

end Keys

def sampleRequest : List Char := "\x7b\"name\":\"ci\",\"scopes\":[\"read logs\",\"admin\"]\x7d".toList

theorem decode_sampleRequest : decodeStruct CreateKeyRequest.set ⟨"", []⟩ sampleRequest =
    some ⟨"ci", ["read logs", "admin"]⟩ := by
  have fields : (decodeStruct CreateKeyRequest.set ⟨"", []⟩ sampleRequest).map
      (fun req => (req.name, req.scopes)) = some ("ci", ["read logs", "admin"]) := by
    decide +kernel
  obtain ⟨req, decoded, same⟩ := Option.map_eq_some_iff.mp fields
  obtain ⟨name, scopes⟩ := req
  obtain ⟨rfl, rfl⟩ := Prod.mk.inj same
  exact decoded

theorem sampleRequest_served :
    ScopesServed (fun text => text) []
      (handleCreateKey (fun text => text) castTextArray [] ⟨"u", "o", "admin", []⟩ "" sampleRequest
        "1" "0123456789abcdef").1 ["read logs", "admin"] :=
  (created_scopes_served_iff (fun text => text) decode_sampleRequest (by decide)).mpr (by
    simp only [List.forall_mem_cons]
    exact ⟨⟨by decide, by decide, by decide, .inl (by decide)⟩,
      ⟨by decide, by decide, by decide, .inr (by decide)⟩, by simp⟩)

def forgedScope : String := "x\\\",admin,y\\"

/-- A scope that the database takes apart. The key is an admin's, which nobody asked for. -/
theorem forgedScope_admin :
    ∃ text, castTextArray (scopesLiteral [forgedScope]) = some text ∧
      parsePGTextArray text ≠ [forgedScope] ∧
        tokenRole (parsePGTextArray text) = "admin" ∧ "admin" ∉ [forgedScope] :=
  ⟨"\x7b\"x\\\\\",admin,\"y\\\"\"\x7d", by decide +kernel, by decide +kernel, by decide +kernel,
    by decide⟩

end SystemScale.Cloud
