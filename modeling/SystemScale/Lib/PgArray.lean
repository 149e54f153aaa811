import Mathlib.Data.List.Basic
import Mathlib.Data.List.DropRight
import Mathlib.Tactic.SplitIfs

set_option autoImplicit false

/-!
# Text arrays of PostgreSQL

Arrays of one dimension and without bounds, as `array_in` takes them and `array_out` writes them.
-/

namespace PgArray

/-- An element, `none` for `NULL`. -/
abbrev Item := Option (List Char)

def isSpace (c : Char) : Bool := c = ' ' || decide (0x09 ≤ c.toNat ∧ c.toNat ≤ 0x0D)

def skip (text : List Char) : List Char := text.dropWhile isSpace

def isNull (text : List Char) : Bool := text.map Char.toLower = "null".toList

/-! ## Input -/

/-- The rest of a quoted element. The character behind a backslash is taken as it is. -/
def readQuoted : Bool → List Char → Option (List Char × List Char)
  | _, [] => none
  | true, c :: text => (readQuoted false text).map fun (cs, rest) => (c :: cs, rest)
  | false, c :: text =>
    if c = '"' then some ([], text)
    else if c = '\\' then readQuoted true text
    else (readQuoted false text).map fun (cs, rest) => (c :: cs, rest)

/-- An element without quotation marks, with what stood behind a backslash. -/
def readBare : Bool → List Char → Option (List (Char × Bool) × List Char)
  | _, [] => none
  | true, c :: text => (readBare false text).map fun (cs, rest) => ((c, true) :: cs, rest)
  | false, c :: text =>
    if c = ',' ∨ c = '}' then some ([], c :: text)
    else if c = '"' ∨ c = '{' then none
    else if c = '\\' then readBare true text
    else (readBare false text).map fun (cs, rest) => ((c, false) :: cs, rest)

/-- The white space at the end is no part of it. -/
def bareItem (cs : List (Char × Bool)) : Option Item :=
  match cs.rdropWhile fun c => !c.2 && isSpace c.1 with
  | [] => none
  | kept =>
    if kept.all (fun c => !c.2) && isNull (kept.map Prod.fst) then some none
    else some (some (kept.map Prod.fst))

def readItem : List Char → Option (Item × List Char)
  | '"' :: text => (readQuoted false text).map fun (cs, rest) => (some cs, rest)
  | text => do
    let (cs, rest) ← readBare false text
    let item ← bareItem cs
    some (item, rest)

-- Every element takes a character at least.
def readItems : Nat → List Char → Option (List Item)
  | 0, _ => none
  | fuel + 1, text => do
    let (item, rest) ← readItem (skip text)
    match skip rest with
    | [] => none
    | c :: rest =>
      if c = ',' then (readItems fuel rest).map (item :: ·)
      else if c = '}' ∧ rest.all isSpace then some [item]
      else none

/-- No text has the character zero. -/
def arrayIn (text : List Char) : Option (List Item) :=
  if '\x00' ∈ text then none
  else
    match skip text with
    | '{' :: inner =>
      match skip inner with
      | '}' :: rest => if rest.all isSpace then some [] else none
      | _ => readItems inner.length inner
    | _ => none

/-! ## Output -/

def special (c : Char) : Bool :=
  c = '"' || c = '\\' || c = '{' || c = '}' || c = ',' || isSpace c

def needsQuotes (text : List Char) : Bool := text.isEmpty || isNull text || text.any special

def escape (c : Char) : List Char := if c = '"' ∨ c = '\\' then ['\\', c] else [c]

def write : Item → List Char
  | none => "NULL".toList
  | some text => if needsQuotes text then '"' :: text.flatMap escape ++ ['"'] else text

def arrayOut (items : List Item) : List Char :=
  '{' :: [','].intercalate (items.map write) ++ ['}']

example : (arrayIn "\x7b a b ,\"a\\\"b\", NULL\x7d".toList).map arrayOut =
    some "\x7b\"a b\",\"a\\\"b\",NULL\x7d".toList := by decide +kernel

/-! ## Quoted elements -/

/-- What a quoted element stands for, if no quotation mark in it ends it before. -/
def unescape : Bool → List Char → Option (List Char)
  | escaped, [] => if escaped then none else some []
  | true, c :: body => (unescape false body).map (c :: ·)
  | false, c :: body =>
    if c = '"' then none
    else if c = '\\' then unescape true body
    else (unescape false body).map (c :: ·)

theorem readQuoted_clean {escaped : Bool} {body text : List Char}
    (clean : unescape escaped body = some text) (rest : List Char) :
    readQuoted escaped (body ++ '"' :: rest) = some (text, rest) := by
  induction body generalizing escaped text with
  | nil =>
    cases escaped with
    | false =>
      obtain rfl : [] = text := Option.some.inj clean
      rfl
    | true => cases clean
  | cons c body ih =>
    cases escaped with
    | true =>
      obtain ⟨later, found, rfl⟩ := Option.map_eq_some_iff.mp clean
      simp [readQuoted, ih found]
    | false =>
      simp only [unescape] at clean
      split_ifs at clean with quotation backslash
      · simp [readQuoted, backslash, ih clean]
      · obtain ⟨later, found, rfl⟩ := Option.map_eq_some_iff.mp clean
        simp [readQuoted, quotation, backslash, ih found]

-- An element that is not clean ends before the mark that should end it, or goes on behind it.
theorem readQuoted_dirty {escaped : Bool} {body : List Char}
    (dirty : unescape escaped body = none) (rest : List Char) :
    (∃ text after, readQuoted escaped (body ++ '"' :: rest) = some (text, after ++ '"' :: rest) ∧
        after ⊆ body) ∨
      ∃ text, readQuoted escaped (body ++ '"' :: rest) =
        (readQuoted false rest).map fun (cs, rest) => (text ++ cs, rest) := by
  induction body generalizing escaped with
  | nil =>
    cases escaped with
    | false => cases dirty
    | true => exact .inr ⟨['"'], rfl⟩
  | cons c body ih =>
    have plain (read : readQuoted escaped (c :: (body ++ '"' :: rest)) =
          (readQuoted false (body ++ '"' :: rest)).map fun (cs, rest) => (c :: cs, rest))
        (later : unescape false body = none) :
        (∃ text after, readQuoted escaped (c :: (body ++ '"' :: rest)) =
            some (text, after ++ '"' :: rest) ∧ after ⊆ c :: body) ∨
          ∃ text, readQuoted escaped (c :: (body ++ '"' :: rest)) =
            (readQuoted false rest).map fun (cs, rest) => (text ++ cs, rest) := by
      rw [read]
      rcases ih later with ⟨text, after, found, inside⟩ | ⟨text, found⟩
      · exact .inl ⟨c :: text, after, by rw [found]; rfl, List.subset_cons_of_subset c inside⟩
      · refine .inr ⟨c :: text, ?_⟩
        rw [found, Option.map_map]
        rfl
    cases escaped with
    | true => exact plain rfl (Option.map_eq_none_iff.mp dirty)
    | false =>
      simp only [unescape] at dirty
      split_ifs at dirty with quotation backslash
      · exact .inl ⟨[], body, by simp [readQuoted, quotation], List.subset_cons_self c body⟩
      · have read : readQuoted false (c :: (body ++ '"' :: rest)) =
            readQuoted true (body ++ '"' :: rest) := by simp [readQuoted, backslash]
        rw [List.cons_append, read]
        rcases ih dirty with ⟨text, after, found, inside⟩ | both
        · exact .inl ⟨text, after, found, List.subset_cons_of_subset c inside⟩
        · exact .inr both
      · exact plain (by simp [readQuoted, quotation, backslash]) (Option.map_eq_none_iff.mp dirty)

/-! ## Items -/

theorem skip_quotation {after : List Char} (plain : ',' ∉ after) (rest : List Char) :
    ∃ c more, skip (after ++ '"' :: rest) = c :: more ∧ c ≠ ',' ∧ (c = '}' → '"' ∈ more) := by
  induction after with
  | nil => exact ⟨'"', rest, rfl, by decide, fun same => absurd same (by decide)⟩
  | cons c after ih =>
    obtain ⟨other, plain⟩ := List.ne_and_not_mem_of_not_mem_cons plain
    by_cases space : isSpace c = true
    · rw [skip, List.cons_append, List.dropWhile_cons_of_pos space]
      exact ih plain
    · refine ⟨c, after ++ '"' :: rest, ?_, other.symm, fun _ => by simp⟩
      rw [skip, List.cons_append, List.dropWhile_cons_of_neg space]

-- Behind a quoted element only a comma goes on.
theorem readItems_stuck {fuel : Nat} {text after rest : List Char} {item : Item}
    (read : readItem (skip text) = some (item, after ++ '"' :: rest)) (plain : ',' ∉ after) :
    readItems (fuel + 1) text = none := by
  obtain ⟨c, more, next, other, closes⟩ := skip_quotation plain rest
  have unclosed : ¬ (c = '}' ∧ more.all isSpace = true) := by
    rintro ⟨is, blank⟩
    have space := List.all_eq_true.mp blank _ (closes is)
    revert space
    decide
  simp only [readItems, read, Option.bind_eq_bind, Option.bind_some, next, if_neg other,
    if_neg unclosed]

/-- What follows a quoted element cannot end it in its place. -/
def Unquotes (rest : List Char) : Prop :=
  readQuoted false rest = none ∨
    ∃ text after more, readQuoted false rest = some (text, after ++ '"' :: more) ∧ ',' ∉ after

theorem readItem_quoted (text : List Char) : readItem (skip ('"' :: text)) =
    (readQuoted false text).map fun (cs, rest) => (some cs, rest) := rfl

theorem readItems_dirty {fuel : Nat} {body rest : List Char} (dirty : unescape false body = none)
    (plain : ',' ∉ body) (unquotes : Unquotes rest) :
    readItems (fuel + 1) ('"' :: (body ++ '"' :: rest)) = none := by
  rcases readQuoted_dirty dirty rest with ⟨text, after, read, inside⟩ | ⟨text, read⟩
  · have item : readItem (skip ('"' :: (body ++ '"' :: rest))) =
        some (some text, after ++ '"' :: rest) := by rw [readItem_quoted, read]; rfl
    exact readItems_stuck item fun member => plain (inside member)
  · rcases unquotes with none | ⟨more_text, after, more, found, no_comma⟩
    · simp [readItems, readItem_quoted, read, none]
    · have item : readItem (skip ('"' :: (body ++ '"' :: rest))) =
          some (some (text ++ more_text), after ++ '"' :: more) := by
        rw [readItem_quoted, read, found]
        rfl
      exact readItems_stuck item no_comma

def quoted (body : List Char) : List Char := '"' :: body ++ ['"']

-- The text behind the first mark of an array's elements.
theorem join_quoted (body : List Char) (bodies : List (List Char)) :
    [','].intercalate ((body :: bodies).map quoted) ++ ['}'] =
      '"' :: (body ++ '"' ::
        match bodies with
        | [] => ['}']
        | next :: rest => ',' :: ([','].intercalate ((next :: rest).map quoted) ++ ['}'])) := by
  cases bodies with
  | nil => simp [quoted, List.intercalate]
  | cons next rest => simp [quoted]

theorem readItems_quoted {body : List Char} {bodies : List (List Char)} {fuel : Nat}
    (plain : ∀ one ∈ body :: bodies, ',' ∉ one) (enough : bodies.length < fuel) :
    readItems fuel ([','].intercalate ((body :: bodies).map quoted) ++ ['}']) =
      ((body :: bodies).mapM (unescape false)).map (List.map some) := by
  induction bodies generalizing body fuel with
  | nil =>
    obtain ⟨fuel, rfl⟩ : ∃ less, fuel = less + 1 := ⟨fuel - 1, by omega⟩
    rw [join_quoted]
    cases read : unescape false body with
    | none =>
      rw [readItems_dirty read (plain body (by simp)) (.inl rfl)]
      simp [read]
    | some text =>
      have item := readQuoted_clean read ['}']
      have closed : skip ['}'] = ['}'] := rfl
      have no_comma : ¬ '}' = ',' := by decide
      have whole : [body].mapM (unescape false) = some [text] := by simp [read]
      simp only [readItems, readItem_quoted, item, Option.map_some, Option.bind_eq_bind,
        Option.bind_some, closed, if_neg no_comma, whole]
      rfl
  | cons next bodies ih =>
    obtain ⟨fuel, rfl⟩ : ∃ less, fuel = less + 1 := ⟨fuel - 1, by omega⟩
    have later := ih (fun one member => plain one (List.mem_cons_of_mem _ member))
      (show bodies.length < fuel by simpa using enough)
    rw [join_quoted]
    cases read : unescape false body with
    | none =>
      have unquotes : Unquotes (',' ::
          ([','].intercalate ((next :: bodies).map quoted) ++ ['}'])) := by
        rw [join_quoted]
        exact .inr ⟨[','], next, _, rfl, plain next (by simp)⟩
      rw [readItems_dirty read (plain body (by simp)) unquotes]
      simp [read]
    | some text =>
      have item := readQuoted_clean read
        (',' :: ([','].intercalate ((next :: bodies).map quoted) ++ ['}']))
      have solid (rest : List Char) : skip (',' :: rest) = ',' :: rest := rfl
      simp only [readItems, readItem_quoted, item, Option.map_some, Option.bind_eq_bind,
        Option.bind_some, solid, if_true, later]
      have whole : (body :: next :: bodies).mapM (unescape false) =
          ((next :: bodies).mapM (unescape false)).map (text :: ·) := by
        rw [List.mapM_cons (a := body), read]
        cases (next :: bodies).mapM (unescape false) <;> rfl
      rw [whole, Option.map_map, Option.map_map]
      rfl

theorem mem_join {c : Char} {texts : List (List Char)} (member : c ∈ [','].intercalate texts) :
    c = ',' ∨ ∃ text ∈ texts, c ∈ text := by
  induction texts with
  | nil => cases member
  | cons first rest ih =>
    cases rest with
    | nil => exact .inr ⟨first, by simp, by simpa using member⟩
    | cons second rest =>
      rw [List.intercalate_cons_cons, List.append_assoc, List.mem_append] at member
      rcases member with here | later
      · exact .inr ⟨first, by simp, here⟩
      · rcases List.mem_cons.mp later with comma | later
        · exact .inl comma
        · rcases ih later with comma | ⟨text, inside, there⟩
          · exact .inl comma
          · exact .inr ⟨text, List.mem_cons_of_mem _ inside, there⟩

theorem subset_join {text : List Char} {texts : List (List Char)} (member : text ∈ texts) :
    text ⊆ [','].intercalate texts := by
  induction texts with
  | nil => cases member
  | cons first rest ih =>
    intro c inside
    cases rest with
    | nil =>
      obtain rfl := List.mem_singleton.mp member
      simpa using inside
    | cons second rest =>
      rw [List.intercalate_cons_cons, List.append_assoc]
      rcases List.mem_cons.mp member with rfl | later
      · exact List.mem_append_left _ inside
      · exact List.mem_append_right _ (List.mem_cons_of_mem _ (ih later inside))

theorem length_lt_join (body : List Char) (bodies : List (List Char)) :
    bodies.length < ([','].intercalate ((body :: bodies).map quoted) ++ ['}']).length := by
  induction bodies generalizing body with
  | nil => simp
  | cons next bodies ih =>
    have later := ih next
    rw [join_quoted]
    simp only [List.length_cons, List.length_append] at later ⊢
    omega

-- The elements of a literal whose elements are all quoted.
theorem arrayIn_quoted {bodies : List (List Char)}
    (plain : ∀ body ∈ bodies, ',' ∉ body ∧ '\x00' ∉ body) :
    arrayIn ('{' :: [','].intercalate (bodies.map quoted) ++ ['}']) =
      (bodies.mapM (unescape false)).map (List.map some) := by
  have filled : '\x00' ∉ '{' :: [','].intercalate (bodies.map quoted) ++ ['}'] := by
    intro zero
    simp only [List.cons_append, List.mem_cons, List.mem_append, List.not_mem_nil, or_false] at zero
    rcases zero with brace | inside | brace
    · exact absurd brace (by decide)
    · rcases mem_join inside with comma | ⟨text, member, zero⟩
      · exact absurd comma (by decide)
      · obtain ⟨body, there, rfl⟩ := List.mem_map.mp member
        exact (plain body there).2 (by simpa [quoted] using zero)
    · exact absurd brace (by decide)
  have solid (text : List Char) : skip ('{' :: text) = '{' :: text := rfl
  rw [arrayIn, if_neg filled]
  cases bodies with
  | nil => rfl
  | cons body bodies =>
    have starts (text : List Char) : skip ('"' :: text) = '"' :: text := rfl
    have commas (one : List Char) (member : one ∈ body :: bodies) : ',' ∉ one :=
      (plain one member).1
    rw [List.cons_append, solid, ← readItems_quoted commas (length_lt_join body bodies),
      join_quoted]
    simp only [starts]
    rfl

/-! ## Elements that are written -/

theorem write_ne_nil (item : Item) : write item ≠ [] := by
  cases item with
  | none => decide
  | some text =>
    rw [write]
    split_ifs with quotes
    · exact List.cons_ne_nil _ _
    · rintro rfl
      exact quotes rfl

theorem escape_plain {text : List Char} (plain : '"' ∉ text ∧ '\\' ∉ text) :
    text.flatMap escape = text := by
  induction text with
  | nil => rfl
  | cons c text ih =>
    simp only [List.mem_cons, not_or] at plain
    have one : escape c = [c] := if_neg (by simp [Ne.symm plain.1.1, Ne.symm plain.2.1])
    rw [List.flatMap_cons, one, ih ⟨plain.1.2, plain.2.2⟩, List.singleton_append]

theorem plain_of_bare {text : List Char} (bare : needsQuotes text = false) :
    ∀ c ∈ text, special c = false := by
  simp only [needsQuotes, Bool.or_eq_false_iff, List.any_eq_false, Bool.not_eq_true] at bare
  exact bare.2

theorem needsQuotes_special {text : List Char} {c : Char} (inside : c ∈ text)
    (is_special : special c = true) : needsQuotes text = true := by
  have found : text.any special = true := List.any_eq_true.mpr ⟨c, inside, is_special⟩
  simp [needsQuotes, found]

theorem needsQuotes_escape (text : List Char) :
    needsQuotes (text.flatMap escape) = needsQuotes text := by
  by_cases plain : '"' ∉ text ∧ '\\' ∉ text
  · rw [escape_plain plain]
  · obtain ⟨c, inside, is⟩ : ∃ c ∈ text, c = '"' ∨ c = '\\' := by
      by_contra absent
      exact plain ⟨fun member => absent ⟨_, member, .inl rfl⟩,
        fun member => absent ⟨_, member, .inr rfl⟩⟩
    have is_special : special c = true := by rcases is with rfl | rfl <;> decide
    have kept : c ∈ text.flatMap escape :=
      List.mem_flatMap.mpr ⟨c, inside, by simp [escape, is]⟩
    rw [needsQuotes_special inside is_special, needsQuotes_special kept is_special]

theorem unescape_subset {escaped : Bool} {body text : List Char}
    (read : unescape escaped body = some text) : text ⊆ body := by
  induction body generalizing escaped text with
  | nil =>
    cases escaped with
    | false =>
      obtain rfl : [] = text := Option.some.inj read
      exact List.Subset.refl _
    | true => cases read
  | cons c body ih =>
    have plain (read : (unescape false body).map (c :: ·) = some text) : text ⊆ c :: body := by
      obtain ⟨later, found, rfl⟩ := Option.map_eq_some_iff.mp read
      exact List.cons_subset_cons c (ih found)
    cases escaped with
    | true => exact plain read
    | false =>
      simp only [unescape] at read
      split_ifs at read
      · exact List.subset_cons_of_subset c (ih read)
      · exact plain read

theorem write_plain {text : List Char} (plain : ',' ∉ text) : ',' ∉ write (some text) := by
  have inner : ',' ∉ text.flatMap escape := by
    intro member
    obtain ⟨c, inside, comma⟩ := List.mem_flatMap.mp member
    rw [escape] at comma
    split_ifs at comma with special
    · rcases List.mem_cons.mp comma with backslash | is
      · exact absurd backslash (by decide)
      · exact plain (List.mem_singleton.mp is ▸ inside)
    · exact plain (List.mem_singleton.mp comma ▸ inside)
  rw [write]
  split_ifs
  · simp [inner]
  · exact plain

theorem zero_rejected {text : List Char} (zero : '\x00' ∈ text) : arrayIn text = none := by
  rw [arrayIn, if_pos zero]

end PgArray
