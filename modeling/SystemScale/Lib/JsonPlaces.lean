import SystemScale.Lib.JsonLaws

set_option autoImplicit false

/-!
# Places in JSON texts

What a scanner knows that counts braces outside strings. A reader leaves the count as it was, so
it takes no text that has a brace open.
-/

namespace Json

inductive Mode where
  | outside
  | inside
  | escaped
  deriving DecidableEq

structure Place where
  depth : Nat
  mode : Mode
  deriving DecidableEq

def Place.step (place : Place) (c : Char) : Place :=
  match place.mode with
  | .outside =>
    if c = '"' then ⟨place.depth, .inside⟩
    else if c = '{' then ⟨place.depth + 1, .outside⟩
    else if c = '}' then ⟨place.depth - 1, .outside⟩
    else place
  | .inside =>
    if c = '"' then ⟨place.depth, .outside⟩
    else if c = '\\' then ⟨place.depth, .escaped⟩
    else place
  | .escaped => ⟨place.depth, .inside⟩

def Place.after (place : Place) (text : List Char) : Place := text.foldl Place.step place

@[simp] theorem Place.after_nil (place : Place) : place.after [] = place := rfl

@[simp] theorem Place.after_cons (place : Place) (c : Char) (text : List Char) :
    place.after (c :: text) = (place.step c).after text := rfl

theorem Place.after_append (place : Place) (first second : List Char) :
    place.after (first ++ second) = (place.after first).after second := List.foldl_append

/-! ## Readers -/

/-- Going on from `text` to `rest` leaves the braces as they were, at any depth. -/
def Passes (start stop : Mode) (text rest : List Char) : Prop :=
  ∃ used, text = used ++ rest ∧ ∀ depth, Place.after ⟨depth, start⟩ used = ⟨depth, stop⟩

section Passing

variable {start middle stop : Mode} {text after rest : List Char} {c : Char}

theorem Passes.refl (start : Mode) (text : List Char) : Passes start start text text :=
  ⟨[], rfl, fun _ => rfl⟩

theorem Passes.trans (first : Passes start middle text after)
    (second : Passes middle stop after rest) : Passes start stop text rest := by
  obtain ⟨used, rfl, one⟩ := first
  obtain ⟨more, rfl, two⟩ := second
  refine ⟨used ++ more, (List.append_assoc _ _ _).symm, fun depth => ?_⟩
  rw [Place.after_append, one, two]

theorem Passes.cons (step : ∀ depth, Place.step ⟨depth, start⟩ c = ⟨depth, middle⟩)
    (later : Passes middle stop text rest) : Passes start stop (c :: text) rest := by
  obtain ⟨used, rfl, passed⟩ := later
  refine ⟨c :: used, rfl, fun depth => ?_⟩
  rw [Place.after_cons, step, passed]

theorem Passes.plain (quotation : c ≠ '"') (backslash : c ≠ '\\')
    (later : Passes .inside stop text rest) : Passes .inside stop (c :: text) rest :=
  .cons (fun depth => by simp [Place.step, quotation, backslash]) later

theorem Passes.escape (later : Passes .inside stop text rest) :
    Passes .inside stop ('\\' :: c :: text) rest :=
  .cons (show ∀ depth, Place.step ⟨depth, .inside⟩ '\\' = ⟨depth, .escaped⟩ from fun _ => rfl)
    (.cons (fun _ => rfl) later)

theorem Passes.opened (later : Passes .inside stop text rest) :
    Passes .outside stop ('"' :: text) rest :=
  .cons (fun _ => rfl) later

theorem Passes.closed : Passes .inside .outside ('"' :: rest) rest :=
  .cons (fun _ => rfl) (.refl _ _)

-- What is not in a string and no brace.
theorem Passes.bare (quotation : c ≠ '"') (opens : c ≠ '{') (closes : c ≠ '}')
    (later : Passes .outside stop text rest) : Passes .outside stop (c :: text) rest :=
  .cons (fun depth => by simp [Place.step, quotation, opens, closes]) later

theorem passes_skip (text : List Char) : Passes .outside .outside text (skip text) := by
  induction text with
  | nil => exact .refl _ _
  | cons c text ih =>
    by_cases is_blank : blank c = true
    · have rest : skip (c :: text) = skip text := by simp [skip, is_blank]
      rw [rest]
      simp only [blank, Bool.or_eq_true, decide_eq_true_eq] at is_blank
      refine .bare ?_ ?_ ?_ ih <;> rintro rfl <;> simp at is_blank
    · rw [skip_cons (by simpa using is_blank)]
      exact .refl _ _

theorem hexValue_plain {value : Nat} (hex : hexValue c = some value) : c ≠ '"' ∧ c ≠ '\\' := by
  constructor <;> rintro rfl <;> simp [hexValue] at hex

theorem passes_hex {unit : Nat} (read : readHex text = some (unit, rest)) :
    Passes .inside .inside text rest := by
  unfold readHex at read
  split at read
  · next a b c d rest =>
    obtain ⟨_, first, read⟩ := Option.bind_eq_some_iff.mp read
    obtain ⟨_, second, read⟩ := Option.bind_eq_some_iff.mp read
    obtain ⟨_, third, read⟩ := Option.bind_eq_some_iff.mp read
    obtain ⟨_, fourth, read⟩ := Option.bind_eq_some_iff.mp read
    obtain ⟨_, rfl⟩ := Prod.mk.inj (Option.some.inj read)
    have one := hexValue_plain first
    have two := hexValue_plain second
    have three := hexValue_plain third
    have four := hexValue_plain fourth
    exact .plain one.1 one.2 (.plain two.1 two.2 (.plain three.1 three.2
      (.plain four.1 four.2 (.refl _ _))))
  · cases read

theorem passes_low {unit : Nat} (read : readLow text = some (unit, rest)) :
    Passes .inside .inside text rest := by
  unfold readLow at read
  split at read
  · exact .escape (passes_hex (Option.eq_some_of_filter_eq_some read))
  · cases read

section Strings

variable {lone : Option Char}

theorem passes_unicode (read : readUnicode lone text = some (c, rest)) :
    Passes .inside .inside text rest := by
  obtain ⟨⟨unit, after⟩, hex, read⟩ := Option.bind_eq_some_iff.mp read
  have first := passes_hex hex
  simp only at read
  have alone {found : Char} (is : lone.map (·, after) = some (found, rest)) : after = rest := by
    obtain ⟨_, _, same⟩ := Option.map_eq_some_iff.mp is
    exact (Prod.mk.inj same).2
  split_ifs at read
  · split at read
    · next low later found =>
      obtain ⟨_, rfl⟩ := Prod.mk.inj (Option.some.inj read)
      exact first.trans (passes_low found)
    · exact alone read ▸ first
  · exact alone read ▸ first
  · obtain ⟨_, rfl⟩ := Prod.mk.inj (Option.some.inj read)
    exact first

theorem passes_char (read : readChar lone text = some (c, rest)) :
    Passes .inside .inside text rest := by
  unfold readChar at read
  split at read
  · cases read
  · next first text =>
    split_ifs at read with closes backslash
    · split at read
      · cases read
      · next mark after =>
        subst backslash
        split_ifs at read with unit
        · exact .escape (passes_unicode read)
        · obtain ⟨_, _, same⟩ := Option.map_eq_some_iff.mp read
          obtain ⟨_, rfl⟩ := Prod.mk.inj same
          exact .escape (.refl _ _)
    · obtain ⟨_, rfl⟩ := Prod.mk.inj (Option.some.inj read)
      exact .plain (fun same => closes (.inl same)) backslash (.refl _ _)

theorem passes_chars {fuel : Nat} {cs : List Char}
    (read : readChars lone fuel text = some (cs, rest)) : Passes .inside .outside text rest := by
  induction fuel generalizing text cs with
  | zero => cases read
  | succ fuel ih =>
    rw [readChars] at read
    split at read
    · next c after one =>
      obtain ⟨⟨others, last⟩, later, same⟩ := Option.map_eq_some_iff.mp read
      obtain ⟨_, rfl⟩ := Prod.mk.inj same
      exact (passes_char one).trans (ih later)
    · unfold readQuotation at read
      split at read
      · obtain ⟨_, rfl⟩ := Prod.mk.inj (Option.some.inj read)
        exact .closed
      · cases read

theorem passes_string {string : String} (read : readString lone text = some (string, rest)) :
    Passes .inside .outside text rest := by
  obtain ⟨⟨cs, after⟩, chars, same⟩ := Option.map_eq_some_iff.mp read
  obtain ⟨_, rfl⟩ := Prod.mk.inj same
  exact passes_chars chars

theorem passes_numeric (text : List Char) :
    Passes .outside .outside text (text.dropWhile numeric) := by
  induction text with
  | nil => exact .refl _ _
  | cons c text ih =>
    by_cases is : numeric c = true
    · obtain ⟨_, _, opens, _, closes, quotation, _⟩ := numeric_start is
      rw [List.dropWhile_cons_of_pos is]
      exact .bare quotation opens closes ih
    · rw [List.dropWhile_cons_of_neg is]
      exact .refl _ _

theorem passes_scalar {value : Value} (read : readScalar lone text = some (value, rest)) :
    Passes .outside .outside text rest := by
  have letter {c : Char} {text rest : List Char} (is : c ≠ '"' ∧ c ≠ '{' ∧ c ≠ '}')
      (later : Passes .outside .outside text rest) : Passes .outside .outside (c :: text) rest :=
    .bare is.1 is.2.1 is.2.2 later
  unfold readScalar at read
  split at read
  · obtain ⟨⟨string, after⟩, chars, same⟩ := Option.map_eq_some_iff.mp read
    obtain ⟨_, rfl⟩ := Prod.mk.inj same
    exact .opened (passes_string chars)
  · obtain ⟨_, rfl⟩ := Prod.mk.inj (Option.some.inj read)
    exact letter (by decide) (letter (by decide) (letter (by decide) (letter (by decide)
      (.refl _ _))))
  · obtain ⟨_, rfl⟩ := Prod.mk.inj (Option.some.inj read)
    exact letter (by decide) (letter (by decide) (letter (by decide) (letter (by decide)
      (.refl _ _))))
  · obtain ⟨_, rfl⟩ := Prod.mk.inj (Option.some.inj read)
    exact letter (by decide) (letter (by decide) (letter (by decide) (letter (by decide)
      (letter (by decide) (.refl _ _)))))
  · unfold readNumber at read
    simp only at read
    split_ifs at read
    obtain ⟨_, rfl⟩ := Prod.mk.inj (Option.some.inj read)
    exact passes_numeric text

end Strings

section Members

variable {M : Type} {member : List Char → Option (M × List Char)} {close : Char}
  (each : ∀ text item rest, member text = some (item, rest) → Passes .outside .outside text rest)

include each

theorem passes_rest {fuel : Nat} {items : List M}
    (read : readRest member close fuel text = some (items, rest)) :
    Passes .outside .outside text (close :: rest) := by
  induction fuel generalizing text items with
  | zero => cases read
  | succ fuel ih =>
    rw [readRest] at read
    obtain ⟨⟨item, after⟩, one, others⟩ := Option.bind_eq_some_iff.mp read
    have first := (each _ _ _ one).trans (passes_skip after)
    simp only at others
    split at others
    · cases others
    · next c more next =>
      rw [next] at first
      split_ifs at others with comma closes
      · obtain ⟨⟨found, last⟩, later, whole⟩ := Option.bind_eq_some_iff.mp others
        obtain ⟨_, rfl⟩ := Prod.mk.inj (Option.some.inj whole)
        subst comma
        exact first.trans (.bare (by decide) (by decide) (by decide)
          ((passes_skip more).trans (ih later)))
      · obtain ⟨_, rfl⟩ := Prod.mk.inj (Option.some.inj others)
        subst closes
        exact first

theorem passes_members {items : List M}
    (read : readMembers member close text = some (items, rest)) :
    Passes .outside .outside text (close :: rest) := by
  have blanks := passes_skip text
  unfold readMembers at read
  split at read
  · cases read
  · next c after start =>
    rw [start] at blanks
    split_ifs at read with closes
    · obtain ⟨_, rfl⟩ := Prod.mk.inj (Option.some.inj read)
      subst closes
      exact blanks
    · exact blanks.trans (passes_rest each read)

end Members

theorem passes_field {lone : Option Char} {value : List Char → Option (Value × List Char)}
    (each : ∀ text found rest, value text = some (found, rest) →
      Passes .outside .outside text rest) {field : String × Value}
    (read : readField lone value text = some (field, rest)) :
    Passes .outside .outside text rest := by
  unfold readField at read
  split at read
  · obtain ⟨⟨key, after⟩, named, colon⟩ := Option.bind_eq_some_iff.mp read
    have key_end := (Passes.opened (passes_string named)).trans (passes_skip after)
    simp only at colon
    split at colon
    · next more next =>
      obtain ⟨⟨found, last⟩, one, whole⟩ := Option.bind_eq_some_iff.mp colon
      obtain ⟨_, rfl⟩ := Prod.mk.inj (Option.some.inj whole)
      rw [next] at key_end
      exact key_end.trans (.bare (by decide) (by decide) (by decide)
        ((passes_skip more).trans (each _ _ _ one)))
    · cases colon
  · cases read

-- The braces of a value that is read are all closed.
theorem passes_value {lone : Option Char} {nesting : Nat} {value : Value}
    (read : readValue lone nesting text = some (value, rest)) :
    Passes .outside .outside text rest := by
  induction nesting generalizing value text rest with
  | zero => exact passes_scalar read
  | succ nesting ih =>
    unfold readValue at read
    split at read
    · obtain ⟨⟨items, after⟩, members, same⟩ := Option.map_eq_some_iff.mp read
      obtain ⟨_, rfl⟩ := Prod.mk.inj same
      have inner := passes_members (fun _ _ _ => ih) members
      exact .bare (by decide) (by decide) (by decide)
        (inner.trans (.bare (by decide) (by decide) (by decide) (.refl _ _)))
    · obtain ⟨⟨fields, after⟩, members, same⟩ := Option.map_eq_some_iff.mp read
      obtain ⟨_, rfl⟩ := Prod.mk.inj same
      obtain ⟨used, rfl, inner⟩ := passes_members (fun _ _ _ => passes_field fun _ _ _ => ih) members
      refine ⟨'{' :: (used ++ ['}']), by simp, fun depth => ?_⟩
      have opened : Place.step ⟨depth, .outside⟩ '{' = ⟨depth + 1, .outside⟩ := rfl
      rw [Place.after_cons, opened, Place.after_append, inner]
      rfl
    · exact passes_scalar read

end Passing

/-! ## Braces that stay open -/

/-- Nowhere in the text, and not at its end either, are all braces closed. -/
def Place.stays : Place → List Char → Bool
  | place, [] => 1 ≤ place.depth
  | place, c :: text => 1 ≤ place.depth && (place.step c).stays text

theorem Place.stays_append {place : Place} {first second : List Char}
    (one : place.stays first = true) (two : (place.after first).stays second = true) :
    place.stays (first ++ second) = true := by
  induction first generalizing place with
  | nil => exact two
  | cons c first ih =>
    simp only [Place.stays, Bool.and_eq_true] at one
    simp only [List.cons_append, Place.stays, Bool.and_eq_true]
    exact ⟨one.1, ih one.2 two⟩

theorem Place.stays_front {place : Place} {first second : List Char}
    (stays : place.stays (first ++ second) = true) : 1 ≤ (place.after first).depth := by
  induction first generalizing place with
  | nil =>
    cases second with
    | nil => exact of_decide_eq_true stays
    | cons c second =>
      simp only [List.nil_append, Place.stays, Bool.and_eq_true] at stays
      exact of_decide_eq_true stays.1
  | cons c first ih =>
    simp only [List.cons_append, Place.stays, Bool.and_eq_true] at stays
    exact ih stays.2

theorem Place.depth_le_after (place : Place) {text : List Char} (closes : '}' ∉ text) :
    place.depth ≤ (place.after text).depth := by
  induction text generalizing place with
  | nil => exact Nat.le_refl _
  | cons c text ih =>
    obtain ⟨other, closes⟩ := List.ne_and_not_mem_of_not_mem_cons closes
    have one : place.depth ≤ (place.step c).depth := by
      unfold Place.step
      split
      · rw [if_neg other.symm]
        split_ifs <;> simp
      · split_ifs <;> simp
      · exact Nat.le_refl _
    exact one.trans (ih (place.step c) closes)

theorem Place.unclosed {place : Place} {text : List Char} (open_string : place.mode ≠ .outside)
    (plain : '"' ∉ text) : (place.after text).mode ≠ .outside := by
  induction text generalizing place with
  | nil => exact open_string
  | cons c text ih =>
    obtain ⟨other, plain⟩ := List.ne_and_not_mem_of_not_mem_cons plain
    have one : (place.step c).mode ≠ .outside := by
      unfold Place.step
      split
      · next outside => exact absurd outside open_string
      · rw [if_neg other.symm]
        split_ifs with backslash
        · simp
        · exact open_string
      · simp
    exact ih one plain

theorem readString_unclosed (lone : Option Char) {text : List Char} (plain : '"' ∉ text) :
    readString lone text = none := by
  cases read : readString lone text with
  | none => rfl
  | some pair =>
    obtain ⟨used, rfl, passed⟩ := passes_string read
    have inside : (Place.after ⟨0, .inside⟩ used).mode ≠ .outside :=
      Place.unclosed (by decide) fun member => plain (List.mem_append_left _ member)
    rw [passed] at inside
    exact absurd rfl inside

-- No value is read of a text that ends before its first brace is closed, whatever ends it.
theorem Reader.read_open (reader : Reader) {before after tail : List Char}
    (stays : Place.stays ⟨1, .outside⟩ (before ++ after) = true) (closes : '}' ∉ tail) :
    reader.read ('{' :: (before ++ tail)) = none := by
  have solid (text : List Char) : skip ('{' :: text) = '{' :: text := skip_cons (by decide) text
  rw [Reader.read, solid]
  cases made : readValue reader.lone reader.nesting ('{' :: (before ++ tail)) with
  | none => rfl
  | some pair =>
    obtain ⟨value, rest⟩ := pair
    obtain ⟨used, split, passed⟩ := passes_value made
    cases used with
    | nil =>
      obtain rfl : '{' :: (before ++ tail) = rest := split
      simp [solid]
    | cons c used =>
      rw [List.cons_append] at split
      obtain ⟨rfl, inner⟩ := List.cons.inj split
      have opened : Place.step ⟨0, .outside⟩ '{' = ⟨1, .outside⟩ := rfl
      have ended := passed 0
      rw [Place.after_cons, opened] at ended
      have deep : 1 ≤ (Place.after ⟨1, .outside⟩ used).depth := by
        rcases List.append_eq_append_iff.mp inner with ⟨more, rfl, _⟩ | ⟨more, rfl, _⟩
        · have front := Place.stays_front stays
          have kept := Place.depth_le_after (Place.after ⟨1, .outside⟩ before)
            (show '}' ∉ more from fun member => closes (by simp [*]))
          rw [Place.after_append]
          exact front.trans kept
        · rw [List.append_assoc] at stays
          exact Place.stays_front stays
      rw [ended] at deep
      cases deep

theorem Reader.read_open_front (reader : Reader) {before after tail text : List Char}
    (stays : Place.stays ⟨1, .outside⟩ (before ++ after) = true) (closes : '}' ∉ tail)
    (front : text <+: before ++ tail) : reader.read ('{' :: text) = none := by
  obtain ⟨more, same⟩ := front
  rcases List.append_eq_append_iff.mp same with ⟨rest, rfl, _⟩ | ⟨rest, rfl, rfl⟩
  · rw [List.append_assoc] at stays
    have read := reader.read_open stays (show '}' ∉ [] by simp)
    rwa [List.append_nil] at read
  · exact reader.read_open stays fun inside => closes (List.mem_append_left _ inside)

/-! ## The inside of strings -/

/-- What stands between two quotation marks. -/
inductive Body : List Char → Prop
  | nil : Body []
  | plain {c : Char} {rest : List Char} (quotation : c ≠ '"') (backslash : c ≠ '\\')
      (later : Body rest) : Body (c :: rest)
  | escape {c : Char} {rest : List Char} (later : Body rest) : Body ('\\' :: c :: rest)

theorem Body.append {first second : List Char} (one : Body first) (two : Body second) :
    Body (first ++ second) := by
  induction one with
  | nil => exact two
  | plain quotation backslash _ ih => exact .plain quotation backslash ih
  | escape _ ih => exact .escape ih

theorem Body.flatMap {A : Type} {write : A → List Char} (each : ∀ item, Body (write item))
    (items : List A) : Body (items.flatMap write) := by
  induction items with
  | nil => exact .nil
  | cons item items ih => exact (each item).append ih

theorem Body.unicode {unit : Nat} (small : unit < 0x10000) : Body (unicode unit) := by
  have digit {value : Nat} (low : value < 16) : value.digitChar ≠ '"' ∧ value.digitChar ≠ '\\' :=
    hexValue_plain (hexValue_digitChar value low)
  have one := digit (show unit / 4096 < 16 by omega)
  have two := digit (show unit / 256 % 16 < 16 by omega)
  have three := digit (show unit / 16 % 16 < 16 by omega)
  have four := digit (show unit % 16 < 16 by omega)
  exact .escape (.plain one.1 one.2 (.plain two.1 two.2 (.plain three.1 three.2
    (.plain four.1 four.2 .nil))))

theorem Style.body_escape (style : Style) (c : Char) : Body (style.escape c) := by
  have range : c.toNat < 0xD800 ∨ 0xDFFF < c.toNat ∧ c.toNat < 0x110000 := c.valid
  unfold Style.escape
  split
  · exact .escape .nil
  · next long =>
    obtain ⟨quotation, backslash⟩ := shorthand_none long
    split_ifs with raw small
    · exact .plain quotation backslash .nil
    · exact .unicode small
    · exact (Body.unicode (by omega)).append (.unicode (by omega))

theorem Body.after {body : List Char} (is : Body body) (depth : Nat) :
    Place.after ⟨depth, .inside⟩ body = ⟨depth, .inside⟩ := by
  induction is with
  | nil => rfl
  | plain quotation backslash _ ih => simpa [Place.step, quotation, backslash] using ih
  | escape _ ih => simpa [Place.step] using ih

theorem Body.stays {body : List Char} (is : Body body) {depth : Nat} (deep : 1 ≤ depth) :
    Place.stays ⟨depth, .inside⟩ body = true := by
  induction is with
  | nil => simpa [Place.stays] using deep
  | plain quotation backslash _ ih =>
    simpa [Place.stays, Place.step, quotation, backslash, deep] using ih
  | escape _ ih => simpa [Place.stays, Place.step, deep] using ih

theorem Body.quotation {body front rest : List Char} (is : Body body)
    (split : body = front ++ '"' :: rest) : front.getLast? = some '\\' := by
  induction is generalizing front with
  | nil => simp at split
  | @plain c others quotation _ _ ih =>
    cases front with
    | nil => exact absurd (List.cons.inj split).1 quotation
    | cons first front =>
      have last := ih (List.cons.inj split).2
      rw [List.getLast?_cons, last]
      rfl
  | @escape c others _ ih =>
    cases front with
    | nil => exact absurd (List.cons.inj split).1 (by decide)
    | cons first front =>
      obtain ⟨rfl, behind⟩ := List.cons.inj split
      cases front with
      | nil => rfl
      | cons second front =>
        have last := ih (List.cons.inj behind).2
        rw [List.getLast?_cons, List.getLast?_cons, last]
        rfl

-- A member whose value is a string, and what stands behind it.
theorem Place.stays_string {key body rest : List Char}
    (key_stays : Place.stays ⟨1, .outside⟩ key = true)
    (key_opens : Place.after ⟨1, .outside⟩ key = ⟨1, .inside⟩) (is : Body body)
    (later : Place.stays ⟨1, .outside⟩ rest = true) :
    Place.stays ⟨1, .outside⟩ (key ++ (body ++ '"' :: rest)) = true := by
  refine Place.stays_append key_stays ?_
  rw [key_opens]
  refine Place.stays_append (is.stays (Nat.le_refl _)) ?_
  rw [is.after]
  simpa [Place.stays, Place.step] using later

theorem Place.stays_numeric {text : List Char} (all : ∀ c ∈ text, numeric c = true) :
    Place.stays ⟨1, .outside⟩ text = true := by
  induction text with
  | nil => rfl
  | cons c text ih =>
    obtain ⟨_, _, opens, _, closes, quotation, _⟩ := numeric_start (all c (by simp))
    have later := ih fun other member => all other (List.mem_cons_of_mem _ member)
    simpa [Place.stays, Place.step, opens, closes, quotation] using later

/-! ## Quotation marks behind braces -/

/-- The text ends with a brace and blanks. -/
def Opens (text : List Char) : Prop :=
  ∃ front blanks, text = front ++ '{' :: blanks ∧ ∀ c ∈ blanks, blank c = true

theorem Opens.of_append {first second : List Char} (opens : Opens (first ++ second)) :
    Opens first ∨ Opens second := by
  obtain ⟨front, blanks, split, all⟩ := opens
  rcases List.append_eq_append_iff.mp split with ⟨more, rfl, is⟩ | ⟨more, rfl, is⟩
  · exact .inr ⟨more, blanks, is, all⟩
  · cases more with
    | nil => exact .inr ⟨[], blanks, is.symm, all⟩
    | cons c more =>
      obtain ⟨rfl, rfl⟩ := List.cons.inj is
      exact .inl ⟨front, more, rfl, fun c member => all c (List.mem_append_left _ member)⟩

theorem Opens.last {text : List Char} (opens : Opens text) :
    ∃ c, text.getLast? = some c ∧ (c = '{' ∨ blank c = true) := by
  obtain ⟨front, blanks, rfl, all⟩ := opens
  rcases List.eq_nil_or_concat blanks with rfl | ⟨more, c, rfl⟩
  · exact ⟨'{', by simp, .inl rfl⟩
  · refine ⟨c, ?_, .inr (all c (by simp))⟩
    rw [List.concat_eq_append, ← List.cons_append, ← List.append_assoc, List.getLast?_concat]

/-- Behind every quotation mark that a brace opens. -/
def Guarded (Follows : List Char → Prop) (text : List Char) : Prop :=
  ∀ front rest, text = front ++ '"' :: rest → Opens front → Follows rest

section Guards

variable {Follows : List Char → Prop} {first rest : List Char}

theorem Guarded.behind (plain : '{' ∉ first) (later : Guarded Follows rest) :
    Guarded Follows (first ++ rest) := by
  have closed {front : List Char} (inside : ∀ c ∈ front, c ∈ first) : ¬ Opens front := by
    rintro ⟨before, blanks, rfl, _⟩
    exact plain (inside '{' (by simp))
  intro front behind split opens
  rcases List.append_eq_append_iff.mp split with ⟨more, rfl, is⟩ | ⟨more, rfl, is⟩
  · rcases opens.of_append with before | after
    · exact absurd before (closed fun c member => member)
    · exact later more behind is after
  · exact absurd opens (closed fun c member => List.mem_append_left _ member)

theorem Guarded.body {body : List Char} (is_body : Body body) (follows : Follows rest)
    (later : Guarded Follows rest) : Guarded Follows (body ++ '"' :: rest) := by
  intro front behind split opens
  rcases List.append_eq_append_iff.mp split with ⟨more, rfl, is⟩ | ⟨more, inner, is⟩
  · cases more with
    | nil =>
      obtain ⟨_, rfl⟩ := List.cons.inj is
      exact follows
    | cons c more =>
      obtain ⟨rfl, behind_is⟩ := List.cons.inj is
      have moved : body ++ '"' :: more = (body ++ ['"']) ++ more := by simp
      rw [moved] at opens
      rcases opens.of_append with before | after
      · obtain ⟨c, last, kind⟩ := before.last
        rw [List.getLast?_concat] at last
        obtain rfl := Option.some.inj last
        rcases kind with kind | kind <;> exact absurd kind (by decide)
      · exact later more behind behind_is after
  · cases more with
    | nil =>
      obtain ⟨_, rfl⟩ := List.cons.inj is
      exact follows
    | cons c more =>
      obtain ⟨rfl, _⟩ := List.cons.inj is
      obtain ⟨c, last, kind⟩ := opens.last
      rw [is_body.quotation inner] at last
      obtain rfl := Option.some.inj last
      rcases kind with kind | kind <;> exact absurd kind (by decide)

end Guards

-- An object that is read, unless it is empty, starts with a brace, a key and a colon.
theorem readValue_key {lone : Option Char} {nesting : Nat} {text rest : List Char}
    {field : String × Value} {fields : List (String × Value)}
    (read : readValue lone nesting text = some (.object (field :: fields), rest)) :
    ∃ blanks more key after, text = '{' :: (blanks ++ '"' :: more) ∧
      (∀ c ∈ blanks, blank c = true) ∧ readString lone more = some (key, after) ∧
        (skip after).head? = some ':' := by
  have no_scalar {text : List Char} : readScalar lone text ≠ some (.object (field :: fields), rest) := by
    unfold readScalar
    split <;> simp [readNumber]
  cases nesting with
  | zero => exact absurd read no_scalar
  | succ nesting =>
    unfold readValue at read
    split at read
    · obtain ⟨_, _, same⟩ := Option.map_eq_some_iff.mp read
      cases same
    · next inner =>
      obtain ⟨⟨found, after⟩, members, same⟩ := Option.map_eq_some_iff.mp read
      obtain rfl : found = field :: fields := Value.object.inj (Prod.mk.inj same).1
      have start : inner = inner.takeWhile blank ++ skip inner :=
        (List.takeWhile_append_dropWhile).symm
      unfold readMembers at members
      split at members
      · cases members
      · next c behind next =>
        split_ifs at members
        · cases members
        · cases length : inner.length with
          | zero =>
            rw [length] at members
            cases members
          | succ fuel =>
            rw [length, readRest] at members
            obtain ⟨⟨item, left⟩, one, _⟩ := Option.bind_eq_some_iff.mp members
            unfold readField at one
            split at one
            · next more is =>
              obtain ⟨⟨key, ended⟩, named, colon⟩ := Option.bind_eq_some_iff.mp one
              refine ⟨inner.takeWhile blank, more, key, ended, ?_, ?_, named, ?_⟩
              · rw [← is, ← next, ← start]
              · exact fun c member => List.mem_takeWhile_imp member
              · simp only at colon
                split at colon
                · next behind colon_is => rw [colon_is]; rfl
                · cases colon
            · cases one
    · exact absurd read no_scalar

theorem Reader.read_key {reader : Reader} {text : List Char} {field : String × Value}
    {fields : List (String × Value)} (read : reader.read text = some (.object (field :: fields))) :
    ∃ ahead blanks more key after, text = ahead ++ '{' :: (blanks ++ '"' :: more) ∧
      (∀ c ∈ blanks, blank c = true) ∧ readString reader.lone more = some (key, after) ∧
        (skip after).head? = some ':' := by
  have start : text = text.takeWhile blank ++ skip text := (List.takeWhile_append_dropWhile).symm
  unfold Reader.read at read
  split at read
  · next value rest made =>
    split_ifs at read
    obtain rfl := Option.some.inj read
    obtain ⟨blanks, more, key, after, is, all, named, colon⟩ := readValue_key made
    exact ⟨_, blanks, more, key, after, is ▸ start, all, named, colon⟩
  · cases read

end Json
