import Mathlib.Data.List.TakeWhile
import SystemScale.Lib.Json

set_option autoImplicit false

/-!
# Laws of JSON texts

`Reader.read_write` says that what one side writes the other reads back, whatever the style.
-/

namespace Json

variable (style : Style)

/-! ## Characters -/

theorem hexValue_digitChar : ∀ digit < 16, hexValue digit.digitChar = some digit := by decide

theorem readHex_unicode {unit : Nat} (small : unit < 0x10000) (rest : List Char) :
    readHex ((unicode unit).drop 2 ++ rest) = some (unit, rest) := by
  have first := hexValue_digitChar (unit / 4096) (by omega)
  have second := hexValue_digitChar (unit / 256 % 16) (by omega)
  have third := hexValue_digitChar (unit / 16 % 16) (by omega)
  have fourth := hexValue_digitChar (unit % 16) (by omega)
  have whole : unit / 4096 * 4096 + unit / 256 % 16 * 256 + unit / 16 % 16 * 16 + unit % 16 =
      unit := by omega
  simp [unicode, readHex, first, second, third, fourth, whole]

theorem readChar_unicode (lone : Option Char) (unit : Nat) (rest : List Char) :
    readChar lone (unicode unit ++ rest) =
      readUnicode lone ((unicode unit).drop 2 ++ rest) := by
  simp [unicode, readChar]

theorem readUnicode_basic (lone : Option Char) (c : Char) (small : c.toNat < 0x10000)
    (rest : List Char) :
    readUnicode lone ((unicode c.toNat).drop 2 ++ rest) = some (c, rest) := by
  have range : c.toNat < 0xD800 ∨ 0xDFFF < c.toNat ∧ c.toNat < 0x110000 := c.valid
  have high : ¬(0xD800 ≤ c.toNat ∧ c.toNat < 0xDC00) := by omega
  have low : ¬(0xDC00 ≤ c.toNat ∧ c.toNat < 0xE000) := by omega
  simp only [readUnicode, readHex_unicode small, Option.bind_eq_bind, Option.bind_some,
    if_neg high, if_neg low, Char.ofNat_toNat]

theorem readUnicode_pair (lone : Option Char) (c : Char) (large : 0x10000 ≤ c.toNat)
    (rest : List Char) :
    readUnicode lone ((unicode (0xD800 + (c.toNat - 0x10000) / 0x400)).drop 2 ++
      (unicode (0xDC00 + (c.toNat - 0x10000) % 0x400) ++ rest)) = some (c, rest) := by
  have range : c.toNat < 0xD800 ∨ 0xDFFF < c.toNat ∧ c.toNat < 0x110000 := c.valid
  have low : readLow (unicode (0xDC00 + (c.toNat - 0x10000) % 0x400) ++ rest) =
      some (0xDC00 + (c.toNat - 0x10000) % 0x400, rest) := by
    have read := readHex_unicode (show 0xDC00 + (c.toNat - 0x10000) % 0x400 < 0x10000 by omega) rest
    simp only [unicode, List.drop_succ_cons, List.drop_zero] at read
    simp only [unicode, List.cons_append, List.nil_append] at read ⊢
    rw [readLow, read, Option.filter_some, if_pos]
    simp
    omega
  have whole : 0x10000 + (0xD800 + (c.toNat - 0x10000) / 0x400 - 0xD800) * 0x400 +
      (0xDC00 + (c.toNat - 0x10000) % 0x400 - 0xDC00) = c.toNat := by omega
  have high : 0xD800 ≤ 0xD800 + (c.toNat - 0x10000) / 0x400 ∧
      0xD800 + (c.toNat - 0x10000) / 0x400 < 0xDC00 := by omega
  rw [readUnicode, readHex_unicode (by omega), Option.bind_eq_bind, Option.bind_some]
  simp only [if_pos high, low, whole, Char.ofNat_toNat]

theorem expand_shorthand {c mark : Char} (short : shorthand c = some mark) :
    expand mark = some c ∧ mark ≠ 'u' := by
  unfold shorthand at short
  split_ifs at short with h h h h h h h <;> obtain rfl := Option.some.inj short <;>
    subst h <;> decide

theorem shorthand_none {c : Char} (long : shorthand c = none) : c ≠ '"' ∧ c ≠ '\\' := by
  constructor
  · rintro rfl
    simp [shorthand] at long
  · rintro rfl
    simp [shorthand] at long

theorem Style.readChar_escape (lone : Option Char) (c : Char) (rest : List Char) :
    readChar lone (style.escape c ++ rest) = some (c, rest) := by
  unfold Style.escape
  cases short : shorthand c with
  | some mark =>
    obtain ⟨expanded, other⟩ := expand_shorthand short
    simp [readChar, other, expanded]
  | none =>
    obtain ⟨quotation, backslash⟩ := shorthand_none short
    by_cases raw : style.raw c
    · have printable := style.printable c raw
      simp [raw, readChar, quotation, backslash, Nat.not_lt.mpr printable]
    · by_cases small : c.toNat < 0x10000
      · simp only [raw, small, if_true, Bool.false_eq_true, if_false]
        rw [readChar_unicode, readUnicode_basic lone c small]
      · simp only [raw, small, Bool.false_eq_true, if_false, List.append_assoc]
        rw [readChar_unicode, readUnicode_pair lone c (by omega)]

/-! ## Strings -/

section Written

variable {A : Type} {lone : Option Char} {write : A → List Char} {char : A → Char}
  (back : ∀ item rest, readChar lone (write item ++ rest) = some (char item, rest))

include back

theorem readChars_written (items : List A) (rest : List Char) (fuel : Nat)
    (enough : items.length < fuel) :
    readChars lone fuel (items.flatMap write ++ '"' :: rest) = some (items.map char, rest) := by
  induction items generalizing fuel with
  | nil =>
    obtain ⟨fuel, rfl⟩ : ∃ less, fuel = less + 1 := ⟨fuel - 1, by simp at enough; omega⟩
    simp [readChars, readChar, readQuotation]
  | cons item items ih =>
    obtain ⟨fuel, rfl⟩ : ∃ less, fuel = less + 1 := ⟨fuel - 1, by simp at enough; omega⟩
    have later := ih fuel (by simp at enough; omega)
    rw [List.flatMap_cons, List.append_assoc, readChars, back]
    simp only [later, Option.map_some, List.map_cons]

theorem length_le_written (items : List A) : items.length ≤ (items.flatMap write).length := by
  induction items with
  | nil => simp
  | cons item items ih =>
    have solid : write item ≠ [] := by
      intro empty
      have read := back item []
      simp [empty, readChar] at read
    have := List.length_pos_of_ne_nil solid
    simp only [List.flatMap_cons, List.length_append, List.length_cons]
    omega

theorem readString_written (items : List A) (rest : List Char) :
    readString lone (items.flatMap write ++ '"' :: rest) =
      some (String.ofList (items.map char), rest) := by
  have enough := length_le_written back items
  have room : items.length < (items.flatMap write ++ '"' :: rest).length + 1 := by
    rw [List.length_append]
    omega
  rw [readString, readChars_written back items rest _ room]
  rfl

end Written

theorem Style.readString_escape (lone : Option Char) (text : String) (rest : List Char) :
    readString lone (text.toList.flatMap style.escape ++ '"' :: rest) = some (text, rest) := by
  rw [readString_written (style.readChar_escape lone) text.toList rest]
  simp

/-- What may follow a value: no character that a number could go on with. -/
def Ends (rest : List Char) : Prop := ∀ c, rest.head? = some c → numeric c = false

theorem readNumber_literal (number : Number) {rest : List Char} (ends : Ends rest) :
    readNumber (number.literal ++ rest) = some (.number number, rest) := by
  have spelled : ∀ c ∈ number.literal, numeric c = true := List.all_eq_true.mp number.spelled
  have stop : rest.takeWhile numeric = [] ∧ rest.dropWhile numeric = rest := by
    cases rest with
    | nil => simp
    | cons c rest =>
      have other := ends c rfl
      simp [other]
  have taken : (number.literal ++ rest).takeWhile numeric = number.literal := by
    rw [List.takeWhile_append_of_pos spelled, stop.1, List.append_nil]
  have dropped : (number.literal ++ rest).dropWhile numeric = rest := by
    rw [List.dropWhile_append_of_pos spelled, stop.2]
  simp only [readNumber, taken, dropped]
  rw [dif_pos ⟨number.spelled, number.wellFormed⟩]

theorem Number.literal_ne_nil (number : Number) : number.literal ≠ [] := by
  intro empty
  have wellFormed := number.wellFormed
  rw [empty] at wellFormed
  simp [isNumber, isUnsigned] at wellFormed

theorem numeric_start {c : Char} (digit : numeric c = true) :
    blank c = false ∧ c ≠ '[' ∧ c ≠ '{' ∧ c ≠ ']' ∧ c ≠ '}' ∧ c ≠ '"' ∧ c ≠ 'n' ∧ c ≠ 't' ∧
      c ≠ 'f' := by
  refine ⟨?_, ?_, ?_, ?_, ?_, ?_, ?_, ?_, ?_⟩
  · by_contra space
    simp only [blank, Bool.not_eq_false, Bool.or_eq_true, decide_eq_true_eq] at space
    rcases space with ((rfl | rfl) | rfl) | rfl <;> revert digit <;> decide
  all_goals
    rintro rfl
    revert digit
    decide

theorem readValue_literal (lone : Option Char) (nesting : Nat) (number : Number)
    {rest : List Char} (ends : Ends rest) :
    readValue lone nesting (number.literal ++ rest) = some (.number number, rest) := by
  have read := readNumber_literal number ends
  have spelled := number.spelled
  cases literal : number.literal with
  | nil => exact absurd literal number.literal_ne_nil
  | cons c tail =>
    rw [literal] at read spelled
    obtain ⟨_, array, object, _, _, quotation, null, yes, no⟩ :=
      numeric_start (List.all_eq_true.mp spelled c (by simp))
    have scalar : readScalar lone (c :: tail ++ rest) = some (.number number, rest) := by
      rw [← read, List.cons_append, readScalar]
      · exact fun more same => quotation (List.cons.inj same).1
      · exact fun more same => null (List.cons.inj same).1
      · exact fun more same => yes (List.cons.inj same).1
      · exact fun more same => no (List.cons.inj same).1
    cases nesting with
    | zero => exact scalar
    | succ nesting =>
      rw [← scalar, List.cons_append, readValue]
      · exact fun more same => array (List.cons.inj same).1
      · exact fun more same => object (List.cons.inj same).1

theorem skip_cons {c : Char} (solid : blank c = false) (rest : List Char) :
    skip (c :: rest) = c :: rest := by
  simp [skip, solid]

theorem Style.skip_space (text : List Char) : skip (style.space ++ text) = skip text := by
  refine List.dropWhile_append_of_pos fun c member => ?_
  rw [style.gap c member]
  rfl

section Separated

variable {M : Type} {member : List Char → Option (M × List Char)} {close : Char}

/-- A text that `member` reads, whatever ends it. -/
structure Reads (member : List Char → Option (M × List Char)) (close : Char) (item : M)
    (text : List Char) : Prop where
  head : ∃ c tail, text = c :: tail ∧ blank c = false ∧ c ≠ close
  back : ∀ rest, Ends rest → member (text ++ rest) = some (item, rest)

theorem Reads.skip_text {item : M} {text : List Char} (reads : Reads member close item text)
    (rest : List Char) : skip (text ++ rest) = text ++ rest := by
  obtain ⟨c, tail, rfl, solid, _⟩ := reads.head
  exact skip_cons solid (tail ++ rest)

theorem ends_cons {c : Char} (stop : numeric c = false) (rest : List Char) :
    Ends (c :: rest) := by
  rintro other ⟨⟩
  exact stop

theorem Style.readRest_separated (comma : close ≠ ',') (solid : blank close = false)
    (stop : numeric close = false) (items : List (M × List Char)) (some_item : items ≠ [])
    (reads : ∀ item ∈ items, Reads member close item.1 item.2) (rest : List Char) (fuel : Nat)
    (enough : items.length ≤ fuel) :
    readRest member close fuel (style.separate (items.map Prod.snd) ++ close :: rest) =
      some (items.map Prod.fst, rest) := by
  induction items generalizing fuel with
  | nil => exact absurd rfl some_item
  | cons item items ih =>
    obtain ⟨fuel, rfl⟩ : ∃ less, fuel = less + 1 := ⟨fuel - 1, by simp at enough; omega⟩
    have first := (reads item (by simp)).back
    cases items with
    | nil =>
      rw [List.map_singleton, Style.separate, readRest, first _ (ends_cons stop rest)]
      simp only [Option.bind_eq_bind, Option.bind_some, skip_cons solid, if_neg comma, if_true,
        List.map_singleton]
    | cons next items =>
      have later := ih (by simp) (fun other member => reads other (List.mem_cons_of_mem _ member))
        fuel (by simp at enough ⊢; omega)
      have begins := (reads next (by simp)).skip_text
      have skipped : skip (style.separate ((next :: items).map Prod.snd) ++ close :: rest) =
          style.separate ((next :: items).map Prod.snd) ++ close :: rest := by
        cases items with
        | nil => exact begins _
        | cons other items =>
          simp only [List.map_cons, Style.separate, List.append_assoc]
          exact begins _
      have comma_stops : Ends (',' :: (style.space ++
          (style.separate ((next :: items).map Prod.snd) ++ close :: rest))) :=
        ends_cons (by decide) _
      simp only [List.map_cons] at later skipped comma_stops ⊢
      simp only [Style.separate, List.append_assoc, List.cons_append] at later skipped comma_stops ⊢
      rw [readRest, first _ comma_stops]
      simp only [Option.bind_eq_bind, Option.bind_some, skip_cons (show blank ',' = false by decide),
        if_true, style.skip_space, skipped, later]

theorem Style.length_le_separate (texts : List (List Char)) (solid : ∀ text ∈ texts, text ≠ []) :
    texts.length ≤ (style.separate texts).length := by
  induction texts with
  | nil => simp
  | cons text texts ih =>
    have later := ih fun other member => solid other (List.mem_cons_of_mem _ member)
    have first := List.length_pos_of_ne_nil (solid text (by simp))
    cases texts with
    | nil => exact first
    | cons next texts =>
      simp only [Style.separate, List.length_append, List.length_cons] at later ⊢
      omega

-- Members that are read of texts of their own are read of the texts together.
theorem Style.readMembers_separated (comma : close ≠ ',') (solid : blank close = false)
    (stop : numeric close = false) (items : List (M × List Char))
    (reads : ∀ item ∈ items, Reads member close item.1 item.2) (rest : List Char) :
    readMembers member close (style.separate (items.map Prod.snd) ++ close :: rest) =
      some (items.map Prod.fst, rest) := by
  cases items with
  | nil =>
    rw [List.map_nil, Style.separate, List.nil_append, readMembers, skip_cons solid]
    simp only [if_true, List.map_nil]
  | cons item items =>
    have room := style.length_le_separate ((item :: items).map Prod.snd) (by
      intro text member
      obtain ⟨other, among, rfl⟩ := List.mem_map.mp member
      obtain ⟨c, tail, text, _⟩ := (reads other among).head
      simp [text])
    have read := style.readRest_separated comma solid stop (item :: items) (by simp) reads rest
      (style.separate ((item :: items).map Prod.snd) ++ close :: rest).length (by
        simp only [List.length_map, List.length_append] at room ⊢
        omega)
    obtain ⟨c, tail, text, start, other⟩ := (reads item (by simp)).head
    obtain ⟨more, split⟩ : ∃ more, style.separate ((item :: items).map Prod.snd) ++ close :: rest =
        c :: more := by
      cases items with
      | nil => exact ⟨_, by rw [List.map_singleton, Style.separate, text, List.cons_append]⟩
      | cons next items =>
        exact ⟨_, by simp only [List.map_cons, Style.separate, text, List.cons_append]; rfl⟩
    rw [← read, split, readMembers, skip_cons start]
    simp only [if_neg other]

theorem Style.readMembers_separate (comma : close ≠ ',') (solid : blank close = false)
    (stop : numeric close = false) (write : M → List Char) (items : List M)
    (reads : ∀ item ∈ items, Reads member close item (write item)) (rest : List Char) :
    readMembers member close (style.separate (items.map write) ++ close :: rest) =
      some (items, rest) := by
  have read := style.readMembers_separated comma solid stop
    (items.map fun item => (item, write item)) (by simpa using reads) rest
  simpa [Function.comp_def] using read

end Separated

theorem writeItems_eq (items : List Value) : writeItems style items = items.map (·.write style) := by
  induction items with
  | nil => simp [writeItems]
  | cons item items ih => simp [writeItems, ih]

def Style.writeField (field : String × Value) : List Char :=
  style.quote field.1 ++ ':' :: style.space ++ field.2.write style

theorem writeFields_eq (fields : List (String × Value)) :
    writeFields style fields = fields.map style.writeField := by
  induction fields with
  | nil => simp [writeFields]
  | cons field fields ih => simp [writeFields, Style.writeField, ih]

theorem Value.write_head (value : Value) :
    ∃ c tail, value.write style = c :: tail ∧ blank c = false ∧ c ≠ ']' := by
  cases value with
  | null => exact ⟨_, _, by rw [Value.write], by decide, by decide⟩
  | bool value => cases value <;> exact ⟨_, _, by rw [Value.write], by decide, by decide⟩
  | number number =>
    have spelled := number.spelled
    rw [Value.write]
    cases literal : number.literal with
    | nil => exact absurd literal number.literal_ne_nil
    | cons c tail =>
      rw [literal] at spelled
      obtain ⟨solid, _, _, bracket, _⟩ :=
        numeric_start (List.all_eq_true.mp spelled c (by simp))
      exact ⟨c, tail, rfl, solid, bracket⟩
  | string text => exact ⟨'"', _, rfl, by decide, by decide⟩
  | array items => exact ⟨'[', _, rfl, by decide, by decide⟩
  | object fields => exact ⟨'{', _, rfl, by decide, by decide⟩

theorem readField_writeField {lone : Option Char}
    {read : List Char → Option (Value × List Char)} (field : String × Value)
    (back : ∀ rest, Ends rest → read (field.2.write style ++ rest) = some (field.2, rest)) :
    Reads (readField lone read) '}' field (style.writeField field) where
  head := ⟨'"', _, rfl, by decide, by decide⟩
  back rest ends := by
    obtain ⟨c, tail, text, solid, _⟩ := field.2.write_head style
    have value : skip (style.space ++ (field.2.write style ++ rest)) = field.2.write style ++ rest := by
      rw [style.skip_space, text, List.cons_append, skip_cons solid]
    have key := style.readString_escape lone field.1
      (':' :: (style.space ++ (field.2.write style ++ rest)))
    have colon : blank ':' = false := by decide
    simp only [Style.writeField, Style.quote, List.append_assoc, List.cons_append, List.nil_append,
      readField, key, Option.bind_eq_bind, Option.bind_some, skip_cons colon, value,
      back rest ends]

-- A reader that goes deep enough reads back what was written.
theorem readValue_write (lone : Option Char) (nesting : Nat) (value : Value)
    (within : value.Within nesting) (rest : List Char) (ends : Ends rest) :
    readValue lone nesting (value.write style ++ rest) = some (value, rest) := by
  induction nesting generalizing value rest with
  | zero =>
    cases value with
    | null => rfl
    | bool value => cases value <;> rfl
    | number number => exact readValue_literal lone 0 number ends
    | string text =>
      have read := style.readString_escape lone text rest
      simp [Value.write, Style.quote, readValue, readScalar, read]
    | array items => exact within.elim
    | object fields => exact within.elim
  | succ nesting ih =>
    cases value with
    | null => rfl
    | bool value => cases value <;> rfl
    | number number => exact readValue_literal lone (nesting + 1) number ends
    | string text =>
      have read := style.readString_escape lone text rest
      simp [Value.write, Style.quote, readValue, readScalar, read]
    | array items =>
      have reads : ∀ item ∈ items, Reads (readValue lone nesting) ']' item (item.write style) :=
        fun item among => ⟨item.write_head style, fun rest => ih item (within item among) rest⟩
      have read := style.readMembers_separate (by decide) (by decide) (by decide)
        (fun item => item.write style) items reads rest
      simp [Value.write, writeItems_eq, readValue, read]
    | object fields =>
      have reads : ∀ field ∈ fields,
          Reads (readField lone (readValue lone nesting)) '}' field (style.writeField field) :=
        fun field among => readField_writeField style field (ih field.2 (within field among))
      have read := style.readMembers_separate (by decide) (by decide) (by decide) style.writeField
        fields reads rest
      simp [Value.write, writeFields_eq, readValue, read]

theorem Value.skip_write (value : Value) (rest : List Char) :
    skip (value.write style ++ rest) = value.write style ++ rest := by
  obtain ⟨c, tail, text, solid, _⟩ := value.write_head style
  rw [text, List.cons_append, skip_cons solid]

-- What was written is read back, whatever a stream has after it.
theorem Reader.first_write_append (reader : Reader) (value : Value)
    (within : value.Within reader.nesting) (rest : List Char) (ends : Ends rest) :
    reader.first (value.write style ++ rest) = some value := by
  rw [Reader.first, value.skip_write style rest,
    readValue_write style reader.lone reader.nesting value within rest ends]
  rfl

-- A text may have blanks after its value.
theorem Reader.read_write_append (reader : Reader) (value : Value)
    (within : value.Within reader.nesting) {rest : List Char}
    (blanks : ∀ c ∈ rest, blank c = true) :
    reader.read (value.write style ++ rest) = some value := by
  have ends : Ends rest := by
    intro c first
    have is_blank := blanks c (List.mem_of_mem_head? first)
    unfold blank at is_blank
    simp only [Bool.or_eq_true, decide_eq_true_eq] at is_blank
    rcases is_blank with ((rfl | rfl) | rfl) | rfl <;> decide
  have skipped : skip rest = [] := List.dropWhile_eq_nil_iff.mpr blanks
  rw [Reader.read, value.skip_write style rest,
    readValue_write style reader.lone reader.nesting value within rest ends]
  simp [skipped]

theorem Reader.read_write (reader : Reader) (value : Value)
    (within : value.Within reader.nesting) :
    reader.read (value.write style) = some value := by
  have read := reader.read_write_append style value within (fun c none => absurd none List.not_mem_nil)
  rwa [List.append_nil] at read

theorem Reader.first_write (reader : Reader) (value : Value)
    (within : value.Within reader.nesting) :
    reader.first (value.write style) = some value := by
  have read := reader.first_write_append style value within [] (fun _ none => by simp at none)
  rwa [List.append_nil] at read

/-! ## Integers -/

theorem toDigits_start {n : Nat} (positive : 0 < n) :
    ∃ c rest, Nat.toDigits 10 n = c :: rest ∧ c ≠ '0' := by
  induction n using Nat.strongRecOn with
  | _ n ih =>
    by_cases small : n < 10
    · refine ⟨n.digitChar, [], Nat.toDigits_of_lt_base small, ?_⟩
      have table : ∀ digit < 10, 0 < digit → digit.digitChar ≠ '0' := by decide
      exact table n small positive
    · obtain ⟨c, rest, text, start⟩ := ih (n / 10) (by omega) (by omega)
      refine ⟨c, rest ++ [(n % 10).digitChar], ?_, start⟩
      rw [Nat.toDigits_of_base_le (by omega) (by omega), text, List.cons_append]

theorem isDigit_toDigits (n : Nat) : ∀ c ∈ Nat.toDigits 10 n, c.isDigit = true :=
  fun _ member => Nat.isDigit_of_mem_toDigits (by omega) (by omega) member

theorem isDigits_toDigits (n : Nat) : isDigits (Nat.toDigits 10 n) = true := by
  have digits := List.all_eq_true.mpr (isDigit_toDigits n)
  have some_digit := List.isEmpty_eq_false_iff.mpr (Nat.toDigits_ne_nil (b := 10) (n := n))
  simp [isDigits, digits, some_digit]

theorem isUnsigned_toDigits (n : Nat) : isUnsigned (Nat.toDigits 10 n) = true := by
  rcases Nat.eq_zero_or_pos n with rfl | positive
  · decide
  · obtain ⟨c, rest, text, start⟩ := toDigits_start positive
    have digits := isDigit_toDigits n
    rw [text] at digits
    have taken : (c :: rest).takeWhile Char.isDigit = c :: rest :=
      List.takeWhile_eq_self_iff.mpr digits
    have dropped : (c :: rest).dropWhile Char.isDigit = [] :=
      List.dropWhile_eq_nil_iff.mpr digits
    rw [text, isUnsigned]
    · rw [taken, dropped]
      rfl
    · exact fun _ same => start (List.cons.inj same).1

theorem numeric_toDigits (n : Nat) : (Nat.toDigits 10 n).all numeric = true :=
  List.all_eq_true.mpr fun c member => by simp [numeric, isDigit_toDigits n c member]

theorem toDigits_unsigned {n : Nat} {rest : List Char} : Nat.toDigits 10 n ≠ '-' :: rest := by
  intro text
  have digit := isDigit_toDigits n '-' (by simp [text])
  revert digit
  decide

def integerLiteral : Int → List Char
  | .ofNat n => Nat.toDigits 10 n
  | .negSucc n => '-' :: Nat.toDigits 10 (n + 1)

def Number.ofInt (value : Int) : Number where
  literal := integerLiteral value
  spelled := by
    cases value with
    | ofNat n => exact numeric_toDigits n
    | negSucc n =>
      rw [integerLiteral, List.all_cons, numeric_toDigits]
      decide
  wellFormed := by
    cases value with
    | ofNat n =>
      rw [integerLiteral, isNumber]
      · exact isUnsigned_toDigits n
      · exact fun _ => toDigits_unsigned
    | negSucc n => exact isUnsigned_toDigits (n + 1)

/-- The value of a number that is written without a fraction or an exponent. -/
def Number.toInt? (number : Number) : Option Int :=
  match number.literal with
  | '-' :: digits => if isDigits digits then some (-Nat.ofDigitChars 10 digits 0) else none
  | digits => if isDigits digits then some (Nat.ofDigitChars 10 digits 0) else none

theorem Number.toInt?_ofInt (value : Int) : (Number.ofInt value).toInt? = some value := by
  cases value with
  | ofNat n =>
    simp only [Number.toInt?, Number.ofInt, integerLiteral]
    split
    · next text => exact absurd text toDigits_unsigned
    · simp [isDigits_toDigits]
  | negSucc n =>
    simp [Number.toInt?, Number.ofInt, integerLiteral, isDigits_toDigits, Int.negSucc_eq]

/-! ## No line breaks -/

def Printable (text : List Char) : Prop := ∀ c ∈ text, 0x20 ≤ c.toNat

instance (text : List Char) : Decidable (Printable text) :=
  List.decidableBAll (fun c : Char => 0x20 ≤ c.toNat) text

theorem printable_append {first second : List Char} :
    Printable (first ++ second) ↔ Printable first ∧ Printable second := by
  simp only [Printable, List.mem_append, or_imp, forall_and]

theorem printable_cons {c : Char} {rest : List Char} :
    Printable (c :: rest) ↔ 0x20 ≤ c.toNat ∧ Printable rest := by
  simp [Printable]

theorem printable_nil : Printable [] := by simp [Printable]

theorem printable_digitChar : ∀ digit < 16, 0x20 ≤ digit.digitChar.toNat := by decide

theorem printable_unicode {unit : Nat} (small : unit < 0x10000) : Printable (unicode unit) := by
  have first := printable_digitChar (unit / 4096) (by omega)
  have second := printable_digitChar (unit / 256 % 16) (by omega)
  have third := printable_digitChar (unit / 16 % 16) (by omega)
  have fourth := printable_digitChar (unit % 16) (by omega)
  simp only [unicode, printable_cons, first, second, third, fourth, printable_nil, and_self,
    and_true]
  decide

theorem printable_shorthand {c mark : Char} (short : shorthand c = some mark) :
    0x20 ≤ mark.toNat := by
  unfold shorthand at short
  split_ifs at short <;> obtain rfl := Option.some.inj short <;> decide

theorem Style.printable_escape (c : Char) : Printable (style.escape c) := by
  have range : c.toNat < 0xD800 ∨ 0xDFFF < c.toNat ∧ c.toNat < 0x110000 := c.valid
  unfold Style.escape
  cases short : shorthand c with
  | some mark =>
    have visible := printable_shorthand short
    simp only [printable_cons, visible, printable_nil, and_true]
    decide
  | none =>
    by_cases raw : style.raw c
    · simp only [raw, if_true, printable_cons, style.printable c raw, printable_nil, and_self]
    · by_cases small : c.toNat < 0x10000
      · simp only [raw, small, if_true, Bool.false_eq_true, if_false]
        exact printable_unicode small
      · simp only [raw, small, Bool.false_eq_true, if_false]
        exact printable_append.mpr ⟨printable_unicode (by omega), printable_unicode (by omega)⟩

theorem Style.printable_quote (text : String) : Printable (style.quote text) := by
  have inner : Printable (text.toList.flatMap style.escape) := by
    intro c member
    obtain ⟨source, _, among⟩ := List.mem_flatMap.mp member
    exact style.printable_escape source c among
  rw [Style.quote, List.cons_append, printable_cons, printable_append]
  exact ⟨by decide, inner, by decide⟩

theorem Style.printable_space : Printable style.space := by
  intro c member
  rw [style.gap c member]
  decide

theorem Style.printable_separate (texts : List (List Char)) (each : ∀ text ∈ texts, Printable text) :
    Printable (style.separate texts) := by
  induction texts with
  | nil => exact printable_nil
  | cons text texts ih =>
    have first := each text (by simp)
    have later := ih fun other member => each other (List.mem_cons_of_mem _ member)
    cases texts with
    | nil => exact first
    | cons next texts =>
      simp only [Style.separate, printable_append, printable_cons]
      exact ⟨⟨first, by decide, style.printable_space⟩, later⟩

theorem printable_numeric {c : Char} (is : numeric c = true) : 0x20 ≤ c.toNat := by
  simp only [numeric, Char.isDigit, Bool.or_eq_true, Bool.and_eq_true, decide_eq_true_eq] at is
  rcases is with (((((⟨low, _⟩ | rfl) | rfl) | rfl) | rfl) | rfl)
  · exact Nat.le_trans (by decide) low
  all_goals decide

theorem Number.printable (number : Number) : Printable number.literal := fun c member =>
  printable_numeric (List.all_eq_true.mp number.spelled c member)

theorem Value.printable_write (nesting : Nat) (value : Value) (within : value.Within nesting) :
    Printable (value.write style) := by
  induction nesting generalizing value with
  | zero =>
    cases value with
    | null => simp only [Value.write]; decide
    | bool value => cases value <;> simp only [Value.write] <;> decide
    | number number => exact number.printable
    | string text => exact style.printable_quote text
    | array items => exact within.elim
    | object fields => exact within.elim
  | succ nesting ih =>
    cases value with
    | null => simp only [Value.write]; decide
    | bool value => cases value <;> simp only [Value.write] <;> decide
    | number number => exact number.printable
    | string text => exact style.printable_quote text
    | array items =>
      have inner := style.printable_separate (writeItems style items) (by
        rw [writeItems_eq]
        intro text member
        obtain ⟨item, among, rfl⟩ := List.mem_map.mp member
        exact ih item (within item among))
      rw [Value.write, List.cons_append, printable_cons, printable_append]
      exact ⟨by decide, inner, by decide⟩
    | object fields =>
      have inner := style.printable_separate (writeFields style fields) (by
        rw [writeFields_eq]
        intro text member
        obtain ⟨field, among, rfl⟩ := List.mem_map.mp member
        rw [Style.writeField, printable_append, printable_append, printable_cons]
        exact ⟨⟨style.printable_quote field.1, by decide, style.printable_space⟩,
          ih field.2 (within field among)⟩)
      rw [Value.write, List.cons_append, printable_cons, printable_append]
      exact ⟨by decide, inner, by decide⟩

/-! ## What a reader makes -/

section Members

variable {M : Type} {close : Char}

theorem readRest_mono {first second : List Char → Option (M × List Char)}
    (more : ∀ text result, first text = some result → second text = some result) {fuel : Nat}
    {text : List Char} {result : List M × List Char}
    (read : readRest first close fuel text = some result) :
    readRest second close fuel text = some result := by
  induction fuel generalizing text result with
  | zero => simp [readRest] at read
  | succ fuel ih =>
    rw [readRest] at read ⊢
    obtain ⟨⟨item, rest⟩, one, others⟩ := Option.bind_eq_some_iff.mp read
    rw [more _ _ one]
    simp only [Option.bind_eq_bind, Option.bind_some] at others ⊢
    split at others
    · exact absurd others (by simp)
    · next c text found =>
      split_ifs at others with comma closed
      · obtain ⟨⟨items, after⟩, later, whole⟩ := Option.bind_eq_some_iff.mp others
        rw [if_pos comma, ih later]
        exact whole
      · rw [if_neg comma, if_pos closed]
        exact others

theorem readMembers_mono {first second : List Char → Option (M × List Char)}
    (more : ∀ text result, first text = some result → second text = some result)
    {text : List Char} {result : List M × List Char}
    (read : readMembers first close text = some result) :
    readMembers second close text = some result := by
  unfold readMembers at read ⊢
  split at read
  · exact read
  · split_ifs at read ⊢
    · exact read
    · exact readRest_mono more read

theorem readRest_forall {member : List Char → Option (M × List Char)} {P : M → Prop}
    (each : ∀ text item rest, member text = some (item, rest) → P item) {fuel : Nat}
    {text rest : List Char} {items : List M}
    (read : readRest member close fuel text = some (items, rest)) : ∀ item ∈ items, P item := by
  induction fuel generalizing text items rest with
  | zero => simp [readRest] at read
  | succ fuel ih =>
    rw [readRest] at read
    obtain ⟨⟨item, after⟩, one, others⟩ := Option.bind_eq_some_iff.mp read
    have first := each _ _ _ one
    simp only at others
    split at others
    · exact absurd others (by simp)
    · split_ifs at others
      · obtain ⟨⟨found, last⟩, later, whole⟩ := Option.bind_eq_some_iff.mp others
        obtain ⟨rfl, rfl⟩ := Prod.mk.inj (Option.some.inj whole)
        exact List.forall_mem_cons.mpr ⟨first, ih later⟩
      · obtain ⟨rfl, rfl⟩ := Prod.mk.inj (Option.some.inj others)
        simpa using first

theorem readMembers_forall {member : List Char → Option (M × List Char)} {P : M → Prop}
    (each : ∀ text item rest, member text = some (item, rest) → P item)
    {text rest : List Char} {items : List M}
    (read : readMembers member close text = some (items, rest)) : ∀ item ∈ items, P item := by
  unfold readMembers at read
  split at read
  · exact absurd read (by simp)
  · split_ifs at read
    · obtain ⟨rfl, rfl⟩ := Prod.mk.inj (Option.some.inj read)
      simp
    · exact readRest_forall each read

end Members

section Field

variable {lone : Option Char} {text rest : List Char}

theorem readField_some {value : List Char → Option (Value × List Char)} {field : String × Value}
    (read : readField lone value text = some (field, rest)) :
    ∃ text, value text = some (field.2, rest) := by
  unfold readField at read
  split at read
  · obtain ⟨⟨key, after⟩, _, colon⟩ := Option.bind_eq_some_iff.mp read
    simp only at colon
    split at colon
    · obtain ⟨⟨found, last⟩, one, whole⟩ := Option.bind_eq_some_iff.mp colon
      obtain ⟨rfl, rfl⟩ := Prod.mk.inj (Option.some.inj whole)
      exact ⟨_, one⟩
    · exact absurd colon (by simp)
  · exact absurd read (by simp)

theorem readField_mono {first second : List Char → Option (Value × List Char)}
    (more : ∀ text result, first text = some result → second text = some result)
    (text : List Char) (result : (String × Value) × List Char)
    (read : readField lone first text = some result) :
    readField lone second text = some result := by
  unfold readField at read ⊢
  split at read
  · obtain ⟨⟨key, after⟩, named, colon⟩ := Option.bind_eq_some_iff.mp read
    rw [named]
    simp only [Option.bind_eq_bind, Option.bind_some] at colon ⊢
    split at colon
    · obtain ⟨⟨found, last⟩, one, whole⟩ := Option.bind_eq_some_iff.mp colon
      rw [more _ _ one]
      exact whole
    · exact absurd colon (by simp)
  · exact absurd read (by simp)

end Field

section Depth

variable {lone : Option Char} {text rest : List Char}

theorem readScalar_within (nesting : Nat) {value : Value}
    (read : readScalar lone text = some (value, rest)) : value.Within nesting := by
  unfold readScalar at read
  split at read
  · obtain ⟨⟨string, after⟩, _, whole⟩ := Option.map_eq_some_iff.mp read
    obtain ⟨rfl, rfl⟩ := Prod.mk.inj whole
    cases nesting <;> trivial
  · obtain ⟨rfl, rfl⟩ := Prod.mk.inj (Option.some.inj read)
    cases nesting <;> trivial
  · obtain ⟨rfl, rfl⟩ := Prod.mk.inj (Option.some.inj read)
    cases nesting <;> trivial
  · obtain ⟨rfl, rfl⟩ := Prod.mk.inj (Option.some.inj read)
    cases nesting <;> trivial
  · unfold readNumber at read
    simp only at read
    split_ifs at read
    obtain ⟨rfl, rfl⟩ := Prod.mk.inj (Option.some.inj read)
    cases nesting <;> trivial

-- A reader makes no value that is deeper than it reads.
theorem readValue_within {nesting : Nat} {value : Value}
    (read : readValue lone nesting text = some (value, rest)) : value.Within nesting := by
  induction nesting generalizing value text rest with
  | zero => exact readScalar_within 0 read
  | succ nesting ih =>
    unfold readValue at read
    split at read
    · obtain ⟨⟨items, after⟩, members, whole⟩ := Option.map_eq_some_iff.mp read
      obtain ⟨rfl, rfl⟩ := Prod.mk.inj whole
      exact readMembers_forall (fun _ _ _ => ih) members
    · obtain ⟨⟨fields, after⟩, members, whole⟩ := Option.map_eq_some_iff.mp read
      obtain ⟨rfl, rfl⟩ := Prod.mk.inj whole
      refine readMembers_forall ?_ members
      intro text field rest one
      obtain ⟨text, found⟩ := readField_some one
      exact ih found
    · exact readScalar_within _ read

theorem readValue_succ {nesting : Nat} (text : List Char) (result : Value × List Char)
    (read : readValue lone nesting text = some result) :
    readValue lone (nesting + 1) text = some result := by
  induction nesting generalizing text result with
  | zero =>
    unfold readValue at read ⊢
    split
    · simp [readScalar, readNumber, isNumber, isUnsigned, numeric] at read
    · simp [readScalar, readNumber, isNumber, isUnsigned, numeric] at read
    · exact read
  | succ nesting ih =>
    unfold readValue at read ⊢
    split at read
    · obtain ⟨found, members, whole⟩ := Option.map_eq_some_iff.mp read
      rw [readMembers_mono ih members]
      exact congrArg some whole
    · obtain ⟨found, members, whole⟩ := Option.map_eq_some_iff.mp read
      rw [readMembers_mono (readField_mono ih) members]
      exact congrArg some whole
    · exact read

theorem readValue_mono {nesting deeper : Nat} (more : nesting ≤ deeper)
    {result : Value × List Char} (read : readValue lone nesting text = some result) :
    readValue lone deeper text = some result := by
  induction more with
  | refl => exact read
  | step _ ih => exact readValue_succ text result ih

theorem Value.within_succ {nesting : Nat} {value : Value} (within : value.Within nesting) :
    value.Within (nesting + 1) := by
  induction nesting generalizing value with
  | zero =>
    cases value with
    | array items => exact within.elim
    | object fields => exact within.elim
    | _ => trivial
  | succ nesting ih =>
    cases value with
    | array items => exact fun item member => ih (within item member)
    | object fields => exact fun field member => ih (within field member)
    | _ => trivial

theorem Value.within_mono {nesting deeper : Nat} (more : nesting ≤ deeper) {value : Value}
    (within : value.Within nesting) : value.Within deeper := by
  induction more with
  | refl => exact within
  | step _ ih => exact Value.within_succ ih

theorem exists_common {M : Type} (depth : M → Nat → Prop)
    (mono : ∀ item nesting deeper, nesting ≤ deeper → depth item nesting → depth item deeper)
    (items : List M) (each : ∀ item ∈ items, ∃ nesting, depth item nesting) :
    ∃ nesting, ∀ item ∈ items, depth item nesting := by
  induction items with
  | nil => exact ⟨0, by simp⟩
  | cons item items ih =>
    obtain ⟨first, within⟩ := each item (by simp)
    obtain ⟨others, all⟩ := ih fun item member => each item (List.mem_cons_of_mem _ member)
    refine ⟨max first others, List.forall_mem_cons.mpr ⟨?_, fun item member => ?_⟩⟩
    · exact mono _ _ _ (Nat.le_max_left _ _) within
    · exact mono _ _ _ (Nat.le_max_right _ _) (all item member)

theorem Value.exists_within : (value : Value) → ∃ nesting, value.Within nesting
  | .null => ⟨0, trivial⟩
  | .bool _ => ⟨0, trivial⟩
  | .number _ => ⟨0, trivial⟩
  | .string _ => ⟨0, trivial⟩
  | .array items => by
    obtain ⟨nesting, all⟩ := exists_common (fun item nesting => item.Within nesting)
      (fun _ _ _ more within => within_mono more within) items fun item member => exists_within item
    exact ⟨nesting + 1, all⟩
  | .object fields => by
    obtain ⟨nesting, all⟩ := exists_common (fun field nesting => field.2.Within nesting)
      (fun _ _ _ more within => within_mono more within) fields fun field member => exists_within field.2
    exact ⟨nesting + 1, all⟩
termination_by value => sizeOf value
decreasing_by
  · have smaller := List.sizeOf_lt_of_mem member
    simp only [array.sizeOf_spec]
    omega
  · have smaller := List.sizeOf_lt_of_mem member
    have inner : sizeOf field.2 < sizeOf field := by
      obtain ⟨key, inner⟩ := field
      simp only [Prod.mk.sizeOf_spec]
      omega
    simp only [object.sizeOf_spec]
    omega

theorem readValue_written {nesting : Nat} {value found : Value}
    (made : readValue lone nesting (value.write style) = some (found, rest)) :
    found = value ∧ value.Within nesting := by
  obtain ⟨depth, within⟩ := value.exists_within
  have deep : value.Within (max depth nesting) := Value.within_mono (Nat.le_max_left _ _) within
  have back := readValue_write style lone _ value deep [] (fun _ none => by simp at none)
  rw [List.append_nil, readValue_mono (Nat.le_max_right _ _) made] at back
  obtain ⟨rfl, _⟩ := Prod.mk.inj (Option.some.inj back)
  exact ⟨rfl, readValue_within made⟩

-- No value starts with a control character.
theorem readValue_control (lone : Option Char) (nesting : Nat) {c : Char} (rest : List Char)
    (low : c.toNat < 0x20) : readValue lone nesting (c :: rest) = none := by
  have other {d : Char} (printable : 0x20 ≤ d.toNat) : c ≠ d := by
    rintro rfl
    omega
  have no_number : numeric c = false := by
    by_contra is
    have printable := printable_numeric (by simpa using is)
    omega
  have scalar : readScalar lone (c :: rest) = none := by
    unfold readScalar
    split
    case h_5 => simp [readNumber, no_number, isNumber, isUnsigned]
    all_goals
      rename_i same
      exact absurd (List.cons.inj same).1 (other (by decide))
  cases nesting with
  | zero => exact scalar
  | succ nesting =>
    unfold readValue
    split
    case h_3 => exact scalar
    all_goals
      rename_i same
      exact absurd (List.cons.inj same).1 (other (by decide))

theorem Reader.read_starts {reader : Reader} {text : List Char} {value : Value}
    (read : reader.read text = some value) :
    ∃ c rest, text = c :: rest ∧ (blank c = true ∨ 0x20 ≤ c.toNat) := by
  cases text with
  | nil =>
    have nothing : readValue reader.lone reader.nesting [] = none := by
      cases reader.nesting <;> rfl
    simp [Reader.read, skip, nothing] at read
  | cons c rest =>
    refine ⟨c, rest, rfl, ?_⟩
    by_contra neither
    obtain ⟨solid, low⟩ := not_or.mp neither
    have nothing := readValue_control reader.lone reader.nesting rest (Nat.lt_of_not_le low)
    rw [Reader.read, skip_cons (by simpa using solid), nothing] at read
    cases read

-- What a reader makes of written text is the value that was written, if it goes deep enough.
theorem Reader.read_written {reader : Reader} {value found : Value}
    (read : reader.read (value.write style) = some found) :
    found = value ∧ value.Within reader.nesting := by
  have skipped := value.skip_write style []
  rw [List.append_nil] at skipped
  unfold Reader.read at read
  split at read
  · next found rest made =>
    split_ifs at read
    obtain rfl := Option.some.inj read
    rw [skipped] at made
    exact readValue_written style made
  · exact absurd read (by simp)

theorem Reader.first_written {reader : Reader} {value found : Value}
    (read : reader.first (value.write style) = some found) :
    found = value ∧ value.Within reader.nesting := by
  have skipped := value.skip_write style []
  rw [List.append_nil] at skipped
  obtain ⟨⟨found, rest⟩, made, rfl⟩ := Option.map_eq_some_iff.mp read
  rw [skipped] at made
  exact readValue_written style made

end Depth

/-! ## Lookups -/

section Lookups

variable {key : String}

theorem lookup_nil : lookup key [] = none := rfl

theorem lookup_append (first second : List (String × Value)) :
    lookup key (first ++ second) = (lookup key second).or (lookup key first) := by
  simp [lookup, List.find?_append, Option.map_or]

theorem lookup_single (name : String) (value : Value) :
    lookup key [(name, value)] = if key = name then some value else none := by
  by_cases same : key = name
  · simp [lookup, same]
  · simp [lookup, same, Ne.symm same]

theorem lookup_cons (name : String) (value : Value) (rest : List (String × Value)) :
    lookup key ((name, value) :: rest) =
      (lookup key rest).or (if key = name then some value else none) := by
  rw [← lookup_single, ← lookup_append, List.singleton_append]

theorem lookup_eq_none {fields : List (String × Value)} :
    lookup key fields = none ↔ key ∉ fields.map Prod.fst := by
  induction fields with
  | nil => simp [lookup]
  | cons field rest ih =>
    obtain ⟨name, value⟩ := field
    rw [lookup_cons, Option.or_eq_none_iff, ih, List.map_cons, List.mem_cons, not_or, and_comm]
    simp

theorem lookup_filter {keeps : String × Value → Bool} (kept : ∀ value, keeps (key, value) = true)
    (fields : List (String × Value)) : lookup key (fields.filter keeps) = lookup key fields := by
  induction fields with
  | nil => rfl
  | cons field rest ih =>
    obtain ⟨name, value⟩ := field
    rw [List.filter_cons, lookup_cons]
    split_ifs with keep same
    · rw [lookup_cons, ih, if_pos same]
    · rw [lookup_cons, ih, if_neg same]
    · next same =>
      subst same
      exact absurd (kept value) keep
    · rw [ih, Option.or_none]

theorem mem_of_lookup {value : Value} {fields : List (String × Value)}
    (found : lookup key fields = some value) : (key, value) ∈ fields := by
  obtain ⟨field, first, rfl⟩ := Option.map_eq_some_iff.mp found
  have named : field.1 = key := by simpa using List.find?_some first
  exact named ▸ List.mem_reverse.mp (List.mem_of_find?_eq_some first)

theorem lookup_unique {value : Value} {fields : List (String × Value)} (there : (key, value) ∈ fields)
    (only : ∀ other, (key, other) ∈ fields → other = value) : lookup key fields = some value := by
  cases found : lookup key fields with
  | none =>
    rw [lookup_eq_none] at found
    exact absurd (List.mem_map_of_mem there) found
  | some other => rw [only other (mem_of_lookup found)]

end Lookups

end Json
