import SystemScale.Lib.Float
import SystemScale.Lib.LineProtocol

set_option autoImplicit false

/-!
# Decimal texts of binary64 numbers

A text is read to the nearest number, a tie to the even one. A number is written with the fewest
digits that are read back to it, without an exponent.
-/

namespace Binary

/-! ## Reading -/

/-- The sign, the digits and the power of ten of a decimal text. -/
def decimalParts (literal : List Char) : Bool × Nat × Int :=
  let negative := literal.head? = some '-'
  let text := if negative then literal.tail else literal
  let whole := text.takeWhile Char.isDigit
  let rest := text.dropWhile Char.isDigit
  let fraction := if rest.head? = some '.' then rest.tail.takeWhile Char.isDigit else []
  let rest := if rest.head? = some '.' then rest.tail.dropWhile Char.isDigit else rest
  let exponent : Int :=
    match rest with
    | _ :: '-' :: digits => -Nat.ofDigitChars 10 digits 0
    | _ :: '+' :: digits => Nat.ofDigitChars 10 digits 0
    | _ :: digits => Nat.ofDigitChars 10 digits 0
    | [] => 0
  (negative, Nat.ofDigitChars 10 (whole ++ fraction) 0, exponent - fraction.length)

def divHalfEven (num den : Nat) : Nat :=
  if 2 * (num % den) > den ∨ (2 * (num % den) = den ∧ num / den % 2 = 1) then num / den + 1
  else num / den

/-- The bits of the number nearest to `num / den`, without its sign; `none` past the largest. -/
def nearest (num den : Nat) : Option Nat :=
  if num = 0 then some 0
  else
    let log : Int := (Nat.log2 num : Int) - Nat.log2 den
    let log := if num * 2 ^ (-log).toNat < den * 2 ^ log.toNat then log - 1 else log
    let place := max (log - 52) (-1074)
    let significand := divHalfEven (num * 2 ^ (-place).toNat) (den * 2 ^ place.toNat)
    let magnitude := (place + 1074).toNat * 2 ^ 52 + significand
    if magnitude < 2047 * 2 ^ 52 then some magnitude else none

def parseFloat (literal : List Char) : Option UInt64 :=
  let (negative, digits, power) := decimalParts literal
  (nearest (digits * 10 ^ power.toNat) (10 ^ (-power).toNat)).map fun magnitude =>
    UInt64.ofNat ((if negative then 2 ^ 63 else 0) + magnitude)

/-! ## Writing -/

def finite (bits : UInt64) : Bool := exponent64 bits ≠ 2047

-- A finite number is its significand times two to the place.
def significand (bits : UInt64) : Nat :=
  if exponent64 bits = 0 then fraction64 bits else 2 ^ 52 + fraction64 bits

def place (bits : UInt64) : Int :=
  if exponent64 bits = 0 then -1074 else (exponent64 bits : Int) - 1075

/-- The digits of the least length in the interval that is read to `bits`, nearest to the number,
and their power of ten; the powers are tried downwards from `power`. -/
def shortest (bits : UInt64) : Nat → Int → Nat × Int
  | 0, power => (significand bits, power)
  | fuel + 1, power =>
    let quarter := place bits - 2
    let scale (quarters : Nat) : Nat := quarters * 2 ^ quarter.toNat * 10 ^ (-power).toNat
    let unit := 10 ^ power.toNat * 2 ^ (-quarter).toNat
    let value := scale (4 * significand bits)
    let below := if fraction64 bits = 0 ∧ 1 < exponent64 bits then 1 else 2
    let low := scale (4 * significand bits - below)
    let high := scale (4 * significand bits + 2)
    let inside (digits : Nat) : Bool :=
      if significand bits % 2 = 0 then low ≤ digits * unit && digits * unit ≤ high
      else low < digits * unit && digits * unit < high
    let down := value / unit
    let closer := if divHalfEven value unit = down then down else down + 1
    let other := if closer = down then down + 1 else down
    if inside closer then (closer, power)
    else if inside other then (other, power)
    else shortest bits fuel (power - 1)

def decimalText (digits : Nat) (power : Int) : List Char :=
  let text := Nat.toDigits 10 digits
  let places := (-power).toNat
  if 0 ≤ power then text ++ List.replicate power.toNat '0'
  else if places < text.length then
    text.take (text.length - places) ++ '.' :: text.drop (text.length - places)
  else '0' :: '.' :: (List.replicate (places - text.length) '0' ++ text)

/-- `strconv.FormatFloat(v, 'f', -1, 64)`. -/
def formatFloat (bits : UInt64) : List Char :=
  if finite bits then
    (if sign64 bits = 1 then ['-'] else []) ++
      (if significand bits = 0 then ['0']
      else
        let (digits, power) := shortest bits 640 309
        decimalText digits power)
  else if fraction64 bits ≠ 0 then ['N', 'a', 'N']
  else if sign64 bits = 1 then ['-', 'I', 'n', 'f']
  else ['+', 'I', 'n', 'f']

/-- The first digit, and a point and the others after it if there are any. -/
def leadingPoint : List Char → List Char
  | [] => []
  | [digit] => [digit]
  | digit :: rest => digit :: '.' :: rest

-- Two digits at least.
def exponentText (exponent : Int) : List Char :=
  let digits := Nat.toDigits 10 exponent.natAbs
  'e' :: (if exponent < 0 then '-' else '+') :: (if digits.length < 2 then '0' :: digits else digits)

/-- `strconv.FormatFloat(v, 'g', -1, 64)`. -/
def formatGeneral (bits : UInt64) : List Char :=
  if finite bits ∧ significand bits ≠ 0 then
    let (digits, power) := shortest bits 640 309
    let text := Nat.toDigits 10 digits
    let exponent := (text.length : Int) - 1 + power
    (if sign64 bits = 1 then ['-'] else []) ++
      if exponent < -4 ∨ 6 ≤ exponent then leadingPoint text ++ exponentText exponent
      else decimalText digits power
  else formatFloat bits

/-- The integer part of a number, or the least integer where it does not fit 64 bits. -/
def truncate (bits : UInt64) : Int :=
  let magnitude := significand bits * 2 ^ (place bits).toNat / 2 ^ (-place bits).toNat
  let value : Int := if sign64 bits = 1 then -magnitude else magnitude
  if finite bits ∧ -9223372036854775808 ≤ value ∧ value < 9223372036854775808 then value
  else -9223372036854775808

theorem truncate_range (bits : UInt64) :
    -9223372036854775808 ≤ truncate bits ∧ truncate bits < 9223372036854775808 := by
  have clamped (value result : Int) (usual : Prop) [Decidable usual]
      (is : result = if usual ∧ -9223372036854775808 ≤ value ∧ value < 9223372036854775808 then value
        else -9223372036854775808) :
      -9223372036854775808 ≤ result ∧ result < 9223372036854775808 := by
    split_ifs at is with inside
    · exact is ▸ inside.2
    · omega
  exact clamped _ _ _ rfl

/-! ## The texts of finite numbers -/

/-- Digits, perhaps with a point between them. -/
def PlainDecimal (text : List Char) : Prop :=
  Json.isDigits text = true ∨
    ∃ whole fraction, text = whole ++ '.' :: fraction ∧ Json.isDigits whole = true ∧
      Json.isDigits fraction = true

/-- The text with a point after it, if it has none. -/
def pointed (text : List Char) : List Char := if '.' ∈ text then text else text ++ ['.', '0']

section Texts

variable {text first second : List Char}

theorem isDigits_iff : Json.isDigits text = true ↔ text ≠ [] ∧ ∀ c ∈ text, c.isDigit = true := by
  simp [Json.isDigits]

theorem isDigits_append (one : first ≠ [] ∨ second ≠ []) (left : ∀ c ∈ first, c.isDigit = true)
    (right : ∀ c ∈ second, c.isDigit = true) : Json.isDigits (first ++ second) = true := by
  rw [isDigits_iff]
  refine ⟨by simpa [← not_and_or] using one, ?_⟩
  intro c member
  rcases List.mem_append.mp member with here | there
  · exact left c here
  · exact right c there

theorem zeros_digits (count : Nat) : ∀ c ∈ List.replicate count '0', c.isDigit = true := by
  intro c member
  rw [List.eq_of_mem_replicate member]
  decide

theorem decimalText_plain (digits : Nat) (power : Int) : PlainDecimal (decimalText digits power) := by
  have all := Json.isDigit_toDigits digits
  have nonempty : Nat.toDigits 10 digits ≠ [] := Nat.toDigits_ne_nil
  simp only [decimalText]
  split_ifs with large inside
  · exact .inl (isDigits_append (.inl nonempty) all (zeros_digits _))
  · generalize Nat.toDigits 10 digits = text at *
    refine .inr ⟨_, _, rfl, ?_, ?_⟩
    · refine isDigits_iff.mpr ⟨?_, fun c member => all c (List.mem_of_mem_take member)⟩
      apply List.ne_nil_of_length_pos
      rw [List.length_take]
      omega
    · refine isDigits_iff.mpr ⟨?_, fun c member => all c (List.mem_of_mem_drop member)⟩
      apply List.ne_nil_of_length_pos
      rw [List.length_drop]
      omega
  · refine .inr ⟨['0'], _, rfl, by decide, ?_⟩
    exact isDigits_append (.inr nonempty) (zeros_digits _) all

theorem formatFloat_plain {bits : UInt64} (isFinite : finite bits = true) :
    ∃ text, PlainDecimal text ∧
      formatFloat bits = (if sign64 bits = 1 then ['-'] else []) ++ text := by
  rw [formatFloat, if_pos isFinite]
  split_ifs
  · exact ⟨['0'], .inl (by decide), rfl⟩
  · exact ⟨_, decimalText_plain _ _, rfl⟩
  · exact ⟨['0'], .inl (by decide), rfl⟩
  · exact ⟨_, decimalText_plain _ _, rfl⟩

theorem point_not_digit (digits : ∀ c ∈ text, c.isDigit = true) : '.' ∉ text := by
  intro member
  exact absurd (digits '.' member) (by decide)

theorem pointed_plain (plain : PlainDecimal text) : ∃ whole fraction,
    pointed text = whole ++ '.' :: fraction ∧ Json.isDigits whole = true ∧
      Json.isDigits fraction = true := by
  rcases plain with digits | ⟨whole, fraction, rfl, left, right⟩
  · have out := point_not_digit (isDigits_iff.mp digits).2
    exact ⟨text, ['0'], by simp [pointed, out], digits, by decide⟩
  · exact ⟨whole, fraction, by simp [pointed], left, right⟩

theorem unsignedFloat_pointed (left : Json.isDigits first = true)
    (right : Json.isDigits second = true) :
    LineProtocol.isUnsignedFloat (first ++ '.' :: second) = true := by
  obtain ⟨nonempty, digits⟩ := isDigits_iff.mp left
  obtain ⟨some_fraction, fractions⟩ := isDigits_iff.mp right
  have taken : (first ++ '.' :: second).takeWhile Char.isDigit = first := by
    rw [List.takeWhile_append_of_pos digits]
    simp
  have dropped : (first ++ '.' :: second).dropWhile Char.isDigit = '.' :: second := by
    rw [List.dropWhile_append_of_pos digits]
    simp
  have whole : second.takeWhile Char.isDigit = second := List.takeWhile_eq_self_iff.mpr fractions
  have rest : second.dropWhile Char.isDigit = [] := List.dropWhile_eq_nil_iff.mpr fractions
  rw [LineProtocol.isUnsignedFloat, taken, dropped, Json.isFraction, whole, rest]
  simp [nonempty, some_fraction, Json.isExponent]

-- What `formatFloat` writes, with a point: the texts of the special values, or a decimal.
theorem pointed_cases (bits : UInt64) :
    (finite bits = false ∧ pointed (formatFloat bits) ∈
      [['N', 'a', 'N', '.', '0'], ['-', 'I', 'n', 'f', '.', '0'], ['+', 'I', 'n', 'f', '.', '0']]) ∨
    (finite bits = true ∧ ∃ whole fraction,
      pointed (formatFloat bits) =
        (if sign64 bits = 1 then ['-'] else []) ++ (whole ++ '.' :: fraction) ∧
      Json.isDigits whole = true ∧ Json.isDigits fraction = true) := by
  cases isFinite : finite bits with
  | false =>
    refine .inl ⟨rfl, ?_⟩
    rw [formatFloat, isFinite]
    simp only [Bool.false_eq_true, if_false]
    split_ifs <;> decide
  | true =>
    obtain ⟨text, plain, written⟩ := formatFloat_plain isFinite
    obtain ⟨whole, fraction, points, left, right⟩ := pointed_plain plain
    refine .inr ⟨rfl, whole, fraction, ?_, left, right⟩
    rw [written, ← points]
    split_ifs
    · unfold pointed
      by_cases member : '.' ∈ text <;> simp [member]
    · rfl

theorem isFloat_formatted (bits : UInt64) :
    LineProtocol.isFloat (pointed (formatFloat bits)) = finite bits := by
  rcases pointed_cases bits with ⟨isFinite, special⟩ | ⟨isFinite, whole, fraction, written, left, right⟩
  · rw [isFinite]
    have table : ∀ text ∈ [['N', 'a', 'N', '.', '0'], ['-', 'I', 'n', 'f', '.', '0'],
        ['+', 'I', 'n', 'f', '.', '0']], LineProtocol.isFloat text = false := by decide
    exact table _ special
  · have unsigned := unsignedFloat_pointed left right
    rw [isFinite, written]
    split_ifs
    · exact unsigned
    · obtain ⟨first, rest, rfl⟩ := List.exists_cons_of_ne_nil (isDigits_iff.mp left).1
      have digit := (isDigits_iff.mp left).2 first (by simp)
      have unsigned_start : first ≠ '-' := by
        rintro rfl
        exact absurd digit (by decide)
      rw [List.nil_append, List.cons_append, LineProtocol.isFloat]
      · exact unsigned
      · exact fun _ same => unsigned_start (List.cons.inj same).1

theorem formatted_words (bits : UInt64) :
    ∀ c ∈ pointed (formatFloat bits), LineProtocol.Word c := by
  rcases pointed_cases bits with ⟨_, special⟩ | ⟨_, whole, fraction, written, left, right⟩
  · have table : ∀ text ∈ [['N', 'a', 'N', '.', '0'], ['-', 'I', 'n', 'f', '.', '0'],
        ['+', 'I', 'n', 'f', '.', '0']], ∀ c ∈ text, LineProtocol.Word c := by
      simp [LineProtocol.Word]
    exact table _ special
  · intro c member
    rw [written] at member
    have signs : ∀ c ∈ (if sign64 bits = 1 then ['-'] else []), LineProtocol.Word c := by
      split_ifs <;> simp [LineProtocol.Word]
    rcases List.mem_append.mp member with sign | text
    · exact signs c sign
    · rcases List.mem_append.mp text with whole_digit | rest
      · exact LineProtocol.digit_word ((isDigits_iff.mp left).2 c whole_digit)
      · rcases List.mem_cons.mp rest with rfl | fraction_digit
        · decide
        · exact LineProtocol.digit_word ((isDigits_iff.mp right).2 c fraction_digit)

theorem formatted_last (bits : UInt64) : (pointed (formatFloat bits)).getLast? ≠ some 'i' := by
  rcases pointed_cases bits with ⟨_, special⟩ | ⟨_, whole, fraction, written, left, right⟩
  · have table : ∀ text ∈ [['N', 'a', 'N', '.', '0'], ['-', 'I', 'n', 'f', '.', '0'],
        ['+', 'I', 'n', 'f', '.', '0']], text.getLast? ≠ some 'i' := by decide
    exact table _ special
  · obtain ⟨some_fraction, digits⟩ := isDigits_iff.mp right
    obtain ⟨start, last, rfl⟩ := (List.eq_nil_or_concat fraction).resolve_left some_fraction
    have digit := digits last (by simp)
    have split : (if sign64 bits = 1 then ['-'] else []) ++ (whole ++ '.' :: start.concat last) =
        ((if sign64 bits = 1 then ['-'] else []) ++ whole ++ '.' :: start) ++ [last] := by simp
    rw [written, split, List.getLast?_concat]
    intro ends
    obtain rfl := Option.some.inj ends
    exact absurd digit (by decide)

-- The text with a point is read as a float if the number is finite, and not at all otherwise.
theorem reads_formatted (bits : UInt64) :
    LineProtocol.Reads (LineProtocol.ascii (pointed (formatFloat bits)))
      (if finite bits then some (.float (pointed (formatFloat bits))) else none) := by
  have nonempty : pointed (formatFloat bits) ≠ [] := by
    unfold pointed
    split_ifs with point
    · exact List.ne_nil_of_mem point
    · simp
  have reads := LineProtocol.reads_token (formatted_words bits) nonempty
  rwa [LineProtocol.readNumber_float (formatted_words bits) (formatted_last bits),
    isFloat_formatted] at reads

end Texts

-- What is read from a text is finite.
theorem parseFloat_finite {literal : List Char} {bits : UInt64}
    (parsed : parseFloat literal = some bits) : finite bits = true := by
  unfold parseFloat at parsed
  obtain ⟨magnitude, near, rfl⟩ := Option.map_eq_some_iff.mp parsed
  have small : magnitude < 2047 * 2 ^ 52 := by
    unfold nearest at near
    simp only at near
    split_ifs at near
    all_goals
      obtain rfl := Option.some.inj near
      omega
  have exponent (negative : Prop) [Decidable negative] :
      exponent64 (UInt64.ofNat ((if negative then 2 ^ 63 else 0) + magnitude)) < 2047 := by
    simp only [exponent64, UInt64.toNat_ofNat']
    split_ifs <;> omega
  simp only [finite, ne_eq, decide_eq_true_eq]
  exact Nat.ne_of_lt (exponent _)

/-! ## Whole numbers -/

theorem divHalfEven_le (num den : Nat) : divHalfEven num den ≤ num / den + 1 := by
  unfold divHalfEven
  split_ifs <;> omega

-- A number below 2 ^ 64 is far from the largest.
theorem nearest_whole {n : Nat} (small : n < 2 ^ 64) : (nearest n 1).isSome = true := by
  by_cases zero : n = 0
  · simp [nearest, zero]
  · have log : Nat.log2 n < 64 := (Nat.log2_lt zero).mpr small
    have low : 2 ^ Nat.log2 n ≤ n := Nat.log2_self_le zero
    have high : n < 2 ^ (Nat.log2 n + 1) := Nat.lt_log2_self
    have unit : Nat.log2 1 = 0 := rfl
    simp only [nearest, if_neg zero, unit, Nat.cast_zero, sub_zero, one_mul]
    generalize Nat.log2 n = log2 at *
    rw [show (-(log2 : Int)).toNat = 0 by omega, Int.toNat_natCast, pow_zero, mul_one,
      if_neg (show ¬n < 2 ^ log2 by omega)]
    have top : max ((log2 : Int) - 52) (-1074) = (log2 : Int) - 52 := by omega
    rw [top]
    -- At most 53 digits are kept, whether the number is shifted up or down.
    have kept : n * 2 ^ (-((log2 : Int) - 52)).toNat / 2 ^ ((log2 : Int) - 52).toNat < 2 ^ 53 := by
      rw [Nat.div_lt_iff_lt_mul (Nat.two_pow_pos _), ← Nat.pow_add]
      calc n * 2 ^ (-((log2 : Int) - 52)).toNat
          < 2 ^ (log2 + 1) * 2 ^ (-((log2 : Int) - 52)).toNat :=
            Nat.mul_lt_mul_of_pos_right high (Nat.two_pow_pos _)
        _ = 2 ^ (53 + ((log2 : Int) - 52).toNat) := by
            rw [← Nat.pow_add]
            congr 1
            omega
    have rounded := divHalfEven_le (n * 2 ^ (-((log2 : Int) - 52)).toNat)
      (2 ^ ((log2 : Int) - 52).toNat)
    have place : ((log2 : Int) - 52 + 1074).toNat ≤ 1085 := by omega
    have scaled := Nat.mul_le_mul_right (2 ^ 52) place
    rw [if_pos (by omega)]
    rfl

theorem decimalParts_digits (n : Nat) : decimalParts (Nat.toDigits 10 n) = (false, n, 0) := by
  have digits := Json.isDigit_toDigits n
  have unsigned : (Nat.toDigits 10 n).head? ≠ some '-' := by
    intro starts
    exact absurd (digits '-' (List.mem_of_mem_head? starts)) (by decide)
  have whole : (Nat.toDigits 10 n).takeWhile Char.isDigit = Nat.toDigits 10 n :=
    List.takeWhile_eq_self_iff.mpr digits
  have rest : (Nat.toDigits 10 n).dropWhile Char.isDigit = [] := List.dropWhile_eq_nil_iff.mpr digits
  simp [decimalParts, unsigned, whole, rest]

theorem parseFloat_digits {n : Nat} (small : n < 2 ^ 64) :
    (parseFloat (Nat.toDigits 10 n)).isSome = true := by
  simp only [parseFloat, decimalParts_digits, Option.isSome_map]
  simpa using nearest_whole small

end Binary
