import SystemScale.Cloud.IlpLine
import SystemScale.Lib.SqlText

set_option autoImplicit false

/-!
# Times in a query

`GET /v1/telemetry` writes its start and its end into the text of a query, as a call of `dateadd` or
as a literal.
-/

namespace SystemScale.Cloud

open LineProtocol (ascii)
open SqlText (Piece Stands Plain)

/-! ## The texts -/

def isDigitByte (b : UInt8) : Bool := decide (0x30 ≤ b.toNat ∧ b.toNat ≤ 0x39)

/-- `strconv.Atoi`: a sign and digits, in 64 bits. -/
def atoi (s : GoString) : Option Int :=
  let negative := s.head? = some 0x2D
  let digits := if negative ∨ s.head? = some 0x2B then s.drop 1 else s
  let value := digits.foldl (fun (value : Nat) b => value * 10 + (b.toNat - 0x30)) 0
  if digits = [] ∨ ¬ digits.all isDigitByte then none
  else if negative then if value ≤ 2 ^ 63 then some (-(value : Int)) else none
  else if value < 2 ^ 63 then some (value : Int)
  else none

def escapeSQLString (s : GoString) : GoString := replaceAll s 0x27 [0x27, 0x27]

/-- The letters of seconds, minutes, hours and days. -/
def timeUnits : List UInt8 := [0x73, 0x6D, 0x68, 0x64]

def dateadd (unit : UInt8) (n : Int) : GoString :=
  ascii "dateadd('".toList ++ [unit] ++ ascii "', -".toList ++ formatInt n ++
    ascii ", now())".toList

def relativeTime (s : GoString) : Option (UInt8 × Int) :=
  if s.length ≥ 3 ∧ s.head? = some 0x2D then do
    let unit ← s.getLast?
    let n ← atoi (s.drop 1).dropLast
    if unit ∈ timeUnits then some (unit, n) else none
  else none

def parseTimeExpr (s : GoString) : GoString :=
  if s = [] then []
  else
    match relativeTime s with
    | some (unit, n) => dateadd unit n
    | none => [0x27] ++ escapeSQLString s ++ [0x27]

/-! ## What they are read as -/

/-- Digits, and a sign before them or none. -/
def IntegerText (number : List UInt8) : Prop :=
  ∃ digits : List UInt8, digits ≠ [] ∧ digits.all isDigitByte = true ∧
    (number = digits ∨ number = 0x2D :: digits)

def symbols (text : List UInt8) : List Piece := text.map .symbol

def dateaddPieces (unit : UInt8) (number : List UInt8) : List Piece :=
  symbols (ascii "dateadd(".toList) ++ [.literal [unit]] ++ symbols (ascii ", ".toList) ++
    symbols number ++ symbols (ascii ", now())".toList)

/-- The text is empty or one expression, and what follows it is read as if it stood alone. -/
def OneExpression (s text : GoString) : Prop :=
  text = [] ∨ Stands [.literal s] text ∨
    ∃ unit number, unit ∈ timeUnits ∧ IntegerText number ∧
      Stands (dateaddPieces unit number) text

theorem stands_escaped (s : GoString) :
    Stands [.literal s] ([0x27] ++ escapeSQLString s ++ [0x27]) := by
  have opened : SqlText.run .code [0x27] = (.literal [], []) := rfl
  have inside : SqlText.run (.literal []) (escapeSQLString s) = (.literal s, []) :=
    SqlText.run_doubled []
  have closed : SqlText.run (.literal s) [0x27] = (.literalQuote s, []) := rfl
  have whole : SqlText.run .code ([0x27] ++ escapeSQLString s ++ [0x27]) =
      (.literalQuote s, []) := by
    rw [List.append_assoc, SqlText.run_then opened, SqlText.run_then inside, closed]
    rfl
  exact SqlText.stands_literal whole

theorem dateadd_opens {unit : UInt8} (known : unit ∈ timeUnits) :
    SqlText.run .code (ascii "dateadd('".toList ++ [unit] ++ ascii "', -".toList) =
      (.dash, symbols (ascii "dateadd(".toList) ++ [.literal [unit]] ++
        symbols (ascii ", ".toList)) := by
  revert unit
  decide +kernel

theorem digit_plain {b : UInt8} (digit : isDigitByte b = true) : Plain b := by
  have range : 0x30 ≤ b.toNat ∧ b.toNat ≤ 0x39 := by simpa [isDigitByte] using digit
  refine ⟨?_, ?_, ?_, ?_⟩ <;> (rintro rfl; exact absurd range (by decide))

theorem ascii_digit {c : Char} (digit : c.isDigit = true) :
    isDigitByte (UInt8.ofNat c.toNat) = true := by
  have range : 48 ≤ c.toNat ∧ c.toNat ≤ 57 := by
    simpa [Char.isDigit, UInt32.le_iff_toNat_le] using digit
  rw [isDigitByte, UInt8.toNat_ofNat', Nat.mod_eq_of_lt (by omega)]
  exact decide_eq_true range

theorem ascii_digits (n : Nat) :
    ascii (Nat.toDigits 10 n) ≠ [] ∧ (ascii (Nat.toDigits 10 n)).all isDigitByte = true := by
  constructor
  · simp [ascii, Nat.toDigits_ne_nil]
  · rw [List.all_eq_true]
    intro b member
    obtain ⟨c, inside, rfl⟩ := List.mem_map.mp member
    exact ascii_digit (Json.isDigit_toDigits n c inside)

-- The sign in front of a number that has none.
theorem stands_dateadd {unit : UInt8} (known : unit ∈ timeUnits) (n : Nat) :
    ∃ number, IntegerText number ∧ Stands (dateaddPieces unit number) (dateadd unit n) := by
  obtain ⟨some_digit, digits⟩ := ascii_digits n
  refine ⟨0x2D :: ascii (Nat.toDigits 10 n), ⟨_, some_digit, digits, .inr rfl⟩, ?_⟩
  obtain ⟨b, rest, number⟩ := List.exists_cons_of_ne_nil some_digit
  have plain : ∀ c ∈ b :: rest, Plain c := fun c member =>
    digit_plain (List.all_eq_true.mp digits c (number ▸ member))
  have closing : ∀ c ∈ ascii ", now())".toList, Plain c := by decide +kernel
  have later : ∀ c ∈ rest ++ ascii ", now())".toList, Plain c := by
    intro c member
    rcases List.mem_append.mp member with inside | behind
    · exact plain c (by simp [inside])
    · exact closing c behind
  have read := SqlText.run_minus (plain b (by simp)) later
  have whole : SqlText.run .code (dateadd unit n) =
      (.code, dateaddPieces unit (0x2D :: ascii (Nat.toDigits 10 n))) := by
    have split : dateadd unit n = ascii "dateadd('".toList ++ [unit] ++ ascii "', -".toList ++
        (b :: (rest ++ ascii ", now())".toList)) := by
      rw [dateadd, List.append_assoc, ← List.cons_append, ← number]
      rfl
    rw [split, SqlText.run_then (dateadd_opens known), read, dateaddPieces, number]
    simp [symbols, SqlText.minus]
  exact SqlText.stands_code whole

-- A second sign begins a comment, and what follows belongs to it.
theorem dateadd_comments {unit : UInt8} (known : unit ∈ timeUnits) (n : Nat) :
    (SqlText.run .code (dateadd unit (.negSucc n) ++ [SqlText.blank])).1 = .line := by
  have digits := (ascii_digits (n + 1)).2
  have split : dateadd unit (.negSucc n) ++ [SqlText.blank] =
      ascii "dateadd('".toList ++ [unit] ++ ascii "', -".toList ++
        (0x2D :: (ascii (Nat.toDigits 10 (n + 1)) ++ ascii ", now()) ".toList)) := by
    simp only [dateadd, List.append_assoc]
    rfl
  have unbroken : SqlText.newline ∉ ascii (Nat.toDigits 10 (n + 1)) ++ ascii ", now()) ".toList := by
    intro member
    rcases List.mem_append.mp member with inside | behind
    · exact absurd (List.all_eq_true.mp digits _ inside) (by decide)
    · exact absurd behind (by decide)
  have comment : SqlText.step .dash 0x2D = (.line, [.comment]) := rfl
  rw [split, SqlText.run_then (dateadd_opens known), SqlText.run, comment, SqlText.run_line unbroken]

theorem not_oneExpression {s text : GoString}
    (line : (SqlText.run .code (text ++ [SqlText.blank])).1 = .line) : ¬ OneExpression s text := by
  rintro (rfl | stands | ⟨unit, number, _, _, stands⟩)
  · cases line
  · rw [stands.code] at line
    cases line
  · rw [stands.code] at line
    cases line

theorem relativeTime_known {s : GoString} {unit : UInt8} {n : Int}
    (relative : relativeTime s = some (unit, n)) : unit ∈ timeUnits := by
  unfold relativeTime at relative
  split_ifs at relative
  simp only [Option.bind_eq_bind, Option.bind_eq_some_iff] at relative
  obtain ⟨last, _, value, _, found⟩ := relative
  split_ifs at found with known
  cases found
  exact known

end SystemScale.Cloud
