import Mathlib.Data.List.Basic

set_option autoImplicit false

/-!
# Escaped text

Some symbols are written as an escape and a letter, all others as themselves. The escape is one of
those symbols, so that what is written can be read back.
-/

/-- `letter` is what stands behind the escape for a symbol, `value` what a letter stands for. -/
structure Escapes (α : Type) where
  escape : α
  letter : α → Option α
  value : α → Option α
  value_letter : ∀ symbol written, letter symbol = some written → value written = some symbol
  letter_escape : letter escape ≠ none

namespace Escapes

section Writing

variable {α : Type} (escapes : Escapes α)

def writeSymbol (symbol : α) : List α :=
  match escapes.letter symbol with
  | some written => [escapes.escape, written]
  | none => [symbol]

def write (text : List α) : List α := text.flatMap escapes.writeSymbol

variable {escapes} {symbol written : α}

theorem write_letter (is : escapes.letter symbol = some written) (text : List α) :
    escapes.write (symbol :: text) = escapes.escape :: written :: escapes.write text := by
  rw [write, List.flatMap_cons, writeSymbol, is]
  rfl

theorem write_plain (plain : escapes.letter symbol = none) (text : List α) :
    escapes.write (symbol :: text) = symbol :: escapes.write text := by
  rw [write, List.flatMap_cons, writeSymbol, plain]
  rfl

theorem ne_escape (plain : escapes.letter symbol = none) : symbol ≠ escapes.escape := by
  rintro rfl
  exact escapes.letter_escape plain

-- A symbol that is escaped, and is no letter, is not written.
theorem not_mem_write (escaped : escapes.letter symbol ≠ none) (free : symbol ≠ escapes.escape)
    (unused : escapes.value symbol = none) (text : List α) : symbol ∉ escapes.write text := by
  induction text with
  | nil => exact List.not_mem_nil
  | cons source text ih =>
    cases is : escapes.letter source with
    | some written =>
      have apart : symbol ≠ written := by
        rintro rfl
        rw [escapes.value_letter source symbol is] at unused
        cases unused
      rw [write_letter is]
      simp [free, apart, ih]
    | none =>
      have apart : symbol ≠ source := by
        rintro rfl
        exact escaped is
      rw [write_plain is]
      simp [apart, ih]

end Writing

section Reading

variable {α : Type} [DecidableEq α] (escapes : Escapes α)

/-- An escape with no letter behind it, or with one that stands for nothing, cannot be read. -/
def read : List α → Option (List α)
  | [] => some []
  | [symbol] => if symbol = escapes.escape then none else some [symbol]
  | symbol :: next :: rest =>
    if symbol = escapes.escape then
      match escapes.value next with
      | some value => (read rest).map (value :: ·)
      | none => none
    else (read (next :: rest)).map (symbol :: ·)

/-- Where the first `stop` is that no escape stands before. -/
def firstFree (stop : α) : List α → Option Nat
  | [] => none
  | [symbol] => if symbol = stop then some 0 else none
  | symbol :: next :: rest =>
    if symbol = escapes.escape then (firstFree stop rest).map (· + 2)
    else if symbol = stop then some 0
    else (firstFree stop (next :: rest)).map (· + 1)

variable {escapes} {symbol written stop : α}

theorem read_plain (other : symbol ≠ escapes.escape) (rest : List α) :
    escapes.read (symbol :: rest) = (escapes.read rest).map (symbol :: ·) := by
  cases rest with
  | nil => simp [read, other]
  | cons next rest => rw [read, if_neg other]

theorem read_letter (is : escapes.letter symbol = some written) (rest : List α) :
    escapes.read (escapes.escape :: written :: rest) =
      (escapes.read rest).map (symbol :: ·) := by
  rw [read, if_pos rfl, escapes.value_letter symbol written is]

theorem read_write (text : List α) : escapes.read (escapes.write text) = some text := by
  induction text with
  | nil => rfl
  | cons symbol text ih =>
    cases is : escapes.letter symbol with
    | some written =>
      rw [write_letter is, read_letter is, ih]
      rfl
    | none =>
      rw [write_plain is, read_plain (ne_escape is), ih]
      rfl

theorem firstFree_stop (free : stop ≠ escapes.escape) (rest : List α) :
    escapes.firstFree stop (stop :: rest) = some 0 := by
  cases rest with
  | nil => simp [firstFree]
  | cons next rest => rw [firstFree, if_neg free, if_pos rfl]

theorem firstFree_other (other : symbol ≠ escapes.escape) (apart : symbol ≠ stop) (rest : List α) :
    escapes.firstFree stop (symbol :: rest) = (escapes.firstFree stop rest).map (· + 1) := by
  cases rest with
  | nil => simp [firstFree, apart]
  | cons next rest => rw [firstFree, if_neg other, if_neg apart]

-- A symbol that is always escaped stands free only behind what was written.
theorem firstFree_write (free : stop ≠ escapes.escape) (escaped : escapes.letter stop ≠ none)
    (text rest : List α) :
    escapes.firstFree stop (escapes.write text ++ stop :: rest) =
      some (escapes.write text).length := by
  induction text with
  | nil => exact firstFree_stop free rest
  | cons symbol text ih =>
    cases is : escapes.letter symbol with
    | some written =>
      rw [write_letter is, List.cons_append, List.cons_append, firstFree, if_pos rfl, ih]
      rfl
    | none =>
      have apart : symbol ≠ stop := by
        rintro rfl
        exact escaped is
      rw [write_plain is, List.cons_append, firstFree_other (ne_escape is) apart, ih]
      rfl

end Reading

end Escapes
