import Mathlib.Data.List.Chain
import SystemScale.Lib.Utf8

set_option autoImplicit false

/-!
# Replacing text

`replace old new` takes the occurrences of `old` from the left, and goes on after each of them. To
double a mark for another symbol can be undone where no mark stands before a mark or that symbol.
-/

namespace Replace

variable {α : Type} {mark symbol : α}

/-- No mark stands before another one or before the symbol. -/
def Apart (mark symbol : α) (text : List α) : Prop :=
  text.IsChain fun head next => head = mark → next ≠ mark ∧ next ≠ symbol

theorem apart_unmarked {head : α} (other : head ≠ mark) (text : List α) :
    Apart mark symbol (head :: text) ↔ Apart mark symbol text := by
  cases text with
  | nil => simp [Apart]
  | cons next rest => simp [Apart, other]

variable [DecidableEq α]

instance (mark symbol : α) (text : List α) : Decidable (Apart mark symbol text) :=
  inferInstanceAs (Decidable (List.IsChain _ _))

/-- `skip` is what is left of the occurrence that was found last. -/
def replaceFrom (old new : List α) : Nat → List α → List α
  | _, [] => []
  | skip + 1, _ :: rest => replaceFrom old new skip rest
  | 0, head :: rest =>
    if old.isPrefixOf (head :: rest) then new ++ replaceFrom old new (old.length - 1) rest
    else head :: replaceFrom old new 0 rest

def replace (old new : List α) (text : List α) : List α := replaceFrom old new 0 text

theorem replace_singleton (symbol : α) (new text : List α) :
    replace [symbol] new text = text.flatMap fun head => if head = symbol then new else [head] := by
  rw [replace]
  induction text with
  | nil => rfl
  | cons head rest ih =>
    rw [replaceFrom, List.flatMap_cons]
    by_cases same : head = symbol
    · simp [same, ih]
    · simp [same, Ne.symm same, ih]

theorem replace_symbol (new text : List α) :
    replace [symbol] new (symbol :: text) = new ++ replace [symbol] new text := by
  simp [replace_singleton]

theorem replace_other {head : α} (other : head ≠ symbol) (new text : List α) :
    replace [symbol] new (head :: text) = head :: replace [symbol] new text := by
  simp [replace_singleton, other]

theorem replace_double (new text : List α) :
    replace [mark, mark] new (mark :: mark :: text) = new ++ replace [mark, mark] new text := by
  simp [replace, replaceFrom]

theorem replace_unmarked {head : α} (other : head ≠ mark) (new text : List α) :
    replace [mark, mark] new (head :: text) = head :: replace [mark, mark] new text := by
  simp [replace, replaceFrom, Ne.symm other]

theorem replace_single_mark {next : α} (other : next ≠ mark) (new text : List α) :
    replace [mark, mark] new (mark :: next :: text) =
      mark :: replace [mark, mark] new (next :: text) := by
  simp [replace, replaceFrom, Ne.symm other]

theorem replace_back_iff (different : symbol ≠ mark) (text : List α) :
    replace [mark, mark] [symbol] (replace [symbol] [mark, mark] text) = text ↔
      Apart mark symbol text := by
  induction text with
  | nil => simp [Apart, replace, replaceFrom]
  | cons head rest ih =>
    by_cases is_symbol : head = symbol
    · subst is_symbol
      rw [replace_symbol, apart_unmarked different, ← ih]
      simp only [List.cons_append, List.nil_append]
      rw [replace_double]
      simp
    · rw [replace_other is_symbol]
      by_cases is_mark : head = mark
      · subst is_mark
        cases rest with
        | nil => simp [Apart, replace, replaceFrom]
        | cons next rest =>
          have chain : Apart head symbol (head :: next :: rest) ↔
              (next ≠ head ∧ next ≠ symbol) ∧ Apart head symbol (next :: rest) := by
            simp [Apart]
          rw [chain, ← ih]
          -- A mark or a symbol after the mark is taken for the second half of a symbol.
          by_cases then_symbol : next = symbol
          · subst then_symbol
            rw [replace_symbol, List.cons_append, replace_double]
            simp [different]
          · rw [replace_other then_symbol]
            by_cases then_mark : next = head
            · subst then_mark
              rw [replace_double]
              simp [different]
            · rw [replace_single_mark then_mark]
              simp [then_symbol, then_mark]
      · rw [replace_unmarked is_mark, apart_unmarked is_mark, ← ih]
        simp

theorem mem_replace_double {other : α} (unmarked : other ≠ mark) (apart : other ≠ symbol)
    (text : List α) : other ∈ replace [symbol] [mark, mark] text ↔ other ∈ text := by
  rw [replace_singleton, List.mem_flatMap]
  constructor
  · rintro ⟨head, member, written⟩
    split_ifs at written
    · simp [unmarked] at written
    · exact List.mem_singleton.mp written ▸ member
  · intro member
    exact ⟨other, member, by simp [apart]⟩

theorem getLast_replace_double {other : α} (unmarked : other ≠ mark) (apart : other ≠ symbol)
    (text : List α) :
    (replace [symbol] [mark, mark] text).getLast? = some other ↔ text.getLast? = some other := by
  rcases List.eq_nil_or_concat text with rfl | ⟨start, last, rfl⟩
  · rfl
  · rw [List.concat_eq_append, replace_singleton, List.flatMap_append, List.flatMap_singleton]
    by_cases is_symbol : last = symbol
    · simp [is_symbol, Ne.symm unmarked, Ne.symm apart]
    · simp [is_symbol]

-- A character of ASCII is replaced in the bytes of a text.
theorem replace_encode {character : Char} {byte : UInt8} (ascii : byte.toNat < 0x80)
    (is : character.toNat = byte.toNat) (new text : String) :
    replace [byte] (Utf8.encode new) (Utf8.encode text) =
      Utf8.encode (String.ofList (replace [character] new.toList text.toList)) := by
  have bytes : Utf8.encode text = text.toList.flatMap String.utf8EncodeChar := rfl
  have inner (replaced : List Char) :
      Utf8.encode (String.ofList replaced) = replaced.flatMap String.utf8EncodeChar := by
    rw [Utf8.encode, String.toList_ofList]
  rw [replace_singleton, replace_singleton, inner, bytes, List.flatMap_assoc, List.flatMap_assoc]
  refine List.flatMap_congr fun head _ => ?_
  by_cases same : head = character
  · subst same
    rw [Utf8.encodeChar_ascii ascii is, List.flatMap_singleton, if_pos rfl, if_pos rfl]
    rfl
  · have kept : ∀ other ∈ String.utf8EncodeChar head,
        (if other = byte then Utf8.encode new else [other]) = [other] := by
      intro other inside
      refine if_neg fun equal => same ?_
      subst equal
      exact Char.toNat_inj.mp ((Utf8.ascii_mem ascii inside).trans is.symm)
    rw [List.flatMap_congr kept, if_neg same, List.flatMap_singleton]
    simp

end Replace
