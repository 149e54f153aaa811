import Mathlib.Logic.Function.Basic
import Mathlib.Tactic.Common

set_option autoImplicit false

/-!
# Lists as tables

Entries go by their place: one is replaced, or a new one comes last.
-/

namespace Lookups

universe u

variable {A : Type u} {table : List A} {place : Nat} {old : A}

theorem lookup_set (was : table[place]? = some old) (new : A) (other : Nat) :
    (table.set place new)[other]? = if other = place then some new else table[other]? := by
  have inside := (List.getElem?_eq_some_iff.mp was).1
  rw [List.getElem?_set]
  by_cases same : other = place
  · simp [same, inside]
  · rw [if_neg (Ne.symm same), if_neg same]

theorem lookup_append (table : List A) (new : A) (other : Nat) :
    (table ++ [new])[other]? = if other = table.length then some new else table[other]? := by
  by_cases same : other = table.length
  · rw [if_pos same, same, List.getElem?_concat_length]
  · rw [if_neg same]
    by_cases before : other < table.length
    · exact List.getElem?_append_left before
    · rw [List.getElem?_eq_none (by simp; omega), List.getElem?_eq_none (by omega)]

theorem kept_append (new : A) (is : table[place]? = some old) :
    (table ++ [new])[place]? = some old := by
  have inside := (List.getElem?_eq_some_iff.mp is).1
  rw [lookup_append, if_neg (by omega), is]

-- Where one key has got an entry, what is found is that entry or another key's old one.
theorem update_some {K : Type u} [DecidableEq K] {entries : K → Option A} {key other : K}
    {new found : A} (is : Function.update entries key (some new) other = some found) :
    other = key ∧ found = new ∨ other ≠ key ∧ entries other = some found := by
  by_cases same : other = key
  · rw [same, Function.update_self] at is
    exact .inl ⟨same, (Option.some.inj is).symm⟩
  · rw [Function.update_of_ne same] at is
    exact .inr ⟨same, is⟩

/-! ## Entries apart from each other -/

def Apart (clash : A → A → Prop) (table : List A) : Prop :=
  ∀ (place other : Nat) (entry found : A), table[place]? = some entry →
    table[other]? = some found → clash entry found → place = other

section Apart

variable {clash : A → A → Prop}

theorem Apart.set (apart : Apart clash table) (was : table[place]? = some old) {new : A}
    (first : ∀ found, clash new found → clash old found)
    (second : ∀ entry, clash entry new → clash entry old) :
    Apart clash (table.set place new) := by
  intro here there entry found is others clashes
  rw [lookup_set was] at is others
  split_ifs at is others with same also also
  · rw [same, also]
  · obtain rfl := Option.some.inj is
    exact apart here there old found (same ▸ was) others (first found clashes)
  · obtain rfl := Option.some.inj others
    exact apart here there entry old is (also ▸ was) (second entry clashes)
  · exact apart here there entry found is others clashes

theorem Apart.append (apart : Apart clash table) {new : A}
    (fresh : ∀ entry ∈ table, ¬clash entry new ∧ ¬clash new entry) :
    Apart clash (table ++ [new]) := by
  intro here there entry found is others clashes
  rw [lookup_append] at is others
  split_ifs at is others with last also
  · rw [last, also]
  · obtain rfl := Option.some.inj is
    exact absurd clashes (fresh found (List.mem_of_getElem? others)).2
  · obtain rfl := Option.some.inj others
    exact absurd clashes (fresh entry (List.mem_of_getElem? is)).1
  · exact apart here there entry found is others clashes

theorem Apart.map (apart : Apart clash table) {change : A → A}
    (kept : ∀ entry found, clash (change entry) (change found) → clash entry found) :
    Apart clash (table.map change) := by
  intro here there entry found is others clashes
  rw [List.getElem?_map, Option.map_eq_some_iff] at is others
  obtain ⟨first, was, rfl⟩ := is
  obtain ⟨second, also, rfl⟩ := others
  exact apart here there first second was also (kept first second clashes)

end Apart

end Lookups
