import SystemScale.Cloud.Proto
import SystemScale.Lib.LineProtocol
import SystemScale.Lib.Replace

set_option autoImplicit false

/-!
# The storage writer's names

The writer escapes tags, names and strings for QuestDB. A field is named by the key that was logged,
with two underscores for a slash.
-/

namespace SystemScale.Cloud

open LineProtocol
open Replace (replace)

def escapeILP (s : GoString) : GoString :=
  s.flatMap fun b =>
    if b = comma ∨ b = blank ∨ b = equals ∨ b = newline ∨ b = 0x0D then [backslash, b] else [b]

def escapeILPFieldKey (key : GoString) : GoString :=
  escapeILP (replace (Utf8.encode "/") (Utf8.encode "__") key)

def escapeILPString (s : GoString) : GoString :=
  [mark] ++
    (s.flatMap fun b =>
      if b = mark ∨ b = backslash then [backslash, b]
      else if b = newline then [backslash, 0x6E]
      else if b = 0x0D then [backslash, 0x72]
      else [b]) ++
  [mark]

/-- The name that a line has for the field, up to the equals sign that `WriteBatch` writes. -/
def storedColumn (key : GoString) : Option Name :=
  let written := escapeILPFieldKey key ++ [equals]
  if newline ∈ written then none else (readName written).map Prod.fst

/-! ## What is read of a name -/

-- A reader knows no escaped line breaks: the backslash stays.
def breakEscapes (s : GoString) : GoString :=
  s.flatMap fun b => if b = newline ∨ b = 0x0D then [backslash, b] else [b]

section Names

variable {s : GoString}

theorem escapeILP_eq (s : GoString) : escapeILP s = escape (breakEscapes s) := by
  rw [escapeILP, escape, breakEscapes, List.flatMap_assoc]
  refine List.flatMap_congr fun b _ => ?_
  by_cases break_ : b = newline ∨ b = 0x0D
  · rw [if_pos (.inr (.inr (.inr break_))), if_pos break_]
    rcases break_ with rfl | rfl <;> decide
  · rw [if_neg break_, List.flatMap_singleton]
    refine if_congr ?_ rfl rfl
    simp only [special, Bool.or_eq_true, decide_eq_true_eq]
    tauto

theorem mem_breakEscapes : newline ∈ breakEscapes s ↔ newline ∈ s := by
  rw [breakEscapes, List.mem_flatMap]
  constructor
  · rintro ⟨b, member, written⟩
    split_ifs at written
    · obtain stands | stands := List.mem_pair.mp written
      · exact absurd stands (by decide)
      · exact stands ▸ member
    · exact List.mem_singleton.mp written ▸ member
  · intro member
    exact ⟨newline, member, by simp⟩

theorem breakEscapes_eq_iff : breakEscapes s = s ↔ newline ∉ s ∧ 0x0D ∉ s := by
  constructor
  · intro same
    -- Every escape makes the name longer.
    have size : s.length + s.countP (fun b => b = newline ∨ b = 0x0D) = s.length := by
      conv_rhs => rw [← same]
      clear same
      induction s with
      | nil => rfl
      | cons b rest ih =>
        have split : breakEscapes (b :: rest) = breakEscapes [b] ++ breakEscapes rest := by
          simp [breakEscapes]
        rw [split, List.length_append, ← ih, List.countP_cons, List.length_cons]
        by_cases break_ : b = newline ∨ b = 0x0D
        · simp only [breakEscapes, List.flatMap_singleton, if_pos break_, decide_eq_true_eq]
          simp only [List.length_cons, List.length_nil]
          omega
        · simp only [breakEscapes, List.flatMap_singleton, if_neg break_, decide_eq_true_eq]
          simp only [List.length_cons, List.length_nil]
          omega
    have none_breaks := List.countP_eq_zero.mp (Nat.add_eq_left.mp size)
    simp only [decide_eq_true_eq] at none_breaks
    exact ⟨fun member => none_breaks _ member (.inl rfl),
      fun member => none_breaks _ member (.inr rfl)⟩
  · rintro ⟨line, carriage⟩
    have plain : ∀ b ∈ s, (if b = newline ∨ b = 0x0D then [backslash, b] else [b]) = [b] :=
      fun b member => if_neg fun break_ =>
        break_.elim (fun same => line (same ▸ member)) fun same => carriage (same ▸ member)
    rw [breakEscapes, List.flatMap_congr plain]
    simp

theorem readName_escape_iff {name read : Name} :
    (readName (escape name ++ [equals])).map Prod.fst = some read ↔
      read = name ∧ name ≠ [] ∧ Closed name := by
  by_cases closed : Closed name
  · rw [readName, scan_closed closed (by decide)]
    by_cases empty : name = [] <;> simp [empty, closed, eq_comm]
  · obtain ⟨start, rfl⟩ := List.getLast?_eq_some_iff.mp (not_not.mp closed)
    rw [readName, scan_open start (by decide)]
    exact iff_of_false (fun read => by cases read) fun both => closed both.2.2

end Names

-- The name as the writer replaced its slashes, unless a break or a backslash comes between.
theorem storedColumn_eq_iff {key name : GoString}
    (replaced : replace (Utf8.encode "/") (Utf8.encode "__") key = name) :
    storedColumn key = some name ↔
      name ≠ [] ∧ newline ∉ name ∧ 0x0D ∉ name ∧ name.getLast? ≠ some backslash := by
  have breaks : newline ∈ escape (breakEscapes name) ++ [equals] ↔ newline ∈ name := by
    rw [List.mem_append, mem_escape (by decide), mem_breakEscapes]
    exact or_iff_left (by decide)
  rw [storedColumn, escapeILPFieldKey, replaced, escapeILP_eq]
  simp only [breaks]
  by_cases line : newline ∈ name
  · simp [line]
  · rw [if_neg line, readName_escape_iff]
    constructor
    · rintro ⟨same, filled, closed⟩
      rw [← same] at filled closed
      exact ⟨filled, line, (breakEscapes_eq_iff.mp same.symm).2, closed⟩
    · rintro ⟨filled, _, carriage, closed⟩
      rw [breakEscapes_eq_iff.mpr ⟨line, carriage⟩]
      exact ⟨rfl, filled, closed⟩

end SystemScale.Cloud
