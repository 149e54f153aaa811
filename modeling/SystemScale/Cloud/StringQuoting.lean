import SystemScale.Cloud.IlpLine
import SystemScale.Cloud.Questdb
import SystemScale.Lib.Escapes

set_option autoImplicit false

/-!
# Two writers of quoted strings

telemetry-ingest replaces in the whole string, once for each byte that it escapes, and the storage
writer goes through the bytes once.
-/

namespace SystemScale.Cloud

open LineProtocol

-- 0x6E and 0x72 are `n` and `r`.
def fieldEscapes : Escapes UInt8 where
  escape := backslash
  letter b :=
    if b = backslash ∨ b = mark then some b
    else if b = newline then some 0x6E
    else if b = 0x0D then some 0x72
    else none
  value b :=
    if b = backslash ∨ b = mark then some b
    else if b = 0x6E then some newline
    else if b = 0x72 then some 0x0D
    else none
  value_letter := by
    intro b written is
    split_ifs at is with quoted line carriage
    · obtain rfl := Option.some.inj is
      exact if_pos quoted
    · obtain rfl := Option.some.inj is
      subst line
      decide
    · obtain rfl := Option.some.inj is
      subst carriage
      decide
  letter_escape := by decide

/-- `quoted` has no break and no free mark but its first and its last, and stands for `s`. -/
structure Quotes (s quoted : GoString) : Prop where
  unbroken : newline ∉ quoted ∧ 0x0D ∉ quoted
  enclosed : ∃ inner, quoted = mark :: (inner ++ [mark]) ∧
    fieldEscapes.firstFree mark (inner ++ [mark]) = some inner.length ∧
    fieldEscapes.read inner = some s

theorem writtenByte_eq (b : UInt8) : writtenByte b = fieldEscapes.writeSymbol b := by
  rw [writtenByte, Escapes.writeSymbol]
  by_cases is_backslash : b = backslash
  · subst is_backslash
    rfl
  · by_cases is_mark : b = mark
    · subst is_mark
      rfl
    · rw [if_neg is_backslash, if_neg is_mark, fieldEscapes]
      split_ifs <;> simp_all

theorem escapeFieldString_write (s : GoString) : escapeFieldString s = fieldEscapes.write s := by
  rw [escapeFieldString_eq, Escapes.write, funext writtenByte_eq]

theorem escapeILPString_write (s : GoString) :
    escapeILPString s = mark :: (fieldEscapes.write s ++ [mark]) := by
  have same : ∀ b : UInt8, (if b = mark ∨ b = backslash then [backslash, b]
      else if b = newline then [backslash, 0x6E]
      else if b = 0x0D then [backslash, 0x72]
      else [b]) = fieldEscapes.writeSymbol b := by
    intro b
    rw [← writtenByte_eq, writtenByte]
    by_cases is_backslash : b = backslash
    · subst is_backslash
      rfl
    · by_cases is_mark : b = mark
      · subst is_mark
        rfl
      · rw [if_neg (by simp [is_backslash, is_mark]), if_neg is_backslash, if_neg is_mark]
  rw [escapeILPString, funext same]
  rfl

theorem quoted_quotes (s : GoString) : Quotes s (mark :: (fieldEscapes.write s ++ [mark])) := by
  have line : newline ∉ fieldEscapes.write s :=
    Escapes.not_mem_write (by decide) (by decide) (by decide) s
  have carriage : 0x0D ∉ fieldEscapes.write s :=
    Escapes.not_mem_write (by decide) (by decide) (by decide) s
  constructor
  · have apart : newline ≠ mark ∧ (0x0D : UInt8) ≠ mark := by decide
    simp [line, carriage, apart]
  · refine ⟨fieldEscapes.write s, rfl, ?_, Escapes.read_write s⟩
    exact Escapes.firstFree_write (by decide) (by decide) s []

/-- Both writers quote every string alike, on one line and so that it can be read back. -/
theorem quoting_agrees (s : GoString) :
    mark :: (escapeFieldString s ++ [mark]) = escapeILPString s ∧ Quotes s (escapeILPString s) := by
  rw [escapeILPString_write, escapeFieldString_write]
  exact ⟨rfl, quoted_quotes s⟩

end SystemScale.Cloud
