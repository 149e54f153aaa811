import SystemScale.Lib.Bytes

set_option autoImplicit false

/-!
# Records written round a buffer

Records go into a buffer one behind the other, and from its start again where the next one does not
fit. A record may get written in part only, and the next one then goes to the same place.
-/

namespace LapBuffer

open Bytes

variable {α : Type}

structure Writer (α : Type) where
  buffer : List α
  pos : Nat

namespace Writer

def start (capacity : Nat) (writer : Writer α) (record : List α) : Nat :=
  if writer.pos + record.length > capacity then 0 else writer.pos

def put (capacity : Nat) (writer : Writer α) (record : List α) : Writer α :=
  ⟨splice writer.buffer (writer.start capacity record) record,
    writer.start capacity record + record.length⟩

def tear (capacity : Nat) (writer : Writer α) (record : List α) (written : Nat) : Writer α :=
  ⟨splice writer.buffer (writer.start capacity record) (record.take written),
    writer.start capacity record⟩

end Writer

/-- The records by what has become of them: overwritten, of the lap before and not overwritten, of
this lap. The buffer has `gap` in front of those of the lap before, and `tail` behind them. -/
structure Laps (α : Type) where
  gone : List (List α)
  kept : List (List α)
  lap : List (List α)
  gap : List α
  tail : List α

def Laps.records (laps : Laps α) : List (List α) := laps.gone ++ laps.kept ++ laps.lap

def Laps.behind (laps : Laps α) : List α := laps.gap ++ (laps.kept.flatten ++ laps.tail)

structure Holds (capacity largest : Nat) (laps : Laps α) (writer : Writer α) : Prop where
  buffer : writer.buffer = laps.lap.flatten ++ laps.behind
  pos : writer.pos = laps.lap.flatten.length
  length : writer.buffer.length = capacity
  small : ∀ record ∈ laps.records, record.length ≤ largest
  lost : laps.gone ++ laps.kept ≠ [] →
    laps.gap.length < 2 * largest ∧ laps.tail.length < largest

variable {capacity largest : Nat} {laps : Laps α} {writer : Writer α} {record : List α}

theorem new_holds (buffer : List α) (largest : Nat) :
    Holds buffer.length largest ⟨[], [], [], [], buffer⟩ ⟨buffer, 0⟩ :=
  ⟨rfl, rfl, rfl, fun _ member => (nomatch member), fun some_record => absurd rfl some_record⟩

-- What is written over the front leaves the last records, behind a part of one.
theorem drop_behind {kept : List (List α)} (gap tail : List α) (written : Nat)
    (small : ∀ record ∈ kept, record.length ≤ largest) (positive : 0 < largest)
    (inside : written ≤ (gap ++ (kept.flatten ++ tail)).length) :
    ∃ covered left torn rest, kept = covered ++ left ∧
      (gap ++ (kept.flatten ++ tail)).drop written = torn ++ (left.flatten ++ rest) ∧
      (written ≤ gap.length ∧ torn.length = gap.length - written ∨
        gap.length < written ∧ torn.length < largest) ∧
      rest.length ≤ tail.length := by
  induction kept generalizing gap written with
  | nil =>
    by_cases within : written ≤ gap.length
    · exact ⟨[], [], gap.drop written, tail, rfl, List.drop_append_of_le_length within,
        .inl ⟨within, List.length_drop⟩, Nat.le_refl _⟩
    · refine ⟨[], [], [], tail.drop (written - gap.length), rfl, ?_,
        .inr ⟨Nat.lt_of_not_le within, positive⟩, by simp⟩
      rw [List.drop_append, List.drop_eq_nil_of_le (Nat.le_of_not_le within)]
      rfl
  | cons record rest ih =>
    by_cases within : written ≤ gap.length
    · exact ⟨[], record :: rest, gap.drop written, tail, rfl,
        List.drop_append_of_le_length within, .inl ⟨within, List.length_drop⟩, Nat.le_refl _⟩
    · have first : record.length ≤ largest := small record List.mem_cons_self
      obtain ⟨covered, left, torn, behind, split, dropped, short, less⟩ :=
        ih record (written - gap.length)
          (fun other member => small other (List.mem_cons_of_mem _ member)) (by
            simp at inside ⊢
            omega)
      refine ⟨record :: covered, left, torn, behind, by rw [split]; rfl, ?_,
        .inr ⟨Nat.lt_of_not_le within, by omega⟩, less⟩
      rw [← dropped, List.drop_append, List.drop_eq_nil_of_le (Nat.le_of_not_le within),
        List.nil_append, List.flatten_cons, List.append_assoc]

-- A writer that goes back to the start begins a lap, and the one before is the last one kept.
theorem turn_holds (holds : Holds capacity largest laps writer)
    (small : record.length ≤ largest) :
    ∃ turned : Laps α, turned.records = laps.records ∧
      Holds capacity largest turned ⟨writer.buffer, writer.start capacity record⟩ := by
  rw [Writer.start]
  split_ifs with beyond
  · have whole : laps.lap.flatten.length + laps.behind.length = capacity := by
      rw [← holds.length, holds.buffer, List.length_append]
    rw [holds.pos] at beyond
    refine ⟨⟨laps.gone ++ laps.kept, laps.lap, [], [], laps.behind⟩, List.append_nil _,
      holds.buffer, rfl, holds.length, ?_, fun _ => ⟨?_, ?_⟩⟩
    · simpa [Laps.records] using holds.small
    · simp only [List.length_nil]
      omega
    · dsimp only
      omega
  · exact ⟨laps, rfl, holds⟩

theorem start_room (writer : Writer α) (fits : record.length ≤ capacity) :
    writer.start capacity record + record.length ≤ capacity := by
  rw [Writer.start]
  split_ifs <;> omega

-- What goes on at the end of the lap leaves it, and the last records of the lap before.
theorem splice_lap (holds : Holds capacity largest laps writer) {bytes : List α}
    (room : writer.pos + bytes.length ≤ capacity) (positive : 0 < largest) :
    ∃ covered left torn rest, laps.kept = covered ++ left ∧
      splice writer.buffer writer.pos bytes =
        laps.lap.flatten ++ (bytes ++ (torn ++ (left.flatten ++ rest))) ∧
      (bytes.length ≤ laps.gap.length ∧ torn.length = laps.gap.length - bytes.length ∨
        laps.gap.length < bytes.length ∧ torn.length < largest) ∧
      rest.length ≤ laps.tail.length := by
  have whole : laps.lap.flatten.length + laps.behind.length = capacity := by
    rw [← holds.length, holds.buffer, List.length_append]
  rw [holds.pos] at room
  have kept : ∀ record ∈ laps.kept, record.length ≤ largest :=
    fun record member => holds.small record (by simp [Laps.records, member])
  obtain ⟨covered, left, torn, rest, split, dropped, short, less⟩ :=
    drop_behind laps.gap laps.tail bytes.length kept positive (by
      rw [← Laps.behind]
      omega)
  refine ⟨covered, left, torn, rest, split, ?_, short, less⟩
  rw [splice, holds.buffer, holds.pos, List.take_left' rfl, List.append_assoc, ← dropped,
    ← Laps.behind, List.drop_append, List.drop_eq_nil_of_le (Nat.le_add_right _ _),
    Nat.add_sub_cancel_left, List.nil_append]

section Writes

variable (positive : 0 < largest) (small : record.length ≤ largest) (fits : record.length ≤ capacity)
include positive small fits

theorem put_holds (holds : Holds capacity largest laps writer) :
    ∃ after : Laps α, after.records = laps.records ++ [record] ∧
      Holds capacity largest after (writer.put capacity record) := by
  obtain ⟨turned, same, holds⟩ := turn_holds holds small
  have room := start_room writer fits
  obtain ⟨covered, left, torn, rest, split, spliced, short, less⟩ := splice_lap holds room positive
  have records : (⟨turned.gone ++ covered, left, turned.lap ++ [record], torn, rest⟩ :
      Laps α).records = laps.records ++ [record] := by
    rw [← same]
    simp [Laps.records, split]
  refine ⟨_, records, ?_, ?_, ?_, ?_, fun some_lost => ?_⟩
  · rw [Writer.put]
    refine spliced.trans ?_
    simp [Laps.behind]
  · have start : writer.start capacity record = turned.lap.flatten.length := holds.pos
    rw [Writer.put, start]
    simp
  · rw [← holds.length]
    exact length_splice (holds.length ▸ room)
  · intro other member
    rw [records, ← same] at member
    rcases List.mem_append.mp member with before | last
    · exact holds.small other before
    · rwa [List.mem_singleton.mp last]
  · obtain ⟨gap, tail⟩ := holds.lost (by simpa [split] using some_lost)
    exact ⟨by dsimp only; omega, Nat.lt_of_le_of_lt less tail⟩

theorem tear_holds (holds : Holds capacity largest laps writer) (written : Nat) :
    ∃ after : Laps α, after.records = laps.records ∧
      Holds capacity largest after (writer.tear capacity record written) := by
  obtain ⟨turned, same, holds⟩ := turn_holds holds small
  have start := start_room writer fits
  have part : (record.take written).length ≤ record.length := by simp
  have room : writer.start capacity record + (record.take written).length ≤ capacity := by omega
  obtain ⟨covered, left, torn, rest, split, spliced, short, less⟩ := splice_lap holds room positive
  have records : (⟨turned.gone ++ covered, left, turned.lap, record.take written ++ torn, rest⟩ :
      Laps α).records = laps.records := by
    rw [← same]
    simp [Laps.records, split]
  refine ⟨_, records, ?_, holds.pos, ?_, ?_, fun some_lost => ?_⟩
  · rw [Writer.tear]
    refine spliced.trans ?_
    simp [Laps.behind]
  · rw [← holds.length]
    exact length_splice (holds.length ▸ room)
  · intro other member
    rw [records, ← same] at member
    exact holds.small other member
  · obtain ⟨gap, tail⟩ := holds.lost (by simpa [split] using some_lost)
    refine ⟨?_, Nat.lt_of_le_of_lt less tail⟩
    rw [List.length_append]
    omega

end Writes

/-- Once a record is lost, the others are all of the buffer but three times the largest. -/
theorem Holds.retained (holds : Holds capacity largest laps writer) (lost : laps.gone ≠ []) :
    capacity < laps.kept.flatten.length + laps.lap.flatten.length + 3 * largest := by
  obtain ⟨gap, tail⟩ := holds.lost (by simp [lost])
  have whole := holds.length
  rw [holds.buffer, Laps.behind] at whole
  simp only [List.length_append] at whole
  omega

end LapBuffer
