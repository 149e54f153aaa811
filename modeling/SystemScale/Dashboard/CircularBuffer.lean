import Mathlib.Data.List.Induction
import SystemScale.Lib.DropQueue

set_option autoImplicit false

/-!
# The dashboard's circular buffer

The telemetry store keeps the latest frames of each vehicle in a `CircularBuffer`.
-/

namespace SystemScale.Dashboard

variable {T : Type}

/-- A slot that holds nothing is `undefined`. -/
structure CircularBuffer (T : Type) where
  capacity : Nat
  buf : List (Option T)
  head : Nat
  count : Nat

namespace CircularBuffer

def new (capacity : Nat) : CircularBuffer T := ⟨capacity, List.replicate capacity none, 0, 0⟩

def push (buffer : CircularBuffer T) (item : T) : CircularBuffer T :=
  { buffer with
    buf := buffer.buf.set buffer.head (some item)
    head := (buffer.head + 1) % buffer.capacity
    count := if buffer.count < buffer.capacity then buffer.count + 1 else buffer.count }

def slot (buffer : CircularBuffer T) (index : Nat) : Option T := (buffer.buf[index]?).join

def snapshot (buffer : CircularBuffer T) : List (Option T) :=
  if buffer.count = 0 then []
  else
    let start := if buffer.count < buffer.capacity then 0 else buffer.head
    (List.range buffer.count).map fun i => buffer.slot ((start + i) % buffer.capacity)

def size (buffer : CircularBuffer T) : Nat := buffer.count

def latest (buffer : CircularBuffer T) : Option T :=
  if buffer.count = 0 then none
  else
    buffer.slot ((((buffer.head : Int) - 1 + buffer.capacity) % buffer.capacity).toNat)

def pushes (capacity : Nat) (items : List T) : CircularBuffer T := items.foldl push (new capacity)

/-- Item `i` stands at `i % capacity` until the pushes have come round to it. -/
structure Holds (buffer : CircularBuffer T) (capacity : Nat) (items : List T) : Prop where
  room : buffer.capacity = capacity
  length : buffer.buf.length = capacity
  head : buffer.head = items.length % capacity
  count : buffer.count = min items.length capacity
  slots : ∀ i item, items[i]? = some item → items.length ≤ i + capacity →
    buffer.slot (i % capacity) = some item

variable {capacity : Nat} {items : List T} {buffer : CircularBuffer T}

theorem push_holds (positive : 0 < capacity) (holds : buffer.Holds capacity items) (item : T) :
    (buffer.push item).Holds capacity (items ++ [item]) := by
  have inside : items.length % capacity < buffer.buf.length := by
    rw [holds.length]
    exact Nat.mod_lt _ positive
  constructor
  · exact holds.room
  · rw [push, List.length_set, holds.length]
  · rw [push, holds.head, holds.room, Nat.mod_add_mod, List.length_append]
    rfl
  · rw [push, holds.count, holds.room, List.length_append, List.length_singleton]
    dsimp only
    split_ifs <;> omega
  · intro i found is close
    rw [List.length_append, List.length_singleton] at close
    rw [push, slot, holds.head]
    by_cases last : i = items.length
    · subst last
      rw [List.getElem?_concat_length] at is
      rw [List.getElem?_set_self inside, is]
      rfl
    · have before : i < items.length := by
        have within := (List.getElem?_eq_some_iff.mp is).1
        rw [List.length_append, List.length_singleton] at within
        omega
      have apart : i % capacity ≠ items.length % capacity := DropQueue.slot_ne before (by omega)
      rw [List.getElem?_append_left before] at is
      rw [List.getElem?_set_ne apart.symm]
      exact holds.slots i found is (by omega)

theorem new_holds (capacity : Nat) : (new capacity : CircularBuffer T).Holds capacity [] :=
  ⟨rfl, List.length_replicate, (Nat.zero_mod _).symm, (Nat.zero_min _).symm,
    fun _ _ is => (nomatch is)⟩

theorem pushes_holds (positive : 0 < capacity) (items : List T) :
    (pushes capacity items).Holds capacity items := by
  induction items using List.reverseRecOn with
  | nil => exact new_holds capacity
  | append_singleton items item ih =>
    rw [pushes, List.foldl_append]
    exact push_holds positive ih item

-- The slot at which a snapshot begins is that of the oldest item.
theorem start_slot (holds : buffer.Holds capacity items) (i : Nat) :
    ((if buffer.count < buffer.capacity then 0 else buffer.head) + i) % buffer.capacity =
      (items.length - min items.length capacity + i) % capacity := by
  rw [holds.count, holds.room, holds.head]
  by_cases short : items.length < capacity
  · rw [if_pos (by omega), show items.length - min items.length capacity = 0 by omega]
  · rw [if_neg (by omega), Nat.mod_add_mod]
    have back : items.length + i = items.length - min items.length capacity + i + capacity := by
      omega
    rw [back, Nat.add_mod_right]

theorem Holds.snapshot (holds : buffer.Holds capacity items) :
    buffer.snapshot = (items.drop (items.length - min items.length capacity)).map some := by
  have range : buffer.snapshot = (List.range (min items.length capacity)).map fun i =>
      buffer.slot ((items.length - min items.length capacity + i) % capacity) := by
    rw [CircularBuffer.snapshot]
    by_cases none_there : buffer.count = 0
    · rw [if_pos none_there, ← holds.count, none_there]
      rfl
    · rw [if_neg none_there]
      simp only [start_slot holds]
      rw [holds.count]
  rw [range]
  apply List.ext_getElem?
  intro i
  by_cases inside : i < min items.length capacity
  · have there : items.length - min items.length capacity + i < items.length := by omega
    rw [List.getElem?_map, List.getElem?_range inside, List.getElem?_map, List.getElem?_drop,
      List.getElem?_eq_getElem there]
    exact congrArg some (holds.slots _ _ (List.getElem?_eq_getElem there) (by omega))
  · rw [List.getElem?_eq_none (by simpa using Nat.not_lt.mp inside),
      List.getElem?_eq_none (by simp only [List.length_map, List.length_drop]; omega)]

theorem Holds.latest (positive : 0 < capacity) (holds : buffer.Holds capacity items) :
    buffer.latest = items.getLast? := by
  rw [CircularBuffer.latest, holds.count, holds.head, holds.room]
  by_cases empty : items = []
  · subst empty
    rw [if_pos (by simp)]
    rfl
  · have some_items : 0 < items.length := List.length_pos_iff.mpr empty
    have last : ((((items.length % capacity : Nat) : Int) - 1 + capacity) % capacity).toNat =
        (items.length - 1) % capacity := by
      rw [Int.add_emod_right, Int.natCast_emod, Int.emod_sub_emod]
      have less : (items.length : Int) - 1 = ((items.length - 1 : Nat) : Int) := by omega
      rw [less, ← Int.natCast_emod, Int.toNat_natCast]
    have there : items.length - 1 < items.length := by omega
    rw [if_neg (by omega), last, List.getLast?_eq_getElem?, List.getElem?_eq_getElem there]
    exact holds.slots _ _ (List.getElem?_eq_getElem there) (by omega)

/-- After any pushes the buffer shows the last of them, as many as it has room for. -/
theorem pushes_shown (positive : 0 < capacity) (items : List T) :
    (pushes capacity items).snapshot =
        (items.drop (items.length - min items.length capacity)).map some ∧
      (pushes capacity items).size = min items.length capacity ∧
      (pushes capacity items).latest = items.getLast? :=
  have holds := pushes_holds positive items
  ⟨holds.snapshot, holds.count, holds.latest positive⟩

theorem three_in_two :
    (pushes 2 [1, 2, 3]).snapshot = [some 2, some 3] ∧ (pushes 2 [1, 2, 3]).size = 2 ∧
      (pushes 2 [1, 2, 3]).latest = some 3 :=
  pushes_shown (by decide) [1, 2, 3]

end CircularBuffer

end SystemScale.Dashboard
