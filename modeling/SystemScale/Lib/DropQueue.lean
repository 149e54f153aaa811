import Mathlib.Data.List.Basic

set_option autoImplicit false

/-!
# Bounded queues that drop their oldest item

A queue is also the part of the items ever pushed that starts at a `tail` index, which is how a ring
buffer holds it.
-/

namespace DropQueue

variable {α : Type}

def push (capacity : Nat) (queue : List α) (item : α) : List α :=
  if queue.length < capacity then queue ++ [item] else (queue ++ [item]).tail

def pop : List α → List α × Option α
  | [] => ([], none)
  | item :: rest => (rest, some item)

/-- Where the queue starts once an item is pushed. -/
def pushedTail (capacity head tail : Nat) : Nat :=
  if head + 1 > tail + capacity then tail + 1 else tail

theorem pushedTail_bounds {capacity head tail : Nat} (positive : 0 < capacity)
    (ordered : tail ≤ head) (bounded : head ≤ tail + capacity) :
    pushedTail capacity head tail ≤ head + 1 ∧
      head + 1 ≤ pushedTail capacity head tail + capacity := by
  unfold pushedTail
  split_ifs
  next => omega
  next => omega

theorem push_drop {capacity tail : Nat} {pushed : List α} (item : α)
    (ordered : tail ≤ pushed.length) (bounded : pushed.length ≤ tail + capacity) :
    push capacity (pushed.drop tail) item =
      (pushed ++ [item]).drop (pushedTail capacity pushed.length tail) := by
  have grown : (pushed ++ [item]).drop tail = pushed.drop tail ++ [item] :=
    List.drop_append_of_le_length ordered
  unfold push pushedTail
  by_cases full : pushed.length + 1 > tail + capacity
  · rw [if_neg (by simp; omega), if_pos full, ← List.tail_drop, grown]
  · rw [if_pos (by simp; omega), if_neg full, grown]

theorem pop_drop {pushed : List α} {tail : Nat} {item : α} (next : pushed[tail]? = some item) :
    pop (pushed.drop tail) = (pushed.drop (tail + 1), some item) := by
  obtain ⟨inside, rfl⟩ := List.getElem?_eq_some_iff.mp next
  rw [List.drop_eq_getElem_cons inside, pop]

theorem pop_drop_empty {pushed : List α} {tail : Nat} (reached : pushed.length ≤ tail) :
    pop (pushed.drop tail) = (pushed.drop tail, none) := by
  rw [List.drop_eq_nil_of_le reached, pop]

theorem slot_ne {capacity first second : Nat} (less : first < second)
    (close : second < first + capacity) : first % capacity ≠ second % capacity := by
  intro same
  have whole : (second - first) % capacity = 0 := Nat.sub_mod_eq_zero_of_mod_eq same.symm
  rw [Nat.mod_eq_of_lt (by omega)] at whole
  omega

end DropQueue
