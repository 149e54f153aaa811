import SystemScale.Agent.Ring

set_option autoImplicit false

/-!
# The ring as a queue

Calls that run to completion, one after the other. The ring answers them like a bounded queue that
drops its oldest item.
-/

namespace SystemScale.Agent

open AdapterTrait
open Wire (Outcome)

inductive Call where
  | push (env : DataEnvelope)
  | pop
  | onReconnect

variable {geometry : Geometry}

/-- The answer is the payload a `pop` returned. -/
def Ring.call (ring : Ring geometry) : Call → Ring geometry × Option (List UInt8)
  | .push env => (ring.push env, none)
  | .pop => ring.pop
  | .onReconnect => (ring.onReconnect, none)

/-- The same calls on a queue of encoded envelopes. -/
def queueCall (capacity : Nat) (queue : List (List UInt8)) :
    Call → List (List UInt8) × Option (List UInt8)
  | .push env => (DropQueue.push capacity queue (encodeEnvelopeToBuf env), none)
  | .pop => DropQueue.pop queue
  | .onReconnect => (queue, none)

def Call.Fits (geometry : Geometry) : Call → Prop
  | .push env => (encodeEnvelopeToBuf env).length ≤ geometry.maxPayload
  | _ => True

/-- The queue is what was pushed from the tail on. -/
structure Holds (ring : Ring geometry) (queue : List (List UInt8)) : Prop where
  ordered : ring.tail ≤ ring.head
  bounded : ring.head ≤ ring.tail + geometry.numSlots
  recorded : ∃ pushed, Recorded ring pushed ∧ queue = pushed.drop ring.tail

theorem Holds.next_slot {ring : Ring geometry} {queue : List (List UInt8)}
    (holds : Holds ring queue) (nonempty : ring.tail < ring.head) :
    ∃ payload, ring.slot ring.tail = .payload payload ∧
      DropQueue.pop queue = (queue.tail, some payload) := by
  obtain ⟨pushed, recorded, rfl⟩ := holds.recorded
  have inside : ring.tail < pushed.length := by
    rw [recorded.count]
    exact nonempty
  have next := List.getElem?_eq_getElem inside
  refine ⟨pushed[ring.tail], recorded.kept _ _ next holds.bounded, ?_⟩
  rw [DropQueue.pop_drop next, List.tail_drop]

theorem Holds.push_stored {ring : Ring geometry} {queue : List (List UInt8)}
    (holds : Holds ring queue) (env : DataEnvelope) :
    Holds (ring.push env) (DropQueue.push geometry.numSlots queue (stored geometry env)) := by
  obtain ⟨pushed, recorded, rfl⟩ := holds.recorded
  have bounds := DropQueue.pushedTail_bounds geometry.nonempty holds.ordered holds.bounded
  have count := recorded.count
  have same := DropQueue.push_drop (stored geometry env)
    (show ring.tail ≤ pushed.length by rw [count]; exact holds.ordered)
    (show pushed.length ≤ ring.tail + geometry.numSlots by rw [count]; exact holds.bounded)
  rw [count] at same
  exact ⟨bounds.1, bounds.2, pushed ++ [stored geometry env], recorded.push env, same⟩

theorem Holds.push {ring : Ring geometry} {queue : List (List UInt8)} (holds : Holds ring queue)
    {env : DataEnvelope} (fits : Call.Fits geometry (.push env)) :
    Holds (ring.push env) (DropQueue.push geometry.numSlots queue (encodeEnvelopeToBuf env)) := by
  have whole : stored geometry env = encodeEnvelopeToBuf env := List.take_of_length_le fits
  rw [← whole]
  exact holds.push_stored env

-- A pop returns the oldest payload at once; none of the slots in use is skipped.
theorem Holds.pop {ring : Ring geometry} {queue : List (List UInt8)} (holds : Holds ring queue) :
    ring.pop.2 = (DropQueue.pop queue).2 ∧ Holds ring.pop.1 (DropQueue.pop queue).1 := by
  obtain ⟨pushed, recorded, split⟩ := holds.recorded
  have ordered := holds.ordered
  have bounded := holds.bounded
  by_cases empty : ring.tail ≥ ring.head
  · have waits : ring.pop = ({ ring with inReplay := false }, none) := by
      rw [Ring.pop, Ring.popLoop, Ring.popBegin, if_pos empty]
    have reached : pushed.length ≤ ring.tail := by
      rw [recorded.count]
      exact empty
    rw [waits, split, DropQueue.pop_drop_empty reached]
    exact ⟨rfl, ordered, bounded, pushed, recorded.of_same rfl rfl, rfl⟩
  · obtain ⟨payload, slot, popped⟩ := holds.next_slot (by omega)
    have returns : ring.pop = ({ ring with tail := ring.tail + 1 }, some payload) := by
      rw [Ring.pop, Ring.popLoop, Ring.popBegin, if_neg empty]
      simp only [Ring.popFinish, slot]
    rw [returns, popped, split]
    refine ⟨rfl, ?_, ?_, pushed, recorded.of_same rfl rfl, List.tail_drop⟩
    · show ring.tail + 1 ≤ ring.head
      omega
    · show ring.head ≤ ring.tail + 1 + geometry.numSlots
      omega

theorem Holds.onReconnect {ring : Ring geometry} {queue : List (List UInt8)}
    (holds : Holds ring queue) : Holds ring.onReconnect queue := by
  obtain ⟨pushed, recorded, split⟩ := holds.recorded
  unfold Ring.onReconnect
  split_ifs
  · exact ⟨holds.ordered, holds.bounded, pushed, recorded.of_same rfl rfl, split⟩
  · exact holds

theorem ring_simulates_queue :
    Runs.Simulates (@Ring.call geometry) (queueCall geometry.numSlots)
      (Call.Fits geometry) Holds := by
  intro ring queue call holds fits
  cases call with
  | push env => exact ⟨rfl, holds.push fits⟩
  | pop => exact holds.pop
  | onReconnect => exact ⟨rfl, holds.onReconnect⟩

theorem openRing_fresh {config : RingBufferConfig} {file : List UInt8} {ring : Ring geometry}
    (opened : openRing config file = .ok ⟨geometry, ring⟩) : ring.head = 0 ∧ ring.tail = 0 := by
  simp only [openRing] at opened
  split_ifs at opened
  cases opened
  exact ⟨rfl, rfl⟩

theorem openRing_holds {config : RingBufferConfig} {file : List UInt8} {ring : Ring geometry}
    (opened : openRing config file = .ok ⟨geometry, ring⟩) : Holds ring [] := by
  obtain ⟨head, tail⟩ := openRing_fresh opened
  exact ⟨by rw [head, tail], by omega, [], ⟨head.symm, by simp⟩, by simp⟩

/-- An opened ring answers any calls as the queue does, with its indices in bounds and a payload in
the slot that the next pop reads. -/
theorem opened_ring_refines_queue (config : RingBufferConfig) (file : List UInt8)
    {ring : Ring geometry} (opened : openRing config file = .ok ⟨geometry, ring⟩)
    (calls : List Call) (fits : ∀ call ∈ calls, call.Fits geometry) :
    Runs.answers Ring.call ring calls = Runs.answers (queueCall geometry.numSlots) [] calls ∧
      (Runs.after Ring.call ring calls).tail ≤ (Runs.after Ring.call ring calls).head ∧
      (Runs.after Ring.call ring calls).head ≤
        (Runs.after Ring.call ring calls).tail + geometry.numSlots ∧
      ((Runs.after Ring.call ring calls).tail < (Runs.after Ring.call ring calls).head →
        ∃ payload, (Runs.after Ring.call ring calls).slot (Runs.after Ring.call ring calls).tail =
          .payload payload) := by
  have start := openRing_holds opened
  have holds := ring_simulates_queue.after_related start fits
  refine ⟨ring_simulates_queue.answers_eq start fits, holds.ordered, holds.bounded, ?_⟩
  intro nonempty
  obtain ⟨payload, slot, _⟩ := holds.next_slot nonempty
  exact ⟨payload, slot⟩

def sample (seq : UInt32) : DataEnvelope :=
  ⟨"v1", 1, .telemetry, [7], 0, 0, 0, seq, "", "", "", "", "", "", "", by decide⟩

-- Two slots, three pushes: the first envelope is gone.
theorem two_slots_refine_queue :
    Runs.answers Ring.call
        (⟨setLen 160 [], 0, 0, false, length_setLen 160 []⟩ :
          Ring ⟨80, 2, 160, by decide, by decide, by decide, by decide⟩)
        [.push (sample 0), .push (sample 1), .push (sample 2), .pop] =
      [none, none, none, some (encodeEnvelopeToBuf (sample 1))] :=
  (opened_ring_refines_queue ⟨160, 80⟩ [] rfl
    [.push (sample 0), .push (sample 1), .push (sample 2), .pop]
    (by
      intro call member
      simp only [List.mem_cons, List.not_mem_nil, or_false] at member
      rcases member with rfl | rfl | rfl | rfl
      · exact show (encodeEnvelopeToBuf (sample 0)).length ≤ 64 by decide
      · exact show (encodeEnvelopeToBuf (sample 1)).length ≤ 64 by decide
      · exact show (encodeEnvelopeToBuf (sample 2)).length ≤ 64 by decide
      · trivial)).1

end SystemScale.Agent
