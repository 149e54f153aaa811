import SystemScale.Agent.RingQueue

set_option autoImplicit false

/-!
# A ring opened again

The process ends and `open` runs on the file it left, with the same configuration.
-/

namespace SystemScale.Agent

open AdapterTrait Runs
open Wire (Outcome)

variable {geometry : Geometry}

/-- The calls on a queue of what the ring keeps of an envelope. -/
def storedCall (geometry : Geometry) (queue : List (List UInt8)) :
    Call → List (List UInt8) × Option (List UInt8)
  | .push env => (DropQueue.push geometry.numSlots queue (stored geometry env), none)
  | .pop => DropQueue.pop queue
  | .onReconnect => (queue, none)

/-- What was pushed before and neither popped nor overwritten. -/
def live (geometry : Geometry) (calls : List Call) : List (List UInt8) :=
  after (storedCall geometry) [] calls

theorem ring_simulates_stored :
    Simulates (@Ring.call geometry) (storedCall geometry) (fun _ => True) Holds := by
  intro ring queue call holds _
  cases call with
  | push env => exact ⟨rfl, holds.push_stored env⟩
  | pop => exact holds.pop
  | onReconnect => exact ⟨rfl, holds.onReconnect⟩

theorem live_held {config : RingBufferConfig} {file : List UInt8} {ring : Ring geometry}
    (opened : openRing config file = .ok ⟨geometry, ring⟩) (calls : List Call) :
    Holds (after Ring.call ring calls) (live geometry calls) :=
  ring_simulates_stored.after_related (openRing_holds opened) fun _ _ => trivial

theorem setLen_self {length : Nat} {file : List UInt8} (sized : file.length = length) :
    setLen length file = file := by
  subst sized
  simp [setLen]

def reopened (ring : Ring geometry) : Ring geometry := { ring with head := 0, tail := 0, inReplay := false }

-- The file keeps every slot, and the two indices start over.
theorem openRing_again {config : RingBufferConfig} {file : List UInt8} {ring : Ring geometry}
    (opened : openRing config file = .ok ⟨geometry, ring⟩) (last : Ring geometry) :
    openRing config last.mmap = .ok ⟨geometry, reopened last⟩ := by
  simp only [openRing] at opened ⊢
  split_ifs at opened ⊢ with zero nonempty room
  cases opened
  have kept := setLen_self last.mapped
  simp only at kept
  simp only [kept, reopened]

-- A pop after the restart waits, so nothing can have been live.
theorem nothing_live {config : RingBufferConfig} {file : List UInt8} {again : Ring geometry}
    {queue : List (List UInt8)} (opened : openRing config file = .ok ⟨geometry, again⟩)
    (continues : answers Ring.call again [.pop] = answers (storedCall geometry) queue [.pop]) :
    queue = [] := by
  have waits : again.pop.2 = none := (openRing_holds opened).pop.1
  simp only [answers, Ring.call, storedCall, waits, List.cons.injEq, and_true] at continues
  cases queue with
  | nil => rfl
  | cons payload rest => simp [DropQueue.pop] at continues

/-- The reopened ring goes on with what was live exactly if nothing was. -/
theorem reopened_continues_iff (config : RingBufferConfig) (file : List UInt8)
    {ring : Ring geometry} (opened : openRing config file = .ok ⟨geometry, ring⟩)
    (calls : List Call) :
    ∃ again, openRing config (after Ring.call ring calls).mmap = .ok ⟨geometry, again⟩ ∧
      ((∀ later, answers Ring.call again later =
          answers (storedCall geometry) (live geometry calls) later) ↔ live geometry calls = []) := by
  have again := openRing_again opened (after Ring.call ring calls)
  refine ⟨_, again, ?_⟩
  constructor
  · intro continues
    exact nothing_live again (continues [.pop])
  · intro nothing later
    rw [nothing]
    exact ring_simulates_stored.answers_eq (openRing_holds again) fun _ _ => trivial

def sevenSlotFile : Geometry := ⟨88, 7, 616, by decide, by decide, by decide, by decide⟩

def emptyFile : Ring sevenSlotFile := ⟨setLen 616 [], 0, 0, false, length_setLen 616 []⟩

theorem drained_ring_continues :
    ∃ again : Ring sevenSlotFile,
      openRing ⟨616, 88⟩ (after Ring.call emptyFile [.push (sample 0), .pop]).mmap =
        .ok ⟨sevenSlotFile, again⟩ ∧
      ((∀ later, answers Ring.call again later =
          answers (storedCall sevenSlotFile) (live sevenSlotFile [.push (sample 0), .pop]) later) ↔
        live sevenSlotFile [.push (sample 0), .pop] = []) :=
  reopened_continues_iff ⟨616, 88⟩ [] rfl [.push (sample 0), .pop]

/-- One envelope is pushed, the agent starts again, and the next pop waits. -/
theorem unread_envelope_lost :
    ¬ ∀ (config : RingBufferConfig) (file : List UInt8) (geometry : Geometry)
      (ring again : Ring geometry) (calls later : List Call),
      openRing config file = .ok ⟨geometry, ring⟩ →
      openRing config (after Ring.call ring calls).mmap = .ok ⟨geometry, again⟩ →
      answers Ring.call again later = answers (storedCall geometry) (live geometry calls) later := by
  intro continues
  have opened : openRing ⟨616, 88⟩ [] = .ok ⟨sevenSlotFile, emptyFile⟩ := rfl
  have again := openRing_again opened (after Ring.call emptyFile [.push (sample 0)])
  have same := continues ⟨616, 88⟩ [] sevenSlotFile emptyFile _ [.push (sample 0)] [.pop] opened again
  exact absurd (nothing_live again same) (List.cons_ne_nil _ _)

end SystemScale.Agent
