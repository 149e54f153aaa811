import SystemScale.Agent.Encode
import SystemScale.Lib.DropQueue
import SystemScale.Lib.Runs

set_option autoImplicit false

/-!
# The ring buffer

A mapped file of fixed-size slots. `head` and `tail` count pushes; their 64 bits outlast any agent,
and they are natural numbers here.
-/

namespace SystemScale.Agent

open AdapterTrait Bytes
open Wire (Outcome)

structure RingBufferConfig where
  capacityBytes : UInt64
  slotSize : UInt32

def slotMagic : Nat := 0xDEADBEAF

def headerSize : Nat := 16

structure Geometry where
  slotSize : Nat
  numSlots : Nat
  capacity : Nat
  room : headerSize + 64 ≤ slotSize
  narrow : slotSize < 2 ^ 32
  nonempty : 0 < numSlots
  inside : numSlots * slotSize ≤ capacity

def Geometry.offset (geometry : Geometry) (index : Nat) : Nat :=
  index % geometry.numSlots * geometry.slotSize

def Geometry.maxPayload (geometry : Geometry) : Nat := geometry.slotSize - headerSize

structure Ring (geometry : Geometry) where
  mmap : List UInt8
  head : Nat
  tail : Nat
  inReplay : Bool
  mapped : mmap.length = geometry.capacity

def setLen (length : Nat) (file : List UInt8) : List UInt8 :=
  file.take length ++ List.replicate (length - file.length) 0

theorem length_setLen (length : Nat) (file : List UInt8) :
    (setLen length file).length = length := by
  simp [setLen]
  omega

/-- `open` on a file with any contents. -/
def openRing (config : RingBufferConfig) (file : List UInt8) :
    Outcome (Σ geometry : Geometry, Ring geometry) :=
  let capacity := config.capacityBytes.toNat
  let slotSize := config.slotSize.toNat
  -- The division comes before the check of its divisor.
  if slotSize = 0 then .panic
  else if nonempty : capacity / slotSize > 0 then
    if room : slotSize ≥ headerSize + 64 then
      .ok ⟨⟨slotSize, capacity / slotSize, capacity, room, config.slotSize.toNat_lt, nonempty,
          Nat.div_mul_le_self capacity slotSize⟩,
        ⟨setLen capacity file, 0, 0, false, length_setLen capacity file⟩⟩
    else .err "slot_size too small"
  else .err "ring buffer capacity too small"

def slotBytes (ts : UInt64) (written : List UInt8) : List UInt8 :=
  leBytes 4 slotMagic ++ (leBytes 4 written.length ++ (leBytes 8 ts.toNat ++ written))

/-- What `push` keeps of an envelope: all of it, unless it does not fit. -/
def stored (geometry : Geometry) (env : DataEnvelope) : List UInt8 :=
  (encodeEnvelopeToBuf env).take geometry.maxPayload

section Slots

variable {geometry : Geometry}

theorem offset_inside (geometry : Geometry) (index : Nat) :
    geometry.offset index + geometry.slotSize ≤ geometry.capacity := by
  have slot := Nat.mod_lt index geometry.nonempty
  have next := Nat.mul_le_mul_right geometry.slotSize (Nat.succ_le_of_lt slot)
  rw [Nat.succ_mul] at next
  exact Nat.le_trans next geometry.inside

theorem length_slotBytes (ts : UInt64) (written : List UInt8) :
    (slotBytes ts written).length = headerSize + written.length := by
  simp [slotBytes, headerSize]
  omega

theorem length_stored (geometry : Geometry) (env : DataEnvelope) :
    headerSize + (stored geometry env).length ≤ geometry.slotSize := by
  have room := geometry.room
  simp [stored, Geometry.maxPayload]
  omega

theorem slot_written (ring : Ring geometry) (env : DataEnvelope) :
    geometry.offset ring.head + (slotBytes env.timestampNs (stored geometry env)).length ≤
      ring.mmap.length := by
  have slot := offset_inside geometry ring.head
  have fits := length_stored geometry env
  rw [length_slotBytes, ring.mapped]
  omega

namespace Ring

def push (ring : Ring geometry) (env : DataEnvelope) : Ring geometry where
  mmap := splice ring.mmap (geometry.offset ring.head)
    (slotBytes env.timestampNs (stored geometry env))
  head := ring.head + 1
  tail := if ring.head + 1 > ring.tail + geometry.numSlots then ring.tail + 1 else ring.tail
  inReplay := ring.inReplay
  mapped := (length_splice (slot_written ring env)).trans ring.mapped

end Ring

inductive Slot where
  | badMagic
  | badLength (length : Nat)
  | payload (bytes : List UInt8)
  deriving DecidableEq

def readSlot (slotSize : Nat) (slot : List UInt8) : Slot :=
  if leValue (slice slot 0 4) ≠ slotMagic then .badMagic
  else if headerSize + leValue (slice slot 4 4) > slotSize then .badLength (leValue (slice slot 4 4))
  else .payload (slice slot headerSize (leValue (slice slot 4 4)))

namespace Ring

def slot (ring : Ring geometry) (index : Nat) : Slot :=
  readSlot geometry.slotSize (slice ring.mmap (geometry.offset index) geometry.slotSize)

/-- The part of `pop`'s loop before its sleep: the tail it loaded, or none to wait for a push. -/
def popBegin (ring : Ring geometry) : Ring geometry × Option Nat :=
  if ring.tail ≥ ring.head then ({ ring with inReplay := false }, none) else (ring, some ring.tail)

/-- The part after the sleep. A slot that is not a payload is skipped. -/
def popFinish (ring : Ring geometry) (tail : Nat) : Ring geometry × Slot :=
  ({ ring with tail := ring.tail + 1 }, ring.slot tail)

-- Each skip advances the tail, so `head - tail` of them end in a wait.
def popLoop : Nat → Ring geometry → Ring geometry × Option (List UInt8)
  | 0, ring => (ring, none)
  | fuel + 1, ring =>
    match ring.popBegin with
    | (ring, none) => (ring, none)
    | (ring, some tail) =>
      match ring.popFinish tail with
      | (ring, .payload bytes) => (ring, some bytes)
      | (ring, _) => popLoop fuel ring

/-- A call of `pop` that nothing interrupts, or `none` while it waits for a push. -/
def pop (ring : Ring geometry) : Ring geometry × Option (List UInt8) :=
  popLoop (ring.head - ring.tail + 1) ring

def onReconnect (ring : Ring geometry) : Ring geometry :=
  if ring.head - ring.tail > 0 then { ring with inReplay := true } else ring

end Ring

/-! ## The contents of the slots -/

theorem readSlot_slotBytes {ts : UInt64} {written slot : List UInt8} {slotSize : Nat}
    (fits : headerSize + written.length ≤ slotSize) (narrow : slotSize < 2 ^ 32)
    (same : ∀ start length, start + length ≤ headerSize + written.length →
      slice slot start length = slice (slotBytes ts written) start length) :
    readSlot slotSize slot = .payload written := by
  have magic : slice slot 0 4 = leBytes 4 slotMagic := by
    rw [same 0 4 (by simp [headerSize]; omega)]
    rfl
  have size : slice slot 4 4 = leBytes 4 written.length := by
    rw [same 4 4 (by simp [headerSize]; omega)]
    rfl
  have body : slice slot headerSize written.length = written := by
    rw [same _ _ (Nat.le_refl _)]
    exact List.take_length
  have length : leValue (leBytes 4 written.length) = written.length :=
    leValue_leBytes_of_lt (by omega)
  rw [readSlot, magic, size, length, body, if_neg (by decide), if_neg (by omega)]

namespace Ring

theorem slot_push_same (ring : Ring geometry) (env : DataEnvelope) :
    (ring.push env).slot ring.head = .payload (stored geometry env) := by
  have fits := length_stored geometry env
  have written := slot_written ring env
  apply readSlot_slotBytes fits geometry.narrow
  intro start length within
  rw [slice_slice (by omega)]
  exact slice_splice_within (by omega) (by rwa [length_slotBytes])

theorem slot_push_other (ring : Ring geometry) (env : DataEnvelope) {index : Nat}
    (other : index % geometry.numSlots ≠ ring.head % geometry.numSlots) :
    (ring.push env).slot index = ring.slot index := by
  have fits := length_stored geometry env
  have written := slot_written ring env
  have size := length_slotBytes env.timestampNs (stored geometry env)
  have apart {first second : Nat} (less : first < second) :
      first * geometry.slotSize + geometry.slotSize ≤ second * geometry.slotSize := by
    rw [← Nat.succ_mul]
    exact Nat.mul_le_mul_right _ less
  unfold slot
  congr 1
  rcases Nat.lt_or_gt_of_ne other with before | beyond
  · exact slice_splice_before (by omega) (apart before)
  · have step := apart beyond
    exact slice_splice_after written (by rw [size]; unfold Geometry.offset; omega)

theorem slot_congr (ring : Ring geometry) {index other : Nat}
    (same : index % geometry.numSlots = other % geometry.numSlots) :
    ring.slot index = ring.slot other := by
  unfold slot Geometry.offset
  rw [same]

end Ring

/-- The slots hold the last `numSlots` of the payloads ever pushed. -/
structure Recorded (ring : Ring geometry) (pushed : List (List UInt8)) : Prop where
  count : pushed.length = ring.head
  kept : ∀ index payload, pushed[index]? = some payload →
    ring.head ≤ index + geometry.numSlots → ring.slot index = .payload payload

theorem Recorded.push {ring : Ring geometry} {pushed : List (List UInt8)}
    (recorded : Recorded ring pushed) (env : DataEnvelope) :
    Recorded (ring.push env) (pushed ++ [stored geometry env]) := by
  have count := recorded.count
  constructor
  · rw [List.length_append, count]
    rfl
  · intro index payload is recent
    have recent : ring.head + 1 ≤ index + geometry.numSlots := recent
    by_cases last : index = ring.head
    · subst last
      rw [← count, List.getElem?_concat_length] at is
      rw [← Option.some.inj is, ring.slot_push_same]
    · have earlier : index < ring.head := by
        have := (List.getElem?_eq_some_iff.mp is).1
        simp [count] at this
        omega
      rw [List.getElem?_append_left (by omega)] at is
      have other : index % geometry.numSlots ≠ ring.head % geometry.numSlots :=
        DropQueue.slot_ne earlier (by omega)
      rw [ring.slot_push_other env other, recorded.kept index payload is (by omega)]

-- Recording does not depend on the tail, nor on the replay flag.
theorem Recorded.of_same {ring other : Ring geometry} {pushed : List (List UInt8)}
    (recorded : Recorded ring pushed) (mmap : other.mmap = ring.mmap)
    (head : other.head = ring.head) : Recorded other pushed where
  count := recorded.count.trans head.symm
  kept index payload is recent := by
    rw [← recorded.kept index payload is (by omega)]
    unfold Ring.slot
    rw [mmap]

end Slots

/-! ## The ranges that are sliced -/

/-- What `open` has to refuse. -/
def RingBufferConfig.TooSmall (config : RingBufferConfig) : Prop :=
  config.capacityBytes.toNat < config.slotSize.toNat ∨ config.slotSize.toNat < headerSize + 64

instance (config : RingBufferConfig) : Decidable config.TooSmall :=
  inferInstanceAs (Decidable (_ ∨ _))

/-- `offset` and `offset + slot_size` of a push or a pop, in the 64 bits of the source. -/
def slotRange (config : RingBufferConfig) (index : UInt64) : UInt64 × UInt64 :=
  let slotSize := config.slotSize.toUInt64
  let numSlots := config.capacityBytes / slotSize
  let offset := index % numSlots * slotSize
  (offset, offset + slotSize)

/-- Whatever the head and the tail, the range is that of a slot of the file: neither the product nor
the sum has wrapped. -/
def RangesInside (config : RingBufferConfig) (geometry : Geometry) : Prop :=
  ∀ (ring : Ring geometry) (index : UInt64),
    (slotRange config index).1.toNat = geometry.offset index.toNat ∧
    (slotRange config index).2.toNat = geometry.offset index.toNat + geometry.slotSize ∧
    geometry.offset index.toNat + geometry.slotSize ≤ ring.mmap.length

def OpensSafely (config : RingBufferConfig) (file : List UInt8) : Prop :=
  if config.TooSmall then ∃ message, openRing config file = .err message
  else ∃ (geometry : Geometry) (ring : Ring geometry), openRing config file =
      .ok ⟨geometry, ring⟩ ∧ RangesInside config geometry

theorem slotRange_eq (geometry : Geometry) (config : RingBufferConfig)
    (slotSize : geometry.slotSize = config.slotSize.toNat)
    (numSlots : geometry.numSlots = config.capacityBytes.toNat / config.slotSize.toNat)
    (capacity : geometry.capacity = config.capacityBytes.toNat) (index : UInt64) :
    (slotRange config index).1.toNat = geometry.offset index.toNat ∧
      (slotRange config index).2.toNat = geometry.offset index.toNat + geometry.slotSize := by
  have inside := offset_inside geometry index.toNat
  have mapped : geometry.capacity < 2 ^ 64 := capacity ▸ config.capacityBytes.toNat_lt
  have first : (slotRange config index).1.toNat = geometry.offset index.toNat := by
    have product : (slotRange config index).1.toNat =
        geometry.offset index.toNat % 2 ^ 64 := by
      rw [Geometry.offset, slotSize, numSlots]
      simp [slotRange]
    rw [product, Nat.mod_eq_of_lt (by omega)]
  refine ⟨first, ?_⟩
  have sum : (slotRange config index).2.toNat =
      ((slotRange config index).1.toNat + config.slotSize.toNat) % 2 ^ 64 := by
    simp [slotRange]
  rw [sum, first, ← slotSize, Nat.mod_eq_of_lt (by omega)]

/-- `open` divides by the slot size before it tests it. -/
theorem opens_safely_iff (config : RingBufferConfig) (file : List UInt8) :
    OpensSafely config file ↔ config.slotSize ≠ 0 := by
  have zero : config.slotSize = 0 ↔ config.slotSize.toNat = 0 := by
    rw [← UInt32.toNat_inj]
    rfl
  rw [Ne, zero]
  by_cases divides : config.slotSize.toNat = 0
  · have small : config.TooSmall := .inr (by omega)
    have panics : openRing config file = .panic := if_pos divides
    rw [OpensSafely, if_pos small, panics]
    simp [divides]
  · refine iff_of_true ?_ divides
    by_cases nonempty : config.capacityBytes.toNat / config.slotSize.toNat > 0
    · have fits : config.slotSize.toNat ≤ config.capacityBytes.toNat :=
        (Nat.div_pos_iff.mp nonempty).2
      by_cases room : config.slotSize.toNat ≥ headerSize + 64
      · have large : ¬ config.TooSmall := by
          rintro (few | short) <;> omega
        rw [OpensSafely, if_neg large, openRing]
        simp only [if_neg divides, dif_pos nonempty, dif_pos room]
        refine ⟨_, _, rfl, fun ring index => ?_⟩
        refine and_assoc.mp ⟨slotRange_eq _ config rfl rfl rfl index, ?_⟩
        rw [ring.mapped]
        exact offset_inside _ _
      · have small : config.TooSmall := .inr (by omega)
        rw [OpensSafely, if_pos small, openRing]
        simp only [if_neg divides, dif_pos nonempty, dif_neg room]
        exact ⟨_, rfl⟩
    · have few : config.capacityBytes.toNat < config.slotSize.toNat := by
        by_contra fits
        exact nonempty (Nat.div_pos (by omega) (by omega))
      rw [OpensSafely, if_pos (show config.TooSmall from .inl few), openRing]
      simp only [if_neg divides, dif_neg nonempty]
      exact ⟨_, rfl⟩

-- The default capacity, in slots of no bytes.
theorem no_slot_size_panics :
    openRing ⟨536870912, 0⟩ [] = .panic ∧ ¬ OpensSafely ⟨536870912, 0⟩ [] := by
  refine ⟨rfl, ?_⟩
  rw [OpensSafely, if_pos (by decide)]
  rintro ⟨message, refused⟩
  cases refused

end SystemScale.Agent
