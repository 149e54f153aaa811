import Mathlib.Data.Finset.Card
import Mathlib.Order.Interval.Finset.Nat
import SystemScale.Agent.LocalApi
import SystemScale.Agent.Replay
import SystemScale.Lib.Lookups
import SystemScale.Lib.Scan

set_option autoImplicit false

/-!
# Sequence numbers and losses

The sequencer numbers the frames of both sources in the order in which it takes them, with a
counter of 32 bits. Pops run to completion between its pushes.
-/

namespace SystemScale.Agent

open AdapterTrait Runs Wire

variable {geometry : Geometry}

/-- The sequence number that an envelope's bytes carry: field 8, unless it was cut off. -/
def CarriesSeq (bytes : List UInt8) (seq : UInt32) : Prop :=
  ∃ fields, Reads bytes fields ∧ (⟨8, .varint seq.toUInt64⟩ : Field) ∈ fields

theorem seq_of_member {env : DataEnvelope} {word : UInt64}
    (member : (⟨8, .varint word⟩ : Field) ∈ envelopeFields env) : word = env.seq.toUInt64 := by
  unfold envelopeFields at member
  split_ifs at member <;> simpa using member

theorem envelope_good (env : DataEnvelope) :
    ∀ field ∈ envelopeFields env, field.number < 2 ^ 29 ∧ field.payload.room < 2 ^ 64 := by
  intro field member
  have small := envelopeFields_small env field member
  exact ⟨by omega, small.2⟩

theorem encoded_carries (env : DataEnvelope) : CarriesSeq (encodeEnvelopeToBuf env) env.seq := by
  rw [encodeEnvelopeToBuf_eq]
  exact ⟨_, reads_encode _ (envelope_good env), by simp [envelopeFields]⟩

theorem stored_carries {env : DataEnvelope} {seq : UInt32}
    (carries : CarriesSeq (stored geometry env) seq) : seq = env.seq := by
  obtain ⟨fields, reads, member⟩ := carries
  rw [stored, encodeEnvelopeToBuf_eq, List.take_eq_take_min] at reads
  obtain ⟨count, _, rfl⟩ := reads_cut (envelope_good env) (Nat.min_le_right _ _) reads
  have word := seq_of_member (List.mem_of_mem_take member)
  exact UInt32.toUInt64_inj.mp word

/-! ## Runs of the sequencer -/

inductive Source where
  | hardware
  | sdk

structure Sequencer (geometry : Geometry) where
  replay : Replay geometry
  seqCounter : UInt32

inductive Sequencer.Action where
  | frame (source : Source) (env : DataEnvelope)
  | pop
  | onReconnect

/-- A pop that runs to completion: no push comes into its sleep. -/
def Replay.popWhole (state : Replay geometry) : Option (Replay geometry) :=
  (state.step .pop).bind fun next =>
    if next.suspended.isSome then next.step .resume else some next

/-- An envelope that is gone without having been returned: its slot was written again. -/
def Replay.Overwritten (state : Replay geometry) (index : Nat) : Prop :=
  index ∉ state.order ∧ index + geometry.numSlots < state.ring.head

instance (state : Replay geometry) : DecidablePred state.Overwritten :=
  fun _ => inferInstanceAs (Decidable (_ ∧ _))

/-- How many envelopes pushed between two others were overwritten. -/
def Replay.lostBetween (state : Replay geometry) (first second : Nat) : Nat :=
  ((Finset.Ioo first second).filter state.Overwritten).card

namespace Sequencer

def start (ring : Ring geometry) : Sequencer geometry := ⟨Replay.start ring, 0⟩

def step (state : Sequencer geometry) : Action → Option (Sequencer geometry)
  | .frame _ env =>
      (state.replay.step (.push (sequenced env state.seqCounter))).map fun replay =>
        { replay, seqCounter := state.seqCounter + 1 }
  | .pop => state.replay.popWhole.map fun replay => { state with replay }
  | .onReconnect => (state.replay.step .onReconnect).map fun replay => { state with replay }

/-- The pops are faithful, and the counter numbers the pushes. -/
structure Numbered (state : Sequencer geometry) : Prop where
  sound : state.replay.Sound
  faithful : state.replay.Faithful
  awake : state.replay.suspended = none
  counter : state.seqCounter = UInt32.ofNat state.replay.pushed.length
  numbered : ∀ index bytes, state.replay.pushed[index]? = some bytes →
    ∃ env, bytes = stored geometry (sequenced env (UInt32.ofNat index))

section Steps

variable {state next : Sequencer geometry}

theorem start_numbered {ring : Ring geometry} (head : ring.head = 0) (tail : ring.tail = 0) :
    Numbered (start ring) := by
  obtain ⟨sound, faithful⟩ := Replay.start_faithful head tail
  exact ⟨sound, faithful, rfl, rfl, by simp [start, Replay.start]⟩

theorem Numbered.frame (numbered : Numbered state) (env : DataEnvelope) :
    Numbered ⟨state.replay.pushing (sequenced env state.seqCounter), state.seqCounter + 1⟩ := by
  obtain ⟨sound, faithful⟩ := Replay.pushing_faithful numbered.sound numbered.faithful
    (sequenced env state.seqCounter)
  refine ⟨sound, faithful, numbered.awake, ?_, ?_⟩
  · show state.seqCounter + 1 = UInt32.ofNat (state.replay.pushed ++ [_]).length
    rw [numbered.counter, List.length_append, List.length_singleton, UInt32.ofNat_add]
    rfl
  · intro index bytes is
    rw [Replay.pushing, Lookups.lookup_append] at is
    split_ifs at is with last
    · refine ⟨env, ?_⟩
      rw [last, ← numbered.counter]
      exact (Option.some.inj is).symm
    · exact numbered.numbered index bytes is

-- Steps that push nothing keep the numbers.
theorem Numbered.of_same {replay : Replay geometry} (numbered : Numbered state)
    (kept : replay.Sound ∧ replay.Faithful) (awake : replay.suspended = none)
    (pushed : replay.pushed = state.replay.pushed) : Numbered { state with replay } where
  sound := kept.1
  faithful := kept.2
  awake := awake
  counter := by
    rw [pushed]
    exact numbered.counter
  numbered := by
    rw [pushed]
    exact numbered.numbered

theorem finish_pushed (replay : Replay geometry) (tail : Nat) :
    (replay.finish tail).pushed = replay.pushed := by
  unfold Replay.finish Ring.popFinish
  cases replay.ring.slot tail <;> rfl

-- The tail that a whole pop reads is the one it loaded, in catch-up mode too.
theorem Numbered.pop {replay : Replay geometry} (numbered : Numbered state)
    (popped : state.replay.popWhole = some replay) : Numbered { state with replay } := by
  obtain ⟨begun, taken, popped⟩ := Option.bind_eq_some_iff.mp popped
  have kept := (Replay.step_faithful numbered.sound numbered.faithful taken).1 trivial
  rcases Replay.step_cases taken with ⟨env, other, _⟩ | ⟨tail, _, rfl⟩ | ⟨quiet, _⟩
  · nomatch other
  · rw [Replay.finish_suspended] at popped
    obtain rfl := Option.some.inj popped
    exact numbered.of_same kept (Replay.finish_suspended _ _) (finish_pushed _ _)
  · split_ifs at popped with asleep
    · obtain ⟨tail, suspended⟩ := Option.isSome_iff_exists.mp asleep
      have undisturbed : begun.Undisturbed .resume := by
        intro loaded is
        rw [quiet.tail, (quiet.loaded loaded is).1]
      have later := (Replay.step_faithful kept.1 kept.2 popped).1 undisturbed
      simp only [Replay.step, suspended, Option.map_some] at popped
      obtain rfl := Option.some.inj popped
      exact numbered.of_same later (Replay.finish_suspended _ _)
        ((finish_pushed _ _).trans quiet.pushed)
    · obtain rfl := Option.some.inj popped
      have awake : begun.suspended = none := by simpa using asleep
      exact numbered.of_same kept awake quiet.pushed

theorem Numbered.onReconnect {replay : Replay geometry} (numbered : Numbered state)
    (taken : state.replay.step .onReconnect = some replay) : Numbered { state with replay } := by
  have kept := (Replay.step_faithful numbered.sound numbered.faithful taken).1 trivial
  have awake := numbered.awake
  simp only [Replay.step, awake] at taken
  obtain rfl := Option.some.inj taken
  exact numbered.of_same kept rfl rfl

theorem Numbered.step {action : Action} (numbered : Numbered state)
    (moved : step state action = some next) : Numbered next := by
  cases action with
  | frame source env =>
    obtain rfl := Option.some.inj moved
    exact numbered.frame env
  | pop =>
    obtain ⟨replay, popped, rfl⟩ := Option.map_eq_some_iff.mp moved
    exact numbered.pop popped
  | onReconnect =>
    obtain ⟨replay, taken, rfl⟩ := Option.map_eq_some_iff.mp moved
    exact numbered.onReconnect taken

theorem Numbered.seq (numbered : Numbered state) {entry : Nat × List UInt8} {seq : UInt32}
    (popped : entry ∈ state.replay.returned) (carries : CarriesSeq entry.2 seq) :
    seq = UInt32.ofNat entry.1 := by
  have is := numbered.faithful.genuine entry popped
  obtain ⟨env, bytes⟩ := numbered.numbered _ _ is
  rw [bytes] at carries
  exact stored_carries carries

end Steps

/-! ## Consecutive pops -/

section Gaps

variable {state : Replay geometry} {place : Nat} {first second : Nat × List UInt8}

-- Nothing that was pushed between two consecutive pops has been returned.
theorem order_between (increasing : state.order.Pairwise (· < ·))
    (one : state.returned[place]? = some first) (two : state.returned[place + 1]? = some second) :
    first.1 < second.1 ∧ ∀ index, first.1 < index → index < second.1 → index ∉ state.order := by
  obtain ⟨inside, rfl⟩ := List.getElem?_eq_some_iff.mp one
  obtain ⟨later, rfl⟩ := List.getElem?_eq_some_iff.mp two
  have ascends := List.pairwise_iff_getElem.mp increasing
  unfold Replay.order at ascends ⊢
  simp only [List.length_map, List.getElem_map] at ascends
  refine ⟨ascends place (place + 1) inside later (Nat.lt_succ_self _), ?_⟩
  intro index after before member
  obtain ⟨entry, there, rfl⟩ := List.mem_map.mp member
  obtain ⟨other, found, rfl⟩ := List.getElem_of_mem there
  rcases Nat.lt_trichotomy other place with less | rfl | more
  · have := ascends other place found inside less
    omega
  · exact absurd after (Nat.lt_irrefl _)
  · rcases Nat.eq_or_lt_of_le (Nat.succ_le_of_lt more) with rfl | beyond
    · exact absurd before (Nat.lt_irrefl _)
    · have := ascends (place + 1) other later found beyond
      omega

theorem lostBetween_eq (sound : state.Sound) (faithful : state.Faithful)
    (one : state.returned[place]? = some first) (two : state.returned[place + 1]? = some second) :
    first.1 < second.1 ∧ state.lostBetween first.1 second.1 = second.1 - first.1 - 1 := by
  obtain ⟨less, between⟩ := order_between faithful.increasing one two
  have taken : second.1 < state.ring.tail :=
    sound.taken _ (List.mem_map.mpr ⟨second, List.mem_of_getElem? two, rfl⟩)
  have ordered := sound.ordered
  refine ⟨less, ?_⟩
  rw [Replay.lostBetween, Finset.filter_true_of_mem, Nat.card_Ioo]
  intro index member
  obtain ⟨after, before⟩ := Finset.mem_Ioo.mp member
  have missing := between index after before
  refine ⟨missing, ?_⟩
  rcases faithful.accounted index (by omega) with returned | waiting | overwritten
  · exact absurd returned missing
  · omega
  · exact overwritten

end Gaps

theorem ofNat_gap {first second : Nat} (less : first < second) :
    UInt32.ofNat second - UInt32.ofNat first - 1 = UInt32.ofNat (second - first - 1) := by
  have split : second = first + (second - first - 1) + 1 := by omega
  conv_lhs => rw [split, UInt32.ofNat_add, UInt32.ofNat_add]
  have one : UInt32.ofNat 1 = 1 := rfl
  rw [one]
  generalize UInt32.ofNat first = start, UInt32.ofNat (second - first - 1) = gap
  grind

/-- The numbers of two consecutive pops differ by the envelopes overwritten between them. -/
theorem seq_gap_counts_losses (config : RingBufferConfig) (file : List UInt8)
    {ring : Ring geometry} (opened : openRing config file = .ok ⟨geometry, ring⟩)
    {actions : List Action} {final : Sequencer geometry}
    (ran : exec step (start ring) actions = some final)
    {place : Nat} {first second : Nat × List UInt8}
    (one : final.replay.returned[place]? = some first)
    (two : final.replay.returned[place + 1]? = some second) {seq1 seq2 : UInt32}
    (carries1 : CarriesSeq first.2 seq1) (carries2 : CarriesSeq second.2 seq2)
    (few : final.replay.lostBetween first.1 second.1 < 2 ^ 32) :
    (seq2 - seq1 - 1).toNat = final.replay.lostBetween first.1 second.1 := by
  obtain ⟨head, tail⟩ := openRing_fresh opened
  have numbered : Numbered final :=
    exec_invariant (fun _ _ _ numbered moved => Numbered.step numbered moved)
      (start_numbered head tail) ran
  obtain ⟨less, lost⟩ := lostBetween_eq numbered.sound numbered.faithful one two
  rw [numbered.seq (List.mem_of_getElem? one) carries1,
    numbered.seq (List.mem_of_getElem? two) carries2, ofNat_gap less, UInt32.toNat_ofNat', lost]
  exact Nat.mod_eq_of_lt (lost ▸ few)

/-- Two slots, and three frames between two pops: one of them is lost. -/
def oneLost : List Action :=
  [.frame .hardware (sample 0), .pop, .frame .sdk (sample 0), .frame .hardware (sample 0),
    .frame .sdk (sample 0), .pop]

theorem one_lost_counted :
    ∃ final, exec step (start Replay.twoSlots) oneLost = some final ∧
      ((2 : UInt32) - 0 - 1).toNat = final.replay.lostBetween 0 2 := by
  have carries (seq : UInt32) :
      CarriesSeq (encodeEnvelopeToBuf (sequenced (sample 0) seq)) seq := encoded_carries _
  refine ⟨_, rfl, ?_⟩
  exact @seq_gap_counts_losses _ ⟨160, 80⟩ [] _ rfl oneLost _ rfl 0
    (0, encodeEnvelopeToBuf (sequenced (sample 0) 0))
    (2, encodeEnvelopeToBuf (sequenced (sample 0) 2)) rfl rfl 0 2 (carries 0) (carries 2) (by decide)

end Sequencer

end SystemScale.Agent
