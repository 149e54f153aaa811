import SystemScale.Lib.Rounds
import SystemScale.Relay.Telemetry

set_option autoImplicit false

/-! # How far `fast_read_stream_type` gets on any bytes -/

namespace SystemScale.Relay

open Wire

variable {buf : List UInt8} {pos : Nat}

/-- In the first 64 bytes, the length of the field at `pos` takes the position back to `pos` or
before it. -/
def JumpsBack (buf : List UInt8) (pos : Nat) : Prop := pos < 64 ∧ Wraps (fun _ => False) buf pos

theorem protoReadVarintFast_ahead (buf : List UInt8) (pos : Nat) :
    pos ≤ (protoReadVarintFast buf pos).2 := by
  unfold protoReadVarintFast
  split
  next => exact Nat.le_add_right pos _
  next => exact Nat.le_max_left pos _
  next => exact Nat.le_add_right pos 10

-- A round that skips a field of known length goes forward.
theorem forward_next {tagLength skipped : Nat} (read : 0 < tagLength)
    (skips : pos + tagLength ≤ skipped) :
    Forward (fun pos : Nat => (pos : Int)) (fun _ : UInt32 => True) pos (.next skipped) :=
  .next (by omega)

theorem fastReadStep_delimited {tag : UInt64} {tagLength : Nat} (within : pos < 64)
    (read : Varint.read (buf.drop pos) = .value tag tagLength)
    (delimited : (tag &&& 0x7).toNat = 2) :
    Forward (fun pos : Nat => (pos : Int)) (fun _ : UInt32 => True) pos
      (.next (((protoReadVarintFast buf (pos + tagLength)).2 +
        ((protoReadVarintFast buf (pos + tagLength)).1.getD 0).toNat) % 2 ^ 64)) ↔
      ¬ Wraps (fun _ => False) buf pos := by
  have tag_bounds := Varint.read_bounds read
  have tag_short := Varint.read_short read
  rw [forward_next_iff]
  cases length : Varint.read (buf.drop (pos + tagLength)) with
  | value count countLength =>
    have count_bounds := Varint.read_bounds length
    have count_short := Varint.read_short length
    have bounded := count.toNat_lt
    rw [wraps_iff read delimited length]
    simp only [protoReadVarintFast, length, Option.getD_some, false_or]
    rw [wrapped_sum (by omega) bounded]
    split_ifs with wrapped
    · omega
    · omega
  | truncated =>
    have none : delimitedAt buf pos = none := no_length read (by simp [length])
    have left := Varint.read_truncated length
    rw [List.length_drop] at left
    simp only [protoReadVarintFast, length, Option.getD_none, UInt64.toNat_zero, Nat.add_zero]
    rw [Nat.mod_eq_of_lt (by omega)]
    exact ⟨fun _ => not_wraps none, fun _ => by omega⟩
  | overflow =>
    have none : delimitedAt buf pos = none := no_length read (by simp [length])
    simp only [protoReadVarintFast, length, Option.getD_none, UInt64.toNat_zero, Nat.add_zero]
    rw [Nat.mod_eq_of_lt (by omega)]
    exact ⟨fun _ => not_wraps none, fun _ => by omega⟩

theorem fastReadStep_forward_iff (buf : List UInt8) (pos : Nat) :
    Forward (fun pos : Nat => (pos : Int)) (fun _ => True) pos (fastReadStep buf pos) ↔
      ¬ JumpsBack buf pos := by
  unfold JumpsBack
  rw [fastReadStep]
  by_cases inside : pos < buf.length ∧ pos < 64
  · rw [if_pos inside]
    have unread (none : delimitedAt buf pos = none) : ¬ (pos < 64 ∧ Wraps (fun _ => False) buf pos) :=
      fun jump => not_wraps none jump.2
    cases read : Varint.read (buf.drop pos) with
    | truncated =>
      have none : delimitedAt buf pos = none := by simp only [delimitedAt, read]
      simp only [protoReadVarintFast, read]
      exact ⟨fun _ => unread none, fun _ => .done trivial⟩
    | overflow =>
      have none : delimitedAt buf pos = none := by simp only [delimitedAt, read]
      simp only [protoReadVarintFast, read]
      exact ⟨fun _ => unread none, fun _ => .done trivial⟩
    | value tag tagLength =>
      have some_tag := (Varint.read_bounds read).1
      have tag_read : protoReadVarintFast buf pos = (some tag, pos + tagLength) := by
        rw [protoReadVarintFast, read]
      simp only [tag_read]
      by_cases delimited : (tag &&& 0x7).toNat = 2
      · have other : ¬ ((tag >>> 3).toUInt32 = 3 ∧ tag &&& 0x7 = 0) := by
          rintro ⟨_, zero⟩
          simp [zero] at delimited
        simp only [if_neg other, delimited]
        rw [fastReadStep_delimited inside.2 read delimited]
        exact ⟨fun calm jump => calm jump.2, fun calm wraps => calm ⟨inside.2, wraps⟩⟩
      · have none := delimitedAt_other read delimited
        refine ⟨fun _ => unread none, fun _ => ?_⟩
        split_ifs
        · exact .done trivial
        · have skipped := protoReadVarintFast_ahead buf (pos + tagLength)
          split
          next => exact forward_next some_tag skipped
          next => exact forward_next some_tag (Nat.le_add_right _ 8)
          next is => exact absurd is delimited
          next => exact forward_next some_tag (Nat.le_add_right _ 4)
          next => exact .done trivial
  · rw [if_neg inside]
    refine ⟨fun _ jump => ?_, fun _ => .done trivial⟩
    exact inside ⟨jump.2.inside, jump.1⟩

/-- The search for the stream type ends, and each of its rounds that goes on has moved forward,
unless a length takes one back. -/
theorem fastReadStreamType_progress_iff (buf : List UInt8) :
    ((fastReadStreamType buf).isSome ∧ ∀ pos later, Visits (fastReadStep buf) 0 pos →
      fastReadStep buf pos = .next later → pos < later) ↔
      ∀ pos, Visits (fastReadStep buf) 0 pos → ¬ JumpsBack buf pos := by
  have inside : ∀ pos later : Nat, fastReadStep buf pos = .next later → (pos : Int) < 64 := by
    intro pos later step
    by_contra past
    rw [fastReadStep, if_neg (by omega)] at step
    simp at step
  have rule : Progress (fastReadStep buf) (fun pos : Nat => (pos : Int)) (fun _ => True) 0
      (loop (fastReadStep buf) 65 0) ↔ ∀ pos, Visits (fastReadStep buf) 0 pos → ¬ JumpsBack buf pos :=
    progress_iff (fun _ => True) (JumpsBack buf) inside (by simp) trivial
      (fun _ _ _ _ _ => trivial) fun pos _ => fastReadStep_forward_iff buf pos
  rw [← rule]
  constructor
  · rintro ⟨ends, forward⟩
    obtain ⟨value, ran⟩ := Option.isSome_iff_exists.mp ends
    refine ⟨⟨value, ran, trivial⟩, fun pos later visited step => ?_⟩
    exact Int.ofNat_lt.mpr (forward pos later visited step)
  · intro progress
    obtain ⟨value, ran, _⟩ := progress.returns
    refine ⟨Option.isSome_iff_exists.mpr ⟨value, ran⟩, fun pos later visited step => ?_⟩
    exact Int.ofNat_lt.mp (progress.forward pos later visited step)

/-- The frame that starts with an unknown field of length 2^64 - 11. -/
def loopingFrame : List UInt8 :=
  [0x7A, 0xF5, 0xFF, 0xFF, 0xFF, 0xFF, 0xFF, 0xFF, 0xFF, 0xFF, 0x01]

theorem loopingFrame_never_ends :
    fastReadStreamType loopingFrame = none ∧ fastReadStep loopingFrame 0 = .next 0 ∧
      ∀ fuel, loop (fastReadStep loopingFrame) fuel 0 = none := by
  have again : fastReadStep loopingFrame 0 = .next 0 := rfl
  have never (fuel : Nat) : loop (fastReadStep loopingFrame) fuel 0 = none := by
    induction fuel with
    | zero => rfl
    | succ fuel ih => rw [loop_next fuel again, ih]
  exact ⟨never 65, again, never⟩

/-! ## Well-formed messages -/

section Reading

variable {data after : List UInt8} {start : Nat} {field : Field}

theorem protoReadVarintFast_tag (at_field : FieldAt data start field after) :
    protoReadVarintFast data start = (some (UInt64.ofNat field.tag), start + field.tagLength) := by
  rw [protoReadVarintFast, at_field.read_tag]

theorem is_stream_type (at_field : FieldAt data start field after) :
    ((UInt64.ofNat field.tag >>> 3).toUInt32 = 3 ∧ UInt64.ofNat field.tag &&& 0x7 = 0) ↔
      field.number = 3 ∧ field.payload.wireType = 0 := by
  have small := at_field.small
  have number := at_field.number
  have kind := at_field.wireType
  have three : (3 : UInt32).toNat = 3 := rfl
  rw [← UInt32.toNat_inj, ← UInt64.toNat_inj, UInt64.toNat_toUInt32, number, kind, three,
    UInt64.toNat_zero]
  omega

theorem fastReadStep_field (held : data.length < 2 ^ 63) (within : start < 64)
    (at_field : FieldAt data start field after)
    (other : ¬ (field.number = 3 ∧ field.payload.wireType = 0)) :
    fastReadStep data start = .next (start + field.bytes.length) := by
  have ends := at_field.ends
  have size := field.length_bytes
  rw [fastReadStep, if_pos ⟨at_field.inside, within⟩, protoReadVarintFast_tag at_field]
  simp only [if_neg (mt (is_stream_type at_field).mp other), at_field.wireType]
  cases is : field.payload with
  | varint word =>
    simp only [is, Payload.bytes] at size
    simp only [Payload.wireType, protoReadVarintFast, at_field.read_word is, size, Nat.add_assoc]
  | fixed64 bits =>
    simp only [is, Payload.bytes, Bytes.length_leBytes] at size
    simp only [Payload.wireType, size, Nat.add_assoc]
  | delimited part =>
    have part_ends := at_field.part_ends is
    have word := Varint.word_ofNat (show part.length < 2 ^ 64 by omega)
    simp only [Payload.wireType, protoReadVarintFast, at_field.read_length is (by omega), word,
      Option.getD_some, part_ends]
    rw [Nat.mod_eq_of_lt (by omega)]
  | fixed32 bits =>
    simp only [is, Payload.bytes, Bytes.length_leBytes] at size
    simp only [Payload.wireType, size, Nat.add_assoc]

theorem fastReadStep_stream_type {kind : UInt64} (within : start < 64)
    (at_field : FieldAt data start ⟨3, .varint kind⟩ after) :
    fastReadStep data start = .done kind.toUInt32 := by
  have three := (is_stream_type at_field).mpr ⟨rfl, rfl⟩
  rw [fastReadStep, if_pos ⟨at_field.inside, within⟩, protoReadVarintFast_tag at_field]
  simp only [if_pos three, protoReadVarintFast, at_field.read_word rfl, Option.getD_some]

end Reading

end SystemScale.Relay
