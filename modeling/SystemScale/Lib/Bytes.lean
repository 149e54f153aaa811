import Mathlib.Data.List.Basic
import Mathlib.Tactic.Ring

set_option autoImplicit false

/-!
# Byte strings

Words in little-endian and in network order, and reading and overwriting a range of a buffer in place.
-/

namespace Bytes

def leBytes : Nat → Nat → List UInt8
  | 0, _ => []
  | width + 1, value => UInt8.ofNat value :: leBytes width (value / 256)

def leValue : List UInt8 → Nat
  | [] => 0
  | byte :: rest => byte.toNat + 256 * leValue rest

@[simp] theorem length_leBytes (width value : Nat) : (leBytes width value).length = width := by
  induction width generalizing value with
  | zero => rfl
  | succ width ih => simp [leBytes, ih]

theorem leValue_leBytes (width value : Nat) :
    leValue (leBytes width value) = value % 256 ^ width := by
  induction width generalizing value with
  | zero => simp [leBytes, leValue, Nat.mod_one]
  | succ width ih =>
    have low : (UInt8.ofNat value).toNat = value % 256 := rfl
    rw [leBytes, leValue, ih, low, pow_succ', Nat.mod_mul]

theorem leValue_leBytes_of_lt {width value : Nat} (fits : value < 256 ^ width) :
    leValue (leBytes width value) = value := by
  rw [leValue_leBytes, Nat.mod_eq_of_lt fits]

theorem leBytes_leValue (bytes : List UInt8) : leBytes bytes.length (leValue bytes) = bytes := by
  induction bytes with
  | nil => rfl
  | cons byte rest ih =>
    have small : byte.toNat < 256 := byte.toNat_lt
    have low : UInt8.ofNat (byte.toNat + 256 * leValue rest) = byte := by
      apply UInt8.toNat_inj.mp
      rw [UInt8.toNat_ofNat']
      omega
    have high : (byte.toNat + 256 * leValue rest) / 256 = leValue rest := by omega
    rw [List.length_cons, leValue, leBytes, low, high, ih]

/-! ## Network order -/

def beBytes (width value : Nat) : List UInt8 := (leBytes width value).reverse

def beValue (bytes : List UInt8) : Nat := leValue bytes.reverse

@[simp] theorem length_beBytes (width value : Nat) : (beBytes width value).length = width := by
  rw [beBytes, List.length_reverse, length_leBytes]

theorem beValue_beBytes_of_lt {width value : Nat} (fits : value < 256 ^ width) :
    beValue (beBytes width value) = value := by
  rw [beValue, beBytes, List.reverse_reverse, leValue_leBytes_of_lt fits]

theorem leValue_lt (bytes : List UInt8) : leValue bytes < 256 ^ bytes.length := by
  induction bytes with
  | nil => simp [leValue]
  | cons byte rest ih =>
    have small : byte.toNat < 256 := byte.toNat_lt
    rw [leValue, List.length_cons, pow_succ']
    omega

theorem beValue_lt (bytes : List UInt8) : beValue bytes < 256 ^ bytes.length := by
  have small := leValue_lt bytes.reverse
  rwa [List.length_reverse] at small

section Buffers

variable {α : Type}

def slice (buffer : List α) (offset length : Nat) : List α :=
  (buffer.drop offset).take length

def splice (buffer : List α) (offset : Nat) (source : List α) : List α :=
  buffer.take offset ++ source ++ buffer.drop (offset + source.length)

theorem length_slice {buffer : List α} {offset length : Nat}
    (inside : offset + length ≤ buffer.length) : (slice buffer offset length).length = length := by
  simp [slice]
  omega

theorem length_splice {buffer source : List α} {offset : Nat}
    (inside : offset + source.length ≤ buffer.length) :
    (splice buffer offset source).length = buffer.length := by
  simp [splice]
  omega

theorem slice_splice_same {buffer source : List α} {offset : Nat}
    (inside : offset ≤ buffer.length) :
    slice (splice buffer offset source) offset source.length = source := by
  have skipped : (buffer.take offset).length = offset := by simp [inside]
  simp only [slice, splice, List.append_assoc]
  rw [List.drop_left' skipped, List.take_left]

theorem slice_splice_before {buffer source : List α} {offset start length : Nat}
    (inside : offset ≤ buffer.length) (before : start + length ≤ offset) :
    slice (splice buffer offset source) start length = slice buffer start length := by
  have taken : (buffer.take offset).length = offset := by simp [inside]
  simp only [slice, splice, List.append_assoc]
  rw [List.drop_append_of_le_length (by omega), List.take_append_of_le_length (by simp; omega),
    List.drop_take, List.take_take]
  congr 1
  omega

theorem slice_splice_after {buffer source : List α} {offset start length : Nat}
    (inside : offset + source.length ≤ buffer.length) (after : offset + source.length ≤ start) :
    slice (splice buffer offset source) start length = slice buffer start length := by
  have written : (buffer.take offset ++ source).length = offset + source.length := by
    simp; omega
  simp only [slice, splice]
  rw [List.drop_append, written, List.drop_eq_nil_of_le (by omega), List.nil_append,
    List.drop_drop]
  congr 2
  omega

theorem slice_slice {buffer : List α} {offset width start length : Nat}
    (inside : start + length ≤ width) :
    slice (slice buffer offset width) start length = slice buffer (offset + start) length := by
  simp only [slice, List.drop_take, List.drop_drop, List.take_take]
  congr 1
  omega

theorem slice_splice_within {buffer source : List α} {offset start length : Nat}
    (inside : offset ≤ buffer.length) (within : start + length ≤ source.length) :
    slice (splice buffer offset source) (offset + start) length = slice source start length := by
  have whole : slice (splice buffer offset source) offset source.length = source :=
    slice_splice_same inside
  have same := congrArg (slice · start length) whole
  rwa [slice_slice within] at same

end Buffers

end Bytes
