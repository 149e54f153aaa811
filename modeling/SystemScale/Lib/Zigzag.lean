import Mathlib.Algebra.Group.Nat.Even

set_option autoImplicit false

/-!
# Zigzag

Signed numbers as unsigned ones: the even numbers are the nonnegative values, the odd ones the
negative.
-/

namespace Zigzag

variable {width : Nat}

def encode (value : BitVec (width + 1)) : BitVec (width + 1) :=
  (value <<< 1) ^^^ value.sshiftRight width

def decode (number : Nat) : Int :=
  if number % 2 = 0 then number / 2 else -((number + 1) / 2)

theorem shifted_out {value : BitVec (width + 1)} (small : value.msb = false) :
    value >>> width = 0#(width + 1) := by
  have below : value.toNat < 2 ^ width := by
    have twice := BitVec.msb_eq_false_iff_two_mul_lt.mp small
    rw [Nat.pow_succ] at twice
    omega
  apply BitVec.eq_of_toNat_eq
  rw [BitVec.toNat_ushiftRight, Nat.shiftRight_eq_div_pow, Nat.div_eq_of_lt below]
  rfl

theorem sign_nonnegative {value : BitVec (width + 1)} (sign : value.msb = false) :
    value.sshiftRight width = 0#(width + 1) := by
  rw [BitVec.sshiftRight_eq_of_msb_false sign, shifted_out sign]

theorem sign_negative {value : BitVec (width + 1)} (sign : value.msb = true) :
    value.sshiftRight width = BitVec.allOnes (width + 1) := by
  have complement : (~~~value).msb = false := by simp [sign]
  rw [BitVec.sshiftRight_eq_of_msb_true sign, shifted_out complement, BitVec.not_zero]

theorem encode_nonnegative {value : BitVec (width + 1)} (sign : value.msb = false) :
    (encode value).toNat = 2 * value.toNat := by
  have twice := BitVec.msb_eq_false_iff_two_mul_lt.mp sign
  rw [encode, sign_nonnegative sign, BitVec.xor_zero, BitVec.toNat_shiftLeft,
    Nat.shiftLeft_eq, pow_one, Nat.mul_comm, Nat.mod_eq_of_lt twice]

theorem encode_negative {value : BitVec (width + 1)} (sign : value.msb = true) :
    (encode value).toNat + 2 * value.toNat + 1 = 2 * 2 ^ (width + 1) := by
  have bounded := value.isLt
  have twice : 2 ^ (width + 1) ≤ 2 * value.toNat := by
    by_contra small
    have nonnegative := BitVec.msb_eq_false_iff_two_mul_lt.mpr (not_le.mp small)
    rw [sign] at nonnegative
    cases nonnegative
  have lost : 2 * value.toNat % 2 ^ (width + 1) = 2 * value.toNat - 2 ^ (width + 1) := by
    rw [Nat.mod_eq_sub_mod twice, Nat.mod_eq_of_lt (by omega)]
  rw [encode, sign_negative sign, BitVec.xor_allOnes, BitVec.toNat_not, BitVec.toNat_shiftLeft,
    Nat.shiftLeft_eq, pow_one, Nat.mul_comm value.toNat, lost]
  omega

theorem decode_encode (value : BitVec (width + 1)) :
    decode (encode value).toNat = value.toInt := by
  have bounded := value.isLt
  rw [BitVec.toInt_eq_msb_cond, decode]
  cases sign : value.msb with
  | false =>
    have number := encode_nonnegative sign
    rw [number, if_pos (Nat.mul_mod_right 2 _), if_neg Bool.false_ne_true]
    omega
  | true =>
    have number := encode_negative sign
    have odd : ¬ (encode value).toNat % 2 = 0 := by omega
    rw [if_neg odd, if_pos rfl]
    omega

end Zigzag
