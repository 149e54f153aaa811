import Mathlib.Data.Nat.Log
import Mathlib.Tactic.Ring

set_option autoImplicit false

/-!
# Binary32 and binary64 patterns

The conversions between the two formats, on the bits: to the nearest value, a tie to the even one,
and back without loss.
-/

namespace Binary

def sign64 (bits : UInt64) : Nat := bits.toNat / 2 ^ 63

def exponent64 (bits : UInt64) : Nat := bits.toNat / 2 ^ 52 % 2048

def fraction64 (bits : UInt64) : Nat := bits.toNat % 2 ^ 52

def word64 (sign exponent fraction : Nat) : UInt64 :=
  UInt64.ofNat (sign * 2 ^ 63 + exponent * 2 ^ 52 + fraction)

def sign32 (bits : UInt32) : Nat := bits.toNat / 2 ^ 31

def exponent32 (bits : UInt32) : Nat := bits.toNat / 2 ^ 23 % 256

def fraction32 (bits : UInt32) : Nat := bits.toNat % 2 ^ 23

def word32 (sign exponent fraction : Nat) : UInt32 :=
  UInt32.ofNat (sign * 2 ^ 31 + exponent * 2 ^ 23 + fraction)

/-! ## Conversions -/

def roundHalfEven (value shift : Nat) : Nat :=
  let quotient := value / 2 ^ shift
  let rest := value % 2 ^ shift
  if 2 * rest > 2 ^ shift ∨ (2 * rest = 2 ^ shift ∧ quotient % 2 = 1) then quotient + 1
  else quotient

-- Exponent and fraction in one number, so that a carry out of the fraction is right by itself.
-- Below 897 the result is subnormal.
def narrowMagnitude (exponent fraction : Nat) : Nat :=
  let significand := if exponent = 0 then fraction else 2 ^ 52 + fraction
  let exponent := max exponent 1
  (exponent - 897) * 2 ^ 23 + roundHalfEven significand (29 + (897 - exponent))

/-- The nearest binary32 value, or `none` where a finite value has none. A NaN is made quiet. -/
def narrow (bits : UInt64) : Option UInt32 :=
  let sign := sign64 bits
  let exponent := exponent64 bits
  let fraction := fraction64 bits
  if exponent = 2047 then
    if fraction = 0 then some (word32 sign 255 0)
    else some (word32 sign 255 (2 ^ 22 + fraction / 2 ^ 29 % 2 ^ 22))
  else if narrowMagnitude exponent fraction < 255 * 2 ^ 23 then
    some (word32 sign 0 (narrowMagnitude exponent fraction))
  else none

def widen (bits : UInt32) : UInt64 :=
  let sign := sign32 bits
  let exponent := exponent32 bits
  let fraction := fraction32 bits
  if exponent = 255 then
    if fraction = 0 then word64 sign 2047 0
    else word64 sign 2047 ((2 ^ 22 + fraction % 2 ^ 22) * 2 ^ 29)
  else if exponent = 0 then
    if fraction = 0 then word64 sign 0 0
    else
      let place := Nat.log2 fraction
      word64 sign (place + 874) (fraction * 2 ^ (52 - place) - 2 ^ 52)
  else word64 sign (exponent + 896) (fraction * 2 ^ 29)

/-! ## Fields -/

section Fields

variable {sign exponent fraction : Nat}

theorem fields_word64 (signs : sign < 2) (exponents : exponent < 2048)
    (fractions : fraction < 2 ^ 52) :
    sign64 (word64 sign exponent fraction) = sign ∧
      exponent64 (word64 sign exponent fraction) = exponent ∧
      fraction64 (word64 sign exponent fraction) = fraction := by
  simp only [sign64, exponent64, fraction64, word64, UInt64.toNat_ofNat']
  omega

theorem fields_word32 (signs : sign < 2) (exponents : exponent < 256)
    (fractions : fraction < 2 ^ 23) :
    sign32 (word32 sign exponent fraction) = sign ∧
      exponent32 (word32 sign exponent fraction) = exponent ∧
      fraction32 (word32 sign exponent fraction) = fraction := by
  simp only [sign32, exponent32, fraction32, word32, UInt32.toNat_ofNat']
  omega

end Fields

theorem fields_lt (bits : UInt32) :
    sign32 bits < 2 ∧ exponent32 bits < 256 ∧ fraction32 bits < 2 ^ 23 := by
  have bounded := bits.toNat_lt
  simp only [sign32, exponent32, fraction32]
  omega

theorem word32_fields (bits : UInt32) :
    word32 (sign32 bits) 0 (exponent32 bits * 2 ^ 23 + fraction32 bits) = bits := by
  have bounded := bits.toNat_lt
  have same : sign32 bits * 2 ^ 31 + 0 * 2 ^ 23 + (exponent32 bits * 2 ^ 23 + fraction32 bits) =
      bits.toNat := by
    simp only [sign32, exponent32, fraction32]
    omega
  rw [word32, same, UInt32.ofNat_toNat]

/-! ## Back from binary64 -/

theorem roundHalfEven_exact (value shift : Nat) : roundHalfEven (value * 2 ^ shift) shift = value := by
  have positive : 0 < 2 ^ shift := Nat.two_pow_pos shift
  simp only [roundHalfEven, Nat.mul_div_cancel value positive, Nat.mul_mod_left]
  rw [if_neg (by omega)]

theorem roundHalfEven_zero (shift : Nat) : roundHalfEven 0 shift = 0 := by
  have exact := roundHalfEven_exact 0 shift
  rwa [Nat.zero_mul] at exact

theorem narrowMagnitude_zero : narrowMagnitude 0 0 = 0 := by
  simp only [narrowMagnitude, if_true, roundHalfEven_zero]
  rfl

theorem narrowMagnitude_normal {exponent fraction : Nat} (positive : 0 < exponent) :
    narrowMagnitude (exponent + 896) (fraction * 2 ^ 29) = exponent * 2 ^ 23 + fraction := by
  have significand : 2 ^ 52 + fraction * 2 ^ 29 = (2 ^ 23 + fraction) * 2 ^ 29 := by ring
  have largest : max (exponent + 896) 1 = exponent + 896 := by omega
  have shift : 29 + (897 - (exponent + 896)) = 29 := by omega
  rw [narrowMagnitude, if_neg (by omega)]
  simp only [largest, shift, significand, roundHalfEven_exact]
  omega

theorem narrowMagnitude_subnormal {fraction : Nat} (some_bit : fraction ≠ 0)
    (small : fraction < 2 ^ 23) :
    narrowMagnitude (Nat.log2 fraction + 874)
      (fraction * 2 ^ (52 - Nat.log2 fraction) - 2 ^ 52) = fraction := by
  have within : Nat.log2 fraction < 23 := (Nat.log2_lt some_bit).mpr small
  have leading : 2 ^ Nat.log2 fraction ≤ fraction := Nat.log2_self_le some_bit
  generalize Nat.log2 fraction = place at *
  have normal : 2 ^ 52 ≤ fraction * 2 ^ (52 - place) := by
    calc 2 ^ 52 = 2 ^ place * 2 ^ (52 - place) := by
          rw [← pow_add]
          congr 1
          omega
      _ ≤ fraction * 2 ^ (52 - place) := Nat.mul_le_mul_right _ leading
  have significand : 2 ^ 52 + (fraction * 2 ^ (52 - place) - 2 ^ 52) =
      fraction * 2 ^ (52 - place) := Nat.add_sub_cancel' normal
  have largest : max (place + 874) 1 = place + 874 := by omega
  have shift : 29 + (897 - (place + 874)) = 52 - place := by omega
  have base : place + 874 - 897 = 0 := by omega
  rw [narrowMagnitude, if_neg (by omega)]
  simp only [largest, shift, significand, base, roundHalfEven_exact]
  omega

theorem narrow_finite {bits : UInt64} (single : UInt32) (finite : exponent64 bits ≠ 2047)
    (sign : sign64 bits = sign32 single) (normal : exponent32 single < 255)
    (magnitude : narrowMagnitude (exponent64 bits) (fraction64 bits) =
      exponent32 single * 2 ^ 23 + fraction32 single) : narrow bits = some single := by
  have fields := fields_lt single
  simp only [narrow, if_neg finite, magnitude, sign, word32_fields]
  rw [if_pos (by omega)]

theorem narrow_widen (single : UInt32) :
    ∃ packed, narrow (widen single) = some packed ∧ widen packed = widen single := by
  obtain ⟨signs, exponents, fractions⟩ := fields_lt single
  by_cases special : exponent32 single = 255
  · by_cases infinite : fraction32 single = 0
    · have wide : widen single = word64 (sign32 single) 2047 0 := by
        simp only [widen, if_pos special, if_pos infinite]
      obtain ⟨sign, exponent, fraction⟩ := fields_word64 signs (show 2047 < 2048 by omega)
        (show 0 < 2 ^ 52 by omega)
      obtain ⟨sign', exponent', fraction'⟩ := fields_word32 signs (show 255 < 256 by omega)
        (show 0 < 2 ^ 23 by omega)
      refine ⟨word32 (sign32 single) 255 0, ?_, ?_⟩
      · simp only [wide, narrow, sign, exponent, fraction, if_true]
      · rw [wide]
        simp only [widen, sign', exponent', fraction', if_true]
    · have wide : widen single = word64 (sign32 single) 2047
          ((2 ^ 22 + fraction32 single % 2 ^ 22) * 2 ^ 29) := by
        simp only [widen, if_pos special, if_neg infinite]
      obtain ⟨sign, exponent, fraction⟩ := fields_word64 signs (show 2047 < 2048 by omega)
        (show (2 ^ 22 + fraction32 single % 2 ^ 22) * 2 ^ 29 < 2 ^ 52 by omega)
      obtain ⟨sign', exponent', fraction'⟩ := fields_word32 signs (show 255 < 256 by omega)
        (show 2 ^ 22 + fraction32 single % 2 ^ 22 < 2 ^ 23 by omega)
      have quiet : (2 ^ 22 + fraction32 single % 2 ^ 22) * 2 ^ 29 / 2 ^ 29 % 2 ^ 22 =
          fraction32 single % 2 ^ 22 := by omega
      have kept : (2 ^ 22 + fraction32 single % 2 ^ 22) % 2 ^ 22 =
          fraction32 single % 2 ^ 22 := by omega
      refine ⟨word32 (sign32 single) 255 (2 ^ 22 + fraction32 single % 2 ^ 22), ?_, ?_⟩
      · simp only [wide, narrow, sign, exponent, fraction, if_true, quiet]
        rw [if_neg (by omega)]
      · rw [wide]
        simp only [widen, sign', exponent', fraction', if_true, kept]
        rw [if_neg (by omega)]
  · refine ⟨single, ?_, rfl⟩
    by_cases normal : exponent32 single = 0
    · by_cases zero : fraction32 single = 0
      · obtain ⟨sign, exponent, fraction⟩ := fields_word64 signs (show 0 < 2048 by omega)
          (show 0 < 2 ^ 52 by omega)
        have wide : widen single = word64 (sign32 single) 0 0 := by
          simp only [widen, if_neg special, if_pos normal, if_pos zero]
        rw [wide]
        refine narrow_finite single (by omega) sign (by omega) ?_
        rw [exponent, fraction, normal, zero, narrowMagnitude_zero, Nat.zero_mul]
      · have place := (Nat.log2_lt zero).mpr fractions
        have below : fraction32 single < 2 ^ (Nat.log2 (fraction32 single) + 1) := Nat.lt_log2_self
        have wide : widen single = word64 (sign32 single) (Nat.log2 (fraction32 single) + 874)
            (fraction32 single * 2 ^ (52 - Nat.log2 (fraction32 single)) - 2 ^ 52) := by
          simp only [widen, if_neg special, if_pos normal, if_neg zero]
        have small : fraction32 single * 2 ^ (52 - Nat.log2 (fraction32 single)) < 2 ^ 53 := by
          calc fraction32 single * 2 ^ (52 - Nat.log2 (fraction32 single))
              < 2 ^ (Nat.log2 (fraction32 single) + 1) *
                  2 ^ (52 - Nat.log2 (fraction32 single)) :=
                Nat.mul_lt_mul_of_pos_right below (Nat.two_pow_pos _)
            _ = 2 ^ 53 := by
                rw [← pow_add]
                congr 1
                omega
        obtain ⟨sign, exponent, fraction⟩ := fields_word64 signs
          (show Nat.log2 (fraction32 single) + 874 < 2048 by omega)
          (show fraction32 single * 2 ^ (52 - Nat.log2 (fraction32 single)) - 2 ^ 52 < 2 ^ 52 by
            omega)
        rw [wide]
        refine narrow_finite single (by omega) sign (by omega) ?_
        rw [exponent, fraction, narrowMagnitude_subnormal zero fractions, normal, Nat.zero_mul,
          Nat.zero_add]
    · have wide : widen single = word64 (sign32 single) (exponent32 single + 896)
          (fraction32 single * 2 ^ 29) := by
        simp only [widen, if_neg special, if_neg normal]
      obtain ⟨sign, exponent, fraction⟩ := fields_word64 signs
        (show exponent32 single + 896 < 2048 by omega)
        (show fraction32 single * 2 ^ 29 < 2 ^ 52 by omega)
      rw [wide]
      refine narrow_finite single (by omega) sign (by omega) ?_
      rw [exponent, fraction, narrowMagnitude_normal (Nat.pos_of_ne_zero normal)]

end Binary
