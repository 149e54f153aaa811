import Mathlib.Data.List.Basic
import Mathlib.Data.Nat.Bitwise
import Mathlib.Tactic.Ring

set_option autoImplicit false

/-!
# Base-128 varints

`varint` is the encoding of a natural number, seven bits a byte and the low bits first. The loops
of writers and readers over 64-bit words are compared with it.
-/

namespace Varint

def varint (value : Nat) : List UInt8 :=
  if value < 128 then [UInt8.ofNat value]
  else UInt8.ofNat (value % 128 + 128) :: varint (value / 128)
termination_by value

theorem varint_of_lt {value : Nat} (small : value < 128) : varint value = [UInt8.ofNat value] := by
  rw [varint, if_pos small]

theorem varint_of_ge {value : Nat} (large : 128 ≤ value) :
    varint value = UInt8.ofNat (value % 128 + 128) :: varint (value / 128) := by
  rw [varint, if_neg (by omega)]

theorem varint_ne_nil (value : Nat) : varint value ≠ [] := by
  rw [varint]
  split <;> simp

theorem length_varint_pos (value : Nat) : 0 < (varint value).length :=
  List.length_pos_of_ne_nil (varint_ne_nil value)

theorem length_varint_le (groups value : Nat) (fits : value < 128 ^ (groups + 1)) :
    (varint value).length ≤ groups + 1 := by
  induction groups generalizing value with
  | zero =>
    rw [varint_of_lt (by simpa using fits)]
    simp
  | succ groups ih =>
    by_cases small : value < 128
    · simp [varint_of_lt small]
    · have rest := ih (value / 128) (Nat.div_lt_of_lt_mul (by rwa [← pow_succ']))
      rw [varint_of_ge (by omega), List.length_cons]
      omega

theorem length_varint_word {value : Nat} (word : value < 2 ^ 64) : (varint value).length ≤ 10 :=
  length_varint_le 9 value (lt_of_lt_of_le word (by decide))

theorem word_ofNat {value : Nat} (small : value < 2 ^ 64) :
    (UInt64.ofNat value).toNat = value := by
  rw [UInt64.toNat_ofNat', Nat.mod_eq_of_lt small]

/-! ## Writers -/

/-- A writer's loop: one byte an iteration, at most `fuel` of them. -/
def writeLoop : Nat → UInt64 → List UInt8
  | 0, _ => []
  | fuel + 1, word =>
    let low := (word &&& 0x7F).toUInt8
    let rest := word >>> 7
    if rest = 0 then [low] else (low ||| 0x80) :: writeLoop fuel rest

theorem low_bits (word : UInt64) : ((word &&& 0x7F).toUInt8).toNat = word.toNat % 128 := by
  have mask : word.toNat &&& 127 = word.toNat % 128 := Nat.and_two_pow_sub_one_eq_mod _ 7
  have constant : (0x7F : UInt64).toNat = 127 := rfl
  rw [UInt64.toNat_toUInt8, UInt64.toNat_and, constant, mask]
  omega

theorem shifted (word : UInt64) : (word >>> 7).toNat = word.toNat / 128 := by
  simp [Nat.shiftRight_eq_div_pow]

theorem shifted_eq_zero (word : UInt64) : word >>> 7 = 0 ↔ word.toNat < 128 := by
  rw [← UInt64.toNat_inj, shifted]
  simp [Nat.div_eq_zero_iff]

theorem continued_byte {low : UInt8} {group : Nat} (is : low.toNat = group) (small : group < 128) :
    low ||| 0x80 = UInt8.ofNat (group + 128) := by
  apply UInt8.toNat_inj.mp
  have disjoint : group ||| 128 = group + 128 := by
    have := Nat.two_pow_add_eq_or_of_lt (i := 7) small 1
    rw [Nat.or_comm, Nat.add_comm]
    simpa using this.symm
  simp only [UInt8.toNat_or, is, UInt8.reduceToNat, disjoint, UInt8.toNat_ofNat']
  omega

theorem writeLoop_eq (fuel : Nat) (word : UInt64) (enough : word.toNat < 128 ^ fuel)
    (positive : 0 < fuel) : writeLoop fuel word = varint word.toNat := by
  induction fuel generalizing word with
  | zero => omega
  | succ fuel ih =>
    have low : ((word &&& 0x7F).toUInt8).toNat = word.toNat % 128 := low_bits word
    by_cases small : word.toNat < 128
    · have last : word >>> 7 = 0 := (shifted_eq_zero word).mpr small
      rw [varint_of_lt small, writeLoop, if_pos last]
      congr 1
      apply UInt8.toNat_inj.mp
      rw [low]
      simp
      omega
    · have more : ¬ word >>> 7 = 0 := fun last => small ((shifted_eq_zero word).mp last)
      have shrunk : (word >>> 7).toNat < 128 ^ fuel := by
        rw [shifted, Nat.div_lt_iff_lt_mul (by omega), ← pow_succ]
        exact enough
      have left : 0 < fuel := by
        rcases Nat.eq_zero_or_pos fuel with rfl | positive
        · simp at enough; omega
        · exact positive
      rw [varint_of_ge (by omega), writeLoop, if_neg more,
        continued_byte low (Nat.mod_lt _ (by omega)), ih _ shrunk left, shifted]

theorem writeLoop_ten (word : UInt64) : writeLoop 10 word = varint word.toNat :=
  writeLoop_eq 10 word (lt_of_lt_of_le word.toNat_lt (by decide)) (by omega)

/-! ## Readers -/

inductive Read where
  | value (word : UInt64) (length : Nat)
  | truncated
  | overflow
  deriving DecidableEq

/-- A reader's loop at byte `index`, with the bits of the bytes before it in `result`. -/
def readLoop : List UInt8 → Nat → UInt64 → Read
  | [], _, _ => .truncated
  | byte :: rest, index, result =>
    let result := result ||| ((byte &&& 0x7F).toUInt64 <<< UInt64.ofNat (7 * index))
    if byte &&& 0x80 = 0 then .value result (index + 1)
    else if index ≥ 9 then .overflow
    else readLoop rest (index + 1) result

def read (bytes : List UInt8) : Read := readLoop bytes 0 0

theorem group_bits (byte : UInt8) : ((byte &&& 0x7F).toUInt64).toNat = byte.toNat % 128 := by
  have mask : byte.toNat &&& 127 = byte.toNat % 128 := Nat.and_two_pow_sub_one_eq_mod _ 7
  simp [mask]

theorem last_byte (byte : UInt8) : byte &&& 0x80 = 0 ↔ byte.toNat < 128 := by
  have bounded := byte.toNat_lt
  have top : (byte &&& 0x80).toNat = (decide (byte.toNat / 2 ^ 7 % 2 = 1)).toNat * 2 ^ 7 := by
    rw [← Nat.testBit_eq_decide_div_mod_eq, ← Nat.and_two_pow]
    rfl
  rw [← UInt8.toNat_inj, top, UInt8.toNat_zero]
  by_cases set : byte.toNat / 2 ^ 7 % 2 = 1
  · simp only [set, decide_true, Bool.toNat_true]
    omega
  · simp only [set, decide_false, Bool.toNat_false]
    omega

theorem accumulate {result : UInt64} (byte : UInt8) {index : Nat} (inside : index ≤ 9)
    (low : result.toNat < 2 ^ (7 * index))
    (high : byte.toNat % 128 * 2 ^ (7 * index) < 2 ^ 64) :
    (result ||| ((byte &&& 0x7F).toUInt64 <<< UInt64.ofNat (7 * index))).toNat =
      result.toNat + byte.toNat % 128 * 2 ^ (7 * index) := by
  have amount : 7 * index % 2 ^ 64 % 64 = 7 * index := by omega
  rw [UInt64.toNat_or, UInt64.toNat_shiftLeft, group_bits, UInt64.toNat_ofNat', amount,
    Nat.shiftLeft_eq, Nat.mod_eq_of_lt high, Nat.or_comm, Nat.mul_comm,
    ← Nat.two_pow_add_eq_or_of_lt low, Nat.add_comm]

theorem byte_of_group {group : Nat} (small : group < 256) :
    (UInt8.ofNat group).toNat = group := by
  simp
  omega

theorem readLoop_varint (value index : Nat) (result : UInt64) (rest : List UInt8)
    (inside : index ≤ 9) (low : result.toNat < 2 ^ (7 * index))
    (fits : value * 2 ^ (7 * index) < 2 ^ 64) :
    readLoop (varint value ++ rest) index result =
      .value (UInt64.ofNat (result.toNat + value * 2 ^ (7 * index)))
        (index + (varint value).length) := by
  induction value using varint.induct generalizing index result with
  | case1 value small =>
    have byte := byte_of_group (show value < 256 by omega)
    have group : value % 128 = value := Nat.mod_eq_of_lt small
    have sum := accumulate (UInt8.ofNat value) inside low (by rw [byte, group]; exact fits)
    have last := (last_byte (UInt8.ofNat value)).mpr (by omega)
    simp only [varint_of_lt small, List.singleton_append, readLoop, last, if_true]
    rw [byte, group] at sum
    congr 1
    rw [← sum, UInt64.ofNat_toNat]
  | case2 value large ih =>
    have scale : 2 ^ (7 * (index + 1)) = 128 * 2 ^ (7 * index) := by
      rw [Nat.mul_succ, pow_add]
      ring
    have split : value * 2 ^ (7 * index) =
        value % 128 * 2 ^ (7 * index) + value / 128 * 2 ^ (7 * (index + 1)) := by
      conv_lhs => rw [← Nat.mod_add_div value 128]
      rw [scale]
      ring
    have below : index < 9 := by
      by_contra reached
      have nine : index = 9 := by omega
      subst nine
      omega
    have byte := byte_of_group (show value % 128 + 128 < 256 by omega)
    have group : (value % 128 + 128) % 128 = value % 128 := by omega
    have sum := accumulate (UInt8.ofNat (value % 128 + 128)) inside low
      (by rw [byte, group]; omega)
    have more : ¬ UInt8.ofNat (value % 128 + 128) &&& 0x80 = 0 := by
      rw [last_byte, byte]
      omega
    rw [byte, group] at sum
    have grown : value % 128 * 2 ^ (7 * index) + 2 ^ (7 * index) ≤ 2 ^ (7 * (index + 1)) := by
      rw [scale, ← Nat.succ_mul]
      exact Nat.mul_le_mul_right _ (Nat.mod_lt _ (by omega))
    rw [varint_of_ge (by omega), List.cons_append, readLoop, if_neg more,
      if_neg (by omega), ih _ _ (by omega) (by omega) (by omega), sum]
    congr 1
    · congr 1
      omega
    · simp
      omega

-- A reader started at an encoded word returns it and how many bytes it took.
theorem read_varint (word : UInt64) (rest : List UInt8) :
    read (varint word.toNat ++ rest) = .value word (varint word.toNat).length := by
  have start := readLoop_varint word.toNat 0 0 rest (by omega) (by simp)
    (by simpa using word.toNat_lt)
  simpa [read] using start

end Varint
