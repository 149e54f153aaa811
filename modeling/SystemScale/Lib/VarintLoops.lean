import SystemScale.Lib.Rounds

set_option autoImplicit false

/-!
# The shapes of varint loops

Writers that push into a buffer, and readers that walk a slice or move a position. Every writer
appends `varint`, and every reader returns what `read` finds.
-/

namespace Varint

/-! ## Writers -/

theorem shifted_lt {word : UInt64} (more : ¬ word >>> 7 = 0) :
    (word >>> 7).toNat < word.toNat := by
  rw [shifted_eq_zero] at more
  rw [shifted]
  omega

/-- The last byte is pushed where the loop ends. -/
def pushLoop (buf : List UInt8) (word : UInt64) : List UInt8 :=
  let low := (word &&& 0x7F).toUInt8
  let rest := word >>> 7
  if rest = 0 then buf ++ [low] else pushLoop (buf ++ [low ||| 0x80]) rest
termination_by word.toNat
decreasing_by exact shifted_lt (by assumption)

/-- Every byte is pushed in the same place, and the loop ends after it. -/
def putLoop (buf : List UInt8) (word : UInt64) : List UInt8 :=
  let low := (word &&& 0x7F).toUInt8
  let rest := word >>> 7
  let byte := if rest ≠ 0 then low ||| 0x80 else low
  if rest = 0 then buf ++ [byte] else putLoop (buf ++ [byte]) rest
termination_by word.toNat
decreasing_by exact shifted_lt (by assumption)

theorem last_group {word : UInt64} (last : word >>> 7 = 0) :
    [(word &&& 0x7F).toUInt8] = varint word.toNat := by
  have small : word.toNat < 128 := (shifted_eq_zero word).mp last
  rw [varint_of_lt small]
  congr 1
  apply UInt8.toNat_inj.mp
  rw [low_bits]
  simp
  omega

theorem next_group {word : UInt64} (more : ¬ word >>> 7 = 0) :
    ((word &&& 0x7F).toUInt8 ||| 0x80) :: varint (word >>> 7).toNat = varint word.toNat := by
  have large : 128 ≤ word.toNat := by
    rw [shifted_eq_zero] at more
    omega
  rw [varint_of_ge large, continued_byte (low_bits word) (Nat.mod_lt _ (by omega)), shifted]

theorem pushLoop_eq (buf : List UInt8) (word : UInt64) :
    pushLoop buf word = buf ++ varint word.toNat := by
  induction buf, word using pushLoop.induct with
  | case1 buf word rest last => rw [pushLoop, if_pos last, last_group last]
  | case2 buf word low rest more ih =>
    rw [pushLoop, if_neg more, ih, List.append_assoc, List.singleton_append, next_group more]

theorem putLoop_push (buf : List UInt8) (word : UInt64) : putLoop buf word = pushLoop buf word := by
  induction buf, word using pushLoop.induct with
  | case1 buf word rest last =>
    have byte : ¬ word >>> 7 ≠ 0 := not_not.mpr last
    rw [putLoop, pushLoop, if_pos last, if_pos last, if_neg byte]
  | case2 buf word low rest more ih =>
    rw [putLoop, pushLoop, if_neg more, if_neg more, if_pos more]
    exact ih

/-! ## Readers -/

/-- The word and its length, or two zeros. -/
def sliceLoop : List UInt8 → Nat → UInt64 → UInt64 × Nat
  | [], _, _ => (0, 0)
  | byte :: rest, index, result =>
    let result := result ||| ((byte &&& 0x7F).toUInt64 <<< UInt64.ofNat (7 * index))
    if byte &&& 0x80 = 0 then (result, index + 1)
    else if index ≥ 9 then (0, 0)
    else sliceLoop rest (index + 1) result

theorem sliceLoop_eq (bytes : List UInt8) (index : Nat) (result : UInt64) :
    sliceLoop bytes index result = (readLoop bytes index result).pair := by
  induction bytes generalizing index result with
  | nil => rfl
  | cons byte rest ih =>
    simp only [sliceLoop, readLoop]
    split_ifs with last full
    · rfl
    · rfl
    · exact ih _ _

theorem sliceLoop_read (bytes : List UInt8) : sliceLoop bytes 0 0 = (read bytes).pair :=
  sliceLoop_eq bytes 0 0

inductive Failure where
  | truncated
  | overflow
  deriving DecidableEq

/-- The word, and the position where the loop ended. -/
def positionLoop (buf : List UInt8) (pos shift : Nat) (result : UInt64) :
    Except Failure UInt64 × Nat :=
  if inside : pos < buf.length then
    let byte := buf[pos]
    let result := result ||| ((byte &&& 0x7F).toUInt64 <<< UInt64.ofNat shift)
    if byte &&& 0x80 = 0 then (.ok result, pos + 1)
    else if shift + 7 < 64 then positionLoop buf (pos + 1) (shift + 7) result
    else (.error .overflow, pos + 1)
  else (.error .truncated, pos)
termination_by buf.length - pos

/-- Where a reader leaves its position, when byte `index` of the word stands at `pos`. -/
def Read.place (buf : List UInt8) (pos index : Nat) : Read → Except Failure UInt64 × Nat
  | .value word length => (.ok word, pos + (length - index))
  | .truncated => (.error .truncated, max pos buf.length)
  | .overflow => (.error .overflow, pos + (10 - index))

theorem readLoop_ahead {bytes : List UInt8} {index length : Nat} {result word : UInt64}
    (read : readLoop bytes index result = .value word length) : index < length := by
  induction bytes generalizing index result with
  | nil => simp [readLoop] at read
  | cons byte rest ih =>
    simp only [readLoop] at read
    split_ifs at read with last full
    · obtain ⟨-, rfl⟩ := Read.value.inj read
      omega
    · have later := ih read
      omega

theorem place_next {buf bytes : List UInt8} {pos index : Nat} {result : UInt64}
    (held : pos < buf.length) (inside : index < 9) :
    (readLoop bytes (index + 1) result).place buf (pos + 1) (index + 1) =
      (readLoop bytes (index + 1) result).place buf pos index := by
  cases found : readLoop bytes (index + 1) result with
  | value word length =>
    have ahead := readLoop_ahead found
    simp only [Read.place]
    congr 1
    omega
  | truncated =>
    simp only [Read.place]
    congr 1
    omega
  | overflow =>
    simp only [Read.place]
    congr 1
    omega

theorem positionLoop_eq (buf : List UInt8) (pos index : Nat) (result : UInt64)
    (inside : index ≤ 9) :
    positionLoop buf pos (7 * index) result =
      (readLoop (buf.drop pos) index result).place buf pos index := by
  -- by induction on the bytes that are left: each round moves the position by one
  generalize left : buf.drop pos = bytes
  induction bytes generalizing pos index result with
  | nil =>
    have beyond : buf.length ≤ pos := List.drop_eq_nil_iff.mp left
    rw [positionLoop, dif_neg (by omega), readLoop, Read.place, max_eq_left beyond]
  | cons byte rest ih =>
    have held : pos < buf.length := by
      by_contra beyond
      rw [List.drop_eq_nil_iff.mpr (by omega)] at left
      cases left
    obtain ⟨here, behind⟩ := List.cons.inj ((List.drop_eq_getElem_cons held).symm.trans left)
    rw [positionLoop, dif_pos held, readLoop, here]
    by_cases last : byte &&& 0x80 = 0
    · simp only [if_pos last, Read.place]
      congr 1
      omega
    -- a shift by 7 more stays below 64 just as long as the index stays below 9
    · by_cases full : index ≥ 9
      · simp only [if_neg last, if_pos full, if_neg (show ¬ 7 * index + 7 < 64 by omega),
          Read.place]
        congr 1
        omega
      · have later := ih (pos + 1) (index + 1)
          (result ||| ((byte &&& 0x7F).toUInt64 <<< UInt64.ofNat (7 * index))) (by omega) behind
        simp only [if_neg last, if_neg full, if_pos (show 7 * index + 7 < 64 by omega)]
        rw [Nat.mul_succ] at later
        rw [later, place_next held (by omega)]

theorem positionLoop_read (buf : List UInt8) (pos : Nat) :
    positionLoop buf pos 0 0 = (read (buf.drop pos)).place buf pos 0 :=
  positionLoop_eq buf pos 0 0 (Nat.zero_le 9)

/-! ## Where a word stands in a buffer -/

/-- The word at `pos` and the position after it. -/
def readAt (buf : List UInt8) (pos : Nat) : Option (UInt64 × Nat) :=
  match read (buf.drop pos) with
  | .value word length => some (word, pos + length)
  | .truncated => none
  | .overflow => none

theorem readAt_varint (word : UInt64) (before after : List UInt8) :
    readAt (before ++ varint word.toNat ++ after) before.length =
      some (word, before.length + (varint word.toNat).length) := by
  rw [readAt, List.append_assoc, List.drop_left, read_varint]

theorem readLoop_run {run rest : List UInt8} {index : Nat} {result : UInt64}
    (continued : ∀ byte ∈ run, byte &&& 0x80 ≠ 0) (inside : index ≤ 9)
    (long : 10 ≤ index + run.length) : readLoop (run ++ rest) index result = .overflow := by
  induction run generalizing index result with
  | nil =>
    rw [List.length_nil] at long
    omega
  | cons byte run ih =>
    have more : ¬ byte &&& 0x80 = 0 := continued byte List.mem_cons_self
    rw [List.cons_append, readLoop, if_neg more]
    -- the tenth byte that continues is one too many
    by_cases full : index ≥ 9
    · rw [if_pos full]
    · rw [List.length_cons] at long
      rw [if_neg full]
      exact ih (fun byte member => continued byte (List.mem_cons_of_mem _ member))
        (by omega) (by omega)

theorem readAt_run {before run after : List UInt8}
    (continued : ∀ byte ∈ run, byte &&& 0x80 ≠ 0) (long : 10 ≤ run.length) :
    readAt (before ++ run ++ after) before.length = none := by
  have full : read (run ++ after) = .overflow :=
    readLoop_run continued (Nat.zero_le 9) (by omega)
  rw [readAt, List.append_assoc, List.drop_left, full]

end Varint
