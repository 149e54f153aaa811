import SystemScale.Lib.WellFormed

set_option autoImplicit false

/-!
# The Go services' protobuf helpers

`consumeVarint` is written out twice in the source, in `commands/main.go` and `ingest/main.go`.
Go strings are byte strings; `int` has 64 bits.
-/

namespace SystemScale.Cloud

open Wire

abbrev GoString := List UInt8

/-- The value and the number of bytes it took, or two zeros. -/
def consumeVarint (data : List UInt8) : UInt64 × Nat :=
  match Varint.read data with
  | .value word length => (word, length)
  | .truncated => (0, 0)
  | .overflow => (0, 0)

-- `int(v)` keeps the 64 bits, so from 2^63 on it is negative.
def goInt (v : UInt64) : Int := Int.bmod v.toNat (2 ^ 64)

def goAdd (a b : Int) : Int := Int.bmod (a + b) (2 ^ 64)

/-- `data[low:high]`, or `none` where Go panics. -/
def goSlice (data : List UInt8) (low high : Int) : Option (List UInt8) :=
  if 0 ≤ low ∧ low ≤ high ∧ high ≤ data.length then
    some ((data.drop low.toNat).take (high - low).toNat)
  else none

/-! ## Sums and slices that fit -/

section Slices

variable {data : List UInt8}

theorem goInt_of_lt {v : UInt64} (small : v.toNat < 2 ^ 63) : goInt v = v.toNat := by
  unfold goInt
  rw [Int.bmod_def]
  omega

theorem goInt_length {length : Nat} (held : length < 2 ^ 63) :
    goInt (UInt64.ofNat length) = length := by
  have word : (UInt64.ofNat length).toNat = length := Varint.word_ofNat (by omega)
  have read := goInt_of_lt (v := UInt64.ofNat length) (by omega)
  rwa [word] at read

-- A length that was written for bytes that are there does not overflow.
theorem goAdd_length {position length : Nat} (held : position + length < 2 ^ 63) :
    goAdd position (goInt (UInt64.ofNat length)) = (position + length : Nat) := by
  rw [goInt_length (by omega)]
  unfold goAdd
  rw [Int.bmod_def]
  omega

theorem goSlice_nat {position count : Nat} (inside : position + count ≤ data.length) :
    goSlice data position (position + count : Nat) = some (Bytes.slice data position count) := by
  have width : ((position + count : Nat) - (position : Int)).toNat = count := by omega
  rw [goSlice, if_pos (by omega), width, Int.toNat_natCast, Bytes.slice]

theorem goSlice_rest {position : Nat} (inside : position ≤ data.length) :
    goSlice data position data.length = some (data.drop position) := by
  have whole := goSlice_nat (show position + (data.length - position) ≤ data.length by omega)
  rw [Nat.add_sub_cancel' inside] at whole
  rw [whole, Bytes.slice, List.take_of_length_le (by rw [List.length_drop])]

theorem goAdd_fits {position : Nat} (count : UInt64) (held : data.length < 2 ^ 63)
    (fits : position + count.toNat ≤ data.length) :
    goAdd position (goInt count) = (position + count.toNat : Nat) := by
  have sum := goAdd_length (show position + count.toNat < 2 ^ 63 by omega)
  rwa [UInt64.ofNat_toNat] at sum

theorem goSlice_count {position : Nat} (count : UInt64) (held : data.length < 2 ^ 63)
    (fits : position + count.toNat ≤ data.length) :
    goSlice data position (goAdd position (goInt count)) =
      some (Bytes.slice data position count.toNat) := by
  rw [goAdd_fits count held fits, goSlice_nat fits]

end Slices

/-! ## Rounds -/

/-- The round of the decoders that know varints and length-delimited fields only: `take` reads
the content of the latter. -/
def fieldRound {E A : Type} (data : List UInt8) (start : Nat) (missing : Outcome A)
    (noVarint noLength : Nat → String) (unsupported : Nat → Nat → String) (set : Nat → UInt64 → E)
    (take : Nat → Nat → UInt64 → Step (Nat × E) (Outcome A)) : Step (Nat × E) (Outcome A) :=
  let (tag, n) := consumeVarint (data.drop start)
  if n = 0 then .done missing
  else
    let pos := start + n
    let fieldNum := (tag >>> 3).toNat
    match (tag &&& 0x7).toNat with
    | 0 =>
      let (val, n2) := consumeVarint (data.drop pos)
      if n2 = 0 then .done (.err (noVarint fieldNum)) else .next (pos + n2, set fieldNum val)
    | 2 =>
      let (length, n2) := consumeVarint (data.drop pos)
      if n2 = 0 then .done (.err (noLength fieldNum)) else take fieldNum (pos + n2) length
    | wireType => .done (.err (unsupported wireType fieldNum))

section FieldRound

variable {E A : Type} {data : List UInt8} {start length : Nat} {field : Field}
  {missing : Outcome A} {noVarint noLength : Nat → String} {unsupported : Nat → Nat → String}
  {set : Nat → UInt64 → E} {take : Nat → Nat → UInt64 → Step (Nat × E) (Outcome A)}
  {apply : Field → E}

-- Such a decoder takes a complete field if it takes what is there for the content.
theorem fieldRound_scan (sets : ∀ number val, apply ⟨number, .varint val⟩ = set number val)
    (takes : ∀ number content count, content + count.toNat ≤ data.length →
      take number content count = .next (content + count.toNat,
        apply ⟨number, .delimited (Bytes.slice data content count.toNat)⟩))
    (known : field.payload.wireType = 0 ∨ field.payload.wireType = 2)
    (scanned : scanField (data.drop start) = some (field, length)) :
    fieldRound data start missing noVarint noLength unsupported set take =
      .next (start + length, apply field) := by
  obtain ⟨number, payload⟩ := field
  obtain ⟨tag, tagLength, size, read, is_number, kind, content, rfl⟩ := scanField_content scanned
  have some_tag := (Varint.read_bounds read).1.ne'
  rw [fieldRound, consumeVarint, read]
  simp only [if_neg some_tag, is_number, kind]
  cases content with
  | varint value =>
    have some_word := (Varint.read_bounds value).1.ne'
    simp only [Payload.wireType, consumeVarint, value, if_neg some_word, sets, Nat.add_assoc]
  | fixed64 whole => simp [Payload.wireType] at known
  | @delimited count countLength value whole =>
    have some_count := (Varint.read_bounds value).1.ne'
    simp only [Payload.wireType, consumeVarint, value, if_neg some_count]
    rw [takes number _ count whole]
    simp only [Nat.add_assoc]
  | fixed32 whole => simp [Payload.wireType] at known

end FieldRound

end SystemScale.Cloud
