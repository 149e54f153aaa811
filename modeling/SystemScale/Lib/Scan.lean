import SystemScale.Lib.Wire

set_option autoImplicit false

/-!
# Reading any bytes as fields

`Reads` is what a decoder accepts that does not ask for the shortest encoding of a varint.
`loop_reads` and `loop_rejects` are the rules for such a decoder on bytes of any origin.
-/

namespace Varint

theorem readLoop_bounds {bytes : List UInt8} {index : Nat} {result word : UInt64} {length : Nat}
    (read : readLoop bytes index result = .value word length) :
    index < length ∧ length ≤ index + bytes.length := by
  induction bytes generalizing index result with
  | nil => simp [readLoop] at read
  | cons byte rest ih =>
    simp only [readLoop] at read
    split_ifs at read
    · obtain ⟨_, rfl⟩ := Read.value.inj read
      simp
    · have later := ih read
      simp only [List.length_cons]
      omega

theorem read_bounds {bytes : List UInt8} {word : UInt64} {length : Nat}
    (value : read bytes = .value word length) : 0 < length ∧ length ≤ bytes.length := by
  have bounds := readLoop_bounds value
  omega

theorem readLoop_low {bytes : List UInt8} {index : Nat} {result word : UInt64} {length : Nat}
    (positive : 0 < index) (inside : index ≤ 9)
    (read : readLoop bytes index result = .value word length) :
    word.toNat % 128 = result.toNat % 128 := by
  induction bytes generalizing index result with
  | nil => simp [readLoop] at read
  | cons byte rest ih =>
    have amount : 7 * index % 2 ^ 64 % 64 = 7 + 7 * (index - 1) := by omega
    -- The bits of a later byte are all above the first seven.
    have kept : (result ||| ((byte &&& 0x7F).toUInt64 <<< UInt64.ofNat (7 * index))).toNat % 128 =
        result.toNat % 128 := by
      have high : ((byte &&& 0x7F).toUInt64 <<< UInt64.ofNat (7 * index)).toNat % 2 ^ 7 = 0 := by
        rw [UInt64.toNat_shiftLeft, UInt64.toNat_ofNat', amount, Nat.shiftLeft_eq, Nat.pow_add,
          ← Nat.mul_assoc, Nat.mul_right_comm]
        omega
      rw [UInt64.toNat_or, show (128 : Nat) = 2 ^ 7 from rfl, Nat.or_mod_two_pow, high, Nat.or_zero]
    simp only [readLoop] at read
    split_ifs at read with last long
    · obtain ⟨rfl, _⟩ := Read.value.inj read
      exact kept
    · exact (ih (Nat.succ_pos _) (by omega) read).trans kept

-- The first byte holds the lowest seven bits.
theorem read_first {byte : UInt8} {rest : List UInt8} {word : UInt64} {length : Nat}
    (read : read (byte :: rest) = .value word length) : word.toNat % 128 = byte.toNat % 128 := by
  have start : ((0 : UInt64) ||| ((byte &&& 0x7F).toUInt64 <<< UInt64.ofNat (7 * 0))).toNat =
      byte.toNat % 128 := by
    rw [accumulate byte (Nat.zero_le _) (by simp) (by omega)]
    simp
  simp only [Varint.read, readLoop] at read
  split_ifs at read with last
  · obtain ⟨rfl, _⟩ := Read.value.inj read
    rw [start, Nat.mod_mod]
  · rw [readLoop_low Nat.one_pos (by omega) read, start, Nat.mod_mod]

theorem readLoop_longer {bytes : List UInt8} {index : Nat} {result word : UInt64} {length : Nat}
    (more : List UInt8) (whole : readLoop bytes index result = .value word length) :
    readLoop (bytes ++ more) index result = .value word length := by
  induction bytes generalizing index result with
  | nil => simp [readLoop] at whole
  | cons byte rest ih =>
    simp only [List.cons_append, readLoop] at whole ⊢
    split_ifs at whole ⊢
    · exact whole
    · exact ih whole

theorem readLoop_cut (value index kept : Nat) (result : UInt64)
    (fits : value < 128 ^ (10 - index)) (cut : kept < (varint value).length) :
    readLoop ((varint value).take kept) index result = .truncated := by
  induction value using varint.induct generalizing index kept result with
  | case1 value small =>
    rw [varint_of_lt small, List.length_singleton] at cut
    have none : kept = 0 := by omega
    simp [none, readLoop]
  | case2 value large ih =>
    have bounded : (UInt8.ofNat (value % 128 + 128)).toNat = value % 128 + 128 :=
      byte_of_group (by omega)
    have more : ¬ UInt8.ofNat (value % 128 + 128) &&& 0x80 = 0 := by
      rw [last_byte, bounded]
      omega
    cases kept with
    | zero => simp [readLoop]
    | succ kept =>
      rw [varint_of_ge (by omega)] at cut ⊢
      have below : index < 9 := by
        by_contra reached
        have one : 10 - index ≤ 1 := by omega
        have at_most := Nat.pow_le_pow_right (show 0 < 128 by omega) one
        omega
      obtain ⟨fewer, is⟩ : ∃ fewer, 10 - index = fewer + 1 := ⟨9 - index, by omega⟩
      have rest : value / 128 < 128 ^ (10 - (index + 1)) := by
        have same : 10 - (index + 1) = fewer := by omega
        rw [is, pow_succ'] at fits
        rw [same]
        exact Nat.div_lt_of_lt_mul fits
      rw [List.take_succ_cons, readLoop, if_neg more, if_neg (by omega)]
      exact ih _ _ _ rest (by simpa using cut)

-- A varint that lacks its last bytes is not read.
theorem read_cut {value kept : Nat} (word : value < 2 ^ 64)
    (cut : kept < (varint value).length) :
    read ((varint value).take kept) = .truncated :=
  readLoop_cut value 0 kept 0 (lt_of_lt_of_le word (by decide)) cut

end Varint

namespace Wire

open Bytes

/-! ## One field -/

/-- The payload of a field of this wire type, and the bytes it takes. -/
def scanPayload (wireType : Nat) (data : List UInt8) : Option (Payload × Nat) :=
  match wireType with
  | 0 =>
    match Varint.read data with
    | .value word length => some (.varint word, length)
    | _ => none
  | 1 => if data.length < 8 then none
    else some (.fixed64 (UInt64.ofNat (leValue (data.take 8))), 8)
  | 2 =>
    match Varint.read data with
    | .value size length =>
      if data.length < length + size.toNat then none
      else some (.delimited (slice data length size.toNat), length + size.toNat)
    | _ => none
  | 5 => if data.length < 4 then none
    else some (.fixed32 (UInt32.ofNat (leValue (data.take 4))), 4)
  | _ => none

def scanField (data : List UInt8) : Option (Field × Nat) :=
  match Varint.read data with
  | .value tag length =>
    match scanPayload (tag &&& 0x7).toNat (data.drop length) with
    | some (payload, size) => some (⟨(tag >>> 3).toNat, payload⟩, length + size)
    | none => none
  | _ => none

theorem scanPayload_bound {wireType : Nat} {data : List UInt8} {payload : Payload} {size : Nat}
    (scanned : scanPayload wireType data = some (payload, size)) : size ≤ data.length := by
  unfold scanPayload at scanned
  split at scanned
  next =>
    split at scanned
    next read =>
      have bounds := Varint.read_bounds read
      cases scanned
      exact bounds.2
    next => simp at scanned
  next =>
    split_ifs at scanned
    cases scanned
    omega
  next =>
    split at scanned
    next =>
      split_ifs at scanned
      cases scanned
      omega
    next => simp at scanned
  next =>
    split_ifs at scanned
    cases scanned
    omega
  next => simp at scanned

theorem scanField_cases {data : List UInt8} {field : Field} {length : Nat}
    (scanned : scanField data = some (field, length)) :
    ∃ tag tagLength size, Varint.read data = .value tag tagLength ∧
      scanPayload (tag &&& 0x7).toNat (data.drop tagLength) = some (field.payload, size) ∧
      field.number = (tag >>> 3).toNat ∧ length = tagLength + size := by
  unfold scanField at scanned
  split at scanned
  next tag tagLength read =>
    split at scanned
    next payload size inner =>
      cases scanned
      exact ⟨tag, tagLength, size, read, inner, rfl, rfl⟩
    next => simp at scanned
  next => simp at scanned

theorem scanField_bounds {data : List UInt8} {field : Field} {length : Nat}
    (scanned : scanField data = some (field, length)) : 0 < length ∧ length ≤ data.length := by
  obtain ⟨tag, tagLength, size, read, inner, _, rfl⟩ := scanField_cases scanned
  have tag_bounds := Varint.read_bounds read
  have size_bound := scanPayload_bound inner
  rw [List.length_drop] at size_bound
  omega

section Longer

variable {data : List UInt8}

theorem scanPayload_longer {wireType size : Nat} {payload : Payload} (more : List UInt8)
    (scanned : scanPayload wireType data = some (payload, size)) :
    scanPayload wireType (data ++ more) = some (payload, size) := by
  unfold scanPayload at scanned ⊢
  split at scanned
  next =>
    split at scanned
    next word length read =>
      have longer : Varint.read (data ++ more) = .value word length :=
        Varint.readLoop_longer more read
      simpa only [longer] using scanned
    next => simp at scanned
  next =>
    split_ifs at scanned with short
    simp only [List.take_append_of_le_length (Nat.le_of_not_lt short)]
    rw [if_neg (by simp; omega), scanned]
  next =>
    split at scanned
    next word length read =>
      have longer : Varint.read (data ++ more) = .value word length :=
        Varint.readLoop_longer more read
      split_ifs at scanned with short
      have within : slice (data ++ more) length word.toNat = slice data length word.toNat := by
        unfold slice
        rw [List.drop_append_of_le_length (by omega),
          List.take_append_of_le_length (by rw [List.length_drop]; omega)]
      simp only [longer, within]
      rw [if_neg (by simp; omega), scanned]
    next => simp at scanned
  next =>
    split_ifs at scanned with short
    simp only [List.take_append_of_le_length (Nat.le_of_not_lt short)]
    rw [if_neg (by simp; omega), scanned]
  next => simp at scanned

theorem scanField_longer {field : Field} {length : Nat} (more : List UInt8)
    (scanned : scanField data = some (field, length)) :
    scanField (data ++ more) = some (field, length) := by
  unfold scanField at scanned
  split at scanned
  next tag tagLength read =>
    have longer : Varint.read (data ++ more) = .value tag tagLength :=
      Varint.readLoop_longer more read
    have bounds := Varint.read_bounds read
    split at scanned
    next payload size found =>
      have content := scanPayload_longer more found
      rw [← List.drop_append_of_le_length (by omega)] at content
      simpa only [scanField, longer, content] using scanned
    next => simp at scanned
  next => simp at scanned

end Longer

/-! ## A whole message -/

inductive Reads : List UInt8 → List Field → Prop
  | nil : Reads [] []
  | cons {data : List UInt8} {field : Field} {length : Nat} {fields : List Field}
      (first : scanField data = some (field, length)) (rest : Reads (data.drop length) fields) :
      Reads data (field :: fields)

theorem Reads.unique {data : List UInt8} {fields other : List Field}
    (reads : Reads data fields) (again : Reads data other) : fields = other := by
  induction reads generalizing other with
  | nil =>
    cases again with
    | nil => rfl
    | cons first _ => simp [scanField, Varint.read, Varint.readLoop] at first
  | cons first _ ih =>
    cases again with
    | nil => simp [scanField, Varint.read, Varint.readLoop] at first
    | cons other_first other_rest =>
      rw [first] at other_first
      cases other_first
      rw [ih other_rest]

-- Where no field is left, the data end.
theorem Reads.at_end {data : List UInt8} {position : Nat} (reads : Reads (data.drop position) [])
    (inside : position ≤ data.length) : position = data.length := by
  have none_left : data.drop position = [] := by
    generalize data.drop position = rest at reads
    cases reads
    rfl
  have behind := List.drop_eq_nil_iff.mp none_left
  omega

theorem Reads.at_field {data : List UInt8} {position : Nat} {field : Field} {rest : List Field}
    (reads : Reads (data.drop position) (field :: rest)) :
    ∃ length, scanField (data.drop position) = some (field, length) ∧
      Reads (data.drop (position + length)) rest := by
  generalize left : data.drop position = remaining at reads
  cases reads with
  | cons first later =>
    rw [← left, List.drop_drop] at later
    exact ⟨_, first, later⟩

def keepDelimited (number : Nat) (last : List UInt8) (field : Field) : List UInt8 :=
  match field.payload with
  | .delimited data => if field.number = number then data else last
  | _ => last

/-- The bytes of the last field of this number, or none. -/
def lastDelimited (number : Nat) (fields : List Field) : List UInt8 :=
  fields.foldl (keepDelimited number) []

section Loops

variable {S R Env : Type} (body : S → Step S R) (place : Nat → Env → S)
  (apply : Env → Field → Env) (finish : Env → R) (data : List UInt8)

-- A decoder that takes the fields of `Known` one by one, until what it has is enough.
theorem loop_known_until {Known : Field → Prop} {stop : Env → Bool}
    (field_step : ∀ position field length env, position < data.length → Known field →
      scanField (data.drop position) = some (field, length) →
      body (place position env) =
        if stop (apply env field) then .done (finish (apply env field))
        else .next (place (position + length) (apply env field)))
    (end_step : ∀ env, body (place data.length env) = .done (finish env))
    {fields : List Field} {position : Nat} {env : Env} {fuel : Nat}
    (known : ∀ field ∈ fields, Known field) (reads : Reads (data.drop position) fields)
    (inside : position ≤ data.length) (enough : data.length - position < fuel) :
    loop body fuel (place position env) = some (finish (foldUntil stop apply env fields)) := by
  induction fields generalizing position env fuel with
  | nil =>
    obtain ⟨fuel, rfl⟩ : ∃ less, fuel = less + 1 := ⟨fuel - 1, by omega⟩
    rw [reads.at_end inside]
    exact loop_done fuel (end_step env)
  | cons field rest ih =>
    obtain ⟨fuel, rfl⟩ : ∃ less, fuel = less + 1 := ⟨fuel - 1, by omega⟩
    obtain ⟨length, first, later⟩ := reads.at_field
    have bounds := scanField_bounds first
    rw [List.length_drop] at bounds
    have step := field_step position field length env (by omega) (known field (by simp)) first
    by_cases stopped : stop (apply env field) = true
    · rw [if_pos stopped] at step
      rw [loop_done fuel step, foldUntil, if_pos stopped]
    · rw [if_neg stopped] at step
      rw [loop_next fuel step, foldUntil, if_neg stopped]
      exact ih (fun other member => known other (List.mem_cons_of_mem _ member)) later (by omega)
        (by omega)

theorem loop_reads_known {Known : Field → Prop}
    (field_step : ∀ position field length env, position < data.length → Known field →
      scanField (data.drop position) = some (field, length) →
      body (place position env) = .next (place (position + length) (apply env field)))
    (end_step : ∀ env, body (place data.length env) = .done (finish env))
    {fields : List Field} {position : Nat} {env : Env} {fuel : Nat}
    (known : ∀ field ∈ fields, Known field) (reads : Reads (data.drop position) fields)
    (inside : position ≤ data.length) (enough : data.length - position < fuel) :
    loop body fuel (place position env) = some (finish (fields.foldl apply env)) := by
  rw [← foldUntil_never]
  exact loop_known_until body place apply finish data field_step end_step known reads inside enough

theorem loop_reads
    (field_step : ∀ position field length env, position < data.length →
      scanField (data.drop position) = some (field, length) →
      body (place position env) = .next (place (position + length) (apply env field)))
    (end_step : ∀ env, body (place data.length env) = .done (finish env))
    {fields : List Field} {position : Nat} {env : Env} {fuel : Nat}
    (reads : Reads (data.drop position) fields) (inside : position ≤ data.length)
    (enough : data.length - position < fuel) :
    loop body fuel (place position env) = some (finish (fields.foldl apply env)) :=
  loop_reads_known body place apply finish data
    (fun position field length env within (_ : True) found =>
      field_step position field length env within found)
    end_step (fun _ _ => trivial) reads inside enough

theorem loop_rejects {Rejected : R → Prop}
    (field_step : ∀ position field length env, position < data.length →
      scanField (data.drop position) = some (field, length) →
      body (place position env) = .next (place (position + length) (apply env field)))
    (fail_step : ∀ position env, position < data.length → scanField (data.drop position) = none →
      ∃ result, body (place position env) = .done result ∧ Rejected result)
    {position : Nat} {env : Env} {fuel : Nat}
    (unread : ∀ fields, ¬ Reads (data.drop position) fields) (inside : position ≤ data.length)
    (enough : data.length - position < fuel) :
    ∃ result, loop body fuel (place position env) = some result ∧ Rejected result := by
  induction fuel generalizing position env with
  | zero => omega
  | succ fuel ih =>
    have within : position < data.length := by
      rcases Nat.lt_or_ge position data.length with within | reached
      · exact within
      · refine absurd ?_ (unread [])
        rw [List.drop_eq_nil_of_le reached]
        exact .nil
    cases scanned : scanField (data.drop position) with
    | none =>
      obtain ⟨result, step, rejected⟩ := fail_step position env within scanned
      exact ⟨result, loop_done fuel step, rejected⟩
    | some pair =>
      obtain ⟨field, length⟩ := pair
      have bounds := scanField_bounds scanned
      rw [List.length_drop] at bounds
      rw [loop_next fuel (field_step position field length env within scanned)]
      refine ih ?_ (by omega) (by omega)
      intro fields reads
      rw [← List.drop_drop] at reads
      exact unread _ (.cons scanned reads)

end Loops

/-! ## Messages that were written -/

theorem FieldAt.first {after : List UInt8} {field : Field} (small : field.number < 2 ^ 29) :
    FieldAt (field.bytes ++ after) 0 field after where
  small := small
  here := rfl
  ends := by simp

theorem FieldAt.scanned {data after : List UInt8} {start : Nat} {field : Field}
    (at_field : FieldAt data start field after) (held : field.payload.room < 2 ^ 64) :
    scanField (data.drop start) = some (field, field.bytes.length) := by
  have ends := at_field.ends
  have size := field.length_bytes
  have tail : ((data.drop start).drop field.tagLength) = data.drop (start + field.tagLength) :=
    List.drop_drop
  simp only [scanField, at_field.read_tag, at_field.number, at_field.wireType, tail]
  have payload : scanPayload field.payload.wireType (data.drop (start + field.tagLength)) =
      some (field.payload, field.payload.bytes.length) := by
    cases is : field.payload with
    | varint word => simp [Payload.wireType, scanPayload, at_field.read_word is, Payload.bytes]
    | fixed64 bits =>
      have read := at_field.read_fixed64 is
      simp only [is, Payload.bytes, length_leBytes] at size
      simp only [slice] at read
      simp only [Payload.wireType, scanPayload, List.length_drop, read, Payload.bytes,
        length_leBytes]
      rw [if_neg (by omega)]
    | delimited part =>
      simp only [is, Payload.room] at held
      have word : (UInt64.ofNat part.length).toNat = part.length := Varint.word_ofNat (by omega)
      have found : slice (data.drop (start + field.tagLength)) (Varint.varint part.length).length
          part.length = part := by
        rw [slice, List.drop_drop, at_field.drop_length is, List.take_left]
      simp only [is, Payload.bytes, List.length_append] at size
      simp only [Payload.wireType, scanPayload, at_field.read_length is (by omega), word, found,
        List.length_drop, Payload.bytes, List.length_append]
      rw [if_neg (by omega)]
    | fixed32 bits =>
      have read := at_field.read_fixed32 is
      simp only [is, Payload.bytes, length_leBytes] at size
      simp only [slice] at read
      simp only [Payload.wireType, scanPayload, List.length_drop, read, Payload.bytes,
        length_leBytes]
      rw [if_neg (by omega)]
  rw [payload, size]

theorem reads_encode (fields : List Field)
    (good : ∀ field ∈ fields, field.number < 2 ^ 29 ∧ field.payload.room < 2 ^ 64) :
    Reads (encode fields) fields := by
  induction fields with
  | nil => exact .nil
  | cons field rest ih =>
    obtain ⟨small, held⟩ := good field (by simp)
    have first : FieldAt (encode (field :: rest)) 0 field (encode rest) := .first small
    have scanned := first.scanned held
    rw [List.drop_zero] at scanned
    refine .cons scanned ?_
    rw [encode_cons, List.drop_left]
    exact ih fun other member => good other (List.mem_cons_of_mem _ member)

theorem scanPayload_cut {payload : Payload} {kept : Nat} (held : payload.room < 2 ^ 64)
    (cut : kept < payload.bytes.length) :
    scanPayload payload.wireType (payload.bytes.take kept) = none := by
  cases payload with
  | varint word =>
    simp [Payload.wireType, scanPayload, Payload.bytes, Varint.read_cut word.toNat_lt cut]
  | fixed64 bits =>
    rw [Payload.bytes, length_leBytes] at cut
    simp [Payload.wireType, scanPayload, Payload.bytes, cut]
  | delimited data =>
    simp only [Payload.room] at held
    simp only [Payload.bytes, List.length_append] at cut
    by_cases inside : kept < (Varint.varint data.length).length
    · have same : (Varint.varint data.length ++ data).take kept =
          (Varint.varint data.length).take kept := List.take_append_of_le_length (by omega)
      simp only [Payload.wireType, scanPayload, Payload.bytes, same,
        Varint.read_cut (show data.length < 2 ^ 64 by omega) inside]
    · have word : (UInt64.ofNat data.length).toNat = data.length := Varint.word_ofNat (by omega)
      have read := Varint.read_varint (UInt64.ofNat data.length)
        (data.take (kept - (Varint.varint data.length).length))
      rw [word] at read
      have same : (Varint.varint data.length ++ data).take kept =
          Varint.varint data.length ++ data.take (kept - (Varint.varint data.length).length) := by
        rw [List.take_append, List.take_of_length_le (by omega)]
      simp only [Payload.wireType, scanPayload, Payload.bytes, same, read, word,
        List.length_append, List.length_take]
      rw [if_pos (by omega)]
  | fixed32 bits =>
    rw [Payload.bytes, length_leBytes] at cut
    simp [Payload.wireType, scanPayload, Payload.bytes, cut]

theorem scanField_cut {field : Field} {kept : Nat} (small : field.number < 2 ^ 29)
    (held : field.payload.room < 2 ^ 64) (cut : kept < field.bytes.length) :
    scanField (field.bytes.take kept) = none := by
  have code := field.payload.wireType_lt
  have tag : field.tag < 2 ^ 64 := by
    unfold Field.tag
    omega
  by_cases inside : kept < field.tagLength
  · have same : field.bytes.take kept = (Varint.varint field.tag).take kept :=
      List.take_append_of_le_length (Nat.le_of_lt inside)
    rw [scanField, same, Varint.read_cut tag inside]
  · have same : field.bytes.take kept =
        Varint.varint field.tag ++ field.payload.bytes.take (kept - field.tagLength) := by
      rw [Field.bytes, List.take_append, List.take_of_length_le (Nat.le_of_not_lt inside)]
      rfl
    have word : (UInt64.ofNat field.tag).toNat = field.tag := Varint.word_ofNat tag
    have read := Varint.read_varint (UInt64.ofNat field.tag)
      (field.payload.bytes.take (kept - field.tagLength))
    rw [word] at read
    have shorter : kept - field.tagLength < field.payload.bytes.length := by
      rw [field.length_bytes] at cut
      omega
    have whole : FieldAt (field.bytes ++ []) 0 field [] := .first small
    have kind := whole.wireType
    simp only [scanField, same, read, kind, List.drop_left, scanPayload_cut held shorter]

-- A message that lacks its last bytes is read only where it was cut between two fields.
theorem reads_cut {fields found : List Field} {kept : Nat}
    (good : ∀ field ∈ fields, field.number < 2 ^ 29 ∧ field.payload.room < 2 ^ 64)
    (cut : kept ≤ (encode fields).length) (reads : Reads ((encode fields).take kept) found) :
    ∃ count, (encode (fields.take count)).length = kept ∧ found = fields.take count := by
  induction fields generalizing kept found with
  | nil =>
    have none : kept = 0 := by simpa using cut
    subst none
    exact ⟨0, rfl, reads.unique .nil⟩
  | cons field rest ih =>
    obtain ⟨small, held⟩ := good field (by simp)
    rw [encode_cons] at cut reads
    by_cases inside : kept < field.bytes.length
    · have same : (field.bytes ++ encode rest).take kept = field.bytes.take kept :=
        List.take_append_of_le_length (Nat.le_of_lt inside)
      rw [same] at reads
      generalize left : field.bytes.take kept = remaining at reads
      cases reads with
      | nil =>
        have none : kept = 0 := by
          have := congrArg List.length left
          simp only [List.length_take, List.length_nil] at this
          omega
        exact ⟨0, none.symm, rfl⟩
      | cons first _ =>
        rw [← left, scanField_cut small held inside] at first
        simp at first
    · have same : (field.bytes ++ encode rest).take kept =
          field.bytes ++ (encode rest).take (kept - field.bytes.length) := by
        rw [List.take_append, List.take_of_length_le (Nat.le_of_not_lt inside)]
      rw [same] at reads
      have at_field : FieldAt (field.bytes ++ (encode rest).take (kept - field.bytes.length)) 0
          field ((encode rest).take (kept - field.bytes.length)) := .first small
      have scanned := at_field.scanned held
      rw [List.drop_zero] at scanned
      generalize left : field.bytes ++ (encode rest).take (kept - field.bytes.length) = remaining
        at reads scanned
      cases reads with
      | nil => simp [scanField, Varint.read, Varint.readLoop] at scanned
      | cons first later =>
        rw [scanned] at first
        cases first
        rw [← left, List.drop_left] at later
        simp only [List.length_append] at cut
        obtain ⟨count, length, found⟩ := ih
          (fun other member => good other (List.mem_cons_of_mem _ member)) (by omega) later
        refine ⟨count + 1, ?_, by rw [found, List.take_succ_cons]⟩
        rw [List.take_succ_cons, encode_cons, List.length_append]
        omega

end Wire
