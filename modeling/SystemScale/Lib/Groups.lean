import SystemScale.Lib.WellFormed

set_option autoImplicit false

/-!
# Messages with groups

What stands between the two tags of a group belongs to the group and not to the message.
-/

namespace Wire

/-- The bytes are a rest of a well-formed message in which `groups` are open, the innermost first,
and `fields` are those that stand in no group. -/
inductive Parses : List Nat → List UInt8 → List Field → Prop where
  | finish : Parses [] [] []
  | field {data : List UInt8} {field : Field} {length : Nat} {fields : List Field}
      (scanned : scanField data = some (field, length)) (legal : field.Legal)
      (rest : Parses [] (data.drop length) fields) : Parses [] data (field :: fields)
  | inside {group : Nat} {groups : List Nat} {data : List UInt8} {field : Field} {length : Nat}
      {fields : List Field} (scanned : scanField data = some (field, length))
      (legal : field.Legal) (rest : Parses (group :: groups) (data.drop length) fields) :
      Parses (group :: groups) data fields
  | start {groups : List Nat} {data : List UInt8} {tag : UInt64} {length : Nat}
      {fields : List Field} (read : Varint.read data = .value tag length)
      (kind : (tag &&& 0x7).toNat = 3) (legal : 0 < (tag >>> 3).toNat ∧ (tag >>> 3).toNat < 2 ^ 29)
      (rest : Parses ((tag >>> 3).toNat :: groups) (data.drop length) fields) :
      Parses groups data fields
  | stop {groups : List Nat} {data : List UInt8} {tag : UInt64} {length : Nat}
      {fields : List Field} (read : Varint.read data = .value tag length)
      (kind : (tag &&& 0x7).toNat = 4) (rest : Parses groups (data.drop length) fields) :
      Parses ((tag >>> 3).toNat :: groups) data fields

section Fronts

variable {data : List UInt8} {fields more all : List Field} {pos : Nat}

theorem scanField_kind {field : Field} {length : Nat} {tag : UInt64} {tagLength : Nat}
    (scanned : scanField data = some (field, length))
    (read : Varint.read data = .value tag tagLength) :
    (tag &&& 0x7).toNat = field.payload.wireType := by
  have from_start : scanField (data.drop 0) = some (field, length) := scanned
  obtain ⟨_, _, _, same, _, kind, _, _⟩ := scanField_content from_start
  rw [List.drop_zero, read] at same
  cases same
  exact kind

-- A message ends, or begins with a field or with a group.
theorem Parses.begins (parses : Parses [] data all) :
    data = [] ∨ ∃ tag tagLength, Varint.read data = .value tag tagLength ∧
      ((tag &&& 0x7).toNat = 3 ∨ ∃ field length, scanField data = some (field, length)) := by
  cases parses with
  | finish => exact .inl rfl
  | field scanned _ _ =>
    obtain ⟨tag, tagLength, _, read, _, _, _⟩ := scanField_cases scanned
    exact .inr ⟨tag, tagLength, read, .inr ⟨_, _, scanned⟩⟩
  | start read kind _ _ => exact .inr ⟨_, _, read, .inl kind⟩

theorem Parses.scanned {field : Field} {length : Nat} (parses : Parses [] data all)
    (scanned : scanField data = some (field, length)) :
    field.Legal ∧ ∃ more, all = field :: more ∧ Parses [] (data.drop length) more := by
  cases parses with
  | finish => simp [scanField, Varint.read, Varint.readLoop] at scanned
  | field first legal rest =>
    rw [scanned] at first
    cases first
    exact ⟨legal, _, rfl, rest⟩
  | start read kind _ _ =>
    have same := scanField_kind scanned read
    rw [kind] at same
    cases is : field.payload <;> simp [is, Payload.wireType] at same

-- A well-formed message is well-formed from any of its positions on.
theorem Parses.rest (parses : Parses [] data all) (reads : ReadsTo data fields pos) :
    (∀ field ∈ fields, field.Legal) ∧
      ∃ more, all = fields ++ more ∧ Parses [] (data.drop pos) more := by
  induction reads with
  | start => exact ⟨by simp, all, rfl, by simpa using parses⟩
  | @next fields field pos length before found ih =>
    obtain ⟨legal, more, rfl, later⟩ := ih
    obtain ⟨own, rest, rfl, tail⟩ := later.scanned found
    rw [List.drop_drop] at tail
    refine ⟨fun other member => ?_, rest, by simp, tail⟩
    rcases List.mem_append.mp member with earlier | last
    · exact legal other earlier
    · rw [List.mem_singleton.mp last]
      exact own

theorem Parses.append (reads : ReadsTo data fields pos) (legal : ∀ field ∈ fields, field.Legal)
    (rest : Parses [] (data.drop pos) more) : Parses [] data (fields ++ more) := by
  induction reads generalizing more with
  | start => simpa using rest
  | @next fields field pos length before found ih =>
    rw [List.append_assoc]
    have own := legal field (List.mem_append_right _ List.mem_cons_self)
    rw [← List.drop_drop] at rest
    exact ih (fun other member => legal other (List.mem_append_left _ member))
      (.field found own rest)

end Fronts

end Wire
