import SystemScale.Cloud.Proto
import SystemScale.Lib.WellFormed

set_option autoImplicit false

/-! # telemetry-ingest's decoder of envelopes -/

namespace SystemScale.Cloud

open Wire

/-- Floats are kept as their bits, as `math.Float64frombits` receives them. -/
structure Envelope where
  vehicleID : GoString
  timestampNs : UInt64
  streamType : UInt64
  payload : List UInt8
  lat : UInt64
  lon : UInt64
  alt : UInt32
  seq : UInt64
  fleetID : GoString
  orgID : GoString
  streamName : GoString
  senderID : GoString
  senderType : GoString
  receiverID : GoString
  receiverType : GoString
  deriving DecidableEq

namespace Envelope

def empty : Envelope := ⟨[], 0, 0, [], 0, 0, 0, 0, [], [], [], [], [], [], []⟩

def setVarint (env : Envelope) (fieldNum : Nat) (val : UInt64) : Envelope :=
  match fieldNum with
  | 2 => { env with timestampNs := val }
  | 3 => { env with streamType := val }
  | 8 => { env with seq := val }
  | _ => env

def setFixed64 (env : Envelope) (fieldNum : Nat) (bits : UInt64) : Envelope :=
  match fieldNum with
  | 5 => { env with lat := bits }
  | 6 => { env with lon := bits }
  | _ => env

def setBytes (env : Envelope) (fieldNum : Nat) (b : List UInt8) : Envelope :=
  match fieldNum with
  | 1 => { env with vehicleID := b }
  | 4 => { env with payload := b }
  | 16 => { env with fleetID := b }
  | 17 => { env with orgID := b }
  | 18 => { env with streamName := b }
  | 19 => { env with senderID := b }
  | 20 => { env with senderType := b }
  | 21 => { env with receiverID := b }
  | 22 => { env with receiverType := b }
  | _ => env

def setFixed32 (env : Envelope) (fieldNum : Nat) (bits : UInt32) : Envelope :=
  match fieldNum with
  | 7 => { env with alt := bits }
  | _ => env

def apply (env : Envelope) (field : Field) : Envelope :=
  match field.payload with
  | .varint val => env.setVarint field.number val
  | .fixed64 bits => env.setFixed64 field.number bits
  | .delimited b => env.setBytes field.number b
  | .fixed32 bits => env.setFixed32 field.number bits

end Envelope

def decodeDataEnvelopeStep (data : List UInt8) :
    Nat × Envelope → Step (Nat × Envelope) (Outcome Envelope)
  | (pos, env) =>
    if pos < data.length then
      let (tag, n) := consumeVarint (data.drop pos)
      if n = 0 then .done (.err s!"truncated tag at offset {pos}")
      else
        let pos := pos + n
        let fieldNum := (tag >>> 3).toNat
        match (tag &&& 0x7).toNat with
        | 0 =>
          let (val, n2) := consumeVarint (data.drop pos)
          if n2 = 0 then .done (.err s!"truncated varint field {fieldNum}")
          else .next (pos + n2, env.setVarint fieldNum val)
        | 1 =>
          if pos + 8 > data.length then .done (.err s!"truncated fixed64 field {fieldNum}")
          else
            let bits := UInt64.ofNat (Bytes.leValue (Bytes.slice data pos 8))
            .next (pos + 8, env.setFixed64 fieldNum bits)
        | 2 =>
          let (length, n2) := consumeVarint (data.drop pos)
          if n2 = 0 then .done (.err s!"truncated length field {fieldNum}")
          else
            let pos := pos + n2
            let stop := goAdd pos (goInt length)
            if stop > data.length then .done (.err s!"truncated bytes field {fieldNum}")
            else
              -- A negative `end` passes the test above and panics here.
              match goSlice data pos stop with
              | none => .done .panic
              | some b => .next (pos + b.length, env.setBytes fieldNum b)
        | 5 =>
          if pos + 4 > data.length then .done (.err s!"truncated fixed32 field {fieldNum}")
          else
            let bits := UInt32.ofNat (Bytes.leValue (Bytes.slice data pos 4))
            .next (pos + 4, env.setFixed32 fieldNum bits)
        | wireType => .done (.err s!"unsupported wire type {wireType} at field {fieldNum}")
    else .done (.ok env)

def decodeDataEnvelope (data : List UInt8) : Outcome Envelope :=
  (loop (decodeDataEnvelopeStep data) (data.length + 1) (0, .empty)).getD .hang

/-! ## One round -/

theorem decodeDataEnvelopeStep_scan {data : List UInt8} {position length : Nat} {field : Field}
    (held : data.length < 2 ^ 63) (env : Envelope) (inside : position < data.length)
    (scanned : scanField (data.drop position) = some (field, length)) :
    decodeDataEnvelopeStep data (position, env) = .next (position + length, env.apply field) := by
  obtain ⟨number, payload⟩ := field
  obtain ⟨tag, tagLength, size, read, is_number, kind, content, rfl⟩ := scanField_content scanned
  have some_tag := (Varint.read_bounds read).1.ne'
  rw [decodeDataEnvelopeStep, if_pos inside, consumeVarint, read]
  simp only [if_neg some_tag, is_number, kind]
  cases content with
  | varint value =>
    have some_word := (Varint.read_bounds value).1.ne'
    simp only [Payload.wireType, consumeVarint, value, if_neg some_word, Envelope.apply,
      Nat.add_assoc]
  | fixed64 whole =>
    simp only [Payload.wireType, Envelope.apply, Nat.add_assoc]
    rw [if_neg (by omega)]
  | @delimited count countLength value whole =>
    have some_count := (Varint.read_bounds value).1.ne'
    have stop := goAdd_length (show position + tagLength + countLength + count.toNat < 2 ^ 63 by
      omega)
    rw [UInt64.ofNat_toNat] at stop
    have part := Bytes.length_slice whole
    simp only [Payload.wireType, consumeVarint, value, if_neg some_count, stop]
    rw [if_neg (by omega), goSlice_nat whole]
    simp only [part]
    simp only [Envelope.apply, Nat.add_assoc]
  | fixed32 whole =>
    simp only [Payload.wireType, Envelope.apply, Nat.add_assoc]
    rw [if_neg (by omega)]

theorem decodeDataEnvelope_encode (fields : List Field)
    (good : ∀ field ∈ fields, field.number < 2 ^ 29) (held : (encode fields).length < 2 ^ 63) :
    decodeDataEnvelope (encode fields) = .ok (fields.foldl Envelope.apply .empty) := by
  have walk := decode_fields (decodeDataEnvelopeStep (encode fields)) Prod.mk Envelope.apply .ok
    fields .empty (fun _ small => small)
    (fun _ _ _ env _ at_field => decodeDataEnvelopeStep_scan held env at_field.inside (at_field.scans held))
    (fun env => by simp [decodeDataEnvelopeStep]) good
  exact congrArg (Option.getD · _) walk

/-! ## Bytes of any origin -/

-- A length that reaches past the end is refused, or its sum wraps and the slice panics.
theorem goSlice_past {data : List UInt8} {position : Nat} {count : UInt64}
    (held : data.length < 2 ^ 63) (inside : position ≤ data.length)
    (past : data.length < position + count.toNat)
    (passed : ¬ goAdd position (goInt count) > data.length) :
    goSlice data position (goAdd position (goInt count)) = none := by
  have bounded := count.toNat_lt
  have outside : ¬ (0 ≤ (position : Int) ∧ (position : Int) ≤ goAdd position (goInt count) ∧
      goAdd position (goInt count) ≤ data.length) := by
    rintro ⟨_, forward, _⟩
    have sum : goAdd position (goInt count) =
        Int.bmod ((position : Int) + count.toNat) (2 ^ 64) := Int.add_bmod_bmod
    rw [sum, Int.bmod_def] at forward passed
    omega
  rw [goSlice, if_neg outside]

-- The test passes just where the sum, or the sum less 2^64, is negative or too small.
theorem goAdd_past {data : List UInt8} {position : Nat} (count : UInt64)
    (_ : data.length < 2 ^ 63) (inside : position ≤ data.length)
    (past : data.length < position + count.toNat) :
    goAdd position (goInt count) > data.length ↔ ¬ 2 ^ 63 ≤ position + count.toNat := by
  have bounded := count.toNat_lt
  have sum : goAdd position (goInt count) =
      Int.bmod ((position : Int) + count.toNat) (2 ^ 64) := Int.add_bmod_bmod
  rw [sum, Int.bmod_def]
  omega

-- Where no field can be read, the decoder refuses the rest, or panics.
theorem decodeDataEnvelopeStep_stuck {data : List UInt8} {position : Nat}
    (held : data.length < 2 ^ 63) (env : Envelope) (inside : position < data.length)
    (unread : scanField (data.drop position) = none) :
    ∃ result, decodeDataEnvelopeStep data (position, env) = .done result ∧
      (EndsPast (2 ^ 63) data position ∧ result = .panic ∨
        ¬ EndsPast (2 ^ 63) data position ∧ ∃ message, result = .err message) := by
  have refuses {message : String} (none : delimitedAt data position = none) :
      EndsPast (2 ^ 63) data position ∧ Outcome.err (α := Envelope) message = .panic ∨
        ¬ EndsPast (2 ^ 63) data position ∧
          ∃ text, Outcome.err (α := Envelope) message = .err text :=
    .inr ⟨not_endsPast none, message, rfl⟩
  rw [decodeDataEnvelopeStep, if_pos inside, consumeVarint]
  unfold scanField at unread
  cases read : Varint.read (data.drop position) with
  | truncated => exact ⟨_, rfl, refuses (by simp only [delimitedAt, read])⟩
  | overflow => exact ⟨_, rfl, refuses (by simp only [delimitedAt, read])⟩
  | value tag tagLength =>
    have tag_bounds := Varint.read_bounds read
    rw [List.length_drop] at tag_bounds
    have inner : scanPayload (tag &&& 0x7).toNat (data.drop (position + tagLength)) = none := by
      rw [read] at unread
      simp only [List.drop_drop] at unread
      split at unread
      next => simp at unread
      next none => exact none
    simp only [if_neg (show tagLength ≠ 0 by omega)]
    by_cases delimited : (tag &&& 0x7).toNat = 2
    · simp only [delimited] at inner ⊢
      rw [consumeVarint]
      cases value : Varint.read (data.drop (position + tagLength)) with
      | value count countLength =>
        have count_bounds := Varint.read_bounds value
        rw [List.length_drop] at count_bounds
        simp only [scanPayload, value, List.length_drop] at inner
        split_ifs at inner with short
        have past := goAdd_past count held
          (show position + tagLength + countLength ≤ data.length by omega) (by omega)
        simp only [if_neg count_bounds.1.ne']
        rw [endsPast_iff _ read delimited value]
        split_ifs with passed
        · exact ⟨_, rfl, .inr ⟨past.mp passed, _, rfl⟩⟩
        · rw [goSlice_past held (by omega) (by omega) passed]
          exact ⟨_, rfl, .inl ⟨not_not.mp (mt past.mpr passed), rfl⟩⟩
      | truncated =>
        exact ⟨_, rfl, refuses (by simp only [delimitedAt, read, if_pos delimited, value])⟩
      | overflow =>
        exact ⟨_, rfl, refuses (by simp only [delimitedAt, read, if_pos delimited, value])⟩
    · have none := delimitedAt_other read delimited
      generalize (tag &&& 0x7).toNat = wireType at inner delimited ⊢
      by_cases unknown : wireType ≠ 0 ∧ wireType ≠ 1 ∧ wireType ≠ 5
      · refine ⟨.err s!"unsupported wire type {wireType} at field {(tag >>> 3).toNat}", ?_,
          refuses none⟩
        split
        next => exact absurd rfl unknown.1
        next => exact absurd rfl unknown.2.1
        next => exact absurd rfl delimited
        next => exact absurd rfl unknown.2.2
        next => rfl
      · unfold scanPayload at inner
        split at inner
        next =>
          rw [consumeVarint]
          cases value : Varint.read (data.drop (position + tagLength)) with
          | value word length => simp [value] at inner
          | truncated => exact ⟨_, rfl, refuses none⟩
          | overflow => exact ⟨_, rfl, refuses none⟩
        next =>
          split_ifs at inner with short
          rw [List.length_drop] at short
          exact ⟨_, if_pos (show position + tagLength + 8 > data.length by omega), refuses none⟩
        next => exact absurd rfl delimited
        next =>
          split_ifs at inner with short
          rw [List.length_drop] at short
          exact ⟨_, if_pos (show position + tagLength + 4 > data.length by omega), refuses none⟩
        next other_0 other_1 other_2 other_5 => exact absurd ⟨other_0, other_1, other_5⟩ unknown

theorem decodeDataEnvelopeStep_fail {data : List UInt8} {position : Nat}
    (held : data.length < 2 ^ 63) (env : Envelope) (inside : position < data.length)
    (unread : scanField (data.drop position) = none) :
    ∃ result, decodeDataEnvelopeStep data (position, env) = .done result ∧
      ∀ decoded, result ≠ .ok decoded := by
  obtain ⟨result, step, ends⟩ := decodeDataEnvelopeStep_stuck held env inside unread
  refine ⟨result, step, ?_⟩
  rcases ends with ⟨_, rfl⟩ | ⟨_, message, rfl⟩ <;> simp

-- The decoder accepts what reads as fields, and folds them.
theorem decodeDataEnvelope_ok_iff {data : List UInt8} (held : data.length < 2 ^ 63)
    (decoded : Envelope) :
    decodeDataEnvelope data = .ok decoded ↔
      ∃ fields, Reads data fields ∧ fields.foldl Envelope.apply .empty = decoded := by
  have field_step : ∀ position field length env, position < data.length →
      scanField (data.drop position) = some (field, length) →
      decodeDataEnvelopeStep data (position, env) = .next (position + length, env.apply field) :=
    fun _ _ _ env inside scanned => decodeDataEnvelopeStep_scan held env inside scanned
  have walk {fields : List Field} (reads : Reads data fields) :
      decodeDataEnvelope data = .ok (fields.foldl Envelope.apply .empty) := by
    have result : loop (decodeDataEnvelopeStep data) (data.length + 1) (0, .empty) =
        some (.ok (fields.foldl Envelope.apply .empty)) :=
      loop_reads _ Prod.mk Envelope.apply .ok data field_step
        (fun env => by simp [decodeDataEnvelopeStep]) (by rwa [List.drop_zero]) (Nat.zero_le _)
        (Nat.lt_succ_self _)
    rw [decodeDataEnvelope, result]
    rfl
  constructor
  · intro accepted
    by_cases readable : ∃ fields, Reads data fields
    · obtain ⟨fields, reads⟩ := readable
      rw [walk reads] at accepted
      exact ⟨fields, reads, Outcome.ok.inj accepted⟩
    · obtain ⟨result, stopped, rejected⟩ : ∃ result,
          loop (decodeDataEnvelopeStep data) (data.length + 1) (0, .empty) = some result ∧
            ∀ decoded, result ≠ .ok decoded :=
        loop_rejects _ Prod.mk Envelope.apply data field_step
          (fun _ env inside unread => decodeDataEnvelopeStep_fail held env inside unread)
          (fun fields reads => readable ⟨fields, reads⟩) (Nat.zero_le _) (Nat.lt_succ_self _)
      rw [decodeDataEnvelope, stopped] at accepted
      exact absurd accepted (rejected decoded)
  · rintro ⟨fields, reads, rfl⟩
    exact walk reads

theorem apply_delimited (env : Envelope) (field : Field) :
    (env.apply field).vehicleID = keepDelimited 1 env.vehicleID field ∧
    (env.apply field).fleetID = keepDelimited 16 env.fleetID field ∧
    (env.apply field).orgID = keepDelimited 17 env.orgID field := by
  obtain ⟨number, payload⟩ := field
  cases payload with
  | varint val => simp only [Envelope.apply, Envelope.setVarint, keepDelimited]; split <;> simp
  | fixed64 bits => simp only [Envelope.apply, Envelope.setFixed64, keepDelimited]; split <;> simp
  | delimited b => simp only [Envelope.apply, Envelope.setBytes, keepDelimited]; split <;> simp_all
  | fixed32 bits => simp only [Envelope.apply, Envelope.setFixed32, keepDelimited]; split <;> simp

theorem foldl_delimited (fields : List Field) :
    (fields.foldl Envelope.apply .empty).vehicleID = lastDelimited 1 fields ∧
    (fields.foldl Envelope.apply .empty).fleetID = lastDelimited 16 fields ∧
    (fields.foldl Envelope.apply .empty).orgID = lastDelimited 17 fields :=
  ⟨(List.foldl_hom Envelope.vehicleID fun env field => (apply_delimited env field).1.symm).symm,
    (List.foldl_hom Envelope.fleetID fun env field => (apply_delimited env field).2.1.symm).symm,
    (List.foldl_hom Envelope.orgID fun env field => (apply_delimited env field).2.2.symm).symm⟩

/-- The names that the fields from 16 on carry. -/
def names (env : Envelope) : List GoString :=
  [env.fleetID, env.orgID, env.streamName, env.senderID, env.senderType, env.receiverID,
    env.receiverType]

theorem apply_names (env : Envelope) {field : Field} (low : field.number < 16) :
    names (env.apply field) = names env := by
  obtain ⟨number, payload⟩ := field
  have low : number < 16 := low
  cases payload with
  | varint val => simp only [Envelope.apply, Envelope.setVarint]; split <;> rfl
  | fixed64 bits => simp only [Envelope.apply, Envelope.setFixed64]; split <;> rfl
  | delimited b => simp only [Envelope.apply, Envelope.setBytes]; split <;> first | rfl | omega
  | fixed32 bits => simp only [Envelope.apply, Envelope.setFixed32]; split <;> rfl

theorem foldl_names (fields : List Field) (env : Envelope)
    (low : ∀ field ∈ fields, field.number < 16) :
    names (fields.foldl Envelope.apply env) = names env := by
  induction fields generalizing env with
  | nil => rfl
  | cons field rest ih =>
    rw [List.foldl_cons, ih _ fun other member => low other (List.mem_cons_of_mem _ member),
      apply_names env (low field (by simp))]

end SystemScale.Cloud
