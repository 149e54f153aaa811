import SystemScale.Cloud.IngestCodec

set_option autoImplicit false

/-! # What telemetry-ingest makes of any bytes -/

namespace SystemScale.Cloud

open Wire

namespace Envelope

/-- The fields that the decoder knows: `value` gives what is picked, or the old value. -/
def collect (value : {A : Type} → (Field → Option A) → A → A) (env : Envelope) : Envelope where
  vehicleID := value (Field.delimited? 1) env.vehicleID
  timestampNs := value (Field.varint? 2) env.timestampNs
  streamType := value (Field.varint? 3) env.streamType
  payload := value (Field.delimited? 4) env.payload
  lat := value (Field.fixed64? 5) env.lat
  lon := value (Field.fixed64? 6) env.lon
  alt := value (Field.fixed32? 7) env.alt
  seq := value (Field.varint? 8) env.seq
  fleetID := value (Field.delimited? 16) env.fleetID
  orgID := value (Field.delimited? 17) env.orgID
  streamName := value (Field.delimited? 18) env.streamName
  senderID := value (Field.delimited? 19) env.senderID
  senderType := value (Field.delimited? 20) env.senderType
  receiverID := value (Field.delimited? 21) env.receiverID
  receiverType := value (Field.delimited? 22) env.receiverType

/-- The last value of each field that the decoder knows. -/
def ofFields (fields : List Field) : Envelope :=
  collect (fun pick absent => last pick absent fields) empty

theorem apply_eq (env : Envelope) (field : Field) :
    env.apply field = collect (fun pick old => (pick field).getD old) env := by
  obtain ⟨number, payload⟩ := field
  unfold collect
  cases payload with
  | varint val =>
    simp only [apply, setVarint, Field.varint?, Field.fixed64?, Field.delimited?, Field.fixed32?]
    split <;> simp_all
  | fixed64 bits =>
    simp only [apply, setFixed64, Field.varint?, Field.fixed64?, Field.delimited?, Field.fixed32?]
    split <;> simp_all
  | delimited b =>
    simp only [apply, setBytes, Field.varint?, Field.fixed64?, Field.delimited?, Field.fixed32?]
    split <;> simp_all
  | fixed32 bits =>
    simp only [apply, setFixed32, Field.varint?, Field.fixed64?, Field.delimited?, Field.fixed32?]
    split <;> simp_all

theorem foldl_eq (env : Envelope) (fields : List Field) :
    fields.foldl apply env = collect (fun pick absent => last pick absent fields) env := by
  induction fields generalizing env with
  | nil => rfl
  | cons field rest ih => rw [List.foldl_cons, ih, apply_eq]; simp only [collect, last_cons]

end Envelope

/-! ## What the decoder owes its caller -/

/-- An error, or the last values of a well-formed message; and no round moves the position back. -/
def ReadsExactly (data : List UInt8) : Prop :=
  ((∃ message, decodeDataEnvelope data = .err message) ∨
    ∃ fields, WellFormed data fields ∧ decodeDataEnvelope data = .ok (Envelope.ofFields fields)) ∧
  ∀ state later, Visits (decodeDataEnvelopeStep data) (0, .empty) state →
    decodeDataEnvelopeStep data state = .next later → state.1 ≤ later.1

theorem decodeDataEnvelopeStep_ahead {data : List UInt8} {state later : Nat × Envelope}
    (held : data.length < 2 ^ 63) (step : decodeDataEnvelopeStep data state = .next later) :
    state.1 < later.1 ∧ state.1 < data.length := by
  obtain ⟨pos, env⟩ := state
  by_cases inside : pos < data.length
  · refine ⟨?_, inside⟩
    cases scanned : scanField (data.drop pos) with
    | none =>
      obtain ⟨result, stuck, _⟩ := decodeDataEnvelopeStep_stuck held env inside scanned
      rw [stuck] at step
      cases step
    | some pair =>
      rw [decodeDataEnvelopeStep_scan held env inside scanned] at step
      cases step
      exact Nat.lt_add_of_pos_right (scanField_bounds scanned).1
  · rw [decodeDataEnvelopeStep, if_neg inside] at step
    cases step

section Front

variable {data : List UInt8} {fields : List Field} {pos : Nat}

theorem visits_envelope (held : data.length < 2 ^ 63) (reads : ReadsTo data fields pos) :
    Visits (decodeDataEnvelopeStep data) (0, .empty) (pos, fields.foldl Envelope.apply .empty) :=
  ReadsTo.visits (fun pos env => (pos, env))
    (fun _ _ _ env _ inside scanned => decodeDataEnvelopeStep_scan held env inside scanned) reads

-- What comes of the round in which no field can be read comes of the decoder.
theorem decodeDataEnvelope_done (held : data.length < 2 ^ 63) {result : Outcome Envelope}
    (reads : ReadsTo data fields pos)
    (ended : decodeDataEnvelopeStep data (pos, fields.foldl Envelope.apply .empty) = .done result) :
    decodeDataEnvelope data = result := by
  have returned := (visits_envelope held reads).returns (fun state => data.length - state.1)
    (fun _ _ step => by have := decodeDataEnvelopeStep_ahead held step; omega)
    (show data.length - 0 < data.length + 1 by omega) (.now ended)
  rw [decodeDataEnvelope, returned]
  rfl

theorem decodeDataEnvelope_reads (held : data.length < 2 ^ 63)
    (reads : ReadsTo data fields data.length) :
    decodeDataEnvelope data = .ok (Envelope.ofFields fields) := by
  rw [Envelope.ofFields, ← Envelope.foldl_eq]
  exact decodeDataEnvelope_done held reads (by simp [decodeDataEnvelopeStep])

-- What does not read as fields is refused, where no length reaches 2^63.
theorem decodeDataEnvelope_refuses (held : data.length < 2 ^ 63)
    (short : ∀ fields pos, ReadsTo data fields pos → ¬ EndsPast (2 ^ 63) data pos)
    (unread : ¬ ∃ fields, Reads data fields) : ∃ message, decodeDataEnvelope data = .err message := by
  obtain ⟨fields, pos, reads, stops⟩ := readsTo_ends data
  have inside : pos < data.length := by
    refine lt_of_le_of_ne reads.inside fun reached => unread ⟨fields, ?_⟩
    subst reached
    exact reads.reads
  obtain ⟨result, step, ends⟩ := decodeDataEnvelopeStep_stuck held
    (fields.foldl Envelope.apply .empty) inside stops
  rcases ends with ⟨past, _⟩ | ⟨_, message, rfl⟩
  · exact absurd past (short fields pos reads)
  · exact ⟨message, decodeDataEnvelope_done held reads step⟩

/-- The decoder reads exactly, unless a length reaches 2^63 or a field has no legal number. -/
theorem reads_exactly_iff (held : data.length < 2 ^ 63) :
    ReadsExactly data ↔
      (∀ fields pos, ReadsTo data fields pos → ¬ EndsPast (2 ^ 63) data pos) ∧
      ∀ fields, Reads data fields → ∀ field ∈ fields, field.Legal := by
  constructor
  · rintro ⟨answer, _⟩
    constructor
    · intro fields pos reads past
      obtain ⟨result, step, ends⟩ := decodeDataEnvelopeStep_stuck held
        (fields.foldl Envelope.apply .empty) past.inside (past.unread held)
      have panics : decodeDataEnvelope data = .panic := by
        rcases ends with ⟨_, rfl⟩ | ⟨short, _⟩
        · exact decodeDataEnvelope_done held reads step
        · exact absurd past short
      rw [panics] at answer
      simp at answer
    · intro fields reads
      rw [decodeDataEnvelope_reads held reads.readsTo] at answer
      rcases answer with ⟨message, refused⟩ | ⟨other, formed, _⟩
      · simp at refused
      · rw [reads.unique formed.1]
        exact formed.2
  · rintro ⟨short, legal⟩
    refine ⟨?_, fun _ _ _ step => (decodeDataEnvelopeStep_ahead held step).1.le⟩
    by_cases readable : ∃ fields, Reads data fields
    · obtain ⟨fields, reads⟩ := readable
      exact .inr ⟨fields, ⟨reads, legal fields reads⟩, decodeDataEnvelope_reads held reads.readsTo⟩
    · exact .inl (decodeDataEnvelope_refuses held short readable)

end Front

theorem event_type_read : ReadsExactly [0x18, 0x02] := by
  refine (reads_exactly_iff (by decide)).mpr ⟨?_, ?_⟩
  · intro fields pos _ past
    have inside := past.inside
    refine not_endsPast ?_ past
    match pos, inside with
    | 0, _ => rfl
    | 1, _ => rfl
  · intro fields reads field member
    have scanned : scanField [0x18, 0x02] = some (⟨3, .varint 2⟩, 2) := rfl
    have one : Reads [0x18, 0x02] [⟨3, .varint 2⟩] := .cons scanned .nil
    rw [reads.unique one, List.mem_singleton] at member
    subst member
    exact ⟨by decide, by decide⟩

/-- A vehicle id that says it has 2^64 - 1 bytes. -/
def boundless : List UInt8 :=
  [0x0A, 0xFF, 0xFF, 0xFF, 0xFF, 0xFF, 0xFF, 0xFF, 0xFF, 0xFF, 0x01]

theorem boundless_panics : decodeDataEnvelope boundless = .panic ∧ ¬ ReadsExactly boundless := by
  have panics : decodeDataEnvelope boundless = .panic := by decide
  refine ⟨panics, ?_⟩
  rintro ⟨answer, _⟩
  rw [panics] at answer
  simp at answer

end SystemScale.Cloud
