import SystemScale.Agent.CommandCodec
import SystemScale.Lib.WellFormed

set_option autoImplicit false

/-!
# What `decode_command_envelope` makes of any bytes

It reads the complete fields at the front. What stands behind them is refused, or ends the loop as
the end of the buffer does, or panics.
-/

namespace SystemScale.Agent

open AdapterTrait Wire

namespace CommandEnvelope

/-- The fields that the decoder knows: `value` gives what is picked, or the old value. -/
def collect (value : {A : Type} → (Field → Option A) → A → A) (env : CommandEnvelope) :
    CommandEnvelope where
  vehicleId := value (fun field => (field.delimited? 1).map Utf8.lossy) env.vehicleId
  commandId := value (fun field => (field.delimited? 2).map Utf8.lossy) env.commandId
  payload := value (Field.delimited? 3) env.payload
  priority := value (fun field => (field.varint? 4).map priorityOf) env.priority
  ttlMs := value (fun field => (field.varint? 7).map UInt64.toUInt32) env.ttlMs

/-- The last value of each field that the decoder knows. -/
def ofFields (fields : List Field) : CommandEnvelope :=
  collect (fun pick absent => last pick absent fields) emptyCommandEnvelope

theorem apply_eq (env : CommandEnvelope) (field : Field) :
    apply env field = collect (fun pick old => (pick field).getD old) env := by
  obtain ⟨number, payload⟩ := field
  unfold collect
  cases payload with
  | varint value =>
    simp only [apply, setVarint, Field.varint?, Field.delimited?]
    split <;> simp_all
  | fixed64 bits => rfl
  | delimited data =>
    simp only [apply, setDelimited, Field.varint?, Field.delimited?]
    split <;> simp_all
  | fixed32 bits => rfl

theorem foldl_eq (env : CommandEnvelope) (fields : List Field) :
    fields.foldl apply env = collect (fun pick absent => last pick absent fields) env := by
  induction fields generalizing env with
  | nil => rfl
  | cons field rest ih => rw [List.foldl_cons, ih, apply_eq]; simp only [collect, last_cons]

/-- The two ids are there. -/
def Named (env : CommandEnvelope) : Prop := env.vehicleId ≠ "" ∧ env.commandId ≠ ""

end CommandEnvelope

/-! ## Rounds -/

section Rounds

variable {buf : List UInt8} {pos length : Nat} {field : Field}

/-- A tag stands at `pos`, of no varint and no length-delimited field. -/
def StopsQuietly (buf : List UInt8) (pos : Nat) : Prop :=
  ∃ tag tagLength, Varint.read (buf.drop pos) = .value tag tagLength ∧
    (tag &&& 0x7).toNat ≠ 0 ∧ (tag &&& 0x7).toNat ≠ 2

/-- What comes of the first bytes that are no complete field. -/
inductive AtStop (buf : List UInt8) (pos : Nat) (env : CommandEnvelope) :
    Outcome CommandEnvelope → Prop where
  | panics (past : EndsPast (2 ^ 64) buf pos) : AtStop buf pos env .panic
  | refused (short : ¬ EndsPast (2 ^ 64) buf pos) (loud : ¬ StopsQuietly buf pos)
      (inside : pos < buf.length) (message : String) : AtStop buf pos env (.err message)
  | ended (short : ¬ EndsPast (2 ^ 64) buf pos) (quiet : pos = buf.length ∨ StopsQuietly buf pos) :
      AtStop buf pos env (finishCommandEnvelope env)

theorem stopsQuietly_iff {tag : UInt64} {tagLength : Nat}
    (read : Varint.read (buf.drop pos) = .value tag tagLength) :
    StopsQuietly buf pos ↔ (tag &&& 0x7).toNat ≠ 0 ∧ (tag &&& 0x7).toNat ≠ 2 := by
  constructor
  · rintro ⟨_, _, same, quiet⟩
    rw [read] at same
    cases same
    exact quiet
  · intro quiet
    exact ⟨tag, tagLength, read, quiet⟩

theorem not_stopsQuietly (unread : ∀ tag tagLength, Varint.read (buf.drop pos) ≠ .value tag tagLength) :
    ¬ StopsQuietly buf pos := by
  rintro ⟨tag, tagLength, read, _⟩
  exact unread tag tagLength read

theorem decodeCommandEnvelopeStep_behind (env : CommandEnvelope) (behind : buf.length ≤ pos) :
    decodeCommandEnvelopeStep buf (pos, env) = .done (finishCommandEnvelope env) := by
  rw [decodeCommandEnvelopeStep, if_neg (by omega)]

theorem protoReadVarint_fails {start : Nat}
    (unread : ∀ word length, Varint.read (buf.drop start) ≠ .value word length) :
    ∃ message, protoReadVarint buf start = .err message := by
  unfold protoReadVarint
  split
  next value => exact absurd value (unread _ _)
  next => exact ⟨_, rfl⟩
  next => exact ⟨_, rfl⟩

-- A field of fixed size that is cut ends the loop.
theorem returns_behind {state : Nat × CommandEnvelope} {later : Nat} {env : CommandEnvelope}
    (going : decodeCommandEnvelopeStep buf state = .next (later, env))
    (behind : buf.length ≤ later) :
    Returns (decodeCommandEnvelopeStep buf) state (finishCommandEnvelope env) :=
  .next going (decodeCommandEnvelopeStep_behind env behind)

-- A length-delimited field of which a part is missing.
theorem decodeCommandEnvelopeStep_cut {tag : UInt64} {tagLength : Nat}
    (held : buf.length < 2 ^ 63) (env : CommandEnvelope) (inside : pos < buf.length)
    (read : Varint.read (buf.drop pos) = .value tag tagLength) (delimited : (tag &&& 0x7).toNat = 2)
    (cut : ∀ data size, ¬ Content buf (pos + tagLength) (.delimited data) size) :
    ∃ result, AtStop buf pos env result ∧ decodeCommandEnvelopeStep buf (pos, env) = .done result := by
  have tagged : protoReadVarint buf pos = .ok (tag, pos + tagLength) := by
    rw [protoReadVarint, read]
  have loud : ¬ StopsQuietly buf pos := fun stops => ((stopsQuietly_iff read).mp stops).2 delimited
  have refuses {message : String} (none : delimitedAt buf pos = none) :
      AtStop buf pos env (.err message) := .refused (not_endsPast none) loud inside message
  rw [decodeCommandEnvelopeStep, if_pos inside, tagged]
  simp only [orReturn, delimited]
  cases value : Varint.read (buf.drop (pos + tagLength)) with
  | value count countLength =>
    have tag_bounds := Varint.read_bounds read
    have bounds := Varint.read_bounds value
    rw [List.length_drop] at tag_bounds bounds
    have short : buf.length < pos + tagLength + countLength + count.toNat := by
      by_contra long
      exact cut _ _ (.delimited value (by omega))
    have word := count.toNat_lt
    have sum := wrapped_sum (show pos + tagLength + countLength < 2 ^ 64 by omega) word
    have counted : protoReadVarint buf (pos + tagLength) =
        .ok (count, pos + tagLength + countLength) := by rw [protoReadVarint, value]
    have past := endsPast_iff (2 ^ 64) read delimited value
    simp only [protoReadLenDelim, counted, sum]
    by_cases wrapped : 2 ^ 64 ≤ pos + tagLength + countLength + count.toNat
    · rw [if_pos wrapped, if_neg (by omega), if_pos (by omega)]
      exact ⟨_, .panics (past.mpr wrapped), rfl⟩
    · rw [if_neg wrapped, if_pos (by omega)]
      exact ⟨_, .refused (mt past.mp wrapped) loud inside _, rfl⟩
  | truncated =>
    simp only [protoReadLenDelim, protoReadVarint, value]
    exact ⟨_, refuses (no_length read (by simp [value])), rfl⟩
  | overflow =>
    simp only [protoReadLenDelim, protoReadVarint, value]
    exact ⟨_, refuses (no_length read (by simp [value])), rfl⟩

theorem decodeCommandEnvelopeStep_stuck (held : buf.length < 2 ^ 63) (env : CommandEnvelope)
    (inside : pos < buf.length) (unread : scanField (buf.drop pos) = none) :
    ∃ result, AtStop buf pos env result ∧
      Returns (decodeCommandEnvelopeStep buf) (pos, env) result := by
  by_cases tagged : ∃ tag tagLength, Varint.read (buf.drop pos) = .value tag tagLength
  · obtain ⟨tag, tagLength, read⟩ := tagged
    have cut {payload : Payload} {size : Nat} (content : Content buf (pos + tagLength) payload size)
        (kind : (tag &&& 0x7).toNat = payload.wireType) : False := by
      have complete := content.scanField read kind
      rw [unread] at complete
      cases complete
    have known : protoReadVarint buf pos = .ok (tag, pos + tagLength) := by
      rw [protoReadVarint, read]
    by_cases delimited : (tag &&& 0x7).toNat = 2
    · obtain ⟨result, at_stop, ended⟩ := decodeCommandEnvelopeStep_cut held env inside read delimited
        fun _ _ content => cut content delimited
      exact ⟨result, at_stop, .now ended⟩
    have short : ¬ EndsPast (2 ^ 64) buf pos := not_endsPast (delimitedAt_other read delimited)
    have quiet := stopsQuietly_iff read
    by_cases zero : (tag &&& 0x7).toNat = 0
    · have loud : ¬ StopsQuietly buf pos := fun stops => (quiet.mp stops).1 zero
      have untold : ∀ word length, Varint.read (buf.drop (pos + tagLength)) ≠ .value word length :=
        fun word length value => cut (.varint value) zero
      obtain ⟨message, fails⟩ := protoReadVarint_fails untold
      have step : decodeCommandEnvelopeStep buf (pos, env) = .done (.err message) := by
        rw [decodeCommandEnvelopeStep, if_pos inside, known]
        simp only [orReturn, zero, fails]
      exact ⟨_, .refused short loud inside message, .now step⟩
    have at_stop : AtStop buf pos env (finishCommandEnvelope env) :=
      .ended short (.inr (quiet.mpr ⟨zero, delimited⟩))
    by_cases one : (tag &&& 0x7).toNat = 1
    · have step : decodeCommandEnvelopeStep buf (pos, env) = .next (pos + tagLength + 8, env) := by
        rw [decodeCommandEnvelopeStep, if_pos inside, known]
        simp only [orReturn, one]
      have behind : buf.length ≤ pos + tagLength + 8 := by
        by_contra whole
        exact cut (.fixed64 (by omega)) one
      exact ⟨_, at_stop, returns_behind step behind⟩
    by_cases five : (tag &&& 0x7).toNat = 5
    · have step : decodeCommandEnvelopeStep buf (pos, env) = .next (pos + tagLength + 4, env) := by
        rw [decodeCommandEnvelopeStep, if_pos inside, known]
        simp only [orReturn, five]
      have behind : buf.length ≤ pos + tagLength + 4 := by
        by_contra whole
        exact cut (.fixed32 (by omega)) five
      exact ⟨_, at_stop, returns_behind step behind⟩
    · have step : decodeCommandEnvelopeStep buf (pos, env) = .done (finishCommandEnvelope env) := by
        rw [decodeCommandEnvelopeStep, if_pos inside, known]
        simp only [orReturn]
      exact ⟨_, at_stop, .now step⟩
  · have untagged : ∀ tag tagLength, Varint.read (buf.drop pos) ≠ .value tag tagLength :=
      fun tag tagLength read => tagged ⟨tag, tagLength, read⟩
    obtain ⟨message, fails⟩ := protoReadVarint_fails untagged
    have step : decodeCommandEnvelopeStep buf (pos, env) = .done (.err message) := by
      rw [decodeCommandEnvelopeStep, if_pos inside, fails]
      rfl
    exact ⟨_, .refused (not_endsPast (no_tag untagged)) (not_stopsQuietly untagged) inside message,
      .now step⟩

end Rounds

/-! ## Runs -/

/-- An error, or the last values of a well-formed message that has both ids. -/
def ReadsExactly (buf : List UInt8) : Prop :=
  (∃ message, decodeCommandEnvelope buf = .err message) ∨
    ∃ fields, WellFormed buf fields ∧ CommandEnvelope.Named (CommandEnvelope.ofFields fields) ∧
      decodeCommandEnvelope buf = .ok (CommandEnvelope.ofFields fields)

section Runs

variable {buf : List UInt8} {fields : List Field} {pos : Nat}

theorem decodeCommandEnvelope_returns {state : Nat × CommandEnvelope}
    {result : Outcome CommandEnvelope}
    (visited : Visits (decodeCommandEnvelopeStep buf) (0, emptyCommandEnvelope) state)
    (returns : Returns (decodeCommandEnvelopeStep buf) state result) :
    decodeCommandEnvelope buf = result := by
  have returned := visited.returns (fun state => buf.length - state.1)
    (fun _ _ going => decodeCommandEnvelopeStep_shrinks going)
    (show buf.length - 0 < buf.length + 1 by omega) returns
  rw [decodeCommandEnvelope, returned]
  rfl

theorem foldl_applyCast (fields : List Field) :
    fields.foldl applyCast emptyCommandEnvelope =
      CommandEnvelope.ofFields (fields.map Field.castNumber) := by
  rw [CommandEnvelope.ofFields, ← CommandEnvelope.foldl_eq, List.foldl_map]
  rfl

-- What comes of the first bytes that are no field comes of the decoder.
theorem decodeCommandEnvelope_atStop (held : buf.length < 2 ^ 63) (reads : ReadsTo buf fields pos)
    (unread : scanField (buf.drop pos) = none) :
    AtStop buf pos (CommandEnvelope.ofFields (fields.map Field.castNumber))
      (decodeCommandEnvelope buf) := by
  have visited : Visits (decodeCommandEnvelopeStep buf) (0, emptyCommandEnvelope)
      (pos, fields.foldl applyCast emptyCommandEnvelope) :=
    ReadsTo.visits (fun pos env => (pos, env)) (fun _ _ _ env _ inside scanned =>
      decodeCommandEnvelopeStep_scan held env inside scanned) reads
  rw [foldl_applyCast] at visited
  rcases Nat.lt_or_ge pos buf.length with inside | reached
  · obtain ⟨result, at_stop, returns⟩ := decodeCommandEnvelopeStep_stuck held
      (CommandEnvelope.ofFields (fields.map Field.castNumber)) inside unread
    rwa [decodeCommandEnvelope_returns visited returns]
  · rw [decodeCommandEnvelope_returns visited (.now (decodeCommandEnvelopeStep_behind _ reached))]
    exact .ended (fun past => absurd past.inside (by omega))
      (.inl (Nat.le_antisymm reads.inside reached))

theorem finishCommandEnvelope_named {env : CommandEnvelope} (named : CommandEnvelope.Named env) :
    finishCommandEnvelope env = .ok env := by
  rw [finishCommandEnvelope, if_neg named.1, if_neg named.2]

theorem finishCommandEnvelope_unnamed {env : CommandEnvelope} (unnamed : ¬ CommandEnvelope.Named env) :
    ∃ message, finishCommandEnvelope env = .err message := by
  unfold finishCommandEnvelope
  split_ifs with vehicle command
  · exact ⟨_, rfl⟩
  · exact ⟨_, rfl⟩
  · exact absurd ⟨vehicle, command⟩ unnamed

/-- The decoder reads exactly, unless a sum of 64 bits wraps, or the two ids are there before
bytes that end the loop early or among fields of numbers that are not legal. -/
theorem command_reads_exactly_iff (held : buf.length < 2 ^ 63) :
    ReadsExactly buf ↔
      ∀ fields pos, ReadsTo buf fields pos → scanField (buf.drop pos) = none →
        ¬ EndsPast (2 ^ 64) buf pos ∧
        (CommandEnvelope.Named (CommandEnvelope.ofFields (fields.map Field.castNumber)) →
          ¬ StopsQuietly buf pos ∧ (pos = buf.length → ∀ field ∈ fields, field.Legal)) := by
  constructor
  · intro exactly fields pos reads unread
    have at_stop := decodeCommandEnvelope_atStop held reads unread
    unfold ReadsExactly at exactly
    generalize decodeCommandEnvelope buf = outcome at exactly at_stop
    cases at_stop with
    | panics past => simp at exactly
    | refused short loud inside message =>
      exact ⟨short, fun _ => ⟨loud, fun reached => by omega⟩⟩
    | ended short quiet =>
      refine ⟨short, fun named => ?_⟩
      rw [finishCommandEnvelope_named named] at exactly
      rcases exactly with ⟨message, refused⟩ | ⟨whole, formed, _, _⟩
      · simp at refused
      · obtain ⟨rfl, reached⟩ := reads.stuck unread formed.1
        refine ⟨?_, fun _ => formed.2⟩
        rintro ⟨tag, tagLength, read, _⟩
        have bounds := Varint.read_bounds read
        rw [List.length_drop] at bounds
        omega
  · intro careful
    obtain ⟨fields, pos, reads, unread⟩ := readsTo_ends buf
    have at_stop := decodeCommandEnvelope_atStop held reads unread
    obtain ⟨short, complete⟩ := careful fields pos reads unread
    unfold ReadsExactly
    generalize decodeCommandEnvelope buf = outcome at at_stop
    cases at_stop with
    | panics past => exact absurd past short
    | refused _ _ _ message => exact .inl ⟨message, rfl⟩
    | ended _ quiet =>
      by_cases named : CommandEnvelope.Named (CommandEnvelope.ofFields (fields.map Field.castNumber))
      · obtain ⟨loud, legal⟩ := complete named
        have reached := quiet.resolve_right loud
        have numbers := legal reached
        subst reached
        rw [Field.map_castNumber numbers] at named ⊢
        exact .inr ⟨fields, ⟨reads.reads, numbers⟩, named, finishCommandEnvelope_named named⟩
      · exact .inl (finishCommandEnvelope_unnamed named)

end Runs

/-- Vehicle `v` and command `c`. -/
def shortCommand : List UInt8 := [0x0A, 0x01, 0x76, 0x12, 0x01, 0x63]

theorem shortCommand_read : ReadsExactly shortCommand := by
  refine (command_reads_exactly_iff (by decide)).mpr ?_
  intro fields pos reads unread
  have first : scanField shortCommand = some (⟨1, .delimited [0x76]⟩, 3) := rfl
  have second : scanField [0x12, 0x01, 0x63] = some (⟨2, .delimited [0x63]⟩, 3) := rfl
  have whole : Reads shortCommand [⟨1, .delimited [0x76]⟩, ⟨2, .delimited [0x63]⟩] :=
    .cons first (.cons second .nil)
  obtain ⟨same, rfl⟩ := reads.stuck unread whole
  refine ⟨fun past => absurd past.inside (by omega), fun _ => ⟨?_, fun _ field member => ?_⟩⟩
  · refine not_stopsQuietly fun tag tagLength => ?_
    rw [List.drop_length]
    simp [Varint.read, Varint.readLoop]
  · rw [← same, List.mem_cons, List.mem_singleton] at member
    rcases member with rfl | rfl
    · exact ⟨by decide, by decide⟩
    · exact ⟨by decide, by decide⟩

/-- A field of eight bytes of which one is there, and a field that says it has 2^64 - 1 bytes. -/
theorem cut_field_accepted :
    (decodeCommandEnvelope (shortCommand ++ [0x29, 0x00]) = .ok ⟨"v", "c", [], .normal, 0⟩ ∧
      ¬ ReadsExactly (shortCommand ++ [0x29, 0x00])) ∧
    decodeCommandEnvelope
        [0x0A, 0xFF, 0xFF, 0xFF, 0xFF, 0xFF, 0xFF, 0xFF, 0xFF, 0xFF, 0x01] = .panic := by
  have accepted : decodeCommandEnvelope (shortCommand ++ [0x29, 0x00]) =
      .ok ⟨"v", "c", [], .normal, 0⟩ := by decide
  refine ⟨⟨accepted, ?_⟩, by decide⟩
  rintro (⟨message, refused⟩ | ⟨fields, formed, _, _⟩)
  · rw [accepted] at refused
    simp at refused
  · have first : scanField (shortCommand ++ [0x29, 0x00]) =
        some (⟨1, .delimited [0x76]⟩, 3) := rfl
    have second : scanField ((shortCommand ++ [0x29, 0x00]).drop (0 + 3)) =
        some (⟨2, .delimited [0x63]⟩, 3) := rfl
    have front := (ReadsTo.start.next first).next second
    have reached := (front.stuck rfl formed.1).2
    exact absurd reached (by decide)

end SystemScale.Agent
