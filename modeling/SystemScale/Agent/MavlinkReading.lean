import SystemScale.Agent.Mavlink
import SystemScale.Lib.Groups

set_option autoImplicit false

/-!
# What `decode_mavlink_command` makes of any payload

It reads the varints and the fields of fixed size at the front, and returns what it has at a
length-delimited field, a group or the end.
-/

namespace SystemScale.Agent.Mavlink

open Wire

namespace MavlinkCommandDecoded

def apply (cmd : MavlinkCommandDecoded) (field : Field) : MavlinkCommandDecoded :=
  match field.payload with
  | .varint v => if field.number = 1 then { cmd with command := v.toUInt32 } else cmd
  | .fixed32 v => cmd.setParam field.number v
  | .fixed64 _ => cmd
  | .delimited _ => cmd

/-- The fields that the decoder knows: `value` gives what is picked, or the old value. -/
def collect (value : {A : Type} → (Field → Option A) → A → A) (cmd : MavlinkCommandDecoded) :
    MavlinkCommandDecoded where
  command := value (fun field => (field.varint? 1).map UInt64.toUInt32) cmd.command
  param1 := value (Field.fixed32? 2) cmd.param1
  param2 := value (Field.fixed32? 3) cmd.param2
  param3 := value (Field.fixed32? 4) cmd.param3
  param4 := value (Field.fixed32? 5) cmd.param4
  param5 := value (Field.fixed32? 6) cmd.param5
  param6 := value (Field.fixed32? 7) cmd.param6
  param7 := value (Field.fixed32? 8) cmd.param7

/-- The last value of each field that the decoder knows. -/
def ofFields (fields : List Field) : MavlinkCommandDecoded :=
  collect (fun pick absent => last pick absent fields) ⟨0, 0, 0, 0, 0, 0, 0, 0⟩

theorem apply_eq (cmd : MavlinkCommandDecoded) (field : Field) :
    cmd.apply field = cmd.collect (fun pick old => (pick field).getD old) := by
  obtain ⟨number, payload⟩ := field
  unfold collect
  cases payload with
  | varint v =>
    simp only [apply, Field.varint?, Field.fixed32?]
    split_ifs <;> rfl
  | fixed64 bits => rfl
  | delimited part => rfl
  | fixed32 v =>
    simp only [apply, setParam, Field.varint?, Field.fixed32?]
    split <;> simp_all

theorem foldl_eq (cmd : MavlinkCommandDecoded) (fields : List Field) :
    fields.foldl apply cmd = cmd.collect (fun pick absent => last pick absent fields) := by
  induction fields generalizing cmd with
  | nil => rfl
  | cons field rest ih => rw [List.foldl_cons, ih, apply_eq]; simp only [collect, last_cons]

theorem setParam_other {cmd : MavlinkCommandDecoded} {field : Nat} {v : UInt32}
    (other : ¬ (2 ≤ field ∧ field ≤ 8)) : cmd.setParam field v = cmd := by
  unfold setParam
  split <;> first | omega | rfl

end MavlinkCommandDecoded

/-- No length-delimited field. -/
def Plain (field : Field) : Prop := ∀ part, field.payload ≠ .delimited part

/-! ## Rounds -/

section Rounds

variable {payload : List UInt8} {pos length : Nat}

theorem readVarint_value {word : UInt64} (read : Varint.read (payload.drop pos) = .value word length) :
    readVarint payload pos = .ok (word, pos + length) := by
  rw [readVarint, read]

theorem readVarint_fails (unread : ∀ word length, Varint.read (payload.drop pos) ≠ .value word length) :
    ∃ e, readVarint payload pos = .error e := by
  unfold readVarint
  split
  next read => exact absurd read (unread _ _)
  next => exact ⟨_, rfl⟩
  next => exact ⟨_, rfl⟩

theorem decodeMavlinkCommandStep_scan {field : Field} (cmd : MavlinkCommandDecoded)
    (plain : Plain field) (inside : pos < payload.length)
    (scanned : scanField (payload.drop pos) = some (field, length)) :
    decodeMavlinkCommandStep payload (pos, cmd) =
      .next (pos + length, cmd.apply field.castNumber) := by
  obtain ⟨number, value⟩ := field
  obtain ⟨tag, tagLength, size, read, same, kind, content, rfl⟩ := scanField_content32 scanned
  rw [decodeMavlinkCommandStep, if_pos inside, readVarint_value read]
  simp only [same, kind]
  cases content with
  | @varint word _ value =>
    have applied : cmd.apply (Field.castNumber ⟨number, .varint word⟩) =
        if number % 2 ^ 32 = 1 then { cmd with command := word.toUInt32 } else cmd := rfl
    simp only [Payload.wireType, readVarint_value value, applied, Nat.add_assoc]
  | fixed64 _ =>
    simp only [Payload.wireType, MavlinkCommandDecoded.apply, Field.castNumber, Nat.add_assoc]
  | delimited _ _ => exact absurd rfl (plain _)
  | fixed32 whole =>
    simp only [Payload.wireType, MavlinkCommandDecoded.apply, Field.castNumber, readF32,
      if_pos whole]
    by_cases param : 2 ≤ number % 2 ^ 32 ∧ number % 2 ^ 32 ≤ 8
    · rw [if_pos param]
      simp only [Nat.add_assoc]
    · rw [if_neg param, MavlinkCommandDecoded.setParam_other param, Nat.add_assoc]

/-- A complete tag stands at `pos`, of no varint and no parameter. -/
def StopsQuietly (payload : List UInt8) (pos : Nat) : Prop :=
  ∃ tag tagLength, Varint.read (payload.drop pos) = .value tag tagLength ∧
    (tag &&& 0x7).toNat ≠ 0 ∧
    ¬ ((tag &&& 0x7).toNat = 5 ∧ 2 ≤ (tag >>> 3).toNat % 2 ^ 32 ∧ (tag >>> 3).toNat % 2 ^ 32 ≤ 8)

theorem stopsQuietly_iff {tag : UInt64} {tagLength : Nat}
    (read : Varint.read (payload.drop pos) = .value tag tagLength) :
    StopsQuietly payload pos ↔ (tag &&& 0x7).toNat ≠ 0 ∧
      ¬ ((tag &&& 0x7).toNat = 5 ∧ 2 ≤ (tag >>> 3).toUInt32.toNat ∧
        (tag >>> 3).toUInt32.toNat ≤ 8) := by
  rw [UInt64.toNat_toUInt32]
  constructor
  · rintro ⟨_, _, same, quiet⟩
    rw [read] at same
    cases same
    exact quiet
  · intro quiet
    exact ⟨tag, tagLength, read, quiet⟩

theorem decodeMavlinkCommandStep_behind (cmd : MavlinkCommandDecoded)
    (behind : payload.length ≤ pos) :
    decodeMavlinkCommandStep payload (pos, cmd) = .done (.ok cmd) := by
  rw [decodeMavlinkCommandStep, if_neg (by omega)]

theorem returns_behind {state : Nat × MavlinkCommandDecoded} {later : Nat}
    {cmd : MavlinkCommandDecoded}
    (going : decodeMavlinkCommandStep payload state = .next (later, cmd))
    (behind : payload.length ≤ later) :
    Returns (decodeMavlinkCommandStep payload) state (.ok cmd) :=
  .next going (decodeMavlinkCommandStep_behind cmd behind)

-- Where no plain field can be read, its content is cut.
theorem stuck_content {tag : UInt64} {tagLength : Nat}
    (read : Varint.read (payload.drop pos) = .value tag tagLength)
    (ends : ∀ field length, scanField (payload.drop pos) = some (field, length) → ¬ Plain field) :
    ((tag &&& 0x7).toNat = 0 →
      ∀ word length, Varint.read (payload.drop (pos + tagLength)) ≠ .value word length) ∧
    ((tag &&& 0x7).toNat = 5 → payload.length < pos + tagLength + 4) ∧
    ((tag &&& 0x7).toNat = 1 → payload.length < pos + tagLength + 8) := by
  have unread {value : Payload} {size : Nat}
      (content : Content payload (pos + tagLength) value size)
      (kind : (tag &&& 0x7).toNat = value.wireType) (plain : ∀ part, value ≠ .delimited part) :
      False := ends _ _ (content.scanField read kind) plain
  refine ⟨fun zero word length value => ?_, fun five => ?_, fun one => ?_⟩
  · exact unread (.varint value) zero (by simp)
  · by_contra long
    exact unread (.fixed32 (by omega)) five (by simp)
  · by_contra long
    exact unread (.fixed64 (by omega)) one (by simp)

theorem decodeMavlinkCommandStep_stuck (cmd : MavlinkCommandDecoded)
    (inside : pos < payload.length)
    (ends : ∀ field length, scanField (payload.drop pos) = some (field, length) → ¬ Plain field) :
    (StopsQuietly payload pos → Returns (decodeMavlinkCommandStep payload) (pos, cmd) (.ok cmd)) ∧
      (¬ StopsQuietly payload pos →
        ∃ e, Returns (decodeMavlinkCommandStep payload) (pos, cmd) (.error e)) := by
  by_cases tagged : ∃ tag tagLength, Varint.read (payload.drop pos) = .value tag tagLength
  · obtain ⟨tag, tagLength, read⟩ := tagged
    have quiet := stopsQuietly_iff read
    obtain ⟨cut, short_param, short_fixed⟩ := stuck_content read ends
    rw [quiet]
    by_cases zero : (tag &&& 0x7).toNat = 0
    · obtain ⟨e, fails⟩ := readVarint_fails (cut zero)
      have step : decodeMavlinkCommandStep payload (pos, cmd) = .done (.error e) := by
        rw [decodeMavlinkCommandStep, if_pos inside, readVarint_value read]
        simp only [zero, fails]
      exact ⟨fun stops => absurd zero stops.1, fun _ => ⟨e, .now step⟩⟩
    by_cases five : (tag &&& 0x7).toNat = 5
    · have short := short_param five
      by_cases param : 2 ≤ (tag >>> 3).toUInt32.toNat ∧ (tag >>> 3).toUInt32.toNat ≤ 8
      · have step : decodeMavlinkCommandStep payload (pos, cmd) =
            .done (.error "f32 truncated") := by
          rw [decodeMavlinkCommandStep, if_pos inside, readVarint_value read]
          simp only [five, if_pos param, readF32]
          rw [if_neg (by omega)]
        exact ⟨fun stops => absurd ⟨five, param⟩ stops.2, fun _ => ⟨_, .now step⟩⟩
      · have step : decodeMavlinkCommandStep payload (pos, cmd) =
            .next (pos + tagLength + 4, cmd) := by
          rw [decodeMavlinkCommandStep, if_pos inside, readVarint_value read]
          simp only [five, if_neg param]
        exact ⟨fun _ => returns_behind step (by omega),
          fun loud => absurd ⟨zero, fun both => param both.2⟩ loud⟩
    by_cases one : (tag &&& 0x7).toNat = 1
    · have short := short_fixed one
      have step : decodeMavlinkCommandStep payload (pos, cmd) =
          .next (pos + tagLength + 8, cmd) := by
        rw [decodeMavlinkCommandStep, if_pos inside, readVarint_value read]
        simp only [one]
      exact ⟨fun _ => returns_behind step (by omega),
        fun loud => absurd ⟨zero, fun both => five both.1⟩ loud⟩
    · have step : decodeMavlinkCommandStep payload (pos, cmd) = .done (.ok cmd) := by
        rw [decodeMavlinkCommandStep, if_pos inside, readVarint_value read]
        simp only
      exact ⟨fun _ => .now step, fun loud => absurd ⟨zero, fun both => five both.1⟩ loud⟩
  · obtain ⟨e, fails⟩ := readVarint_fails fun tag tagLength read => tagged ⟨tag, tagLength, read⟩
    refine ⟨fun ⟨tag, tagLength, read, _⟩ => absurd ⟨tag, tagLength, read⟩ tagged,
      fun _ => ⟨e, .now ?_⟩⟩
    rw [decodeMavlinkCommandStep, if_pos inside, fails]

end Rounds

/-! ## Runs -/

/-- `fields` are the plain fields at the front. -/
structure PlainFront (payload : List UInt8) (fields : List Field) (pos : Nat) : Prop where
  reads : ReadsTo payload fields pos
  plain : ∀ field ∈ fields, Plain field
  ends : ∀ field length, scanField (payload.drop pos) = some (field, length) → ¬ Plain field

section Runs

variable {payload : List UInt8} {fields : List Field} {pos : Nat}

theorem decodeMavlinkCommandStep_ahead {state later : Nat × MavlinkCommandDecoded}
    (going : decodeMavlinkCommandStep payload state = .next later) :
    state.1 < later.1 ∧ state.1 < payload.length := by
  have ahead {pos stop : Nat} {word : UInt64}
      (read : readVarint payload pos = .ok (word, stop)) : pos < stop := by
    unfold readVarint at read
    split at read
    next is =>
      have bounds := Varint.read_bounds is
      cases read
      omega
    next => cases read
    next => cases read
  obtain ⟨pos, cmd⟩ := state
  rw [decodeMavlinkCommandStep] at going
  split_ifs at going with inside
  refine ⟨?_, inside⟩
  split at going
  next => cases going
  next tag behind read =>
    have tag_ahead := ahead read
    split at going
    next =>
      split at going
      next => cases going
      next v stop value =>
        have value_ahead := ahead value
        cases going
        exact tag_ahead.trans value_ahead
    next =>
      simp only at going
      split_ifs at going
      · unfold readF32 at going
        split_ifs at going
        cases going
        exact Nat.lt_add_right 4 tag_ahead
      · cases going
        exact Nat.lt_add_right 4 tag_ahead
    next =>
      cases going
      exact Nat.lt_add_right 8 tag_ahead
    next => cases going

theorem decodeMavlinkCommand_returns {state : Nat × MavlinkCommandDecoded}
    {result : Except String MavlinkCommandDecoded}
    (visited : Visits (decodeMavlinkCommandStep payload) (0, ⟨0, 0, 0, 0, 0, 0, 0, 0⟩) state)
    (returns : Returns (decodeMavlinkCommandStep payload) state result) :
    decodeMavlinkCommand payload = result := by
  have returned := visited.returns (fun state => payload.length - state.1)
    (fun _ _ going => by have := decodeMavlinkCommandStep_ahead going; omega)
    (show payload.length - 0 < payload.length + 1 by omega) returns
  rw [decodeMavlinkCommand, returned]
  rfl

theorem foldl_castNumber (fields : List Field) :
    fields.foldl (fun cmd field => cmd.apply field.castNumber) ⟨0, 0, 0, 0, 0, 0, 0, 0⟩ =
      MavlinkCommandDecoded.ofFields (fields.map Field.castNumber) := by
  rw [MavlinkCommandDecoded.ofFields, ← MavlinkCommandDecoded.foldl_eq, List.foldl_map]

theorem decodeMavlinkCommand_front (front : PlainFront payload fields pos) :
    (pos = payload.length ∨ StopsQuietly payload pos → decodeMavlinkCommand payload =
      .ok (.ofFields (fields.map Field.castNumber))) ∧
    (¬ (pos = payload.length ∨ StopsQuietly payload pos) →
      ∃ e, decodeMavlinkCommand payload = .error e) := by
  have visited : Visits (decodeMavlinkCommandStep payload) (0, ⟨0, 0, 0, 0, 0, 0, 0, 0⟩)
      (pos, .ofFields (fields.map Field.castNumber)) := by
    rw [← foldl_castNumber]
    exact ReadsTo.visits Prod.mk (fun _ _ _ cmd member inside scanned =>
      decodeMavlinkCommandStep_scan cmd (front.plain _ member) inside scanned) front.reads
  rcases Nat.lt_or_ge pos payload.length with inside | behind
  · obtain ⟨quiet, loud⟩ := decodeMavlinkCommandStep_stuck
      (.ofFields (fields.map Field.castNumber)) inside front.ends
    constructor
    · rintro (reached | stops)
      · omega
      · exact decodeMavlinkCommand_returns visited (quiet stops)
    · intro neither
      obtain ⟨e, fails⟩ := loud fun stops => neither (.inr stops)
      exact ⟨e, decodeMavlinkCommand_returns visited fails⟩
  · have reached := Nat.le_antisymm front.reads.inside behind
    refine ⟨fun _ => ?_, fun neither => absurd (.inl reached) neither⟩
    exact decodeMavlinkCommand_returns visited
      (.now (decodeMavlinkCommandStep_behind _ behind))

/-- `Ok` with the last values of a well-formed payload, and an error for every other. -/
def DecodesExactly (payload : List UInt8) : Prop :=
  (∃ fields, Parses [] payload fields ∧
    decodeMavlinkCommand payload = .ok (.ofFields fields)) ∨
  (∀ fields, ¬ Parses [] payload fields) ∧ ∃ e, decodeMavlinkCommand payload = .error e

/-- What may stand behind the plain fields at the front. -/
inductive Harmless (payload : List UInt8) (fields : List Field) (pos : Nat) : Prop where
  -- No tag, half of a varint or half of a parameter.
  | refused (inside : pos < payload.length) (loud : ¬ StopsQuietly payload pos)
  | whole (reached : pos = payload.length) (legal : ∀ field ∈ fields, field.Legal)
  -- A field or a group that is not read, in a well-formed payload with no later news.
  | skipped {tag : UInt64} {tagLength : Nat} {more : List Field}
      (read : Varint.read (payload.drop pos) = .value tag tagLength)
      (kind : (tag &&& 0x7).toNat = 2 ∨ (tag &&& 0x7).toNat = 3)
      (legal : ∀ field ∈ fields, field.Legal) (rest : Parses [] (payload.drop pos) more)
      (same : MavlinkCommandDecoded.ofFields (fields ++ more) = .ofFields fields)

-- A payload that goes on behind its plain fields goes on with what the decoder does not read.
theorem PlainFront.kind {more : List Field} (front : PlainFront payload fields pos)
    (rest : Parses [] (payload.drop pos) more) (inside : pos < payload.length) :
    ∃ tag tagLength, Varint.read (payload.drop pos) = .value tag tagLength ∧
      ((tag &&& 0x7).toNat = 2 ∨ (tag &&& 0x7).toNat = 3) := by
  rcases rest.begins with nothing | ⟨tag, tagLength, read, group | ⟨field, length, scanned⟩⟩
  · have behind := List.drop_eq_nil_iff.mp nothing
    omega
  · exact ⟨tag, tagLength, read, .inr group⟩
  · have kind := scanField_kind scanned read
    have content := front.ends field length scanned
    refine ⟨tag, tagLength, read, .inl ?_⟩
    rw [kind]
    cases is : field.payload with
    | delimited part => rfl
    | varint word => exact absurd (fun part => by simp [is]) content
    | fixed64 bits => exact absurd (fun part => by simp [is]) content
    | fixed32 bits => exact absurd (fun part => by simp [is]) content

theorem stopsQuietly_of_kind {tag : UInt64} {tagLength : Nat}
    (read : Varint.read (payload.drop pos) = .value tag tagLength)
    (kind : (tag &&& 0x7).toNat = 2 ∨ (tag &&& 0x7).toNat = 3) : StopsQuietly payload pos :=
  ⟨tag, tagLength, read, by omega, fun both => by omega⟩

/-- The decoder is exact where what stands behind the plain fields does no harm. -/
theorem decodes_exactly_iff (payload : List UInt8) :
    DecodesExactly payload ↔
      ∀ fields pos, PlainFront payload fields pos → Harmless payload fields pos := by
  constructor
  · intro exact fields pos front
    obtain ⟨quiet, _⟩ := decodeMavlinkCommand_front front
    by_cases stops : pos = payload.length ∨ StopsQuietly payload pos
    · have decoded := quiet stops
      rcases exact with ⟨all, parses, same⟩ | ⟨_, e, fails⟩
      · obtain ⟨legal, more, rfl, rest⟩ := parses.rest front.reads
        rw [decoded, Field.map_castNumber legal] at same
        rcases Nat.lt_or_ge pos payload.length with inside | behind
        · obtain ⟨tag, tagLength, read, kind⟩ := front.kind rest inside
          exact .skipped read kind legal rest (Except.ok.inj same).symm
        · exact .whole (Nat.le_antisymm front.reads.inside behind) legal
      · rw [decoded] at fails
        cases fails
    · have inside := front.reads.inside
      exact .refused (by omega) fun quietly => stops (.inr quietly)
  · intro harmless
    obtain ⟨fields, pos, reads, plain, ends⟩ := readsTo_while Plain payload
    have front : PlainFront payload fields pos := ⟨reads, plain, ends⟩
    obtain ⟨quiet, loud⟩ := decodeMavlinkCommand_front front
    cases harmless fields pos front with
    | refused inside loudly =>
      have neither : ¬ (pos = payload.length ∨ StopsQuietly payload pos) :=
        fun stops => stops.elim (by omega) loudly
      refine .inr ⟨fun all parses => ?_, loud neither⟩
      obtain ⟨_, more, _, rest⟩ := parses.rest reads
      obtain ⟨tag, tagLength, read, kind⟩ := front.kind rest inside
      exact loudly (stopsQuietly_of_kind read kind)
    | whole reached legal =>
      have decoded := quiet (.inl reached)
      rw [Field.map_castNumber legal] at decoded
      have nothing : Parses [] (payload.drop pos) [] := by
        rw [reached, List.drop_length]
        exact .finish
      have parses := Parses.append reads legal nothing
      rw [List.append_nil] at parses
      exact .inl ⟨fields, parses, decoded⟩
    | skipped read kind legal rest same =>
      have decoded := quiet (.inr (stopsQuietly_of_kind read kind))
      rw [Field.map_castNumber legal, ← same] at decoded
      exact .inl ⟨_, Parses.append reads legal rest, decoded⟩

end Runs

-- {"type":"arm"}
def armObject : List UInt8 :=
  [0x7B, 0x22, 0x74, 0x79, 0x70, 0x65, 0x22, 0x3A, 0x22, 0x61, 0x72, 0x6D, 0x22, 0x7D]

/-- An empty field 15, and command 400 behind it. -/
def hiddenCommand : List UInt8 := [0x7A, 0x00, 0x08, 0x90, 0x03]

theorem armObject_accepted :
    (decodeMavlinkCommand armObject = .ok ⟨0, 0, 0, 0, 0, 0, 0, 0⟩ ∧
      (∀ fields, ¬ Parses [] armObject fields) ∧ ¬ DecodesExactly armObject) ∧
    decodeMavlinkCommand hiddenCommand = .ok ⟨0, 0, 0, 0, 0, 0, 0, 0⟩ ∧
      ∃ fields, Parses [] hiddenCommand fields ∧
        MavlinkCommandDecoded.ofFields fields = ⟨400, 0, 0, 0, 0, 0, 0, 0⟩ := by
  have accepted : decodeMavlinkCommand armObject = .ok ⟨0, 0, 0, 0, 0, 0, 0, 0⟩ := rfl
  have opened : Varint.read armObject = .value 0x7B 1 := rfl
  have text : Varint.read (armObject.drop 1) = .value 0x22 1 := rfl
  have malformed (fields : List Field) : ¬ Parses [] armObject fields := by
    intro parses
    cases parses with
    | field scanned _ _ => cases (show scanField armObject = none from rfl).symm.trans scanned
    | start read _ _ rest =>
      rw [opened] at read
      cases read
      -- The group is open, and its first field is longer than the text.
      generalize List.cons _ _ = groups at rest
      have unread : scanField (armObject.drop 1) = none := rfl
      generalize armObject.drop 1 = left at rest text unread
      cases rest with
      | finish => cases text
      | field scanned _ _ => cases unread.symm.trans scanned
      | inside scanned _ _ => cases unread.symm.trans scanned
      | start read kind _ _ =>
        rw [text] at read
        cases read
        exact absurd kind (by decide)
      | stop read kind _ =>
        rw [text] at read
        cases read
        exact absurd kind (by decide)
  have first : scanField hiddenCommand = some (⟨15, .delimited []⟩, 2) := rfl
  have second : scanField [0x08, 0x90, 0x03] = some (⟨1, .varint 400⟩, 3) := rfl
  refine ⟨⟨accepted, malformed, ?_⟩, rfl,
    [⟨15, .delimited []⟩, ⟨1, .varint 400⟩],
    .field first ⟨by decide, by decide⟩ (.field second ⟨by decide, by decide⟩ .finish), rfl⟩
  rintro (⟨fields, parses, _⟩ | ⟨_, e, fails⟩)
  · exact malformed fields parses
  · rw [accepted] at fails
    cases fails

end SystemScale.Agent.Mavlink
