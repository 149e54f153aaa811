import SystemScale.Cloud.CommandCodec
import SystemScale.Cloud.IngestReading

set_option autoImplicit false

/-!
# What a peek shows of an envelope

`peekDataEnvelope` returns once it has a vehicle id and a stream type; telemetry-ingest reads on.
-/

namespace SystemScale.Cloud

open Wire

/-! ## Runs -/

/-- A vehicle id that is not empty, and a stream type that is not zero. -/
def Settled (fields : List Field) : Prop :=
  last (Field.delimited? 1) [] fields ≠ [] ∧ 0 < (last (Field.varint? 3) 0 fields).toUInt32

theorem peek_apply (vehicleID : GoString) (streamType : UInt64) (field : Field) :
    Peek.apply (vehicleID, streamType.toUInt32) field =
      ((field.delimited? 1).getD vehicleID, ((field.varint? 3).getD streamType).toUInt32) := by
  obtain ⟨number, payload⟩ := field
  cases payload with
  | varint value =>
    simp only [Peek.apply, Field.varint?, Field.delimited?]
    split_ifs <;> rfl
  | fixed64 bits => rfl
  | delimited part =>
    simp only [Peek.apply, Field.varint?, Field.delimited?]
    split_ifs <;> rfl
  | fixed32 bits => rfl

theorem foldl_peek (vehicleID : GoString) (streamType : UInt64) (fields : List Field) :
    fields.foldl Peek.apply (vehicleID, streamType.toUInt32) =
      (last (Field.delimited? 1) vehicleID fields,
        (last (Field.varint? 3) streamType fields).toUInt32) := by
  induction fields generalizing vehicleID streamType with
  | nil => rfl
  | cons field rest ih => rw [List.foldl_cons, peek_apply, ih, last_cons, last_cons]

theorem foldl_peek_empty (fields : List Field) : fields.foldl Peek.apply ([], 0) =
    (last (Field.delimited? 1) [] fields, (last (Field.varint? 3) 0 fields).toUInt32) :=
  foldl_peek [] 0 fields

theorem peek_complete (fields : List Field) :
    Peek.complete (fields.foldl Peek.apply ([], 0)) = true ↔ Settled fields := by
  simp only [foldl_peek_empty, Peek.complete, decide_eq_true_eq, Settled, gt_iff_lt]

/-- What has been seen shows the last vehicle id and the last stream type of all of the fields. -/
def ShowsLast (seen fields : List Field) : Prop :=
  last (Field.delimited? 1) [] seen = last (Field.delimited? 1) [] fields ∧
    (last (Field.varint? 3) 0 seen).toUInt32 = (last (Field.varint? 3) 0 fields).toUInt32

theorem peekDataEnvelope_reads {data : List UInt8} {fields : List Field}
    (held : data.length < 2 ^ 63) (reads : Reads data fields) :
    peekDataEnvelope data = .ok (foldUntil Peek.complete Peek.apply ([], 0) fields) := by
  have walk : loop (peekDataEnvelopeStep data) (2 * data.length + 2) (0, ([], 0)) =
      some (.ok (foldUntil Peek.complete Peek.apply ([], 0) fields)) :=
    loop_reads_until _ (fun pos found => ((pos : Int), found)) Outcome.ok data
      (fun _ _ _ found inside scanned => peekDataEnvelopeStep_scan held found inside scanned)
      (fun found => by simp [peekDataEnvelopeStep])
      (by rwa [List.drop_zero]) (Nat.zero_le _) (by omega)
  rw [peekDataEnvelope, walk]
  rfl

/-- A peek shows what telemetry-ingest decodes, unless later fields change what settled it. -/
theorem peek_agrees_iff {data : List UInt8} (held : data.length < 2 ^ 63) {env : Envelope}
    (accepted : decodeDataEnvelope data = .ok env) :
    peekDataEnvelope data = .ok (env.vehicleID, env.streamType.toUInt32) ↔
      ∀ fields seen, Reads data fields → FirstPrefix Settled seen fields →
        ShowsLast seen fields := by
  obtain ⟨fields, reads, rfl⟩ := (decodeDataEnvelope_ok_iff held env).mp accepted
  rw [Envelope.foldl_eq, peekDataEnvelope_reads held reads]
  have settles : (fun seen : List Field => Peek.complete (seen.foldl Peek.apply ([], 0)) = true) =
      Settled := funext fun seen => propext (peek_complete seen)
  have start : ¬ Peek.complete ([], 0) = true := by decide
  have cases := foldUntil_first Peek.complete Peek.apply fields ([], 0) start
  rw [settles] at cases
  rcases cases with ⟨seen, found, stopped⟩ | ⟨none, stopped⟩
  · rw [stopped, foldl_peek_empty]
    constructor
    · intro same others front again first
      obtain rfl := again.unique reads
      obtain rfl := first.unique found
      exact Prod.mk.inj (Outcome.ok.inj same)
    · intro keeps
      obtain ⟨vehicle, stream⟩ := keeps fields seen reads found
      rw [vehicle, stream]
      rfl
  · rw [stopped, foldl_peek_empty]
    refine iff_of_true rfl fun others seen again first => ?_
    obtain rfl := again.unique reads
    exact absurd first (none seen)

/-- An event of vehicle `a`. -/
def eventFrame : List UInt8 := [0x0A, 0x01, 0x61, 0x18, 0x02]

theorem eventFrame_shown :
    peekDataEnvelope eventFrame = .ok ([0x61], 2) := by
  have accepted : decodeDataEnvelope eventFrame =
      .ok { Envelope.empty with vehicleID := [0x61], streamType := 2 } := by decide
  refine (peek_agrees_iff (by decide) accepted).mpr fun fields seen reads found => ?_
  have first : scanField eventFrame = some (⟨1, .delimited [0x61]⟩, 3) := rfl
  have second : scanField [0x18, 0x02] = some (⟨3, .varint 2⟩, 2) := rfl
  have whole : Reads eventFrame [⟨1, .delimited [0x61]⟩, ⟨3, .varint 2⟩] :=
    .cons first (.cons second .nil)
  obtain rfl := reads.unique whole
  obtain ⟨rest, split⟩ := found.front
  cases rest with
  | nil => rw [← split, List.append_nil]; exact ⟨rfl, rfl⟩
  | cons field rest =>
    -- The stream type comes last, so a shorter part does not settle anything.
    have short : seen <+: [⟨1, .delimited [0x61]⟩] := by
      have dropped := congrArg List.dropLast split
      rw [List.dropLast_append_cons] at dropped
      exact ⟨_, dropped⟩
    rcases List.prefix_cons_iff.mp short with rfl | ⟨none, rfl, empty⟩
    · exact absurd rfl found.holds.1
    · obtain rfl := List.prefix_nil.mp empty
      exact absurd found.holds.2 (by decide)

/-- Telemetry of vehicle `a`, and then the name `b`. -/
def renamedFrame : List UInt8 := [0x0A, 0x01, 0x61, 0x18, 0x01, 0x0A, 0x01, 0x62]

theorem renamedFrame_misread :
    ∃ env, decodeDataEnvelope renamedFrame = .ok env ∧ env.vehicleID = [0x62] ∧
      peekDataEnvelope renamedFrame = .ok ([0x61], 1) ∧
      peekDataEnvelope renamedFrame ≠ .ok (env.vehicleID, env.streamType.toUInt32) :=
  ⟨_, rfl, rfl, by decide, by decide⟩

end SystemScale.Cloud
