import SystemScale.Agent.Restart
import SystemScale.Cloud.IngestReading
import SystemScale.Contract.LogMetadata
import SystemScale.Contract.Messages

set_option autoImplicit false

/-!
# Envelopes that do not fit

`push` refuses nothing. It warns of an envelope that is too large for a slot and cuts its encoding,
and the cut is seen by the decoder at the other end.
-/

namespace SystemScale.Contract

open AdapterTrait Agent Cloud Runs Wire

/-- The fields that the writer has, apart from the longitude. A zero may lose its sign. -/
structure ReadBack (env : DataEnvelope) (decoded : Envelope) : Prop where
  vehicleID : decoded.vehicleID = Utf8.encode env.vehicleId
  timestampNs : decoded.timestampNs = env.timestampNs
  streamType : decoded.streamType = env.streamType.toU64
  payload : decoded.payload = env.payload
  lat : SameF64 decoded.lat env.lat
  alt : SameF32 decoded.alt env.alt
  seq : decoded.seq = env.seq.toUInt64

/-- A pop returns all of the envelope. -/
def StoresWhole {geometry : Geometry} (ring : Ring geometry) (env : DataEnvelope) : Prop :=
  ∃ bytes decoded, (ring.push env).slot ring.head = .payload bytes ∧
    decodeDataEnvelope bytes = .ok decoded ∧ ReadBack env decoded

/-- What ingest makes of the payload that is stored for an envelope. -/
def StoredReads (geometry : Geometry) (env : DataEnvelope) : Prop :=
  if (encodeEnvelopeToBuf env).length ≤ geometry.maxPayload then
    stored geometry env = encodeEnvelopeToBuf env ∧
      ∃ decoded, decodeDataEnvelope (stored geometry env) = .ok decoded ∧ ReadBack env decoded
  else
    (∃ count, encode ((envelopeFields env).take count) = stored geometry env ∧
      decodeDataEnvelope (stored geometry env) =
        .ok (Envelope.ofFields ((envelopeFields env).take count))) ∨
    (¬ CutBetweenFields geometry env ∧
      ∃ message, decodeDataEnvelope (stored geometry env) = .err message)

section Envelopes

variable (geometry : Geometry) (env : DataEnvelope)

theorem ingested_reads_back : ReadBack env (ingested env) where
  vehicleID := rfl
  timestampNs := rfl
  streamType := rfl
  payload := rfl
  lat := by
    show SameF64 (if nonzeroF64 env.lat then env.lat else 0) env.lat
    split_ifs with written
    · exact .inl rfl
    · exact (same_zero_f64 env.lat).mpr written
  alt := same_written_f32 env.alt
  seq := rfl

theorem encoded_reads : Reads (encodeEnvelopeToBuf env) (envelopeFields env) := by
  rw [encodeEnvelopeToBuf_eq]
  exact reads_encode _ (envelope_good env)

-- A length that is written fits the envelope, so a cut makes none of them reach 2^63.
theorem stored_short {fields : List Field} {pos : Nat}
    (reads : ReadsTo (stored geometry env) fields pos) :
    ¬ EndsPast (2 ^ 63) (stored geometry env) pos := by
  have whole := encoded_reads env
  have held := envelope_held env
  rw [← encodeEnvelopeToBuf_eq] at held
  have parts : stored geometry env ++ (encodeEnvelopeToBuf env).drop geometry.maxPayload =
      encodeEnvelopeToBuf env := List.take_append_drop _ _
  rw [← parts] at whole held
  exact whole.cut_inside held reads

theorem stored_reads : StoredReads geometry env := by
  unfold StoredReads
  split_ifs with fits
  · have whole : stored geometry env = encodeEnvelopeToBuf env := List.take_of_length_le fits
    rw [whole]
    exact ⟨rfl, _, decodeDataEnvelope_encodeEnvelope env, ingested_reads_back env⟩
  · have held := stored_held geometry env
    by_cases between : CutBetweenFields geometry env
    · obtain ⟨fields, reads⟩ := (stored_reads_iff geometry env).mpr between
      have accepted := decodeDataEnvelope_reads held reads.readsTo
      have cut := reads
      rw [stored, encodeEnvelopeToBuf_eq] at cut
      rw [encodeEnvelopeToBuf_eq] at fits
      obtain ⟨count, length, rfl⟩ := reads_cut (envelope_good env) (by omega) cut
      refine .inl ⟨count, ?_, accepted⟩
      have parts : encode (envelopeFields env) = encode ((envelopeFields env).take count) ++
          encode ((envelopeFields env).drop count) := by
        rw [← encode_append, List.take_append_drop]
      rw [stored, encodeEnvelopeToBuf_eq, ← length, parts, List.take_left]
    · have unread := mt (stored_reads_iff geometry env).mp between
      exact .inr ⟨between, decodeDataEnvelope_refuses held
        (fun _ _ reads => stored_short geometry env reads) unread⟩

end Envelopes

/-- An opened ring answers any calls as the queue of what it stores; what it stores is the whole
envelope, or is refused unless it was cut between two fields. -/
theorem pushed_envelopes_kept {config : RingBufferConfig} {file : List UInt8} {geometry : Geometry}
    {ring : Ring geometry} (opened : openRing config file = .ok ⟨geometry, ring⟩) :
    (∀ calls, answers Ring.call ring calls = answers (storedCall geometry) [] calls) ∧
      ∀ env, StoredReads geometry env :=
  ⟨fun _ => ring_simulates_stored.answers_eq (openRing_holds opened) fun _ _ => trivial,
    fun env => stored_reads geometry env⟩

theorem seven_slots_keep :
    (∀ calls, answers Ring.call emptyFile calls = answers (storedCall sevenSlotFile) [] calls) ∧
      ∀ env, StoredReads sevenSlotFile env :=
  pushed_envelopes_kept (show openRing ⟨616, 88⟩ [] = .ok ⟨sevenSlotFile, emptyFile⟩ from rfl)

def overlongFrame : DataEnvelope :=
  ⟨"v1", 1, .telemetry, List.replicate 72 7, 0, 0, 0, 0, "", "", "", "", "", "", "", by decide⟩

/-- A payload of 72 bytes, in a slot that has room for 72 bytes. -/
theorem overlong_frame_cut :
    ((emptyFile.push overlongFrame).slot emptyFile.head = .payload (stored sevenSlotFile overlongFrame) ∧
      decodeDataEnvelope (stored sevenSlotFile overlongFrame) = .err "truncated bytes field 4") ∧
    ¬ ∀ (geometry : Geometry) (ring : Ring geometry) (env : DataEnvelope), StoresWhole ring env ∨
      ((ring.push env).head = ring.head ∧ (ring.push env).tail = ring.tail ∧
        (ring.push env).mmap = ring.mmap) := by
  have refused : decodeDataEnvelope (stored sevenSlotFile overlongFrame) =
      .err "truncated bytes field 4" := by decide +kernel
  refine ⟨⟨emptyFile.slot_push_same overlongFrame, refused⟩, fun always => ?_⟩
  rcases always sevenSlotFile emptyFile overlongFrame with ⟨bytes, decoded, read, accepted, _⟩ | same
  · rw [emptyFile.slot_push_same] at read
    obtain rfl := Slot.payload.inj read
    rw [refused] at accepted
    cases accepted
  · exact absurd same.1 (Nat.succ_ne_self _)

end SystemScale.Contract
