import SystemScale.Agent.LocalApi
import SystemScale.Agent.Ring
import SystemScale.Cloud.Ilp

set_option autoImplicit false

/-!
# The names of a logged frame

A log request names a project, a stream, a sender and a receiver. The envelope has them all, and
the ring's writer stops at field 8.
-/

namespace SystemScale.Contract

open AdapterTrait Agent Cloud Wire

def Carries (envelope : DataEnvelope) (decoded : Envelope) : Prop :=
  decoded.fleetID = Utf8.encode envelope.fleetId ∧
  decoded.streamName = Utf8.encode envelope.streamName ∧
  decoded.senderID = Utf8.encode envelope.senderId ∧
  decoded.senderType = Utf8.encode envelope.senderType ∧
  decoded.receiverID = Utf8.encode envelope.receiverId ∧
  decoded.receiverType = Utf8.encode envelope.receiverType

def EmitsTags (envelope : DataEnvelope) (tags : Tags) : Prop :=
  tags.lookup "project_id" = tagged (Utf8.encode envelope.fleetId) ∧
  tags.lookup "stream_name" = tagged (Utf8.encode envelope.streamName) ∧
  tags.lookup "sender_id" = tagged (Utf8.encode envelope.senderId) ∧
  tags.lookup "sender_type" = tagged (Utf8.encode envelope.senderType) ∧
  tags.lookup "receiver_id" = tagged (Utf8.encode envelope.receiverId) ∧
  tags.lookup "receiver_type" = tagged (Utf8.encode envelope.receiverType)

/-- What the ring yields for the envelope decodes to its names, and the row has their tags. -/
def MetadataDelivered {geometry : Geometry} (ring : Ring geometry) (envelope : DataEnvelope) :
    Prop :=
  ∃ bytes decoded, (ring.push envelope).slot ring.head = .payload bytes ∧
    decodeDataEnvelope bytes = .ok decoded ∧ Carries envelope decoded ∧
    EmitsTags envelope (buildILPTags decoded)

/-! ## When the names are empty -/

/-- `to` and `to_type` name no receiver. -/
def NoReceiver (toActor toType : Option String) : Prop :=
  toActor = none ∨
  ((toActor = some "" ∨ toActor = some ":") ∧ toType.getD "" = "") ∨
  ∃ kind : List Char, ':' ∉ kind ∧ toActor = some (String.ofList (kind ++ [':'])) ∧
    toType = some ""

def Anonymous (state : LocalApiState) (req : LogRequest) : Prop :=
  state.vehicleId = "" ∧ req.projectId.getD "" = "" ∧ req.streamName.getD "" = "" ∧
  req.senderType = some "" ∧ NoReceiver req.toActor req.toType

theorem ofList_eq_empty {text : List Char} : String.ofList text = "" ↔ text = [] := by
  constructor
  · intro same
    simpa using congrArg String.toList same
  · rintro rfl
    rfl

theorem parseTo_colon {kind id : List Char} (unmarked : ':' ∉ kind) (toType : Option String) :
    parseTo (some (String.ofList (kind ++ ':' :: id))) toType =
      (toType.getD (String.ofList kind), String.ofList id) := by
  have before : ∀ c ∈ kind, decide (c ≠ ':') = true := by
    intro c member
    simpa using fun same : c = ':' => unmarked (same ▸ member)
  simp only [parseTo, String.toList_ofList, List.dropWhile_append_of_pos before,
    List.takeWhile_append_of_pos before]
  simp

theorem parseTo_plain {actor : String} (unmarked : ':' ∉ actor.toList) (toType : Option String) :
    parseTo (some actor) toType = (toType.getD "", actor) := by
  have passed : actor.toList.dropWhile (· ≠ ':') = [] := by
    rw [List.dropWhile_eq_nil_iff]
    intro c member
    simpa using fun same : c = ':' => unmarked (same ▸ member)
  simp only [parseTo, passed]

theorem parseTo_empty_iff (toActor toType : Option String) :
    parseTo toActor toType = ("", "") ↔ NoReceiver toActor toType := by
  constructor
  · intro empty
    cases toActor with
    | none => exact .inl rfl
    | some actor =>
      by_cases marked : ':' ∈ actor.toList
      · obtain ⟨kind, id, split, unmarked⟩ := List.eq_append_cons_of_mem marked
        obtain rfl : actor = String.ofList (kind ++ ':' :: id) := by
          rw [← split, String.ofList_toList]
        rw [parseTo_colon unmarked, Prod.mk.injEq, ofList_eq_empty] at empty
        obtain ⟨noKind, rfl⟩ := empty
        cases toType with
        | some given =>
          obtain rfl : given = "" := noKind
          exact .inr (.inr ⟨kind, unmarked, rfl, rfl⟩)
        | none =>
          obtain rfl : kind = [] := ofList_eq_empty.mp noKind
          exact .inr (.inl ⟨.inr rfl, rfl⟩)
      · rw [parseTo_plain marked, Prod.mk.injEq] at empty
        exact .inr (.inl ⟨.inl (congrArg some empty.2), empty.1⟩)
  · rintro (rfl | ⟨rfl | rfl, noKind⟩ | ⟨kind, unmarked, rfl, rfl⟩)
    · rfl
    · rw [parseTo_plain (by decide), noKind]
    · have unmarked : ':' ∉ ([] : List Char) := List.not_mem_nil
      have colon : parseTo (some ":") toType = (toType.getD "", "") := parseTo_colon unmarked toType
      rw [colon, noKind]
    · exact parseTo_colon unmarked (some "")

/-! ## What the writer leaves of them -/

/-- All of the envelope is kept, or it is cut between two of its fields. -/
def CutBetweenFields (geometry : Geometry) (envelope : DataEnvelope) : Prop :=
  (encodeEnvelopeToBuf envelope).length ≤ geometry.maxPayload ∨
  ∃ count, (encode ((envelopeFields envelope).take count)).length = geometry.maxPayload

section Stored

variable (geometry : Geometry) (envelope : DataEnvelope)

theorem envelope_good : ∀ field ∈ envelopeFields envelope,
    field.number < 2 ^ 29 ∧ field.payload.room < 2 ^ 64 := by
  intro field member
  have small := envelopeFields_small envelope field member
  exact ⟨by omega, small.2⟩

theorem stored_held : (stored geometry envelope).length < 2 ^ 63 := by
  have held := envelope_held envelope
  rw [stored, encodeEnvelopeToBuf_eq, List.length_take]
  omega

theorem stored_reads_iff :
    (∃ fields, Reads (stored geometry envelope) fields) ↔ CutBetweenFields geometry envelope := by
  rw [stored, CutBetweenFields, encodeEnvelopeToBuf_eq]
  have good := envelope_good envelope
  generalize envelopeFields envelope = fields at good
  constructor
  · rintro ⟨found, reads⟩
    by_cases fits : (encode fields).length ≤ geometry.maxPayload
    · exact .inl fits
    · obtain ⟨count, length, _⟩ := reads_cut good (by omega) reads
      exact .inr ⟨count, length⟩
  · rintro (fits | ⟨count, length⟩)
    · rw [List.take_of_length_le fits]
      exact ⟨fields, reads_encode fields good⟩
    · have same : (encode fields).take geometry.maxPayload = encode (fields.take count) := by
        conv_lhs => rw [← List.take_append_drop count fields, encode_append, ← length]
        exact List.take_left
      rw [same]
      exact ⟨fields.take count, reads_encode _ fun field member =>
        good field (List.mem_of_mem_take member)⟩

-- No field that is written or cut off has a name.
theorem stored_names {decoded : Envelope}
    (accepted : decodeDataEnvelope (stored geometry envelope) = .ok decoded) :
    names decoded = names .empty := by
  obtain ⟨found, reads, rfl⟩ :=
    (decodeDataEnvelope_ok_iff (stored_held geometry envelope) decoded).mp accepted
  refine foldl_names found .empty ?_
  have small : ∀ field ∈ envelopeFields envelope, field.number < 16 :=
    fun field member => (envelopeFields_small envelope field member).1
  rw [stored, encodeEnvelopeToBuf_eq] at reads
  by_cases fits : (encode (envelopeFields envelope)).length ≤ geometry.maxPayload
  · rw [List.take_of_length_le fits] at reads
    rwa [reads.unique (reads_encode _ (envelope_good envelope))]
  · obtain ⟨count, _, rfl⟩ := reads_cut (envelope_good envelope) (by omega) reads
    exact fun field member => small field (List.mem_of_mem_take member)

end Stored

theorem decoded_carries_iff {envelope : DataEnvelope} {decoded : Envelope}
    (unnamed : names decoded = names .empty) :
    Carries envelope decoded ↔
      envelope.fleetId = "" ∧ envelope.streamName = "" ∧ envelope.senderId = "" ∧
        envelope.senderType = "" ∧ envelope.receiverId = "" ∧ envelope.receiverType = "" := by
  simp only [names, Envelope.empty, List.cons.injEq, and_true] at unnamed
  obtain ⟨fleet, _, stream, sender, senderType, receiver, receiverType⟩ := unnamed
  simp only [Carries, fleet, stream, sender, senderType, receiver, receiverType,
    eq_comm (a := ([] : List UInt8)), Utf8.encode_eq_nil]

theorem Carries.emits {envelope : DataEnvelope} {decoded : Envelope}
    (carries : Carries envelope decoded) : EmitsTags envelope (buildILPTags decoded) := by
  obtain ⟨fleet, stream, sender, senderType, receiver, receiverType⟩ := carries
  obtain ⟨project, _, streamTag, senderTag, senderTypeTag, receiverTag, receiverTypeTag⟩ :=
    lookup_names decoded
  rw [EmitsTags, project, streamTag, senderTag, senderTypeTag, receiverTag, receiverTypeTag, fleet,
    stream, sender, senderType, receiver, receiverType]
  exact ⟨rfl, rfl, rfl, rfl, rfl, rfl⟩

theorem stored_delivered_iff {geometry : Geometry} (ring : Ring geometry)
    (envelope : DataEnvelope) :
    MetadataDelivered ring envelope ↔
      (envelope.fleetId = "" ∧ envelope.streamName = "" ∧ envelope.senderId = "" ∧
        envelope.senderType = "" ∧ envelope.receiverId = "" ∧ envelope.receiverType = "") ∧
      CutBetweenFields geometry envelope := by
  have held := stored_held geometry envelope
  constructor
  · rintro ⟨bytes, decoded, yielded, accepted, carries, _⟩
    rw [ring.slot_push_same] at yielded
    obtain rfl := Slot.payload.inj yielded
    have empty := (decoded_carries_iff (stored_names geometry envelope accepted)).mp carries
    obtain ⟨fields, reads, _⟩ := (decodeDataEnvelope_ok_iff held decoded).mp accepted
    exact ⟨empty, (stored_reads_iff geometry envelope).mp ⟨fields, reads⟩⟩
  · rintro ⟨empty, cut⟩
    obtain ⟨fields, reads⟩ := (stored_reads_iff geometry envelope).mpr cut
    have accepted := (decodeDataEnvelope_ok_iff held _).mpr ⟨fields, reads, rfl⟩
    have carries := (decoded_carries_iff (stored_names geometry envelope accepted)).mpr empty
    exact ⟨_, _, ring.slot_push_same envelope, accepted, carries, carries.emits⟩

theorem logged_metadata_iff {state : LocalApiState} {req : LogRequest} {nowNs : UInt64}
    {envelope : DataEnvelope} (accepted : handleLog state req nowNs = .ok (200, some envelope))
    {geometry : Geometry} (ring : Ring geometry) (seq : UInt32) :
    MetadataDelivered ring (sequenced envelope seq) ↔
      Anonymous state req ∧ CutBetweenFields geometry (sequenced envelope seq) := by
  obtain ⟨fleet, stream, sender, senderType, receiver⟩ := handleLog_queued accepted
  have receiverless : (envelope.receiverId = "" ∧ envelope.receiverType = "") ↔
      NoReceiver req.toActor req.toType := by
    rw [← parseTo_empty_iff, ← receiver, Prod.mk.injEq, and_comm]
  have default_sender : req.senderType.getD "device" = "" ↔ req.senderType = some "" := by
    cases req.senderType <;> simp
  have unnamed : Anonymous state req ↔ envelope.fleetId = "" ∧ envelope.streamName = "" ∧
      envelope.senderId = "" ∧ envelope.senderType = "" ∧ envelope.receiverId = "" ∧
      envelope.receiverType = "" := by
    rw [Anonymous, ← receiverless, ← default_sender, fleet, stream, sender, senderType]
    constructor
    · rintro ⟨first, second, third, fourth, last⟩
      exact ⟨second, third, first, fourth, last⟩
    · rintro ⟨second, third, first, fourth, last⟩
      exact ⟨first, second, third, fourth, last⟩
  rw [unnamed]
  exact stored_delivered_iff ring (sequenced envelope seq)

def plainLog (senderType : Option String) (toActor : Option String) : LogRequest :=
  ⟨.null, "telemetry", 0, 0, 0, none, none, none, toActor, none, senderType⟩

def emptyRing : Ring ⟨144, 2, 288, by decide, by decide, by decide, by decide⟩ :=
  ⟨setLen 288 [], 0, 0, false, length_setLen 288 []⟩

def anonymousLog : DataEnvelope :=
  ⟨"", 1, .telemetry, [110, 117, 108, 108], 0, 0, 0, 0, "", "", "", "", "", "", "", by decide⟩

theorem anonymous_log_delivered : MetadataDelivered emptyRing (sequenced anonymousLog 0) := by
  have accepted : handleLog ⟨"", true⟩ (plainLog (some "") none) 1 =
      .ok (200, some anonymousLog) := rfl
  refine (logged_metadata_iff accepted emptyRing 0).mpr ⟨?_, .inl ?_⟩
  · exact ⟨rfl, rfl, rfl, rfl, .inl rfl⟩
  · show (encodeEnvelopeToBuf (sequenced anonymousLog 0)).length ≤ 128
    decide

def deviceLog : DataEnvelope :=
  ⟨"v1", 1, .telemetry, [110, 117, 108, 108], 0, 0, 0, 0, "", "", "", "v1", "device", "drone:2",
    "device", by decide⟩

-- A frame to "device:drone:2" arrives without sender and receiver.
theorem device_log_nameless :
    handleLog ⟨"v1", true⟩ (plainLog none (some "device:drone:2")) 1 = .ok (200, some deviceLog) ∧
      ¬ MetadataDelivered emptyRing (sequenced deviceLog 0) := by
  refine ⟨rfl, fun delivered => ?_⟩
  have empty := (stored_delivered_iff emptyRing (sequenced deviceLog 0)).mp delivered
  exact absurd empty.1.2.2.1 (by decide)

end SystemScale.Contract
