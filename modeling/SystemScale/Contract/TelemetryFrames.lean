import SystemScale.Contract.PythonEnvelope
import SystemScale.Relay.JsonFrames
import SystemScale.Sdk.Subscribers

set_option autoImplicit false

/-!
# What subscribers read of telemetry

ws-gateway's frame has the vehicle under `vehicle_id`, the time under `ts` and no sender. The three
readers look for different keys.
-/

namespace SystemScale.Contract

open AdapterTrait Agent Relay Sdk Wire
open Cloud (convertible convertibleFields goReader)
open Json (Number Value lookup)

section Frames

variable {floatText : UInt64 → Number} {repr : Value → String}

/-- Every finite number is written as a text that has a float64. -/
def FloatsConvert (floatText : UInt64 → Number) : Prop :=
  ∀ bits, Binary.finite bits = true → (Binary.parseFloat (floatText bits).literal).isSome = true

theorem lookup_fields_none (frame : JsonFrame) {key : String}
    (other : key ∉ ["alt", "lat", "lon", "payload_b64", "seq", "ts", "type", "vehicle_id"]) :
    lookup key (frame.fields floatText) = none :=
  Json.lookup_eq_none.mpr other

theorem lookup_sender_type (frame : JsonFrame) :
    lookup "sender_type" (frame.fields floatText) = none :=
  lookup_fields_none frame (by decide)

theorem lookup_sender_id (frame : JsonFrame) :
    lookup "sender_id" (frame.fields floatText) = none :=
  lookup_fields_none frame (by decide)

theorem lookup_vehicle_id (frame : JsonFrame) :
    lookup "vehicle_id" (frame.fields floatText) = some (.string frame.vehicleId) := rfl

theorem lookup_ts (frame : JsonFrame) :
    lookup "ts" (frame.fields floatText) = some (wordValue frame.timestampNs) := rfl

theorem lookup_type (frame : JsonFrame) :
    lookup "type" (frame.fields floatText) = some (.string "telemetry") := rfl

/-! ## OperatorClient.Subscribe -/

-- No key stands for a field of the reader's struct.
theorem foreign_key : ∀ key ∈ ["alt", "lat", "lon", "payload_b64", "seq", "ts", "type", "vehicle_id"],
    ∀ tag ∈ ["device", "stream", "ts_ns", "fields"], Cloud.foldEqual tag key = false := by
  decide

theorem set_foreign {key : String} (foreign : ∀ tag ∈ ["device", "stream", "ts_ns", "fields"],
    Cloud.foldEqual tag key = false) (read : Go.SubscribeFrame) (value : Value) :
    read.set key value = some read := by
  simp only [List.forall_mem_cons] at foreign
  simp [Go.SubscribeFrame.set, foreign]

theorem unmarshal_text (frame : JsonFrame) :
    Go.SubscribeFrame.unmarshal (frame.text floatText) = some ⟨"", "", 0, []⟩ := by
  have read : goReader.read (frame.text floatText) = _ := frame.read_text floatText (by decide)
  have ignored (fields : Object) (foreign : ∀ field ∈ fields, ∀ frame : Go.SubscribeFrame,
      frame.set field.1 field.2 = some frame) (frame : Go.SubscribeFrame) :
      fields.foldlM (fun frame field => frame.set field.1 field.2) frame = some frame := by
    induction fields with
    | nil => rfl
    | cons field rest ih =>
      rw [List.foldlM_cons, foreign field (by simp)]
      exact ih fun other member => foreign other (by simp [member])
  rw [Go.SubscribeFrame.unmarshal, read]
  refine ignored _ (fun field member read => set_foreign (foreign_key field.1 ?_) read field.2) _
  exact List.mem_map_of_mem (f := Prod.fst) member

theorem subscribe_text (frame : JsonFrame) :
    Go.OperatorClient.subscribe (frame.text floatText) = some ⟨0, "", "", []⟩ := by
  rw [Go.OperatorClient.subscribe, unmarshal_text]
  rfl

/-! ## ReceiveFrames -/

theorem convertible_floatValue (floats : FloatsConvert floatText) (bits : UInt64) :
    convertible (floatValue floatText bits) = true := by
  unfold floatValue
  split_ifs with isFinite
  · exact floats bits isFinite
  · rfl

theorem convertible_wordValue (word : UInt64) : convertible (wordValue word) = true :=
  Binary.parseFloat_digits word.toNat_lt

theorem convertible_fields (floats : FloatsConvert floatText) (frame : JsonFrame) :
    convertibleFields (frame.fields floatText) = true := by
  simp only [JsonFrame.fields, convertibleFields, convertible_floatValue floats,
    convertible_wordValue, Bool.true_and, Bool.and_true]
  rfl

/-- A filter that names neither a type nor an id. -/
def Unfiltered (filter : String × String) : Prop := filter.1 = "" ∧ (filter.2 = "" ∨ filter.2 = "*")

instance (filter : String × String) : Decidable (Unfiltered filter) :=
  inferInstanceAs (Decidable (_ ∧ _))

-- The map that `json.Unmarshal` makes of the frame.
def goFields (floatText : UInt64 → Number) (frame : JsonFrame) : Object :=
  (frame.fields floatText).foldl (fun made field => mapInsert field.1 field.2 made) []

theorem lookup_goFields (frame : JsonFrame) (key : String) :
    lookup key (goFields floatText frame) = lookup key (frame.fields floatText) := by
  rw [goFields, lookup_insertAll mapInsert_inserts, Json.lookup_nil, Option.or_none]

theorem goPasses_iff (frame : JsonFrame) (fromActor : String) :
    Go.Stream.passes fromActor (goFields floatText frame) = true ↔
      Unfiltered (actorParts fromActor) := by
  simp only [Go.Stream.passes, lookup_goFields, lookup_sender_type, lookup_sender_id, Go.stringOf, Bool.and_eq_true, Bool.or_eq_true,
    decide_eq_true_eq, Unfiltered]
  grind

theorem sprint_zero : Go.sprint (wordValue 0) = Nat.toDigits 10 0 := by
  decide +kernel

-- From a million on, the float64 is written with an exponent.
example : (Binary.parseFloat (Nat.toDigits 10 1700000)).map Binary.formatGeneral =
    some "1.7e+06".toList := by decide +kernel

theorem receiveFrames_text (floats : FloatsConvert floatText) (frame : JsonFrame)
    (fromActor : String) :
    Go.Stream.receiveFrames fromActor (frame.text floatText) =
      if Unfiltered (actorParts fromActor) then
        some ⟨frame.vehicleId, "telemetry", Go.sprint (wordValue frame.timestampNs),
          goFields floatText frame⟩
      else none := by
  have read : goReader.read (frame.text floatText) = _ := frame.read_text floatText (by decide)
  have decoded : (goReader.read (frame.text floatText)).bind (Go.decodeMap []) =
      some (goFields floatText frame) := by
    rw [read, Option.bind_some, Go.decodeMap, if_pos (convertible_fields floats frame)]
    rfl
  have device : Go.stringOf (lookup "vehicle_id" (goFields floatText frame)) = frame.vehicleId := by
    rw [lookup_goFields, lookup_vehicle_id]
    rfl
  have other : Go.stringOf (lookup "device" (goFields floatText frame)) = "" := by
    rw [lookup_goFields, lookup_fields_none frame (by decide)]
    rfl
  have stream : Go.stringOf (lookup "type" (goFields floatText frame)) = "telemetry" := by
    rw [lookup_goFields, lookup_type]
    rfl
  have time : lookup "ts" (goFields floatText frame) = some (wordValue frame.timestampNs) := by
    rw [lookup_goFields, lookup_ts]
  simp only [Go.Stream.receiveFrames, decoded, goPasses_iff, device, other, stream, time]
  split_ifs with _ unnamed
  · rw [unnamed]
  · rfl
  · rfl

/-! ## StreamSubscriber -/

theorem pyPasses_iff (frame : JsonFrame) (fromActor : Option String) :
    StreamSubscriber.passes fromActor (frame.fields floatText) = true ↔
      Unfiltered (actorParts (fromActor.getD "")) := by
  simp only [StreamSubscriber.passes, getOr, lookup_sender_type, lookup_sender_id,
    Option.getD_none, isText, Bool.and_eq_true, Bool.or_eq_true, decide_eq_true_eq, Unfiltered]
  grind

theorem receive_text (frame : JsonFrame) (fromActor : Option String) :
    StreamSubscriber.receive repr fromActor (frame.text floatText) =
      if Unfiltered (actorParts (fromActor.getD "")) then
        .frame ⟨.string frame.vehicleId, .string "telemetry",
          String.ofList (Nat.toDigits 10 frame.timestampNs.toNat), frame.fields floatText⟩
      else .skipped := by
  have read : pythonReader.read (frame.text floatText) = _ := frame.read_text floatText (by decide)
  have time : pyStr repr (wordValue frame.timestampNs) =
      String.ofList (Nat.toDigits 10 frame.timestampNs.toNat) := by
    simp only [pyStr, wordValue, Number.toInt?_ofInt]
    rfl
  simp only [StreamSubscriber.receive, read, pyPasses_iff, getOr, lookup_vehicle_id, lookup_type,
    lookup_ts, Option.getD_some, time]

end Frames

/-! ## The vehicle and the time of a frame -/

section Claims

variable (floatText : UInt64 → Number) (repr : Value → String)

/-- Every consumer reads the frame as one of the envelope's vehicle at the envelope's time. -/
def ReadAsSent (env : DataEnvelope) : Prop :=
  ∃ text, envelopeToJsonText floatText (encodeEnvelopeToBuf env) = .ok (some text) ∧
    (∃ frame, Go.OperatorClient.subscribe text = some frame ∧ frame.service = env.vehicleId ∧
      frame.timestamp = env.timestampNs.toNat) ∧
    (∃ frame, Go.Stream.receiveFrames "" text = some frame ∧ frame.device = env.vehicleId ∧
      frame.timestamp = Nat.toDigits 10 env.timestampNs.toNat) ∧
    (∃ frame, StreamSubscriber.receive repr none text = .frame frame ∧
      frame.service = .string env.vehicleId ∧
      frame.timestamp = String.ofList (Nat.toDigits 10 env.timestampNs.toNat))

theorem envelopeToJsonText_encodeEnvelope (env : DataEnvelope) :
    envelopeToJsonText floatText (encodeEnvelopeToBuf env) =
      .ok (some ((rendered env).text floatText)) := by
  rw [envelopeToJsonText, envelopeToJsonFrame_encodeEnvelope]
  rfl

-- The reader of the Go operator finds neither the vehicle nor the time.
theorem ReadAsSent.blank {env : DataEnvelope} (sent : ReadAsSent floatText repr env) :
    env.vehicleId = "" ∧ env.timestampNs = 0 := by
  obtain ⟨text, made, ⟨frame, read, service, time⟩, -⟩ := sent
  have rendering := envelopeToJsonText_encodeEnvelope floatText env
  obtain rfl := Option.some.inj (Outcome.ok.inj (rendering.symm.trans made))
  obtain rfl := Option.some.inj ((subscribe_text _).symm.trans read)
  have zero : env.timestampNs.toNat = 0 := by simpa using time.symm
  exact ⟨service.symm, UInt64.toNat_inj.mp zero⟩

theorem read_as_sent_iff (floats : FloatsConvert floatText) (env : DataEnvelope) :
    ReadAsSent floatText repr env ↔ env.vehicleId = "" ∧ env.timestampNs = 0 := by
  constructor
  · exact ReadAsSent.blank floatText repr
  · rintro ⟨unnamed, zero⟩
    have unfiltered : Unfiltered (actorParts "") := by decide
    have vehicle : (rendered env).vehicleId = "" := unnamed
    have time : (rendered env).timestampNs = 0 := zero
    refine ⟨_, envelopeToJsonText_encodeEnvelope floatText env,
      ⟨_, subscribe_text _, unnamed.symm, by rw [zero]; rfl⟩, ?_, ?_⟩
    · rw [receiveFrames_text floats, if_pos unfiltered]
      refine ⟨_, rfl, vehicle.trans unnamed.symm, ?_⟩
      rw [time, zero]
      exact sprint_zero
    · rw [receive_text]
      exact ⟨_, if_pos unfiltered, by rw [vehicle, unnamed], by rw [time, zero]⟩

end Claims

/-- The texts of the only two numbers that the examples have. -/
def sampleText (bits : UInt64) : Number :=
  if bits = 0 then ⟨"0.0".toList, by decide, by decide⟩ else ⟨"1.0".toList, by decide, by decide⟩

theorem sampleText_converts : FloatsConvert sampleText := by
  intro bits _
  unfold sampleText
  split_ifs
  · decide +kernel
  · decide +kernel

def envelopeAt (vehicleId : String) (timestampNs : UInt64)
    (small : (Utf8.encode vehicleId).length < 64) : DataEnvelope where
  vehicleId := vehicleId
  timestampNs := timestampNs
  streamType := .telemetry
  payload := []
  lat := 0
  lon := 0
  alt := 0
  seq := 0
  fleetId := ""
  orgId := ""
  streamName := ""
  senderId := ""
  senderType := ""
  receiverId := ""
  receiverType := ""
  held := by
    rw [List.length_nil]
    omega

theorem blank_read_as_sent :
    ReadAsSent sampleText (fun _ => "") (envelopeAt "" 0 (by decide)) :=
  (read_as_sent_iff sampleText (fun _ => "") sampleText_converts _).mpr ⟨rfl, rfl⟩

theorem drone_not_read_as_sent :
    ¬ReadAsSent sampleText (fun _ => "") (envelopeAt "drone-1" 1700000000000000000 (by decide)) := by
  intro sent
  exact absurd sent.blank.1 (by decide)

/-! ## The sender of a frame -/

section Senders

variable (floatText : UInt64 → Number) (repr : Value → String)

/-- The actor that the parts of a filter name sent the frame. -/
def SentBy (type id : String) (args : EnvelopeArgs) : Prop :=
  args.senderType = type ∧ (id = "*" ∨ args.senderId = id)

/-- Both readers yield the frame if and only if the actor sent it. -/
def FiltersBySender (type id : String) (args : EnvelopeArgs) (text : List Char) : Prop :=
  ((∃ frame, StreamSubscriber.receive repr (some (type ++ ":" ++ id)) text = .frame frame) ↔
      SentBy type id args) ∧
    ((∃ frame, Go.Stream.receiveFrames (type ++ ":" ++ id) text = some frame) ↔
      SentBy type id args)

variable {floatText repr}

theorem yields_iff (floats : FloatsConvert floatText) {type id : String}
    (plain : ':' ∉ type.toList) (frame : JsonFrame) (args : EnvelopeArgs) :
    FiltersBySender repr type id args (frame.text floatText) ↔
      (SentBy type id args ↔ Unfiltered (type, id)) := by
  have parts := actorParts_joined plain id
  have python : (∃ shown, StreamSubscriber.receive repr (some (type ++ ":" ++ id))
      (frame.text floatText) = .frame shown) ↔ Unfiltered (type, id) := by
    rw [receive_text, Option.getD_some, parts]
    split_ifs with unfiltered
    · exact iff_of_true ⟨_, rfl⟩ unfiltered
    · exact iff_of_false (by simp) unfiltered
  have go : (∃ shown, Go.Stream.receiveFrames (type ++ ":" ++ id) (frame.text floatText) =
      some shown) ↔ Unfiltered (type, id) := by
    rw [receiveFrames_text floats, parts]
    split_ifs with unfiltered
    · exact iff_of_true ⟨_, rfl⟩ unfiltered
    · exact iff_of_false (by simp) unfiltered
  rw [FiltersBySender, python, go, and_self_iff]
  exact iff_comm

theorem encodeDataEnvelope_packed {args : EnvelopeArgs} {ts : UInt64} {bytes : List UInt8}
    (encoded : encodeDataEnvelope args ts = .ok bytes) :
    ∃ alt, Binary.narrow args.alt = some alt := by
  cases packed : Binary.narrow args.alt with
  | some alt => exact ⟨alt, rfl⟩
  | none =>
    have nonzero : ¬isZero args.alt = true := by
      intro zero
      obtain ⟨single, is, -⟩ := narrow_isZero zero
      cases packed.symm.trans is
    simp [encodeDataEnvelope, fieldFloat, packed, nonzero] at encoded

theorem encodeDataEnvelope_rendered (floatText : UInt64 → Number) {args : EnvelopeArgs} {ts : UInt64} {bytes : List UInt8}
    (encoded : encodeDataEnvelope args ts = .ok bytes) :
    ∃ frame : JsonFrame, envelopeToJsonText floatText bytes = .ok (some (frame.text floatText)) := by
  obtain ⟨alt, packed⟩ := encodeDataEnvelope_packed encoded
  obtain ⟨numbers, held⟩ := dataEnvelope_good args ts alt
  obtain rfl := Outcome.ok.inj ((encodeDataEnvelope_eq ts packed).symm.trans encoded)
  refine ⟨(dataEnvelopeFields args ts alt).foldl jsonFrameSink.apply ⟨"", 0, 0, [], 0, 0, 0⟩, ?_⟩
  rw [envelopeToJsonText, envelopeToJsonFrame, decode_encode _ _ _ numbers held]
  rfl

theorem filters_by_sender_iff (floats : FloatsConvert floatText) {args : EnvelopeArgs} {ts : UInt64}
    {bytes : List UInt8} (encoded : encodeDataEnvelope args ts = .ok bytes) {type : String}
    (plain : ':' ∉ type.toList) (id : String) :
    ∃ text, envelopeToJsonText floatText bytes = .ok (some text) ∧
      (FiltersBySender repr type id args text ↔
        if type = "" ∧ (id = "" ∨ id = "*") then
          args.senderType = "" ∧ (id = "*" ∨ args.senderId = "")
        else ¬SentBy type id args) := by
  obtain ⟨frame, rendered⟩ := encodeDataEnvelope_rendered floatText encoded
  refine ⟨_, rendered, ?_⟩
  rw [yields_iff floats plain]
  split_ifs with unfiltered
  · rw [iff_true_right (show Unfiltered (type, id) from unfiltered), SentBy, unfiltered.1]
    refine and_congr_right fun _ => ?_
    rcases unfiltered.2 with rfl | rfl
    · rfl
    · simp
  · rw [iff_false_right (show ¬Unfiltered (type, id) from unfiltered)]

end Senders

def deviceArgs : EnvelopeArgs where
  vehicleId := ""
  stream := "telemetry"
  payload := []
  lat := 0
  lon := 0
  alt := 0
  seq := 0
  fleetId := ""
  orgId := ""
  streamName := ""
  senderId := "d1"
  senderType := "device"
  receiverId := ""
  receiverType := ""
  held := by decide

theorem device_encoded : ∃ bytes, encodeDataEnvelope deviceArgs 1 = .ok bytes := by
  have zero : isZero deviceArgs.alt = true := rfl
  obtain ⟨alt, packed, -⟩ := narrow_isZero zero
  exact ⟨_, encodeDataEnvelope_eq 1 packed⟩

theorem other_device_filtered :
    ∃ bytes text, encodeDataEnvelope deviceArgs 1 = .ok bytes ∧
      envelopeToJsonText sampleText bytes = .ok (some text) ∧
      FiltersBySender (fun _ => "") "device" "d2" deviceArgs text := by
  obtain ⟨bytes, encoded⟩ := device_encoded
  have plain : ':' ∉ "device".toList := by decide
  obtain ⟨text, forwarded, filters⟩ := filters_by_sender_iff sampleText_converts encoded plain "d2"
  refine ⟨bytes, text, encoded, forwarded, filters.mpr ?_⟩
  rw [if_neg (by decide)]
  rintro ⟨-, any | same⟩
  · exact absurd any (by decide)
  · exact absurd same (by decide)

-- The device is the one that the filter names, and neither reader yields its frame.
theorem own_device_dropped :
    ∃ bytes text, encodeDataEnvelope deviceArgs 1 = .ok bytes ∧
      envelopeToJsonText sampleText bytes = .ok (some text) ∧
      ¬FiltersBySender (fun _ => "") "device" "d1" deviceArgs text := by
  obtain ⟨bytes, encoded⟩ := device_encoded
  have plain : ':' ∉ "device".toList := by decide
  obtain ⟨frame, rendered⟩ := encodeDataEnvelope_rendered sampleText encoded
  refine ⟨bytes, _, encoded, rendered, ?_⟩
  rw [yields_iff sampleText_converts plain]
  intro same
  exact absurd (same.mp ⟨rfl, .inr rfl⟩) (by decide)

end SystemScale.Contract
