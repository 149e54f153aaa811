import SystemScale.Cloud.IngestCodec
import SystemScale.Lib.Utf8

set_option autoImplicit false

/-!
# telemetry-ingest's rows

`buildILPLine` writes the tags in this order, an empty one not at all.
-/

namespace SystemScale.Cloud

open Wire

def streamTypeNames : UInt64 → String
  | 1 => "telemetry"
  | 2 => "event"
  | 3 => "sensor"
  | 5 => "log"
  | _ => ""

def stName (streamType : UInt64) : String :=
  if streamTypeNames streamType = "" then s!"type_{streamType.toNat}"
  else streamTypeNames streamType

abbrev Tags := List (String × GoString)

def optionalTag (name : String) (value : GoString) : Tags :=
  if value ≠ [] then [(name, value)] else []

/-- The tags of the line for an envelope, before their values are escaped. -/
def buildILPTags (env : Envelope) : Tags :=
  [("vehicle_id", env.vehicleID), ("stream_type", Utf8.encode (stName env.streamType))] ++
  optionalTag "project_id" env.fleetID ++
  optionalTag "org_id" env.orgID ++
  optionalTag "stream_name" env.streamName ++
  optionalTag "sender_id" env.senderID ++
  optionalTag "sender_type" env.senderType ++
  optionalTag "receiver_id" env.receiverID ++
  optionalTag "receiver_type" env.receiverType

/-- One iteration of `processMessages`: the tags of the row, or `none` where the message is given
up. -/
def processMessage (data : List UInt8) : Option Tags :=
  match decodeDataEnvelope data with
  | .ok env => some (buildILPTags env)
  | _ => none

/-! ## What a row says -/

def tagged (value : GoString) : Option GoString := if value ≠ [] then some value else none

theorem tagged_inj {first second : GoString} : tagged first = tagged second ↔ first = second := by
  unfold tagged
  split_ifs with some_first some_second some_second <;> simp_all [eq_comm]

theorem lookup_optionalTag (name other : String) (value : GoString) (rest : Tags) :
    (optionalTag other value ++ rest).lookup name =
      if name = other then (tagged value).or (rest.lookup name) else rest.lookup name := by
  unfold optionalTag tagged
  by_cases same : name = other
  · split_ifs <;> simp [same]
  · have differ : (name == other) = false := beq_false_of_ne same
    rw [if_neg same]
    split_ifs <;> simp [differ, List.lookup_cons]

theorem lookup_lastTag (name other : String) (value : GoString) :
    (optionalTag other value).lookup name = if name = other then tagged value else none := by
  have whole := lookup_optionalTag name other value []
  simpa using whole

theorem lookup_vehicle (env : Envelope) :
    (buildILPTags env).lookup "vehicle_id" = some env.vehicleID := rfl

theorem lookup_names (env : Envelope) :
    (buildILPTags env).lookup "project_id" = tagged env.fleetID ∧
    (buildILPTags env).lookup "org_id" = tagged env.orgID ∧
    (buildILPTags env).lookup "stream_name" = tagged env.streamName ∧
    (buildILPTags env).lookup "sender_id" = tagged env.senderID ∧
    (buildILPTags env).lookup "sender_type" = tagged env.senderType ∧
    (buildILPTags env).lookup "receiver_id" = tagged env.receiverID ∧
    (buildILPTags env).lookup "receiver_type" = tagged env.receiverType := by
  simp [buildILPTags, List.lookup_cons, lookup_optionalTag, lookup_lastTag]

end SystemScale.Cloud
