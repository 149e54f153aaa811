import SystemScale.Cloud.Ilp
import SystemScale.Relay.Telemetry

set_option autoImplicit false

/-!
# Whose row a telemetry frame becomes

The relay knows the vehicle from its certificate and names it in the subject. The row is built
from the frame, in another service, and the subject is not read there.
-/

namespace SystemScale.Contract

open Cloud Relay Wire

def storedRow (vehicleId : String) (frame : List UInt8) : Option Tags :=
  match handleTelemetryFrame vehicleId frame with
  | .ok message => processMessage message.data
  | _ => none

/-- Both rows name the vehicle, and no choice of frame tells their organisation or project apart. -/
def RowsIdentified (vehicleId : String) (first second : List UInt8) : Prop :=
  ∀ row other, storedRow vehicleId first = some row → storedRow vehicleId second = some other →
    row.lookup "vehicle_id" = some (Utf8.encode vehicleId) ∧
    other.lookup "vehicle_id" = some (Utf8.encode vehicleId) ∧
    row.lookup "org_id" = other.lookup "org_id" ∧
    row.lookup "project_id" = other.lookup "project_id"

/-- The relay takes the frame, and it is a protobuf message of these fields. -/
def Sent (frame : List UInt8) (fields : List Field) : Prop :=
  frame.length ≤ 65536 ∧ (fastReadStreamType frame).isSome ∧ Reads frame fields

/-- The frames name the vehicle in field 1, and have the same fields 16 and 17. -/
def Honest (vehicleId : String) (first second : List UInt8) : Prop :=
  ∀ fields others, Sent first fields → Sent second others →
    lastDelimited 1 fields = Utf8.encode vehicleId ∧
    lastDelimited 1 others = Utf8.encode vehicleId ∧
    lastDelimited 17 fields = lastDelimited 17 others ∧
    lastDelimited 16 fields = lastDelimited 16 others

theorem storedRow_iff (vehicleId : String) (frame : List UInt8) (row : Tags) :
    storedRow vehicleId frame = some row ↔
      ∃ fields, Sent frame fields ∧
        buildILPTags (fields.foldl Envelope.apply .empty) = row := by
  constructor
  · intro stored
    unfold storedRow at stored
    split at stored
    next message published =>
      obtain ⟨small, read, is⟩ := handleTelemetryFrame_ok published
      rw [is, processMessage] at stored
      split at stored
      next env decoded =>
        obtain ⟨fields, reads, rfl⟩ := (decodeDataEnvelope_ok_iff (by omega) env).mp decoded
        exact ⟨fields, ⟨small, read, reads⟩, Option.some.inj stored⟩
      next => simp at stored
    next => simp at stored
  · rintro ⟨fields, ⟨small, read, reads⟩, rfl⟩
    obtain ⟨message, published⟩ := handleTelemetryFrame_publishes vehicleId small read
    have decoded := (decodeDataEnvelope_ok_iff (by omega) _).mpr ⟨fields, reads, rfl⟩
    simp only [storedRow, published, (handleTelemetryFrame_ok published).2.2, processMessage,
      decoded]

theorem row_names (fields : List Field) :
    (buildILPTags (fields.foldl Envelope.apply .empty)).lookup "vehicle_id" =
      some (lastDelimited 1 fields) ∧
    (buildILPTags (fields.foldl Envelope.apply .empty)).lookup "org_id" =
      tagged (lastDelimited 17 fields) ∧
    (buildILPTags (fields.foldl Envelope.apply .empty)).lookup "project_id" =
      tagged (lastDelimited 16 fields) := by
  obtain ⟨vehicle, fleet, org⟩ := foldl_delimited fields
  obtain ⟨project_tag, org_tag, _⟩ := lookup_names (fields.foldl Envelope.apply .empty)
  rw [lookup_vehicle, project_tag, org_tag, vehicle, fleet, org]
  exact ⟨rfl, rfl, rfl⟩

theorem rows_identified_iff (vehicleId : String) (first second : List UInt8) :
    RowsIdentified vehicleId first second ↔ Honest vehicleId first second := by
  constructor
  · intro identified fields others sent sent_other
    have rows := identified _ _ ((storedRow_iff _ _ _).mpr ⟨fields, sent, rfl⟩)
      ((storedRow_iff _ _ _).mpr ⟨others, sent_other, rfl⟩)
    simpa only [row_names, Option.some.injEq, tagged_inj] using rows
  · intro honest row other stored stored_other
    obtain ⟨fields, sent, rfl⟩ := (storedRow_iff _ _ _).mp stored
    obtain ⟨others, sent_other, rfl⟩ := (storedRow_iff _ _ _).mp stored_other
    simpa only [row_names, Option.some.injEq, tagged_inj] using
      honest fields others sent sent_other

-- The envelope names the vehicle "v2" and an organisation of one letter.
def forged (org : UInt8) : List UInt8 := [0x0A, 2, 0x76, 0x32, 0x8A, 1, 1, org]

theorem forged_sent (org : UInt8) :
    Sent (forged org) [⟨1, .delimited (Utf8.encode "v2")⟩, ⟨17, .delimited [org]⟩] :=
  ⟨by simp [forged], rfl, .cons rfl (.cons rfl .nil)⟩

-- Vehicle "v1" writes rows of another vehicle.
theorem forged_row_stored : ¬ RowsIdentified "v1" (forged 97) (forged 98) := by
  intro identified
  have rows := identified _ _ ((storedRow_iff _ _ _).mpr ⟨_, forged_sent 97, rfl⟩)
    ((storedRow_iff _ _ _).mpr ⟨_, forged_sent 98, rfl⟩)
  rw [(row_names _).1] at rows
  exact absurd rows.1 (by decide)

end SystemScale.Contract
