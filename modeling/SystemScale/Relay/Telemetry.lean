import SystemScale.Lib.Frames
import SystemScale.Lib.Scan

set_option autoImplicit false

/-!
# relay-core's streams from the vehicle

Each frame is published unchanged; of telemetry only the stream type is read, for the subject.
-/

namespace SystemScale.Relay

open Wire

/-- The value, and the position after the bytes that were looked at. -/
def protoReadVarintFast (buf : List UInt8) (pos : Nat) : Option UInt64 × Nat :=
  match Varint.read (buf.drop pos) with
  | .value word length => (some word, pos + length)
  | .truncated => (none, max pos buf.length)
  | .overflow => (none, pos + 10)

-- The result holds the 32 bits of an `i32`.
def fastReadStep (buf : List UInt8) (pos : Nat) : Step Nat UInt32 :=
  if pos < buf.length ∧ pos < 64 then
    match protoReadVarintFast buf pos with
    | (none, _) => .done 1
    | (some tag, pos) =>
      if (tag >>> 3).toUInt32 = 3 ∧ tag &&& 0x7 = 0 then
        .done ((protoReadVarintFast buf pos).1.getD 0).toUInt32
      else
        match (tag &&& 0x7).toNat with
        | 0 => .next (protoReadVarintFast buf pos).2
        | 1 => .next (pos + 8)
        | 2 =>
          let (len, pos) := protoReadVarintFast buf pos
          .next ((pos + (len.getD 0).toNat) % 2 ^ 64)
        | 5 => .next (pos + 4)
        | _ => .done 1
  else .done 1

-- The sum of a length may wrap. A position below 64 that comes back comes back for ever, so more
-- iterations than positions never end.
def fastReadStreamType (buf : List UInt8) : Option UInt32 := loop (fastReadStep buf) 65 0

def streamTypeName : UInt32 → String
  | 1 => "telemetry"
  | 2 => "event"
  | 3 => "sensor"
  | 4 => "video_meta"
  | 5 => "log"
  | 6 => "audio"
  | _ => "unknown"

structure Message where
  subject : String
  data : List UInt8

/-- One iteration of `handle_telemetry_stream`, after the frame was read. -/
def handleTelemetryFrame (vehicleId : String) (frame : List UInt8) : Outcome Message :=
  if frame.length > 65536 then .err "frame too large"
  else
    match fastReadStreamType frame with
    | none => .hang
    | some value => .ok ⟨s!"telemetry.{vehicleId}.{streamTypeName value}", frame⟩

theorem handleTelemetryFrame_ok {vehicleId : String} {frame : List UInt8} {message : Message}
    (published : handleTelemetryFrame vehicleId frame = .ok message) :
    frame.length ≤ 65536 ∧ (fastReadStreamType frame).isSome ∧ message.data = frame := by
  unfold handleTelemetryFrame at published
  split_ifs at published with large
  split at published
  next => simp at published
  next value read =>
    obtain rfl := Outcome.ok.inj published
    exact ⟨by omega, by simp [read], rfl⟩

theorem handleTelemetryFrame_publishes (vehicleId : String) {frame : List UInt8}
    (small : frame.length ≤ 65536) (read : (fastReadStreamType frame).isSome) :
    ∃ message, handleTelemetryFrame vehicleId frame = .ok message := by
  obtain ⟨value, is⟩ := Option.isSome_iff_exists.mp read
  rw [handleTelemetryFrame, if_neg (by omega), is]
  exact ⟨_, rfl⟩

/-! ## The readers -/

def handleTelemetryStream (vehicleId : String) : Frames.Reader Message where
  limit := 65536
  tooLarge _ := "frame too large"
  handle := handleTelemetryFrame vehicleId

def ackSubject (vehicleId : String) : String := s!"command.{vehicleId}.ack"

def receiveCommandAcks (vehicleId : String) : Frames.Reader Message where
  limit := 4096
  tooLarge _ := "ACK frame too large"
  handle payload := .ok ⟨ackSubject vehicleId, payload⟩

theorem handleTelemetryStream_accepts {vehicleId : String} {payload : List UInt8}
    (small : payload.length ≤ 65536) :
    (handleTelemetryStream vehicleId).accepts payload ↔ (fastReadStreamType payload).isSome := by
  rw [Frames.Reader.accepts_iff]
  constructor
  · rintro ⟨message, published⟩
    exact (handleTelemetryFrame_ok published).2.1
  · exact handleTelemetryFrame_publishes vehicleId small

theorem receiveCommandAcks_accepts (vehicleId : String) (payload : List UInt8) :
    (receiveCommandAcks vehicleId).accepts payload := rfl

end SystemScale.Relay
