import SystemScale.Agent.CommandCodec
import SystemScale.Agent.Transport
import SystemScale.Relay.Forwarder
import SystemScale.Relay.Telemetry

set_option autoImplicit false

/-!
# The frames between agent and relay

Three pairs of a loop that writes frames and a reader at the other end. Publishing and the channel
of the adapter do not fail here.
-/

namespace SystemScale.Contract

open AdapterTrait Agent Relay Wire

/-! ## What is delivered -/

/-- Of a stream of which `cut` bytes arrive, in these chunks, the complete frames are delivered. -/
def Delivers {D : Type} (reader : Frames.Reader D) (payloads : List (List UInt8)) (cut : Nat)
    (chunks : List (List UInt8)) : Prop :=
  ∃ session, reader.run chunks = some session ∧ session.payloads = Frames.complete cut payloads

theorem agent_frames (payloads : List (List UInt8)) :
    payloads.flatMap Agent.frame = Frames.frames payloads := rfl

theorem relay_frames (commands : List Command) :
    commands.flatMap commandFrame = Frames.frames (commands.map Command.payload) := by
  rw [Frames.frames, List.flatMap_map]
  rfl

/-- The bytes go through: acknowledgments always, telemetry if the search for the stream type ends,
and commands if the decoder does not slice out of range. -/
theorem streams_deliver_iff (vehicleId : String) (cut : Nat) (chunks : List (List UInt8)) :
    (∀ payloads : List (List UInt8), (∀ payload ∈ payloads, payload.length ≤ 65536) →
      chunks.flatten = (payloads.flatMap Agent.frame).take cut →
      (Delivers (handleTelemetryStream vehicleId) payloads cut chunks ↔
        ∀ payload ∈ Frames.complete cut payloads, (fastReadStreamType payload).isSome)) ∧
    (∀ payloads : List (List UInt8), (∀ payload ∈ payloads, payload.length ≤ 4096) →
      chunks.flatten = (payloads.flatMap Agent.frame).take cut →
      Delivers (receiveCommandAcks vehicleId) payloads cut chunks) ∧
    (∀ commands : List Command, (∀ command ∈ commands, command.payload.length ≤ 65536) →
      chunks.flatten = (commands.flatMap commandFrame).take cut →
      (Delivers receiveCommandsLoop (commands.map Command.payload) cut chunks ↔
        ∀ payload ∈ Frames.complete cut (commands.map Command.payload),
          decodeCommandEnvelope payload ≠ .panic)) := by
  refine ⟨?_, ?_, ?_⟩
  · intro payloads small stream
    rw [agent_frames] at stream
    have whole := Frames.Reader.delivers_iff (handleTelemetryStream vehicleId)
      (by simp [handleTelemetryStream]) small stream
    rw [Delivers, whole]
    refine forall₂_congr fun payload member => ?_
    exact handleTelemetryStream_accepts (small payload (Frames.mem_of_complete member))
  · intro payloads small stream
    rw [agent_frames] at stream
    have whole := Frames.Reader.delivers_iff (receiveCommandAcks vehicleId)
      (by simp [receiveCommandAcks]) small stream
    exact whole.mpr fun payload _ => receiveCommandAcks_accepts vehicleId payload
  · intro commands small stream
    rw [relay_frames] at stream
    have within : ∀ payload ∈ commands.map Command.payload, payload.length ≤ 65536 := by
      intro payload member
      obtain ⟨command, inside, rfl⟩ := List.mem_map.mp member
      exact small command inside
    have whole := Frames.Reader.delivers_iff receiveCommandsLoop
      (by simp [receiveCommandsLoop]) within stream
    rw [Delivers, whole]
    exact forall₂_congr fun payload _ => receiveCommandsLoop_accepts payload

-- The stream is cut in the second prefix.
theorem acks_delivered_before_cut :
    Delivers (receiveCommandAcks "v") [[9], [8, 7]] 7 [[1, 0], [0, 0, 9, 2, 0]] :=
  (streams_deliver_iff "v" 7 [[1, 0], [0, 0, 9, 2, 0]]).2.1 [[9], [8, 7]] (by simp) rfl

/-- A vehicle_id whose length is `2 ^ 64 - 1`. -/
def endless : List UInt8 := [0x0A, 0xFF, 0xFF, 0xFF, 0xFF, 0xFF, 0xFF, 0xFF, 0xFF, 0xFF, 0x01]

def shortCommand : List UInt8 := [0x0A, 1, 0x76, 0x12, 1, 0x63]

-- The command behind it is never read.
theorem endless_undelivered :
    endless.length ≤ 65536 ∧ shortCommand.length ≤ 65536 ∧
      ¬ Delivers receiveCommandsLoop [endless, shortCommand] 25
        [([⟨0, "command.v", endless⟩, ⟨1, "command.v", shortCommand⟩] : List Command).flatMap
          commandFrame] := by
  refine ⟨by decide, by decide, ?_⟩
  have small : ∀ payload ∈ [endless, shortCommand], payload.length ≤ 65536 := by decide
  have whole := Frames.Reader.delivers_iff receiveCommandsLoop
    (by simp [receiveCommandsLoop]) small
    (show [([⟨0, "command.v", endless⟩, ⟨1, "command.v", shortCommand⟩] : List Command).flatMap
      commandFrame].flatten = (Frames.frames [endless, shortCommand]).take 25 from rfl)
  intro delivers
  have survives := (receiveCommandsLoop_accepts endless).mp (whole.mp delivers endless (by decide))
  exact survives rfl

end SystemScale.Contract
