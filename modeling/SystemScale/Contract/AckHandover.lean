import SystemScale.Agent.AckPath
import SystemScale.Relay.Telemetry

set_option autoImplicit false

/-!
# Acknowledgments from the agent to the relay

`send_acks_loop` of the agent with `receive_command_acks` of the relay, over any number of
connections.
-/

namespace SystemScale.Contract

open AdapterTrait (Ack)
open Agent Relay
open Handover (Link)

/-- What the relay makes of the part of a connection's stream that arrives, in any chunks. -/
def Relayed (link : Link Ack) : Prop :=
  ∀ (vehicleId : String) (cut : Nat) (chunks : List (List UInt8)),
    chunks.flatten = link.bytes.take cut →
    ∃ session, (receiveCommandAcks vehicleId).run chunks = some session ∧
      session.payloads <+: link.sent.map encodeAck ∧
      (link.bytes.length ≤ cut → session.payloads = link.sent.map encodeAck)

/-- Where the acknowledgments are. -/
structure AckDelivery (state : AckPath) : Prop where
  -- Each command has a task that still runs, or one acknowledgment.
  dispatched : state.dispatched.Perm (state.running ++ state.answered.map Prod.fst)
  offered : (state.answered.map Prod.snd ++ state.posted).Perm
    (state.path.waiting ++ state.path.entered)
  -- In the order of the channel: what was taken for ended connections and for this one, and what
  -- still stands in it.
  inOrder : state.path.entered = state.path.ended.flatMap Link.taken ++
    ((state.path.current.map Link.taken).getD [] ++ state.path.queue)
  room : state.path.queue.length ≤ 64
  -- With a connection that ends goes the one that is being written.
  lost : ∀ link ∈ state.path.ended, link.taken.length ≤ link.sent.length + 1
  relayed : ∀ link ∈ state.path.ended ++ state.path.current.toList,
    (∀ ack ∈ link.taken, (encodeAck ack).length ≤ 4096) → Relayed link

theorem taken_length (link : Link Ack) : link.taken.length ≤ link.sent.length + 1 := by
  obtain ⟨sent, bytes, writing⟩ := link
  cases writing <;> simp [Link.taken]

theorem wrote_relayed {link : Link Ack} (wrote : link.Wrote encodeAck)
    (small : ∀ ack ∈ link.taken, (encodeAck ack).length ≤ 4096) : Relayed link :=
  fun vehicleId _ _ arrived => wrote.relayed (by simp [receiveCommandAcks])
    (receiveCommandAcks_accepts vehicleId) small arrived

def readyAck : Ack := ⟨"c1", .completed, "", 7, by decide⟩

/-- The connection is lost in the frame of a command's acknowledgment, behind that of a post. -/
def lostAck : List AckPath.Action :=
  [.dispatch ⟨"v", "c1", [], .normal, 0⟩, .post true "c1" ⟨"ok", ""⟩ 7, .connect, .take, .write 12,
    .returns 0 (.ok readyAck) 9, .enter 0, .take, .write 5, .disconnect]

end SystemScale.Contract
