import SystemScale.Agent.Encode
import SystemScale.Agent.LocalApi
import SystemScale.Lib.Handover

set_option autoImplicit false

/-!
# Acknowledgments on their way out

Each command that the agent takes is dispatched in a task of its own, and the SDK posts what it has
to say. Both put acknowledgments into one channel, which `send_acks_loop` writes to the relay over
one connection after another.
-/

namespace SystemScale.Agent

open AdapterTrait
open Wire (Outcome)

/-- `mpsc::channel::<adapter_trait::Ack>(64)` -/
def ackChannel : Nat := 64

structure AckPath where
  -- Commands whose task waits for the adapter.
  running : List CommandEnvelope
  path : Handover.State Ack
  -- What has been dispatched, answered by the adapter, and posted with success.
  dispatched : List CommandEnvelope
  answered : List (CommandEnvelope × Ack)
  posted : List Ack

namespace AckPath

/-- The acknowledgment of a command when `send_command` returns. -/
def commandAck (cmd : CommandEnvelope) (nowNs : UInt64) : Except String Ack → Outcome Ack
  | .ok ack => .ok ack
  | .error e =>
    if held : (Utf8.encode cmd.commandId).length + (Utf8.encode e).length + 128 < 2 ^ 63 then
      .ok
        { commandId := cmd.commandId
          status := .failed
          message := e
          ackTimeNs := nowNs
          held := held }
    else .panic

inductive Action where
  | dispatch (cmd : CommandEnvelope)
  | returns (index : Nat) (result : Except String Ack) (nowNs : UInt64)
  -- The channel may be full for a post while a sender is about to take the room.
  | post (room : Bool) (commandId : String) (req : AckRequest) (nowNs : UInt64)
  | enter (index : Nat)
  | connect
  | take
  | write (count : Nat)
  | disconnect

def start : AckPath := ⟨[], .start, [], [], []⟩

def handOver (state : AckPath) (action : Handover.Action Ack) : Option AckPath :=
  (state.path.step encodeAck ackChannel action).map fun path => { state with path }

def step (state : AckPath) : Action → Option AckPath
  | .dispatch cmd =>
    some { state with running := state.running ++ [cmd], dispatched := state.dispatched ++ [cmd] }
  | .returns index result nowNs =>
    state.running[index]?.bind fun cmd =>
      match commandAck cmd nowNs result with
      | .ok ack =>
        { state with
          running := state.running.eraseIdx index
          answered := state.answered ++ [(cmd, ack)] }.handOver (.offer ack)
      | _ => none
  | .post room commandId req nowNs =>
    match handleAck room commandId req nowNs with
    | .ok (_, some ack) => { state with posted := state.posted ++ [ack] }.handOver (.put ack)
    | .ok (_, none) => some state
    | _ => none
  | .enter index => state.handOver (.enter index)
  | .connect => state.handOver .connect
  | .take => state.handOver .take
  | .write count => state.handOver (.write count)
  | .disconnect => state.handOver .disconnect

/-- Everything that was handed over is in one place: it waits, or stands in the channel, or was taken
out for one of the connections. -/
structure Accounted (state : AckPath) : Prop where
  dispatched : state.dispatched.Perm (state.running ++ state.answered.map Prod.fst)
  offered : (state.answered.map Prod.snd ++ state.posted).Perm
    (state.path.waiting ++ state.path.entered)
  kept : Handover.Kept encodeAck ackChannel state.path

/-! ## One step -/

section Steps

variable {state next : AckPath}

theorem Accounted.start : Accounted .start :=
  ⟨List.Perm.refl _, List.Perm.refl _, Handover.Kept.start⟩

theorem handOver_some {action : Handover.Action Ack} (taken : state.handOver action = some next) :
    next.running = state.running ∧ next.dispatched = state.dispatched ∧
      next.answered = state.answered ∧ next.posted = state.posted ∧
      state.path.step encodeAck ackChannel action = some next.path := by
  obtain ⟨path, stepped, rfl⟩ := Option.map_eq_some_iff.mp taken
  exact ⟨rfl, rfl, rfl, rfl, stepped⟩

-- What comes in by the action is accounted for beside what was before.
theorem Accounted.handOver {action : Handover.Action Ack}
    (taken : state.handOver action = some next)
    (dispatched : state.dispatched.Perm (state.running ++ state.answered.map Prod.fst))
    (offered : (state.answered.map Prod.snd ++ state.posted).Perm
      (state.path.waiting ++ state.path.entered ++ action.items))
    (kept : Handover.Kept encodeAck ackChannel state.path) : Accounted next := by
  obtain ⟨running, commands, answered, posted, stepped⟩ := handOver_some taken
  refine ⟨?_, ?_, kept.step stepped⟩
  · rw [running, commands, answered]
    exact dispatched
  · rw [answered, posted]
    exact offered.trans (Handover.step_offered stepped).symm

theorem Accounted.inside {action : Handover.Action Ack} (accounted : Accounted state)
    (nothing : action.items = []) (taken : state.handOver action = some next) : Accounted next := by
  refine Accounted.handOver taken accounted.dispatched ?_ accounted.kept
  rw [nothing, List.append_nil]
  exact accounted.offered

theorem Accounted.step {action : Action} (accounted : Accounted state)
    (taken : state.step action = some next) : Accounted next := by
  cases action with
  | dispatch cmd =>
    obtain rfl := Option.some.inj taken
    refine ⟨?_, accounted.offered, accounted.kept⟩
    refine (accounted.dispatched.append_right [cmd]).trans ?_
    simp only [List.append_assoc]
    exact List.perm_append_comm.append_left _
  | returns index result nowNs =>
    obtain ⟨cmd, found, done⟩ := Option.bind_eq_some_iff.mp taken
    split at done
    · next ack acked =>
      obtain ⟨inside, rfl⟩ := List.getElem?_eq_some_iff.mp found
      refine Accounted.handOver done ?_ ?_ accounted.kept
      · refine accounted.dispatched.trans ?_
        simp only [List.map_append, List.map_cons, List.map_nil, ← List.append_assoc]
        refine ((List.getElem_cons_eraseIdx_perm inside).symm.append_right _).trans ?_
        exact (List.perm_append_singleton _ _).symm
      · have last : ([ack] ++ state.posted).Perm (state.posted ++ [ack]) := List.perm_append_comm
        simp only [List.map_append, List.map_cons, List.map_nil, Handover.Action.items,
          List.append_assoc]
        refine (last.append_left _).trans ?_
        simp only [← List.append_assoc]
        exact accounted.offered.append_right [ack]
    · cases done
  | post room commandId req nowNs =>
    simp only [AckPath.step] at taken
    split at taken
    · next ack _ =>
      refine Accounted.handOver taken accounted.dispatched ?_ accounted.kept
      simp only [Handover.Action.items, ← List.append_assoc]
      exact accounted.offered.append_right [ack]
    · obtain rfl := Option.some.inj taken
      exact accounted
    · cases taken
  | enter index => exact accounted.inside rfl taken
  | connect => exact accounted.inside rfl taken
  | take => exact accounted.inside rfl taken
  | write count => exact accounted.inside rfl taken
  | disconnect => exact accounted.inside rfl taken

end Steps

end AckPath

end SystemScale.Agent
