import SystemScale.Cloud.Proto
import SystemScale.Lib.Runs

set_option autoImplicit false

/-!
# Core subscriptions of the NATS router

`NATSRouter.Subscribe` without a durable name: the client library's callback sends on the channel
that another goroutine closes when the context ends.
-/

namespace SystemScale.Cloud

open Runs

namespace NatsRouter

structure Message where
  subject : GoString
  data : List UInt8
  reply : GoString
  deriving DecidableEq

/-- Where the goroutine is that waits for `ctx.Done()`. -/
inductive Closer where
  | waiting
  | unsubscribed
  | closed
  deriving DecidableEq

structure Subscription where
  -- Messages whose callback the client library has begun and which is not past its `select`.
  callbacks : List Message
  channel : List Message
  cancelled : Bool
  closer : Closer
  panicked : Bool
  deriving DecidableEq

inductive Action where
  | callback (message : Message)
  | select (index : Nat)
  | receive
  | cancel
  | unsubscribe
  | close

def channelCapacity : Nat := 256

def subscribe : Subscription :=
  { callbacks := [], channel := [], cancelled := false, closer := .waiting, panicked := false }

/-- The non-blocking send of one callback: `select` panics on a closed channel, full or not. -/
def send (state : Subscription) (message : Message) : Subscription :=
  if state.closer = .closed then { state with panicked := true }
  else if state.channel.length < channelCapacity then
    { state with channel := state.channel ++ [message] }
  else state

/-- The library begins no callback once `Unsubscribe` has returned, but `Unsubscribe` does not wait
for those that run. -/
def act (state : Subscription) : Action → Option Subscription
  | .callback message =>
      if state.closer = .waiting then
        some { state with callbacks := state.callbacks ++ [message] }
      else none
  | .select index =>
      state.callbacks[index]?.map fun message =>
        send { state with callbacks := state.callbacks.eraseIdx index } message
  | .receive =>
      match state.channel with
      | [] => none
      | _ :: rest => some { state with channel := rest }
  | .cancel => some { state with cancelled := true }
  | .unsubscribe =>
      if state.cancelled ∧ state.closer = .waiting then
        some { state with closer := .unsubscribed }
      else none
  | .close =>
      if state.closer = .unsubscribed then some { state with closer := .closed } else none

/-- The panic of one goroutine ends the process. -/
def step (state : Subscription) (action : Action) : Option Subscription :=
  if state.panicked then none else act state action

/-- `close(ch)` runs only when every callback that has begun is past its `select`. -/
def Drained (state : Subscription) : Action → Prop
  | .close => state.callbacks = []
  | _ => True

/-- A closed channel has no callback left that could send on it. -/
structure Quiet (state : Subscription) : Prop where
  calm : state.panicked = false
  empty : state.closer = .closed → state.callbacks = []

section Rules

variable {state next : Subscription}

theorem send_closer (message : Message) : (send state message).closer = state.closer := by
  unfold send
  split_ifs <;> rfl

theorem send_panicked (message : Message) :
    (send state message).panicked = (state.panicked || decide (state.closer = .closed)) := by
  unfold send
  split_ifs with closed <;> simp [closed]

theorem step_taken {action : Action} (moved : step state action = some next) :
    state.panicked = false ∧ act state action = some next := by
  unfold step at moved
  split_ifs at moved with panicked
  exact ⟨Bool.eq_false_iff.mpr panicked, moved⟩

theorem step_quiet {action : Action} (quiet : Quiet state) (drained : Drained state action)
    (moved : step state action = some next) : Quiet next := by
  obtain ⟨calm, moved⟩ := step_taken moved
  cases action with
  | callback message =>
    simp only [act] at moved
    split_ifs at moved with waiting
    obtain rfl := Option.some.inj moved
    exact ⟨calm, fun closed => absurd (closed.symm.trans waiting) (by decide)⟩
  | select index =>
    obtain ⟨message, running, rfl⟩ := Option.map_eq_some_iff.mp moved
    have isOpen : state.closer ≠ .closed := by
      intro closed
      rw [quiet.empty closed] at running
      simp at running
    constructor
    · rw [send_panicked]
      simp [calm, isOpen]
    · intro closed
      rw [send_closer] at closed
      exact absurd closed isOpen
  | receive =>
    simp only [act] at moved
    split at moved
    · nomatch moved
    · obtain rfl := Option.some.inj moved
      exact ⟨calm, quiet.empty⟩
  | cancel =>
    obtain rfl := Option.some.inj moved
    exact ⟨calm, quiet.empty⟩
  | unsubscribe =>
    simp only [act] at moved
    split_ifs at moved
    obtain rfl := Option.some.inj moved
    exact ⟨calm, fun closed => by simp at closed⟩
  | close =>
    simp only [act] at moved
    split_ifs at moved
    obtain rfl := Option.some.inj moved
    exact ⟨calm, fun _ => drained⟩

-- A callback that is still before its `select` when the channel is closed can panic next.
theorem close_undrained (running : state.callbacks ≠ []) (closed : step state .close = some next) :
    ∃ final, step next (.select 0) = some final ∧ final.panicked = true := by
  obtain ⟨calm, closed⟩ := step_taken closed
  simp only [act] at closed
  split_ifs at closed
  obtain rfl := Option.some.inj closed
  obtain ⟨message, rest, begun⟩ := List.exists_cons_of_ne_nil running
  refine ⟨send { state with callbacks := rest, closer := .closed } message, ?_, ?_⟩
  · simp [step, act, calm, begun]
  · rw [send_panicked]
    simp

end Rules

/-- Schedules that close only a drained channel never panic, and every other close can be followed
by a send that does. -/
theorem drained_close_never_panics (actions : List Action) :
    (Along step Drained subscribe actions →
      Throughout step (fun state => state.panicked = false) subscribe actions) ∧
    ∀ state next, exec step subscribe actions = some state →
      step state .close = some next → ¬ Drained state .close →
      ∃ final, exec step subscribe (actions ++ [.close, .select 0]) = some final ∧
        final.panicked = true := by
  constructor
  · intro along
    have start : Quiet subscribe := ⟨rfl, fun _ => rfl⟩
    exact throughout_of_along (fun _ _ _ => step_quiet) (fun _ quiet => quiet.calm) start along
  · intro state next ran closed undrained
    obtain ⟨final, sent, panicked⟩ := close_undrained undrained closed
    refine ⟨final, ?_, panicked⟩
    rw [exec_append, ran, Option.bind_some, exec_cons, closed, Option.bind_some, exec_cons, sent]
    rfl

def late : Message := { subject := [], data := [], reply := [] }

theorem drained_close_never_panics_at_late :
    Throughout step (fun state => state.panicked = false) subscribe
        [.callback late, .cancel, .unsubscribe, .select 0, .close] ∧
      ∃ final, exec step subscribe ([.callback late, .cancel, .unsubscribe] ++ [.close, .select 0]) =
        some final ∧ final.panicked = true := by
  constructor
  · apply (drained_close_never_panics [.callback late, .cancel, .unsubscribe, .select 0, .close]).1
    refine .cons rfl trivial (.cons rfl trivial (.cons rfl trivial (.cons rfl trivial ?_)))
    exact .cons rfl rfl (.nil _)
  · exact (drained_close_never_panics [.callback late, .cancel, .unsubscribe]).2 _ _ rfl rfl
      (by simp [Drained])

/-- A callback begins, the context ends, `Unsubscribe` returns, the channel is closed, and the
callback sends. -/
theorem send_after_close_panics :
    ¬ ∀ actions, Throughout step (fun state => state.panicked = false) subscribe actions := by
  intro never
  have all := never [.callback late, .cancel, .unsubscribe, .close, .select 0]
  rw [throughout_iff_prefixes] at all
  have final := all [.callback late, .cancel, .unsubscribe, .close, .select 0] [] _ rfl rfl
  exact absurd final (by decide)

end NatsRouter

end SystemScale.Cloud
