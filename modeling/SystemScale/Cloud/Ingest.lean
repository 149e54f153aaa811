import Mathlib.Logic.Function.Basic
import SystemScale.Cloud.IngestCodec
import SystemScale.Lib.Runs

set_option autoImplicit false

/-!
# telemetry-ingest

The subscriber takes messages from JetStream to a channel, workers decode them into batch buffers,
and each buffer is flushed to QuestDB over the worker's own connection.
-/

namespace SystemScale.Cloud

open Runs

structure IngestMessage where
  sequence : Nat
  subject : String
  data : List UInt8
  deriving DecidableEq

/-- A running `flush`, which holds the lock of its writer. -/
structure Flush where
  failures : Nat
  inAdd : Bool

/-- A worker with its `ilpWriter`. The buffer has a line for each of its messages. -/
structure Worker where
  decoding : Option IngestMessage
  buffer : List IngestMessage
  connected : Bool
  flushing : Option Flush

inductive IngestPhase where
  | running
  | stopping
  | exited
  deriving DecidableEq

/-- The last four are no part of the program: what JetStream holds acknowledged, the rows written
whole, the rows of batches that were given up, and what was in hand at the shutdown. -/
structure Ingest where
  phase : IngestPhase
  subscribed : Bool
  inHand : Option IngestMessage
  channel : List IngestMessage
  workers : Nat → Worker
  acked : List IngestMessage
  written : List IngestMessage
  dropped : List IngestMessage
  abandoned : List IngestMessage

inductive Ingest.Action where
  | fetch (message : IngestMessage) (arrives : Bool)
  | enqueue
  | abandon
  | unsubscribe
  | take (worker : Nat)
  | decode (worker : Nat)
  | tick (worker : Nat)
  | dial (worker : Nat) (answered : Bool)
  | write (worker : Nat) (complete : Bool)
  | shutdown
  | close (worker : Nat)
  | exit

def routerCapacity : Nat := 256

def flushAttempts : Nat := 3

namespace Ingest

-- Every writer is connected before its worker starts.
def start : Ingest :=
  ⟨.running, true, none, [], fun _ => ⟨none, [], true, none⟩, [], [], [], []⟩

def setWorker (state : Ingest) (index : Nat) (worker : Worker) : Ingest :=
  { state with workers := Function.update state.workers index worker }

def beginFlush (state : Ingest) (index : Nat) (worker : Worker) (inAdd : Bool) : Option Ingest :=
  if worker.flushing.isNone ∧ worker.buffer ≠ [] then
    some (state.setWorker index { worker with flushing := some ⟨0, inAdd⟩ })
  else none

/-- An attempt of `flush` failed; the last one gives up the batch. -/
def attemptFails (state : Ingest) (index : Nat) (worker : Worker) (flush : Flush) : Ingest :=
  if flush.failures + 1 < flushAttempts then
    state.setWorker index
      { worker with
        connected := false, flushing := some { flush with failures := flush.failures + 1 } }
  else
    { state with dropped := state.dropped ++ worker.buffer }.setWorker index
      { worker with connected := false, flushing := none, buffer := [] }

section System

-- Both are the configuration's.
variable (workers batchSize : Nat)

def run (state : Ingest) : Action → Option Ingest
  -- The acknowledgment is sent before the message is handed on.
  | .fetch message arrives =>
    if state.subscribed = true ∧ state.inHand = none then
      some { state with
        inHand := some message
        acked := if arrives then message :: state.acked else state.acked }
    else none
  | .enqueue =>
    match state.inHand with
    | some message =>
      if state.channel.length < routerCapacity then
        some { state with inHand := none, channel := state.channel ++ [message] }
      else none
    | none => none
  | .abandon =>
    match state.inHand with
    | some message =>
      if state.phase = .stopping then
        some { state with
          inHand := none, subscribed := false, abandoned := state.abandoned ++ [message] }
      else none
    | none => none
  | .unsubscribe =>
    if state.inHand.isNone then some { state with subscribed := false } else none
  | .take index =>
    let worker := state.workers index
    match state.channel with
    | message :: channel =>
      if index < workers ∧ worker.decoding = none ∧
          ¬ worker.flushing.any (fun flush => flush.inAdd) then
        some ({ state with channel }.setWorker index { worker with decoding := some message })
      else none
    | [] => none
  | .decode index =>
    let worker := state.workers index
    match worker.decoding with
    | some message =>
      match decodeDataEnvelope message.data with
      | .ok _ =>
        if worker.flushing.isSome then none
        else
          let buffer := worker.buffer ++ [message]
          some (state.setWorker index
            { worker with
              decoding := none
              buffer := buffer
              flushing := if batchSize ≤ buffer.length then some ⟨0, true⟩ else none })
      | .err _ =>
        some (state.setWorker index { worker with decoding := none })
      | .panic => some { state with phase := .exited }
      | .hang => none
    | none => none
  | .tick index =>
    if index < workers then state.beginFlush index (state.workers index) false else none
  | .dial index answered =>
    let worker := state.workers index
    match worker.flushing with
    | some flush =>
      if worker.connected then none
      else if answered then some (state.setWorker index { worker with connected := true })
      else some (state.attemptFails index worker flush)
    | none => none
  | .write index complete =>
    let worker := state.workers index
    match worker.flushing with
    | some flush =>
      if worker.connected then
        if complete then
          some ({ state with written := state.written ++ worker.buffer }.setWorker index
            { worker with flushing := none, buffer := [] })
        else some (state.attemptFails index worker flush)
      else none
    | none => none
  | .shutdown =>
    if state.phase = .running then some { state with phase := .stopping } else none
  | .close index =>
    if state.phase = .stopping ∧ index < workers then
      state.beginFlush index (state.workers index) false
    else none
  -- After the shutdown the workers are not waited for; before it, a worker that cannot connect at
  -- its start ends the process.
  | .exit => some { state with phase := .exited }

def step (state : Ingest) (action : Action) : Option Ingest :=
  if state.phase = .exited then none else state.run workers batchSize action

end System

/-! ## Where an acknowledged message is -/

def Holds (worker : Worker) (message : IngestMessage) : Prop :=
  worker.decoding = some message ∨ message ∈ worker.buffer

def Held (state : Ingest) (message : IngestMessage) : Prop :=
  state.inHand = some message ∨ message ∈ state.channel ∨
    ∃ index, Holds (state.workers index) message

def Undecodable (message : IngestMessage) : Prop :=
  ∃ error, decodeDataEnvelope message.data = .err error

/-- The row was written whole or may still be, or there is none. -/
def Kept (state : Ingest) (message : IngestMessage) : Prop :=
  message ∈ state.written ∨ Held state message ∨ Undecodable message

def NothingDropped (state : Ingest) : Prop := ∀ message ∈ state.acked, Kept state message

def Placed (state : Ingest) (message : IngestMessage) : Prop :=
  Kept state message ∨ message ∈ state.dropped ∨ message ∈ state.abandoned

def Accounted (state : Ingest) : Prop :=
  state.phase ≠ .exited → ∀ message ∈ state.acked, Placed state message

section Places

variable {state next : Ingest} {index : Nat} {worker : Worker} {message : IngestMessage}

theorem workers_setWorker (state : Ingest) (index other : Nat) (worker : Worker) :
    (state.setWorker index worker).workers other =
      if other = index then worker else state.workers other :=
  Function.update_apply state.workers index worker other

theorem Placed.held (held : Held state message) : Placed state message := .inl (.inr (.inl held))

theorem Placed.holds (holds : Holds worker message) :
    Placed (state.setWorker index worker) message :=
  .held (.inr (.inr ⟨index, by rwa [workers_setWorker, if_pos rfl]⟩))

theorem Placed.setWorker (placed : Placed state message)
    (own : Holds (state.workers index) message → Placed (state.setWorker index worker) message) :
    Placed (state.setWorker index worker) message := by
  rcases placed with (written | (inHand | queued | ⟨other, holds⟩) | undecodable) | gone
  · exact .inl (.inl written)
  · exact .held (.inl inHand)
  · exact .held (.inr (.inl queued))
  · by_cases same : other = index
    · exact own (same ▸ holds)
    · exact .held (.inr (.inr ⟨other, by rwa [workers_setWorker, if_neg same]⟩))
  · exact .inl (.inr (.inr undecodable))
  · exact .inr gone

theorem Placed.moved (placed : Placed state message) (written : next.written = state.written)
    (dropped : next.dropped = state.dropped) (abandoned : next.abandoned = state.abandoned)
    (held : Held state message → Placed next message) : Placed next message := by
  rcases placed with (is_written | is_held | undecodable) | gone
  · exact .inl (.inl (written ▸ is_written))
  · exact held is_held
  · exact .inl (.inr (.inr undecodable))
  · exact .inr (dropped ▸ abandoned ▸ gone)

theorem Placed.kept (placed : Placed state message)
    (keeps : Holds (state.workers index) message → Holds worker message) :
    Placed (state.setWorker index worker) message :=
  placed.setWorker fun holds => Placed.holds (keeps holds)

end Places

/-! ## One step -/

/-- Nothing is acknowledged, and as long as the process runs no message is lost but for a batch that
is given up. -/
structure Moves (state next : Ingest) : Prop where
  acked : next.acked = state.acked
  placed : next.phase ≠ .exited → ∀ message, Placed state message → Placed next message

section Steps

variable {workers batchSize : Nat} {state next : Ingest} {action : Action} {index : Nat}

theorem attemptFails_moves {flush : Flush} :
    Moves state (state.attemptFails index (state.workers index) flush) := by
  unfold attemptFails
  split_ifs
  · exact ⟨rfl, fun _ message placed => placed.kept id⟩
  · refine ⟨rfl, fun _ message placed => ?_⟩
    have more : Placed { state with dropped := state.dropped ++ (state.workers index).buffer }
        message := placed.imp_right (Or.imp_left (List.mem_append_left _))
    refine more.setWorker ?_
    rintro (decoding | buffered)
    · exact Placed.holds (.inl decoding)
    · exact .inr (.inl (List.mem_append_right _ buffered))

theorem beginFlush_moves {inAdd : Bool}
    (begun : state.beginFlush index (state.workers index) inAdd = some next) : Moves state next := by
  unfold beginFlush at begun
  split_ifs at begun
  obtain rfl := Option.some.inj begun
  exact ⟨rfl, fun _ message placed => placed.kept id⟩

theorem enqueue_moves (taken : run workers batchSize state .enqueue = some next) :
    Moves state next := by
  simp only [run] at taken
  split at taken
  next first waiting =>
    split_ifs at taken
    obtain rfl := Option.some.inj taken
    refine ⟨rfl, fun _ message placed => placed.moved rfl rfl rfl ?_⟩
    rintro (inHand | queued | worker)
    · obtain rfl := Option.some.inj (waiting.symm.trans inHand)
      exact .held (.inr (.inl (List.mem_append_right _ List.mem_cons_self)))
    · exact .held (.inr (.inl (List.mem_append_left _ queued)))
    · exact .held (.inr (.inr worker))
  next => simp at taken

theorem abandon_moves (taken : run workers batchSize state .abandon = some next) :
    Moves state next := by
  simp only [run] at taken
  split at taken
  next first waiting =>
    split_ifs at taken
    obtain rfl := Option.some.inj taken
    refine ⟨rfl, fun _ message placed => ?_⟩
    rcases placed with (written | (inHand | elsewhere) | undecodable) | dropped | abandoned
    · exact .inl (.inl written)
    · obtain rfl := Option.some.inj (waiting.symm.trans inHand)
      exact .inr (.inr (List.mem_append_right _ List.mem_cons_self))
    · exact .held (.inr elsewhere)
    · exact .inl (.inr (.inr undecodable))
    · exact .inr (.inl dropped)
    · exact .inr (.inr (List.mem_append_left _ abandoned))
  next => simp at taken

theorem take_moves (taken : run workers batchSize state (.take index) = some next) :
    Moves state next := by
  simp only [run] at taken
  split at taken
  next first channel queue =>
    split_ifs at taken with free
    obtain rfl := Option.some.inj taken
    refine ⟨rfl, fun _ message placed => placed.moved rfl rfl rfl ?_⟩
    rintro (inHand | queued | ⟨other, holds⟩)
    · exact .held (.inl inHand)
    · rw [queue, List.mem_cons] at queued
      rcases queued with rfl | queued
      · exact .holds (.inl rfl)
      · exact .held (.inr (.inl queued))
    · by_cases same : other = index
      · subst same
        refine .holds (.inr ?_)
        simpa [Holds, free.2.1] using holds
      · exact .held (.inr (.inr ⟨other, by rwa [workers_setWorker, if_neg same]⟩))
  next => simp at taken

theorem decode_moves (taken : run workers batchSize state (.decode index) = some next) :
    Moves state next := by
  simp only [run] at taken
  split at taken
  next decoding busy =>
    split at taken
    next env decoded =>
      split at taken
      next => simp at taken
      next =>
        obtain rfl := Option.some.inj taken
        refine ⟨rfl, fun _ message placed => placed.kept ?_⟩
        rintro (is_decoding | buffered)
        · obtain rfl := Option.some.inj (busy.symm.trans is_decoding)
          exact .inr (List.mem_append_right _ List.mem_cons_self)
        · exact .inr (List.mem_append_left _ buffered)
    next error decoded =>
      obtain rfl := Option.some.inj taken
      refine ⟨rfl, fun _ message placed => placed.setWorker ?_⟩
      rintro (is_decoding | buffered)
      · obtain rfl := Option.some.inj (busy.symm.trans is_decoding)
        exact .inl (.inr (.inr ⟨error, decoded⟩))
      · exact .holds (.inr buffered)
    next =>
      obtain rfl := Option.some.inj taken
      exact ⟨rfl, by simp⟩
    next => simp at taken
  next => simp at taken

theorem dial_moves {answered : Bool}
    (taken : run workers batchSize state (.dial index answered) = some next) :
    Moves state next := by
  simp only [run] at taken
  split at taken
  next flush flushing =>
    split_ifs at taken
    · obtain rfl := Option.some.inj taken
      exact ⟨rfl, fun _ message placed => placed.kept id⟩
    · obtain rfl := Option.some.inj taken
      exact attemptFails_moves
  next => simp at taken

theorem write_moves {complete : Bool}
    (taken : run workers batchSize state (.write index complete) = some next) :
    Moves state next := by
  simp only [run] at taken
  split at taken
  next flush flushing =>
    split_ifs at taken
    · obtain rfl := Option.some.inj taken
      refine ⟨rfl, fun _ message placed => ?_⟩
      have more : Placed { state with written := state.written ++ (state.workers index).buffer }
          message := placed.imp (Or.imp_left (List.mem_append_left _)) id
      refine more.setWorker ?_
      rintro (decoding | buffered)
      · exact .holds (.inl decoding)
      · exact .inl (.inl (List.mem_append_right _ buffered))
    · obtain rfl := Option.some.inj taken
      exact attemptFails_moves
  next => simp at taken

theorem run_moves (taken : run workers batchSize state action = some next)
    (other : ∀ message arrives, action ≠ .fetch message arrives) : Moves state next := by
  cases action with
  | fetch message arrives => exact absurd rfl (other message arrives)
  | enqueue => exact enqueue_moves taken
  | abandon => exact abandon_moves taken
  | unsubscribe =>
    simp only [run] at taken
    split_ifs at taken
    obtain rfl := Option.some.inj taken
    exact ⟨rfl, fun _ _ placed => placed⟩
  | take index => exact take_moves taken
  | decode index => exact decode_moves taken
  | tick index =>
    simp only [run] at taken
    split_ifs at taken
    exact beginFlush_moves taken
  | dial index answered => exact dial_moves taken
  | write index complete => exact write_moves taken
  | shutdown =>
    simp only [run] at taken
    split_ifs at taken
    obtain rfl := Option.some.inj taken
    exact ⟨rfl, fun _ _ placed => placed⟩
  | close index =>
    simp only [run] at taken
    split_ifs at taken
    exact beginFlush_moves taken
  | exit =>
    obtain rfl := Option.some.inj taken
    exact ⟨rfl, by simp⟩

theorem Moves.accounted (moves : Moves state next) (alive : state.phase ≠ .exited)
    (accounted : Accounted state) : Accounted next := by
  intro running message member
  exact moves.placed running message (accounted alive message (moves.acked ▸ member))

theorem fetch_accounted {fetched : IngestMessage} {arrives : Bool} (accounted : Accounted state)
    (taken : run workers batchSize state (.fetch fetched arrives) = some next) :
    Accounted next := by
  simp only [run] at taken
  split at taken
  next free =>
    obtain rfl := Option.some.inj taken
    intro running message member
    have known : message = fetched ∨ message ∈ state.acked := by
      cases arrives with
      | false => exact .inr member
      | true => exact List.mem_cons.mp member
    rcases known with rfl | member
    · exact .held (.inl rfl)
    · refine (accounted running message member).moved rfl rfl rfl ?_
      rintro (inHand | elsewhere)
      · simp [free.2] at inHand
      · exact .held (.inr elsewhere)
  next => simp at taken

theorem step_accounted (accounted : Accounted state)
    (taken : step workers batchSize state action = some next) : Accounted next := by
  unfold step at taken
  split_ifs at taken with exited
  by_cases fetch : ∃ fetched arrives, action = .fetch fetched arrives
  · obtain ⟨fetched, arrives, rfl⟩ := fetch
    exact fetch_accounted accounted taken
  · have other (message : IngestMessage) (arrives : Bool) : action ≠ .fetch message arrives :=
      fun is => fetch ⟨message, arrives, is⟩
    exact (run_moves taken other).accounted exited accounted

end Steps

/-- Whatever is delivered and whichever dials and writes fail, until the process exits every
acknowledged message is written, held, undecodable, in a batch that was given up, or was in the
subscriber's hand at the shutdown. -/
theorem runs_account (workers batchSize : Nat) (actions : List Action) :
    Throughout (step workers batchSize) Accounted start actions := by
  rw [throughout_iff_prefixes]
  intro taken rest final _ ran
  have empty : Accounted start := by simp [Accounted, start]
  exact exec_invariant (fun _ _ _ accounted taken => step_accounted accounted taken) empty ran

/-- A message with no fields at all decodes. -/
def emptyMessage : IngestMessage := ⟨1, "telemetry.v1.telemetry", []⟩

def givenUpRun : List Action :=
  [.fetch emptyMessage true, .enqueue, .take 0, .decode 0, .tick 0, .write 0 false, .dial 0 false,
    .dial 0 false]

theorem acknowledged_row_dropped :
    (∃ state, exec (step 4 500) start givenUpRun = some state ∧ emptyMessage ∈ state.acked ∧
      emptyMessage ∈ state.dropped ∧ ¬ Kept state emptyMessage) ∧
    ¬ Throughout (step 4 500) NothingDropped start givenUpRun := by
  have given_up : ∃ state, exec (step 4 500) start givenUpRun = some state ∧
      state.acked = [emptyMessage] ∧ state.dropped = [emptyMessage] ∧ state.written = [] ∧
      state.inHand = none ∧ state.channel = [] ∧
      ∀ index, (state.workers index).decoding = none ∧ (state.workers index).buffer = [] := by
    refine ⟨_, rfl, rfl, rfl, rfl, rfl, rfl, fun index => ?_⟩
    cases index with
    | zero => exact ⟨rfl, rfl⟩
    | succ index => exact ⟨rfl, rfl⟩
  obtain ⟨state, ran, acked, dropped, written, inHand, channel, idle⟩ := given_up
  have decodes : ¬ Undecodable emptyMessage := by
    rintro ⟨error, failed⟩
    have decoded : decodeDataEnvelope emptyMessage.data = .ok .empty := rfl
    simp [decoded] at failed
  have lost : ¬ Kept state emptyMessage := by
    simp [Kept, Held, Holds, written, inHand, channel, idle, decodes]
  have member : emptyMessage ∈ state.acked := by simp [acked]
  refine ⟨⟨state, ran, member, by simp [dropped], lost⟩, fun all => lost ?_⟩
  exact throughout_iff_prefixes.mp all givenUpRun [] state (List.append_nil _).symm ran _ member

end Ingest

end SystemScale.Cloud
