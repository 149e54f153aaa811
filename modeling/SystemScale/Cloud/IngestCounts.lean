import Mathlib.Algebra.BigOperators.Group.Finset.Basic
import SystemScale.Cloud.Ingest

set_option autoImplicit false

/-!
# How often a message is in telemetry-ingest

No message is made or doubled between a delivery and its row.
-/

namespace SystemScale.Cloud

namespace Ingest

def Decodes (message : IngestMessage) : Prop :=
  ∃ env, decodeDataEnvelope message.data = .ok env

/-- How often a worker has the message. -/
def Holding (worker : Worker) (message : IngestMessage) : Nat :=
  worker.decoding.toList.count message + worker.buffer.count message

/-- How often the message is in the lists that the workers share. -/
def shared (state : Ingest) (message : IngestMessage) : Nat :=
  state.inHand.toList.count message + state.channel.count message +
    state.written.count message + state.dropped.count message + state.abandoned.count message

def tally (workers : Nat) (state : Ingest) (message : IngestMessage) : Nat :=
  state.shared message + ∑ index ∈ Finset.range workers, Holding (state.workers index) message

/-- What is delivered by an action. -/
def Action.deliveries : Action → List IngestMessage
  | .fetch message _ => [message]
  | _ => []

/-- The acknowledgment that arrives by an action. -/
def Action.acks : Action → List IngestMessage
  | .fetch message true => [message]
  | _ => []

/-- Whatever ingest has came with a delivery, and what is to be a row can be read. -/
structure Tallied (workers : Nat) (delivered : List IngestMessage) (state : Ingest) : Prop where
  idle : ∀ index, workers ≤ index →
    (state.workers index).decoding = none ∧ (state.workers index).flushing = none
  tally : ∀ message, state.tally workers message ≤ delivered.count message
  buffered : ∀ index, ∀ message ∈ (state.workers index).buffer, Decodes message
  written : ∀ message ∈ state.written, Decodes message

section Steps

variable {workers batchSize : Nat} {delivered : List IngestMessage} {state next : Ingest}
  {index : Nat} {worker : Worker}

theorem Tallied.start : Tallied workers delivered start where
  idle _ _ := ⟨rfl, rfl⟩
  tally message := by
    have none : Holding ⟨none, [], true, none⟩ message = 0 := rfl
    simp [Ingest.tally, Ingest.shared, Ingest.start, none]
  buffered _ _ member := nomatch member
  written _ member := nomatch member

-- One of the workers is exchanged for another.
theorem sum_setWorker (state : Ingest) (worker : Worker) (inside : index < workers)
    (message : IngestMessage) :
    ∑ other ∈ Finset.range workers, Holding ((state.setWorker index worker).workers other) message +
        Holding (state.workers index) message =
      ∑ other ∈ Finset.range workers, Holding (state.workers other) message +
        Holding worker message := by
  have member : index ∈ Finset.range workers := Finset.mem_range.mpr inside
  have rest : ∑ other ∈ (Finset.range workers).erase index,
        Holding ((state.setWorker index worker).workers other) message =
      ∑ other ∈ (Finset.range workers).erase index, Holding (state.workers other) message := by
    refine Finset.sum_congr rfl fun other erased => ?_
    rw [workers_setWorker, if_neg (Finset.ne_of_mem_erase erased)]
  rw [← Finset.add_sum_erase _ _ member, rest, workers_setWorker, if_pos rfl,
    ← Finset.add_sum_erase (Finset.range workers)
      (fun other => Holding (state.workers other) message) member]
  omega

theorem Tallied.setWorker (tallied : Tallied workers delivered state) {other : Ingest}
    (inside : index < workers) (same : other.workers = state.workers)
    (fewer : ∀ message, other.shared message + Holding worker message ≤
      state.shared message + Holding (state.workers index) message)
    (buffered : ∀ message ∈ worker.buffer, Decodes message)
    (written : ∀ message ∈ other.written, Decodes message) :
    Tallied workers delivered (other.setWorker index worker) where
  idle place outside := by
    rw [workers_setWorker, if_neg (by omega), same]
    exact tallied.idle place outside
  tally message := by
    have total := tallied.tally message
    have moved := sum_setWorker other worker inside message
    have less := fewer message
    have apart : (other.setWorker index worker).shared message = other.shared message := rfl
    rw [same] at moved
    rw [Ingest.tally] at total ⊢
    omega
  buffered place message member := by
    rw [workers_setWorker] at member
    split_ifs at member
    · exact buffered message member
    · exact tallied.buffered place message (same ▸ member)
  written := written

-- No worker has to do with it.
theorem Tallied.aside (tallied : Tallied workers delivered state) {more : List IngestMessage}
    (same : next.workers = state.workers) (written : next.written = state.written)
    (fewer : ∀ message, next.shared message ≤ state.shared message + more.count message) :
    Tallied workers (delivered ++ more) next where
  idle := same ▸ tallied.idle
  tally message := by
    have total := tallied.tally message
    have less := fewer message
    rw [Ingest.tally, List.count_append, same]
    rw [Ingest.tally] at total
    omega
  buffered := same ▸ tallied.buffered
  written := written ▸ tallied.written

theorem Tallied.attemptFails (tallied : Tallied workers delivered state) (inside : index < workers)
    {flush : Flush} :
    Tallied workers delivered (state.attemptFails index (state.workers index) flush) := by
  unfold Ingest.attemptFails
  split_ifs
  · exact tallied.setWorker inside rfl (fun _ => le_rfl) (tallied.buffered index) tallied.written
  · refine tallied.setWorker inside rfl (fun message => ?_)
      (fun _ member => absurd member List.not_mem_nil) tallied.written
    simp only [Ingest.shared, Holding, List.count_append, List.count_nil]
    omega

theorem Tallied.beginFlush (tallied : Tallied workers delivered state) (inside : index < workers)
    {inAdd : Bool} (begun : state.beginFlush index (state.workers index) inAdd = some next) :
    Tallied workers delivered next := by
  unfold Ingest.beginFlush at begun
  split_ifs at begun
  obtain rfl := Option.some.inj begun
  exact tallied.setWorker inside rfl (fun _ => le_rfl) (tallied.buffered index) tallied.written

-- A worker that is at work is one of those that were started.
theorem Tallied.started (tallied : Tallied workers delivered state)
    (busy : (state.workers index).decoding ≠ none ∨ (state.workers index).flushing ≠ none) :
    index < workers := by
  by_contra outside
  obtain ⟨decoding, flushing⟩ := tallied.idle index (Nat.le_of_not_lt outside)
  rcases busy with busy | busy
  · exact busy decoding
  · exact busy flushing

theorem Tallied.decode (tallied : Tallied workers delivered state)
    (taken : run workers batchSize state (.decode index) = some next) :
    Tallied workers delivered next := by
  simp only [run] at taken
  split at taken
  next message decoding =>
    have inside : index < workers :=
      tallied.started (.inl (Option.ne_none_iff_exists'.mpr ⟨message, decoding⟩))
    split at taken
    next env decoded =>
      split at taken
      · cases taken
      · obtain rfl := Option.some.inj taken
        refine tallied.setWorker inside rfl (fun other => ?_) ?_ tallied.written
        · simp only [Holding, decoding, List.count_append, Option.toList_none, Option.toList_some,
            List.count_nil]
          omega
        · intro other member
          rcases List.mem_append.mp member with old | last
          · exact tallied.buffered index other old
          · exact List.mem_singleton.mp last ▸ ⟨env, decoded⟩
    next error refused =>
      obtain rfl := Option.some.inj taken
      refine tallied.setWorker inside rfl (fun other => ?_) (tallied.buffered index) tallied.written
      simp only [Holding, decoding, Option.toList_none, List.count_nil]
      omega
    next =>
      obtain rfl := Option.some.inj taken
      exact ⟨tallied.idle, tallied.tally, tallied.buffered, tallied.written⟩
    next => cases taken
  next => cases taken

theorem Tallied.take (tallied : Tallied workers delivered state)
    (taken : run workers batchSize state (.take index) = some next) :
    Tallied workers delivered next := by
  simp only [run] at taken
  split at taken
  next message channel queue =>
    split_ifs at taken with free
    obtain rfl := Option.some.inj taken
    refine tallied.setWorker free.1 rfl (fun other => ?_) (tallied.buffered index) tallied.written
    simp only [Ingest.shared, Holding, queue, free.2.1, List.count_cons, Option.toList_none,
      Option.toList_some, List.count_nil]
    omega
  next => cases taken

theorem Tallied.dial (tallied : Tallied workers delivered state) {answered : Bool}
    (taken : run workers batchSize state (.dial index answered) = some next) :
    Tallied workers delivered next := by
  simp only [run] at taken
  split at taken
  next flush flushing =>
    have inside : index < workers :=
      tallied.started (.inr (Option.ne_none_iff_exists'.mpr ⟨flush, flushing⟩))
    split_ifs at taken
    · obtain rfl := Option.some.inj taken
      exact tallied.setWorker inside rfl (fun _ => le_rfl) (tallied.buffered index) tallied.written
    · obtain rfl := Option.some.inj taken
      exact tallied.attemptFails inside
  next => cases taken

theorem Tallied.write (tallied : Tallied workers delivered state) {complete : Bool}
    (taken : run workers batchSize state (.write index complete) = some next) :
    Tallied workers delivered next := by
  simp only [run] at taken
  split at taken
  next flush flushing =>
    have inside : index < workers :=
      tallied.started (.inr (Option.ne_none_iff_exists'.mpr ⟨flush, flushing⟩))
    split_ifs at taken
    · obtain rfl := Option.some.inj taken
      refine tallied.setWorker inside rfl (fun other => ?_)
        (fun _ member => absurd member List.not_mem_nil) ?_
      · simp only [Ingest.shared, Holding, List.count_append, List.count_nil]
        omega
      · intro other member
        rcases List.mem_append.mp member with old | flushed
        · exact tallied.written other old
        · exact tallied.buffered index other flushed
    · obtain rfl := Option.some.inj taken
      exact tallied.attemptFails inside
  next => cases taken

theorem Tallied.step {action : Action} (tallied : Tallied workers delivered state)
    (taken : step workers batchSize state action = some next) :
    Tallied workers (delivered ++ action.deliveries) next := by
  unfold Ingest.step at taken
  split_ifs at taken
  cases action with
  | fetch message arrives =>
    simp only [run] at taken
    split at taken
    next free =>
      obtain rfl := Option.some.inj taken
      refine tallied.aside rfl rfl fun other => ?_
      simp only [Ingest.shared, free.2, Action.deliveries, Option.toList_some, Option.toList_none,
        List.count_nil]
      omega
    next => cases taken
  | enqueue =>
    simp only [run] at taken
    split at taken
    next message inHand =>
      split_ifs at taken
      obtain rfl := Option.some.inj taken
      refine tallied.aside rfl rfl fun other => ?_
      simp only [Ingest.shared, inHand, List.count_append, Option.toList_some, Option.toList_none,
        List.count_nil]
      omega
    next => cases taken
  | abandon =>
    simp only [run] at taken
    split at taken
    next message inHand =>
      split_ifs at taken
      obtain rfl := Option.some.inj taken
      refine tallied.aside rfl rfl fun other => ?_
      simp only [Ingest.shared, inHand, List.count_append, Option.toList_some, Option.toList_none,
        List.count_nil]
      omega
    next => cases taken
  | unsubscribe =>
    simp only [run] at taken
    split_ifs at taken
    obtain rfl := Option.some.inj taken
    exact tallied.aside rfl rfl fun _ => Nat.le_add_right _ _
  | take index => exact (List.append_nil delivered).symm ▸ tallied.take taken
  | decode index => exact (List.append_nil delivered).symm ▸ tallied.decode taken
  | tick index =>
    simp only [run] at taken
    split_ifs at taken with inside
    exact (List.append_nil delivered).symm ▸ tallied.beginFlush inside taken
  | dial index answered => exact (List.append_nil delivered).symm ▸ tallied.dial taken
  | write index complete => exact (List.append_nil delivered).symm ▸ tallied.write taken
  | shutdown =>
    simp only [run] at taken
    split_ifs at taken
    obtain rfl := Option.some.inj taken
    exact tallied.aside rfl rfl fun _ => Nat.le_add_right _ _
  | close index =>
    simp only [run] at taken
    split_ifs at taken with ready
    exact (List.append_nil delivered).symm ▸ tallied.beginFlush ready.2 taken
  | exit =>
    obtain rfl := Option.some.inj taken
    exact tallied.aside rfl rfl fun _ => Nat.le_add_right _ _

-- An acknowledgment is sent with a delivery and at no other time.
theorem step_acked {action : Action}
    (taken : Ingest.step workers batchSize state action = some next) :
    next.acked = action.acks ++ state.acked := by
  unfold Ingest.step at taken
  split_ifs at taken
  by_cases fetch : ∃ message arrives, action = .fetch message arrives
  · obtain ⟨message, arrives, rfl⟩ := fetch
    simp only [run] at taken
    split at taken
    next free =>
      obtain rfl := Option.some.inj taken
      cases arrives <;> rfl
    next => cases taken
  · have other (message : IngestMessage) (arrives : Bool) : action ≠ .fetch message arrives :=
      fun is => fetch ⟨message, arrives, is⟩
    rw [(run_moves taken other).acked]
    cases action with
    | fetch message arrives => exact absurd rfl (other message arrives)
    | _ => rfl

-- A row was delivered at least as often as it was written.
theorem Tallied.count_written (tallied : Tallied workers delivered state)
    (message : IngestMessage) : state.written.count message ≤ delivered.count message := by
  have total := tallied.tally message
  rw [Ingest.tally, Ingest.shared] at total
  omega

end Steps

end Ingest

end SystemScale.Cloud
