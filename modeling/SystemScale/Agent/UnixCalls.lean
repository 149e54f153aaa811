import SystemScale.Lib.Lookups
import SystemScale.Lib.Runs
import SystemScale.Agent.AdapterTrait

set_option autoImplicit false

/-!
# Concurrent calls of the custom-unix adapter

Every `send_command` waits on the one channel of ACK frames, which it holds locked until it returns.
A call takes its steps one at a time; frames come in between any two of them.
-/

namespace SystemScale.Agent

open Runs Lookups AdapterTrait

structure AckFrame where
  commandId : String
  status : String
  message : String
  deriving DecidableEq

structure CallAck where
  commandId : String
  status : AckStatus
  message : String
  ackTimeNs : UInt64
  deriving DecidableEq

inductive CallPhase where
  -- For the lock.
  | waiting
  | holding
  -- `recv` found the channel empty, and `timeout_at` looks at its timer next.
  | missed
  | returned (ack : CallAck)
  deriving DecidableEq

/-- `first` is no part of the program: the first ACK frame for the call, in the channel when it
began or received before its deadline. -/
structure UnixCall where
  commandId : String
  phase : CallPhase
  late : Bool
  first : Option AckFrame
  deriving DecidableEq

structure UnixCalls where
  calls : List UnixCall
  queue : List AckFrame

inductive UnixCalls.Action where
  | start (commandId : String) (receivers : Nat) (now : UInt64)
  | receive (frame : AckFrame)
  | lock (index : Nat)
  | take (index : Nat) (now : UInt64)
  | miss (index : Nat)
  | sleep (index : Nat)
  | expire (index : Nat)
  | timeout (index : Nat) (now : UInt64)

def ackChannelCapacity : Nat := 256

def ackFrameStatus (status : String) : AckStatus :=
  if status = "ok" then .completed else if status = "rejected" then .rejected else .failed

def AckFrame.ack (frame : AckFrame) (now : UInt64) : CallAck :=
  ⟨frame.commandId, ackFrameStatus frame.status, frame.message, now⟩

def CallPhase.running : CallPhase → Bool
  | .returned _ => false
  | _ => true

def CallPhase.locks : CallPhase → Bool
  | .holding => true
  | .missed => true
  | _ => false

def UnixCall.owns (call : UnixCall) (frame : AckFrame) : Bool := frame.commandId = call.commandId

def UnixCall.note (call : UnixCall) (frame : AckFrame) : UnixCall :=
  if call.owns frame = true ∧ call.phase.running = true ∧ call.late = false ∧ call.first = none then
    { call with first := some frame }
  else call

namespace UnixCalls

def empty : UnixCalls := ⟨[], []⟩

def set (state : UnixCalls) (index : Nat) (call : UnixCall) : UnixCalls :=
  { state with calls := state.calls.set index call }

def noClient (commandId : String) (now : UInt64) : CallAck :=
  ⟨commandId, .rejected, "No SDK client connected to receive command", now⟩

def noAck (commandId : String) (now : UInt64) : CallAck :=
  ⟨commandId, .timeout, "SDK client did not ACK within 5s", now⟩

def begun (state : UnixCalls) (commandId : String) (receivers : Nat) (now : UInt64) : UnixCall :=
  if receivers = 0 then ⟨commandId, .returned (noClient commandId now), false, none⟩
  else ⟨commandId, .waiting, false, state.queue.find? fun frame => frame.commandId = commandId⟩

def advance (state : UnixCalls) (index : Nat) (next : UnixCall → Option CallPhase) :
    Option UnixCalls := do
  let call ← state.calls[index]?
  let phase ← next call
  some (state.set index { call with phase })

def step (state : UnixCalls) : Action → Option UnixCalls
  | .start commandId receivers now =>
    if ∀ call ∈ state.calls, call.commandId ≠ commandId then
      some { state with calls := state.calls ++ [state.begun commandId receivers now] }
    else none
  -- `try_send` drops what does not fit.
  | .receive frame => some
      { calls := state.calls.map fun call => call.note frame
        queue := if state.queue.length < ackChannelCapacity then state.queue ++ [frame]
          else state.queue }
  | .lock index =>
    state.advance index fun call =>
      if call.phase = .waiting ∧ ∀ other ∈ state.calls, other.phase.locks = false then some .holding
      else none
  | .take index now => do
    let call ← state.calls[index]?
    let frame ← state.queue.head?
    if call.phase = .holding then
      let taken := { state with queue := state.queue.tail }
      if call.owns frame then some (taken.set index { call with phase := .returned (frame.ack now) })
      -- An ACK for a different command.
      else some taken
    else none
  | .miss index =>
    state.advance index fun call =>
      if call.phase = .holding ∧ state.queue = [] then some .missed else none
  | .sleep index =>
    state.advance index fun call =>
      if call.phase = .missed ∧ call.late = false then some .holding else none
  | .expire index => do
    let call ← state.calls[index]?
    if call.phase.running then some (state.set index { call with late := true }) else none
  | .timeout index now =>
    state.advance index fun call =>
      if call.phase = .missed ∧ call.late = true then some (.returned (noAck call.commandId now))
      else none

/-! ## What one step does -/

def Taken (state next : UnixCalls) : Action → Prop
  | .start commandId receivers now => (∀ call ∈ state.calls, call.commandId ≠ commandId) ∧
      next = { state with calls := state.calls ++ [state.begun commandId receivers now] }
  | .receive frame => next =
      { calls := state.calls.map fun call => call.note frame
        queue := if state.queue.length < ackChannelCapacity then state.queue ++ [frame]
          else state.queue }
  | .lock index => ∃ call, state.calls[index]? = some call ∧ call.phase = .waiting ∧
      next = state.set index { call with phase := .holding }
  | .take index now => ∃ call frame rest, state.calls[index]? = some call ∧
      state.queue = frame :: rest ∧ call.phase = .holding ∧
      (call.owns frame = true ∧ next =
          { state with queue := rest }.set index { call with phase := .returned (frame.ack now) } ∨
        call.owns frame = false ∧ next = { state with queue := rest })
  | .miss index => ∃ call, state.calls[index]? = some call ∧ call.phase = .holding ∧
      next = state.set index { call with phase := .missed }
  | .sleep index => ∃ call, state.calls[index]? = some call ∧ call.phase = .missed ∧
      next = state.set index { call with phase := .holding }
  | .expire index => ∃ call, state.calls[index]? = some call ∧ call.phase.running = true ∧
      next = state.set index { call with late := true }
  | .timeout index now => ∃ call, state.calls[index]? = some call ∧ call.phase = .missed ∧
      next = state.set index { call with phase := .returned (noAck call.commandId now) }

theorem advance_eq {state next : UnixCalls} {index : Nat} {choose : UnixCall → Option CallPhase}
    (taken : state.advance index choose = some next) :
    ∃ call phase, state.calls[index]? = some call ∧ choose call = some phase ∧
      next = state.set index { call with phase } := by
  obtain ⟨call, was, taken⟩ := Option.bind_eq_some_iff.mp taken
  obtain ⟨phase, is, taken⟩ := Option.bind_eq_some_iff.mp taken
  exact ⟨call, phase, was, is, (Option.some.inj taken).symm⟩

theorem step_taken {state next : UnixCalls} {action : Action}
    (taken : step state action = some next) : Taken state next action := by
  cases action with
  | start commandId receivers now =>
    simp only [step] at taken
    split at taken
    next fresh => exact ⟨fresh, (Option.some.inj taken).symm⟩
    next => cases taken
  | receive frame => exact (Option.some.inj taken).symm
  | lock index =>
    obtain ⟨call, phase, was, is, rfl⟩ := advance_eq taken
    split at is
    next ready =>
      obtain rfl := Option.some.inj is
      exact ⟨call, was, ready.1, rfl⟩
    next => cases is
  | take index now =>
    obtain ⟨call, was, taken⟩ := Option.bind_eq_some_iff.mp taken
    obtain ⟨frame, head, taken⟩ := Option.bind_eq_some_iff.mp taken
    obtain ⟨rest, queue⟩ := List.head?_eq_some_iff.mp head
    rw [queue] at taken
    split_ifs at taken with holding own
    · exact ⟨call, frame, rest, was, queue, holding, .inl ⟨own, (Option.some.inj taken).symm⟩⟩
    · exact ⟨call, frame, rest, was, queue, holding,
        .inr ⟨eq_false_of_ne_true own, (Option.some.inj taken).symm⟩⟩
  | miss index =>
    obtain ⟨call, phase, was, is, rfl⟩ := advance_eq taken
    split_ifs at is with ready
    obtain rfl := Option.some.inj is
    exact ⟨call, was, ready.1, rfl⟩
  | sleep index =>
    obtain ⟨call, phase, was, is, rfl⟩ := advance_eq taken
    split_ifs at is with ready
    obtain rfl := Option.some.inj is
    exact ⟨call, was, ready.1, rfl⟩
  | expire index =>
    obtain ⟨call, was, taken⟩ := Option.bind_eq_some_iff.mp taken
    split_ifs at taken with running
    exact ⟨call, was, running, (Option.some.inj taken).symm⟩
  | timeout index now =>
    obtain ⟨call, phase, was, is, rfl⟩ := advance_eq taken
    split_ifs at is with ready
    obtain rfl := Option.some.inj is
    exact ⟨call, was, ready.1, rfl⟩

/-! ## Calls and the frames they are owed -/

/-- A call for which a frame came in in time has returned with it, or finds it next in the channel. -/
def Owed (state : UnixCalls) : Prop :=
  ∀ (index : Nat) call frame, state.calls[index]? = some call → call.first = some frame →
    (∃ now, call.phase = .returned (frame.ack now)) ∨
      call.phase.running = true ∧ state.queue.find? call.owns = some frame

/-- A call's first frame fits into the channel, no other call takes it out (unless an equal one
follows), and the call does not give up on it. -/
def Attentive (state : UnixCalls) : Action → Prop
  | .receive frame => ∀ (index : Nat) call, state.calls[index]? = some call →
      call.owns frame = true ∧ call.phase.running = true ∧ call.late = false ∧ call.first = none →
      state.queue.length < ackChannelCapacity
  | .take index _ => ∀ call frame rest, state.calls[index]? = some call →
      state.queue = frame :: rest → call.owns frame = false →
      ∀ (other : Nat) found, state.calls[other]? = some found → found.phase.running = true →
        found.first ≠ none → found.owns frame = true → rest.find? found.owns = some frame
  | .timeout index _ => ∀ call, state.calls[index]? = some call → call.first = none
  | _ => True

structure Heard (state : UnixCalls) : Prop where
  distinct : ∀ (index other : Nat) call found, state.calls[index]? = some call →
    state.calls[other]? = some found → call.commandId = found.commandId → index = other
  unheard : ∀ (index : Nat) call, state.calls[index]? = some call → call.first = none →
    call.phase.running = true → call.late = false → state.queue.find? call.owns = none

theorem Heard.apart {state : UnixCalls} (heard : Heard state) :
    Apart (fun call found => call.commandId = found.commandId) state.calls := heard.distinct

@[simp] theorem set_calls (state : UnixCalls) (index : Nat) (call : UnixCall) :
    (state.set index call).calls = state.calls.set index call := rfl

theorem note_same (call : UnixCall) (frame : AckFrame) :
    (call.note frame).commandId = call.commandId ∧ (call.note frame).phase = call.phase ∧
      (call.note frame).late = call.late := by
  unfold UnixCall.note
  split_ifs <;> exact ⟨rfl, rfl, rfl⟩

theorem owns_eq {call other : UnixCall} (same : call.commandId = other.commandId) :
    call.owns = other.owns := by
  unfold UnixCall.owns
  rw [same]

section Steps

variable {state next : UnixCalls} {index : Nat} {old new : UnixCall}

theorem Heard.set (heard : Heard state) (was : state.calls[index]? = some old)
    (same : new.commandId = old.commandId)
    (unheard : new.first = none → new.phase.running = true → new.late = false →
      old.first = none ∧ old.phase.running = true ∧ old.late = false) :
    Heard (state.set index new) where
  distinct := by
    apply heard.apart.set was
    · intro found clash
      rw [← same, clash]
    · intro entry clash
      rw [← same, clash]
  unheard place call is first running late := by
    rw [set_calls, lookup_set was] at is
    split_ifs at is with here
    · obtain rfl := Option.some.inj is
      obtain ⟨was_first, was_running, was_late⟩ := unheard first running late
      rw [owns_eq same]
      exact heard.unheard index old was was_first was_running was_late
    · exact heard.unheard place call is first running late

theorem Heard.pop (heard : Heard state) {frame : AckFrame} {rest : List AckFrame}
    (queue : state.queue = frame :: rest) : Heard { state with queue := rest } where
  distinct := heard.distinct
  unheard place call is first running late := by
    have nowhere := heard.unheard place call is first running late
    rw [queue, List.find?_cons] at nowhere
    split at nowhere
    next => cases nowhere
    next => exact nowhere

theorem start_heard (heard : Heard state) {commandId : String} (receivers : Nat) (now : UInt64)
    (fresh : ∀ call ∈ state.calls, call.commandId ≠ commandId) :
    Heard { state with calls := state.calls ++ [state.begun commandId receivers now] } := by
  have named : (state.begun commandId receivers now).commandId = commandId := by
    unfold begun
    split_ifs <;> rfl
  constructor
  · apply heard.apart.append
    intro call member
    exact ⟨fun clash => fresh call member (clash.trans named),
      fun clash => fresh call member (clash.symm.trans named)⟩
  · intro place call is first running late
    rw [lookup_append] at is
    split_ifs at is
    · obtain rfl := Option.some.inj is
      unfold begun at first running ⊢
      split_ifs at first running ⊢
      · cases running
      · exact first
    · exact heard.unheard place call is first running late

theorem receive_heard (heard : Heard state) {frame : AckFrame}
    (taken : Taken state next (.receive frame)) : Heard next := by
  have before {place : Nat} {call : UnixCall} (is : next.calls[place]? = some call) :
      ∃ earlier, state.calls[place]? = some earlier ∧ call = earlier.note frame := by
    rw [taken, List.getElem?_map, Option.map_eq_some_iff] at is
    obtain ⟨earlier, was, rfl⟩ := is
    exact ⟨earlier, was, rfl⟩
  constructor
  · rw [taken]
    apply heard.apart.map
    intro call found clash
    rwa [(note_same call frame).1, (note_same found frame).1] at clash
  · intro place call is first running late
    obtain ⟨earlier, was, rfl⟩ := before is
    unfold UnixCall.note at first running late ⊢
    split_ifs at first running late ⊢ with awaits
    have nowhere := heard.unheard place earlier was first running late
    have other : earlier.owns frame = false :=
      eq_false_of_ne_true fun own => awaits ⟨own, running, late, first⟩
    rw [taken]
    dsimp only
    split_ifs
    · rw [List.find?_append, nowhere]
      simp [other]
    · exact nowhere

theorem step_heard {action : Action} (heard : Heard state)
    (moved : step state action = some next) : Heard next := by
  have taken := step_taken moved
  cases action with
  | start commandId receivers now =>
    obtain ⟨fresh, rfl⟩ := taken
    exact start_heard heard receivers now fresh
  | receive frame => exact receive_heard heard taken
  | lock place =>
    obtain ⟨call, was, phase, rfl⟩ := taken
    exact heard.set was rfl fun first _ late => ⟨first, by rw [phase]; rfl, late⟩
  | take place now =>
    obtain ⟨call, frame, rest, was, queue, holding, ⟨_, rfl⟩ | ⟨_, rfl⟩⟩ := taken
    · have popped := heard.pop queue
      exact popped.set was rfl fun _ running _ => by cases running
    · exact heard.pop queue
  | miss place =>
    obtain ⟨call, was, phase, rfl⟩ := taken
    exact heard.set was rfl fun first _ late => ⟨first, by rw [phase]; rfl, late⟩
  | sleep place =>
    obtain ⟨call, was, phase, rfl⟩ := taken
    exact heard.set was rfl fun first _ late => ⟨first, by rw [phase]; rfl, late⟩
  | expire place =>
    obtain ⟨call, was, _, rfl⟩ := taken
    exact heard.set was rfl fun _ _ late => by cases late
  | timeout place now =>
    obtain ⟨call, was, _, rfl⟩ := taken
    exact heard.set was rfl fun _ running _ => by cases running

theorem owed_set (owed : Owed state) (was : state.calls[index]? = some old)
    (same : new.commandId = old.commandId) (first : new.first = old.first)
    (phase : new.phase = old.phase ∨ old.phase.running = true ∧ new.phase.running = true) :
    Owed (state.set index new) := by
  intro place call frame is noted
  rw [set_calls, lookup_set was] at is
  split_ifs at is
  · obtain rfl := Option.some.inj is
    rw [owns_eq same]
    have before := owed index old frame was (first ▸ noted)
    rcases phase with same_phase | ⟨running, still⟩
    · rw [same_phase]
      exact before
    · rcases before with ⟨now, returned⟩ | ⟨_, found⟩
      · rw [returned] at running
        cases running
      · exact .inr ⟨still, found⟩
  · exact owed place call frame is noted

theorem start_owed (owed : Owed state) (commandId : String) (receivers : Nat) (now : UInt64) :
    Owed { state with calls := state.calls ++ [state.begun commandId receivers now] } := by
  intro place call frame is noted
  rw [lookup_append] at is
  split_ifs at is
  · obtain rfl := Option.some.inj is
    unfold begun at noted ⊢
    split_ifs at noted ⊢
    exact .inr ⟨rfl, noted⟩
  · exact owed place call frame is noted

theorem receive_owed (heard : Heard state) (owed : Owed state) {frame : AckFrame}
    (taken : Taken state next (.receive frame)) : Owed next ↔ Attentive state (.receive frame) := by
  have lookup (place : Nat) :
      next.calls[place]? = (state.calls[place]?).map fun call => call.note frame := by
    rw [taken, List.getElem?_map]
  have queue : next.queue = if state.queue.length < ackChannelCapacity then state.queue ++ [frame]
      else state.queue := by rw [taken]
  constructor
  · intro after place call is awaits
    by_contra full
    rw [if_neg full] at queue
    have noted : call.note frame = { call with first := some frame } := if_pos awaits
    have found := after place _ frame (by rw [lookup, is, Option.map_some, noted]) rfl
    have nowhere := heard.unheard place call is awaits.2.2.2 awaits.2.1 awaits.2.2.1
    rcases found with ⟨now, returned⟩ | ⟨_, found⟩
    · have running := awaits.2.1
      rw [show call.phase = .returned (frame.ack now) from returned] at running
      cases running
    · have found : next.queue.find? call.owns = some frame := found
      rw [queue, nowhere] at found
      cases found
  · intro attentive place call noted_frame is noted
    rw [lookup, Option.map_eq_some_iff] at is
    obtain ⟨earlier, was, rfl⟩ := is
    obtain ⟨same, phase, _⟩ := note_same earlier frame
    rw [owns_eq same, phase]
    by_cases awaits : earlier.owns frame = true ∧ earlier.phase.running = true ∧
        earlier.late = false ∧ earlier.first = none
    · have is : earlier.note frame = { earlier with first := some frame } := if_pos awaits
      rw [is] at noted
      obtain rfl := Option.some.inj noted
      rw [if_pos (attentive place earlier was awaits)] at queue
      have nowhere := heard.unheard place earlier was awaits.2.2.2 awaits.2.1 awaits.2.2.1
      refine .inr ⟨awaits.2.1, ?_⟩
      rw [queue, List.find?_append, nowhere]
      simp [awaits.1]
    · have is : earlier.note frame = earlier := if_neg awaits
      rw [is] at noted
      refine (owed place earlier noted_frame was noted).imp id (And.imp_right fun found => ?_)
      rw [queue]
      split_ifs
      · rw [List.find?_append, found]
        rfl
      · exact found

theorem take_owed (heard : Heard state) (owed : Owed state) {now : UInt64}
    (taken : Taken state next (.take index now)) : Owed next ↔ Attentive state (.take index now) := by
  obtain ⟨call, frame, rest, was, queue, holding, ⟨own, rfl⟩ | ⟨foreign, rfl⟩⟩ := taken
  · refine iff_of_true ?_ ?_
    · intro place found noted_frame is noted
      rw [set_calls, lookup_set was] at is
      split_ifs at is with here
      · obtain rfl := Option.some.inj is
        rcases owed index call noted_frame was noted with ⟨_, returned⟩ | ⟨_, next_frame⟩
        · rw [holding] at returned
          cases returned
        · rw [queue, List.find?_cons, own] at next_frame
          obtain rfl := Option.some.inj next_frame
          exact .inl ⟨now, rfl⟩
      · refine (owed place found noted_frame is noted).imp id (And.imp_right fun next_frame => ?_)
        have differs : found.owns frame = false := by
          refine eq_false_of_ne_true fun also => here (heard.distinct place index found call is was ?_)
          unfold UnixCall.owns at own also
          rw [← of_decide_eq_true own, ← of_decide_eq_true also]
        rwa [queue, List.find?_cons, differs] at next_frame
    · intro other other_frame other_rest is same foreign
      obtain rfl := Option.some.inj (was.symm.trans is)
      obtain ⟨rfl, _⟩ := List.cons_eq_cons.mp (queue.symm.trans same)
      rw [own] at foreign
      cases foreign
  · constructor
    · intro after other other_frame other_rest is same _ place found found_is running some_first owns
      obtain ⟨rfl, rfl⟩ := List.cons_eq_cons.mp (queue.symm.trans same)
      obtain ⟨first, noted⟩ := Option.ne_none_iff_exists'.mp some_first
      rcases owed place found first found_is noted with ⟨_, returned⟩ | ⟨_, next_frame⟩
      · rw [returned] at running
        cases running
      · rw [queue, List.find?_cons, owns] at next_frame
        obtain rfl := Option.some.inj next_frame
        rcases after place found frame found_is noted with ⟨_, returned⟩ | ⟨_, later⟩
        · rw [returned] at running
          cases running
        · exact later
    · intro attentive place found first is noted
      refine (owed place found first is noted).imp id ?_
      rintro ⟨running, next_frame⟩
      refine ⟨running, ?_⟩
      rw [queue, List.find?_cons] at next_frame
      cases owns : found.owns frame with
      | true =>
        rw [owns] at next_frame
        obtain rfl := Option.some.inj next_frame
        exact attentive call frame rest was queue foreign place found is running
          (by rw [noted]; simp) owns
      | false =>
        rw [owns] at next_frame
        exact next_frame

theorem ack_not_timeout (frame : AckFrame) (now : UInt64) : (frame.ack now).status ≠ .timeout := by
  unfold AckFrame.ack ackFrameStatus
  dsimp only
  split_ifs <;> simp

theorem timeout_owed (owed : Owed state) {now : UInt64}
    (taken : Taken state next (.timeout index now)) :
    Owed next ↔ Attentive state (.timeout index now) := by
  obtain ⟨call, was, phase, rfl⟩ := taken
  constructor
  · intro after found is
    obtain rfl := Option.some.inj (was.symm.trans is)
    cases noted : call.first with
    | none => rfl
    | some frame =>
      have here : (state.set index { call with phase := .returned (noAck call.commandId now) }
          ).calls[index]? = some { call with phase := .returned (noAck call.commandId now) } := by
        rw [set_calls, lookup_set was, if_pos rfl]
      rcases after index _ frame here noted with ⟨later, returned⟩ | ⟨running, _⟩
      · have status := congrArg CallAck.status (CallPhase.returned.inj returned)
        exact absurd status.symm (ack_not_timeout frame later)
      · cases running
  · intro attentive place found frame is noted
    rw [set_calls, lookup_set was] at is
    split_ifs at is
    · obtain rfl := Option.some.inj is
      rw [attentive call was] at noted
      cases noted
    · exact owed place found frame is noted

theorem step_owed {action : Action} (heard : Heard state) (owed : Owed state)
    (moved : step state action = some next) : Owed next ↔ Attentive state action := by
  have taken := step_taken moved
  cases action with
  | start commandId receivers now =>
    obtain ⟨_, rfl⟩ := taken
    exact iff_of_true (start_owed owed commandId receivers now) trivial
  | receive frame => exact receive_owed heard owed taken
  | lock place =>
    obtain ⟨call, was, phase, rfl⟩ := taken
    exact iff_of_true (owed_set owed was rfl rfl (.inr ⟨by rw [phase]; rfl, rfl⟩)) trivial
  | take place now => exact take_owed heard owed taken
  | miss place =>
    obtain ⟨call, was, phase, rfl⟩ := taken
    exact iff_of_true (owed_set owed was rfl rfl (.inr ⟨by rw [phase]; rfl, rfl⟩)) trivial
  | sleep place =>
    obtain ⟨call, was, phase, rfl⟩ := taken
    exact iff_of_true (owed_set owed was rfl rfl (.inr ⟨by rw [phase]; rfl, rfl⟩)) trivial
  | expire place =>
    obtain ⟨call, was, _, rfl⟩ := taken
    exact iff_of_true (owed_set owed was rfl rfl (.inl rfl)) trivial
  | timeout place now => exact timeout_owed owed taken

end Steps

/-! ## Calls that have returned -/

def callSteps (index : Nat) : List Action :=
  [.lock index, .take index 0, .miss index, .sleep index, .timeout index 0]

theorem holder_moves {state : UnixCalls} {index : Nat} {call : UnixCall}
    (is : state.calls[index]? = some call) (locks : call.phase.locks = true)
    (frames : state.queue ≠ []) : ∃ action ∈ callSteps index, step state action ≠ none := by
  cases phase : call.phase with
  | holding =>
    obtain ⟨frame, rest, queue⟩ := List.exists_cons_of_ne_nil frames
    refine ⟨.take index 0, by simp [callSteps], ?_⟩
    simp only [step, is, queue, List.head?_cons, phase, Option.bind_eq_bind, Option.bind_some, if_true]
    split_ifs <;> simp
  | missed =>
    cases late : call.late with
    | true => exact ⟨.timeout index 0, by simp [callSteps], by simp [step, advance, is, phase, late]⟩
    | false => exact ⟨.sleep index, by simp [callSteps], by simp [step, advance, is, phase, late]⟩
  | waiting => simp [phase, CallPhase.locks] at locks
  | returned ack => simp [phase, CallPhase.locks] at locks

theorem finished_returned {state : UnixCalls} (owed : Owed state)
    (finished : ∀ other, ∀ action ∈ callSteps other, step state action = none) {index : Nat}
    {call : UnixCall} {frame : AckFrame} (is : state.calls[index]? = some call)
    (noted : call.first = some frame) : ∃ now, call.phase = .returned (frame.ack now) := by
  rcases owed index call frame is noted with returned | ⟨running, found⟩
  · exact returned
  · have frames : state.queue ≠ [] := by
      intro none
      rw [none] at found
      cases found
    have idle (other : Nat) (holder : UnixCall) (there : state.calls[other]? = some holder) :
        holder.phase.locks = false := by
      refine eq_false_of_ne_true fun locks => ?_
      obtain ⟨action, own, moves⟩ := holder_moves there locks frames
      exact moves (finished other action own)
    cases phase : call.phase with
    | waiting =>
      have free : ∀ other ∈ state.calls, other.phase.locks = false := by
        intro other member
        obtain ⟨place, there⟩ := List.mem_iff_getElem?.mp member
        exact idle place other there
      have stuck := finished index (.lock index) (by simp [callSteps])
      simp only [step, advance, is, phase, Option.bind_eq_bind, Option.bind_some] at stuck
      rw [if_pos ⟨trivial, free⟩] at stuck
      cases stuck
    | holding =>
      have locks := idle index call is
      rw [phase] at locks
      cases locks
    | missed =>
      have locks := idle index call is
      rw [phase] at locks
      cases locks
    | returned ack =>
      rw [phase] at running
      cases running

/-- Every call is answered with the frame that came in for it exactly in the runs in which no other
call takes it out, the channel has room for it and its own call does not give up on it. -/
theorem calls_answered_iff (actions : List Action) :
    (Throughout step Owed empty actions ↔ Along step Attentive empty actions) ∧
    ∀ state, exec step empty actions = some state → Along step Attentive empty actions →
      (∀ other, ∀ action ∈ callSteps other, step state action = none) →
      ∀ (index : Nat) call frame, state.calls[index]? = some call → call.first = some frame →
        ∃ now, call.phase = .returned (frame.ack now) := by
  have begun : Heard empty := by constructor <;> simp [empty]
  have nothing : Owed empty := by simp [Owed, empty]
  have exactly : Throughout step Owed empty actions ↔ Along step Attentive empty actions :=
    throughout_iff_along (fun _ _ _ heard _ _ moved => step_heard heard moved)
      (fun _ _ _ heard owed moved => step_owed heard owed moved) begun nothing
  refine ⟨exactly, ?_⟩
  intro state ran attentive finished index call frame is noted
  have owed := throughout_iff_prefixes.mp (exactly.mpr attentive) actions [] state (by simp) ran
  exact finished_returned owed finished is noted

def c1Frame : AckFrame := ⟨"c1", "ok", ""⟩

def c2Frame : AckFrame := ⟨"c2", "ok", ""⟩

-- The call for c1 holds the lock, and takes the frame for c2 out of the channel.
def twoCallsRun : List Action :=
  [.start "c1" 1 0, .start "c2" 1 0, .lock 0, .receive c2Frame, .take 0 1, .receive c1Frame,
    .take 0 2, .lock 1, .miss 1, .expire 1, .timeout 1 5]

theorem other_calls_frame_lost :
    ∃ state, exec step empty twoCallsRun = some state ∧
      state.calls = [⟨"c1", .returned (c1Frame.ack 2), false, some c1Frame⟩,
        ⟨"c2", .returned (noAck "c2" 5), true, some c2Frame⟩] ∧
      (noAck "c2" 5).status = .timeout :=
  ⟨_, rfl, rfl, rfl⟩

end UnixCalls

end SystemScale.Agent
