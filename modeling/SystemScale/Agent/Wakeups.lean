import SystemScale.Agent.Ring
import SystemScale.Lib.Notify

set_option autoImplicit false

/-!
# Wake-ups of the ring

The indices and the notifier that the two halves of the ring share, one load or store at a time. A
pop tests the indices before it waits, and a push moves them before it notifies.
-/

namespace SystemScale.Agent.Wakeups

open AdapterTrait Runs

/-- Where `push` stands, with the head it loaded. -/
inductive Producer where
  | idle
  | writing (head : Nat)
  | advanced (head : Nat)
  | lapping
  | notifying
  deriving DecidableEq

/-- Where `pop` stands, with the indices it loaded. -/
inductive Consumer where
  | idle
  | starting
  | loaded (tail : Nat)
  -- At `notified().await`.
  | empty (tail head : Nat)
  -- At the delay of a replay.
  | sleeping (tail : Nat)
  | reading (tail : Nat)
  deriving DecidableEq

structure State where
  head : Nat
  tail : Nat
  notify : Notify
  producer : Producer
  consumer : Consumer
  inReplay : Bool
  deriving DecidableEq

inductive Action where
  | loadHead
  | advanceHead
  | testLap
  | advanceTail
  | notifyOne
  | pop
  | popLoadTail
  | popLoadHead
  | poll
  | delayEnds
  -- The slot at the tail holds a payload or not.
  | take (payload : Bool)
  -- The future of a pop that is waiting or sleeping is dropped.
  | cancel
  -- The loads of `on_reconnect` see a lag or not.
  | onReconnect (lag : Bool)
  deriving DecidableEq

def start : State := ⟨0, 0, .new, .idle, .idle, false⟩

def pushStep (numSlots : Nat) (state : State) : Action → Option State
  | .loadHead =>
    match state.producer with
    | .idle => some { state with producer := .writing state.head }
    | _ => none
  | .advanceHead =>
    match state.producer with
    | .writing head => some { state with head := state.head + 1, producer := .advanced head }
    | _ => none
  | .testLap =>
    match state.producer with
    | .advanced head =>
      some { state with
        producer := if head + 1 > state.tail + numSlots then .lapping else .notifying }
    | _ => none
  | .advanceTail =>
    match state.producer with
    | .lapping => some { state with tail := state.tail + 1, producer := .notifying }
    | _ => none
  | .notifyOne =>
    match state.producer with
    | .notifying => some { state with notify := state.notify.notifyOne, producer := .idle }
    | _ => none
  | _ => none

def popStep (state : State) : Action → Option State
  | .pop =>
    match state.consumer with
    | .idle => some { state with consumer := .starting }
    | _ => none
  | .popLoadTail =>
    match state.consumer with
    | .starting => some { state with consumer := .loaded state.tail }
    | _ => none
  | .popLoadHead =>
    match state.consumer with
    | .loaded tail =>
      if tail ≥ state.head then
        some { state with inReplay := false, consumer := .empty tail state.head }
      else some { state with consumer := if state.inReplay then .sleeping tail else .reading tail }
    | _ => none
  | .poll =>
    match state.consumer with
    | .empty _ _ =>
      if state.notify.poll.2 then
        some { state with notify := state.notify.poll.1, consumer := .starting }
      else some { state with notify := state.notify.poll.1 }
    | _ => none
  | .delayEnds =>
    match state.consumer with
    | .sleeping tail => some { state with consumer := .reading tail }
    | _ => none
  | .take payload =>
    match state.consumer with
    | .reading _ =>
      some { state with tail := state.tail + 1, consumer := if payload then .idle else .starting }
    | _ => none
  | .cancel =>
    match state.consumer with
    | .empty _ _ =>
      if state.notify.waiter = .absent then none
      else some { state with notify := state.notify.drop, consumer := .idle }
    | .sleeping _ => some { state with consumer := .idle }
    | _ => none
  | .onReconnect lag =>
    match state.consumer with
    | .idle => some { state with inReplay := state.inReplay || lag }
    | _ => none
  | _ => none

def step (numSlots : Nat) (state : State) (action : Action) : Option State :=
  (pushStep numSlots state action).or (popStep state action)

/-- A push has moved the head and has not notified. -/
def Producer.pending : Producer → Bool
  | .idle => false
  | .writing _ => false
  | .advanced _ => true
  | .lapping => true
  | .notifying => true

/-- The consumer waits although there is something to read, and nothing will wake it. -/
def LostWakeup (state : State) : Prop :=
  state.notify.waiter = .waiting ∧ state.notify.permit = false ∧
    state.producer.pending = false ∧ state.tail < state.head

/-- A pop that found the ring empty has seen the last head, or a signal is stored or on its way. -/
structure Covered (state : State) : Prop where
  sound : state.notify.Sound
  waits : state.notify.waiter ≠ .absent → ∃ tail head, state.consumer = .empty tail head
  loaded : ∀ tail, state.consumer = .loaded tail → tail ≤ state.tail
  empty : ∀ tail head, state.consumer = .empty tail head → head ≤ tail ∧ tail ≤ state.tail ∧
    (state.head = head ∨ state.notify.Signalled ∨ state.producer.pending = true)

/-! ## Steps of a push -/

/-- What a step of a push does to what a pop waits for. -/
structure Pushes (state next : State) : Prop where
  consumer : next.consumer = state.consumer
  tail : state.tail ≤ next.tail
  notify : next.notify = state.notify ∨ next.notify = state.notify.notifyOne
  head : next.head = state.head ∨ next.producer.pending = true
  pending : state.producer.pending = true →
    next.producer.pending = true ∨ next.notify = state.notify.notifyOne

section Steps

variable {numSlots : Nat} {state next : State} {action : Action}

theorem pushStep_pushes (moved : pushStep numSlots state action = some next) :
    Pushes state next := by
  cases action with
  | loadHead =>
    simp only [pushStep] at moved
    split at moved
    next idle =>
      cases moved
      exact ⟨rfl, Nat.le_refl _, .inl rfl, .inl rfl, by simp [idle, Producer.pending]⟩
    next => nomatch moved
  | advanceHead =>
    simp only [pushStep] at moved
    split at moved
    next =>
      cases moved
      exact ⟨rfl, Nat.le_refl _, .inl rfl, .inr rfl, fun _ => .inl rfl⟩
    next => nomatch moved
  | testLap =>
    simp only [pushStep] at moved
    split at moved
    next =>
      cases moved
      refine ⟨rfl, Nat.le_refl _, .inl rfl, .inl rfl, fun _ => .inl ?_⟩
      show Producer.pending (if _ then _ else _) = true
      split_ifs <;> rfl
    next => nomatch moved
  | advanceTail =>
    simp only [pushStep] at moved
    split at moved
    next =>
      cases moved
      exact ⟨rfl, Nat.le_succ _, .inl rfl, .inl rfl, fun _ => .inl rfl⟩
    next => nomatch moved
  | notifyOne =>
    simp only [pushStep] at moved
    split at moved
    next =>
      cases moved
      exact ⟨rfl, Nat.le_refl _, .inr rfl, .inl rfl, fun _ => .inr rfl⟩
    next => nomatch moved
  | _ => nomatch moved

theorem Covered.pushes (covered : Covered state) (pushes : Pushes state next) : Covered next := by
  constructor
  · rcases pushes.notify with same | notified
    · rw [same]
      exact covered.sound
    · rw [notified]
      exact Notify.notifyOne_sound
  · intro present
    rw [pushes.consumer]
    refine covered.waits fun absent => present ?_
    rcases pushes.notify with same | notified
    · rw [same, absent]
    · rw [notified, Notify.notifyOne_absent absent]
  · intro tail loaded
    rw [pushes.consumer] at loaded
    exact Nat.le_trans (covered.loaded tail loaded) pushes.tail
  · intro tail head empty
    rw [pushes.consumer] at empty
    obtain ⟨tested, inside, signal⟩ := covered.empty tail head empty
    refine ⟨tested, Nat.le_trans inside pushes.tail, ?_⟩
    have notified (is : next.notify = state.notify.notifyOne) : next.notify.Signalled :=
      is ▸ state.notify.notifyOne_signalled
    rcases signal with last | signalled | pending
    · rcases pushes.head with same | pending
      · exact .inl (same.trans last)
      · exact .inr (.inr pending)
    · rcases pushes.notify with same | is
      · exact .inr (.inl (same ▸ signalled))
      · exact .inr (.inl (notified is))
    · rcases pushes.pending pending with still | is
      · exact .inr (.inr still)
      · exact .inr (.inl (notified is))

/-! ## Steps of a pop -/

theorem covered_elsewhere (absent : state.notify.waiter = .absent)
    (loaded : ∀ tail, state.consumer = .loaded tail → tail ≤ state.tail)
    (elsewhere : ∀ tail head, state.consumer ≠ .empty tail head) : Covered state where
  sound := Notify.sound_of_absent absent
  waits present := absurd absent present
  loaded := loaded
  empty tail head empty := absurd empty (elsewhere tail head)

theorem Covered.absent (covered : Covered state)
    (elsewhere : ∀ tail head, state.consumer ≠ .empty tail head) : state.notify.waiter = .absent := by
  by_contra present
  obtain ⟨tail, head, empty⟩ := covered.waits present
  exact elsewhere tail head empty

theorem Covered.popStep (covered : Covered state) (moved : popStep state action = some next) :
    Covered next := by
  cases action with
  | pop =>
    simp only [Wakeups.popStep] at moved
    split at moved
    next idle =>
      cases moved
      exact covered_elsewhere (covered.absent (by simp [idle])) (by simp) (by simp)
    next => nomatch moved
  | popLoadTail =>
    simp only [Wakeups.popStep] at moved
    split at moved
    next starting =>
      cases moved
      refine covered_elsewhere (covered.absent (by simp [starting])) ?_ (by simp)
      intro tail loaded
      cases loaded
      exact Nat.le_refl _
    next => nomatch moved
  | popLoadHead =>
    simp only [Wakeups.popStep] at moved
    split at moved
    next tail loaded =>
      have absent := covered.absent (by simp [loaded])
      have inside := covered.loaded tail loaded
      split_ifs at moved with empty replay
      · cases moved
        refine ⟨Notify.sound_of_absent absent, fun present => absurd absent present, by simp, ?_⟩
        intro before seen found
        cases found
        exact ⟨empty, inside, .inl rfl⟩
      · cases moved
        exact covered_elsewhere absent (by simp) (by simp)
      · cases moved
        exact covered_elsewhere absent (by simp) (by simp)
    next => nomatch moved
  | poll =>
    simp only [Wakeups.popStep] at moved
    split at moved
    next tail head empty =>
      split_ifs at moved with done
      · cases moved
        exact covered_elsewhere (Notify.poll_done done) (by simp) (by simp)
      · cases moved
        obtain ⟨unsignalled, sound⟩ := Notify.poll_pending (by simpa using done) covered.sound
        refine ⟨sound, fun _ => ⟨tail, head, empty⟩, covered.loaded, ?_⟩
        intro before seen found
        obtain ⟨tested, inside, signal⟩ := covered.empty before seen found
        -- A poll that is pending has met no signal, so the last head was seen or a push notifies.
        rcases signal with last | signalled | pending
        · exact ⟨tested, inside, .inl last⟩
        · exact absurd signalled unsignalled
        · exact ⟨tested, inside, .inr (.inr pending)⟩
    next => nomatch moved
  | delayEnds =>
    simp only [Wakeups.popStep] at moved
    split at moved
    next tail sleeping =>
      cases moved
      exact covered_elsewhere (covered.absent (by simp [sleeping])) (by simp) (by simp)
    next => nomatch moved
  | take payload =>
    simp only [Wakeups.popStep] at moved
    split at moved
    next tail reading =>
      cases moved
      exact covered_elsewhere (covered.absent (by simp [reading]))
        (by simp only; split_ifs <;> simp) (by simp only; split_ifs <;> simp)
    next => nomatch moved
  | cancel =>
    simp only [Wakeups.popStep] at moved
    split at moved
    next =>
      split_ifs at moved
      cases moved
      exact covered_elsewhere (Notify.drop_absent _) (by simp) (by simp)
    next sleeping =>
      cases moved
      exact covered_elsewhere (covered.absent (by simp [sleeping])) (by simp) (by simp)
    next => nomatch moved
  | onReconnect lag =>
    simp only [Wakeups.popStep] at moved
    split at moved
    next idle =>
      cases moved
      exact covered_elsewhere (covered.absent (by simp [idle])) (by simp [idle]) (by simp [idle])
    next => nomatch moved
  | _ => nomatch moved

end Steps

theorem Covered.step {numSlots : Nat} {state next : State} {action : Action}
    (covered : Covered state) (moved : step numSlots state action = some next) : Covered next := by
  rw [Wakeups.step, Option.or_eq_some_iff] at moved
  rcases moved with pushed | ⟨_, popped⟩
  · exact covered.pushes (pushStep_pushes pushed)
  · exact covered.popStep popped

theorem Covered.not_lost {state : State} (covered : Covered state) : ¬ LostWakeup state := by
  rintro ⟨waiting, permit, quiet, behind⟩
  obtain ⟨tail, head, empty⟩ := covered.waits (by rw [waiting]; decide)
  obtain ⟨tested, inside, signal⟩ := covered.empty tail head empty
  rcases signal with last | (stored | woken) | pending
  · omega
  · exact absurd (permit.symm.trans stored) (by decide)
  · exact absurd (waiting.symm.trans woken) (by decide)
  · exact absurd (quiet.symm.trans pending) (by decide)

/-- Whatever the order of the steps, and whenever a pop is dropped and called again, it does not
wait beside something to read without a signal that is stored or on its way. -/
theorem waiting_pop_signalled (numSlots : Nat) (actions : List Action) :
    Throughout (step numSlots) (fun state => ¬ LostWakeup state) start actions := by
  have covered : Covered start := covered_elsewhere rfl (by simp [start]) (by simp [start])
  rw [throughout_iff_prefixes]
  intro taken rest final _ ran
  exact (exec_invariant (fun _ _ _ covered moved => covered.step moved) covered ran).not_lost

/-! ## Calls that nothing interrupts -/

section Alone

variable {geometry : Geometry} {ring : Ring geometry} {state : State}

-- A push that no step of a pop comes between moves the indices as the ring's `push` does.
theorem push_alone (env : DataEnvelope) (idle : state.producer = .idle)
    (head : state.head = ring.head) (tail : state.tail = ring.tail) :
    ∃ actions, exec (step geometry.numSlots) state actions = some { state with
      head := (ring.push env).head, tail := (ring.push env).tail,
      notify := state.notify.notifyOne } := by
  by_cases laps : ring.head + 1 > ring.tail + geometry.numSlots
  · refine ⟨[.loadHead, .advanceHead, .testLap, .advanceTail, .notifyOne], ?_⟩
    simp only [exec_cons, exec_nil, step, pushStep, idle, head, tail, Ring.push, if_pos laps,
      Option.some_or, Option.bind_some]
  · refine ⟨[.loadHead, .advanceHead, .testLap, .notifyOne], ?_⟩
    simp only [exec_cons, exec_nil, step, pushStep, idle, head, tail, Ring.push, if_neg laps,
      Option.some_or, Option.bind_some]

-- So does a pop, whose tests are those of `popBegin`.
theorem pop_alone (idle : state.consumer = .idle) (head : state.head = ring.head)
    (tail : state.tail = ring.tail) (replay : state.inReplay = ring.inReplay) (payload : Bool) :
    match ring.popBegin with
    | (waits, none) => exec (step geometry.numSlots) state [.pop, .popLoadTail, .popLoadHead] =
        some { state with consumer := .empty ring.tail ring.head, inReplay := waits.inReplay }
    | (loaded, some index) => ∃ actions, exec (step geometry.numSlots) state actions =
        some { state with
          tail := (loaded.popFinish index).1.tail
          consumer := if payload then .idle else .starting } := by
  by_cases empty : ring.tail ≥ ring.head
  · simp only [Ring.popBegin, if_pos empty, exec_cons, exec_nil, step, pushStep, popStep, idle, head,
      tail, Option.none_or, Option.bind_some]
  · simp only [Ring.popBegin, if_neg empty]
    cases delayed : ring.inReplay with
    | false =>
      refine ⟨[.pop, .popLoadTail, .popLoadHead, .take payload], ?_⟩
      simp only [exec_cons, exec_nil, step, pushStep, popStep, idle, head, tail, if_neg empty, replay,
        delayed, Bool.false_eq_true, if_false, Option.none_or, Option.bind_some, Ring.popFinish]
    | true =>
      refine ⟨[.pop, .popLoadTail, .popLoadHead, .delayEnds, .take payload], ?_⟩
      simp only [exec_cons, exec_nil, step, pushStep, popStep, idle, head, tail, if_neg empty, replay,
        delayed, if_true, Option.none_or, Option.bind_some, Ring.popFinish]

end Alone
end SystemScale.Agent.Wakeups
