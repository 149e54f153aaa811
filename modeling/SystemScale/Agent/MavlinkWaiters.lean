import SystemScale.Agent.Mavlink

set_option autoImplicit false

/-!
# The map of waiters

Calls may fail while they send, and COMMAND_ACKs may come late, twice or never. `pending_acks` is
to hold the waiters of calls that have not returned, and no others.
-/

namespace SystemScale.Agent.Mavlink

open Runs

def Phase.inFlight : Phase → Bool
  | .started => false
  | .registered => true
  | .waiting => true
  | .expired => true
  | .returned _ => false

namespace Adapter

/-- An adapter, and the calls whose registration has put out the waiter of another call. -/
structure World where
  adapter : Adapter
  displacing : Nat → Bool

inductive Event where
  | act (action : Action)
  -- The deadline of a call passes without an answer.
  | timeout (call : Nat)
  -- A COMMAND_ACK comes in that answers none of the calls.
  | stray (command : UInt16) (result : MavResult)

/-- `insert` on the map gives back another call's sender. -/
def displaces (adapter : Adapter) (index : Nat) : Bool :=
  match adapter.calls[index]? with
  | some call => (adapter.pendingAcks call.key).isSome
  | none => false

namespace World

def start : World := ⟨Adapter.start, fun _ => false⟩

def displacingAfter (world : World) : Action → Nat → Bool
  | .register index => Function.update world.displacing index (world.adapter.displaces index)
  | _ => world.displacing

def step (known : UInt32 → Bool) (world : World) : Event → Option World
  | .act action => do
    let adapter ← Adapter.step known world.adapter action
    some ⟨adapter, world.displacingAfter action⟩
  | .timeout index => do
    let call ← world.adapter.calls[index]?
    match call.phase, call.channel with
    | .waiting, .empty => some { world with adapter := world.adapter.setPhase index .expired }
    | _, _ => none
  | .stray command result =>
    some { world with adapter := world.adapter.takeSender command (.sent result) }

end World

def phaseAt (adapter : Adapter) (index : Nat) : Option Phase := adapter.calls[index]?.map Call.phase

/-- The map holds waiters of calls in flight only, and a call that returned an error has put out
no waiter of another one. -/
structure Tidy (world : World) : Prop where
  entries : ∀ key index, world.adapter.pendingAcks key = some index →
    ∃ phase, world.adapter.phaseAt index = some phase ∧ phase.inFlight
  errors : ∀ index context, world.adapter.phaseAt index = some (.returned (.error context)) →
    (∀ key, world.adapter.pendingAcks key ≠ some index) ∧ world.displacing index = false

/-- A call fails behind its registration only when its waiter is gone and has put out no other. -/
def FailsAlone (world : World) : Event → Prop
  | .act (.sendFails index _) => (∀ key, world.adapter.pendingAcks key ≠ some index) ∧
      world.displacing index = false
  | _ => True

/-! ## Changes of the map -/

/-- Every waiter in the map is that of a call in flight to which no result has been sent, and the
channels of calls that have not registered are unused. -/
structure Held (adapter : Adapter) : Prop where
  owner : ∀ key index, adapter.pendingAcks key = some index →
    ∃ call, adapter.calls[index]? = some call ∧ call.key = key ∧ call.channel = .empty ∧
      call.phase.inFlight
  unused : ∀ (index : Nat) (call : Call), adapter.calls[index]? = some call →
    call.phase = .started → call.channel = .empty

section Changes

variable {adapter : Adapter} {key : UInt16} {index : Nat} {call : Call} {phase : Phase}

theorem phaseAt_of_call (was : adapter.calls[index]? = some call) :
    adapter.phaseAt index = some call.phase := by rw [phaseAt, was]; rfl

theorem phaseAt_modify (change : Call → Call) (keeps : ∀ call, (change call).phase = call.phase)
    (waiters : UInt16 → Option Nat) (other : Nat) :
    (⟨adapter.calls.modify index change, waiters⟩ : Adapter).phaseAt other =
      adapter.phaseAt other := by
  unfold phaseAt
  by_cases same : other = index
  · subst same
    simp only [List.getElem?_modify_eq, Option.map_eq_map, Option.map_map]
    congr 1
    exact funext keeps
  · rw [lookup_modify_other _ same]

@[simp] theorem phaseAt_takeSender (use : Channel) (other : Nat) :
    (adapter.takeSender key use).phaseAt other = adapter.phaseAt other := by
  unfold takeSender
  cases adapter.pendingAcks key with
  | none => rfl
  | some owner =>
    exact phaseAt_modify (fun call => { call with channel := use }) (fun _ => rfl) _ other

@[simp] theorem phaseAt_setAnswer (result : MavResult) (other : Nat) :
    (adapter.setAnswer index result).phaseAt other = adapter.phaseAt other :=
  phaseAt_modify (fun call => { call with answer := some result }) (fun _ => rfl) _ other

@[simp] theorem phaseAt_insertSender (other : Nat) :
    (adapter.insertSender key index).phaseAt other = adapter.phaseAt other := rfl

theorem phaseAt_setPhase (other : Nat) :
    (adapter.setPhase index phase).phaseAt other =
      if other = index then (adapter.phaseAt other).map fun _ => phase
      else adapter.phaseAt other := by
  split_ifs with same
  · subst same
    simp [phaseAt, setPhase, List.getElem?_modify_eq, Function.comp_def]
  · exact congrArg (Option.map Call.phase) (lookup_modify_other _ same)

theorem pendingAcks_takeSender (use : Channel) :
    (adapter.takeSender key use).pendingAcks = Function.update adapter.pendingAcks key none := by
  unfold takeSender
  cases free : adapter.pendingAcks key with
  | none => exact (Function.update_eq_self_iff.mpr free.symm).symm
  | some owner => rfl

theorem lookup_takeSender (use : Channel) {other : Nat}
    (differs : adapter.pendingAcks key ≠ some other) :
    (adapter.takeSender key use).calls[other]? = adapter.calls[other]? := by
  unfold takeSender
  cases taken : adapter.pendingAcks key with
  | none => rfl
  | some owner =>
    refine lookup_modify_other _ ?_
    rintro rfl
    exact differs taken

theorem Held.takeSender (held : Held adapter) (use : Channel) :
    Held (adapter.takeSender key use) := by
  constructor
  · intro other index found
    rw [pendingAcks_takeSender] at found
    have differs : other ≠ key := by
      rintro rfl
      rw [Function.update_self] at found
      cases found
    rw [Function.update_of_ne differs] at found
    obtain ⟨call, is, keyed, rest⟩ := held.owner other index found
    refine ⟨call, (lookup_takeSender use fun taken => ?_).trans is, keyed, rest⟩
    obtain ⟨first, first_is, first_keyed, _⟩ := held.owner key index taken
    obtain rfl := Option.some.inj (is.symm.trans first_is)
    exact differs (keyed.symm.trans first_keyed)
  · intro index call is started
    by_cases taken : adapter.pendingAcks key = some index
    · -- The owner of a sender is in flight.
      obtain ⟨owner, owner_is, _, _, flying⟩ := held.owner key index taken
      have phase : (adapter.takeSender key use).phaseAt index = some owner.phase :=
        (phaseAt_takeSender use index).trans (phaseAt_of_call owner_is)
      rw [phaseAt_of_call is, started, Option.some.injEq] at phase
      rw [← phase] at flying
      cases flying
    · rw [lookup_takeSender use taken] at is
      exact held.unused index call is started

theorem Held.setAnswer (held : Held adapter) (result : MavResult) :
    Held (adapter.setAnswer index result) := by
  constructor
  · intro key other found
    obtain ⟨call, is, keyed, rest⟩ := held.owner key other found
    by_cases same : other = index
    · subst same
      exact ⟨_, lookup_modify is _, keyed, rest⟩
    · exact ⟨call, (lookup_modify_other _ same).trans is, keyed, rest⟩
  · intro other call is started
    by_cases same : other = index
    · subst same
      cases was : adapter.calls[other]? with
      | none => simp [Adapter.setAnswer, List.getElem?_modify_eq, was] at is
      | some before =>
        obtain rfl := Option.some.inj ((lookup_modify was _).symm.trans is)
        exact held.unused other before was started
    · exact held.unused other call ((lookup_modify_other _ same).symm.trans is) started

-- A call that stays in flight may keep its waiter, and one that has none may return.
theorem Held.setPhase (held : Held adapter) (begun : phase ≠ .started)
    (allowed : phase.inFlight ∨ ∀ key, adapter.pendingAcks key ≠ some index) :
    Held (adapter.setPhase index phase) := by
  constructor
  · intro key other found
    obtain ⟨call, is, keyed, channel, flying⟩ := held.owner key other found
    by_cases same : other = index
    · subst same
      refine ⟨_, lookup_modify is _, keyed, channel, ?_⟩
      exact allowed.resolve_right fun none => none key found
    · exact ⟨call, (lookup_modify_other _ same).trans is, keyed, channel, flying⟩
  · intro other call is started
    by_cases same : other = index
    · subst same
      have phase_is := phaseAt_of_call is
      rw [phaseAt_setPhase, if_pos rfl, Option.map_eq_some_iff] at phase_is
      obtain ⟨_, _, now⟩ := phase_is
      exact absurd (now.trans started) begun
    · exact held.unused other call ((lookup_modify_other _ same).symm.trans is) started

theorem Held.register (held : Held adapter) (was : adapter.calls[index]? = some call)
    (started : call.phase = .started) :
    Held (((adapter.takeSender call.key .dropped).insertSender call.key index).setPhase index
      .registered) := by
  have taken : Held (adapter.takeSender call.key .dropped) := held.takeSender .dropped
  have free : adapter.pendingAcks call.key ≠ some index := by
    intro found
    obtain ⟨owner, is, _, _, flying⟩ := held.owner call.key index found
    obtain rfl := Option.some.inj (was.symm.trans is)
    rw [started] at flying
    cases flying
  have is : (adapter.takeSender call.key .dropped).calls[index]? = some call :=
    (lookup_takeSender .dropped free).trans was
  have unused := held.unused index call was started
  constructor
  · intro key other found
    have found : Function.update (adapter.takeSender call.key .dropped).pendingAcks call.key
        (some index) key = some other := found
    by_cases own : key = call.key
    · subst own
      rw [Function.update_self, Option.some.injEq] at found
      subst found
      exact ⟨_, lookup_modify is _, rfl, unused, rfl⟩
    · rw [Function.update_of_ne own] at found
      obtain ⟨owner, owner_is, keyed, rest⟩ := taken.owner key other found
      have differs : other ≠ index := by
        rintro rfl
        obtain rfl := Option.some.inj (is.symm.trans owner_is)
        exact own keyed.symm
      exact ⟨owner, (lookup_modify_other _ differs).trans owner_is, keyed, rest⟩
  · intro other before found began
    by_cases same : other = index
    · subst same
      obtain rfl := Option.some.inj ((lookup_modify is _).symm.trans found)
      cases began
    · exact taken.unused other before ((lookup_modify_other _ same).symm.trans found) began

theorem Held.absent (held : Held adapter) (was : adapter.calls[index]? = some call)
    (not_held : call.channel ≠ .empty ∨ ¬ call.phase.inFlight) (key : UInt16) :
    adapter.pendingAcks key ≠ some index := by
  intro found
  obtain ⟨owner, is, _, channel, flying⟩ := held.owner key index found
  obtain rfl := Option.some.inj (was.symm.trans is)
  rcases not_held with used | landed
  · exact used channel
  · exact landed flying

end Changes

/-! ## Steps -/

/-- What a step does to the phase of a call, unless the call fails behind its registration. -/
inductive Advances : Option Phase → Option Phase → Prop where
  | same (phase : Option Phase) : Advances phase phase
  | begun {phase : Phase} : Advances none (some phase)
  | moved {before phase : Phase} (begun : phase ≠ .started)
      (fine : ∀ context, phase ≠ .returned (.error context)) : Advances (some before) (some phase)

theorem Advances.fresh {before after : Option Phase} (advances : Advances before after)
    (early : after = none ∨ after = some .started) : before = none ∨ before = some .started := by
  cases advances with
  | same => exact early
  | begun => exact .inl rfl
  | moved begun fine => exact absurd (by simpa using early) begun

theorem Advances.error {before : Option Phase} {context : String}
    (advances : Advances before (some (.returned (.error context)))) :
    before = none ∨ before = some (.returned (.error context)) := by
  cases advances with
  | same => exact .inr rfl
  | begun => exact .inl rfl
  | moved begun fine => exact absurd rfl (fine context)

section Steps

variable {known : UInt32 → Bool} {adapter next : Adapter} {index : Nat} {phase : Phase}
  {action : Action}

theorem advances_setPhase (begun : phase ≠ .started)
    (fine : ∀ context, phase ≠ .returned (.error context)) (other : Nat) :
    Advances (adapter.phaseAt other) ((adapter.setPhase index phase).phaseAt other) := by
  rw [phaseAt_setPhase]
  split_ifs
  · cases adapter.phaseAt other with
    | none => exact .same none
    | some before => exact .moved begun fine
  · exact .same _

theorem append_held {call : Call} (held : Held adapter)
    (unused : call.phase = .started → call.channel = .empty) :
    Held { adapter with calls := adapter.calls ++ [call] } ∧
      ∀ other, Advances (adapter.phaseAt other)
        (({ adapter with calls := adapter.calls ++ [call] } : Adapter).phaseAt other) := by
  have earlier {place : Nat} (inside : place < adapter.calls.length) :
      (adapter.calls ++ [call])[place]? = adapter.calls[place]? := List.getElem?_append_left inside
  refine ⟨⟨?_, ?_⟩, ?_⟩
  · intro key place found
    obtain ⟨owner, is, rest⟩ := held.owner key place found
    exact ⟨owner, (earlier (List.getElem?_eq_some_iff.mp is).1).trans is, rest⟩
  · intro place found is started
    by_cases inside : place < adapter.calls.length
    · exact held.unused place found ((earlier inside).symm.trans is) started
    · have last : place = adapter.calls.length := by
        have within := (List.getElem?_eq_some_iff.mp is).1
        rw [List.length_append, List.length_singleton] at within
        omega
      subst last
      rw [List.getElem?_concat_length] at is
      obtain rfl := Option.some.inj is
      exact unused started
  · intro place
    unfold phaseAt
    by_cases inside : place < adapter.calls.length
    · rw [earlier inside]
      exact .same _
    · rw [List.getElem?_eq_none (Nat.le_of_not_lt inside)]
      cases (adapter.calls ++ [call])[place]? with
      | none => exact .same none
      | some found => exact .begun

theorem step_held (held : Held adapter) (taken : Adapter.step known adapter action = some next)
    (lasting : ∀ place context, action ≠ .sendFails place context) :
    Held next ∧ ∀ other, Advances (adapter.phaseAt other) (next.phaseAt other) := by
  cases step_change taken with
  | decoded decoded => exact append_held held fun _ => rfl
  | undecoded cmd undecoded => exact append_held held (by simp)
  | @register index call was started =>
    refine ⟨held.register was started, fun other => ?_⟩
    have advances : Advances (adapter.phaseAt other)
        ((adapter.setPhase index .registered).phaseAt other) :=
      advances_setPhase (by simp) (by simp) other
    rw [phaseAt_setPhase] at advances ⊢
    rwa [phaseAt_insertSender, phaseAt_takeSender]
  | send was registered =>
    exact ⟨held.setPhase (by simp) (.inl rfl), advances_setPhase (by simp) (by simp)⟩
  | @sendFails index _ context => exact absurd rfl (lasting index context)
  | ack result was sent unanswered =>
    refine ⟨(held.setAnswer result).takeSender _, fun other => ?_⟩
    rw [phaseAt_takeSender, phaseAt_setAnswer]
    exact .same _
  | receive was waiting sent =>
    have none := held.absent was (.inl (by rw [sent]; simp))
    exact ⟨held.setPhase (by simp) (.inr none), advances_setPhase (by simp) (by simp)⟩
  | disconnect was waiting dropped =>
    exact ⟨held.setPhase (by simp) (.inl rfl), advances_setPhase (by simp) (by simp)⟩
  | deadline was waiting empty answered =>
    exact ⟨held.setPhase (by simp) (.inl rfl), advances_setPhase (by simp) (by simp)⟩
  | @removeWaiter index call was expired =>
    -- The call's own sender can only be under its key.
    have none (key : UInt16) :
        (adapter.takeSender call.key .dropped).pendingAcks key ≠ some index := by
      rw [pendingAcks_takeSender]
      intro found
      by_cases own : key = call.key
      · subst own
        rw [Function.update_self] at found
        cases found
      · rw [Function.update_of_ne own] at found
        obtain ⟨owner, is, keyed, _⟩ := held.owner key index found
        obtain rfl := Option.some.inj (was.symm.trans is)
        exact own keyed.symm
    refine ⟨(held.takeSender _).setPhase (by simp) (.inr none), fun other => ?_⟩
    rw [← phaseAt_takeSender .dropped other]
    exact advances_setPhase (by simp) (by simp) other

end Steps

/-! ## Runs -/

/-- What the runs keep besides: a call that has not registered has put out no waiter. -/
structure Kept (world : World) : Prop where
  held : Held world.adapter
  fresh : ∀ index, world.adapter.phaseAt index = none ∨
    world.adapter.phaseAt index = some .started → world.displacing index = false

section Runs

variable {known : UInt32 → Bool} {world next : World} {event : Event}

theorem Held.entries {adapter : Adapter} (held : Held adapter) {key : UInt16} {index : Nat}
    (found : adapter.pendingAcks key = some index) :
    ∃ phase, adapter.phaseAt index = some phase ∧ phase.inFlight := by
  obtain ⟨owner, is, _, _, flying⟩ := held.owner key index found
  exact ⟨owner.phase, phaseAt_of_call is, flying⟩

theorem kept_of_advances (kept : Kept world) (tidy : Tidy world) (held : Held next.adapter)
    (advances : ∀ other, Advances (world.adapter.phaseAt other) (next.adapter.phaseAt other) ∨
      world.displacing other = false)
    (displacing : ∀ other, next.displacing other = world.displacing other ∨
      next.adapter.phaseAt other = some .registered) : Kept next ∧ Tidy next := by
  constructor
  · refine ⟨held, fun other early => ?_⟩
    rcases displacing other with same | registered
    · rw [same]
      rcases advances other with advance | none
      · exact kept.fresh other (advance.fresh early)
      · exact none
    · rw [registered] at early
      simp at early
  · refine ⟨fun key index found => held.entries found, fun other context failed => ⟨?_, ?_⟩⟩
    · intro key found
      obtain ⟨phase, is, flying⟩ := held.entries found
      obtain rfl := Option.some.inj (failed.symm.trans is)
      cases flying
    · rcases displacing other with same | registered
      · rw [same]
        rcases advances other with advance | none
        · rw [failed] at advance
          rcases advance.error with absent | failed_before
          · exact kept.fresh other (.inl absent)
          · exact (tidy.errors other context failed_before).2
        · exact none
      · rw [registered] at failed
        simp at failed

theorem register_displacing {index : Nat} {adapter : Adapter}
    (taken : Adapter.step known world.adapter (.register index) = some adapter) (other : Nat) :
    world.displacingAfter (.register index) other = world.displacing other ∨
      adapter.phaseAt other = some .registered := by
  by_cases same : other = index
  · subst same
    cases step_change taken with
    | register was started =>
      refine .inr ?_
      rw [phaseAt_setPhase, if_pos rfl, phaseAt_insertSender, phaseAt_takeSender,
        phaseAt_of_call was]
      rfl
  · exact .inl (Function.update_of_ne same _ _)

theorem step_kept (kept : Kept world) (tidy : Tidy world)
    (taken : World.step known world event = some next) (alone : FailsAlone world event) :
    Kept next ∧ Tidy next := by
  cases event with
  | act action =>
    simp only [World.step, Option.bind_eq_bind, Option.bind_eq_some_iff] at taken
    obtain ⟨adapter, taken, ended⟩ := taken
    obtain rfl := Option.some.inj ended
    by_cases fails : ∃ index context, action = .sendFails index context
    · obtain ⟨index, context, rfl⟩ := fails
      cases step_change taken with
      | sendFails _ was registered =>
        refine kept_of_advances kept tidy (kept.held.setPhase (by simp) (.inr alone.1)) ?_
          fun _ => .inl rfl
        intro other
        by_cases same : other = index
        · exact .inr (same ▸ alone.2)
        · refine .inl ?_
          rw [phaseAt_setPhase, if_neg same]
          exact .same _
    · obtain ⟨held, advances⟩ := step_held kept.held taken
        fun index context is => fails ⟨index, context, is⟩
      refine kept_of_advances kept tidy held (fun other => .inl (advances other)) ?_
      cases action with
      | register index => exact register_displacing taken
      | _ => exact fun _ => .inl rfl
  | timeout index =>
    simp only [World.step, Option.bind_eq_bind, Option.bind_eq_some_iff] at taken
    obtain ⟨call, was, taken⟩ := taken
    split at taken
    next =>
      obtain rfl := Option.some.inj taken
      exact kept_of_advances kept tidy (kept.held.setPhase (by simp) (.inl rfl))
        (fun other => .inl (advances_setPhase (by simp) (by simp) other)) fun _ => .inl rfl
    next => cases taken
  | stray command result =>
    obtain rfl := Option.some.inj taken
    refine kept_of_advances kept tidy (kept.held.takeSender _) (fun other => .inl ?_)
      fun _ => .inl rfl
    rw [phaseAt_takeSender]
    exact .same _

theorem failed_alone (tidy : Tidy next) (taken : World.step known world event = some next) :
    FailsAlone world event := by
  unfold FailsAlone
  split
  next index context =>
    simp only [World.step, Option.bind_eq_bind, Option.bind_eq_some_iff] at taken
    obtain ⟨adapter, taken, ended⟩ := taken
    obtain rfl := Option.some.inj ended
    cases step_change taken with
    | sendFails _ was registered =>
      refine tidy.errors index context ?_
      rw [phaseAt_setPhase, if_pos rfl, phaseAt_of_call was]
      rfl
  next => trivial

end Runs

/-- In every state of a run the map is tidy, exactly if no call fails that has left a waiter in
the map or has put out another one. -/
theorem waiters_tidy_iff (known : UInt32 → Bool) (events : List Event) :
    Throughout (World.step known) Tidy World.start events ↔
      Along (World.step known) FailsAlone World.start events := by
  have kept : Kept World.start := by
    refine ⟨⟨fun _ _ found => ?_, fun _ _ is => ?_⟩, fun _ _ => rfl⟩
    · cases found
    · cases is
  have tidy : Tidy World.start := by
    refine ⟨fun _ _ found => ?_, fun _ _ failed => ?_⟩
    · cases found
    · cases failed
  refine throughout_iff_along (fun _ _ _ kept tidy alone taken => (step_kept kept tidy taken alone).1)
    ?_ kept tidy
  intro world event next kept tidy taken
  exact ⟨fun later => failed_alone later taken, fun alone => (step_kept kept tidy taken alone).2⟩

/-- The socket refuses the frame of a call that has registered. -/
theorem failed_call_leaves_waiter :
    (∃ final, exec (World.step armDisarm) World.start [.act (.sendCommand (armCommand "c1")),
        .act (.register 0), .act (.sendFails 0 "sending MAVLink COMMAND_LONG via UDP")] = some final ∧
      final.adapter.pendingAcks 400 = some 0 ∧
      final.adapter.phaseAt 0 =
        some (.returned (.error "sending MAVLink COMMAND_LONG via UDP"))) ∧
    ¬ ∀ events, Throughout (World.step armDisarm) Tidy World.start events := by
  have ran : ∃ final, exec (World.step armDisarm) World.start [.act (.sendCommand (armCommand "c1")),
      .act (.register 0), .act (.sendFails 0 "sending MAVLink COMMAND_LONG via UDP")] =
        some final ∧
      final.adapter.pendingAcks 400 = some 0 ∧
      final.adapter.phaseAt 0 =
        some (.returned (.error "sending MAVLink COMMAND_LONG via UDP")) := ⟨_, rfl, rfl, rfl⟩
  refine ⟨ran, fun always => ?_⟩
  obtain ⟨final, ran, left, failed⟩ := ran
  have tidy := throughout_iff_prefixes.mp (always _) _ [] final (List.append_nil _).symm ran
  exact (tidy.errors 0 _ failed).1 400 left

end Adapter

end SystemScale.Agent.Mavlink
