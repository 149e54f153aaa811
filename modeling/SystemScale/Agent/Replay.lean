import SystemScale.Agent.RingQueue

set_option autoImplicit false

/-!
# Pops that sleep

During catch-up a pop sleeps between loading the tail and reading its slot, and pushes go on
meanwhile. Each envelope is named by its place in the order of pushes.
-/

namespace SystemScale.Agent

open AdapterTrait Runs
open Wire (Outcome)

variable {geometry : Geometry}

/-- The ring, the tail that a sleeping pop has loaded, and what happened so far: all payloads
pushed, and those returned with their place in that order. -/
structure Replay (geometry : Geometry) where
  ring : Ring geometry
  suspended : Option Nat
  pushed : List (List UInt8)
  returned : List (Nat × List UInt8)

inductive Replay.Action where
  | push (env : DataEnvelope)
  | pop
  | resume
  -- The future of the sleeping pop is dropped.
  | cancel
  | onReconnect

/-- The last of the first `head` pushes that wrote the slot of `index`. -/
def lastWriter (numSlots head index : Nat) : Nat := head - 1 - (head - 1 - index) % numSlots

namespace Replay

def start (ring : Ring geometry) : Replay geometry := ⟨ring, none, [], []⟩

def finish (state : Replay geometry) (tail : Nat) : Replay geometry :=
  match state.ring.popFinish tail with
  | (ring, .payload bytes) =>
    { state with
      ring
      suspended := none
      returned := state.returned ++ [(lastWriter geometry.numSlots state.ring.head tail, bytes)] }
  -- The slot is skipped, and the loop starts again with the next pop.
  | (ring, _) => { state with ring, suspended := none }

def step (state : Replay geometry) : Action → Option (Replay geometry)
  | .push env => some
      { state with
        ring := state.ring.push env
        pushed := state.pushed ++ [stored geometry env] }
  | .pop =>
    if state.suspended.isSome then none
    else
      match state.ring.popBegin with
      | (ring, none) => some { state with ring }
      | (ring, some tail) =>
        if ring.inReplay then some { state with ring, suspended := some tail }
        else some (({ state with ring } : Replay geometry).finish tail)
  | .resume => state.suspended.map state.finish
  | .cancel => some { state with suspended := none }
  | .onReconnect =>
    if state.suspended.isSome then none else some { state with ring := state.ring.onReconnect }

def order (state : Replay geometry) : List Nat := state.returned.map Prod.fst

/-- What is promised of the pops: no duplicates, no reordering, and no loss but by lapping. -/
structure Faithful (state : Replay geometry) : Prop where
  genuine : ∀ entry ∈ state.returned, state.pushed[entry.1]? = some entry.2
  increasing : state.order.Pairwise (· < ·)
  ordered : state.ring.tail ≤ state.ring.head
  accounted : ∀ index < state.ring.head, index ∈ state.order ∨ state.ring.tail ≤ index ∨
    index + geometry.numSlots < state.ring.head

/-- A pop wakes up with the tail in the slot that it loaded, in particular when no push moved the
tail in its sleep. -/
def Undisturbed (state : Replay geometry) : Action → Prop
  | .resume => ∀ tail, state.suspended = some tail →
      state.ring.tail % geometry.numSlots = tail % geometry.numSlots
  | _ => True

structure Bounded (state : Replay geometry) : Prop where
  ordered : state.ring.tail ≤ state.ring.head
  bounded : state.ring.head ≤ state.ring.tail + geometry.numSlots
  loaded : ∀ tail, state.suspended = some tail →
    tail ≤ state.ring.tail ∧ state.ring.tail < state.ring.head

structure Sound (state : Replay geometry) : Prop extends Bounded state where
  recorded : Recorded state.ring state.pushed
  taken : ∀ index ∈ state.order, index < state.ring.tail

end Replay

/-! ## Which push a slot holds -/

section LastWriter

variable (numSlots : Nat) {head index tail : Nat}

theorem lastWriter_mod (written : index < head) :
    lastWriter numSlots head index % numSlots = index % numSlots := by
  have turns := Nat.div_add_mod (head - 1 - index) numSlots
  have split : lastWriter numSlots head index =
      index + numSlots * ((head - 1 - index) / numSlots) := by
    unfold lastWriter
    omega
  rw [split, Nat.add_mul_mod_self_left]

theorem lastWriter_lt (written : index < head) : lastWriter numSlots head index < head := by
  unfold lastWriter
  omega

theorem lastWriter_recent (positive : 0 < numSlots) :
    head ≤ lastWriter numSlots head index + numSlots := by
  have := Nat.mod_lt (head - 1 - index) positive
  unfold lastWriter
  omega

theorem lastWriter_eq (positive : 0 < numSlots) (written : index < head)
    (same : tail % numSlots = index % numSlots) (inside : tail < head)
    (bounded : head ≤ tail + numSlots) : lastWriter numSlots head index = tail := by
  have slot := lastWriter_mod numSlots written
  have below := lastWriter_lt numSlots written
  have recent : head ≤ lastWriter numSlots head index + numSlots :=
    lastWriter_recent numSlots positive
  rcases Nat.lt_trichotomy (lastWriter numSlots head index) tail with less | equal | more
  · exact absurd (slot.trans same.symm) (DropQueue.slot_ne less (by omega))
  · exact equal
  · exact absurd (same.trans slot.symm) (DropQueue.slot_ne more (by omega))

end LastWriter

namespace Replay

/-! ## What a step does -/

def pushing (state : Replay geometry) (env : DataEnvelope) : Replay geometry :=
  { state with
    ring := state.ring.push env
    pushed := state.pushed ++ [stored geometry env] }

/-- A pop reads the slot of `tail` in this step. -/
def Finishes (state : Replay geometry) (tail : Nat) : Action → Prop
  | .pop => tail = state.ring.tail ∧ state.ring.tail < state.ring.head
  | .resume => state.suspended = some tail
  | _ => False

/-- Nothing is pushed or returned, and a pop falls asleep only over a slot in use. -/
structure Quiet (state next : Replay geometry) : Prop where
  mmap : next.ring.mmap = state.ring.mmap
  head : next.ring.head = state.ring.head
  tail : next.ring.tail = state.ring.tail
  pushed : next.pushed = state.pushed
  returned : next.returned = state.returned
  loaded : ∀ tail, next.suspended = some tail →
    tail = state.ring.tail ∧ state.ring.tail < state.ring.head

theorem step_cases {state next : Replay geometry} {action : Action}
    (taken : step state action = some next) :
    (∃ env, action = .push env ∧ next = state.pushing env) ∨
      (∃ tail, Finishes state tail action ∧ next = state.finish tail) ∨
      (Quiet state next ∧ action ≠ .resume) := by
  cases action with
  | push env => exact .inl ⟨env, rfl, (Option.some.inj taken).symm⟩
  | pop =>
    right
    simp only [step] at taken
    by_cases asleep : state.suspended.isSome
    · rw [if_pos asleep] at taken
      cases taken
    · rw [if_neg asleep] at taken
      have awake : state.suspended = none := by simpa using asleep
      by_cases empty : state.ring.tail ≥ state.ring.head
      · simp only [Ring.popBegin, if_pos empty] at taken
        obtain rfl := Option.some.inj taken
        refine .inr ⟨⟨rfl, rfl, rfl, rfl, rfl, ?_⟩, by simp⟩
        intro tail suspended
        simp [awake] at suspended
      · simp only [Ring.popBegin, if_neg empty] at taken
        by_cases replay : state.ring.inReplay
        · rw [if_pos replay] at taken
          obtain rfl := Option.some.inj taken
          refine .inr ⟨⟨rfl, rfl, rfl, rfl, rfl, ?_⟩, by simp⟩
          intro tail suspended
          exact ⟨(Option.some.inj suspended).symm, Nat.lt_of_not_le empty⟩
        · rw [if_neg replay] at taken
          exact .inl ⟨_, ⟨rfl, Nat.lt_of_not_le empty⟩, (Option.some.inj taken).symm⟩
  | resume =>
    right
    simp only [step, Option.map_eq_some_iff] at taken
    obtain ⟨tail, suspended, rfl⟩ := taken
    exact .inl ⟨tail, suspended, rfl⟩
  | cancel =>
    right
    obtain rfl := Option.some.inj taken
    exact .inr ⟨⟨rfl, rfl, rfl, rfl, rfl, by simp⟩, by simp⟩
  | onReconnect =>
    right
    simp only [step] at taken
    by_cases asleep : state.suspended.isSome
    · rw [if_pos asleep] at taken
      cases taken
    · rw [if_neg asleep] at taken
      have awake : state.suspended = none := by simpa using asleep
      obtain rfl := Option.some.inj taken
      have same : state.ring.onReconnect.mmap = state.ring.mmap ∧
          state.ring.onReconnect.head = state.ring.head ∧
          state.ring.onReconnect.tail = state.ring.tail := by
        unfold Ring.onReconnect
        split_ifs <;> exact ⟨rfl, rfl, rfl⟩
      refine .inr ⟨⟨same.1, same.2.1, same.2.2, rfl, rfl, ?_⟩, by simp⟩
      intro tail suspended
      simp [awake] at suspended

/-! ## Every run -/

theorem finish_ring (state : Replay geometry) (tail : Nat) :
    (state.finish tail).ring = { state.ring with tail := state.ring.tail + 1 } := by
  unfold finish Ring.popFinish
  cases state.ring.slot tail <;> rfl

theorem finish_suspended (state : Replay geometry) (tail : Nat) :
    (state.finish tail).suspended = none := by
  unfold finish Ring.popFinish
  cases state.ring.slot tail <;> rfl

theorem Bounded.push {state : Replay geometry} (holds : Bounded state) (env : DataEnvelope) :
    Bounded (state.pushing env) := by
  have bounds := DropQueue.pushedTail_bounds geometry.nonempty holds.ordered holds.bounded
  refine ⟨bounds.1, bounds.2, ?_⟩
  intro tail suspended
  obtain ⟨loaded, nonempty⟩ := holds.loaded tail suspended
  simp only [pushing, Ring.push]
  split_ifs
  · omega
  · omega

theorem Bounded.finishes {state : Replay geometry} (holds : Bounded state) {tail : Nat}
    {action : Action} (finishes : Finishes state tail action) :
    tail ≤ state.ring.tail ∧ state.ring.tail < state.ring.head := by
  cases action with
  | pop => exact ⟨Nat.le_of_eq finishes.1, finishes.2⟩
  | resume => exact holds.loaded tail finishes
  | push env => exact finishes.elim
  | cancel => exact finishes.elim
  | onReconnect => exact finishes.elim

theorem Bounded.finish {state : Replay geometry} (holds : Bounded state)
    (nonempty : state.ring.tail < state.ring.head) (tail : Nat) : Bounded (state.finish tail) := by
  have bounded := holds.bounded
  constructor
  · rw [finish_ring]
    exact nonempty
  · rw [finish_ring]
    show state.ring.head ≤ state.ring.tail + 1 + geometry.numSlots
    omega
  · intro tail suspended
    rw [finish_suspended] at suspended
    cases suspended

theorem Bounded.quiet {state next : Replay geometry} (holds : Bounded state)
    (quiet : Quiet state next) : Bounded next := by
  have head := quiet.head
  have tail := quiet.tail
  refine ⟨by rw [head, tail]; exact holds.ordered, by rw [head, tail]; exact holds.bounded, ?_⟩
  intro index suspended
  obtain ⟨rfl, nonempty⟩ := quiet.loaded index suspended
  rw [head, tail]
  exact ⟨Nat.le_refl _, nonempty⟩

theorem Bounded.step {state next : Replay geometry} {action : Action} (holds : Bounded state)
    (taken : step state action = some next) : Bounded next := by
  rcases step_cases taken with ⟨env, rfl, rfl⟩ | ⟨tail, finishes, rfl⟩ | ⟨quiet, _⟩
  · exact holds.push env
  · exact holds.finish (holds.finishes finishes).2 tail
  · exact holds.quiet quiet

-- The tail never passes the head, however pushes and sleeping pops meet.
theorem tail_le_head {config : RingBufferConfig} {file : List UInt8} {ring : Ring geometry}
    (opened : openRing config file = .ok ⟨geometry, ring⟩) {actions : List Action}
    {final : Replay geometry} (ran : exec step (start ring) actions = some final) :
    final.ring.tail ≤ final.ring.head := by
  obtain ⟨head, tail⟩ := openRing_fresh opened
  have fresh : Bounded (start ring) := by
    refine ⟨?_, ?_, nofun⟩
    · exact Nat.le_of_eq (tail.trans head.symm)
    · show ring.head ≤ ring.tail + geometry.numSlots
      omega
  exact (exec_invariant (fun _ _ _ holds taken => Bounded.step holds taken) fresh ran).ordered

/-! ## Faithful runs -/

-- A slot that was written holds what its last writer stored.
theorem finish_recorded {state : Replay geometry} (recorded : Recorded state.ring state.pushed)
    {tail : Nat} (written : tail < state.ring.head) :
    ∃ bytes, state.pushed[lastWriter geometry.numSlots state.ring.head tail]? = some bytes ∧
      state.finish tail =
        { state with
          ring := { state.ring with tail := state.ring.tail + 1 }
          suspended := none
          returned := state.returned ++
            [(lastWriter geometry.numSlots state.ring.head tail, bytes)] } := by
  have below := lastWriter_lt geometry.numSlots written
  have inside : lastWriter geometry.numSlots state.ring.head tail < state.pushed.length := by
    rw [recorded.count]
    exact below
  have is := List.getElem?_eq_getElem inside
  refine ⟨_, is, ?_⟩
  have slot := recorded.kept _ _ is (lastWriter_recent _ geometry.nonempty)
  rw [state.ring.slot_congr (lastWriter_mod geometry.numSlots written)] at slot
  unfold finish Ring.popFinish
  rw [slot]

theorem Sound.finish_eq {state : Replay geometry} (sound : Sound state) {tail : Nat}
    (written : tail < state.ring.head) :
    ∃ bytes, state.pushed[lastWriter geometry.numSlots state.ring.head tail]? = some bytes ∧
      state.finish tail =
        { state with
          ring := { state.ring with tail := state.ring.tail + 1 }
          suspended := none
          returned := state.returned ++
            [(lastWriter geometry.numSlots state.ring.head tail, bytes)] } :=
  finish_recorded sound.recorded written

theorem finish_faithful {state : Replay geometry} (sound : Sound state) (faithful : Faithful state)
    {tail : Nat} (loaded : tail ≤ state.ring.tail) (nonempty : state.ring.tail < state.ring.head)
    (same : state.ring.tail % geometry.numSlots = tail % geometry.numSlots) :
    Sound (state.finish tail) ∧ Faithful (state.finish tail) := by
  have written : tail < state.ring.head := by omega
  have bounded := sound.toBounded.finish nonempty tail
  have oldest := lastWriter_eq geometry.numSlots geometry.nonempty written same nonempty
    sound.bounded
  obtain ⟨bytes, is, finished⟩ := sound.finish_eq written
  rw [oldest] at is finished
  have order : (state.finish tail).order = state.order ++ [state.ring.tail] := by
    rw [finished]
    simp [Replay.order]
  have ring := finish_ring state tail
  constructor
  · refine ⟨bounded, ?_, ?_⟩
    · rw [finished]
      exact sound.recorded.of_same rfl rfl
    · intro index member
      rw [ring]
      rw [order, List.mem_append, List.mem_singleton] at member
      show index < state.ring.tail + 1
      rcases member with earlier | rfl
      · exact Nat.lt_succ_of_lt (sound.taken index earlier)
      · exact Nat.lt_succ_self _
  · refine ⟨?_, ?_, bounded.ordered, ?_⟩
    · rw [finished]
      intro entry member
      rcases List.mem_append.mp member with earlier | last
      · exact faithful.genuine entry earlier
      · obtain rfl := List.mem_singleton.mp last
        exact is
    · rw [order, List.pairwise_append]
      refine ⟨faithful.increasing, List.pairwise_singleton _ _, ?_⟩
      intro index earlier last member
      obtain rfl := List.mem_singleton.mp member
      exact sound.taken index earlier
    · intro index inside
      rw [ring] at inside ⊢
      rw [order, List.mem_append, List.mem_singleton]
      show _ ∨ state.ring.tail + 1 ≤ index ∨ index + geometry.numSlots < state.ring.head
      rcases faithful.accounted index inside with returned | waiting | overwritten
      · exact .inl (.inl returned)
      · by_cases oldest : index = state.ring.tail
        · exact .inl (.inr oldest)
        · exact .inr (.inl (by omega))
      · exact .inr (.inr overwritten)

-- A pop that wakes up over another slot advances the tail past an envelope that it did not
-- read.
theorem finish_loses {state : Replay geometry} (sound : Sound state) {tail : Nat}
    (loaded : tail ≤ state.ring.tail) (nonempty : state.ring.tail < state.ring.head)
    (other : state.ring.tail % geometry.numSlots ≠ tail % geometry.numSlots) :
    ¬ Faithful (state.finish tail) := by
  intro faithful
  have written : tail < state.ring.head := by omega
  have bounded := sound.bounded
  have ring := finish_ring state tail
  obtain ⟨bytes, _, finished⟩ := sound.finish_eq written
  have order : (state.finish tail).order =
      state.order ++ [lastWriter geometry.numSlots state.ring.head tail] := by
    rw [finished]
    simp [Replay.order]
  have accounted := faithful.accounted state.ring.tail (by rw [ring]; exact nonempty)
  rw [ring, order, List.mem_append, List.mem_singleton] at accounted
  rcases accounted with (earlier | last) | waiting | overwritten
  · exact absurd (sound.taken _ earlier) (Nat.lt_irrefl _)
  · apply other
    conv_lhs => rw [last]
    exact lastWriter_mod geometry.numSlots written
  · exact absurd waiting (Nat.not_succ_le_self _)
  · exact absurd overwritten (Nat.not_lt.mpr bounded)

theorem pushing_faithful {state : Replay geometry} (sound : Sound state)
    (faithful : Faithful state) (env : DataEnvelope) :
    Sound (state.pushing env) ∧ Faithful (state.pushing env) := by
  have bounded := sound.toBounded.push env
  have moved : state.ring.tail ≤ (state.pushing env).ring.tail ∧
      (∀ index, state.ring.tail ≤ index → (state.pushing env).ring.tail ≤ index ∨
        index + geometry.numSlots < state.ring.head + 1) := by
    simp only [pushing, Ring.push]
    split_ifs
    next full =>
      refine ⟨Nat.le_succ _, fun index waiting => ?_⟩
      by_cases oldest : index = state.ring.tail
      · exact .inr (by omega)
      · exact .inl (by omega)
    next => exact ⟨Nat.le_refl _, fun index waiting => .inl waiting⟩
  constructor
  · refine ⟨bounded, sound.recorded.push env, ?_⟩
    intro index member
    exact Nat.lt_of_lt_of_le (sound.taken index member) moved.1
  · refine ⟨?_, faithful.increasing, bounded.ordered, ?_⟩
    · intro entry member
      have is := faithful.genuine entry member
      exact List.getElem?_append_left (List.getElem?_eq_some_iff.mp is).1 ▸ is
    · intro index inside
      have inside : index < state.ring.head + 1 := inside
      by_cases last : index = state.ring.head
      · right
        subst last
        rcases moved.2 state.ring.head sound.ordered with waiting | overwritten
        · exact .inl waiting
        · exact .inr overwritten
      · rcases faithful.accounted index (by omega) with returned | waiting | overwritten
        · exact .inl returned
        · exact .inr (moved.2 index waiting)
        · exact .inr (.inr (Nat.lt_succ_of_lt overwritten))

theorem quiet_faithful {state next : Replay geometry} (sound : Sound state)
    (faithful : Faithful state) (quiet : Quiet state next) : Sound next ∧ Faithful next := by
  have bounded := sound.toBounded.quiet quiet
  have order : next.order = state.order := congrArg (List.map Prod.fst) quiet.returned
  constructor
  · refine ⟨bounded, ?_, ?_⟩
    · rw [quiet.pushed]
      exact sound.recorded.of_same quiet.mmap quiet.head
    · rw [order, quiet.tail]
      exact sound.taken
  · refine ⟨?_, ?_, bounded.ordered, ?_⟩
    · rw [quiet.returned, quiet.pushed]
      exact faithful.genuine
    · rw [order]
      exact faithful.increasing
    · rw [order, quiet.head, quiet.tail]
      exact faithful.accounted

theorem step_faithful {state next : Replay geometry} {action : Action} (sound : Sound state)
    (faithful : Faithful state) (taken : step state action = some next) :
    (Undisturbed state action → Sound next ∧ Faithful next) ∧
      (Faithful next → Undisturbed state action) := by
  rcases step_cases taken with ⟨env, rfl, rfl⟩ | ⟨tail, finishes, rfl⟩ | ⟨quiet, other⟩
  · exact ⟨fun _ => pushing_faithful sound faithful env, fun _ => trivial⟩
  · obtain ⟨loaded, nonempty⟩ := sound.finishes finishes
    cases action with
    | pop =>
      obtain ⟨rfl, _⟩ := finishes
      exact ⟨fun _ => finish_faithful sound faithful loaded nonempty rfl, fun _ => trivial⟩
    | resume =>
      have suspended : state.suspended = some tail := finishes
      constructor
      · intro undisturbed
        exact finish_faithful sound faithful loaded nonempty (undisturbed tail suspended)
      · intro kept index is
        by_contra disturbed
        have same : tail = index := Option.some.inj (suspended.symm.trans is)
        subst same
        exact finish_loses sound loaded nonempty disturbed kept
    | push env => exact finishes.elim
    | cancel => exact finishes.elim
    | onReconnect => exact finishes.elim
  · refine ⟨fun _ => quiet_faithful sound faithful quiet, fun _ => ?_⟩
    cases action with
    | resume => exact absurd rfl other
    | push env => trivial
    | pop => trivial
    | cancel => trivial
    | onReconnect => trivial

theorem start_faithful {ring : Ring geometry} (head : ring.head = 0) (tail : ring.tail = 0) :
    Sound (start ring) ∧ Faithful (start ring) := by
  have ordered : ring.tail ≤ ring.head := Nat.le_of_eq (tail.trans head.symm)
  constructor
  · exact ⟨⟨ordered, by simp [start, head], nofun⟩, ⟨head.symm, by simp [start]⟩, nofun⟩
  · refine ⟨nofun, List.Pairwise.nil, ordered, ?_⟩
    intro index inside
    simp [start, head] at inside

/-- A run keeps the promise exactly if none of its pops is disturbed in its sleep. -/
theorem replays_faithfully_iff (config : RingBufferConfig) (file : List UInt8)
    {ring : Ring geometry} (opened : openRing config file = .ok ⟨geometry, ring⟩)
    (actions : List Action) :
    Throughout step Faithful (start ring) actions ↔
      Along step Undisturbed (start ring) actions := by
  obtain ⟨head, tail⟩ := openRing_fresh opened
  obtain ⟨sound, faithful⟩ := start_faithful head tail
  have preserves (state : Replay geometry) (action : Action) (next : Replay geometry)
      (sound : Sound state) (faithful : Faithful state) (undisturbed : Undisturbed state action)
      (taken : step state action = some next) : Sound next :=
    ((step_faithful sound faithful taken).1 undisturbed).1
  have exact_step (state : Replay geometry) (action : Action) (next : Replay geometry)
      (sound : Sound state) (faithful : Faithful state) (taken : step state action = some next) :
      Faithful next ↔ Undisturbed state action :=
    have keeps := step_faithful sound faithful taken
    ⟨keeps.2, fun undisturbed => (keeps.1 undisturbed).2⟩
  exact throughout_iff_along preserves exact_step sound faithful

/-! ## A lap in the sleep -/

def twoSlots : Ring ⟨80, 2, 160, by decide, by decide, Nat.two_pos, by decide⟩ :=
  ⟨setLen 160 [], 0, 0, false, length_setLen 160 []⟩

/-- The third push laps the sleeping pop, which then returns the third envelope in place of the
first and skips the second. -/
def lappedPop : List Action :=
  [.push (sample 0), .push (sample 1), .onReconnect, .pop, .push (sample 2), .resume]

theorem lapped_pop_unfaithful :
    openRing ⟨160, 80⟩ [] = .ok ⟨_, twoSlots⟩ ∧
      ¬ Throughout step Faithful (start twoSlots) lappedPop := by
  refine ⟨rfl, ?_⟩
  intro all
  obtain ⟨final, ran, lost⟩ : ∃ final, exec step (start twoSlots) lappedPop = some final ∧
      1 < final.ring.head ∧ 1 ∉ final.order ∧ final.ring.tail = 2 ∧ final.ring.head = 3 :=
    ⟨_, rfl, by decide, by decide, rfl, rfl⟩
  obtain ⟨inside, missing, tail, head⟩ := lost
  have faithful := throughout_iff_prefixes.mp all lappedPop [] final (by simp) ran
  rcases faithful.accounted 1 inside with returned | waiting | overwritten
  · exact missing returned
  · omega
  · have capacity : 1 + 2 < final.ring.head := overwritten
    omega

theorem single_replay_faithful :
    Throughout step Faithful (start twoSlots)
        [.push (sample 0), .push (sample 1), .onReconnect, .pop, .resume] ↔
      Along step Undisturbed (start twoSlots)
        [.push (sample 0), .push (sample 1), .onReconnect, .pop, .resume] :=
  replays_faithfully_iff ⟨160, 80⟩ [] rfl
    [.push (sample 0), .push (sample 1), .onReconnect, .pop, .resume]

end Replay

end SystemScale.Agent
