import Mathlib.Data.Finset.Card
import SystemScale.Lib.Lookups
import SystemScale.Lib.Runs

set_option autoImplicit false

/-!
# The relay's connection limit

The accept loop spawns a task for each incoming connection. The task compares the registry's size
with `max_connections`, awaits the handshake, and registers the session later.
-/

namespace SystemScale.Relay

open Runs Lookups

namespace AcceptLoop

inductive Task where
  | spawned
  | handshaking
  | connected (vehicleId : String)
  | serving (vehicleId : String)
  | ended (vehicleId : String)
  | done
  deriving DecidableEq

structure State where
  -- The keys of the registry.
  sessions : Finset String
  tasks : List Task

inductive Action where
  | accept
  | check (task : Nat)
  | handshakeFailed (task : Nat)
  -- The certificate's CN, if it has one.
  | handshake (task : Nat) (vehicleId : Option String)
  | register (task : Nat)
  | finish (task : Nat)
  | cleanup (task : Nat)
  -- The health monitor removes a stale session.
  | removeStale (vehicleId : String)

def start : State := ⟨∅, []⟩

def State.setTask (state : State) (index : Nat) (task : Task) : State :=
  { state with tasks := state.tasks.set index task }

def step (maxConns : Nat) (state : State) : Action → Option State
  | .accept => some { state with tasks := state.tasks ++ [.spawned] }
  | .check index =>
      match state.tasks[index]? with
      | some .spawned =>
          some (state.setTask index (if maxConns ≤ state.sessions.card then .done else .handshaking))
      | _ => none
  | .handshakeFailed index =>
      match state.tasks[index]? with
      | some .handshaking => some (state.setTask index .done)
      | _ => none
  | .handshake index vehicleId =>
      match state.tasks[index]?, vehicleId with
      | some .handshaking, some vehicleId => some (state.setTask index (.connected vehicleId))
      | some .handshaking, none => some (state.setTask index .done)
      | _, _ => none
  | .register index =>
      match state.tasks[index]? with
      | some (.connected vehicleId) =>
          some { state.setTask index (.serving vehicleId) with
            sessions := insert vehicleId state.sessions }
      | _ => none
  | .finish index =>
      match state.tasks[index]? with
      | some (.serving vehicleId) => some (state.setTask index (.ended vehicleId))
      | _ => none
  | .cleanup index =>
      match state.tasks[index]? with
      | some (.ended vehicleId) =>
          some { state.setTask index .done with sessions := state.sessions.erase vehicleId }
      | _ => none
  | .removeStale vehicleId => some { state with sessions := state.sessions.erase vehicleId }

def Within (maxConns : Nat) (state : State) : Prop := state.sessions.card ≤ maxConns

/-- A session is registered while there is room for it, or over an entry of its own vehicle. -/
def RoomToRegister (maxConns : Nat) (state : State) : Action → Prop
  | .register index => ∀ vehicleId, state.tasks[index]? = some (.connected vehicleId) →
      state.sessions.card < maxConns ∨ vehicleId ∈ state.sessions
  | _ => True

def Task.admitted : Task → Bool
  | .handshaking => true
  | .connected _ => true
  | _ => false

/-- The sessions there are and those that admitted tasks may still register. -/
def State.claimed (state : State) : Nat := state.sessions.card + state.tasks.countP Task.admitted

/-- A task is admitted only while the tasks admitted before it leave a place. -/
def PlaceToAdmit (maxConns : Nat) (state : State) : Action → Prop
  | .check _ => state.sessions.card < maxConns → state.claimed < maxConns
  | _ => True

section Rules

variable {maxConns : Nat} {state next : State}

theorem erase_within (within : Within maxConns state) (vehicleId : String) :
    (state.sessions.erase vehicleId).card ≤ maxConns :=
  le_trans Finset.card_erase_le within

theorem insert_within (within : Within maxConns state) (vehicleId : String) :
    (insert vehicleId state.sessions).card ≤ maxConns ↔
      state.sessions.card < maxConns ∨ vehicleId ∈ state.sessions := by
  by_cases member : vehicleId ∈ state.sessions
  · rw [Finset.insert_eq_self.mpr member]
    exact iff_of_true within (.inr member)
  · rw [Finset.card_insert_of_notMem member]
    exact ⟨.inl, fun either => either.resolve_right member⟩

/-- What an accepted step does to one task and to the registry. -/
inductive Change (maxConns : Nat) (state next : State) : Action → Prop
  | accept : next = { state with tasks := state.tasks ++ [.spawned] } →
      Change maxConns state next .accept
  | refuse {index : Nat} : state.tasks[index]? = some .spawned →
      maxConns ≤ state.sessions.card → next = state.setTask index .done →
      Change maxConns state next (.check index)
  | pass {index : Nat} : state.tasks[index]? = some .spawned →
      state.sessions.card < maxConns → next = state.setTask index .handshaking →
      Change maxConns state next (.check index)
  | abandon {index : Nat} {action : Action} : state.tasks[index]? = some .handshaking →
      next = state.setTask index .done → (∀ task, action ≠ .register task) →
      (∀ task, action ≠ .check task) → Change maxConns state next action
  | connect {index : Nat} {vehicleId : String} : state.tasks[index]? = some .handshaking →
      next = state.setTask index (.connected vehicleId) →
      Change maxConns state next (.handshake index (some vehicleId))
  | register {index : Nat} {vehicleId : String} :
      state.tasks[index]? = some (.connected vehicleId) →
      next = { state.setTask index (.serving vehicleId) with
        sessions := insert vehicleId state.sessions } →
      Change maxConns state next (.register index)
  | finish {index : Nat} {vehicleId : String} : state.tasks[index]? = some (.serving vehicleId) →
      next = state.setTask index (.ended vehicleId) → Change maxConns state next (.finish index)
  | cleanup {index : Nat} {vehicleId : String} : state.tasks[index]? = some (.ended vehicleId) →
      next = { state.setTask index .done with sessions := state.sessions.erase vehicleId } →
      Change maxConns state next (.cleanup index)
  | removeStale {vehicleId : String} :
      next = { state with sessions := state.sessions.erase vehicleId } →
      Change maxConns state next (.removeStale vehicleId)

theorem step_change {action : Action} (moved : step maxConns state action = some next) :
    Change maxConns state next action := by
  cases action with
  | accept => exact .accept (Option.some.inj moved).symm
  | check index =>
    simp only [step] at moved
    split at moved
    next is =>
      split_ifs at moved with full
      · exact .refuse is full (Option.some.inj moved).symm
      · exact .pass is (Nat.lt_of_not_le full) (Option.some.inj moved).symm
    next => nomatch moved
  | handshakeFailed index =>
    simp only [step] at moved
    split at moved
    next is => exact .abandon is (Option.some.inj moved).symm (by simp) (by simp)
    next => nomatch moved
  | handshake index vehicleId =>
    simp only [step] at moved
    split at moved
    next is => exact .connect is (Option.some.inj moved).symm
    next is => exact .abandon is (Option.some.inj moved).symm (by simp) (by simp)
    next => nomatch moved
  | register index =>
    simp only [step] at moved
    split at moved
    next is => exact .register is (Option.some.inj moved).symm
    next => nomatch moved
  | finish index =>
    simp only [step] at moved
    split at moved
    next is => exact .finish is (Option.some.inj moved).symm
    next => nomatch moved
  | cleanup index =>
    simp only [step] at moved
    split at moved
    next is => exact .cleanup is (Option.some.inj moved).symm
    next => nomatch moved
  | removeStale vehicleId => exact .removeStale (Option.some.inj moved).symm

theorem step_within {action : Action} (within : Within maxConns state)
    (moved : step maxConns state action = some next) :
    Within maxConns next ↔ RoomToRegister maxConns state action := by
  cases step_change moved with
  | accept became => subst became; exact iff_of_true within trivial
  | refuse is full became => subst became; exact iff_of_true within trivial
  | pass is room became => subst became; exact iff_of_true within trivial
  | abandon is became other =>
    subst became
    refine iff_of_true within ?_
    cases action with
    | register task => exact absurd rfl (other task)
    | _ => trivial
  | connect is became => subst became; exact iff_of_true within trivial
  | @register index vehicleId is became =>
    subst became
    refine (insert_within within vehicleId).trans ?_
    constructor
    · intro room other found
      obtain rfl : vehicleId = other := by simpa using is.symm.trans found
      exact room
    · intro room
      exact room vehicleId is
  | finish is became => subst became; exact iff_of_true within trivial
  | cleanup is became => subst became; exact iff_of_true (erase_within within _) trivial
  | removeStale became => subst became; exact iff_of_true (erase_within within _) trivial

theorem countP_set {index : Nat} {old : Task} (was : state.tasks[index]? = some old) (new : Task) :
    (state.tasks.set index new).countP Task.admitted + (if old.admitted then 1 else 0) =
      state.tasks.countP Task.admitted + (if new.admitted then 1 else 0) := by
  obtain ⟨inside, is⟩ := List.getElem?_eq_some_iff.mp was
  rw [List.countP_set inside, is]
  have counted : (if old.admitted then 1 else 0) ≤ state.tasks.countP Task.admitted := by
    split_ifs with admitted
    · exact List.one_le_countP_iff.mpr ⟨old, is ▸ List.getElem_mem inside, admitted⟩
    · exact Nat.zero_le _
  omega

theorem step_claimed {action : Action} (claimed : state.claimed ≤ maxConns)
    (place : PlaceToAdmit maxConns state action) (moved : step maxConns state action = some next) :
    next.claimed ≤ maxConns := by
  unfold State.claimed at claimed ⊢
  cases step_change moved with
  | accept became =>
    subst became
    simpa [Task.admitted] using claimed
  | refuse is full became =>
    subst became
    have counted := countP_set is .done
    simp only [Task.admitted, Bool.false_eq_true, if_false] at counted
    simp only [State.setTask]
    omega
  | pass is room became =>
    subst became
    have counted := countP_set is .handshaking
    have free := place room
    simp only [State.claimed] at free
    simp only [Task.admitted, Bool.false_eq_true, if_false, if_true] at counted
    simp only [State.setTask]
    omega
  | abandon is became =>
    subst became
    have counted := countP_set is .done
    simp only [Task.admitted, Bool.false_eq_true, if_false, if_true] at counted
    simp only [State.setTask]
    omega
  | @connect index vehicleId is became =>
    subst became
    have counted := countP_set is (.connected vehicleId)
    simp only [Task.admitted, if_true] at counted
    simp only [State.setTask]
    omega
  | @register index vehicleId is became =>
    subst became
    have counted := countP_set is (.serving vehicleId)
    have larger := Finset.card_insert_le vehicleId state.sessions
    simp only [Task.admitted, Bool.false_eq_true, if_false, if_true] at counted
    simp only [State.setTask]
    omega
  | @finish index vehicleId is became =>
    subst became
    have counted := countP_set is (.ended vehicleId)
    simp only [Task.admitted, Bool.false_eq_true, if_false] at counted
    simp only [State.setTask]
    omega
  | @cleanup index vehicleId is became =>
    subst became
    have counted := countP_set is .done
    have smaller := Finset.card_erase_le (s := state.sessions) (a := vehicleId)
    simp only [Task.admitted, Bool.false_eq_true, if_false] at counted
    simp only [State.setTask]
    omega
  | @removeStale vehicleId became =>
    subst became
    have smaller := Finset.card_erase_le (s := state.sessions) (a := vehicleId)
    simp only
    omega

end Rules

/-- The registry stays within the limit exactly as long as there is room at each registration. -/
theorem sessions_within_iff (maxConns : Nat) (actions : List Action) :
    Throughout (step maxConns) (Within maxConns) start actions ↔
      Along (step maxConns) (RoomToRegister maxConns) start actions := by
  have within : Within maxConns start := Nat.zero_le _
  refine throughout_iff_along (fun _ _ _ _ _ _ _ => trivial) ?_ trivial within
  intro state action next _ within moved
  exact step_within within moved

-- Counting the tasks that are between the check and the registration keeps every run within the
-- limit.
theorem reserved_within {maxConns : Nat} {actions : List Action}
    (along : Along (step maxConns) (PlaceToAdmit maxConns) start actions) :
    Throughout (step maxConns) (Within maxConns) start actions := by
  have start_claimed : start.claimed ≤ maxConns := by simp [State.claimed, start]
  exact throughout_of_along (fun _ _ _ => step_claimed)
    (fun _ claimed => le_trans (Nat.le_add_right _ _) claimed) start_claimed along

/-- Two connections pass the check before the first of them is registered. -/
def overtaking : List Action :=
  [.accept, .accept, .check 0, .check 1, .handshake 0 (some "a"), .handshake 1 (some "b"),
    .register 0, .register 1]

theorem sessions_exceed_limit :
    ¬ ∀ maxConns actions, Throughout (step maxConns) (Within maxConns) start actions := by
  intro always
  have ends : (exec (step 1) start overtaking).map (fun state => state.sessions.card) = some 2 := by
    decide
  obtain ⟨final, ran, size⟩ := Option.map_eq_some_iff.mp ends
  have within := throughout_iff_prefixes.mp (always 1 overtaking) overtaking [] final rfl ran
  rw [Within, size] at within
  exact absurd within (by decide)

end AcceptLoop

end SystemScale.Relay
