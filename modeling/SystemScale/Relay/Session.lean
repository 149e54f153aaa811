import Mathlib.Logic.Function.Basic
import SystemScale.Lib.Lookups
import SystemScale.Lib.Runs

set_option autoImplicit false

/-!
# The relay's session registry

Connections of vehicles, the registry that routes commands to them, and the health monitor. A
connection is named by its place in the order of accepts; times are in nanoseconds.
-/

namespace SystemScale.Relay

open Runs

structure VehicleSession where
  vehicleId : String
  -- The connection that drains the channel.
  cmdTx : Nat
  lastHeartbeat : Nat

inductive Phase where
  | accepting
  | serving
  | ended
  | cleaned
  deriving DecidableEq

structure Connection where
  vehicleId : String
  phase : Phase
  lastSeen : Nat

/-- Between a tick and `scanned` the monitor holds the time of the tick; the vehicles it found are
removed afterwards. -/
structure Monitor where
  scanning : Option Nat
  stale : List String

structure Sessions where
  now : Nat
  registry : String → Option VehicleSession
  connections : List Connection
  monitor : Monitor

inductive Sessions.Action where
  | accept (vehicleId : String)
  | acceptStreams (connection : Nat)
  | heartbeat (connection : Nat)
  | close (connection : Nat)
  | cleanup (connection : Nat)
  | pass (duration : Nat)
  | tick
  | visit (vehicleId : String)
  | scanned
  | removeStale

def staleThreshold : Nat := 45 * 1000 * 1000 * 1000

namespace Sessions

def start : Sessions := ⟨0, fun _ => none, [], ⟨none, []⟩⟩

def setConnection (state : Sessions) (index : Nat) (connection : Connection) : Sessions :=
  { state with connections := state.connections.set index connection }

def remove (state : Sessions) (vehicleId : String) : Sessions :=
  { state with registry := Function.update state.registry vehicleId none }

/-- `get_mut` finds whichever session is there, not only this connection's own. -/
def beat (state : Sessions) (vehicleId : String) : Sessions :=
  match state.registry vehicleId with
  | none => state
  | some session =>
    { state with
      registry := Function.update state.registry vehicleId
        (some { session with lastHeartbeat := state.now }) }

def step (state : Sessions) : Action → Option Sessions
  | .accept vehicleId => some
      { state with
        connections := state.connections ++ [⟨vehicleId, .accepting, state.now⟩]
        registry := Function.update state.registry vehicleId
          (some ⟨vehicleId, state.connections.length, state.now⟩) }
  | .acceptStreams index =>
    match state.connections[index]? with
    | some ⟨vehicleId, .accepting, lastSeen⟩ =>
      some (state.setConnection index ⟨vehicleId, .serving, lastSeen⟩)
    | _ => none
  | .heartbeat index =>
    match state.connections[index]? with
    | some ⟨vehicleId, .serving, _⟩ =>
      some ((state.setConnection index ⟨vehicleId, .serving, state.now⟩).beat vehicleId)
    | _ => none
  | .close index =>
    match state.connections[index]? with
    | some ⟨vehicleId, .accepting, lastSeen⟩ =>
      some (state.setConnection index ⟨vehicleId, .ended, lastSeen⟩)
    | some ⟨vehicleId, .serving, lastSeen⟩ =>
      some (state.setConnection index ⟨vehicleId, .ended, lastSeen⟩)
    | _ => none
  | .cleanup index =>
    match state.connections[index]? with
    | some ⟨vehicleId, .ended, lastSeen⟩ =>
      some ((state.setConnection index ⟨vehicleId, .cleaned, lastSeen⟩).remove vehicleId)
    | _ => none
  | .pass duration => some { state with now := state.now + duration }
  | .tick =>
    if state.monitor.scanning = none ∧ state.monitor.stale = [] then
      some { state with monitor := ⟨some state.now, []⟩ }
    else none
  | .visit vehicleId =>
    match state.monitor.scanning, state.registry vehicleId with
    | some now, some session =>
      if now - session.lastHeartbeat > staleThreshold then
        some { state with
          monitor := ⟨some now, state.monitor.stale ++ [session.vehicleId]⟩ }
      else some state
    | _, _ => none
  | .scanned =>
    if state.monitor.scanning = none then none
    else some { state with monitor := ⟨none, state.monitor.stale⟩ }
  | .removeStale =>
    match state.monitor with
    | ⟨none, vehicleId :: rest⟩ => some ({ state with monitor := ⟨none, rest⟩ }.remove vehicleId)
    | _ => none

/-! ## What is promised -/

/-- Connection `index` of the vehicle has not ended. -/
def Open (state : Sessions) (vehicleId : String) (index : Nat) : Prop :=
  ∃ connection, state.connections[index]? = some connection ∧
    connection.vehicleId = vehicleId ∧
    (connection.phase = .accepting ∨ connection.phase = .serving)

def Current (state : Sessions) (vehicleId : String) (index : Nat) : Prop :=
  Open state vehicleId index ∧ ∀ later, index < later → ¬ Open state vehicleId later

def Fresh (state : Sessions) (index : Nat) : Prop :=
  ∃ connection, state.connections[index]? = some connection ∧
    state.now - connection.lastSeen ≤ staleThreshold

def Registered (state : Sessions) (vehicleId : String) (index : Nat) : Prop :=
  ∃ session, state.registry vehicleId = some session ∧ session.cmdTx = index

def Routable (state : Sessions) : Prop :=
  ∀ vehicleId index, Current state vehicleId index → Fresh state index →
    Registered state vehicleId index

/-- No connection of the vehicle needs its entry. -/
def Dispensable (state : Sessions) (vehicleId : String) : Prop :=
  ∀ index, Current state vehicleId index → ¬ Fresh state index

/-- Entries are removed only of vehicles that need none, a heartbeat of a current connection finds
that connection's entry, and no connection closes over an older one that is alive. -/
def Careful (state : Sessions) : Action → Prop
  | .heartbeat index => ∀ vehicleId, Current state vehicleId index →
      Registered state vehicleId index
  | .close index => ∀ vehicleId, Current state vehicleId index →
      ∀ older < index, Open state vehicleId older → Fresh state older →
        ∃ between, older < between ∧ between < index ∧ Open state vehicleId between
  | .cleanup index => ∀ connection, state.connections[index]? = some connection →
      Dispensable state connection.vehicleId
  | .removeStale => ∀ vehicleId ∈ state.monitor.stale.head?, Dispensable state vehicleId
  | _ => True

/-- A vehicle's entry is that of its last connection: only an accept makes entries. -/
def LastOwns (state : Sessions) : Prop :=
  ∀ vehicleId session, state.registry vehicleId = some session →
    ∀ index connection, state.connections[index]? = some connection →
      connection.vehicleId = vehicleId → index ≤ session.cmdTx

/-! ## Connections that change -/

section SetConnection

variable {state : Sessions} {index : Nat} {old : Connection}

theorem lookup_set (was : state.connections[index]? = some old) (new : Connection) (other : Nat) :
    (state.setConnection index new).connections[other]? =
      if other = index then some new else state.connections[other]? :=
  Lookups.lookup_set was new other

theorem open_self (was : state.connections[index]? = some old) (vehicleId : String) :
    Open state vehicleId index ↔
      old.vehicleId = vehicleId ∧ (old.phase = .accepting ∨ old.phase = .serving) := by
  constructor
  · rintro ⟨connection, is, holds⟩
    obtain rfl := Option.some.inj (was.symm.trans is)
    exact holds
  · intro holds
    exact ⟨old, was, holds⟩

theorem open_set_self (was : state.connections[index]? = some old) (new : Connection)
    (vehicleId : String) : Open (state.setConnection index new) vehicleId index ↔
      new.vehicleId = vehicleId ∧ (new.phase = .accepting ∨ new.phase = .serving) :=
  open_self (by rw [lookup_set was, if_pos rfl]) vehicleId

theorem open_set_other (was : state.connections[index]? = some old) (new : Connection)
    (vehicleId : String) {other : Nat} (differs : other ≠ index) :
    Open (state.setConnection index new) vehicleId other ↔ Open state vehicleId other := by
  unfold Open
  rw [lookup_set was, if_neg differs]

theorem open_set (was : state.connections[index]? = some old) (new : Connection)
    (vehicle : new.vehicleId = old.vehicleId)
    (phase : (new.phase = .accepting ∨ new.phase = .serving) ↔
      (old.phase = .accepting ∨ old.phase = .serving)) (vehicleId : String) (other : Nat) :
    Open (state.setConnection index new) vehicleId other ↔ Open state vehicleId other := by
  by_cases same : other = index
  · subst same
    rw [open_set_self was, open_self was, vehicle, phase]
  · exact open_set_other was new vehicleId same

theorem fresh_set (was : state.connections[index]? = some old) (new : Connection)
    (seen : new.lastSeen = old.lastSeen) (other : Nat) :
    Fresh (state.setConnection index new) other ↔ Fresh state other := by
  unfold Fresh
  rw [lookup_set was]
  by_cases same : other = index
  · subst same
    simp [was, seen, setConnection]
  · rw [if_neg same]
    rfl

theorem lastOwns_set (was : state.connections[index]? = some old) (new : Connection)
    (vehicle : new.vehicleId = old.vehicleId) (owns : LastOwns state) :
    LastOwns (state.setConnection index new) := by
  intro vehicleId session entry other connection is belongs
  rw [lookup_set was] at is
  by_cases same : other = index
  · subst same
    rw [if_pos rfl] at is
    obtain rfl := Option.some.inj is
    exact owns vehicleId session entry other old was (vehicle.symm.trans belongs)
  · rw [if_neg same] at is
    exact owns vehicleId session entry other connection is belongs

end SetConnection

theorem current_congr {state next : Sessions}
    (opened : ∀ vehicleId index, Open next vehicleId index ↔ Open state vehicleId index)
    (vehicleId : String) (index : Nat) :
    Current next vehicleId index ↔ Current state vehicleId index := by
  unfold Current
  rw [opened]
  exact and_congr_right fun _ => forall_congr' fun later =>
    imp_congr_right fun _ => not_congr (opened vehicleId later)

theorem Routable.of_same {state next : Sessions} (routable : Routable state)
    (opened : ∀ vehicleId index, Open next vehicleId index ↔ Open state vehicleId index)
    (fresh : ∀ index, Fresh next index → Fresh state index)
    (registry : next.registry = state.registry) : Routable next := by
  intro vehicleId index current isFresh
  have before := routable vehicleId index ((current_congr opened vehicleId index).mp current)
    (fresh index isFresh)
  unfold Registered at before ⊢
  rwa [registry]

/-! ## One step -/

@[simp] theorem remove_self (state : Sessions) (vehicleId : String) :
    (state.remove vehicleId).registry vehicleId = none := by
  simp [remove]

theorem remove_other (state : Sessions) {vehicleId other : String} (differs : other ≠ vehicleId) :
    (state.remove vehicleId).registry other = state.registry other := by
  simp [remove, Function.update_of_ne differs]

theorem remove_routable {state : Sessions} (routable : Routable state) (vehicleId : String) :
    Routable (state.remove vehicleId) ↔ Dispensable state vehicleId := by
  constructor
  · intro holds index current fresh
    obtain ⟨session, entry, _⟩ := holds vehicleId index current fresh
    simp at entry
  · intro dispensable other index current fresh
    by_cases same : other = vehicleId
    · subst same
      exact absurd fresh (dispensable index current)
    · obtain ⟨session, entry, owner⟩ := routable other index current fresh
      exact ⟨session, (remove_other state same).trans entry, owner⟩

theorem lastOwns_remove {state : Sessions} (owns : LastOwns state) (vehicleId : String) :
    LastOwns (state.remove vehicleId) := by
  intro other session entry
  by_cases same : other = vehicleId
  · subst same
    simp at entry
  · rw [remove_other state same] at entry
    exact owns other session entry

theorem beat_connections (state : Sessions) (vehicleId : String) :
    (state.beat vehicleId).connections = state.connections ∧
      (state.beat vehicleId).now = state.now := by
  unfold beat
  cases state.registry vehicleId <;> exact ⟨rfl, rfl⟩

theorem beat_registry (state : Sessions) (vehicleId other : String) :
    ((state.beat vehicleId).registry other).map VehicleSession.cmdTx =
      (state.registry other).map VehicleSession.cmdTx := by
  unfold beat
  cases entry : state.registry vehicleId with
  | none => rfl
  | some session =>
    by_cases same : other = vehicleId
    · subst same
      simp [entry]
    · simp [Function.update_of_ne same]

theorem registered_iff (state : Sessions) (vehicleId : String) (index : Nat) :
    Registered state vehicleId index ↔
      (state.registry vehicleId).map VehicleSession.cmdTx = some index := by
  unfold Registered
  rw [Option.map_eq_some_iff]

theorem accept_routable {state next : Sessions} {vehicleId : String} (routable : Routable state)
    (owns : LastOwns state) (taken : step state (.accept vehicleId) = some next) :
    LastOwns next ∧ Routable next := by
  obtain rfl := Option.some.inj taken
  have lookup {index : Nat} (earlier : index < state.connections.length) :
      (state.connections ++ [(⟨vehicleId, .accepting, state.now⟩ : Connection)])[index]? =
        state.connections[index]? := List.getElem?_append_left earlier
  constructor
  · intro other session entry index connection is belongs
    have inside := (List.getElem?_eq_some_iff.mp is).1
    simp only [List.length_append, List.length_singleton] at inside
    by_cases same : other = vehicleId
    · subst same
      simp only [Function.update_self, Option.some.injEq] at entry
      subst entry
      exact Nat.le_of_lt_succ inside
    · simp only [Function.update_of_ne same] at entry
      by_cases last : index = state.connections.length
      · subst last
        simp only [List.getElem?_concat_length, Option.some.injEq] at is
        exact absurd (belongs.symm.trans (congrArg Connection.vehicleId is.symm)) same
      · rw [lookup (by omega)] at is
        exact owns other session entry index connection is belongs
  · intro other index current fresh
    by_cases same : other = vehicleId
    · subst same
      refine ⟨⟨other, state.connections.length, state.now⟩, Function.update_self .., ?_⟩
      show state.connections.length = index
      obtain ⟨connection, is, _⟩ := current.1
      have inside := (List.getElem?_eq_some_iff.mp is).1
      simp only [List.length_append, List.length_singleton] at inside
      by_contra earlier
      refine current.2 state.connections.length (by omega) ?_
      exact ⟨_, List.getElem?_concat_length, rfl, .inl rfl⟩
    · obtain ⟨⟨connection, is, belongs, phase⟩, newest⟩ := current
      have inside := (List.getElem?_eq_some_iff.mp is).1
      simp only [List.length_append, List.length_singleton] at inside
      have before : index < state.connections.length := by
        by_contra reached
        have last : index = state.connections.length := by omega
        subst last
        simp only [List.getElem?_concat_length, Option.some.injEq] at is
        exact same (belongs.symm.trans (congrArg Connection.vehicleId is.symm))
      have earlier : Current state other index := by
        refine ⟨⟨connection, (lookup before).symm.trans is, belongs, phase⟩, ?_⟩
        rintro later less ⟨connection, is, holds⟩
        have bounded := (List.getElem?_eq_some_iff.mp is).1
        exact newest later less ⟨connection, (lookup bounded).trans is, holds⟩
      have isFresh : Fresh state index := by
        obtain ⟨connection, is, recent⟩ := fresh
        exact ⟨connection, (lookup before).symm.trans is, recent⟩
      obtain ⟨session, entry, owner⟩ := routable other index earlier isFresh
      exact ⟨session, (Function.update_of_ne same ..).trans entry, owner⟩

theorem beat_open (state : Sessions) (vehicleId other : String) (index : Nat) :
    Open (state.beat vehicleId) other index ↔ Open state other index := by
  unfold Open
  rw [(beat_connections state vehicleId).1]

theorem beat_fresh (state : Sessions) (vehicleId : String) (index : Nat) :
    Fresh (state.beat vehicleId) index ↔ Fresh state index := by
  unfold Fresh
  rw [(beat_connections state vehicleId).1, (beat_connections state vehicleId).2]

theorem beat_registered (state : Sessions) (vehicleId other : String) (index : Nat) :
    Registered (state.beat vehicleId) other index ↔ Registered state other index := by
  rw [registered_iff, registered_iff, beat_registry]

theorem lastOwns_beat {state : Sessions} (owns : LastOwns state) (vehicleId : String) :
    LastOwns (state.beat vehicleId) := by
  intro other session entry index connection is belongs
  have registered : Registered state other session.cmdTx :=
    (beat_registered state vehicleId other session.cmdTx).mp ⟨session, entry, rfl⟩
  obtain ⟨before, was, owner⟩ := registered
  rw [(beat_connections state vehicleId).1] at is
  exact owner ▸ owns other before was index connection is belongs

theorem heartbeat_routable {state next : Sessions} {index : Nat} (routable : Routable state)
    (owns : LastOwns state) (taken : step state (.heartbeat index) = some next) :
    LastOwns next ∧ (Routable next ↔ Careful state (.heartbeat index)) := by
  simp only [step] at taken
  split at taken
  next vehicleId lastSeen was =>
    obtain rfl := Option.some.inj taken
    have opened (other : String) (place : Nat) :
        Open ((state.setConnection index ⟨vehicleId, .serving, state.now⟩).beat vehicleId) other
          place ↔ Open state other place := by
      rw [beat_open]
      exact open_set was ⟨vehicleId, .serving, state.now⟩ rfl Iff.rfl other place
    have registered (other : String) (place : Nat) :
        Registered ((state.setConnection index ⟨vehicleId, .serving, state.now⟩).beat vehicleId)
          other place ↔ Registered state other place := beat_registered _ vehicleId other place
    have fresh (place : Nat) :
        Fresh ((state.setConnection index ⟨vehicleId, .serving, state.now⟩).beat vehicleId) place ↔
          place = index ∨ Fresh state place := by
      rw [beat_fresh]
      unfold Fresh
      rw [lookup_set was]
      by_cases same : place = index
      · simp [same, setConnection]
      · simp [same, setConnection]
    have kept := lastOwns_set was ⟨vehicleId, .serving, state.now⟩ rfl owns
    refine ⟨lastOwns_beat kept vehicleId, ?_⟩
    constructor
    · intro holds other current
      exact (registered other index).mp
        (holds other index ((current_congr opened other index).mpr current)
          ((fresh index).mpr (.inl rfl)))
    · intro careful other place current isFresh
      have earlier := (current_congr opened other place).mp current
      rw [registered]
      rcases (fresh place).mp isFresh with rfl | recent
      · exact careful other earlier
      · exact routable other place earlier recent
  next => cases taken

-- The connection ends; only one that it covered can be missing its entry now.
theorem ended_routable {state : Sessions} {index : Nat} {old : Connection}
    (routable : Routable state) (owns : LastOwns state)
    (was : state.connections[index]? = some old) :
    LastOwns (state.setConnection index ⟨old.vehicleId, .ended, old.lastSeen⟩) ∧
      (Routable (state.setConnection index ⟨old.vehicleId, .ended, old.lastSeen⟩) ↔
        Careful state (.close index)) := by
  have opened (other : String) (place : Nat) :
      Open (state.setConnection index ⟨old.vehicleId, .ended, old.lastSeen⟩) other place ↔
        Open state other place ∧ place ≠ index := by
    by_cases same : place = index
    · subst same
      rw [open_set_self was]
      simp
    · rw [open_set_other was _ other same]
      simp [same]
  have fresh := fresh_set was ⟨old.vehicleId, .ended, old.lastSeen⟩ rfl
  refine ⟨lastOwns_set was _ rfl owns, ?_⟩
  constructor
  · intro holds vehicleId current older less isOpen isFresh
    by_contra covered
    have newest : Current (state.setConnection index ⟨old.vehicleId, .ended, old.lastSeen⟩)
        vehicleId older := by
      refine ⟨(opened vehicleId older).mpr ⟨isOpen, by omega⟩, ?_⟩
      intro later more stays
      obtain ⟨stays, differs⟩ := (opened vehicleId later).mp stays
      rcases Nat.lt_or_gt_of_ne differs with before | after
      · exact covered ⟨later, more, before, stays⟩
      · exact current.2 later after stays
    obtain ⟨session, entry, owner⟩ := holds vehicleId older newest ((fresh older).mpr isFresh)
    obtain ⟨belongs, _⟩ := (open_self was vehicleId).mp current.1
    have last := owns vehicleId session entry index old was belongs
    omega
  · intro careful vehicleId place current isFresh
    obtain ⟨isOpen, differs⟩ := (opened vehicleId place).mp current.1
    have recent := (fresh place).mp isFresh
    by_cases before : Current state vehicleId place
    · exact routable vehicleId place before recent
    · -- Something later was open, and it can only be the connection that ends.
      have only (later : Nat) (more : place < later) (wasOpen : Open state vehicleId later) :
          later = index := by
        by_contra other
        exact current.2 later more ((opened vehicleId later).mpr ⟨wasOpen, other⟩)
      obtain ⟨later, more, wasOpen⟩ : ∃ later, place < later ∧ Open state vehicleId later := by
        by_contra none
        exact before ⟨isOpen, fun later more wasOpen => none ⟨later, more, wasOpen⟩⟩
      obtain rfl := only later more wasOpen
      have last : Current state vehicleId later := by
        refine ⟨wasOpen, fun further beyond stillOpen => ?_⟩
        have := only further (by omega) stillOpen
        omega
      obtain ⟨between, above, below, betweenOpen⟩ :=
        careful vehicleId last place more isOpen recent
      have := only between above betweenOpen
      omega

theorem cleanup_routable {state next : Sessions} {index : Nat} (routable : Routable state)
    (owns : LastOwns state) (taken : step state (.cleanup index) = some next) :
    LastOwns next ∧ (Routable next ↔ Careful state (.cleanup index)) := by
  simp only [step] at taken
  split at taken
  next vehicleId lastSeen was =>
    obtain rfl := Option.some.inj taken
    have opened := open_set was ⟨vehicleId, .cleaned, lastSeen⟩ rfl (by simp)
    have fresh := fresh_set was ⟨vehicleId, .cleaned, lastSeen⟩ rfl
    have before := routable.of_same opened (fun place => (fresh place).mp) rfl
    have kept := lastOwns_set was ⟨vehicleId, .cleaned, lastSeen⟩ rfl owns
    refine ⟨lastOwns_remove kept vehicleId, ?_⟩
    rw [remove_routable before]
    have needs : Dispensable (state.setConnection index ⟨vehicleId, .cleaned, lastSeen⟩) vehicleId ↔
        Dispensable state vehicleId :=
      forall_congr' fun place => imp_congr (current_congr opened vehicleId place)
        (not_congr (fresh place))
    rw [needs]
    constructor
    · intro dispensable connection is
      obtain rfl := Option.some.inj (was.symm.trans is)
      exact dispensable
    · intro careful
      exact careful _ was
  next => cases taken

theorem step_routable {state next : Sessions} {action : Action} (owns : LastOwns state)
    (routable : Routable state) (taken : step state action = some next) :
    LastOwns next ∧ (Routable next ↔ Careful state action) := by
  cases action with
  | accept vehicleId =>
    obtain ⟨keeps, holds⟩ := accept_routable routable owns taken
    exact ⟨keeps, iff_of_true holds trivial⟩
  | acceptStreams index =>
    simp only [step] at taken
    split at taken
    next vehicleId lastSeen was =>
      obtain rfl := Option.some.inj taken
      have opened := open_set was ⟨vehicleId, .serving, lastSeen⟩ rfl (by simp)
      have fresh := fresh_set was ⟨vehicleId, .serving, lastSeen⟩ rfl
      have holds := routable.of_same opened (fun place => (fresh place).mp) rfl
      exact ⟨lastOwns_set was _ rfl owns, iff_of_true holds trivial⟩
    next => cases taken
  | heartbeat index => exact heartbeat_routable routable owns taken
  | close index =>
    simp only [step] at taken
    split at taken
    next vehicleId lastSeen was =>
      obtain rfl := Option.some.inj taken
      exact ended_routable routable owns was
    next vehicleId lastSeen was =>
      obtain rfl := Option.some.inj taken
      exact ended_routable routable owns was
    next => cases taken
  | cleanup index => exact cleanup_routable routable owns taken
  | pass duration =>
    obtain rfl := Option.some.inj taken
    refine ⟨owns, iff_of_true (routable.of_same (fun _ _ => Iff.rfl) ?_ rfl) trivial⟩
    rintro index ⟨connection, is, recent⟩
    refine ⟨connection, is, Nat.le_trans ?_ recent⟩
    exact Nat.sub_le_sub_right (Nat.le_add_right _ _) _
  | tick =>
    simp only [step] at taken
    split_ifs at taken
    obtain rfl := Option.some.inj taken
    exact ⟨owns, iff_of_true routable trivial⟩
  | visit vehicleId =>
    simp only [step] at taken
    split at taken
    next =>
      split_ifs at taken
      · obtain rfl := Option.some.inj taken
        exact ⟨owns, iff_of_true routable trivial⟩
      · obtain rfl := Option.some.inj taken
        exact ⟨owns, iff_of_true routable trivial⟩
    next => cases taken
  | scanned =>
    simp only [step] at taken
    split_ifs at taken
    obtain rfl := Option.some.inj taken
    exact ⟨owns, iff_of_true routable trivial⟩
  | removeStale =>
    simp only [step] at taken
    split at taken
    next vehicleId rest monitor =>
      obtain rfl := Option.some.inj taken
      have before : Routable { state with monitor := ⟨none, rest⟩ } := routable
      refine ⟨lastOwns_remove owns vehicleId, ?_⟩
      rw [remove_routable before]
      simp [Careful, monitor]
      rfl
    next => cases taken

/-- In a run, commands can be routed to every current, fresh connection in all states exactly if
every step is careful. -/
theorem runs_routable_iff (actions : List Action) :
    Throughout step Routable start actions ↔ Along step Careful start actions := by
  have owns : LastOwns start := by
    intro vehicleId session entry
    cases entry
  have routable : Routable start := by
    rintro vehicleId index ⟨⟨connection, is, _⟩, _⟩
    cases is
  have preserves (state : Sessions) (action : Action) (next : Sessions) (owns : LastOwns state)
      (routable : Routable state) (_ : Careful state action)
      (taken : step state action = some next) : LastOwns next :=
    (step_routable owns routable taken).1
  have exact_step (state : Sessions) (action : Action) (next : Sessions) (owns : LastOwns state)
      (routable : Routable state) (taken : step state action = some next) :
      Routable next ↔ Careful state action := (step_routable owns routable taken).2
  exact throughout_iff_along preserves exact_step owns routable

/-- A vehicle reconnects, and its first connection is cleaned up later. -/
theorem late_cleanup_unroutable : ¬ Throughout step Routable start
    [.accept "v1", .accept "v1", .close 0, .cleanup 0] := by
  intro all
  obtain ⟨final, ran, registry, now, second, only⟩ : ∃ final,
      exec step start [.accept "v1", .accept "v1", .close 0, .cleanup 0] = some final ∧
        final.registry "v1" = none ∧ final.now = 0 ∧
        final.connections[1]? = some ⟨"v1", .accepting, 0⟩ ∧ final.connections.length = 2 :=
    ⟨_, rfl, rfl, rfl, rfl, rfl⟩
  have routable := throughout_iff_prefixes.mp all _ [] final (List.append_nil _).symm ran
  have current : Current final "v1" 1 := by
    refine ⟨⟨_, second, rfl, .inl rfl⟩, ?_⟩
    rintro later more ⟨connection, is, _⟩
    have inside := (List.getElem?_eq_some_iff.mp is).1
    omega
  obtain ⟨session, entry, _⟩ := routable "v1" 1 current ⟨_, second, by simp [now]⟩
  rw [registry] at entry
  cases entry

end Sessions

end SystemScale.Relay
