import Mathlib.Data.List.Basic
import SystemScale.Lib.Runs

set_option autoImplicit false

/-!
# The dashboard's WebSocket manager

One manager holds the set of vehicles that pages subscribe to and at most one connection for them,
which it opens anew when the set changes, and after a delay when the connection is lost.
-/

namespace SystemScale.Dashboard

open Runs

inductive ReadyState where
  | connecting
  | opened
  | closing
  | closed
  deriving DecidableEq

/-- A socket as the browser has it. Its other handlers are never detached. -/
structure Socket where
  readyState : ReadyState
  onclose : Bool

inductive WsStatus where
  | disconnected
  | connecting
  | connected
  deriving DecidableEq

/-- `sockets` and `timers` are the browser's: all sockets ever made, and the timers that wait, with
their delays. `sent` is what went out on each socket. -/
structure WsManager where
  ws : Option Nat
  subscribedIds : List String
  retryDelay : Nat
  retryTimer : Option Nat
  destroyed : Bool
  status : WsStatus
  sockets : List Socket
  timers : List (Nat × Nat)
  nextTimer : Nat
  sent : List (Nat × List String)

namespace WsManager

def new : WsManager := ⟨none, [], 1000, none, false, .disconnected, [], [], 1, []⟩

/-! ## What the browser does -/

def setSocket (manager : WsManager) (id : Nat) (change : Socket → Socket) : WsManager :=
  { manager with sockets := manager.sockets.modify id change }

def become (readyState : ReadyState) (socket : Socket) : Socket := { socket with readyState }

def closeSocket (socket : Socket) : Socket :=
  match socket.readyState with
  | .connecting => become .closing socket
  | .opened => become .closing socket
  | _ => socket

def clearTimeout (manager : WsManager) (id : Nat) : WsManager :=
  { manager with timers := manager.timers.filter fun timer => timer.1 ≠ id }

def setTimeout (manager : WsManager) (delay : Nat) : WsManager :=
  { manager with
    timers := manager.timers ++ [(manager.nextTimer, delay)]
    retryTimer := some manager.nextTimer
    nextTimer := manager.nextTimer + 1 }

/-! ## The manager -/

def setStatus (manager : WsManager) (status : WsStatus) : WsManager :=
  { manager with status := status }

def clearRetry (manager : WsManager) : WsManager :=
  match manager.retryTimer with
  | some id => { manager.clearTimeout id with retryTimer := none }
  | none => manager

/-- The handler is taken off before the socket is closed. -/
def dropSocket (manager : WsManager) (id : Nat) : WsManager :=
  { manager.setSocket id fun socket => closeSocket { socket with onclose := false } with
    ws := none }

def teardown (manager : WsManager) : WsManager :=
  let manager := clearRetry { manager with destroyed := true, retryDelay := 1000 }
  let manager := match manager.ws with
    | some id => manager.dropSocket id
    | none => manager
  manager.setStatus .disconnected

def connect (manager : WsManager) : WsManager :=
  if manager.destroyed || manager.subscribedIds.isEmpty then manager
  else
    let manager := manager.setStatus .connecting
    { manager with
      ws := some manager.sockets.length
      sockets := manager.sockets ++ [⟨.connecting, true⟩] }

def reconnect (manager : WsManager) : WsManager :=
  let manager := manager.clearRetry
  let manager := match manager.ws with
    | some id =>
      if (manager.sockets[id]?).map Socket.readyState = some ReadyState.closed then manager
      else manager.dropSocket id
    | none => manager
  manager.connect

def subscribe (manager : WsManager) (vehicleId : String) : WsManager :=
  if vehicleId ∈ manager.subscribedIds then manager
  else
    { manager with
      subscribedIds := manager.subscribedIds ++ [vehicleId], destroyed := false }.reconnect

def unsubscribe (manager : WsManager) (vehicleId : String) : WsManager :=
  if vehicleId ∉ manager.subscribedIds then manager
  else
    let manager := { manager with
      subscribedIds := manager.subscribedIds.filter (· ≠ vehicleId) }
    if manager.subscribedIds.isEmpty then manager.teardown else manager.reconnect

def scheduleReconnect (manager : WsManager) : WsManager :=
  if manager.destroyed || manager.subscribedIds.isEmpty then manager
  else (manager.setStatus .connecting).setTimeout manager.retryDelay

def onclose (manager : WsManager) : WsManager := (manager.setStatus .disconnected).scheduleReconnect

def onopen (manager : WsManager) : WsManager :=
  let manager := { manager with retryDelay := 1000 }.setStatus .connected
  match manager.ws with
  | some id => { manager with sent := manager.sent ++ [(id, manager.subscribedIds)] }
  | none => manager

def onretry (manager : WsManager) : WsManager :=
  { manager with retryDelay := min (manager.retryDelay * 2) 30000 }.connect

/-! ## Events -/

/-- `peerClosing` is the other side's close frame, after which a socket is closing too. -/
inductive Event where
  | subscribe (vehicleId : String)
  | unsubscribe (vehicleId : String)
  | socketOpen (id : Nat)
  | peerClosing (id : Nat)
  | socketClose (id : Nat)
  | retry (id : Nat)

def step (manager : WsManager) : Event → Option WsManager
  | .subscribe vehicleId => some (manager.subscribe vehicleId)
  | .unsubscribe vehicleId => some (manager.unsubscribe vehicleId)
  | .socketOpen id =>
    match manager.sockets[id]? with
    | some ⟨.connecting, _⟩ =>
      some (manager.setSocket id (become .opened)).onopen
    | _ => none
  | .peerClosing id =>
    match manager.sockets[id]? with
    | some ⟨.opened, _⟩ =>
      some (manager.setSocket id (become .closing))
    | _ => none
  | .socketClose id =>
    match manager.sockets[id]? with
    | some ⟨.closed, _⟩ => none
    | some ⟨_, attached⟩ =>
      let manager := manager.setSocket id (become .closed)
      some (if attached then manager.onclose else manager)
    | none => none
  | .retry id =>
    match manager.timers.find? fun timer => timer.1 = id with
    | some _ => some (manager.clearTimeout id).onretry
    | none => none

/-! ## What holds between events -/

def Live (manager : WsManager) (id : Nat) : Prop :=
  ∃ socket, manager.sockets[id]? = some socket ∧
    (socket.readyState = .connecting ∨ socket.readyState = .opened)

/-- `ws` is not closed yet and calls the manager back when it is. -/
def Attached (manager : WsManager) : Prop :=
  ∃ id socket, manager.ws = some id ∧ manager.sockets[id]? = some socket ∧
    socket.readyState ≠ .closed ∧ socket.onclose = true

structure Promised (manager : WsManager) : Prop where
  one : ∀ first second, manager.Live first → manager.Live second → first = second
  some_vehicle : manager.subscribedIds ≠ [] → manager.destroyed = false ∧
    (manager.Attached ∧ manager.timers = [] ∨ ¬manager.Attached ∧ ∃ timer, manager.timers = [timer])
  no_vehicle : manager.subscribedIds = [] → ¬manager.Attached ∧ manager.timers = []

/-- A socket that frames may come on, or that calls the manager back. -/
def Active (socket : Socket) : Prop :=
  socket.readyState = .connecting ∨ socket.readyState = .opened ∨
    socket.onclose = true ∧ socket.readyState ≠ .closed

/-- Only `ws` is active, and it has its handler. -/
def Owned (manager : WsManager) : Prop :=
  ∀ (id : Nat) (socket : Socket), manager.sockets[id]? = some socket → Active socket →
    manager.ws = some id ∧ socket.onclose = true

def Quiet (manager : WsManager) : Prop :=
  ∀ (id : Nat) (socket : Socket), manager.sockets[id]? = some socket → ¬Active socket

def Timed (manager : WsManager) : Prop :=
  manager.timers = [] ∨ ∃ id delay, manager.timers = [(id, delay)] ∧ manager.retryTimer = some id

structure Inv (manager : WsManager) : Prop where
  owned : manager.Owned
  timed : manager.Timed
  promised : Promised manager

section Invariant

variable {manager next : WsManager}

theorem Owned.one (owned : manager.Owned) (first second : Nat) (one : manager.Live first)
    (two : manager.Live second) : first = second := by
  obtain ⟨socket, is, live⟩ := one
  obtain ⟨other, also, alive⟩ := two
  have here := (owned first socket is (live.elim .inl fun opened => .inr (.inl opened))).1
  have there := (owned second other also (alive.elim .inl fun opened => .inr (.inl opened))).1
  exact Option.some.inj (here.symm.trans there)

theorem Active.not_closed {socket : Socket} (active : Active socket) :
    socket.readyState ≠ .closed := by
  rcases active with connecting | opened | ⟨_, other⟩
  · simp [connecting]
  · simp [opened]
  · exact other

theorem Owned.quiet (owned : manager.Owned) (loose : ¬manager.Attached) : manager.Quiet :=
  fun id socket is active =>
    have ⟨ws, attached⟩ := owned id socket is active
    loose ⟨id, socket, ws, is, active.not_closed, attached⟩

theorem Quiet.owned (quiet : manager.Quiet) : manager.Owned :=
  fun id socket is active => absurd active (quiet id socket is)

theorem Quiet.loose (quiet : manager.Quiet) : ¬manager.Attached :=
  fun ⟨id, socket, _, is, other, attached⟩ => quiet id socket is (.inr (.inr ⟨attached, other⟩))

-- A fresh socket where there is none that is active, and no timer.
theorem Quiet.connect (quiet : manager.Quiet) (some_vehicle : manager.subscribedIds ≠ [])
    (kept : manager.destroyed = false) (timers : manager.timers = []) : Inv manager.connect := by
  have plain : (manager.destroyed || manager.subscribedIds.isEmpty) = false := by
    simp [kept, some_vehicle]
  have made : manager.connect = { manager.setStatus .connecting with
      ws := some manager.sockets.length
      sockets := manager.sockets ++ [⟨.connecting, true⟩] } := by
    rw [WsManager.connect, plain]
    rfl
  rw [made]
  have owned : Owned { manager.setStatus .connecting with
      ws := some manager.sockets.length
      sockets := manager.sockets ++ [⟨.connecting, true⟩] } := by
    intro id socket is active
    change (manager.sockets ++ [⟨.connecting, true⟩])[id]? = some socket at is
    rcases Nat.lt_trichotomy id manager.sockets.length with old | rfl | beyond
    · rw [List.getElem?_append_left old] at is
      exact absurd active (quiet id socket is)
    · rw [List.getElem?_concat_length] at is
      exact ⟨rfl, Option.some.inj is ▸ rfl⟩
    · rw [List.getElem?_eq_none (by simp; omega)] at is
      cases is
  refine ⟨owned, .inl timers, owned.one, fun _ => ⟨kept, .inl ⟨?_, timers⟩⟩,
    fun empty => absurd empty some_vehicle⟩
  exact ⟨_, ⟨.connecting, true⟩, rfl, List.getElem?_concat_length, by simp, rfl⟩

theorem clearRetry_timers (timed : manager.Timed) : manager.clearRetry.timers = [] := by
  rw [clearRetry]
  rcases timed with empty | ⟨id, delay, one, pending⟩
  · split
    · simp [clearTimeout, empty]
    · exact empty
  · rw [pending]
    simp [clearTimeout, one]

@[simp] theorem clearRetry_ws (manager : WsManager) : manager.clearRetry.ws = manager.ws := by
  rw [clearRetry]
  split <;> rfl

@[simp] theorem clearRetry_sockets (manager : WsManager) :
    manager.clearRetry.sockets = manager.sockets := by
  rw [clearRetry]
  split <;> rfl

@[simp] theorem clearRetry_subscribedIds (manager : WsManager) :
    manager.clearRetry.subscribedIds = manager.subscribedIds := by
  rw [clearRetry]
  split <;> rfl

@[simp] theorem clearRetry_destroyed (manager : WsManager) :
    manager.clearRetry.destroyed = manager.destroyed := by
  rw [clearRetry]
  split <;> rfl

@[simp] theorem connect_subscribedIds (manager : WsManager) :
    manager.connect.subscribedIds = manager.subscribedIds := by
  rw [connect]
  split <;> rfl

@[simp] theorem reconnect_subscribedIds (manager : WsManager) :
    manager.reconnect.subscribedIds = manager.subscribedIds := by
  rw [reconnect, connect_subscribedIds, ← clearRetry_subscribedIds manager]
  split
  · split_ifs <;> rfl
  · rfl

@[simp] theorem teardown_subscribedIds (manager : WsManager) :
    manager.teardown.subscribedIds = manager.subscribedIds := by
  rw [teardown]
  dsimp only [setStatus]
  split
  · exact clearRetry_subscribedIds _
  · exact clearRetry_subscribedIds _

theorem Owned.clearRetry (owned : manager.Owned) : manager.clearRetry.Owned := by
  intro id socket is active
  rw [clearRetry_sockets] at is
  rw [clearRetry_ws]
  exact owned id socket is active

theorem getElem_setSocket (manager : WsManager) (id other : Nat) (change : Socket → Socket) :
    (manager.setSocket id change).sockets[other]? =
      if id = other then (manager.sockets[other]?).map change else manager.sockets[other]? := by
  rw [setSocket, List.getElem?_modify]
  split_ifs <;> simp

-- The socket in use is the only one that can be active.
theorem Owned.silence (owned : manager.Owned) {id : Nat} (ws : manager.ws = some id)
    {change : Socket → Socket} (idle : ∀ socket, ¬Active (change socket)) :
    (manager.setSocket id change).Quiet := by
  intro other found there active
  rw [getElem_setSocket] at there
  split_ifs at there with same
  · obtain ⟨old, _, rfl⟩ := Option.map_eq_some_iff.mp there
    exact idle old active
  · exact same (Option.some.inj (ws.symm.trans (owned other found there active).1))

theorem Owned.drop (owned : manager.Owned) {id : Nat} (ws : manager.ws = some id) :
    (manager.dropSocket id).Quiet := by
  refine owned.silence ws fun socket active => ?_
  -- Its handler is off, so it is idle whether it closes now or has done so before.
  simp only [closeSocket] at active
  split at active <;> simp_all [Active, become]

theorem Owned.close (owned : manager.Owned) {id : Nat} (ws : manager.ws = some id) :
    (manager.setSocket id (become .closed)).Quiet :=
  owned.silence ws fun _ active => active.not_closed rfl

theorem Owned.quiet_of_closed (owned : manager.Owned) {id : Nat} (ws : manager.ws = some id)
    (closed : (manager.sockets[id]?).map Socket.readyState = some ReadyState.closed) :
    manager.Quiet := by
  intro other socket is active
  obtain rfl := Option.some.inj (ws.symm.trans (owned other socket is active).1)
  rw [is] at closed
  exact active.not_closed (Option.some.inj closed)

theorem Owned.none_quiet (owned : manager.Owned) (ws : manager.ws = none) : manager.Quiet := by
  intro id socket is active
  cases ws.symm.trans (owned id socket is active).1

theorem reconnect_inv (owned : manager.Owned) (timed : manager.Timed)
    (some_vehicle : manager.subscribedIds ≠ []) (kept : manager.destroyed = false) :
    Inv manager.reconnect := by
  have timers := clearRetry_timers timed
  have owned := owned.clearRetry
  rw [← clearRetry_subscribedIds] at some_vehicle
  rw [← clearRetry_destroyed] at kept
  rw [reconnect]
  generalize manager.clearRetry = rested at *
  split
  · next id ws =>
    split_ifs with closed
    · exact (owned.quiet_of_closed ws closed).connect some_vehicle kept timers
    · exact (owned.drop ws).connect some_vehicle kept timers
  · next ws => exact (owned.none_quiet ws).connect some_vehicle kept timers

theorem Quiet.inv (quiet : manager.Quiet) (no_vehicle : manager.subscribedIds = [])
    (timers : manager.timers = []) : Inv manager :=
  ⟨quiet.owned, .inl timers, quiet.owned.one, fun some_vehicle => absurd no_vehicle some_vehicle,
    fun _ => ⟨quiet.loose, timers⟩⟩

theorem teardown_inv (owned : manager.Owned) (timed : manager.Timed)
    (no_vehicle : manager.subscribedIds = []) : Inv manager.teardown := by
  let destroyed : WsManager := { manager with destroyed := true, retryDelay := 1000 }
  have timers : destroyed.clearRetry.timers = [] := clearRetry_timers timed
  have owned : destroyed.clearRetry.Owned := Owned.clearRetry owned
  have none_left : destroyed.clearRetry.subscribedIds = [] := by
    rw [clearRetry_subscribedIds]
    exact no_vehicle
  rw [teardown]
  generalize destroyed.clearRetry = rested at *
  split
  · next id ws => exact Quiet.inv (owned.drop ws) none_left timers
  · next ws => exact Quiet.inv (owned.none_quiet ws) none_left timers

theorem Promised.in_use (promised : Promised manager) (attached : manager.Attached) :
    manager.subscribedIds ≠ [] ∧ manager.destroyed = false ∧ manager.timers = [] := by
  have some_vehicle : manager.subscribedIds ≠ [] :=
    fun empty => (promised.no_vehicle empty).1 attached
  obtain ⟨kept, ⟨_, timers⟩ | ⟨loose, _⟩⟩ := promised.some_vehicle some_vehicle
  · exact ⟨some_vehicle, kept, timers⟩
  · exact absurd attached loose

theorem Inv.modify (inv : Inv manager) {id : Nat} {socket : Socket}
    (is : manager.sockets[id]? = some socket) (active : Active socket) {state : ReadyState}
    (goes : state ≠ .closed) :
    Inv (manager.setSocket id (become state)) := by
  obtain ⟨ws, attached⟩ := inv.owned id socket is active
  have owned : (manager.setSocket id (become state)).Owned := by
    intro other found there active
    rw [getElem_setSocket] at there
    split_ifs at there with same
    · subst same
      rw [is] at there
      obtain rfl := Option.some.inj there
      exact ⟨ws, attached⟩
    · exact inv.owned other found there active
  have after : (manager.setSocket id (become state)).Attached :=
    ⟨id, become state socket, ws, by rw [getElem_setSocket, if_pos rfl, is]; rfl, goes, attached⟩
  obtain ⟨some_vehicle, kept, timers⟩ :=
    inv.promised.in_use ⟨id, socket, ws, is, active.not_closed, attached⟩
  exact ⟨owned, .inl timers, owned.one, fun _ => ⟨kept, .inl ⟨after, timers⟩⟩,
    fun empty => absurd empty some_vehicle⟩

-- A timer where there is no socket that is active.
theorem Quiet.scheduleReconnect (quiet : manager.Quiet) (some_vehicle : manager.subscribedIds ≠ [])
    (kept : manager.destroyed = false) (timers : manager.timers = []) :
    Inv manager.scheduleReconnect := by
  have plain : (manager.destroyed || manager.subscribedIds.isEmpty) = false := by
    simp [kept, some_vehicle]
  have waits : manager.scheduleReconnect =
      (manager.setStatus .connecting).setTimeout manager.retryDelay := by
    rw [WsManager.scheduleReconnect, plain]
    rfl
  have timer : ((manager.setStatus .connecting).setTimeout manager.retryDelay).timers =
      [(manager.nextTimer, manager.retryDelay)] :=
    congrArg (· ++ [(manager.nextTimer, manager.retryDelay)]) timers
  rw [waits]
  exact ⟨quiet.owned, .inr ⟨_, _, timer, rfl⟩, quiet.owned.one,
    fun _ => ⟨kept, .inr ⟨quiet.loose, _, timer⟩⟩, fun empty => absurd empty some_vehicle⟩

theorem Inv.lost (inv : Inv manager) {id : Nat} {socket : Socket}
    (is : manager.sockets[id]? = some socket) (active : Active socket) :
    Inv (manager.setSocket id (become .closed)).onclose := by
  obtain ⟨ws, attached⟩ := inv.owned id socket is active
  obtain ⟨some_vehicle, kept, timers⟩ :=
    inv.promised.in_use ⟨id, socket, ws, is, active.not_closed, attached⟩
  have quiet : ((manager.setSocket id (become .closed)).setStatus .disconnected).Quiet :=
    inv.owned.close ws
  exact quiet.scheduleReconnect some_vehicle kept timers

theorem Inv.same (inv : Inv manager) (ws : next.ws = manager.ws)
    (sockets : next.sockets = manager.sockets)
    (vehicles : next.subscribedIds = manager.subscribedIds)
    (kept : next.destroyed = manager.destroyed) (timers : next.timers = manager.timers)
    (timer : next.retryTimer = manager.retryTimer) : Inv next := by
  -- The other four fields have no part in the invariant.
  obtain ⟨_, _, _, _, _, _, _, _, _, _⟩ := manager
  obtain ⟨_, _, _, _, _, _, _, _, _, _⟩ := next
  dsimp only at ws sockets vehicles kept timers timer
  subst ws sockets vehicles kept timers timer
  exact ⟨inv.owned, inv.timed, inv.promised.one, inv.promised.some_vehicle,
    inv.promised.no_vehicle⟩

theorem Inv.dropped (inv : Inv manager) {id : Nat} {socket : Socket}
    (is : manager.sockets[id]? = some socket) (loose : socket.onclose = false) :
    Inv (manager.setSocket id (become .closed)) := by
  have apart : ∀ {other : Nat} {found : Socket}, manager.sockets[other]? = some found →
      found.onclose = true → id ≠ other := by
    rintro other found there attached rfl
    obtain rfl := Option.some.inj (is.symm.trans there)
    simp [loose] at attached
  have owned : (manager.setSocket id (become .closed)).Owned := by
    intro other found there active
    rw [getElem_setSocket] at there
    split_ifs at there
    · obtain ⟨old, _, rfl⟩ := Option.map_eq_some_iff.mp there
      exact absurd rfl active.not_closed
    · exact inv.owned other found there active
  have attached : (manager.setSocket id (become .closed)).Attached ↔ manager.Attached := by
    constructor
    · rintro ⟨other, found, ws, there, goes, handler⟩
      rw [getElem_setSocket] at there
      split_ifs at there
      · obtain ⟨old, _, rfl⟩ := Option.map_eq_some_iff.mp there
        exact absurd rfl goes
      · exact ⟨other, found, ws, there, goes, handler⟩
    · rintro ⟨other, found, ws, there, goes, handler⟩
      refine ⟨other, found, ws, ?_, goes, handler⟩
      rw [getElem_setSocket, if_neg (apart there handler), there]
  refine ⟨owned, inv.timed, owned.one, fun some_vehicle => ?_, fun no_vehicle => ?_⟩
  · rw [attached]
    exact inv.promised.some_vehicle some_vehicle
  · rw [attached]
    exact inv.promised.no_vehicle no_vehicle

theorem Inv.retry (inv : Inv manager) {id : Nat} {timer : Nat × Nat}
    (found : (manager.timers.find? fun timer => timer.1 = id) = some timer) :
    Inv (manager.clearTimeout id).onretry := by
  have member := List.mem_of_find?_eq_some found
  have is : timer.1 = id := by simpa using List.find?_some found
  have some_vehicle : manager.subscribedIds ≠ [] := by
    intro empty
    rw [(inv.promised.no_vehicle empty).2] at member
    exact absurd member List.not_mem_nil
  obtain ⟨kept, ⟨_, none_waits⟩ | ⟨loose, other, one⟩⟩ := inv.promised.some_vehicle some_vehicle
  · rw [none_waits] at member
    exact absurd member List.not_mem_nil
  · rw [one, List.mem_singleton] at member
    have timers : (manager.clearTimeout id).timers = [] := by
      simp [clearTimeout, one, ← member, is]
    exact Quiet.connect (inv.owned.quiet loose) some_vehicle kept timers

theorem unsubscribe_inv (inv : Inv manager) (vehicleId : String) :
    Inv (manager.unsubscribe vehicleId) := by
  rw [unsubscribe]
  by_cases member : vehicleId ∈ manager.subscribedIds
  · rw [if_neg (not_not.mpr member)]
    have kept := (inv.promised.some_vehicle (List.ne_nil_of_mem member)).1
    dsimp only
    split_ifs with empty
    · exact teardown_inv (fun id socket => inv.owned id socket) inv.timed
        (List.isEmpty_iff.mp empty)
    · exact reconnect_inv (fun id socket => inv.owned id socket) inv.timed
        (fun none_left => empty (List.isEmpty_iff.mpr none_left)) kept
  · rw [if_pos member]
    exact inv

theorem step_inv {event : Event} (inv : Inv manager) (taken : manager.step event = some next) :
    Inv next := by
  cases event with
  | subscribe vehicleId =>
    obtain rfl := Option.some.inj taken
    rw [subscribe]
    split_ifs
    · exact inv
    · refine reconnect_inv (fun id socket => inv.owned id socket) inv.timed ?_ rfl
      simp
  | unsubscribe vehicleId =>
    obtain rfl := Option.some.inj taken
    exact unsubscribe_inv inv vehicleId
  | socketOpen id =>
    simp only [step] at taken
    split at taken
    · next attached is =>
      obtain rfl := Option.some.inj taken
      have opened := inv.modify is (.inl rfl) (ReadyState.noConfusion : ReadyState.opened ≠ .closed)
      rw [onopen]
      split <;> exact opened.same rfl rfl rfl rfl rfl rfl
    · cases taken
  | peerClosing id =>
    simp only [step] at taken
    split at taken
    · next attached is =>
      obtain rfl := Option.some.inj taken
      exact inv.modify is (.inr (.inl rfl)) (by simp)
    · cases taken
  | socketClose id =>
    simp only [step] at taken
    split at taken
    · cases taken
    · next readyState attached other is =>
      obtain rfl := Option.some.inj taken
      -- A socket that still has its handler is the one in use; any other was dropped before.
      split_ifs with handler
      · subst handler
        exact inv.lost is (.inr (.inr ⟨rfl, other⟩))
      · exact inv.dropped is (by simpa using handler)
    · cases taken
  | retry id =>
    simp only [step] at taken
    split at taken
    · next timer found =>
      obtain rfl := Option.some.inj taken
      exact inv.retry found
    · cases taken

theorem new_inv : Inv new :=
  Quiet.inv (fun _ _ is => by simp [new] at is) rfl rfl

/-- After any events there is at most one live connection, and either it or a timer keeps the
subscriptions going. -/
theorem events_promised {events : List Event} (ran : exec step new events = some manager) :
    Promised manager :=
  (exec_invariant (fun _ _ _ inv taken => step_inv inv taken) new_inv ran).promised

end Invariant

/-- A connection that is lost, and the one that the timer opens in its place. -/
def reopened : WsManager where
  ws := some 1
  subscribedIds := ["rover"]
  retryDelay := 2000
  retryTimer := some 1
  destroyed := false
  status := .connecting
  sockets := [⟨.closed, true⟩, ⟨.connecting, true⟩]
  timers := []
  nextTimer := 2
  sent := [(0, ["rover"])]

theorem reopened_promised : Promised reopened :=
  @events_promised reopened [.subscribe "rover", .socketOpen 0, .socketClose 0, .retry 1] rfl

end WsManager

end SystemScale.Dashboard
