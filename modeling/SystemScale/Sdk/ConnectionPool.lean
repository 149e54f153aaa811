import Mathlib.Logic.Function.Basic
import SystemScale.Lib.Runs

set_option autoImplicit false

/-!
# The connection pool of the Python SDK

The pool keeps one connection for each scheme, host and port, and calls of several threads get it
under a lock that they leave before they use it. A connection takes a request once the response to
the one before was read.
-/

namespace SystemScale.Sdk.Pool

open Runs

/-! ## Keys -/

structure Url where
  scheme : String
  hostname : Option String
  port : Option Nat
  deriving DecidableEq

structure Key where
  scheme : String
  host : Option String
  port : Nat
  deriving DecidableEq

-- A port of zero counts as none.
def portOr (default : Nat) : Option Nat → Nat
  | some port => if port = 0 then default else port
  | none => default

def schemeOf (url : Url) : String := if url.scheme = "" then "http" else url.scheme

def connKey (url : Url) : Key :=
  ⟨schemeOf url, some (url.hostname.getD "localhost"),
    portOr (if schemeOf url = "https" then 443 else 80) url.port⟩

/-- The key that `_request` removes after an error. -/
def errorKey (url : Url) : Key := ⟨schemeOf url, url.hostname, portOr 80 url.port⟩

/-! ## Pool -/

structure Entry where
  key : Key
  conn : Nat
  ts : Int

def maxSize : Nat := 16

-- In nanoseconds.
def idleTtl : Int := 60000000000

/-- The first of the entries that were used longest ago. -/
def oldest : List Entry → Option Entry
  | [] => none
  | entry :: rest =>
    match oldest rest with
    | some other => if other.ts < entry.ts then some other else some entry
    | none => some entry

/-- What `_get_conn` does to the pool: the connections it closes, and the one it returns. -/
structure Lease where
  pool : List Entry
  closed : List Nat
  conn : Nat

/-- `fresh` is the connection that is made where the pool has none. -/
def getConn (pool : List Entry) (fresh : Nat) (key : Key) (now : Int) : Lease :=
  let stale := pool.filter fun entry => idleTtl < now - entry.ts
  let kept := pool.filter fun entry => ¬idleTtl < now - entry.ts
  match kept.find? fun entry => entry.key = key with
  | some entry =>
    { pool := kept.map fun other => if other.key = key then { other with ts := now } else other
      closed := stale.map Entry.conn
      conn := entry.conn }
  | none =>
    match if maxSize ≤ kept.length then oldest kept else none with
    | some evicted =>
      { pool := (kept.filter fun entry => entry.key ≠ evicted.key) ++ [⟨key, fresh, now⟩]
        closed := stale.map Entry.conn ++ [evicted.conn]
        conn := fresh }
    | none =>
      { pool := kept ++ [⟨key, fresh, now⟩]
        closed := stale.map Entry.conn
        conn := fresh }

/-! ## Calls -/

/-- A connection that is not idle has a request whose response was not yet begun, or was not yet
read to its end by the call that began it. -/
inductive ConnState where
  | idle
  | sent (request : Nat)
  | reading (reader request : Nat)
  deriving DecidableEq

/-- Where a call of `_request` is. A response that is not `whole` was closed before it was read, and
`misused` is an error of http.client that `_request` does not catch. -/
inductive Phase where
  | connecting
  | got (conn : Nat)
  | sent (conn : Nat)
  | reading (conn request : Nat)
  | returned (request : Nat) (whole : Bool)
  | failed
  | misused
  deriving DecidableEq

def Phase.conn : Phase → Option Nat
  | .got conn => some conn
  | .sent conn => some conn
  | .reading conn _ => some conn
  | _ => none

structure Call where
  url : Url
  retried : Bool
  phase : Phase

structure State where
  pool : List Entry
  conns : Nat → ConnState
  made : Nat
  calls : Nat → Option Call

/-- A call that meets a network error leaves its connection idle or with an unfinished request. -/
inductive Action where
  | start (call : Nat) (url : Url)
  | connect (call : Nat) (now : Int)
  | request (call : Nat)
  | getresponse (call : Nat)
  | read (call : Nat)
  | error (call : Nat) (unfinished : Bool)

def State.move (state : State) (id : Nat) (call : Call) (phase : Phase) : State :=
  { state with calls := Function.update state.calls id (some { call with phase := phase }) }

def State.setConn (state : State) (conn : Nat) (value : ConnState) : State :=
  { state with conns := Function.update state.conns conn value }

def step (state : State) : Action → Option State
  | .start id url =>
    match state.calls id with
    | none => some { state with
        calls := Function.update state.calls id (some ⟨url, false, .connecting⟩) }
    | some _ => none
  | .connect id now =>
    match state.calls id with
    | some ⟨url, retried, .connecting⟩ =>
      let lease := getConn state.pool state.made (connKey url) now
      some
        { pool := lease.pool
          conns := fun conn => if conn ∈ lease.closed then .idle else state.conns conn
          made := if lease.conn = state.made then state.made + 1 else state.made
          calls := Function.update state.calls id (some ⟨url, retried, .got lease.conn⟩) }
    | _ => none
  | .request id =>
    match state.calls id with
    | some ⟨url, retried, .got conn⟩ =>
      match state.conns conn with
      | .idle => some ((state.setConn conn (.sent id)).move id ⟨url, retried, .got conn⟩ (.sent conn))
      | _ => some (state.move id ⟨url, retried, .got conn⟩ .misused)
    | _ => none
  | .getresponse id =>
    match state.calls id with
    | some ⟨url, retried, .sent conn⟩ =>
      match state.conns conn with
      | .sent request =>
        some ((state.setConn conn (.reading id request)).move id ⟨url, retried, .sent conn⟩
          (.reading conn request))
      | _ => some (state.move id ⟨url, retried, .sent conn⟩ .misused)
    | _ => none
  | .read id =>
    match state.calls id with
    | some ⟨url, retried, .reading conn request⟩ =>
      if state.conns conn = .reading id request then
        some ((state.setConn conn .idle).move id ⟨url, retried, .reading conn request⟩
          (.returned request true))
      else some (state.move id ⟨url, retried, .reading conn request⟩ (.returned request false))
    | _ => none
  | .error id unfinished =>
    match state.calls id with
    | some ⟨url, retried, phase⟩ =>
      match phase.conn with
      | some conn =>
        some
          { state with
            pool := state.pool.filter fun entry => entry.key ≠ errorKey url
            conns := Function.update state.conns conn (if unfinished then .sent id else .idle)
            calls := Function.update state.calls id
              (some ⟨url, true, if retried then .failed else .connecting⟩) }
      | none => none
    | none => none

def start : State := ⟨[], fun _ => .idle, 0, fun _ => none⟩

/-! ## What is promised -/

def Using (state : State) (id conn : Nat) : Prop :=
  ∃ call, state.calls id = some call ∧ call.phase.conn = some conn

/-- No connection is used by two calls, and every call that is over returned the response to its own
request or met a network error. -/
structure Sound (state : State) : Prop where
  apart : ∀ first second conn, Using state first conn → Using state second conn → first = second
  own : ∀ id call, state.calls id = some call → call.phase ≠ .misused ∧
    ∀ request whole, call.phase = .returned request whole → request = id ∧ whole = true

/-- The pool returns no connection that another call has, and none whose last request was not
finished, and it closes none that a call sent its request on. -/
def Careful (state : State) : Action → Prop
  | .connect id now => ∀ call, state.calls id = some call →
      let lease := getConn state.pool state.made (connKey call.url) now
      state.conns lease.conn = .idle ∧ (∀ other, ¬Using state other lease.conn) ∧
        ∀ conn ∈ lease.closed, ∀ other current, state.calls other = some current →
          current.phase.conn = some conn → current.phase = .got conn
  | _ => True

/-! ## What the pool returns -/

-- Every connection of the new pool, and the one that is returned, is an old one or the fresh one.
theorem getConn_known (pool : List Entry) (fresh : Nat) (key : Key) (now : Int) :
    ((getConn pool fresh key now).conn = fresh ∨
      ∃ entry ∈ pool, entry.conn = (getConn pool fresh key now).conn) ∧
    ∀ entry ∈ (getConn pool fresh key now).pool,
      entry.conn = fresh ∧ (getConn pool fresh key now).conn = fresh ∨
        ∃ other ∈ pool, other.conn = entry.conn := by
  unfold getConn
  dsimp only
  split
  · next found is =>
    have member := List.mem_of_find?_eq_some is
    refine ⟨.inr ⟨found, (List.mem_filter.mp member).1, rfl⟩, fun entry there => .inr ?_⟩
    obtain ⟨other, before, rfl⟩ := List.mem_map.mp there
    refine ⟨other, (List.mem_filter.mp before).1, ?_⟩
    split_ifs <;> rfl
  · split
    · refine ⟨.inl rfl, fun entry there => ?_⟩
      rcases List.mem_append.mp there with old | new
      · exact .inr ⟨entry, (List.mem_filter.mp (List.mem_filter.mp old).1).1, rfl⟩
      · obtain rfl := List.mem_singleton.mp new
        exact .inl ⟨rfl, rfl⟩
    · refine ⟨.inl rfl, fun entry there => ?_⟩
      rcases List.mem_append.mp there with old | new
      · exact .inr ⟨entry, (List.mem_filter.mp old).1, rfl⟩
      · obtain rfl := List.mem_singleton.mp new
        exact .inl ⟨rfl, rfl⟩

/-! ## Calls and their connections -/

/-- The connection is as the phase of its call expects it. -/
def Fits (conns : Nat → ConnState) (id : Nat) : Phase → Prop
  | .got conn => conns conn = .idle
  | .sent conn => conns conn = .sent id
  | .reading conn request => request = id ∧ conns conn = .reading id id
  | .returned request whole => request = id ∧ whole = true
  | .misused => False
  | _ => True

structure Orderly (state : State) : Prop where
  apart : ∀ first second conn, Using state first conn → Using state second conn → first = second
  fits : ∀ id call, state.calls id = some call → Fits state.conns id call.phase
  idle : ∀ conn, state.made ≤ conn → state.conns conn = .idle
  made : ∀ id conn, Using state id conn → conn < state.made
  pooled : ∀ entry ∈ state.pool, entry.conn < state.made

theorem Orderly.sound {state : State} (orderly : Orderly state) : Sound state where
  apart := orderly.apart
  own id call is := by
    have fits := orderly.fits id call is
    constructor
    · intro misused
      rw [misused] at fits
      exact fits
    · intro request whole returned
      rw [returned] at fits
      exact fits

theorem Fits.congr {conns conns' : Nat → ConnState} {id : Nat} {phase : Phase}
    (same : ∀ conn, phase.conn = some conn → conns' conn = conns conn) (fits : Fits conns id phase) :
    Fits conns' id phase := by
  cases phase with
  | got conn => exact (same conn rfl).trans fits
  | sent conn => exact (same conn rfl).trans fits
  | reading conn request => exact ⟨fits.1, (same conn rfl).trans fits.2⟩
  | connecting => trivial
  | returned request whole => exact fits
  | failed => trivial
  | misused => exact fits

-- A step of one call, which leaves the connections of the others as they are.
theorem Orderly.update {state next : State} (orderly : Orderly state) {id : Nat} {call : Call}
    (calls : next.calls = Function.update state.calls id (some call))
    (made : state.made ≤ next.made) (pooled : ∀ entry ∈ next.pool, entry.conn < next.made)
    (kept : ∀ other conn, other ≠ id → Using state other conn →
      next.conns conn = state.conns conn)
    (idle : ∀ conn, next.made ≤ conn → next.conns conn = .idle)
    (takes : ∀ conn, call.phase.conn = some conn →
      conn < next.made ∧ ∀ other, other ≠ id → ¬Using state other conn)
    (fits : Fits next.conns id call.phase) : Orderly next := by
  have using_id (conn : Nat) (uses : Using next id conn) : call.phase.conn = some conn := by
    obtain ⟨current, is, holds⟩ := uses
    rw [calls, Function.update_self] at is
    exact Option.some.inj is ▸ holds
  have using_other (other conn : Nat) (different : other ≠ id) (uses : Using next other conn) :
      Using state other conn := by
    obtain ⟨current, is, holds⟩ := uses
    rw [calls, Function.update_of_ne different] at is
    exact ⟨current, is, holds⟩
  constructor
  · intro first second conn one two
    by_cases is_first : first = id
    · by_cases is_second : second = id
      · exact is_first.trans is_second.symm
      · subst is_first
        exact absurd (using_other second conn is_second two)
          ((takes conn (using_id conn one)).2 second is_second)
    · by_cases is_second : second = id
      · subst is_second
        exact absurd (using_other first conn is_first one)
          ((takes conn (using_id conn two)).2 first is_first)
      · exact orderly.apart first second conn (using_other first conn is_first one)
          (using_other second conn is_second two)
  · intro other current is
    by_cases same : other = id
    · subst same
      rw [calls, Function.update_self] at is
      exact Option.some.inj is ▸ fits
    · rw [calls, Function.update_of_ne same] at is
      exact (orderly.fits other current is).congr fun conn holds =>
        kept other conn same ⟨current, is, holds⟩
  · exact idle
  · intro other conn uses
    by_cases same : other = id
    · subst same
      exact (takes conn (using_id conn uses)).1
    · exact Nat.lt_of_lt_of_le (orderly.made other conn (using_other other conn same uses)) made
  · exact pooled

section Steps

variable {state : State} (orderly : Orderly state) {id : Nat} {call : Call}
include orderly

theorem Orderly.own_step {next : State} {conn : Nat} {value : ConnState} {current : Call}
    (is : state.calls id = some current) (holds : current.phase.conn = some conn)
    (conns : next.conns = Function.update state.conns conn value)
    (calls : next.calls = Function.update state.calls id (some call))
    (made : next.made = state.made) (pool : ∀ entry ∈ next.pool, entry ∈ state.pool)
    (keeps : ∀ other, call.phase.conn = some other → other = conn)
    (fits : Fits next.conns id call.phase) : Orderly next := by
  have uses : Using state id conn := ⟨current, is, holds⟩
  refine orderly.update calls (made ▸ Nat.le_refl _)
    (fun entry member => made ▸ orderly.pooled entry (pool entry member)) ?_ ?_ ?_ fits
  · rintro other busy different held
    rw [conns, Function.update_of_ne]
    rintro rfl
    exact different (orderly.apart other id busy held uses)
  · intro unused above
    rw [made] at above
    have inside := orderly.made id conn uses
    rw [conns, Function.update_of_ne (by omega)]
    exact orderly.idle unused above
  · intro other taken
    obtain rfl := keeps other taken
    refine ⟨made ▸ orderly.made id other uses, fun another different held => ?_⟩
    exact different (orderly.apart another id other held uses)

end Steps

theorem step_orderly {state next : State} {action : Action} (orderly : Orderly state)
    (careful : Careful state action) (taken : step state action = some next) : Orderly next := by
  cases action with
  | start id url =>
    simp only [step] at taken
    split at taken
    · obtain rfl := Option.some.inj taken
      exact orderly.update rfl (Nat.le_refl _) orderly.pooled (fun _ _ _ _ => rfl) orderly.idle
        (fun conn none_taken => by cases none_taken) trivial
    · cases taken
  | connect id now =>
    simp only [step] at taken
    split at taken
    · next url retried is =>
      obtain rfl := Option.some.inj taken
      obtain ⟨idle, unused, unsent⟩ := careful _ is
      obtain ⟨known, pooled⟩ := getConn_known state.pool state.made (connKey url) now
      dsimp only at idle unused unsent
      generalize getConn state.pool state.made (connKey url) now = lease at *
      have grown : state.made ≤ (if lease.conn = state.made then state.made + 1 else state.made) := by
        split_ifs <;> omega
      refine orderly.update rfl grown ?_ ?_ ?_ ?_ ?_
      · intro entry member
        dsimp only
        rcases pooled entry member with ⟨is_fresh, returned⟩ | ⟨other, there, same⟩
        · rw [is_fresh, if_pos returned]
          omega
        · rw [← same]
          exact Nat.lt_of_lt_of_le (orderly.pooled other there) grown
      · rintro other conn _ ⟨current, found, holds⟩
        dsimp only
        split_ifs with closed
        -- A connection that is closed before the request opens again by itself.
        · have fits := orderly.fits other current found
          rw [unsent conn closed other current found holds] at fits
          exact fits.symm
        · rfl
      · intro conn above
        dsimp only
        split_ifs
        · rfl
        · exact orderly.idle conn (Nat.le_trans grown above)
      · rintro conn returned
        obtain rfl := Option.some.inj returned
        refine ⟨?_, fun other _ => unused other⟩
        dsimp only
        rcases known with is_fresh | ⟨entry, there, same⟩
        · rw [if_pos is_fresh, is_fresh]
          omega
        · rw [← same] at grown ⊢
          exact Nat.lt_of_lt_of_le (orderly.pooled entry there) grown
      · simp only [Fits]
        split_ifs
        · rfl
        · exact idle
    · cases taken
  | request id =>
    simp only [step] at taken
    split at taken
    · next url retried conn is =>
      have ready : state.conns conn = .idle := orderly.fits id _ is
      rw [ready] at taken
      obtain rfl := Option.some.inj taken
      refine orderly.own_step is rfl rfl rfl rfl (fun _ member => member) ?_ ?_
      · intro other same
        exact (Option.some.inj same).symm
      · simp [State.move, State.setConn, Fits]
    · cases taken
  | getresponse id =>
    simp only [step] at taken
    split at taken
    · next url retried conn is =>
      have ready : state.conns conn = .sent id := orderly.fits id _ is
      rw [ready] at taken
      obtain rfl := Option.some.inj taken
      refine orderly.own_step is rfl rfl rfl rfl (fun _ member => member) ?_ ?_
      · intro other same
        exact (Option.some.inj same).symm
      · simp [State.move, State.setConn, Fits]
    · cases taken
  | read id =>
    simp only [step] at taken
    split at taken
    · next url retried conn request is =>
      obtain ⟨rfl, ready⟩ : request = id ∧ state.conns conn = .reading id id := orderly.fits id _ is
      rw [if_pos ready] at taken
      obtain rfl := Option.some.inj taken
      refine orderly.own_step is rfl rfl rfl rfl (fun _ member => member) ?_ ⟨rfl, rfl⟩
      intro other same
      cases same
    · cases taken
  | error id unfinished =>
    simp only [step] at taken
    split at taken
    · next url retried phase is =>
      split at taken
      · next conn holds =>
        obtain rfl := Option.some.inj taken
        refine orderly.own_step is holds rfl rfl rfl (fun _ member => (List.mem_filter.mp member).1)
          ?_ ?_
        · intro other same
          dsimp only at same
          split_ifs at same <;> cases same
        · dsimp only
          split_ifs <;> trivial
      · cases taken
    · cases taken

theorem careful_runs_sound (actions : List Action) (careful : Along step Careful start actions) :
    Throughout step Sound start actions := by
  have unused (id conn : Nat) : ¬Using start id conn := by
    rintro ⟨call, is, -⟩
    cases is
  have orderly : Orderly start :=
    { apart := fun first _ conn held => absurd held (unused first conn)
      fits := fun _ _ is => by cases is
      idle := fun _ _ => rfl
      made := fun id conn held => absurd held (unused id conn)
      pooled := fun entry member => by cases member }
  exact throughout_of_along
    (fun _ _ _ orderly careful taken => step_orderly orderly careful taken)
    (fun _ orderly => orderly.sound) orderly careful

def agentUrl : Url := ⟨"http", some "127.0.0.1", some 7777⟩

-- One call after the other, on one connection.
def oneByOne : List Action :=
  [.start 0 agentUrl, .connect 0 0, .request 0, .getresponse 0, .read 0,
    .start 1 agentUrl, .connect 1 1000, .request 1, .getresponse 1, .read 1]

theorem oneByOne_sound : Throughout step Sound start oneByOne := by
  refine careful_runs_sound oneByOne ?_
  refine .cons rfl trivial (.cons rfl ?_ (.cons rfl trivial (.cons rfl trivial (.cons rfl trivial
    (.cons rfl trivial (.cons rfl ?_ (.cons rfl trivial (.cons rfl trivial (.cons rfl trivial
      (.nil _))))))))))
  · intro call is
    have named : call = ⟨agentUrl, false, .connecting⟩ := (Option.some.inj is).symm
    subst named
    refine ⟨rfl, ?_, fun _ closed => absurd closed List.not_mem_nil⟩
    rintro other ⟨current, found, holds⟩
    simp only [Function.update_apply, start] at found
    split_ifs at found
    obtain rfl := Option.some.inj found
    cases holds
  · intro call is
    have named : call = ⟨agentUrl, false, .connecting⟩ := (Option.some.inj is).symm
    subst named
    refine ⟨rfl, ?_, fun _ closed => absurd closed List.not_mem_nil⟩
    rintro other ⟨current, found, holds⟩
    simp only [State.move, State.setConn, Function.update_apply, start] at found
    split_ifs at found
    · obtain rfl := Option.some.inj found
      cases holds
    · obtain rfl := Option.some.inj found
      cases holds

-- The second call gets the connection while the first one waits for its response.
def overlapping : List Action :=
  [.start 0 agentUrl, .connect 0 0, .request 0, .start 1 agentUrl, .connect 1 1000]

theorem overlapping_unsound : ¬Throughout step Sound start overlapping := by
  intro all
  have sound := throughout_iff_prefixes.mp all overlapping [] _ (List.append_nil _).symm rfl
  exact absurd (sound.apart 0 1 0 ⟨_, rfl, rfl⟩ ⟨_, rfl, rfl⟩) (by decide)

end SystemScale.Sdk.Pool
