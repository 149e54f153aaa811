import Mathlib.Data.List.Nodup
import SystemScale.Sdk.ConnectionPool

set_option autoImplicit false

/-!
# What the Python SDK's pool keeps and removes

A dead connection is removed under a key of its own making. The pool drops what was idle for too
long, and the connection used longest ago when there are too many.
-/

namespace SystemScale.Sdk.Pool

open Runs

/-! ## Removing a dead connection -/

/-- `_get_conn` and `_request` make one key of the URL: it names a host, and a port where the
scheme's is not 80. -/
def OneKey (url : Url) : Prop :=
  url.hostname ≠ none ∧ (schemeOf url = "https" → ∃ port, url.port = some port ∧ port ≠ 0)

theorem portOr_eq_iff {first second : Nat} (different : first ≠ second) (port : Option Nat) :
    portOr first port = portOr second port ↔ ∃ number, port = some number ∧ number ≠ 0 := by
  cases port with
  | none => simp [portOr, different]
  | some number =>
    by_cases zero : number = 0
    · simp [portOr, zero, different]
    · simp [portOr, zero]

theorem oneKey_iff (url : Url) : connKey url = errorKey url ↔ OneKey url := by
  have host : some (url.hostname.getD "localhost") = url.hostname ↔ url.hostname ≠ none := by
    cases url.hostname <;> simp
  rw [connKey, errorKey, Key.mk.injEq, OneKey, host]
  by_cases https : schemeOf url = "https"
  · simp [https, portOr_eq_iff]
  · simp [https]

/-! ## The three ways of a lease -/

def live (now : Int) (pool : List Entry) : List Entry :=
  pool.filter fun entry => ¬idleTtl < now - entry.ts

def staleConns (now : Int) (pool : List Entry) : List Nat :=
  (pool.filter fun entry => idleTtl < now - entry.ts).map Entry.conn

def touch (key : Key) (now : Int) (entry : Entry) : Entry :=
  if entry.key = key then { entry with ts := now } else entry

inductive Leases (pool : List Entry) (fresh : Nat) (key : Key) (now : Int) : Lease → Prop where
  | hit {entry : Entry} (member : entry ∈ live now pool) (same : entry.key = key) :
      Leases pool fresh key now
        ⟨(live now pool).map (touch key now), staleConns now pool, entry.conn⟩
  | evict {evicted : Entry} (absent : ∀ entry ∈ live now pool, entry.key ≠ key)
      (full : maxSize ≤ (live now pool).length) (first : oldest (live now pool) = some evicted) :
      Leases pool fresh key now
        ⟨(live now pool).filter (fun entry => entry.key ≠ evicted.key) ++ [⟨key, fresh, now⟩],
          staleConns now pool ++ [evicted.conn], fresh⟩
  | room (absent : ∀ entry ∈ live now pool, entry.key ≠ key)
      (below : (live now pool).length < maxSize) :
      Leases pool fresh key now ⟨live now pool ++ [⟨key, fresh, now⟩], staleConns now pool, fresh⟩

theorem oldest_none {pool : List Entry} (none_old : oldest pool = none) : pool = [] := by
  cases pool with
  | nil => rfl
  | cons entry rest =>
    rw [oldest] at none_old
    split at none_old
    · split_ifs at none_old
    · cases none_old

theorem oldest_spec {pool : List Entry} {entry : Entry} (is : oldest pool = some entry) :
    entry ∈ pool ∧ ∀ other ∈ pool, entry.ts ≤ other.ts := by
  induction pool generalizing entry with
  | nil => cases is
  | cons first rest ih =>
    rw [oldest] at is
    split at is
    · next other later =>
      obtain ⟨member, least⟩ := ih later
      split_ifs at is with older
      · obtain rfl := Option.some.inj is
        refine ⟨List.mem_cons_of_mem _ member, fun entry inside => ?_⟩
        rcases List.mem_cons.mp inside with rfl | behind
        · exact Int.le_of_lt older
        · exact least entry behind
      · obtain rfl := Option.some.inj is
        refine ⟨List.mem_cons_self, fun entry inside => ?_⟩
        rcases List.mem_cons.mp inside with rfl | behind
        · exact Int.le_refl _
        · exact Int.le_trans (Int.not_lt.mp older) (least entry behind)
    · next empty =>
      obtain rfl := Option.some.inj is
      rw [oldest_none empty]
      simp

theorem getConn_leases (pool : List Entry) (fresh : Nat) (key : Key) (now : Int) :
    Leases pool fresh key now (getConn pool fresh key now) := by
  unfold getConn
  dsimp only
  split
  · next found is =>
    have same : found.key = key := by simpa using List.find?_some is
    exact .hit (List.mem_of_find?_eq_some is) same
  · next missing =>
    have absent : ∀ entry ∈ live now pool, entry.key ≠ key := fun entry member => by
      simpa using List.find?_eq_none.mp missing entry member
    split
    · next evicted chosen =>
      split_ifs at chosen with full
      exact .evict absent full chosen
    · next chosen =>
      refine .room absent (Nat.not_le.mp fun full => ?_)
      change (if maxSize ≤ (live now pool).length then oldest (live now pool) else none) = none
        at chosen
      rw [if_pos full] at chosen
      rw [oldest_none chosen] at full
      exact absurd full (by decide)

theorem live_sub {now : Int} {pool : List Entry} {entry : Entry} (member : entry ∈ live now pool) :
    entry ∈ pool := (List.mem_filter.mp member).1

theorem mem_live {now : Int} {pool : List Entry} {entry : Entry} :
    entry ∈ live now pool ↔ entry ∈ pool ∧ now - entry.ts ≤ idleTtl := by
  rw [live, List.mem_filter]
  simp

@[simp] theorem touch_conn (key : Key) (now : Int) (entry : Entry) :
    (touch key now entry).conn = entry.conn := by
  rw [touch]
  split_ifs <;> rfl

@[simp] theorem touch_key (key : Key) (now : Int) (entry : Entry) :
    (touch key now entry).key = entry.key := by
  rw [touch]
  split_ifs <;> rfl

-- An entry of the new pool has the connection and the key of an old one, or is the fresh one.
theorem Leases.entry {pool : List Entry} {fresh : Nat} {key : Key} {now : Int} {lease : Lease}
    (leases : Leases pool fresh key now lease) {entry : Entry} (member : entry ∈ lease.pool) :
    (∃ old ∈ pool, old.conn = entry.conn ∧ old.key = entry.key) ∨
      entry = ⟨key, fresh, now⟩ ∧ lease.conn = fresh := by
  cases leases with
  | hit found same =>
    obtain ⟨old, before, rfl⟩ := List.mem_map.mp member
    exact .inl ⟨old, live_sub before, by simp⟩
  | evict absent full first =>
    rcases List.mem_append.mp member with old | new
    · exact .inl ⟨entry, live_sub (List.mem_filter.mp old).1, rfl, rfl⟩
    · exact .inr ⟨List.mem_singleton.mp new, rfl⟩
  | room absent below =>
    rcases List.mem_append.mp member with old | new
    · exact .inl ⟨entry, live_sub old, rfl, rfl⟩
    · exact .inr ⟨List.mem_singleton.mp new, rfl⟩

theorem Leases.conn {pool : List Entry} {fresh : Nat} {key : Key} {now : Int} {lease : Lease}
    (leases : Leases pool fresh key now lease) :
    (∃ old ∈ pool, old.conn = lease.conn ∧ old.key = key) ∨ lease.conn = fresh := by
  cases leases with
  | hit found same => exact .inl ⟨_, live_sub found, rfl, same⟩
  | evict absent full first => exact .inr rfl
  | room absent below => exact .inr rfl

/-- No later call gets the connection. -/
def Gone (conn : Nat) (state : State) : Prop :=
  conn < state.made ∧ ∀ entry ∈ state.pool, entry.conn ≠ conn

theorem Gone.lease {conn : Nat} {state : State} (gone : Gone conn state) (key : Key) (now : Int) :
    (getConn state.pool state.made key now).conn ≠ conn ∧
      ∀ entry ∈ (getConn state.pool state.made key now).pool, entry.conn ≠ conn := by
  obtain ⟨returned, pooled⟩ := getConn_known state.pool state.made key now
  obtain ⟨old, absent⟩ := gone
  constructor
  · rcases returned with fresh | ⟨entry, member, same⟩
    · omega
    · exact same ▸ absent entry member
  · intro entry member
    rcases pooled entry member with ⟨fresh, _⟩ | ⟨other, before, same⟩
    · omega
    · exact same ▸ absent other before

/-- Each connection stands under one key, and calls hold connections under the key of their URL. -/
structure Keyed (state : State) : Prop where
  made : ∀ entry ∈ state.pool, entry.conn < state.made
  one : ∀ entry ∈ state.pool, ∀ other ∈ state.pool, entry.conn = other.conn → entry.key = other.key
  held : ∀ id call conn, state.calls id = some call → call.phase.conn = some conn →
    conn < state.made ∧ ∀ entry ∈ state.pool, entry.conn = conn → entry.key = connKey call.url

theorem step_gone {conn : Nat} {state next : State} {action : Action} (gone : Gone conn state)
    (taken : step state action = some next) : Gone conn next := by
  cases action with
  | start id url =>
    simp only [step] at taken
    split at taken
    · exact Option.some.inj taken ▸ gone
    · cases taken
  | connect id now =>
    simp only [step] at taken
    split at taken
    · next url retried is =>
      obtain rfl := Option.some.inj taken
      refine ⟨?_, (gone.lease _ _).2⟩
      dsimp only
      split_ifs
      · exact Nat.lt_succ_of_lt gone.1
      · exact gone.1
    · cases taken
  | request id =>
    simp only [step] at taken
    split at taken
    · split at taken <;> exact Option.some.inj taken ▸ gone
    · cases taken
  | getresponse id =>
    simp only [step] at taken
    split at taken
    · split at taken <;> exact Option.some.inj taken ▸ gone
    · cases taken
  | read id =>
    simp only [step] at taken
    split at taken
    · split_ifs at taken <;> exact Option.some.inj taken ▸ gone
    · cases taken
  | error id unfinished =>
    simp only [step] at taken
    split at taken
    · split at taken
      · obtain rfl := Option.some.inj taken
        exact ⟨gone.1, fun entry member => gone.2 entry (List.mem_filter.mp member).1⟩
      · cases taken
    · cases taken

theorem Keyed.update {state next : State} (keyed : Keyed state) {id : Nat} {call : Call}
    (calls : next.calls = Function.update state.calls id (some call))
    (made : next.made = state.made) (pool : ∀ entry ∈ next.pool, entry ∈ state.pool)
    (kept : ∀ conn, call.phase.conn = some conn →
      ∃ old, state.calls id = some old ∧ old.phase.conn = some conn ∧ old.url = call.url) :
    Keyed next := by
  refine ⟨fun entry member => made ▸ keyed.made entry (pool entry member),
    fun entry member other also => keyed.one entry (pool entry member) other (pool other also), ?_⟩
  intro other current conn is holds
  have before : ∃ old, state.calls other = some old ∧ old.phase.conn = some conn ∧
      old.url = current.url := by
    rw [calls] at is
    by_cases same : other = id
    · subst same
      rw [Function.update_self] at is
      obtain rfl := Option.some.inj is
      exact kept conn holds
    · rw [Function.update_of_ne same] at is
      exact ⟨current, is, holds, rfl⟩
  obtain ⟨old, was, held, url⟩ := before
  obtain ⟨less, under⟩ := keyed.held other old conn was held
  exact ⟨made ▸ less, fun entry member => url ▸ under entry (pool entry member)⟩

-- A call that has no connection in hand.
theorem Keyed.rests {state next : State} (keyed : Keyed state) {id : Nat} {call : Call}
    (rest : call.phase.conn = none)
    (calls : next.calls = Function.update state.calls id (some call))
    (made : next.made = state.made) (pool : next.pool = state.pool) : Keyed next := by
  refine keyed.update calls made (fun entry member => pool ▸ member) fun conn holds => ?_
  rw [rest] at holds
  cases holds

theorem Keyed.connect {state next : State} (keyed : Keyed state) {id : Nat} {url : Url}
    {retried : Bool} {now : Int} {lease : Lease}
    (leases : Leases state.pool state.made (connKey url) now lease)
    (pool : next.pool = lease.pool)
    (made : next.made = if lease.conn = state.made then state.made + 1 else state.made)
    (calls : next.calls = Function.update state.calls id (some ⟨url, retried, .got lease.conn⟩)) :
    Keyed next := by
  have grows : state.made ≤ next.made := by
    rw [made]
    split_ifs <;> omega
  have known : lease.conn < next.made := by
    rcases leases.conn with ⟨old, member, same, _⟩ | fresh
    · exact same ▸ Nat.lt_of_lt_of_le (keyed.made old member) grows
    · rw [made, if_pos fresh, fresh]
      exact Nat.lt_succ_self _
  have entries : ∀ entry ∈ next.pool, (∃ old ∈ state.pool, old.conn = entry.conn ∧
      old.key = entry.key) ∨ entry = ⟨connKey url, state.made, now⟩ ∧ lease.conn = state.made :=
    fun entry member => leases.entry (pool ▸ member)
  refine ⟨fun entry member => ?_, fun entry member other also same => ?_, ?_⟩
  · rcases entries entry member with ⟨old, before, is, _⟩ | ⟨rfl, fresh⟩
    · exact is ▸ Nat.lt_of_lt_of_le (keyed.made old before) grows
    · exact fresh ▸ known
  · rcases entries entry member with ⟨old, before, is, key⟩ | ⟨rfl, _⟩ <;>
      rcases entries other also with ⟨old', before', is', key'⟩ | ⟨rfl, _⟩
    · rw [← key, ← key']
      exact keyed.one old before old' before' (by rw [is, is', same])
    · have less := keyed.made old before
      rw [is, same] at less
      exact absurd less (Nat.lt_irrefl _)
    · have less := keyed.made old' before'
      rw [is', ← same] at less
      exact absurd less (Nat.lt_irrefl _)
    · rfl
  · intro other current conn is holds
    rw [calls] at is
    by_cases here : other = id
    · subst here
      rw [Function.update_self] at is
      obtain rfl := Option.some.inj is
      obtain rfl : lease.conn = conn := Option.some.inj holds
      refine ⟨known, fun entry member same => ?_⟩
      rcases entries entry member with ⟨old, before, is, key⟩ | ⟨rfl, _⟩
      · rw [← key]
        rcases leases.conn with ⟨found, inside, found_is, found_key⟩ | fresh
        · exact (keyed.one old before found inside (by rw [is, same, found_is])).trans found_key
        · have less := keyed.made old before
          rw [is, same, fresh] at less
          exact absurd less (Nat.lt_irrefl _)
      · rfl
    · rw [Function.update_of_ne here] at is
      obtain ⟨less, under⟩ := keyed.held other current conn is holds
      refine ⟨Nat.lt_of_lt_of_le less grows, fun entry member same => ?_⟩
      rcases entries entry member with ⟨old, before, was, key⟩ | ⟨rfl, _⟩
      · exact key ▸ under old before (was.trans same)
      · exact absurd (same ▸ less) (Nat.lt_irrefl _)

theorem step_keyed {state next : State} {action : Action} (keyed : Keyed state)
    (taken : step state action = some next) : Keyed next := by
  cases action with
  | start id url =>
    simp only [step] at taken
    split at taken
    · obtain rfl := Option.some.inj taken
      exact keyed.rests rfl rfl rfl rfl
    · cases taken
  | connect id now =>
    simp only [step] at taken
    split at taken
    · next url retried is =>
      obtain rfl := Option.some.inj taken
      exact keyed.connect (getConn_leases state.pool state.made (connKey url) now) rfl rfl rfl
    · cases taken
  | request id =>
    simp only [step] at taken
    split at taken
    · next url retried conn is =>
      split at taken
      · obtain rfl := Option.some.inj taken
        exact keyed.update rfl rfl (fun _ member => member) fun other same => ⟨_, is, same, rfl⟩
      · obtain rfl := Option.some.inj taken
        exact keyed.rests rfl rfl rfl rfl
    · cases taken
  | getresponse id =>
    simp only [step] at taken
    split at taken
    · next url retried conn is =>
      split at taken
      · obtain rfl := Option.some.inj taken
        exact keyed.update rfl rfl (fun _ member => member) fun other same => ⟨_, is, same, rfl⟩
      · obtain rfl := Option.some.inj taken
        exact keyed.rests rfl rfl rfl rfl
    · cases taken
  | read id =>
    simp only [step] at taken
    split at taken
    · split_ifs at taken <;>
      · obtain rfl := Option.some.inj taken
        exact keyed.rests rfl rfl rfl rfl
    · cases taken
  | error id unfinished =>
    simp only [step] at taken
    split at taken
    · next url retried phase is =>
      split at taken
      · obtain rfl := Option.some.inj taken
        refine keyed.update rfl rfl (fun entry member => (List.mem_filter.mp member).1) ?_
        intro conn holds
        dsimp only at holds
        split_ifs at holds <;> cases holds
      · cases taken
    · cases taken

/-- In every run, a connection on which a request of the URL met an error is not in the pool any
more, and no call gets it again. -/
def Removed (url : Url) : Prop :=
  ∀ (actions : List Action) (state next : State) (id : Nat) (call : Call) (conn : Nat)
    (unfinished : Bool), exec step start actions = some state → state.calls id = some call →
    call.url = url → call.phase.conn = some conn → step state (.error id unfinished) = some next →
    (∀ entry ∈ next.pool, entry.conn ≠ conn) ∧
      ∀ (more : List Action) (later : State), exec step next more = some later →
        ∀ now, (getConn later.pool later.made (connKey url) now).conn ≠ conn

theorem start_keyed : Keyed start :=
  ⟨fun _ member => (nomatch member), fun _ member => (nomatch member), fun _ _ _ is => nomatch is⟩

theorem first_connection (url : Url) : ∃ state, exec step start [.start 0 url, .connect 0 0] =
    some state ∧ state.calls 0 = some ⟨url, false, .got 0⟩ ∧
      state.pool = [⟨connKey url, 0, 0⟩] :=
  ⟨_, rfl, rfl, rfl⟩

theorem dead_kept {url : Url} (different : connKey url ≠ errorKey url) : ¬Removed url := by
  intro removed
  obtain ⟨state, ran, is, pool⟩ := first_connection url
  let next : State :=
    { state with
      pool := state.pool.filter fun entry => entry.key ≠ errorKey url
      conns := Function.update state.conns 0 .idle
      calls := Function.update state.calls 0 (some ⟨url, true, .connecting⟩) }
  have failed : step state (.error 0 false) = some next := by simp [step, is, Phase.conn, next]
  have gone := (removed _ state next 0 _ 0 false ran is rfl rfl failed).1
  refine gone ⟨connKey url, 0, 0⟩ (List.mem_filter.mpr ⟨?_, by simpa using different⟩) rfl
  rw [pool]
  exact List.mem_singleton.mpr rfl

theorem removed_iff (url : Url) : Removed url ↔ OneKey url := by
  rw [← oneKey_iff]
  constructor
  · intro removed
    by_contra different
    exact dead_kept different removed
  · intro same actions state next id call conn unfinished reached is of holds taken
    have keyed : Keyed state :=
      exec_invariant (fun _ _ _ keyed taken => step_keyed keyed taken) start_keyed reached
    obtain ⟨less, under⟩ := keyed.held id call conn is holds
    have gone : Gone conn next := by
      simp only [step, is, holds] at taken
      obtain rfl := Option.some.inj taken
      refine ⟨less, fun entry member same_conn => ?_⟩
      obtain ⟨inside, other⟩ := List.mem_filter.mp member
      rw [of] at other under
      have key := under entry inside same_conn
      rw [key, same] at other
      simp at other
    refine ⟨gone.2, fun more later ran now => ?_⟩
    have stays : Gone conn later :=
      exec_invariant (fun _ _ _ gone taken => step_gone gone taken) gone ran
    exact (stays.lease _ now).1

def gatewayUrl : Url := ⟨"https", some "gateway.example", none⟩

/-- The second attempt gets the connection that has just failed. -/
theorem dead_connection_again : ∃ state, exec step start
    [.start 0 gatewayUrl, .connect 0 0, .error 0 false, .connect 0 0] = some state ∧
      state.calls 0 = some ⟨gatewayUrl, true, .got 0⟩ ∧ ¬Removed gatewayUrl := by
  exact ⟨_, rfl, rfl, dead_kept (by decide)⟩

/-! ## Bounds -/

/-- The calls of `_get_conn`, with the time that they read, and the removals after an error. -/
inductive Use where
  | get (url : Url) (now : Int)
  | remove (url : Url)

/-- `used` is no part of the program: when a connection was returned last. -/
structure Shelf where
  pool : List Entry
  made : Nat
  clock : Int
  used : Nat → Int

def Shelf.lease (shelf : Shelf) (url : Url) (now : Int) : Lease :=
  getConn shelf.pool shelf.made (connKey url) now

def use (shelf : Shelf) : Use → Option Shelf
  | .get url now =>
    if now < shelf.clock then none
    else
      let lease := shelf.lease url now
      some
        { pool := lease.pool
          made := if lease.conn = shelf.made then shelf.made + 1 else shelf.made
          clock := now
          used := Function.update shelf.used lease.conn now }
  | .remove url =>
    some { shelf with pool := shelf.pool.filter fun entry => entry.key ≠ errorKey url }

def empty (clock : Int) : Shelf := ⟨[], 0, clock, fun _ => clock⟩

/-- The connection has not been idle for more than a minute. -/
def Shelf.Live (shelf : Shelf) (now : Int) (conn : Nat) : Prop :=
  now - shelf.used conn ≤ idleTtl

/-- A connection that was not idle for too long and is not in the pool after the call. -/
def Shelf.Evicts (shelf : Shelf) (url : Url) (now : Int) (entry : Entry) : Prop :=
  entry ∈ shelf.pool ∧ shelf.Live now entry.conn ∧
    ∀ other ∈ (shelf.lease url now).pool, other.conn ≠ entry.conn

structure Upkeep (shelf : Shelf) (url : Url) (now : Int) : Prop where
  bounded : shelf.pool.length ≤ maxSize ∧ (shelf.lease url now).pool.length ≤ maxSize
  /-- A connection that is handed out is new, or it was in the pool and not idle for too long. -/
  handed : (shelf.lease url now).conn = shelf.made ∨
    (∃ entry ∈ shelf.pool, entry.conn = (shelf.lease url now).conn ∧ entry.key = connKey url) ∧
      shelf.Live now (shelf.lease url now).conn
  reused : ∀ entry ∈ shelf.pool, entry.key = connKey url → shelf.Live now entry.conn →
    (shelf.lease url now).conn = entry.conn
  /-- Nothing is evicted but the connection used longest ago, from a full pool. -/
  oldest : ∀ entry, shelf.Evicts url now entry →
    entry.conn ≠ (shelf.lease url now).conn ∧ maxSize ≤ (live now shelf.pool).length ∧
      ∀ other ∈ shelf.pool, shelf.Live now other.conn →
        shelf.used entry.conn ≤ shelf.used other.conn
  one : ∀ entry other, shelf.Evicts url now entry → shelf.Evicts url now other → entry = other
  must : (∀ entry ∈ shelf.pool, shelf.Live now entry.conn → entry.key ≠ connKey url) →
    maxSize ≤ (live now shelf.pool).length → ∃ entry, shelf.Evicts url now entry

/-- What holds between calls. -/
structure Kept (shelf : Shelf) : Prop where
  keys : (shelf.pool.map Entry.key).Nodup
  conns : (shelf.pool.map Entry.conn).Nodup
  bounded : shelf.pool.length ≤ maxSize
  made : ∀ entry ∈ shelf.pool, entry.conn < shelf.made
  used : ∀ entry ∈ shelf.pool, entry.ts = shelf.used entry.conn

theorem empty_kept (clock : Int) : Kept (empty clock) :=
  ⟨List.nodup_nil, List.nodup_nil, Nat.zero_le _, fun _ member => (nomatch member),
    fun _ member => (nomatch member)⟩

section Steps

variable {shelf next : Shelf} {now : Int}

theorem Kept.same_key (kept : Kept shelf) {entry other : Entry} (member : entry ∈ shelf.pool)
    (also : other ∈ shelf.pool) (same : entry.key = other.key) : entry = other :=
  List.inj_on_of_nodup_map kept.keys member also same

theorem Kept.same_conn (kept : Kept shelf) {entry other : Entry} (member : entry ∈ shelf.pool)
    (also : other ∈ shelf.pool) (same : entry.conn = other.conn) : entry = other :=
  List.inj_on_of_nodup_map kept.conns member also same

theorem Kept.live_iff (kept : Kept shelf) {entry : Entry} (member : entry ∈ shelf.pool) :
    entry ∈ live now shelf.pool ↔ shelf.Live now entry.conn := by
  rw [mem_live, Shelf.Live, ← kept.used entry member]
  exact and_iff_right member

theorem Kept.live_length (kept : Kept shelf) : (live now shelf.pool).length ≤ maxSize :=
  Nat.le_trans (List.length_filter_le _ _) kept.bounded

-- Every entry that is live stays, but for one that makes room.
theorem Kept.upkeep (kept : Kept shelf) (url : Url) : Upkeep shelf url now := by
  have leases : Leases shelf.pool shelf.made (connKey url) now (shelf.lease url now) :=
    getConn_leases shelf.pool shelf.made (connKey url) now
  have room : (live now shelf.pool).length ≤ maxSize := kept.live_length
  generalize same : shelf.lease url now = lease at leases
  cases leases with
  | @hit found member key =>
    have inside := live_sub member
    have none_goes : ∀ entry, ¬shelf.Evicts url now entry := by
      rintro entry ⟨there, alive, gone⟩
      rw [same] at gone
      refine gone _ (List.mem_map_of_mem ((kept.live_iff there).mpr alive)) ?_
      rw [touch_conn]
    refine ⟨⟨kept.bounded, ?_⟩, .inr ⟨⟨found, inside, ?_, key⟩, ?_⟩, ?_,
      fun entry evicts => absurd evicts (none_goes entry),
      fun entry _ evicts => absurd evicts (none_goes entry), fun absent => ?_⟩
    · rw [same]
      simpa using room
    · rw [same]
    · rw [same]
      exact (kept.live_iff inside).mp member
    · intro entry there other _
      rw [same, kept.same_key there inside (other.trans key.symm)]
    · exact absurd key (absent found inside ((kept.live_iff inside).mp member))
  | @evict evicted absent full first =>
    obtain ⟨member, least⟩ := oldest_spec first
    have inside := live_sub member
    have is_evicted : ∀ entry, shelf.Evicts url now entry → entry = evicted := by
      rintro entry ⟨there, alive, gone⟩
      by_contra other
      rw [same] at gone
      refine gone entry (List.mem_append_left _ (List.mem_filter.mpr
        ⟨(kept.live_iff there).mpr alive, ?_⟩)) rfl
      simpa using fun key => other (kept.same_key there inside key)
    have goes : shelf.Evicts url now evicted := by
      refine ⟨inside, (kept.live_iff inside).mp member, fun other there conn => ?_⟩
      rw [same] at there
      rcases List.mem_append.mp there with old | new
      · obtain ⟨before, key⟩ := List.mem_filter.mp old
        rw [kept.same_conn (live_sub before) inside conn] at key
        simp at key
      · obtain rfl := List.mem_singleton.mp new
        exact absurd (conn ▸ kept.made evicted inside) (Nat.lt_irrefl _)
    refine ⟨⟨kept.bounded, ?_⟩, .inl (by rw [same]), ?_, ?_, ?_, fun _ _ => ⟨evicted, goes⟩⟩
    · have fewer : ((live now shelf.pool).filter fun entry => entry.key ≠ evicted.key).length <
          (live now shelf.pool).length :=
        List.length_filter_lt_length_iff_exists.mpr ⟨evicted, member, by simp⟩
      rw [same, List.length_append, List.length_singleton]
      omega
    · exact fun entry there key alive =>
        absurd key (absent entry ((kept.live_iff there).mpr alive))
    · intro entry evicts
      obtain rfl := is_evicted entry evicts
      refine ⟨?_, full, fun other there alive => ?_⟩
      · rw [same]
        exact Nat.ne_of_lt (kept.made entry inside)
      · have older := least other ((kept.live_iff there).mpr alive)
        rwa [kept.used entry inside, kept.used other there] at older
    · exact fun entry other first second =>
        (is_evicted entry first).trans (is_evicted other second).symm
  | room absent below =>
    have none_goes : ∀ entry, ¬shelf.Evicts url now entry := by
      rintro entry ⟨there, alive, gone⟩
      rw [same] at gone
      exact gone entry (List.mem_append_left _ ((kept.live_iff there).mpr alive)) rfl
    refine ⟨⟨kept.bounded, ?_⟩, .inl (by rw [same]), ?_,
      fun entry evicts => absurd evicts (none_goes entry),
      fun entry _ evicts => absurd evicts (none_goes entry),
      fun _ full => absurd full (Nat.not_le.mpr below)⟩
    · rw [same, List.length_append, List.length_singleton]
      omega
    · exact fun entry there key alive =>
        absurd key (absent entry ((kept.live_iff there).mpr alive))

-- A fresh connection comes behind some of the entries.
theorem Kept.add (kept : Kept shelf) {pool : List Entry} {key : Key}
    (sub : pool.Sublist shelf.pool) (absent : ∀ entry ∈ pool, entry.key ≠ key)
    (room : pool.length < maxSize) (now_pool : next.pool = pool ++ [⟨key, shelf.made, now⟩])
    (now_made : next.made = shelf.made + 1)
    (now_used : next.used = Function.update shelf.used shelf.made now) : Kept next := by
  have made : ∀ entry ∈ pool, entry.conn < shelf.made :=
    fun entry member => kept.made entry (sub.subset member)
  constructor
  · rw [now_pool, List.map_append, List.nodup_append]
    refine ⟨(sub.map Entry.key).nodup kept.keys, List.nodup_singleton _, ?_⟩
    rintro first inside second last
    obtain ⟨entry, member, rfl⟩ := List.mem_map.mp inside
    rw [List.mem_singleton.mp last]
    exact absent entry member
  · rw [now_pool, List.map_append, List.nodup_append]
    refine ⟨(sub.map Entry.conn).nodup kept.conns, List.nodup_singleton _, ?_⟩
    rintro first inside second last
    obtain ⟨entry, member, rfl⟩ := List.mem_map.mp inside
    rw [List.mem_singleton.mp last]
    exact Nat.ne_of_lt (made entry member)
  · rw [now_pool, List.length_append, List.length_singleton]
    exact room
  · intro entry member
    rw [now_pool] at member
    rw [now_made]
    rcases List.mem_append.mp member with old | new
    · exact Nat.lt_succ_of_lt (made entry old)
    · obtain rfl := List.mem_singleton.mp new
      exact Nat.lt_succ_self _
  · intro entry member
    rw [now_pool] at member
    rw [now_used]
    rcases List.mem_append.mp member with old | new
    · rw [Function.update_of_ne (Nat.ne_of_lt (made entry old))]
      exact kept.used entry (sub.subset old)
    · obtain rfl := List.mem_singleton.mp new
      simp

-- A connection that is used again has its time set.
theorem Kept.touch (kept : Kept shelf) {found : Entry} (inside : found ∈ shelf.pool)
    (now_pool : next.pool = (live now shelf.pool).map (touch found.key now))
    (now_made : next.made = shelf.made)
    (now_used : next.used = Function.update shelf.used found.conn now) : Kept next := by
  have sub : (live now shelf.pool).Sublist shelf.pool := List.filter_sublist
  have keys : (next.pool.map Entry.key) = (live now shelf.pool).map Entry.key := by
    rw [now_pool, List.map_map]
    exact List.map_congr_left fun entry _ => touch_key _ _ entry
  have conns : (next.pool.map Entry.conn) = (live now shelf.pool).map Entry.conn := by
    rw [now_pool, List.map_map]
    exact List.map_congr_left fun entry _ => touch_conn _ _ entry
  constructor
  · rw [keys]
    exact (sub.map _).nodup kept.keys
  · rw [conns]
    exact (sub.map _).nodup kept.conns
  · rw [now_pool, List.length_map]
    exact kept.live_length
  · intro entry member
    rw [now_pool] at member
    obtain ⟨old, before, rfl⟩ := List.mem_map.mp member
    rw [now_made, touch_conn]
    exact kept.made old (live_sub before)
  · intro entry member
    rw [now_pool] at member
    obtain ⟨old, before, rfl⟩ := List.mem_map.mp member
    rw [now_used, touch_conn]
    by_cases same : old = found
    · rw [same, Function.update_self, Pool.touch, if_pos rfl]
    · have key : old.key ≠ found.key :=
        fun key => same (kept.same_key (live_sub before) inside key)
      have conn : old.conn ≠ found.conn :=
        fun conn => same (kept.same_conn (live_sub before) inside conn)
      rw [Function.update_of_ne conn, Pool.touch, if_neg key]
      exact kept.used old (live_sub before)

theorem use_kept {action : Use} (kept : Kept shelf) (taken : use shelf action = some next) :
    Kept next := by
  cases action with
  | remove url =>
    obtain rfl := Option.some.inj taken
    have sub : (shelf.pool.filter fun entry => entry.key ≠ errorKey url).Sublist shelf.pool :=
      List.filter_sublist
    exact ⟨(sub.map _).nodup kept.keys, (sub.map _).nodup kept.conns,
      Nat.le_trans sub.length_le kept.bounded,
      fun entry member => kept.made entry (sub.subset member),
      fun entry member => kept.used entry (sub.subset member)⟩
  | get url now =>
    simp only [use] at taken
    split at taken
    · cases taken
    · have made := congrArg Shelf.made (Option.some.inj taken)
      have used := congrArg Shelf.used (Option.some.inj taken)
      have pool := congrArg Shelf.pool (Option.some.inj taken)
      have leases : Leases shelf.pool shelf.made (connKey url) now (shelf.lease url now) :=
        getConn_leases shelf.pool shelf.made (connKey url) now
      have room : (live now shelf.pool).length ≤ maxSize := kept.live_length
      have sub : (live now shelf.pool).Sublist shelf.pool := List.filter_sublist
      dsimp only at made used pool
      generalize shelf.lease url now = lease at *
      cases leases with
      | @hit found member key =>
        have inside := live_sub member
        rw [if_neg (Nat.ne_of_lt (kept.made found inside))] at made
        exact kept.touch inside (key ▸ pool.symm) made.symm used.symm
      | @evict evicted absent full first =>
        have fewer : ((live now shelf.pool).filter fun entry => entry.key ≠ evicted.key).length <
            (live now shelf.pool).length :=
          List.length_filter_lt_length_iff_exists.mpr ⟨evicted, (oldest_spec first).1, by simp⟩
        rw [if_pos rfl] at made
        exact kept.add (List.filter_sublist.trans sub)
          (fun entry member => absent entry (List.mem_filter.mp member).1)
          (Nat.lt_of_lt_of_le fewer room) pool.symm made.symm used.symm
      | room absent below =>
        rw [if_pos rfl] at made
        exact kept.add sub absent below pool.symm made.symm used.symm

/-- After any uses of the pool with a clock that does not go back, the next call keeps to them. -/
theorem pool_upkeep {clock : Int} {actions : List Use}
    (reached : exec use (empty clock) actions = some shelf) (url : Url) (now : Int) :
    Upkeep shelf url now :=
  (exec_invariant (fun _ _ _ kept taken => use_kept kept taken) (empty_kept clock) reached).upkeep
    url

end Steps

def oneUse : Shelf := ⟨[⟨connKey agentUrl, 0, 0⟩], 1, 0, Function.update (fun _ => 0) 0 0⟩

theorem half_minute_reused : (oneUse.lease agentUrl 30000000000).conn = 0 :=
  (pool_upkeep (rfl : exec use (empty 0) [.get agentUrl 0] = some oneUse) agentUrl
    30000000000).reused ⟨connKey agentUrl, 0, 0⟩ (List.mem_singleton.mpr rfl) rfl
      (by unfold Shelf.Live; decide)

end SystemScale.Sdk.Pool
