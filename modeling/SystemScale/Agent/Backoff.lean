import Mathlib.Algebra.Group.Nat.Defs
import SystemScale.Agent.TransportLoop

set_option autoImplicit false

/-!
# Delays between connections

The loop of `run_transport_loop` with a count of its failures. A delay is to start from
`initial_backoff_ms` after a connection, to double with each failure, and to stay at the cap.
-/

namespace SystemScale.Agent.TransportLoop

open Runs

/-- `entropy` is the part of a second that the clock shows, in nanoseconds. -/
def randJitter (maxMs entropy : UInt64) : UInt64 :=
  if maxMs = 0 then 0 else entropy % (maxMs + 1)

/-- What the loop sleeps, in milliseconds. -/
def State.delay (state : State) (entropy : UInt64) : UInt64 :=
  state.backoffMs + randJitter (state.backoffMs / 4) entropy

structure History where
  loop : State
  -- Since a handshake completed.
  failures : Nat
  sleeps : Nat

namespace History

def start (config : QuicTransportConfig) : History := ⟨TransportLoop.start config, 0, 0⟩

def failuresAfter (history : History) (next : State) : Action → Nat
  | .handshake true => 0
  | .store => if next.phase = .sleeping then history.failures + 1 else history.failures
  | _ => history.failures

def sleepsAfter (history : History) : Action → Nat
  | .wake => history.sleeps + 1
  | _ => history.sleeps

def step (config : QuicTransportConfig) (history : History) (action : Action) : Option History := do
  let loop ← TransportLoop.step config history.loop action
  some ⟨loop, history.failuresAfter loop action, history.sleepsAfter action⟩

/-- The delay that is due without jitter, after so many failures in a row. -/
def due (config : QuicTransportConfig) (failures : Nat) : Nat :=
  min (config.initialBackoffMs.toNat * 2 ^ (failures - 1)) config.maxBackoffMs.toNat

structure DelayBounded (config : QuicTransportConfig) (history : History) (entropy : UInt64) :
    Prop where
  sum : history.loop.backoffMs.toNat +
    (randJitter (history.loop.backoffMs / 4) entropy).toNat < 2 ^ 64
  double : history.loop.backoffMs.toNat * 2 < 2 ^ 64
  least : due config history.failures ≤ (history.loop.delay entropy).toNat
  most : 4 * (history.loop.delay entropy).toNat ≤ 5 * due config history.failures
  capped : 4 * (history.loop.delay entropy).toNat ≤ 5 * config.maxBackoffMs.toNat

/-- Whatever the clock shows, the sleep is as long as it should be. -/
def InBounds (config : QuicTransportConfig) (history : History) : Prop :=
  history.loop.phase = .sleeping →
    ∀ entropy : UInt64, entropy.toNat < 10 ^ 9 → DelayBounded config history entropy

/-- The initial delay doubled and capped after each of so many sleeps. -/
def doubled (config : QuicTransportConfig) (sleeps : Nat) : Nat :=
  if sleeps = 0 then config.initialBackoffMs.toNat
  else min (config.initialBackoffMs.toNat * 2 ^ sleeps) config.maxBackoffMs.toNat

/-- At a failure, the delay of all the sleeps so far is that of the failures since the last
handshake. A jitter stays below 10^9 ms, so a very long delay may be more. -/
def Steady (config : QuicTransportConfig) (history : History) (action : Action) : Prop :=
  action = .store → history.loop.phase = .returned false →
    doubled config history.sleeps < 2 ^ 63 ∧
      (doubled config history.sleeps = due config (history.failures + 1) ∨
        4 * (doubled config history.sleeps + 999999999) ≤ 5 * due config (history.failures + 1))

/-! ## One sleep -/

theorem randJitter_le (maxMs entropy : UInt64) (room : maxMs.toNat < 2 ^ 62) :
    (randJitter maxMs entropy).toNat ≤ maxMs.toNat ∧
      (randJitter maxMs entropy).toNat ≤ entropy.toNat := by
  unfold randJitter
  split_ifs
  · simp
  · have next : (maxMs + 1).toNat = maxMs.toNat + 1 := by
      rw [UInt64.toNat_add]
      exact Nat.mod_eq_of_lt (by simp; omega)
    rw [UInt64.toNat_mod, next]
    exact ⟨Nat.le_of_lt_succ (Nat.mod_lt _ (Nat.succ_pos _)), Nat.mod_le _ _⟩

-- Each jitter up to the bound is that of a clock.
theorem randJitter_of_le {maxMs jitter : UInt64} (room : maxMs.toNat < 2 ^ 62)
    (inside : jitter.toNat ≤ maxMs.toNat) : randJitter maxMs jitter = jitter := by
  apply UInt64.toNat_inj.mp
  unfold randJitter
  split_ifs with none
  · rw [none] at inside
    exact (Nat.le_zero.mp inside).symm
  · have next : (maxMs + 1).toNat = maxMs.toNat + 1 := by
      rw [UInt64.toNat_add]
      exact Nat.mod_eq_of_lt (by simp; omega)
    rw [UInt64.toNat_mod, next, Nat.mod_eq_of_lt (by omega)]

section Sleep

variable {config : QuicTransportConfig} {history : History}

theorem quarter_toNat (backoffMs : UInt64) : (backoffMs / 4).toNat = backoffMs.toNat / 4 := by
  rw [UInt64.toNat_div]
  rfl

theorem delay_toNat {state : State} {entropy : UInt64}
    (sum : state.backoffMs.toNat + (randJitter (state.backoffMs / 4) entropy).toNat < 2 ^ 64) :
    (state.delay entropy).toNat =
      state.backoffMs.toNat + (randJitter (state.backoffMs / 4) entropy).toNat := by
  rw [State.delay, UInt64.toNat_add]
  exact Nat.mod_eq_of_lt sum

-- A delay that is not less than what is due is within bounds for every clock exactly if it is
-- what is due, or long.
theorem bounded_iff (least : due config history.failures ≤ history.loop.backoffMs.toNat) :
    (∀ entropy : UInt64, entropy.toNat < 10 ^ 9 → DelayBounded config history entropy) ↔
      history.loop.backoffMs.toNat < 2 ^ 63 ∧
        (history.loop.backoffMs.toNat = due config history.failures ∨
          4 * (history.loop.backoffMs.toNat + 999999999) ≤ 5 * due config history.failures) := by
  have quarter := quarter_toNat history.loop.backoffMs
  have word := history.loop.backoffMs.toNat_lt
  have room : (history.loop.backoffMs / 4).toNat < 2 ^ 62 := by omega
  constructor
  · intro bounded
    -- The longest jitter: a quarter of the delay, or the last nanosecond.
    have longest : min (history.loop.backoffMs.toNat / 4) 999999999 < 2 ^ 64 := by omega
    have shown : (UInt64.ofNat (min (history.loop.backoffMs.toNat / 4) 999999999)).toNat =
        min (history.loop.backoffMs.toNat / 4) 999999999 := UInt64.toNat_ofNat_of_lt' longest
    have bound := bounded (UInt64.ofNat (min (history.loop.backoffMs.toNat / 4) 999999999))
      (by omega)
    have jitter := randJitter_of_le room
      (show (UInt64.ofNat (min (history.loop.backoffMs.toNat / 4) 999999999)).toNat ≤ _ by omega)
    have delay := delay_toNat bound.sum
    have double := bound.double
    have most := bound.most
    rw [jitter, shown] at delay
    omega
  · rintro ⟨double, exact_or_long⟩ entropy second
    have jitter := randJitter_le (history.loop.backoffMs / 4) entropy room
    have sum : history.loop.backoffMs.toNat +
        (randJitter (history.loop.backoffMs / 4) entropy).toNat < 2 ^ 64 := by omega
    have delay := delay_toNat sum
    have most : 4 * (history.loop.delay entropy).toNat ≤ 5 * due config history.failures := by
      rcases exact_or_long with same | long <;> omega
    refine ⟨sum, by omega, by omega, most, ?_⟩
    have cap : due config history.failures ≤ config.maxBackoffMs.toNat := Nat.min_le_right _ _
    omega

end Sleep

/-! ## The steps of the loop -/

section Steps

variable {config : QuicTransportConfig} {state next : State} {action : Action}

-- Only a wake changes the backoff, and only a connection that failed goes to sleep.
theorem step_cases (moved : TransportLoop.step config state action = some next) :
    (action = .wake ∧ state.phase = .sleeping ∧ next.phase ≠ .sleeping ∧
      next.backoffMs = min (state.backoffMs * 2) config.maxBackoffMs) ∨
    (action = .store ∧ state.phase = .returned false ∧ next.phase = .sleeping ∧
      next.backoffMs = state.backoffMs) ∨
    (action ≠ .wake ∧ (action = .store → state.phase ≠ .returned false) ∧
      next.backoffMs = state.backoffMs ∧
      (next.phase = .sleeping ↔ state.phase = .sleeping) ∧
      (next.phase = .sleeping → action = .lost)) := by
  cases step_change moved with
  | connect connecting => simp [connecting]
  | refuse connecting => simp [State.ret, connecting]
  | lose => simp
  | openBi opening =>
    simp only [opened]
    split_ifs <;> simp [opening]
  | openFails opening => simp [State.ret, opening]
  | join clean serving => simp [State.ret, serving]
  | @store clean returned => cases clean <;> simp [returned]
  | wake sleeping => simp [sleeping]

end Steps

/-- The backoff is that of the sleeps so far, and each failure in a row has had its sleep, the last
one excepted. -/
structure Counted (config : QuicTransportConfig) (history : History) : Prop where
  backoff : history.loop.backoffMs.toNat = doubled config history.sleeps
  awake : history.loop.phase ≠ .sleeping → history.failures ≤ history.sleeps
  asleep : history.failures ≤ history.sleeps + 1

section Counts

variable {config : QuicTransportConfig} {history next : History} {action : Action}

theorem doubled_succ (config : QuicTransportConfig) (sleeps : Nat) :
    doubled config (sleeps + 1) = min (doubled config sleeps * 2) config.maxBackoffMs.toNat := by
  have power : config.initialBackoffMs.toNat * 2 ^ (sleeps + 1) =
      config.initialBackoffMs.toNat * 2 ^ sleeps * 2 := by rw [Nat.pow_succ, Nat.mul_assoc]
  unfold doubled
  rw [if_neg (Nat.succ_ne_zero sleeps), power]
  split_ifs with none
  · rw [none, Nat.pow_zero, Nat.mul_one]
  · omega

theorem due_le_doubled (few : history.failures ≤ history.sleeps + 1) :
    due config history.failures ≤ doubled config history.sleeps := by
  have powers : config.initialBackoffMs.toNat * 2 ^ (history.failures - 1) ≤
      config.initialBackoffMs.toNat * 2 ^ history.sleeps :=
    Nat.mul_le_mul_left _ (Nat.pow_le_pow_right (by decide) (by omega))
  unfold due doubled
  split_ifs with none
  · rw [none, Nat.pow_zero, Nat.mul_one] at powers
    omega
  · omega

theorem step_eq (moved : step config history action = some next) :
    TransportLoop.step config history.loop action = some next.loop ∧
      next.failures = history.failuresAfter next.loop action ∧
      next.sleeps = history.sleepsAfter action := by
  rw [step, Option.bind_eq_bind, Option.bind_eq_some_iff] at moved
  obtain ⟨loop, taken, same⟩ := moved
  cases same
  exact ⟨taken, rfl, rfl⟩

theorem failuresAfter_le (history : History) {next : State} (quiet : next.phase ≠ .sleeping) :
    history.failuresAfter next action ≤ history.failures := by
  unfold failuresAfter
  split
  next => exact Nat.zero_le _
  next => exact Nat.le_of_eq (if_neg quiet)
  next => exact Nat.le_refl _

theorem sleepsAfter_other (history : History) (other : action ≠ .wake) :
    history.sleepsAfter action = history.sleeps := by
  unfold sleepsAfter
  split
  · exact absurd rfl other
  · rfl

theorem toNat_min (first second : UInt64) :
    (min first second).toNat = min first.toNat second.toNat := by
  by_cases less : first ≤ second
  · have smaller : min first second = first := if_pos less
    rw [smaller, Nat.min_def, if_pos (UInt64.le_iff_toNat_le.mp less)]
  · have smaller : min first second = second := if_neg less
    rw [smaller, Nat.min_def, if_neg (mt UInt64.le_iff_toNat_le.mpr less)]

theorem Counted.step (counted : Counted config history) (bounds : InBounds config history)
    (moved : step config history action = some next) : Counted config next := by
  obtain ⟨taken, failures, sleeps⟩ := step_eq moved
  have before := counted.asleep
  rcases step_cases taken with ⟨rfl, asleep, awake, backoff⟩ | ⟨rfl, returned, asleep, backoff⟩ |
    ⟨other, _, backoff, phase, lost⟩
  · have double : history.loop.backoffMs.toNat * 2 < 2 ^ 64 := (bounds asleep 0 (by decide)).double
    have after : next.sleeps = history.sleeps + 1 := sleeps
    have fewer := @failuresAfter_le .wake history _ awake
    refine ⟨?_, fun _ => by omega, by omega⟩
    have doubles : (history.loop.backoffMs * 2).toNat = history.loop.backoffMs.toNat * 2 := by
      rw [UInt64.toNat_mul]
      exact Nat.mod_eq_of_lt double
    rw [after, doubled_succ, ← counted.backoff, backoff, ← doubles]
    exact toNat_min _ _
  · have after : next.sleeps = history.sleeps := sleeps
    have more : next.failures = history.failures + 1 := by
      rw [failures, failuresAfter, if_pos asleep]
    have few := counted.awake (by rw [returned]; decide)
    exact ⟨by rw [after, backoff, counted.backoff], fun awake => absurd asleep awake, by omega⟩
  · have after : next.sleeps = history.sleeps := by rw [sleeps, sleepsAfter_other history other]
    have same : next.loop.backoffMs.toNat = doubled config next.sleeps := by
      rw [after, backoff, counted.backoff]
    by_cases asleep : next.loop.phase = .sleeping
    · obtain rfl := lost asleep
      have kept : next.failures = history.failures := failures
      exact ⟨same, fun awake => absurd asleep awake, by omega⟩
    · have fewer := @failuresAfter_le action history _ asleep
      have few := counted.awake (mt phase.mpr asleep)
      exact ⟨same, fun _ => by omega, by omega⟩

theorem inBounds_congr (backoff : next.loop.backoffMs = history.loop.backoffMs)
    (failures : next.failures = history.failures) {entropy : UInt64}
    (bounded : DelayBounded config history entropy) : DelayBounded config next entropy := by
  have delay : next.loop.delay entropy = history.loop.delay entropy := by
    rw [State.delay, backoff, State.delay]
  obtain ⟨sum, double, least, most, capped⟩ := bounded
  constructor
  · rwa [backoff]
  · rwa [backoff]
  · rwa [delay, failures]
  · rwa [delay, failures]
  · rwa [delay]

theorem step_inBounds_iff (counted : Counted config history) (bounds : InBounds config history)
    (moved : step config history action = some next) :
    InBounds config next ↔ Steady config history action := by
  have later := counted.step bounds moved
  obtain ⟨taken, failures, sleeps⟩ := step_eq moved
  rcases step_cases taken with ⟨rfl, _, awake, _⟩ | ⟨rfl, returned, asleep, backoff⟩ |
    ⟨_, kept, backoff, phase, lost⟩
  · exact iff_of_true (fun asleep => absurd asleep awake) nofun
  · have after : next.sleeps = history.sleeps := sleeps
    have more : next.failures = history.failures + 1 := by
      rw [failures, failuresAfter, if_pos asleep]
    have least : due config next.failures ≤ next.loop.backoffMs.toNat := by
      rw [later.backoff]
      exact due_le_doubled later.asleep
    have same := later.backoff
    rw [after] at same
    have all : InBounds config next ↔
        ∀ entropy : UInt64, entropy.toNat < 10 ^ 9 → DelayBounded config next entropy :=
      ⟨fun inBounds => inBounds asleep, fun bounded _ => bounded⟩
    rw [all, bounded_iff least, same, more]
    exact ⟨fun steady _ _ => steady, fun steady => steady rfl returned⟩
  · refine iff_of_true (fun asleep entropy second => ?_) fun stores returned =>
      absurd returned (kept stores)
    obtain rfl := lost asleep
    exact inBounds_congr backoff failures (bounds (phase.mp asleep) entropy second)

end Counts

/-- In a run every delay is within bounds exactly if every failure is steady. -/
theorem delays_bounded_iff (config : QuicTransportConfig) (actions : List Action) :
    Throughout (step config) (InBounds config) (start config) actions ↔
      Along (step config) (Steady config) (start config) actions := by
  have counted : Counted config (start config) := ⟨rfl, fun _ => Nat.le_refl _, Nat.zero_le _⟩
  have bounds : InBounds config (start config) := nofun
  refine throughout_iff_along ?_ ?_ counted bounds
  · intro history action next counted bounds _ moved
    exact counted.step bounds moved
  · intro history action next counted bounds moved
    exact step_inBounds_iff counted bounds moved

-- After a connection, the second failure waits for 500 ms at least, where 250 are due.
theorem delay_kept_after_connection :
    ¬ ∀ (config : QuicTransportConfig) (actions : List Action),
      Throughout (step config) (InBounds config) (start config) actions := by
  intro always
  have run := always {} [.handshake false, .store, .wake, .handshake true, .openBi false, .store]
  rw [throughout_iff_prefixes] at run
  have bounds := run _ [] _ (List.append_nil _).symm rfl
  have most := (bounds rfl 0 (by decide)).most
  exact absurd most (by decide)

end History

end SystemScale.Agent.TransportLoop
