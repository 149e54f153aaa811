import SystemScale.Relay.Subscriptions

set_option autoImplicit false

/-!
# The rate limit of a vehicle

Every task keeps the time of its own last frame, so the tasks of one vehicle are limited one by one.
A window has both its ends, and times are in nanoseconds as before.
-/

namespace SystemScale.Relay

open Runs

def second : Nat := 1000000000

/-- The tasks of an operator in time. `put` is no part of the program: the telemetry frames that got
onto the channel, with their vehicle and time. -/
structure Traffic where
  operator : Operator
  clock : Nat
  put : List (String × Nat)

namespace Traffic

inductive Action where
  | pass (elapsed : Nat)
  | message (subject : String) (payload : List UInt8)
  | sent

def putBy (traffic : Traffic) (task : Subscription) (next : Operator) : List (String × Nat) :=
  if task.decodeAsEvent = false ∧ traffic.operator.frames.length < next.frames.length then
    traffic.put ++ [(task.vehicleId, traffic.clock)]
  else traffic.put

def step (cfg : WsGatewayConfig) (traffic : Traffic) : Action → Option Traffic
  | .pass elapsed => some { traffic with clock := traffic.clock + elapsed }
  | .message subject payload => do
    let task ← traffic.operator.active subject
    let operator ← Operator.step cfg traffic.operator (.message subject payload traffic.clock)
    some { traffic with operator := operator, put := traffic.putBy task operator }
  | .sent => do
    let operator ← Operator.step cfg traffic.operator .sent
    some { traffic with operator := operator }

/-- When the frames of a vehicle were put on the channel. -/
def times (traffic : Traffic) (vehicleId : String) : List Nat :=
  (traffic.put.filter fun frame => frame.1 = vehicleId).map Prod.snd

end Traffic

/-- At most `max(max_hz, 1) + 1` of the times are within any second. -/
def WithinLimit (cfg : WsGatewayConfig) (times : List Nat) : Prop :=
  ∀ since, (times.filter fun time => since ≤ time ∧ time ≤ since + second).length ≤
    max cfg.maxHz 1 + 1

/-- A running task that forwards telemetry of the vehicle. -/
def Operator.Watches (operator : Operator) (vehicleId subject : String) : Prop :=
  ∃ task, operator.active subject = some task ∧ task.phase = .running ∧
    task.decodeAsEvent = false ∧ task.vehicleId = vehicleId

/-- One task at most, and no place in a second for one frame more than the limit and its ends. -/
def Limited (cfg : WsGatewayConfig) (operator : Operator) (vehicleId : String) : Prop :=
  (∀ subject other, operator.Watches vehicleId subject → operator.Watches vehicleId other →
    subject = other) ∧
  ((∃ subject, operator.Watches vehicleId subject) →
    1000 < (max cfg.maxHz 1 + 1) * (1000 / max cfg.maxHz 1))

/-! ## Times apart -/

theorem spaced_span {gap first last : Nat} {between : List Nat}
    (spaced : (first :: between ++ [last]).Pairwise fun early late => early + gap ≤ late) :
    first + (between.length + 1) * gap ≤ last := by
  induction between generalizing first with
  | nil => simpa using spaced
  | cons next rest ih =>
    obtain ⟨before, later⟩ := List.pairwise_cons.mp spaced
    have step := before next (by simp)
    have further := ih later
    simp only [List.length_cons, Nat.add_mul, Nat.one_mul] at further ⊢
    omega

-- So many times are at least so long.
theorem spaced_length {gap since length : Nat} {times : List Nat}
    (spaced : times.Pairwise fun early late => early + gap ≤ late)
    (within : ∀ time ∈ times, since ≤ time ∧ time ≤ since + length) :
    (times.length - 1) * gap ≤ length := by
  cases times with
  | nil => simp
  | cons first rest =>
    rcases List.eq_nil_or_concat rest with rfl | ⟨between, last, rfl⟩
    · simp
    · have span := spaced_span (by simpa using spaced)
      have start := within first (by simp)
      have stop := within last (by simp)
      simp only [List.length_cons, List.length_concat, Nat.add_sub_cancel] at span ⊢
      omega

theorem minInterval_pos {cfg : WsGatewayConfig}
    (fits : 1000 < (max cfg.maxHz 1 + 1) * (1000 / max cfg.maxHz 1)) : 0 < minInterval cfg := by
  unfold minInterval
  refine Nat.mul_pos (Nat.pos_of_ne_zero fun zero => ?_) (by decide)
  rw [zero] at fits
  omega

theorem withinLimit_of_spaced {cfg : WsGatewayConfig} {times : List Nat}
    (fits : 1000 < (max cfg.maxHz 1 + 1) * (1000 / max cfg.maxHz 1))
    (spaced : times.Pairwise fun early late => early + minInterval cfg ≤ late) :
    WithinLimit cfg times := by
  intro since
  by_contra beyond
  have inside (time : Nat)
      (member : time ∈ times.filter fun time => since ≤ time ∧ time ≤ since + second) :
      since ≤ time ∧ time ≤ since + second := by simpa using (List.mem_filter.mp member).2
  have long := spaced_length (spaced.filter _) inside
  have more : max cfg.maxHz 1 + 1 ≤
      (times.filter fun time => since ≤ time ∧ time ≤ since + second).length - 1 := by omega
  have least := Nat.mul_le_mul_right (minInterval cfg) more
  have scaled : (max cfg.maxHz 1 + 1) * minInterval cfg =
      (max cfg.maxHz 1 + 1) * (1000 / max cfg.maxHz 1) * 1000000 := by
    rw [minInterval, Nat.mul_assoc]
  rw [scaled] at least
  have whole : second = 1000 * 1000000 := rfl
  omega

/-! ## One task -/

-- A telemetry task passes a message over, or takes it when its interval is over.
theorem receive_raw {cfg : WsGatewayConfig} {task : Subscription} (frames : List WsFrame)
    (payload : List UInt8) (now : Nat) (raw : task.decodeAsEvent = false) :
    task.receive cfg frames payload now = (task, frames) ∨
      minInterval cfg ≤ now - task.lastSent ∧
        (task.receive cfg frames payload now).1.lastSent = now := by
  simp only [Subscription.receive, raw, Bool.false_eq_true, if_false]
  by_cases early : now - task.lastSent < minInterval cfg
  · exact .inl (if_pos early)
  · rw [if_neg early]
    refine .inr ⟨Nat.not_lt.mp early, ?_⟩
    cases task.format with
    | binary => rfl
    | json =>
      cases envelopeToJsonFrame payload with
      | ok answer => cases answer <;> rfl
      | _ => rfl

namespace Traffic

theorem times_append (traffic : Traffic) (vehicleId other : String) :
    ({ traffic with put := traffic.put ++ [(other, traffic.clock)] } : Traffic).times vehicleId =
      if other = vehicleId then traffic.times vehicleId ++ [traffic.clock]
      else traffic.times vehicleId := by
  by_cases same : other = vehicleId <;> simp [times, List.filter_append, same]

section Steps

variable {cfg : WsGatewayConfig} {traffic next : Traffic} {vehicleId : String}
  {first : Operator}

theorem step_message {subject : String} {payload : List UInt8}
    (moved : step cfg traffic (.message subject payload) = some next) :
    ∃ task, traffic.operator.active subject = some task ∧ task.phase = .running ∧
      next.clock = traffic.clock ∧ next.put = traffic.putBy task next.operator ∧
      next.operator =
        { traffic.operator.set subject
            (some (task.receive cfg traffic.operator.frames payload traffic.clock).1) with
          frames := (task.receive cfg traffic.operator.frames payload traffic.clock).2 } := by
  obtain ⟨task, held, moved⟩ := Option.bind_eq_some_iff.mp moved
  obtain ⟨operator, taken, moved⟩ := Option.bind_eq_some_iff.mp moved
  obtain rfl := Option.some.inj moved
  rcases Operator.step_cases taken with ⟨entry, is, _⟩ | ⟨frames, messageless, _⟩ |
    ⟨other, messageless, _⟩ | ⟨other, _, now, _, is, _⟩ | ⟨other, data, now, found, is, running, same, rfl⟩
  · cases is
  · exact absurd rfl (messageless _ _ _)
  · exact absurd rfl (messageless _ _ _)
  · cases is
  · obtain ⟨rfl, rfl, rfl⟩ := Operator.Action.message.inj same
    obtain rfl := Option.some.inj (held.symm.trans is)
    exact ⟨task, held, running, rfl, rfl, rfl⟩

theorem step_sent (moved : step cfg traffic .sent = some next) :
    next.clock = traffic.clock ∧ next.put = traffic.put ∧
      next.operator.active = traffic.operator.active := by
  obtain ⟨operator, taken, moved⟩ := Option.bind_eq_some_iff.mp moved
  obtain rfl := Option.some.inj moved
  refine ⟨rfl, rfl, ?_⟩
  simp only [Operator.step] at taken
  cases frames : traffic.operator.frames with
  | nil => simp [frames] at taken
  | cons frame rest =>
    simp only [frames, Option.some.injEq] at taken
    rw [← taken]

/-- The frames of the vehicle are an interval apart, and its task has seen them all go. -/
structure Spaced (cfg : WsGatewayConfig) (vehicleId : String) (first : Operator)
    (traffic : Traffic) : Prop where
  watched : ∀ subject, traffic.operator.Watches vehicleId subject → first.Watches vehicleId subject
  gaps : (traffic.times vehicleId).Pairwise fun early late => early + minInterval cfg ≤ late
  before : ∀ subject task, traffic.operator.active subject = some task →
    task.decodeAsEvent = false → task.vehicleId = vehicleId → task.phase = .running →
    ∀ time ∈ traffic.times vehicleId, time ≤ task.lastSent
  source : traffic.times vehicleId ≠ [] → ∃ subject, first.Watches vehicleId subject

theorem Spaced.same (spaced : Spaced cfg vehicleId first traffic)
    (active : next.operator.active = traffic.operator.active) (put : next.put = traffic.put) :
    Spaced cfg vehicleId first next := by
  have times : next.times vehicleId = traffic.times vehicleId := by rw [Traffic.times, put]; rfl
  refine ⟨?_, times ▸ spaced.gaps, ?_, ?_⟩
  · rintro subject ⟨task, held, rest⟩
    exact spaced.watched subject ⟨task, active ▸ held, rest⟩
  · rw [active, times]
    exact spaced.before
  · rw [times]
    exact spaced.source

theorem message_watched (spaced : Spaced cfg vehicleId first traffic) {subject : String}
    {payload : List UInt8} (moved : step cfg traffic (.message subject payload) = some next)
    (other : String) (watches : next.operator.Watches vehicleId other) :
    first.Watches vehicleId other := by
  obtain ⟨task, held, running, _, _, is⟩ := step_message moved
  obtain ⟨found, found_held, _, raw, named⟩ := watches
  have kept := Operator.receive_keeps cfg task traffic.operator.frames payload traffic.clock
  rw [is] at found_held
  have now := (Operator.active_set traffic.operator subject other _).symm.trans found_held
  split_ifs at now with same
  · obtain rfl := Option.some.inj now
    rw [same]
    exact spaced.watched subject ⟨task, held, running, kept.2.symm.trans raw, kept.1.symm.trans named⟩
  · exact spaced.watched other ⟨found, now, ‹_›, raw, named⟩

theorem times_of_put (traffic : Traffic) {frames : List (String × Nat)} (is : next.put = frames) :
    next.times vehicleId = ({ traffic with put := frames } : Traffic).times vehicleId := by
  rw [times, is]
  rfl

-- A message of another vehicle or of a task that decodes events.
theorem foreign_spaced (spaced : Spaced cfg vehicleId first traffic) {subject : String}
    {payload : List UInt8} (moved : step cfg traffic (.message subject payload) = some next)
    {task : Subscription} (held : traffic.operator.active subject = some task)
    (foreign : ¬(task.decodeAsEvent = false ∧ task.vehicleId = vehicleId)) :
    Spaced cfg vehicleId first next := by
  have watched := message_watched spaced moved
  obtain ⟨found, is, running, _, put, operator⟩ := step_message moved
  obtain rfl := Option.some.inj (held.symm.trans is)
  have times : next.times vehicleId = traffic.times vehicleId := by
    rw [times_of_put traffic put, putBy]
    split_ifs with grown
    · rw [times_append, if_neg fun same => foreign ⟨grown.1, same⟩]
    · rfl
  refine ⟨watched, times ▸ spaced.gaps, ?_, times ▸ spaced.source⟩
  intro other found found_held raw named
  rw [times]
  have kept := Operator.receive_keeps cfg task traffic.operator.frames payload traffic.clock
  rw [operator] at found_held
  have now := (Operator.active_set traffic.operator subject other _).symm.trans found_held
  split_ifs at now with same
  · obtain rfl := Option.some.inj now
    exact absurd ⟨kept.2.symm.trans raw, kept.1.symm.trans named⟩ foreign
  · exact spaced.before other found now raw named

-- A message of the one task that watches the vehicle.
theorem own_spaced (limited : Limited cfg first vehicleId)
    (spaced : Spaced cfg vehicleId first traffic) {subject : String} {payload : List UInt8}
    (moved : step cfg traffic (.message subject payload) = some next)
    {task : Subscription} (held : traffic.operator.active subject = some task)
    (raw : task.decodeAsEvent = false) (named : task.vehicleId = vehicleId) :
    Spaced cfg vehicleId first next := by
  have watched := message_watched spaced moved
  obtain ⟨found, is, running, _, put, operator⟩ := step_message moved
  obtain rfl := Option.some.inj (held.symm.trans is)
  have watches := spaced.watched subject ⟨task, held, running, raw, named⟩
  rcases receive_raw traffic.operator.frames payload traffic.clock raw with beyond | ⟨late, sent⟩
  · -- Nothing happens.
    rw [beyond] at operator
    refine spaced.same ?_ ?_
    · rw [operator]
      exact Function.update_eq_self_iff.mpr held.symm
    · rw [put, putBy, operator, if_neg fun grown => Nat.lt_irrefl _ grown.2]
  · have early := spaced.before subject task held raw named running
    have interval := minInterval_pos (limited.2 ⟨subject, watches⟩)
    have apart : ∀ time ∈ traffic.times vehicleId, time + minInterval cfg ≤ traffic.clock := by
      intro time member
      have before := early time member
      omega
    have times : next.times vehicleId = traffic.times vehicleId ∨
        next.times vehicleId = traffic.times vehicleId ++ [traffic.clock] := by
      rw [times_of_put traffic put, putBy]
      split_ifs with grown
      · exact .inr (by rw [times_append, if_pos named])
      · exact .inl rfl
    refine ⟨watched, ?_, ?_, fun _ => ⟨subject, watches⟩⟩
    · rcases times with same | more
      · exact same ▸ spaced.gaps
      · rw [more, List.pairwise_append]
        refine ⟨spaced.gaps, List.pairwise_singleton _ _, ?_⟩
        intro time member last is_last
        rw [List.mem_singleton.mp is_last]
        exact apart time member
    · intro other found found_held found_raw found_named found_running time member
      -- Another task would watch the vehicle as well.
      obtain rfl := limited.1 other subject
        (watched other ⟨found, found_held, found_running, found_raw, found_named⟩) watches
      rw [operator] at found_held
      have now := (Operator.active_set traffic.operator other other _).symm.trans found_held
      rw [if_pos rfl] at now
      rw [← Option.some.inj now, sent]
      rcases times with same | more
      · have before := apart time (same ▸ member)
        omega
      · rw [more, List.mem_append, List.mem_singleton] at member
        rcases member with earlier | rfl
        · have before := apart time earlier
          omega
        · exact Nat.le_refl _

theorem step_spaced {action : Action} (limited : Limited cfg first vehicleId)
    (spaced : Spaced cfg vehicleId first traffic) (moved : step cfg traffic action = some next) :
    Spaced cfg vehicleId first next := by
  cases action with
  | pass elapsed =>
    obtain rfl := Option.some.inj moved
    exact spaced.same rfl rfl
  | sent =>
    obtain ⟨_, put, active⟩ := step_sent moved
    exact spaced.same active put
  | message subject payload =>
    obtain ⟨task, held, _⟩ := step_message moved
    by_cases own : task.decodeAsEvent = false ∧ task.vehicleId = vehicleId
    · exact own_spaced limited spaced moved held own.1 own.2
    · exact foreign_spaced spaced moved held own

theorem limited_within (limited : Limited cfg first vehicleId) {clock : Nat}
    {actions : List Action} {final : Traffic}
    (ran : exec (step cfg) ⟨first, clock, []⟩ actions = some final) :
    WithinLimit cfg (final.times vehicleId) := by
  have begun : Spaced cfg vehicleId first ⟨first, clock, []⟩ :=
    ⟨fun _ watches => watches, List.Pairwise.nil,
      fun _ _ _ _ _ _ _ member => absurd member List.not_mem_nil, fun filled => absurd rfl filled⟩
  have spaced : Spaced cfg vehicleId first final :=
    exec_invariant (fun _ _ _ => step_spaced limited) begun ran
  by_cases empty : final.times vehicleId = []
  · rw [empty]
    exact fun since => Nat.zero_le _
  · exact withinLimit_of_spaced (limited.2 (spaced.source empty)) spaced.gaps

end Steps

/-! ## Messages at the fastest -/

section Rounds

variable {cfg : WsGatewayConfig} {traffic : Traffic} {task : Subscription} {subject : String}

/-- A message that comes when the interval is over, and the time until the next. -/
def round (subject : String) (gap : Nat) : List Action :=
  [.message subject [], .sent, .pass gap]

theorem receive_late {now : Nat} (raw : task.decodeAsEvent = false)
    (late : minInterval cfg ≤ now - task.lastSent) :
    ∃ frame, task.receive cfg [] [] now = ({ task with lastSent := now }, [frame]) := by
  simp only [Subscription.receive, raw, Bool.false_eq_true, if_false, if_neg (Nat.not_lt.mpr late)]
  cases task.format with
  | binary => exact ⟨_, rfl⟩
  | json => exact ⟨_, rfl⟩

theorem operator_message {operator : Operator} (payload : List UInt8) (now : Nat)
    (held : operator.active subject = some task) (running : task.phase = .running) :
    Operator.step cfg operator (.message subject payload now) =
      some { operator.set subject (some (task.receive cfg operator.frames payload now).1) with
        frames := (task.receive cfg operator.frames payload now).2 } := by
  obtain ⟨vehicleId, decodes, format, lastSent, phase⟩ := task
  obtain rfl : phase = .running := running
  simp only [Operator.step, held]

theorem exec_round (cfg : WsGatewayConfig) (gap : Nat) (empty : traffic.operator.frames = [])
    (held : traffic.operator.active subject = some task) (running : task.phase = .running)
    (raw : task.decodeAsEvent = false) (late : minInterval cfg ≤ traffic.clock - task.lastSent) :
    ∃ next, exec (step cfg) traffic (round subject gap) = some next ∧
      next.operator.frames = [] ∧ next.clock = traffic.clock + gap ∧
      next.operator.active = Function.update traffic.operator.active subject
        (some { task with lastSent := traffic.clock }) ∧
      next.put = traffic.put ++ [(task.vehicleId, traffic.clock)] := by
  obtain ⟨frame, taken⟩ := receive_late raw late
  obtain ⟨vehicleId, decodes, format, lastSent, phase⟩ := task
  obtain rfl : phase = .running := running
  obtain rfl : decodes = false := raw
  let taking : Traffic :=
    { operator := { traffic.operator.set subject
          (some ⟨vehicleId, false, format, traffic.clock, .running⟩) with frames := [frame] }
      clock := traffic.clock
      put := traffic.put ++ [(vehicleId, traffic.clock)] }
  let drained : Traffic := { taking with operator := { taking.operator with frames := [] } }
  have received : step cfg traffic (.message subject []) = some taking := by
    have operated : Operator.step cfg traffic.operator (.message subject [] traffic.clock) = _ :=
      operator_message [] traffic.clock held rfl
    rw [empty, taken] at operated
    simp only [step, held, operated, Option.bind_eq_bind, Option.bind_some]
    simp [putBy, empty, taking]
  have sent : step cfg taking .sent = some drained := by
    simp [step, Operator.step, taking, drained]
  have passed : step cfg drained (.pass gap) = some { drained with clock := drained.clock + gap } := by
    simp only [step]
  refine ⟨{ drained with clock := drained.clock + gap }, ?_, rfl, rfl, rfl, rfl⟩
  rw [round, exec_cons, received, Option.bind_some, exec_cons, sent, Option.bind_some, exec_cons,
    passed, Option.bind_some, exec_nil]

theorem exec_rounds (cfg : WsGatewayConfig) (count : Nat) (empty : traffic.operator.frames = [])
    (held : traffic.operator.active subject = some task) (running : task.phase = .running)
    (raw : task.decodeAsEvent = false) (late : minInterval cfg ≤ traffic.clock - task.lastSent) :
    ∃ final, exec (step cfg) traffic
        (List.replicate count (round subject (minInterval cfg))).flatten = some final ∧
      final.times task.vehicleId = traffic.times task.vehicleId ++
        (List.range count).map fun place => traffic.clock + place * minInterval cfg := by
  -- As a product with a number, the interval would be unfolded.
  obtain ⟨gap, is⟩ : ∃ gap, minInterval cfg = gap := ⟨_, rfl⟩
  rw [is] at late ⊢
  induction count generalizing traffic task with
  | zero => exact ⟨traffic, rfl, by simp⟩
  | succ count ih =>
    obtain ⟨next, ran, empty_next, clock, active, put⟩ :=
      exec_round cfg gap empty held running raw (is.trans_le late)
    have held_next : next.operator.active subject =
        some { task with lastSent := traffic.clock } := by rw [active, Function.update_self]
    obtain ⟨final, later, times⟩ := ih empty_next held_next running raw (by rw [clock]; simp)
    refine ⟨final, ?_, ?_⟩
    · rw [List.replicate_succ, List.flatten_cons]
      exact (exec_after ran _).trans later
    · rw [times, times_of_put traffic put, times_append, if_pos rfl, List.range_succ_eq_map,
        List.append_assoc]
      congr 1
      simp only [List.map_cons, List.map_map, List.singleton_append, Nat.zero_mul, Nat.add_zero]
      congr 1
      refine List.map_congr_left fun place _ => ?_
      simp only [Function.comp_apply, clock, Nat.succ_mul]
      omega

theorem exec_drain (cfg : WsGatewayConfig) (traffic : Traffic) :
    ∃ final, exec (step cfg) traffic
        (List.replicate traffic.operator.frames.length .sent) = some final ∧
      final.operator.frames = [] ∧ final.operator.active = traffic.operator.active ∧
      final.clock = traffic.clock ∧ final.put = traffic.put := by
  obtain ⟨frames, are⟩ : ∃ frames, traffic.operator.frames = frames := ⟨_, rfl⟩
  rw [are]
  induction frames generalizing traffic with
  | nil => exact ⟨traffic, rfl, are, rfl, rfl, rfl⟩
  | cons frame rest ih =>
    have sent : step cfg traffic .sent =
        some { traffic with operator := { traffic.operator with frames := rest } } := by
      simp [step, Operator.step, are]
    obtain ⟨final, ran, same⟩ :=
      ih { traffic with operator := { traffic.operator with frames := rest } } rfl
    refine ⟨final, ?_, same⟩
    rw [List.length_cons, List.replicate_succ, exec_cons, sent]
    exact ran

theorem exec_wait (cfg : WsGatewayConfig) (operator : Operator) (clock wait : Nat) :
    ∃ actions waited, exec (step cfg) ⟨operator, clock, []⟩ actions = some waited ∧
      waited.operator.frames = [] ∧ waited.operator.active = operator.active ∧
      wait ≤ waited.clock ∧ waited.put = [] := by
  obtain ⟨drained, ran, empty, active, _, put⟩ := exec_drain cfg ⟨operator, clock, []⟩
  refine ⟨List.replicate operator.frames.length .sent ++ [.pass wait],
    { drained with clock := drained.clock + wait }, ?_, empty, active, ?_, put⟩
  · rw [exec_append, ran]
    rfl
  · exact Nat.le_add_left wait drained.clock

theorem over_limit (since : Nat) {times : List Nat}
    (many : max cfg.maxHz 1 + 1 < times.length)
    (within : ∀ time ∈ times, since ≤ time ∧ time ≤ since + second) :
    ¬WithinLimit cfg times := by
  intro limited
  have all := limited since
  rw [List.filter_eq_self.mpr fun time member => by simpa using within time member] at all
  omega

-- A round that starts in the second is in it when its beginning and its length are.
theorem rounds_within {since count : Nat} (short : (count - 1) * minInterval cfg ≤ second) :
    ∀ time ∈ (List.range count).map fun place => since + place * minInterval cfg,
      since ≤ time ∧ time ≤ since + second := by
  intro time member
  obtain ⟨place, inside, rfl⟩ := List.mem_map.mp member
  have few := List.mem_range.mp inside
  have part := Nat.mul_le_mul_right (minInterval cfg) (Nat.le_sub_one_of_lt few)
  omega

theorem scaled_interval (cfg : WsGatewayConfig) (count : Nat) :
    count * minInterval cfg = count * (1000 / max cfg.maxHz 1) * 1000000 := by
  rw [minInterval, Nat.mul_assoc]

-- One task sends a frame more than the limit when so many intervals fit into a second.
theorem single_exceeds {operator : Operator} {vehicleId : String} (clock : Nat)
    (watches : operator.Watches vehicleId subject)
    (fits : (max cfg.maxHz 1 + 1) * (1000 / max cfg.maxHz 1) ≤ 1000) :
    ∃ actions final, exec (step cfg) ⟨operator, clock, []⟩ actions = some final ∧
      ¬WithinLimit cfg (final.times vehicleId) := by
  obtain ⟨task, held, running, raw, rfl⟩ := watches
  obtain ⟨waiting, waited, ran, empty, active, late, put⟩ :=
    exec_wait cfg operator clock (task.lastSent + minInterval cfg)
  obtain ⟨final, later, times⟩ := exec_rounds cfg (max cfg.maxHz 1 + 2) empty
    ((congrFun active subject).trans held) running raw (by omega)
  refine ⟨waiting ++ _, final, (exec_after ran _).trans later, ?_⟩
  have none_before : waited.times task.vehicleId = [] := by rw [Traffic.times, put]; rfl
  rw [times, none_before, List.nil_append]
  refine over_limit waited.clock ?_ (rounds_within ?_)
  · simp
  · have whole : second = 1000 * 1000000 := rfl
    have few : max cfg.maxHz 1 + 2 - 1 = max cfg.maxHz 1 + 1 := rfl
    rw [few, scaled_interval, whole]
    exact Nat.mul_le_mul_right _ fits

-- Two tasks of a vehicle exceed its limit together.
theorem double_exceeds (cfg : WsGatewayConfig) {operator : Operator} {vehicleId other : String} (clock : Nat)
    (watches : operator.Watches vehicleId subject) (also : operator.Watches vehicleId other)
    (differs : subject ≠ other) :
    ∃ actions final, exec (step cfg) ⟨operator, clock, []⟩ actions = some final ∧
      ¬WithinLimit cfg (final.times vehicleId) := by
  obtain ⟨task, held, running, raw, rfl⟩ := watches
  obtain ⟨second_task, held_also, running_also, raw_also, same⟩ := also
  obtain ⟨waiting, waited, ran, empty, active, late, put⟩ := exec_wait cfg operator clock
    (task.lastSent + second_task.lastSent + minInterval cfg)
  obtain ⟨next, one, empty_next, clock_next, active_next, put_next⟩ := exec_round cfg 0 empty
    ((congrFun active other).trans held_also) running_also raw_also (by omega)
  have held_next : next.operator.active subject = some task := by
    rw [active_next, Function.update_of_ne differs, active, held]
  obtain ⟨final, later, times⟩ := exec_rounds cfg (max cfg.maxHz 1 + 1) empty_next held_next running raw
    (by rw [clock_next]; omega)
  refine ⟨waiting ++ (round other 0 ++ _), final,
    (exec_after ran _).trans ((exec_after one _).trans later), ?_⟩
  · have first : next.times task.vehicleId = [waited.clock] := by
      rw [times_of_put waited put_next, times_append, if_pos same, Traffic.times, put]
      rfl
    rw [times, first]
    refine over_limit waited.clock (by simp) ?_
    intro time member
    rcases List.mem_append.mp member with head | rest
    · rw [List.mem_singleton.mp head]
      omega
    · refine rounds_within ?_ time (by rw [← Nat.add_zero waited.clock, ← clock_next]; exact rest)
      have whole : second = 1000 * 1000000 := rfl
      rw [Nat.add_sub_cancel, scaled_interval, whole]
      exact Nat.mul_le_mul_right _ (Nat.mul_div_le 1000 _)

end Rounds

end Traffic

/-- Whatever comes in, the limit of the vehicle is kept if and only if it has one task whose interval
is long enough, or none. -/
theorem rate_limited_iff (cfg : WsGatewayConfig) (operator : Operator) (clock : Nat)
    (vehicleId : String) :
    (∀ actions final, exec (Traffic.step cfg) ⟨operator, clock, []⟩ actions = some final →
      WithinLimit cfg (final.times vehicleId)) ↔ Limited cfg operator vehicleId := by
  constructor
  · intro within
    refine ⟨fun subject other watches also => ?_, ?_⟩
    · by_contra differs
      obtain ⟨actions, final, ran, beyond⟩ :=
        Traffic.double_exceeds cfg clock watches also differs
      exact beyond (within actions final ran)
    · rintro ⟨subject, watches⟩
      by_contra fits
      obtain ⟨actions, final, ran, beyond⟩ :=
        Traffic.single_exceeds clock watches (Nat.not_lt.mp fits)
      exact beyond (within actions final ran)
  · intro limited actions final ran
    exact Traffic.limited_within limited ran

/-- An operator that watches two streams of one vehicle, at one frame a second. -/
def twoStreams : List Operator.Action :=
  [.entry ⟨"v", "telemetry", .binary⟩, .entry ⟨"v", "sensor", .binary⟩,
    .subscribed "telemetry.v.telemetry" 0, .subscribed "telemetry.v.sensor" 0]

theorem twoStreams_exceed :
    ∃ operator final, exec (Operator.step ⟨1⟩) Operator.start twoStreams = some operator ∧
      exec (Traffic.step ⟨1⟩) ⟨operator, 0, []⟩
        [.pass second, .message "telemetry.v.telemetry" [], .message "telemetry.v.sensor" [],
          .pass second, .message "telemetry.v.telemetry" []] = some final ∧
      final.times "v" = [second, second, 2 * second] ∧
      ¬WithinLimit ⟨1⟩ (final.times "v") := by
  have ran : ((exec (Operator.step ⟨1⟩) Operator.start twoStreams).bind fun operator =>
      (exec (Traffic.step ⟨1⟩) ⟨operator, 0, []⟩
        [.pass second, .message "telemetry.v.telemetry" [], .message "telemetry.v.sensor" [],
          .pass second, .message "telemetry.v.telemetry" []]).map fun final => final.times "v") =
      some [second, second, 2 * second] := by decide +kernel
  obtain ⟨operator, watched, ran⟩ := Option.bind_eq_some_iff.mp ran
  obtain ⟨final, passed, times⟩ := Option.map_eq_some_iff.mp ran
  refine ⟨operator, final, watched, passed, times, ?_⟩
  rw [times]
  intro within
  have three := within second
  revert three
  decide

end SystemScale.Relay
