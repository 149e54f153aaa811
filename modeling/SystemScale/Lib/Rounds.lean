import SystemScale.Lib.Scan

set_option autoImplicit false

/-!
# Loops that may go back

A decoder whose sums of positions and lengths wrap may jump back, and then need not end.
`progress_iff` reduces "it ends well, and always moved forward" to its single rounds.
-/

namespace Varint

theorem readLoop_short {bytes : List UInt8} {index length : Nat} {result word : UInt64}
    (read : readLoop bytes index result = .value word length) (inside : index ≤ 9) :
    length ≤ 10 := by
  induction bytes generalizing index result with
  | nil => simp [readLoop] at read
  | cons byte rest ih =>
    simp only [readLoop] at read
    split_ifs at read with last full
    · obtain ⟨_, rfl⟩ := Read.value.inj read
      omega
    · exact ih read (by omega)

theorem read_short {bytes : List UInt8} {word : UInt64} {length : Nat}
    (value : read bytes = .value word length) : length ≤ 10 :=
  readLoop_short value (Nat.zero_le 9)

theorem readLoop_truncated {bytes : List UInt8} {index : Nat} {result : UInt64}
    (cut : readLoop bytes index result = .truncated) (inside : index ≤ 9) :
    index + bytes.length ≤ 9 := by
  induction bytes generalizing index result with
  | nil => simpa using inside
  | cons byte rest ih =>
    simp only [readLoop] at cut
    split_ifs at cut with last full
    have later := ih cut (by omega)
    simp only [List.length_cons]
    omega

theorem read_truncated {bytes : List UInt8} (cut : read bytes = .truncated) :
    bytes.length ≤ 9 := by
  have bounds := readLoop_truncated cut (Nat.zero_le 9)
  omega

/-- The word and its length, or two zeros. -/
def Read.pair : Read → UInt64 × Nat
  | .value word length => (word, length)
  | .truncated => (0, 0)
  | .overflow => (0, 0)

theorem pair_some {bytes : List UInt8} {word : UInt64} {length : Nat}
    (is : (read bytes).pair = (word, length)) (some : ¬ length = 0) :
    read bytes = .value word length := by
  cases found : read bytes with
  | value word length =>
    rw [found] at is
    cases is
    rfl
  | truncated =>
    rw [found] at is
    cases is
    exact absurd rfl some
  | overflow =>
    rw [found] at is
    cases is
    exact absurd rfl some

theorem pair_zero {bytes : List UInt8} {word : UInt64} {length : Nat}
    (is : (read bytes).pair = (word, length)) (none : length = 0) : word = 0 := by
  cases found : read bytes with
  | value word length =>
    have bounds := read_bounds found
    rw [found] at is
    cases is
    omega
  | truncated =>
    rw [found] at is
    cases is
    rfl
  | overflow =>
    rw [found] at is
    cases is
    rfl

theorem pair_none {bytes : List UInt8} {word : UInt64} {length : Nat}
    (is : (read bytes).pair = (word, length)) (none : length = 0) (value : UInt64) (size : Nat) :
    read bytes ≠ .value value size := by
  intro found
  have bounds := read_bounds found
  rw [found] at is
  cases is
  omega

end Varint

namespace Wire

section Rounds

variable {S R : Type} {body : S → Step S R} {start state later : S}

/-- The states in which a loop begins a round. -/
inductive Visits (body : S → Step S R) (start : S) : S → Prop where
  | start : Visits body start start
  | next {state later : S} (before : Visits body start state) (step : body state = .next later) :
      Visits body start later

theorem loop_more {fuel : Nat} {result : R} (ran : loop body fuel start = some result)
    (more : Nat) : loop body (fuel + more) start = some result := by
  induction fuel generalizing start with
  | zero => simp [loop] at ran
  | succ fuel ih =>
    rw [Nat.add_right_comm]
    cases step : body start with
    | next later =>
      rw [loop_next _ step] at ran ⊢
      exact ih ran
    | done value =>
      rw [loop_done _ step] at ran ⊢
      exact ran

-- What every round keeps holds where the loop returns.
theorem loop_returned {Inv : S → Prop} {Good : R → Prop}
    (kept : ∀ state later, Inv state → body state = .next later → Inv later)
    (returns : ∀ state result, Inv state → body state = .done result → Good result) {fuel : Nat}
    {result : R} (begins : Inv start) (ran : loop body fuel start = some result) : Good result := by
  induction fuel generalizing start with
  | zero => simp [loop] at ran
  | succ fuel ih =>
    cases step : body start with
    | next later =>
      rw [loop_next _ step] at ran
      exact ih (kept _ _ begins step) ran
    | done value =>
      rw [loop_done _ step] at ran
      exact Option.some.inj ran ▸ returns _ _ begins step

theorem Visits.rounds (visited : Visits body start state) :
    ∃ rounds, ∀ fuel, loop body (fuel + rounds) start = loop body fuel state := by
  induction visited with
  | start => exact ⟨0, fun fuel => rfl⟩
  | next _ step ih =>
    obtain ⟨rounds, same⟩ := ih
    refine ⟨rounds + 1, fun fuel => ?_⟩
    rw [Nat.add_comm rounds, ← Nat.add_assoc, same, loop_next fuel step]

-- A loop that returns has returned from the only round that ended.
theorem Visits.result {fuel : Nat} {result value : R} (visited : Visits body start state)
    (ended : body state = .done result) (ran : loop body fuel start = some value) :
    result = value := by
  obtain ⟨rounds, same⟩ := visited.rounds
  have one : loop body (1 + rounds) start = some result := by rw [same, loop_done 0 ended]
  have first := loop_more one fuel
  have second := loop_more ran (1 + rounds)
  rw [Nat.add_comm, second] at first
  exact (Option.some.inj first).symm

/-- The loop returns in this round or in the next. -/
inductive Returns (body : S → Step S R) (state : S) (result : R) : Prop where
  | now (ended : body state = .done result) : Returns body state result
  | next {later : S} (going : body state = .next later) (ended : body later = .done result) :
      Returns body state result

theorem Visits.returns (measure : S → Nat)
    (shrinks : ∀ state later, body state = .next later → measure later < measure state) {fuel : Nat}
    (enough : measure start < fuel) {result : R} (visited : Visits body start state)
    (returns : Returns body state result) : loop body fuel start = some result := by
  obtain ⟨value, ran, _⟩ : ∃ value, loop body fuel start = some value ∧ True :=
    loop_ends measure shrinks (fun _ _ _ => trivial) enough
  cases returns with
  | now ended => rw [ran, visited.result ended ran]
  | next going ended => rw [ran, (visited.next going).result ended ran]

/-- The round goes on with a later position, or returns a good result. -/
inductive Forward (position : S → Int) (Good : R → Prop) (state : S) : Step S R → Prop where
  | next {later : S} (ahead : position state < position later) :
      Forward position Good state (.next later)
  | done {result : R} (good : Good result) : Forward position Good state (.done result)

theorem forward_next_iff {position : S → Int} {Good : R → Prop} :
    Forward position Good state (.next later) ↔ position state < position later := by
  constructor
  · intro round
    cases round with
    | next ahead => exact ahead
  · exact .next

theorem forward_done_iff {position : S → Int} {Good : R → Prop} {result : R} :
    Forward position Good state (.done result) ↔ Good result := by
  constructor
  · intro round
    cases round with
    | done good => exact good
  · exact .done

/-- The loop returns a good result, and every round that went on had moved forward. -/
structure Progress (body : S → Step S R) (position : S → Int) (Good : R → Prop) (start : S)
    (result : Option R) : Prop where
  returns : ∃ value, result = some value ∧ Good value
  forward : ∀ state later, Visits body start state → body state = .next later →
    position state < position later

variable {position : S → Int} {Good : R → Prop} {limit : Int}

theorem loop_forward
    (inside : ∀ state later, body state = .next later → position state < limit)
    (forward : ∀ state, Visits body start state → Forward position Good state (body state))
    {fuel : Nat} (visited : Visits body start state) (enough : (limit - position state).toNat < fuel) :
    ∃ value, loop body fuel state = some value ∧ Good value := by
  induction fuel generalizing state with
  | zero => omega
  | succ fuel ih =>
    have round := forward state visited
    cases step : body state with
    | next later =>
      rw [step] at round
      have within := inside state later step
      have ahead := forward_next_iff.mp round
      rw [loop_next fuel step]
      exact ih (visited.next step) (by omega)
    | done result =>
      rw [step] at round
      exact ⟨result, loop_done fuel step, forward_done_iff.mp round⟩

theorem progress_iff_forward
    (inside : ∀ state later, body state = .next later → position state < limit) {fuel : Nat}
    (enough : (limit - position start).toNat < fuel) :
    Progress body position Good start (loop body fuel start) ↔
      ∀ state, Visits body start state → Forward position Good state (body state) := by
  constructor
  · intro progress state visited
    obtain ⟨value, ran, good⟩ := progress.returns
    cases step : body state with
    | next later => exact .next (progress.forward state later visited step)
    | done result => exact .done (visited.result step ran ▸ good)
  · intro forward
    refine ⟨loop_forward inside forward .start enough, ?_⟩
    intro state later visited step
    have round := forward state visited
    rw [step] at round
    exact forward_next_iff.mp round

-- The rule for such a loop: `Bad` says in which states a round goes wrong.
theorem progress_iff (Inv Bad : S → Prop)
    (inside : ∀ state later, body state = .next later → position state < limit) {fuel : Nat}
    (enough : (limit - position start).toNat < fuel) (begins : Inv start)
    (kept : ∀ state later, Inv state → ¬ Bad state → body state = .next later → Inv later)
    (round : ∀ state, Inv state → (Forward position Good state (body state) ↔ ¬ Bad state)) :
    Progress body position Good start (loop body fuel start) ↔
      ∀ state, Visits body start state → ¬ Bad state := by
  rw [progress_iff_forward inside enough]
  constructor
  · intro forward state visited
    have reached : Inv state ∧ ¬ Bad state := by
      induction visited with
      | start => exact ⟨begins, (round _ begins).mp (forward _ .start)⟩
      | next before step ih =>
        have holds := kept _ _ ih.1 ih.2 step
        exact ⟨holds, (round _ holds).mp (forward _ (before.next step))⟩
    exact reached.2
  · intro clean state visited
    have reached : Inv state := by
      induction visited with
      | start => exact begins
      | next before step ih => exact kept _ _ ih (clean _ before) step
    exact (round state reached).mpr (clean state visited)

end Rounds

section Safe

variable {S A : Type} {body : S → Step S (Outcome A)} {position : S → Int} {start : S} {limit : Int}

def Outcome.Calm (outcome : Outcome A) : Prop := outcome ≠ .panic ∧ outcome ≠ .hang

@[simp] theorem calm_ok (value : A) : (Outcome.ok value).Calm := ⟨by simp, by simp⟩

@[simp] theorem calm_err (message : String) : (Outcome.err (α := A) message).Calm :=
  ⟨by simp, by simp⟩

@[simp] theorem not_calm_panic : ¬ (Outcome.panic (α := A)).Calm := fun calm => calm.1 rfl

/-- The function returns without a panic, and its loop always moves forward. -/
structure Safe (body : S → Step S (Outcome A)) (position : S → Int) (start : S)
    (outcome : Outcome A) : Prop where
  calm : outcome.Calm
  forward : ∀ state later, Visits body start state → body state = .next later →
    position state < position later

theorem safe_iff (start : S) (Inv Bad : S → Prop)
    (inside : ∀ state later, body state = .next later → position state < limit) {fuel : Nat}
    (enough : (limit - position start).toNat < fuel) (begins : Inv start)
    (kept : ∀ state later, Inv state → ¬ Bad state → body state = .next later → Inv later)
    (round : ∀ state, Inv state →
      (Forward position Outcome.Calm state (body state) ↔ ¬ Bad state)) :
    Safe body position start ((loop body fuel start).getD .hang) ↔
      ∀ state, Visits body start state → ¬ Bad state := by
  rw [← progress_iff Inv Bad inside enough begins kept round]
  constructor
  · intro safe
    have calm := safe.calm
    cases ran : loop body fuel start with
    | none =>
      rw [ran] at calm
      exact absurd rfl calm.2
    | some value =>
      rw [ran] at calm
      exact ⟨⟨value, rfl, calm⟩, safe.forward⟩
  · intro progress
    obtain ⟨value, ran, calm⟩ := progress.returns
    rw [ran]
    exact ⟨calm, progress.forward⟩

-- A loop of natural positions that stops at the end of the buffer.
theorem safe_nat_iff {E : Type} {data : List UInt8} {step : Nat × E → Step (Nat × E) (Outcome A)}
    (empty : E) {Bad : Nat → Prop}
    (stops : ∀ pos env, ¬ pos < data.length → ∃ result, step (pos, env) = .done result)
    (round : ∀ pos env, Forward (fun state => (state.1 : Int)) Outcome.Calm (pos, env)
      (step (pos, env)) ↔ ¬ Bad pos) :
    Safe step (fun state => (state.1 : Int)) (0, empty)
        ((loop step (data.length + 1) (0, empty)).getD .hang) ↔
      ∀ pos env, Visits step (0, empty) (pos, env) → ¬ Bad pos := by
  have inside : ∀ state later, step state = .next later → (state.1 : Int) < data.length := by
    rintro ⟨pos, env⟩ later going
    by_contra outside
    obtain ⟨result, ended⟩ := stops pos env (by simpa using outside)
    rw [ended] at going
    cases going
  have rule : Safe step (fun state => (state.1 : Int)) (0, empty)
      ((loop step (data.length + 1) (0, empty)).getD .hang) ↔
        ∀ state, Visits step (0, empty) state → ¬ Bad state.1 :=
    safe_iff (0, empty) (fun _ => True) (fun state => Bad state.1) inside (by simp) trivial
      (fun _ _ _ _ _ => trivial) fun state _ => round state.1 state.2
  rw [rule, Prod.forall]

end Safe

/-! ## Lengths that wrap -/

/-- The number of a length-delimited field at `pos`, where its content begins, and its length. -/
def delimitedAt (data : List UInt8) (pos : Nat) : Option (Nat × Nat × Nat) :=
  match Varint.read (data.drop pos) with
  | .value tag tagLength =>
    if (tag &&& 0x7).toNat = 2 then
      match Varint.read (data.drop (pos + tagLength)) with
      | .value count countLength =>
        some ((tag >>> 3).toNat, pos + tagLength + countLength, count.toNat)
      | _ => none
    else none
  | _ => none

/-- The 64-bit sum for the field at `pos` wraps, where the content is sliced or the sum is not
behind `pos`. -/
def Wraps (sliced : Nat → Prop) (data : List UInt8) (pos : Nat) : Prop :=
  ∃ number content count, delimitedAt data pos = some (number, content, count) ∧
    2 ^ 64 ≤ content + count ∧ (sliced number ∨ content + count ≤ pos + 2 ^ 64)

theorem delimitedAt_eq {data : List UInt8} {pos tagLength countLength : Nat} {tag count : UInt64}
    (read : Varint.read (data.drop pos) = .value tag tagLength)
    (delimited : (tag &&& 0x7).toNat = 2)
    (length : Varint.read (data.drop (pos + tagLength)) = .value count countLength) :
    delimitedAt data pos =
      some ((tag >>> 3).toNat, pos + tagLength + countLength, count.toNat) := by
  simp only [delimitedAt, read, if_pos delimited, length]

theorem wraps_iff {sliced : Nat → Prop} {data : List UInt8} {pos tagLength countLength : Nat}
    {tag count : UInt64} (read : Varint.read (data.drop pos) = .value tag tagLength)
    (delimited : (tag &&& 0x7).toNat = 2)
    (length : Varint.read (data.drop (pos + tagLength)) = .value count countLength) :
    Wraps sliced data pos ↔ 2 ^ 64 ≤ pos + tagLength + countLength + count.toNat ∧
      (sliced (tag >>> 3).toNat ∨
        pos + tagLength + countLength + count.toNat ≤ pos + 2 ^ 64) := by
  rw [Wraps, delimitedAt_eq read delimited length]
  constructor
  · rintro ⟨_, _, _, same, wrapped⟩
    cases same
    exact wrapped
  · intro wrapped
    exact ⟨_, _, _, rfl, wrapped⟩

theorem not_wraps {sliced : Nat → Prop} {data : List UInt8} {pos : Nat}
    (none : delimitedAt data pos = none) : ¬ Wraps sliced data pos := by
  rintro ⟨_, _, _, same, _⟩
  simp [none] at same

theorem delimitedAt_bounds {data : List UInt8} {pos number content count : Nat}
    (front : delimitedAt data pos = some (number, content, count)) :
    pos + 2 ≤ content ∧ content ≤ data.length := by
  unfold delimitedAt at front
  split at front
  next tag tagLength read =>
    split_ifs at front
    split at front
    next word countLength value =>
      have tag_bounds := Varint.read_bounds read
      have bounds := Varint.read_bounds value
      rw [List.length_drop] at tag_bounds bounds
      cases front
      omega
    next => simp at front
  next => simp at front

theorem delimitedAt_inside {data : List UInt8} {pos : Nat} {front : Nat × Nat × Nat}
    (read : delimitedAt data pos = some front) : pos < data.length := by
  have bounds := delimitedAt_bounds read
  omega

-- A tag and a length take two bytes.
theorem delimitedAt_tiny {data : List UInt8} (tiny : data.length ≤ 1) (pos : Nat) :
    delimitedAt data pos = none := by
  cases read : delimitedAt data pos with
  | none => rfl
  | some front =>
    have bounds := delimitedAt_bounds read
    omega

theorem Wraps.inside {sliced : Nat → Prop} {data : List UInt8} {pos : Nat}
    (wraps : Wraps sliced data pos) : pos < data.length := by
  obtain ⟨_, _, _, front, _⟩ := wraps
  exact delimitedAt_inside front

theorem delimitedAt_other {data : List UInt8} {pos tagLength : Nat} {tag : UInt64}
    (read : Varint.read (data.drop pos) = .value tag tagLength)
    (other : (tag &&& 0x7).toNat ≠ 2) : delimitedAt data pos = none := by
  simp only [delimitedAt, read, if_neg other]

section Fronts

variable {data : List UInt8} {pos tagLength : Nat} {tag : UInt64}

-- No tag, no field.
theorem no_tag (unread : ∀ value size, Varint.read (data.drop pos) ≠ .value value size) :
    delimitedAt data pos = none := by
  unfold delimitedAt
  split
  next read => exact absurd read (unread _ _)
  next => rfl

theorem no_length (read : Varint.read (data.drop pos) = .value tag tagLength)
    (unread : ∀ value size, Varint.read (data.drop (pos + tagLength)) ≠ .value value size) :
    delimitedAt data pos = none := by
  by_cases delimited : (tag &&& 0x7).toNat = 2
  · simp only [delimitedAt, read, if_pos delimited]
  · exact delimitedAt_other read delimited

end Fronts

/-! ## Positions in a `usize` -/

theorem wrapped_sum {position length : Nat} (inside : position < 2 ^ 64) (word : length < 2 ^ 64) :
    (position + length) % 2 ^ 64 =
      if 2 ^ 64 ≤ position + length then position + length - 2 ^ 64 else position + length := by
  split_ifs with wrapped
  · rw [Nat.mod_eq_sub_mod wrapped, Nat.mod_eq_of_lt (by omega)]
  · exact Nat.mod_eq_of_lt (by omega)

section Usize

variable {E A : Type} {data : List UInt8} {start tagLength countLength stop : Nat}
  {tag count : UInt64} {sliced : Nat → Prop}

-- The round of a field that is skipped, or whose cut content ends the loop.
theorem forward_skip_iff {env later : E} {result : Outcome A} {cut Bad : Prop} [Decidable cut]
    (fine : ¬ Bad) (calm : result.Calm) (ahead : start < stop) :
    Forward (fun state : Nat × E => (state.1 : Int)) Outcome.Calm (start, env)
        (if cut then .done result else .next (stop, later)) ↔ ¬ Bad := by
  rw [iff_true_right fine]
  split_ifs
  · exact .done calm
  · exact .next (Int.ofNat_lt.mpr ahead)

-- The round of a field whose wrapped end is compared with that of the buffer, and whose content
-- is then sliced or skipped.
theorem forward_wrapped_iff {env later : E} {cut : Outcome A} {slices : Prop} [Decidable slices]
    (held : data.length < 2 ^ 63) (read : Varint.read (data.drop start) = .value tag tagLength)
    (delimited : (tag &&& 0x7).toNat = 2)
    (value : Varint.read (data.drop (start + tagLength)) = .value count countLength)
    (ends : stop = (start + tagLength + countLength + count.toNat) % 2 ^ 64) (calm : cut.Calm)
    (same : slices ↔ sliced (tag >>> 3).toNat) :
    Forward (fun state : Nat × E => (state.1 : Int)) Outcome.Calm (start, env)
        (if stop > data.length then .done cut
          else if stop < start + tagLength + countLength ∧ slices then .done .panic
          else .next (stop, later)) ↔ ¬ Wraps sliced data start := by
  have tag_bounds := Varint.read_bounds read
  have bounds := Varint.read_bounds value
  have word := count.toNat_lt
  rw [List.length_drop] at tag_bounds bounds
  rw [wrapped_sum (by omega) word] at ends
  rw [wraps_iff read delimited value, ← same]
  split_ifs at ends with wrapped
  · rw [if_neg (by omega)]
    by_cases panics : slices
    · rw [if_pos ⟨by omega, panics⟩, forward_done_iff, iff_false_left not_calm_panic]
      exact not_not.mpr ⟨wrapped, .inl panics⟩
    · rw [if_neg (fun both => panics both.2), forward_next_iff, or_iff_right panics]
      show (start : Int) < stop ↔ _
      omega
  · rw [iff_true_right (fun both => wrapped both.1)]
    split_ifs with past backward
    · exact .done calm
    · exact absurd backward.1 (by omega)
    · refine .next ?_
      show (start : Int) < stop
      omega

-- The same behind the test for a length that is not there.
theorem forward_measured_iff {env later : E} {missing cut : Outcome A} {slices : Prop}
    [Decidable slices] (held : data.length < 2 ^ 63)
    (read : Varint.read (data.drop start) = .value tag tagLength)
    (delimited : (tag &&& 0x7).toNat = 2)
    (counted : (Varint.read (data.drop (start + tagLength))).pair = (count, countLength))
    (ends : stop = (start + tagLength + countLength + count.toNat) % 2 ^ 64)
    (missing_calm : missing.Calm) (calm : cut.Calm) (same : slices ↔ sliced (tag >>> 3).toNat) :
    Forward (fun state : Nat × E => (state.1 : Int)) Outcome.Calm (start, env)
        (if countLength = 0 then .done missing
          else if stop > data.length then .done cut
          else if stop < start + tagLength + countLength ∧ slices then .done .panic
          else .next (stop, later)) ↔ ¬ Wraps sliced data start := by
  by_cases unread : countLength = 0
  · rw [if_pos unread]
    have none := no_length read (Varint.pair_none counted unread)
    exact ⟨fun _ => not_wraps none, fun _ => .done missing_calm⟩
  · rw [if_neg unread]
    exact forward_wrapped_iff held read delimited (Varint.pair_some counted unread) ends calm same

end Usize

end Wire
