import SystemScale.Cloud.GrpcCodec
import SystemScale.Cloud.IngestCodec

set_option autoImplicit false

/-!
# command-api's decoders on any bytes

Each walks a buffer with its own test of a field's length: `decodeCommandAck` has none, the others
compare a signed sum with the end of the buffer.
-/

namespace SystemScale.Cloud

open Wire

/-- The end of the field at `start` overflows `int`: it lies before the content, which field 1
slices, and it is negative or not behind `start`. -/
def PeekJumps (data : List UInt8) (start : Nat) : Prop :=
  ∃ number content count, delimitedAt data start = some (number, content, count) ∧
    2 ^ 63 ≤ content + count ∧
    (number = 1 ∨ content + count < 2 ^ 64 ∨ content + count ≤ start + 2 ^ 64)

section Slices

variable {data : List UInt8} {position : Nat} (count : UInt64)

theorem goSlice_fits (held : data.length < 2 ^ 63)
    (fits : position + count.toNat ≤ data.length) :
    ∃ part, goSlice data position (goAdd position (goInt count)) = some part := by
  exact ⟨_, goSlice_count count held fits⟩

theorem goSlice_short (held : data.length < 2 ^ 63) (inside : position ≤ data.length)
    (past : data.length < position + count.toNat) :
    goSlice data position (goAdd position (goInt count)) = none := by
  by_cases passed : goAdd position (goInt count) > data.length
  · rw [goSlice, if_neg (by omega)]
  · exact goSlice_past held inside past passed

theorem goAdd_short (held : data.length < 2 ^ 63) (inside : position ≤ data.length)
    (short : ¬ 2 ^ 63 ≤ position + count.toNat)
    (passed : ¬ goAdd position (goInt count) > data.length) :
    goAdd position (goInt count) = (position + count.toNat : Nat) := by
  refine goAdd_fits count held (Nat.le_of_not_lt fun past => ?_)
  exact passed ((goAdd_past count held inside past).mpr short)

theorem goAdd_long (held : data.length < 2 ^ 63) (inside : position ≤ data.length)
    (long : 2 ^ 63 ≤ position + count.toNat) :
    goAdd position (goInt count) = (position : Int) + count.toNat - 2 ^ 64 := by
  have bounded := count.toNat_lt
  have sum : goAdd position (goInt count) =
      Int.bmod ((position : Int) + count.toNat) (2 ^ 64) := Int.add_bmod_bmod
  rw [sum, Int.bmod_def]
  omega

-- The test against the end of the buffer, and the slice behind it.
theorem goSlice_tested (held : data.length < 2 ^ 63) (inside : position ≤ data.length) :
    2 ^ 63 ≤ position + count.toNat ∧ ¬ goAdd position (goInt count) > data.length ∧
        goSlice data position (goAdd position (goInt count)) = none ∨
      ¬ 2 ^ 63 ≤ position + count.toNat ∧ (goAdd position (goInt count) > data.length ∨
        ¬ goAdd position (goInt count) > data.length ∧
          ∃ part, goSlice data position (goAdd position (goInt count)) = some part) := by
  by_cases fits : position + count.toNat ≤ data.length
  · have sum := goAdd_fits count held fits
    exact .inr ⟨by omega, .inr ⟨by omega, goSlice_fits count held fits⟩⟩
  · have past := goAdd_past count held inside (Nat.lt_of_not_le fits)
    by_cases long : 2 ^ 63 ≤ position + count.toNat
    · exact .inl ⟨long, fun passed => past.mp passed long, goSlice_short count held inside (by omega)⟩
    · exact .inr ⟨long, .inl (past.mpr long)⟩

end Slices

/-! ## Rounds -/

section Rounds

variable {data : List UInt8}

-- `rfl` below compares the rounds and is not to unfold their slices.
attribute [local irreducible] goSlice goAdd

section FieldRound

variable {E A : Type} {start limit : Nat} {env : E} {missing : Outcome A}
  {noVarint noLength : Nat → String} {unsupported : Nat → Nat → String} {set : Nat → UInt64 → E}
  {take : Nat → Nat → UInt64 → Step (Nat × E) (Outcome A)}

theorem fieldRound_forward_iff (calm : missing.Calm)
    (taken : ∀ number content count, start < content → content ≤ data.length →
      (Forward (fun state => (state.1 : Int)) Outcome.Calm (start, env)
        (take number content count) ↔ ¬ limit ≤ content + count.toNat)) :
    Forward (fun state => (state.1 : Int)) Outcome.Calm (start, env)
        (fieldRound data start missing noVarint noLength unsupported set take) ↔
      ¬ EndsPast limit data start := by
  rw [fieldRound]
  split
  next tag n tagged =>
    by_cases stop : n = 0
    · rw [if_pos stop]
      have none := no_tag (Varint.pair_none tagged stop)
      exact ⟨fun _ => not_endsPast none, fun _ => .done calm⟩
    · rw [if_neg stop]
      have read := Varint.pair_some tagged stop
      have tag_bounds := Varint.read_bounds read
      rw [List.length_drop] at tag_bounds
      extract_lets pos fieldNum
      split
      next is =>
        have none := delimitedAt_other read (by omega)
        split
        next val n2 _ =>
          exact forward_skip_iff (not_endsPast none) (calm_err _) (by simp only [pos]; omega)
      next is =>
        split
        next length n2 counted =>
          by_cases cut : n2 = 0
          · rw [if_pos cut]
            have none := no_length read (Varint.pair_none counted cut)
            exact ⟨fun _ => not_endsPast none, fun _ => .done (calm_err _)⟩
          · rw [if_neg cut]
            have value := Varint.pair_some counted cut
            have bounds := Varint.read_bounds value
            rw [List.length_drop] at bounds
            rw [endsPast_iff _ read is value]
            exact taken _ _ _ (by simp only [pos]; omega) (by simp only [pos]; omega)
      next is =>
        have none := delimitedAt_other read is
        exact ⟨fun _ => not_endsPast none, fun _ => .done (calm_err _)⟩

-- The content is sliced where its end is not behind the buffer, and an overflow panics.
theorem forward_tested_iff {content : Nat} (held : data.length < 2 ^ 63) (ahead : start < content)
    (inside : content ≤ data.length) (count : UInt64) (message : String) (later : List UInt8 → E) :
    Forward (fun state => (state.1 : Int)) Outcome.Calm (start, env)
        (if goAdd content (goInt count) > data.length then .done (.err (α := A) message)
        else match goSlice data content (goAdd content (goInt count)) with
          | none => .done .panic
          | some part => .next (content + part.length, later part)) ↔
      ¬ 2 ^ 63 ≤ content + count.toNat := by
  rcases goSlice_tested count held inside with
    ⟨long, passed, sliced⟩ | ⟨short, past | ⟨passed, part, sliced⟩⟩
  · rw [if_neg passed, sliced, forward_done_iff, iff_false_left not_calm_panic]
    exact not_not.mpr long
  · rw [if_pos past]
    exact ⟨fun _ => short, fun _ => .done (calm_err _)⟩
  · rw [if_neg passed, sliced]
    exact ⟨fun _ => short, fun _ => .next (by simp only; omega)⟩

end FieldRound

theorem decodeCommandAckStep_forward_iff (held : data.length < 2 ^ 63) (start : Nat)
    (ack : CommandAck) :
    Forward (fun state => (state.1 : Int)) Outcome.Calm (start, ack)
        (decodeCommandAckStep data (start, ack)) ↔ ¬ EndsPast (data.length + 1) data start := by
  by_cases inside : start < data.length
  · rw [decodeCommandAckStep_round ack inside]
    refine fieldRound_forward_iff (calm_ok ack) ?_
    intro number content count ahead within
    by_cases fits : content + count.toNat ≤ data.length
    · obtain ⟨part, sliced⟩ := goSlice_fits count held fits
      rw [sliced, forward_next_iff]
      simp only
      omega
    · rw [goSlice_short count held within (by omega), forward_done_iff,
        iff_false_left not_calm_panic]
      omega
  · rw [decodeCommandAckStep, if_neg inside]
    exact ⟨fun _ past => inside past.inside, fun _ => .done (calm_ok ack)⟩

theorem decodeCommandEnvelopeStep_forward_iff (held : data.length < 2 ^ 63) (start : Nat)
    (env : CommandEnvelope) :
    Forward (fun state => (state.1 : Int)) Outcome.Calm (start, env)
        (decodeCommandEnvelopeStep data (start, env)) ↔ ¬ EndsPast (2 ^ 63) data start := by
  by_cases inside : start < data.length
  · rw [decodeCommandEnvelopeStep_round env inside]
    refine fieldRound_forward_iff (calm_err _) ?_
    intro number content count ahead within
    exact forward_tested_iff held ahead within count _ _
  · rw [decodeCommandEnvelopeStep, if_neg inside]
    exact ⟨fun _ past => inside past.inside, fun _ => .done (calm_ok env)⟩

theorem decodeTelemetryRequestStep_round {start : Nat} (req : TelemetryRequest)
    (inside : start < data.length) :
    decodeTelemetryRequestStep data (start, req) =
      fieldRound data start (.ok req) (fun _ => "truncated varint") (fun _ => "truncated length")
        (fun wireType _ => s!"unsupported wire type {wireType}") req.setVarint
        fun fieldNum pos length =>
          if goAdd pos (goInt length) > data.length then .done (.err "truncated bytes")
          else match goSlice data pos (goAdd pos (goInt length)) with
            | none => .done .panic
            | some b => .next (pos + b.length, req.setBytes fieldNum b) := by
  rw [decodeTelemetryRequestStep, if_pos inside]
  rfl

theorem decodeTelemetryRequestStep_forward_iff (held : data.length < 2 ^ 63) (start : Nat)
    (req : TelemetryRequest) :
    Forward (fun state => (state.1 : Int)) Outcome.Calm (start, req)
        (decodeTelemetryRequestStep data (start, req)) ↔ ¬ EndsPast (2 ^ 63) data start := by
  by_cases inside : start < data.length
  · rw [decodeTelemetryRequestStep_round req inside]
    refine fieldRound_forward_iff (calm_ok req) ?_
    intro number content count ahead within
    exact forward_tested_iff held ahead within count _ _
  · rw [decodeTelemetryRequestStep, if_neg inside]
    exact ⟨fun _ past => inside past.inside, fun _ => .done (calm_ok req)⟩

theorem peekSettle_forward {start : Int} {found : Peek} {pos : Int} {settled : Peek}
    (ahead : start < pos) :
    Forward Prod.fst Outcome.Calm (start, found) (peekSettle pos settled) := by
  unfold peekSettle
  split_ifs
  · exact .done (calm_ok settled)
  · exact .next ahead

theorem peekSettle_searching {found : Peek} (searching : found.complete = false) (pos : Int) :
    peekSettle pos found = .next (pos, found) := by
  have open_search : ¬ (found.1 ≠ [] ∧ found.2 > 0) := by simpa [Peek.complete] using searching
  rw [peekSettle, if_neg open_search]

theorem peekJumps_front {start content length number : Nat}
    (front : delimitedAt data start = some (number, content, length)) :
    PeekJumps data start ↔ 2 ^ 63 ≤ content + length ∧
      (number = 1 ∨ content + length < 2 ^ 64 ∨ content + length ≤ start + 2 ^ 64) := by
  rw [PeekJumps, front]
  constructor
  · rintro ⟨_, _, _, same, jumps⟩
    cases same
    exact jumps
  · intro jumps
    exact ⟨_, _, _, rfl, jumps⟩

theorem not_peekJumps {start : Nat} (none : delimitedAt data start = none) :
    ¬ PeekJumps data start := by
  rintro ⟨_, _, _, front, _⟩
  simp [none] at front

theorem PeekJumps.inside {start : Nat} (jumps : PeekJumps data start) : start < data.length := by
  obtain ⟨_, _, _, front, _⟩ := jumps
  exact delimitedAt_inside front

theorem peekDataEnvelopeStep_forward_iff (held : data.length < 2 ^ 63) (start : Nat)
    {found : Peek} (searching : found.complete = false) :
    Forward Prod.fst Outcome.Calm ((start : Int), found)
        (peekDataEnvelopeStep data ((start : Int), found)) ↔ ¬ PeekJumps data start := by
  obtain ⟨vehicleID, streamType⟩ := found
  rw [peekDataEnvelopeStep]
  by_cases inside : start < data.length
  · have whole := goSlice_rest (Nat.le_of_lt inside)
    rw [if_pos (by omega), whole]
    split
    next unsliced => simp at unsliced
    next rest sliced =>
      obtain rfl := Option.some.inj sliced
      split
      next tag n tagged =>
        by_cases stop : n = 0
        · rw [if_pos stop]
          have none := no_tag (Varint.pair_none tagged stop)
          exact ⟨fun _ => not_peekJumps none, fun _ => .done (calm_ok _)⟩
        · rw [if_neg stop]
          have read := Varint.pair_some tagged stop
          have tag_bounds := Varint.read_bounds read
          rw [List.length_drop] at tag_bounds
          extract_lets pos fieldNum
          have position : pos.toNat = start + n := by simp only [pos]; omega
          have other (is : (tag &&& 0x7).toNat ≠ 2) : ¬ PeekJumps data start :=
            not_peekJumps (delimitedAt_other read is)
          rw [position]
          split
          next is =>
            refine ⟨fun _ => other (by omega), fun _ => ?_⟩
            split
            next val n2 _ =>
              split_ifs <;> first
                | exact .done (calm_ok _)
                | exact peekSettle_forward (by simp only [pos]; omega)
          next is =>
            refine ⟨fun _ => other (by omega), fun _ => ?_⟩
            split_ifs
            · exact .done (calm_ok _)
            · exact peekSettle_forward (by simp only [pos]; omega)
          next is =>
            split
            next length n2 counted =>
              by_cases cut : n2 = 0
              · rw [if_pos cut]
                have none := no_length read (Varint.pair_none counted cut)
                exact ⟨fun _ => not_peekJumps none, fun _ => .done (calm_ok _)⟩
              · rw [if_neg cut]
                have value := Varint.pair_some counted cut
                have bounds := Varint.read_bounds value
                rw [List.length_drop] at bounds
                rw [peekJumps_front (delimitedAt_eq read is value)]
                extract_lets after sum
                have landed : after = (start + n + n2 : Nat) := by simp only [after, pos]; omega
                have within : start + n + n2 ≤ data.length := by omega
                have added : sum = goAdd (start + n + n2 : Nat) (goInt length) := by
                  simp only [sum, landed]
                rw [added, landed]
                have tested := goSlice_tested length held within
                by_cases long : 2 ^ 63 ≤ start + n + n2 + length.toNat
                · obtain ⟨_, passed, sliced⟩ := tested.resolve_right fun short => short.1 long
                  have landing := goAdd_long length held within long
                  rw [if_neg passed, sliced]
                  split_ifs with one
                  · rw [forward_done_iff, iff_false_left not_calm_panic]
                    exact not_not.mpr ⟨long, .inl one⟩
                  · rw [peekSettle_searching searching, forward_next_iff, landing]
                    show (start : Int) < _ ↔ _
                    omega
                · rw [iff_true_right (fun jumps => long jumps.1)]
                  rcases (tested.resolve_left fun wrapped => long wrapped.1).2 with
                    past | ⟨passed, part, sliced⟩
                  · rw [if_pos past]
                    exact .done (calm_ok _)
                  · rw [if_neg passed, sliced]
                    have ahead := goAdd_short length held within long passed
                    split_ifs <;> exact peekSettle_forward (by rw [ahead]; omega)
          next is =>
            refine ⟨fun _ => other (by omega), fun _ => ?_⟩
            split_ifs
            · exact .done (calm_ok _)
            · exact peekSettle_forward (by simp only [pos]; omega)
          next is _ _ _ => exact ⟨fun _ => other (by omega), fun _ => .done (calm_ok _)⟩
  · rw [if_neg (by omega)]
    exact ⟨fun _ jumps => inside jumps.inside, fun _ => .done (calm_ok _)⟩

end Rounds

/-! ## Runs -/

theorem packedStreams_ends (fuel : Nat) (b : List UInt8) (enough : b.length ≤ fuel) :
    packedStreams fuel b = packedStreams b.length b := by
  induction fuel using Nat.strong_induction_on generalizing b with
  | h fuel ih =>
    cases fuel with
    | zero =>
      have empty : b = [] := List.eq_nil_of_length_eq_zero (by omega)
      rw [empty]
      rfl
    | succ fuel =>
      cases b with
      | nil => rfl
      | cons byte rest =>
        rw [packedStreams, List.length_cons, packedStreams]
        split
        next val n3 read =>
          by_cases stop : n3 = 0
          · rw [if_pos stop, if_pos stop]
          · have shorter : ((byte :: rest).drop n3).length ≤ rest.length := by
              rw [List.length_drop, List.length_cons]
              omega
            have within : rest.length ≤ fuel := by
              rw [List.length_cons] at enough
              omega
            rw [if_neg stop, if_neg stop, ih fuel (by omega) _ (by omega),
              ih rest.length (by omega) _ shorter]

/-- All four decoders return without a panic, and every iteration has moved forward. -/
structure DecodersSafe (data : List UInt8) : Prop where
  ack : Safe (decodeCommandAckStep data) (fun state => (state.1 : Int)) (0, .empty)
    (decodeCommandAck data)
  envelope : Safe (decodeCommandEnvelopeStep data) (fun state => (state.1 : Int)) (0, .empty)
    (decodeCommandEnvelopeInto data)
  request : Safe (decodeTelemetryRequestStep data) (fun state => (state.1 : Int)) (0, .empty)
    (decodeTelemetryRequestInto data)
  -- The inner loop over a packed field needs no more iterations than the field has bytes.
  packed : ∀ b fuel, b.length ≤ fuel → packedStreams fuel b = packedStreams b.length b
  peek : Safe (peekDataEnvelopeStep data) Prod.fst (0, ([], 0)) (peekDataEnvelope data)

section Runs

variable {data : List UInt8}

/-- A round that goes on has not found both. -/
inductive Searching : Step (Int × Peek) (Outcome Peek) → Prop where
  | next {later : Int × Peek} (missing : later.2.complete = false) : Searching (.next later)
  | done {result : Outcome Peek} : Searching (.done result)

theorem peekSettle_open (pos : Int) (found : Peek) : Searching (peekSettle pos found) := by
  unfold peekSettle
  split_ifs with settled
  · exact .done
  · exact .next (by simpa [Peek.complete] using settled)

theorem peekDataEnvelopeStep_searching (data : List UInt8) (state : Int × Peek) :
    Searching (peekDataEnvelopeStep data state) := by
  obtain ⟨pos, vehicleID, streamType⟩ := state
  rw [peekDataEnvelopeStep]
  by_cases inside : pos < data.length
  · rw [if_pos inside]
    split
    next => exact .done
    next rest _ =>
      split
      next tag n _ =>
        by_cases stop : n = 0
        · rw [if_pos stop]
          exact .done
        · rw [if_neg stop]
          extract_lets pos fieldNum
          split
          next =>
            split
            next => split_ifs <;> first | exact .done | exact peekSettle_open _ _
          next => split_ifs <;> first | exact .done | exact peekSettle_open _ _
          next =>
            split
            next length n2 _ =>
              by_cases cut : n2 = 0
              · rw [if_pos cut]
                exact .done
              · rw [if_neg cut]
                extract_lets after sum
                split_ifs
                · exact .done
                · split
                  next => exact .done
                  next => exact peekSettle_open _ _
                · exact peekSettle_open _ _
          next => split_ifs <;> first | exact .done | exact peekSettle_open _ _
          next => exact .done
  · rw [if_neg inside]
    exact .done

theorem peek_safe_iff (held : data.length < 2 ^ 63) :
    Safe (peekDataEnvelopeStep data) Prod.fst (0, ([], 0)) (peekDataEnvelope data) ↔
      ∀ pos found, Visits (peekDataEnvelopeStep data) (0, ([], 0)) (pos, found) →
        ¬ PeekJumps data pos.toNat := by
  have round (state : Int × Peek) (searching : 0 ≤ state.1 ∧ state.2.complete = false) :
      Forward Prod.fst Outcome.Calm state (peekDataEnvelopeStep data state) ↔
        ¬ PeekJumps data state.1.toNat := by
    obtain ⟨pos, found⟩ := state
    obtain ⟨start, rfl⟩ := Int.eq_ofNat_of_zero_le searching.1
    exact peekDataEnvelopeStep_forward_iff held start searching.2
  have inside : ∀ state later, peekDataEnvelopeStep data state = .next later →
      state.1 < data.length := by
    rintro ⟨pos, found⟩ later going
    by_contra outside
    rw [peekDataEnvelopeStep, if_neg outside] at going
    cases going
  have rule : Safe (peekDataEnvelopeStep data) Prod.fst (0, ([], 0))
      ((loop (peekDataEnvelopeStep data) (2 * data.length + 2) (0, ([], 0))).getD .hang) ↔
        ∀ state, Visits (peekDataEnvelopeStep data) (0, ([], 0)) state →
          ¬ PeekJumps data state.1.toNat := by
    have enough : ((data.length : Int) - 0).toNat < 2 * data.length + 2 := by omega
    refine safe_iff (0, ([], 0)) (fun state : Int × Peek => 0 ≤ state.1 ∧ state.2.complete = false)
      (fun state => PeekJumps data state.1.toNat) inside enough ⟨le_refl 0, rfl⟩ ?_ round
    intro state later searching calm going
    have ahead := (round state searching).mpr calm
    rw [going, forward_next_iff] at ahead
    have open_search := peekDataEnvelopeStep_searching data state
    rw [going] at open_search
    cases open_search with
    | next missing => exact ⟨by omega, missing⟩
  rw [peekDataEnvelope, rule, Prod.forall]

/-- The four decoders are safe, unless a length ends behind the buffer where `decodeCommandAck`
reads it, or overflows `int` where the others do. -/
theorem decoders_safe_iff (held : data.length < 2 ^ 63) :
    DecodersSafe data ↔
      (∀ pos ack, Visits (decodeCommandAckStep data) (0, .empty) (pos, ack) →
        ¬ EndsPast (data.length + 1) data pos) ∧
      (∀ pos env, Visits (decodeCommandEnvelopeStep data) (0, .empty) (pos, env) →
        ¬ EndsPast (2 ^ 63) data pos) ∧
      (∀ pos req, Visits (decodeTelemetryRequestStep data) (0, .empty) (pos, req) →
        ¬ EndsPast (2 ^ 63) data pos) ∧
      ∀ pos found, Visits (peekDataEnvelopeStep data) (0, ([], 0)) (pos, found) →
        ¬ PeekJumps data pos.toNat := by
  have ack := safe_nat_iff CommandAck.empty
    (fun pos env outside => ⟨_, by rw [decodeCommandAckStep, if_neg outside]⟩)
    (decodeCommandAckStep_forward_iff held)
  have envelope := safe_nat_iff CommandEnvelope.empty
    (fun pos env outside => ⟨_, by rw [decodeCommandEnvelopeStep, if_neg outside]⟩)
    (decodeCommandEnvelopeStep_forward_iff held)
  have request := safe_nat_iff TelemetryRequest.empty
    (fun pos env outside => ⟨_, by rw [decodeTelemetryRequestStep, if_neg outside]⟩)
    (decodeTelemetryRequestStep_forward_iff held)
  rw [← ack, ← envelope, ← request, ← peek_safe_iff held]
  constructor
  · intro safe
    exact ⟨safe.ack, safe.envelope, safe.request, safe.peek⟩
  · rintro ⟨ack, envelope, request, peek⟩
    exact ⟨ack, envelope, request, fun b fuel enough => packedStreams_ends fuel b enough, peek⟩

end Runs

theorem cut_tag_decoded_safely : DecodersSafe [0x18] := by
  have tiny := delimitedAt_tiny (show [0x18].length ≤ 1 by decide)
  exact (decoders_safe_iff (by decide)).mpr
    ⟨fun pos _ _ => not_endsPast (tiny pos), fun pos _ _ => not_endsPast (tiny pos),
      fun pos _ _ => not_endsPast (tiny pos), fun pos _ _ => not_peekJumps (tiny pos.toNat)⟩

/-- A command id of five bytes of which none is there. -/
def cutAck : List UInt8 := [0x0A, 0x05]

/-- A field 1 that says it has 2^64 - 1 bytes. -/
def boundlessField : List UInt8 :=
  [0x0A, 0xFF, 0xFF, 0xFF, 0xFF, 0xFF, 0xFF, 0xFF, 0xFF, 0xFF, 0x01]

/-- A field 15 of 2^64 - 11 bytes, whose end is its start. -/
def returningField : List UInt8 :=
  [0x7A, 0xF5, 0xFF, 0xFF, 0xFF, 0xFF, 0xFF, 0xFF, 0xFF, 0xFF, 0x01]

theorem decoders_fail :
    (decodeCommandAck cutAck = .panic ∧ ¬ DecodersSafe cutAck) ∧
    (decodeCommandEnvelopeInto boundlessField = .panic ∧
      decodeTelemetryRequestInto boundlessField = .panic ∧
      peekDataEnvelope boundlessField = .panic) ∧
    ∀ fuel, loop (peekDataEnvelopeStep returningField) fuel (0, ([], 0)) = none := by
  have cut : decodeCommandAck cutAck = .panic := by decide
  refine ⟨⟨cut, fun safe => safe.ack.calm.1 cut⟩, ⟨by decide, rfl, by decide⟩, ?_⟩
  have again : peekDataEnvelopeStep returningField (0, ([], 0)) = .next (0, ([], 0)) := by
    have whole : goSlice returningField 0 returningField.length = some returningField := by decide
    have tag : consumeVarint returningField = (0x7A, 1) := by decide
    have length : consumeVarint (returningField.drop ((0 : Int) + (1 : Nat)).toNat) =
        (0xFFFFFFFFFFFFFFF5, 10) := by decide
    have sum : goAdd ((0 : Int) + (1 : Nat) + (10 : Nat)) (goInt 0xFFFFFFFFFFFFFFF5) = 0 := by decide
    rw [peekDataEnvelopeStep, if_pos (by decide)]
    simp only [whole, tag, length, sum]
    rfl
  intro fuel
  induction fuel with
  | zero => rfl
  | succ fuel ih => rw [loop_next fuel again, ih]

end SystemScale.Cloud
