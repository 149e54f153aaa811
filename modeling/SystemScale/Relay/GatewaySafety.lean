import SystemScale.Lib.WellFormed
import SystemScale.Relay.EventFrames

set_option autoImplicit false

/-!
# ws-gateway's decoders on any bytes

Each compares the end of a field with that of the buffer after the sum has wrapped. What differs is
which fields are sliced there.
-/

namespace SystemScale.Relay

open Wire

/-- `field` is one of two numbers, as a `u32`. -/
def Either (first second : Nat) (field : Nat) : Prop :=
  field % 2 ^ 32 = first ∨ field % 2 ^ 32 = second

theorem either_cast {tag : UInt64} {first second : Nat} :
    ((tag >>> 3).toUInt32.toNat = first ∨ (tag >>> 3).toUInt32.toNat = second) ↔
      Either first second (tag >>> 3).toNat := by
  rw [Either, UInt64.toNat_toUInt32]

section Rounds

variable {data : List UInt8}

-- What the rounds have in common: without a tag the loop ends, and only a length can wrap.
theorem tagged_forward_iff {E A : Type} {sliced : Nat → Prop} {start n : Nat} {env : E}
    {tag : UInt64} {missing ended : Outcome A} {round : Step (Nat × E) (Outcome A)}
    (tagged : readVarint (data.drop start) = (tag, n)) (missing_calm : missing.Calm)
    (ended_calm : ended.Calm)
    (rounds : Varint.read (data.drop start) = .value tag n → 0 < n →
      ((tag &&& 0x7).toNat ≠ 2 → ¬ Wraps sliced data start) →
      (Forward (fun state => (state.1 : Int)) Outcome.Calm (start, env) round ↔
        ¬ Wraps sliced data start)) :
    Forward (fun state => (state.1 : Int)) Outcome.Calm (start, env)
        (if start < data.length then if n = 0 then .done missing else round else .done ended) ↔
      ¬ Wraps sliced data start := by
  by_cases inside : start < data.length
  · rw [if_pos inside]
    by_cases stop : n = 0
    · rw [if_pos stop]
      have none := no_tag (Varint.pair_none tagged stop)
      exact ⟨fun _ => not_wraps none, fun _ => .done missing_calm⟩
    · rw [if_neg stop]
      have read := Varint.pair_some tagged stop
      exact rounds read (Nat.pos_of_ne_zero stop) fun is => not_wraps (delimitedAt_other read is)
  · rw [if_neg inside]
    exact ⟨fun _ wraps => inside wraps.inside, fun _ => .done ended_calm⟩

theorem decodeStep_forward_iff {Env : Type} (sink : Sink Env) (held : data.length < 2 ^ 63)
    (start : Nat) (env : Env) :
    Forward (fun state => (state.1 : Int)) Outcome.Calm (start, env)
        (decodeStep sink data (start, env)) ↔ ¬ Wraps (Either 1 4) data start := by
  rw [decodeStep]
  rcases tagged : readVarint (data.drop start) with ⟨tag, n⟩
  refine tagged_forward_iff tagged (calm_ok _) (calm_ok _) fun read ahead other => ?_
  extract_lets pos field
  split
  next is =>
    split
    next v n2 _ =>
      exact forward_skip_iff (other (by omega)) (calm_ok _) (by simp only [pos]; omega)
  next is =>
    exact forward_skip_iff (other (by omega)) (calm_ok _) (by simp only [pos]; omega)
  next is =>
    split
    next len n2 counted =>
      exact forward_measured_iff held read is counted rfl (calm_ok _) (calm_ok _) either_cast
  next is =>
    exact forward_skip_iff (other (by omega)) (calm_ok _) (by simp only [pos]; omega)
  next _ _ is _ => exact ⟨fun _ => other is, fun _ => .done (calm_ok _)⟩

theorem decodeEventStep_forward_iff (held : data.length < 2 ^ 63) (start : Nat)
    (frame : EventFrame) :
    Forward (fun state => (state.1 : Int)) Outcome.Calm (start, frame)
        (decodeEventStep data (start, frame)) ↔ ¬ Wraps (Either 2 3) data start := by
  rw [decodeEventStep]
  rcases tagged : readVarint (data.drop start) with ⟨tag, n⟩
  refine tagged_forward_iff tagged (calm_ok _) (calm_ok _) fun read ahead other => ?_
  extract_lets pos field
  split
  next is =>
    split
    next v n2 _ =>
      exact forward_skip_iff (other (by omega)) (calm_ok _) (by simp only [pos]; omega)
  next is =>
    split
    next len n2 counted =>
      exact forward_measured_iff held read is counted rfl (calm_ok _) (calm_ok _) either_cast
  next is =>
    exact forward_skip_iff (other (by omega)) (calm_ok _) (by simp only [pos]; omega)
  next is =>
    exact forward_skip_iff (other (by omega)) (calm_ok _) (by simp only [pos]; omega)
  next _ is _ _ => exact ⟨fun _ => other is, fun _ => .done (calm_ok _)⟩

theorem decodePairStep_forward_iff (held : data.length < 2 ^ 63) (start : Nat)
    (pair : String × String) :
    Forward (fun state => (state.1 : Int)) Outcome.Calm (start, pair)
        (decodePairStep data (start, pair)) ↔ ¬ Wraps (Either 1 2) data start := by
  rw [decodePairStep]
  rcases tagged : readVarint (data.drop start) with ⟨tag, n⟩
  refine tagged_forward_iff tagged (calm_ok _) (calm_ok _) fun read ahead other => ?_
  extract_lets pos field
  split
  next is =>
    split
    next len n2 counted =>
      exact forward_measured_iff held read is counted rfl (calm_ok _) (calm_ok _) either_cast
  -- nothing is compared where a field is skipped
  next is =>
    exact ⟨fun _ => other (by omega), fun _ => .next (by simp only [pos]; omega)⟩
  next is =>
    exact ⟨fun _ => other (by omega), fun _ => .next (by simp only [pos]; omega)⟩
  next is =>
    exact ⟨fun _ => other (by omega), fun _ => .next (by simp only [pos]; omega)⟩
  next is _ _ _ => exact ⟨fun _ => other is, fun _ => .done (calm_ok _)⟩

end Rounds

/-! ## Runs -/

/-- All five decoders return without a panic, and every iteration has moved forward. -/
structure DecodersSafe (data : List UInt8) : Prop where
  routing : Safe (decodeStep routingSink data) (fun state => (state.1 : Int)) (0, "", [])
    (decodeEnvelopeRouting data)
  event : Safe (decodeEventStep data) (fun state => (state.1 : Int)) (0, ⟨0, "", []⟩)
    (decodeEventFrame data)
  alert : Safe (decodePairStep data) (fun state => (state.1 : Int)) (0, "info", "")
    (decodeAlertFrame data)
  assistance : Safe (decodePairStep data) (fun state => (state.1 : Int)) (0, "", "")
    (decodeAssistanceFrame data)
  json : Safe (decodeStep jsonFrameSink data) (fun state => (state.1 : Int))
    (0, ⟨"", 0, 0, [], 0, 0, 0⟩) (envelopeToJsonFrame data)

/-- At no position where the loop begins a round does a length wrap. -/
def NeverWraps {E A : Type} (step : Nat × E → Step (Nat × E) (Outcome A)) (empty : E)
    (sliced : Nat → Prop) (data : List UInt8) : Prop :=
  ∀ pos env, Visits step (0, empty) (pos, env) → ¬ Wraps sliced data pos

theorem gateway_safe_iff {data : List UInt8} (held : data.length < 2 ^ 63) :
    DecodersSafe data ↔
      NeverWraps (decodeStep routingSink data) ("", []) (Either 1 4) data ∧
      NeverWraps (decodeEventStep data) ⟨0, "", []⟩ (Either 2 3) data ∧
      NeverWraps (decodePairStep data) ("info", "") (Either 1 2) data ∧
      NeverWraps (decodePairStep data) ("", "") (Either 1 2) data ∧
      NeverWraps (decodeStep jsonFrameSink data) ⟨"", 0, 0, [], 0, 0, 0⟩ (Either 1 4) data := by
  have envelope {Env : Type} (sink : Sink Env) (empty : Env) :=
    safe_nat_iff empty
      (fun pos env outside => ⟨_, by rw [decodeStep, if_neg outside]⟩)
      (decodeStep_forward_iff sink held)
  have event := safe_nat_iff (⟨0, "", []⟩ : EventFrame)
    (fun pos env outside => ⟨_, by rw [decodeEventStep, if_neg outside]⟩)
    (decodeEventStep_forward_iff held)
  have pair (empty : String × String) :=
    safe_nat_iff empty
      (fun pos env outside => ⟨_, by rw [decodePairStep, if_neg outside]⟩)
      (decodePairStep_forward_iff held)
  unfold NeverWraps
  rw [← envelope, ← event, ← pair, ← pair, ← envelope]
  constructor
  · intro safe
    exact ⟨safe.routing, safe.event, safe.alert, safe.assistance, safe.json⟩
  · rintro ⟨routing, event, alert, assistance, json⟩
    exact ⟨routing, event, alert, assistance, json⟩

theorem gateway_safe_on_cut_tag : DecodersSafe [0x18] := by
  have tiny (pos : Nat) (sliced : Nat → Prop) : ¬ Wraps sliced [0x18] pos :=
    not_wraps (delimitedAt_tiny (by decide) pos)
  exact (gateway_safe_iff (by decide)).mpr ⟨fun pos _ _ => tiny pos _, fun pos _ _ => tiny pos _,
    fun pos _ _ => tiny pos _, fun pos _ _ => tiny pos _, fun pos _ _ => tiny pos _⟩

/-- A field of 2^64 - 11 bytes: its end is its start. -/
def wrappedField (tag : UInt8) : List UInt8 :=
  [tag, 0xF5, 0xFF, 0xFF, 0xFF, 0xFF, 0xFF, 0xFF, 0xFF, 0xFF, 0x01]

theorem wrapped_length_fails :
    (decodeEnvelopeRouting (wrappedField 0x0A) = .panic ∧
      envelopeToJsonFrame (wrappedField 0x0A) = .panic ∧
      decodeAlertFrame (wrappedField 0x0A) = .panic ∧
      decodeAssistanceFrame (wrappedField 0x0A) = .panic ∧
      decodeEventFrame (wrappedField 0x12) = .panic) ∧
    (∀ fuel, loop (decodeStep routingSink (wrappedField 0x7A)) fuel (0, "", []) = none) ∧
    ¬ DecodersSafe (wrappedField 0x0A) := by
  have panics : decodeEnvelopeRouting (wrappedField 0x0A) = .panic := by decide
  have again : decodeStep routingSink (wrappedField 0x7A) (0, "", []) = .next (0, "", []) := rfl
  refine ⟨⟨panics, by decide, by decide, by decide, rfl⟩, fun fuel => ?_,
    fun safe => safe.routing.calm.1 panics⟩
  induction fuel with
  | zero => rfl
  | succ fuel ih => rw [loop_next fuel again, ih]

end SystemScale.Relay
