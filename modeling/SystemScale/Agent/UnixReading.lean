import SystemScale.Agent.UnixConnection
import SystemScale.Lib.WellFormed

set_option autoImplicit false

/-!
# What `partial_decode_envelope` makes of any bytes

Only the wrapped length of a field can keep it from returning.
-/

namespace SystemScale.Agent

open AdapterTrait Wire

theorem readVarint_eq (data : List UInt8) : readVarint data = (Varint.read data).pair := by
  unfold readVarint
  split
  next is => rw [is]; rfl
  next is => rw [is]; rfl
  next is => rw [is]; rfl

theorem number_cast32 (tag : UInt64) :
    (tag >>> 3).toUInt32.toNat = (tag >>> 3).toNat % 2 ^ 32 := UInt64.toNat_toUInt32 _

namespace PartialEnvelope

def apply (env : PartialEnvelope) (field : Field) : PartialEnvelope :=
  match field.payload with
  | .varint value => env.setVarint field.number value
  | .fixed64 _ => env
  | .delimited part =>
    if field.number = 1 then { env with vehicleId := Utf8.lossy part } else env
  | .fixed32 bits =>
    if field.number = 5 ∨ field.number = 6 ∨ field.number = 7 then env.setFloat field.number bits
    else env

/-- The fields that the decoder knows: `value` gives what is picked, or the old value. -/
def collect (value : {A : Type} → (Field → Option A) → A → A) (env : PartialEnvelope) :
    PartialEnvelope where
  vehicleId := value (fun field => (field.delimited? 1).map Utf8.lossy) env.vehicleId
  timestampNs := value (Field.varint? 2) env.timestampNs
  streamType := value (fun field => (field.varint? 3).map rawStreamType) env.streamType
  payload := env.payload
  lat := value (fun field => (field.fixed32? 5).map Binary.widen) env.lat
  lon := value (fun field => (field.fixed32? 6).map Binary.widen) env.lon
  alt := value (Field.fixed32? 7) env.alt

theorem apply_eq (env : PartialEnvelope) (field : Field) :
    env.apply field = env.collect (fun pick old => (pick field).getD old) := by
  obtain ⟨number, payload⟩ := field
  unfold collect
  cases payload with
  | varint value =>
    simp only [apply, setVarint, Field.varint?, Field.delimited?, Field.fixed32?]
    split <;> simp_all
  | fixed64 bits => rfl
  | delimited part =>
    simp only [apply, Field.varint?, Field.delimited?, Field.fixed32?]
    split_ifs <;> rfl
  | fixed32 bits =>
    simp only [apply, Field.varint?, Field.delimited?, Field.fixed32?]
    by_cases known : number = 5 ∨ number = 6 ∨ number = 7
    · rw [if_pos known]
      rcases known with rfl | rfl | rfl <;> rfl
    · rw [if_neg known]
      rw [not_or, not_or] at known
      rw [if_neg known.1, if_neg known.2.1, if_neg known.2.2]
      rfl

theorem foldl_eq (env : PartialEnvelope) (fields : List Field) :
    fields.foldl apply env = env.collect (fun pick absent => last pick absent fields) := by
  induction fields generalizing env with
  | nil => rfl
  | cons field rest ih => rw [List.foldl_cons, ih, apply_eq]; simp only [collect, last_cons]

end PartialEnvelope

/-! ## One round -/

section Rounds

variable {data : List UInt8}

theorem partialDecodeStep_forward_iff (held : data.length < 2 ^ 63) (start : Nat)
    (env : PartialEnvelope) :
    Forward (fun state => (state.1 : Int)) Outcome.Calm (start, env)
        (partialDecodeStep data (start, env)) ↔
      ¬ Wraps (fun number => number % 2 ^ 32 = 1) data start := by
  rw [partialDecodeStep]
  by_cases inside : start < data.length
  · rw [if_pos inside]
    split
    next tag n tagged =>
      rw [readVarint_eq] at tagged
      by_cases stop : n = 0
      · rw [if_pos stop]
        have none := no_tag (Varint.pair_none tagged stop)
        exact ⟨fun _ => not_wraps none, fun _ => .done (calm_ok _)⟩
      · rw [if_neg stop]
        have read := Varint.pair_some tagged stop
        have other (is : (tag &&& 0x7).toNat ≠ 2) :
            ¬ Wraps (fun number => number % 2 ^ 32 = 1) data start :=
          not_wraps (delimitedAt_other read is)
        extract_lets pos field
        split
        next is =>
          split
          next value n2 counted =>
            exact ⟨fun _ => other (by omega), fun _ => .next (by simp only [pos]; omega)⟩
        next is =>
          exact ⟨fun _ => other (by omega), fun _ => .next (by simp only [pos]; omega)⟩
        next is =>
          split
          next len n2 counted =>
            rw [readVarint_eq] at counted
            extract_lets behind stop
            by_cases cut : n2 = 0
            · have nothing := Varint.pair_zero counted cut
              have none := no_length read (Varint.pair_none counted cut)
              have bounds := Varint.read_bounds read
              rw [List.length_drop] at bounds
              have stays : stop = behind := by
                simp only [stop, nothing, UInt64.toNat_zero, Nat.add_zero]
                exact Nat.mod_eq_of_lt (by omega)
              refine ⟨fun _ => not_wraps none, fun _ => ?_⟩
              rw [stays]
              split_ifs
              · exact .next (by simp only [behind, pos]; omega)
              · exact absurd (Nat.le_refl behind) (by assumption)
              · exact .next (by simp only [behind, pos]; omega)
              · exact .next (by simp only [behind, pos]; omega)
            · have value := Varint.pair_some counted cut
              have tag_bounds := Varint.read_bounds read
              have bounds := Varint.read_bounds value
              rw [List.length_drop] at tag_bounds bounds
              have ends : stop = (start + n + n2 + len.toNat) % 2 ^ 64 := rfl
              have from_tag : behind = start + n + n2 := rfl
              rw [wrapped_sum (by omega) len.toNat_lt] at ends
              have word := len.toNat_lt
              rw [wraps_iff read is value, ← number_cast32]
              split_ifs at ends with wrapped
              · by_cases own : field = 1
                · rw [if_pos own, if_pos (by omega), if_neg (by omega), forward_done_iff,
                    iff_false_left not_calm_panic]
                  exact not_not.mpr ⟨wrapped, .inl own⟩
                · rw [if_neg own, forward_next_iff, or_iff_right own]
                  show (start : Int) < stop ↔ _
                  omega
              · rw [iff_true_right (fun both => wrapped both.1)]
                have ahead : start < behind ∧ behind ≤ stop := by omega
                split_ifs with own short backward
                · exact .next (Int.ofNat_lt.mpr (by omega))
                · exact absurd ahead.2 backward
                · exact .next (Int.ofNat_lt.mpr ahead.1)
                · exact .next (Int.ofNat_lt.mpr (by omega))
        next is =>
          refine ⟨fun _ => other (by omega), fun _ => ?_⟩
          split_ifs
          · exact .next (by simp only [pos]; omega)
          · exact .next (by simp only [pos]; omega)
          · exact .next (by simp only [pos]; omega)
        next is _ _ _ => exact ⟨fun _ => other (by omega), fun _ => .done (calm_ok _)⟩
  · rw [if_neg inside]
    exact ⟨fun _ wraps => inside wraps.inside, fun _ => .done (calm_ok _)⟩

theorem partialDecodeStep_scan {pos length : Nat} {field : Field} (held : data.length < 2 ^ 63)
    (env : PartialEnvelope) (inside : pos < data.length)
    (scanned : scanField (data.drop pos) = some (field, length)) :
    partialDecodeStep data (pos, env) = .next (pos + length, env.apply field.castNumber) := by
  obtain ⟨number, payload⟩ := field
  obtain ⟨tag, tagLength, size, read, same, kind, content, rfl⟩ := scanField_content32 scanned
  have some_tag := (Varint.read_bounds read).1.ne'
  have tagged : readVarint (data.drop pos) = (tag, tagLength) := by
    rw [readVarint_eq, read]
    rfl
  rw [partialDecodeStep, if_pos inside, tagged]
  simp only
  rw [if_neg some_tag, same, kind]
  cases content with
  | @varint word _ value =>
    have counted : readVarint (data.drop (pos + tagLength)) = (word, size) := by
      rw [readVarint_eq, value]
      rfl
    simp only [Payload.wireType, counted, PartialEnvelope.apply, Field.castNumber, Nat.add_assoc]
  | fixed64 _ =>
    simp only [Payload.wireType, PartialEnvelope.apply, Field.castNumber, Nat.add_assoc]
  | @delimited count countLength value whole =>
    have counted : readVarint (data.drop (pos + tagLength)) = (count, countLength) := by
      rw [readVarint_eq, value]
      rfl
    have unwrapped : (pos + tagLength + countLength + count.toNat) % 2 ^ 64 =
        pos + tagLength + countLength + count.toNat := Nat.mod_eq_of_lt (by omega)
    simp only [Payload.wireType, counted, unwrapped]
    by_cases own : number % 2 ^ 32 = 1
    · have known (part : List UInt8) : env.apply (Field.castNumber ⟨number, .delimited part⟩) =
          { env with vehicleId := Utf8.lossy part } := if_pos own
      rw [if_pos own, if_pos whole, if_pos (by omega), known]
      simp only [Nat.add_assoc]
    · have unknown (part : List UInt8) :
          env.apply (Field.castNumber ⟨number, .delimited part⟩) = env := if_neg own
      rw [if_neg own, unknown]
      simp only [Nat.add_assoc]
  | fixed32 whole =>
    by_cases float : number % 2 ^ 32 = 5 ∨ number % 2 ^ 32 = 6 ∨ number % 2 ^ 32 = 7
    · have known (bits : UInt32) : env.apply (Field.castNumber ⟨number, .fixed32 bits⟩) =
          env.setFloat (number % 2 ^ 32) bits := if_pos float
      simp only [Payload.wireType, if_pos float, if_pos whole]
      rw [known, f32At, Nat.add_assoc]
    · have unknown (bits : UInt32) : env.apply (Field.castNumber ⟨number, .fixed32 bits⟩) = env :=
        if_neg float
      simp only [Payload.wireType, if_neg float, unknown, Nat.add_assoc]

end Rounds

/-! ## Runs -/

/-- The decoder returns an envelope, and every iteration has moved forward, exactly if no length
wraps where an iteration begins. -/
theorem partial_decode_safe_iff {data : List UInt8} (held : data.length < 2 ^ 63)
    (vehicleId : String) (now : UInt64) :
    Safe (partialDecodeStep data) (fun state => (state.1 : Int))
        (0, emptyEnvelope data vehicleId now) (partialDecodeEnvelope data vehicleId now) ↔
      ∀ pos env, Visits (partialDecodeStep data) (0, emptyEnvelope data vehicleId now) (pos, env) →
        ¬ Wraps (fun number => number % 2 ^ 32 = 1) data pos :=
  safe_nat_iff (emptyEnvelope data vehicleId now)
    (fun pos env outside => ⟨_, by rw [partialDecodeStep, if_neg outside]⟩)
    (partialDecodeStep_forward_iff held)

theorem cut_frame_decoded_safely :
    Safe (partialDecodeStep [0x18]) (fun state => (state.1 : Int))
      (0, emptyEnvelope [0x18] "v1" 7) (partialDecodeEnvelope [0x18] "v1" 7) :=
  (partial_decode_safe_iff (by decide) "v1" 7).mpr fun pos _ _ =>
    not_wraps (delimitedAt_tiny (by decide) pos)

/-- A field of 2^64 - 11 bytes: its end is its start. -/
def wrappedFrame (tag : UInt8) : List UInt8 :=
  [tag, 0xF5, 0xFF, 0xFF, 0xFF, 0xFF, 0xFF, 0xFF, 0xFF, 0xFF, 0x01]

theorem wrapped_frame_fails :
    (partialDecodeEnvelope (wrappedFrame 0x0A) "v1" 7 = .panic ∧
      ¬ Safe (partialDecodeStep (wrappedFrame 0x0A)) (fun state => (state.1 : Int))
        (0, emptyEnvelope (wrappedFrame 0x0A) "v1" 7)
        (partialDecodeEnvelope (wrappedFrame 0x0A) "v1" 7)) ∧
    ∀ fuel, loop (partialDecodeStep (wrappedFrame 0x7A)) fuel
      (0, emptyEnvelope (wrappedFrame 0x7A) "v1" 7) = none := by
  have panics : partialDecodeEnvelope (wrappedFrame 0x0A) "v1" 7 = .panic := rfl
  have again : partialDecodeStep (wrappedFrame 0x7A)
      (0, emptyEnvelope (wrappedFrame 0x7A) "v1" 7) =
        .next (0, emptyEnvelope (wrappedFrame 0x7A) "v1" 7) := rfl
  refine ⟨⟨panics, fun safe => safe.calm.1 panics⟩, fun fuel => ?_⟩
  induction fuel with
  | zero => rfl
  | succ fuel ih => rw [loop_next fuel again, ih]

-- Of a well-formed frame the last value of each field that the decoder knows is kept.
theorem partialDecodeEnvelope_reads {data : List UInt8} {fields : List Field}
    (held : data.length < 2 ^ 63) (formed : WellFormed data fields) (vehicleId : String)
    (now : UInt64) :
    partialDecodeEnvelope data vehicleId now =
      .ok ((emptyEnvelope data vehicleId now).collect
        fun pick absent => last pick absent fields) := by
  have walk : loop (partialDecodeStep data) (data.length + 1)
      (0, emptyEnvelope data vehicleId now) = some (.ok (fields.foldl
        (fun env field => env.apply field.castNumber) (emptyEnvelope data vehicleId now))) :=
    loop_reads _ Prod.mk _ .ok data
      (fun pos field length env inside scanned => partialDecodeStep_scan held env inside scanned)
      (fun env => by rw [partialDecodeStep, if_neg (Nat.lt_irrefl _)])
      (by rw [List.drop_zero]; exact formed.1) (Nat.zero_le _) (Nat.lt_succ_self _)
  rw [partialDecodeEnvelope, walk, ← PartialEnvelope.foldl_eq]
  nth_rewrite 2 [← Field.map_castNumber formed.2]
  rw [List.foldl_map]
  rfl

end SystemScale.Agent
