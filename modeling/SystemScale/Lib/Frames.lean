import Mathlib.Data.List.TakeWhile
import SystemScale.Lib.Wire

set_option autoImplicit false

/-!
# Length-prefixed frames

A frame is `[u32 little-endian length][bytes]`. A reader takes a prefix, checks it against its
limit, takes the body and hands it on, from a stream that arrives in chunks.
-/

namespace Frames

open Bytes
open Wire (Outcome Step loop loop_next loop_done)

def frame (payload : List UInt8) : List UInt8 := leBytes 4 payload.length ++ payload

def frames (payloads : List (List UInt8)) : List UInt8 := payloads.flatMap frame

/-- The payloads whose frames lie within the first `cut` bytes. -/
def complete : Nat → List (List UInt8) → List (List UInt8)
  | _, [] => []
  | cut, payload :: rest =>
    if 4 + payload.length ≤ cut then payload :: complete (cut - (4 + payload.length)) rest else []

@[simp] theorem length_frame (payload : List UInt8) :
    (frame payload).length = 4 + payload.length := by
  simp [frame]

@[simp] theorem frames_cons (payload : List UInt8) (rest : List (List UInt8)) :
    frames (payload :: rest) = frame payload ++ frames rest := rfl

theorem complete_whole {cut : Nat} {payloads : List (List UInt8)}
    (whole : (frames payloads).length ≤ cut) : complete cut payloads = payloads := by
  induction payloads generalizing cut with
  | nil => rfl
  | cons payload rest ih =>
    simp only [frames_cons, List.length_append, length_frame] at whole
    rw [complete, if_pos (by omega), ih (by omega)]

theorem mem_of_complete {cut : Nat} {payloads : List (List UInt8)} {payload : List UInt8}
    (member : payload ∈ complete cut payloads) : payload ∈ payloads := by
  induction payloads generalizing cut with
  | nil => exact member
  | cons first rest ih =>
    rw [complete] at member
    split_ifs at member with fits
    · rcases List.mem_cons.mp member with rfl | later
      · exact List.mem_cons_self
      · exact List.mem_cons_of_mem _ (ih later)
    · simp at member

@[simp] theorem frames_nil : frames [] = [] := rfl

theorem frames_append (first second : List (List UInt8)) :
    frames (first ++ second) = frames first ++ frames second :=
  List.flatMap_append

theorem complete_append (cut : Nat) (first more : List (List UInt8)) :
    complete cut (first ++ more) =
      if (frames first).length ≤ cut then first ++ complete (cut - (frames first).length) more
      else complete cut first := by
  induction first generalizing cut with
  | nil => simp
  | cons payload rest ih =>
    rw [List.cons_append, complete, complete, frames_cons, List.length_append, length_frame]
    by_cases fits : 4 + payload.length ≤ cut
    · rw [if_pos fits, if_pos fits, ih]
      by_cases whole : (frames rest).length ≤ cut - (4 + payload.length)
      · rw [if_pos whole, if_pos (by omega), List.cons_append, Nat.sub_sub]
      · rw [if_neg whole, if_neg (by omega)]
    · rw [if_neg fits, if_neg fits, if_neg (by omega)]

theorem complete_prefix (cut : Nat) (payloads : List (List UInt8)) :
    complete cut payloads <+: payloads := by
  induction payloads generalizing cut with
  | nil => exact List.prefix_refl _
  | cons payload rest ih =>
    rw [complete]
    split_ifs
    · exact (List.prefix_cons_inj _).mpr (ih _)
    · exact List.nil_prefix

theorem frames_length {payloads : List (List UInt8)} {lenBuf rest : List UInt8}
    (narrow : ∀ payload ∈ payloads, payload.length < 2 ^ 32) (four : lenBuf.length = 4)
    (stream : frames payloads = lenBuf ++ rest) :
    ∃ payload more, payloads = payload :: more ∧ leValue lenBuf = payload.length := by
  cases payloads with
  | nil =>
    have empty := congrArg List.length stream
    simp only [frames_nil, List.length_nil, List.length_append] at empty
    omega
  | cons payload more =>
    refine ⟨payload, more, rfl, ?_⟩
    rw [frames_cons, frame, List.append_assoc] at stream
    have same := (List.append_inj stream (by simp [four])).1
    have small := narrow payload List.mem_cons_self
    rw [← same, leValue_leBytes_of_lt (by omega)]

theorem frames_prefix {payloads first : List (List UInt8)} {rest : List UInt8}
    (narrow : ∀ payload ∈ payloads, payload.length < 2 ^ 32)
    (narrow_first : ∀ payload ∈ first, payload.length < 2 ^ 32)
    (stream : frames payloads = frames first ++ rest) :
    ∃ more, payloads = first ++ more ∧ frames more = rest := by
  induction first generalizing payloads with
  | nil => exact ⟨payloads, rfl, stream⟩
  | cons head tail ih =>
    have small := narrow_first head List.mem_cons_self
    have lengths : frames payloads = leBytes 4 head.length ++ (head ++ (frames tail ++ rest)) := by
      rw [stream, frames_cons, frame]
      simp only [List.append_assoc]
    obtain ⟨payload, others, rfl, length⟩ := frames_length narrow (length_leBytes 4 _) lengths
    rw [leValue_leBytes_of_lt (by omega)] at length
    rw [frames_cons, frame, ← length, List.append_assoc] at lengths
    obtain ⟨rfl, later⟩ := List.append_inj (List.append_cancel_left lengths) length.symm
    obtain ⟨more, rfl, behind⟩ :=
      ih (fun payload member => narrow payload (List.mem_cons_of_mem _ member))
        (fun payload member => narrow_first payload (List.mem_cons_of_mem _ member)) later
    exact ⟨more, rfl, behind⟩

/-! ## Chunks -/

/-- The bytes that were asked for, and the chunks behind them. There is nothing when the stream ends
before they are all there. -/
def readExact : Nat → List (List UInt8) → Option (List UInt8 × List (List UInt8))
  | count, [] => if count = 0 then some ([], []) else none
  | count, chunk :: rest =>
    if count ≤ chunk.length then some (chunk.take count, chunk.drop count :: rest)
    else (readExact (count - chunk.length) rest).map fun (bytes, left) => (chunk ++ bytes, left)

theorem readExact_none {count : Nat} {chunks : List (List UInt8)}
    (short : chunks.flatten.length < count) : readExact count chunks = none := by
  induction chunks generalizing count with
  | nil =>
    simp only [List.flatten_nil, List.length_nil] at short
    rw [readExact, if_neg (by omega)]
  | cons chunk rest ih =>
    simp only [List.flatten_cons, List.length_append] at short
    rw [readExact, if_neg (by omega), ih (by omega)]
    rfl

theorem readExact_some {count : Nat} {chunks : List (List UInt8)}
    (enough : count ≤ chunks.flatten.length) :
    ∃ left, readExact count chunks = some (chunks.flatten.take count, left) ∧
      left.flatten = chunks.flatten.drop count := by
  induction chunks generalizing count with
  | nil =>
    obtain rfl : count = 0 := by simpa using enough
    exact ⟨[], rfl, rfl⟩
  | cons chunk rest ih =>
    simp only [List.flatten_cons, List.length_append] at enough
    by_cases inside : count ≤ chunk.length
    · refine ⟨chunk.drop count :: rest, ?_, ?_⟩
      · rw [readExact, if_pos inside, List.flatten_cons, List.take_append_of_le_length inside]
      · rw [List.flatten_cons, List.flatten_cons, List.drop_append_of_le_length inside]
    · obtain ⟨left, read, behind⟩ := ih (show count - chunk.length ≤ rest.flatten.length by omega)
      have past : chunk.length ≤ count := by omega
      refine ⟨left, ?_, ?_⟩
      · rw [readExact, if_neg inside, read, List.flatten_cons, List.take_append,
          List.take_of_length_le past]
        rfl
      · rw [behind, List.flatten_cons, List.drop_append, List.drop_eq_nil_of_le past,
          List.nil_append]

theorem readExact_flatten {count : Nat} {chunks left : List (List UInt8)} {bytes : List UInt8}
    (read : readExact count chunks = some (bytes, left)) :
    bytes.length = count ∧ chunks.flatten = bytes ++ left.flatten := by
  by_cases short : chunks.flatten.length < count
  · rw [readExact_none short] at read
    cases read
  · obtain ⟨others, again, behind⟩ := readExact_some (Nat.le_of_not_lt short)
    obtain ⟨rfl, rfl⟩ := Prod.mk.inj (Option.some.inj (read.symm.trans again))
    refine ⟨by rw [List.length_take]; omega, ?_⟩
    rw [behind, List.take_append_drop]

/-! ## Readers -/

structure Reader (D : Type) where
  limit : Nat
  tooLarge : Nat → String
  handle : List UInt8 → Outcome D

inductive Ending where
  -- The stream ended where bytes were awaited.
  | closed
  | failed (message : String)
  | panicked
  | hung
  deriving DecidableEq

/-- The payloads that were handled, in order and with what was made of them. -/
structure Session (D : Type) where
  handled : List (List UInt8 × D)
  ending : Ending

variable {D : Type}

def Session.payloads (session : Session D) : List (List UInt8) := session.handled.map Prod.fst

def Reader.step (reader : Reader D) :
    List (List UInt8) × List (List UInt8 × D) →
      Step (List (List UInt8) × List (List UInt8 × D)) (Session D)
  | (chunks, handled) =>
    match readExact 4 chunks with
    | none => .done ⟨handled, .closed⟩
    | some (lenBuf, chunks) =>
      let len := leValue lenBuf
      if len > reader.limit then .done ⟨handled, .failed (reader.tooLarge len)⟩
      else
        match readExact len chunks with
        | none => .done ⟨handled, .closed⟩
        | some (payload, chunks) =>
          match reader.handle payload with
          | .ok value => .next (chunks, handled ++ [(payload, value)])
          | .err message => .done ⟨handled, .failed message⟩
          | .panic => .done ⟨handled, .panicked⟩
          | .hang => .done ⟨handled, .hung⟩

def Reader.run (reader : Reader D) (chunks : List (List UInt8)) : Option (Session D) :=
  loop reader.step (chunks.flatten.length + 1) (chunks, [])

def Reader.accepts (reader : Reader D) (payload : List UInt8) : Bool :=
  match reader.handle payload with
  | .ok _ => true
  | _ => false

/-- The reader gets the payload out of its frame, and is there for the next one. -/
def Reader.Takes (reader : Reader D) (payload : List UInt8) : Prop :=
  ∀ chunks, chunks.flatten = frame payload →
    ∃ session, reader.run chunks = some session ∧ session.payloads = [payload] ∧
      session.ending = .closed

namespace Reader

variable {reader : Reader D}

theorem accepts_iff {payload : List UInt8} :
    reader.accepts payload = true ↔ ∃ value, reader.handle payload = .ok value := by
  unfold accepts
  cases reader.handle payload <;> simp

/-! ## One frame -/

section Step

variable {chunks : List (List UInt8)} {handled : List (List UInt8 × D)} {payload rest : List UInt8}

theorem step_short (short : chunks.flatten.length < 4) :
    reader.step (chunks, handled) = .done ⟨handled, .closed⟩ := by
  rw [step, readExact_none short]

theorem read_prefix (narrow : payload.length < 2 ^ 32)
    (stream : chunks.flatten = leBytes 4 payload.length ++ rest) :
    ∃ lenBuf left, readExact 4 chunks = some (lenBuf, left) ∧ leValue lenBuf = payload.length ∧
      left.flatten = rest := by
  have enough : 4 ≤ chunks.flatten.length := by simp [stream]
  obtain ⟨left, read, behind⟩ := readExact_some enough
  have four : (leBytes 4 payload.length).length = 4 := length_leBytes 4 payload.length
  refine ⟨_, left, read, ?_, ?_⟩
  · rw [stream, List.take_left' four, leValue_leBytes_of_lt (by omega)]
  · rw [behind, stream, List.drop_left' four]

theorem step_partial (narrow : payload.length < 2 ^ 32) (small : payload.length ≤ reader.limit)
    (stream : chunks.flatten = leBytes 4 payload.length ++ rest)
    (short : rest.length < payload.length) :
    reader.step (chunks, handled) = .done ⟨handled, .closed⟩ := by
  obtain ⟨lenBuf, left, read, len, behind⟩ := read_prefix narrow stream
  have none : readExact payload.length left = none := readExact_none (by rw [behind]; exact short)
  rw [step, read]
  simp only [len, none, if_neg (show ¬payload.length > reader.limit by omega)]

theorem step_frame (narrow : payload.length < 2 ^ 32) (small : payload.length ≤ reader.limit)
    (stream : chunks.flatten = frame payload ++ rest) :
    ∃ left, left.flatten = rest ∧
      reader.step (chunks, handled) =
        match reader.handle payload with
        | .ok value => .next (left, handled ++ [(payload, value)])
        | .err message => .done ⟨handled, .failed message⟩
        | .panic => .done ⟨handled, .panicked⟩
        | .hang => .done ⟨handled, .hung⟩ := by
  rw [frame, List.append_assoc] at stream
  obtain ⟨lenBuf, middle, read, len, behind⟩ := read_prefix narrow stream
  have enough : payload.length ≤ middle.flatten.length := by simp [behind]
  obtain ⟨left, body, after⟩ := readExact_some enough
  rw [behind, List.take_left] at body
  rw [behind, List.drop_left] at after
  refine ⟨left, after, ?_⟩
  rw [step, read]
  simp only [len, body, if_neg (show ¬payload.length > reader.limit by omega)]

theorem step_sound :
    (∀ left later, reader.step (chunks, handled) = .next (left, later) →
      left.flatten.length < chunks.flatten.length ∧ ∃ payload value,
        later = handled ++ [(payload, value)] ∧ payload.length ≤ reader.limit ∧
          reader.handle payload = .ok value) ∧
    ∀ session, reader.step (chunks, handled) = .done session → session.handled = handled := by
  by_cases short : chunks.flatten.length < 4
  · rw [step_short short]
    exact ⟨by simp, by rintro session is; cases is; rfl⟩
  · obtain ⟨middle, read, behind⟩ := readExact_some (show 4 ≤ chunks.flatten.length by omega)
    rw [step, read]
    simp only
    generalize leValue (chunks.flatten.take 4) = len
    by_cases large : len > reader.limit
    · rw [if_pos large]
      exact ⟨by simp, by rintro session is; cases is; rfl⟩
    · rw [if_neg large]
      by_cases cut : middle.flatten.length < len
      · rw [readExact_none cut]
        exact ⟨by simp, by rintro session is; cases is; rfl⟩
      · obtain ⟨left, body, after⟩ := readExact_some (show len ≤ middle.flatten.length by omega)
        rw [body]
        simp only
        generalize taken : middle.flatten.take len = payload
        cases handle : reader.handle payload with
        | ok value =>
          refine ⟨?_, by simp⟩
          intro left' later is
          obtain ⟨rfl, rfl⟩ := Prod.mk.inj (Step.next.inj is)
          refine ⟨?_, payload, value, rfl, ?_, handle⟩
          · rw [after, behind, List.length_drop, List.length_drop]
            omega
          · rw [← taken, List.length_take]
            omega
        | err message => exact ⟨by simp, by rintro session is; cases is; rfl⟩
        | panic => exact ⟨by simp, by rintro session is; cases is; rfl⟩
        | hang => exact ⟨by simp, by rintro session is; cases is; rfl⟩

theorem step_next {left : List (List UInt8)} {later : List (List UInt8 × D)}
    (taken : reader.step (chunks, handled) = .next (left, later)) :
    ∃ payload value, later = handled ++ [(payload, value)] ∧ payload.length ≤ reader.limit ∧
      reader.handle payload = .ok value ∧ chunks.flatten = frame payload ++ left.flatten := by
  rw [step] at taken
  split at taken
  · cases taken
  · next lenBuf middle read =>
    obtain ⟨four, stream⟩ := readExact_flatten read
    simp only at taken
    split_ifs at taken with large
    split at taken
    · cases taken
    · next payload last body =>
      obtain ⟨length, behind⟩ := readExact_flatten body
      split at taken
      · next value handles =>
        obtain ⟨rfl, rfl⟩ := Prod.mk.inj (Step.next.inj taken)
        refine ⟨payload, value, rfl, by omega, handles, ?_⟩
        rw [frame, length, ← four, leBytes_leValue, stream, behind, List.append_assoc]
      · cases taken
      · cases taken
      · cases taken

end Step

/-! ## Streams -/

def Handled (reader : Reader D) (entry : List UInt8 × D) : Prop :=
  entry.1.length ≤ reader.limit ∧ reader.handle entry.1 = .ok entry.2

theorem loop_sound {fuel : Nat} {chunks : List (List UInt8)} {handled : List (List UInt8 × D)}
    {session : Session D} (start : ∀ entry ∈ handled, reader.Handled entry)
    (ran : loop reader.step fuel (chunks, handled) = some session) :
    ∀ entry ∈ session.handled, reader.Handled entry := by
  induction fuel generalizing chunks handled with
  | zero => simp [loop] at ran
  | succ fuel ih =>
    obtain ⟨goesOn, stops⟩ := step_sound 
    cases step : reader.step (chunks, handled) with
    | next state =>
      obtain ⟨left, later⟩ := state
      obtain ⟨-, payload, value, rfl, small, handle⟩ := goesOn left later step
      rw [loop_next fuel step] at ran
      refine ih ?_ ran
      intro entry member
      rcases List.mem_append.mp member with earlier | last
      · exact start entry earlier
      · obtain rfl := List.mem_singleton.mp last
        exact ⟨small, handle⟩
    | done result =>
      rw [loop_done fuel step] at ran
      obtain rfl := Option.some.inj ran
      rw [stops result step]
      exact start

theorem run_sound {chunks : List (List UInt8)} {session : Session D}
    (ran : reader.run chunks = some session) : ∀ entry ∈ session.handled, reader.Handled entry :=
  loop_sound (by simp) ran

-- Of the first `cut` bytes of the stream, whatever its chunks, a reader handles the complete
-- frames up to the first that its handler does not survive.
theorem loop_frames (narrow : reader.limit < 2 ^ 32) {payloads : List (List UInt8)}
    (small : ∀ payload ∈ payloads, payload.length ≤ reader.limit) {cut fuel : Nat}
    {chunks : List (List UInt8)} {handled : List (List UInt8 × D)}
    (stream : chunks.flatten = (frames payloads).take cut) (enough : chunks.flatten.length < fuel) :
    ∃ session, loop reader.step fuel (chunks, handled) = some session ∧
      session.payloads =
        handled.map Prod.fst ++ (complete cut payloads).takeWhile reader.accepts ∧
      ((∀ payload ∈ complete cut payloads, reader.accepts payload) → session.ending = .closed) := by
  obtain ⟨fuel, rfl⟩ : ∃ less, fuel = less + 1 := ⟨fuel - 1, by omega⟩
  induction payloads generalizing cut fuel chunks handled with
  | nil =>
    have short : chunks.flatten.length < 4 := by simp [stream, frames]
    exact ⟨_, loop_done fuel (step_short short), by simp [Session.payloads, complete], fun _ => rfl⟩
  | cons payload rest ih =>
    have fits := small payload List.mem_cons_self
    rw [frames_cons] at stream
    by_cases whole : 4 + payload.length ≤ cut
    · rw [List.take_append, List.take_of_length_le (by simpa using whole), length_frame] at stream
      obtain ⟨left, behind, step⟩ :=
        step_frame (by omega) fits stream
      rw [complete, if_pos whole]
      by_cases accepted : reader.accepts payload = true
      · obtain ⟨value, handle⟩ := accepts_iff.mp accepted
        rw [handle] at step
        have shorter : left.flatten.length < fuel := by
          rw [behind]
          simp only [stream, List.length_append, length_frame] at enough
          omega
        obtain ⟨less, rfl⟩ : ∃ less, fuel = less + 1 := ⟨fuel - 1, by omega⟩
        obtain ⟨session, ran, is, ending⟩ :=
          ih (fun other member => small other (List.mem_cons_of_mem _ member))
            behind less shorter
        refine ⟨session, (loop_next _ step).trans ran, ?_, ?_⟩
        · rw [is, List.takeWhile_cons_of_pos accepted]
          simp
        · intro all
          exact ending fun other member => all other (List.mem_cons_of_mem _ member)
      · have stopped : ∃ ending, reader.step (chunks, handled) = .done ⟨handled, ending⟩ := by
          unfold accepts at accepted
          cases handle : reader.handle payload with
          | ok value => simp [handle] at accepted
          | err message => exact ⟨_, by rw [step, handle]⟩
          | panic => exact ⟨_, by rw [step, handle]⟩
          | hang => exact ⟨_, by rw [step, handle]⟩
        obtain ⟨ending, step⟩ := stopped
        refine ⟨_, loop_done fuel step, ?_, ?_⟩
        · rw [List.takeWhile_cons_of_neg accepted]
          simp [Session.payloads]
        · intro all
          exact absurd (all payload List.mem_cons_self) accepted
    · rw [complete, if_neg whole]
      have stopped : reader.step (chunks, handled) = .done ⟨handled, .closed⟩ := by
        rw [List.take_append_of_le_length (by rw [length_frame]; omega)] at stream
        by_cases short : cut < 4
        · refine step_short ?_
          rw [stream, List.length_take]
          omega
        · have four : (leBytes 4 payload.length).length = 4 := length_leBytes 4 payload.length
          rw [frame, List.take_append, List.take_of_length_le (by omega), four] at stream
          refine step_partial (by omega) fits stream ?_
          rw [List.length_take]
          omega
      exact ⟨_, loop_done fuel stopped, by simp [Session.payloads], fun _ => rfl⟩

theorem run_frames (narrow : reader.limit < 2 ^ 32) {payloads : List (List UInt8)}
    (small : ∀ payload ∈ payloads, payload.length ≤ reader.limit) {cut : Nat}
    {chunks : List (List UInt8)} (stream : chunks.flatten = (frames payloads).take cut) :
    ∃ session, reader.run chunks = some session ∧
      session.payloads = (complete cut payloads).takeWhile reader.accepts ∧
      ((∀ payload ∈ complete cut payloads, reader.accepts payload) → session.ending = .closed) := by
  obtain ⟨session, ran, is, ending⟩ :=
    loop_frames narrow small stream (Nat.lt_succ_self chunks.flatten.length)
  exact ⟨session, ran, is, ending⟩

theorem delivers_iff (reader : Reader D) (narrow : reader.limit < 2 ^ 32) {payloads : List (List UInt8)}
    (small : ∀ payload ∈ payloads, payload.length ≤ reader.limit) {cut : Nat}
    {chunks : List (List UInt8)} (stream : chunks.flatten = (frames payloads).take cut) :
    (∃ session, reader.run chunks = some session ∧ session.payloads = complete cut payloads) ↔
      ∀ payload ∈ complete cut payloads, reader.accepts payload := by
  obtain ⟨session, ran, is, -⟩ := run_frames narrow small stream
  rw [← List.takeWhile_eq_self_iff, ← is]
  constructor
  · rintro ⟨other, same, delivered⟩
    obtain rfl := Option.some.inj (ran.symm.trans same)
    exact delivered
  · intro delivered
    exact ⟨session, ran, delivered⟩

theorem takes_iff (reader : Reader D) (narrow : reader.limit < 2 ^ 32) {payload : List UInt8} :
    reader.Takes payload ↔ payload.length ≤ reader.limit ∧ reader.accepts payload := by
  constructor
  · intro takes
    obtain ⟨session, ran, is, -⟩ := takes [frame payload] (by simp)
    obtain ⟨entry, member, rfl⟩ : ∃ entry ∈ session.handled, entry.1 = payload := by
      have inside : payload ∈ session.payloads := by simp [is]
      simpa [Session.payloads] using inside
    obtain ⟨small, handle⟩ := run_sound ran entry member
    exact ⟨small, accepts_iff.mpr ⟨_, handle⟩⟩
  · rintro ⟨small, accepted⟩ chunks stream
    have whole : complete (frame payload).length [payload] = [payload] :=
      complete_whole (by simp [frames])
    have cut : chunks.flatten = (frames [payload]).take (frame payload).length := by
      rw [stream, frames_cons, List.take_left]
    obtain ⟨session, ran, is, ending⟩ := run_frames narrow (by simpa using small) cut
    rw [whole] at is ending
    refine ⟨session, ran, ?_, ending (by simpa using accepted)⟩
    rw [is, List.takeWhile_cons_of_pos accepted, List.takeWhile_nil]

end Reader

end Frames
