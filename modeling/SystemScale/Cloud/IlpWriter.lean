import Mathlib.Data.List.Count
import SystemScale.Lib.LineProtocol
import SystemScale.Lib.Runs

set_option autoImplicit false

/-!
# The writer to QuestDB

Lines are put into a buffer, and a batch of them goes out over TCP. A write that fails may have
delivered any beginning of the batch, and is followed by another one on a new connection.
-/

namespace SystemScale.Cloud

open Runs
open LineProtocol (newline)

/-! ## Lines of a stream -/

/-- What a stream has up to its last newline, line by line, and what comes after it. -/
def splitLines : List UInt8 → List (List UInt8) × List UInt8
  | [] => ([], [])
  | byte :: rest =>
    if byte = newline then ([] :: (splitLines rest).1, (splitLines rest).2)
    else
      match (splitLines rest).1 with
      | [] => ([], byte :: (splitLines rest).2)
      | line :: others => ((byte :: line) :: others, (splitLines rest).2)

def pieces (bytes : List UInt8) : List (List UInt8) := (splitLines bytes).1

def joinLines (lines : List (List UInt8)) : List UInt8 :=
  lines.flatMap fun line => line ++ [newline]

/-! ## The writer -/

/-- A connection has the bytes that QuestDB got over it. One that `Close` has shut is still in the
writer's field. -/
inductive Conn where
  | none
  | opened (received : List UInt8)
  | shut

def Conn.dialled (conn : Conn) (dials : Bool) : Conn :=
  match conn with
  | .none => if dials then .opened [] else .none
  | conn => conn

def Conn.streams : Conn → List (List UInt8)
  | .opened received => [received]
  | _ => []

/-- What becomes of an attempt: whether a dial succeeds, and, unless the write returns no error, how
many bytes it delivered. -/
structure AttemptOutcome where
  dials : Bool
  failsAfter : Option Nat

-- `batch`, `past` and `added` are no part of the program: the lines in the buffer, what came over
-- earlier connections, and all lines so far.
structure IlpWriter where
  conn : Conn
  buf : List UInt8
  count : Nat
  batch : List (List UInt8)
  past : List (List UInt8)
  added : List (List UInt8)
  closed : Bool

namespace IlpWriter

inductive Action where
  | add (line : List UInt8) (outcomes : Nat → AttemptOutcome)
  | tick (outcomes : Nat → AttemptOutcome)
  | close (outcomes : Nat → AttemptOutcome)

/-- All that QuestDB got, by connections. -/
def streams (writer : IlpWriter) : List (List UInt8) := writer.past ++ writer.conn.streams

def reset (writer : IlpWriter) : IlpWriter := { writer with buf := [], count := 0, batch := [] }

/-- The attempts of a flush, with how many are left. -/
def tryWrite (outcomes : Nat → AttemptOutcome) : Nat → Nat → IlpWriter → IlpWriter
  | _, 0, writer => writer.reset
  | attempt, left + 1, writer =>
    match writer.conn.dialled (outcomes attempt).dials with
    | .none => tryWrite outcomes (attempt + 1) left { writer with conn := .none }
    | .shut => tryWrite outcomes (attempt + 1) left { writer with conn := .none }
    | .opened received =>
      match (outcomes attempt).failsAfter with
      | none => { writer.reset with conn := .opened (received ++ writer.buf) }
      | some delivered =>
        tryWrite outcomes (attempt + 1) left
          { writer with
            conn := .none
            past := writer.past ++ [received ++ writer.buf.take delivered] }

def flush (outcomes : Nat → AttemptOutcome) (writer : IlpWriter) : IlpWriter :=
  if writer.count = 0 then writer else tryWrite outcomes 0 3 writer

def put (writer : IlpWriter) (line : List UInt8) : IlpWriter :=
  { writer with
    buf := writer.buf ++ (line ++ [newline])
    count := writer.count + 1
    batch := writer.batch ++ [line]
    added := writer.added ++ [line] }

def shutDown (writer : IlpWriter) : IlpWriter :=
  match writer.conn with
  | .opened received =>
    { writer with conn := .shut, past := writer.past ++ [received], closed := true }
  | _ => { writer with closed := true }

/-- What a call does under the lock. `Add` flushes a full batch. -/
def step (batchSize : Nat) (writer : IlpWriter) : Action → Option IlpWriter
  | .add line outcomes =>
    let filled := writer.put line
    some (if batchSize ≤ filled.count then filled.flush outcomes else filled)
  | .tick outcomes => some (writer.flush outcomes)
  -- To close a closed channel is a panic.
  | .close outcomes => if writer.closed then none else some (writer.flush outcomes).shutDown

/-- The first connection is made when the writer is. -/
def start : IlpWriter := ⟨.opened [], [], 0, [], [], [], false⟩

/-! ## What is promised -/

/-- The lines that QuestDB got, over all connections. -/
def delivered (writer : IlpWriter) : List (List UInt8) := writer.streams.flatMap pieces

/-- QuestDB got every line at most as often as it was added, and nothing else that ends in a
newline. -/
structure AtMostOnce (writer : IlpWriter) : Prop where
  once : ∀ line, writer.delivered.count line ≤ writer.added.count line
  whole : ∀ piece ∈ writer.delivered, piece ∈ writer.added

/-- How many bytes of the batch each write of a flush delivers. -/
def cuts (outcomes : Nat → AttemptOutcome) (size : Nat) : Nat → Nat → Conn → List Nat
  | _, 0, _ => []
  | attempt, left + 1, conn =>
    match conn.dialled (outcomes attempt).dials with
    | .opened _ =>
      match (outcomes attempt).failsAfter with
      | none => [size]
      | some delivered => min delivered size :: cuts outcomes size (attempt + 1) left .none
    | _ => cuts outcomes size (attempt + 1) left .none

/-- How many bytes of a batch come before the first newline that is inside a line. -/
def unbroken : List (List UInt8) → Nat
  | [] => 0
  | line :: rest =>
    if newline ∈ line then line.idxOf newline else line.length + 1 + unbroken rest

/-- No write delivers a newline that is inside a line, and at most one delivers a whole line. -/
def CarefulFlush (outcomes : Nat → AttemptOutcome) (writer : IlpWriter) : Prop :=
  writer.count ≠ 0 →
    (∀ size ∈ cuts outcomes writer.buf.length 0 3 writer.conn, size ≤ unbroken writer.batch) ∧
    (cuts outcomes writer.buf.length 0 3 writer.conn).countP
      (fun size => newline ∈ writer.buf.take size) ≤ 1

def Careful (batchSize : Nat) (writer : IlpWriter) : Action → Prop
  | .add line outcomes =>
    batchSize ≤ (writer.put line).count → CarefulFlush outcomes (writer.put line)
  | .tick outcomes => CarefulFlush outcomes writer
  | .close outcomes => CarefulFlush outcomes writer

/-! ## Texts and their lines -/

theorem splitLines_append (first second : List UInt8) (ended : (splitLines first).2 = []) :
    splitLines (first ++ second) =
      ((splitLines first).1 ++ (splitLines second).1, (splitLines second).2) := by
  induction first with
  | nil => rfl
  | cons byte rest ih =>
    rw [List.cons_append, splitLines, splitLines]
    by_cases break_ : byte = newline
    · simp only [splitLines, if_pos break_] at ended ⊢
      rw [ih ended]
      rfl
    · simp only [splitLines, if_neg break_] at ended ⊢
      cases split : (splitLines rest).1 with
      | nil => simp [split] at ended
      | cons line others =>
        simp only [split] at ended ⊢
        simp [ih ended, split]

theorem splitLines_newline (bytes : List UInt8) :
    (splitLines (bytes ++ [newline])).1 ≠ [] ∧ (splitLines (bytes ++ [newline])).2 = [] := by
  induction bytes with
  | nil => exact ⟨by simp [splitLines], rfl⟩
  | cons byte rest ih =>
    rw [List.cons_append, splitLines]
    split_ifs with break_
    · exact ⟨List.cons_ne_nil _ _, ih.2⟩
    · cases split : (splitLines (rest ++ [newline])).1 with
      | nil => exact absurd split ih.1
      | cons line others => exact ⟨List.cons_ne_nil _ _, ih.2⟩

theorem splitLines_unbroken {bytes : List UInt8} (whole : newline ∉ bytes) :
    splitLines bytes = ([], bytes) := by
  induction bytes with
  | nil => rfl
  | cons byte rest ih =>
    obtain ⟨other, whole⟩ := List.ne_and_not_mem_of_not_mem_cons whole
    rw [splitLines, if_neg other.symm, ih whole]

theorem splitLines_line {line : List UInt8} (whole : newline ∉ line) (rest : List UInt8) :
    splitLines (line ++ newline :: rest) =
      (line :: (splitLines rest).1, (splitLines rest).2) := by
  induction line with
  | nil => simp [splitLines]
  | cons byte line ih =>
    obtain ⟨other, whole⟩ := List.ne_and_not_mem_of_not_mem_cons whole
    rw [List.cons_append, splitLines, if_neg other.symm, ih whole]

theorem pieces_unbroken {bytes : List UInt8} (whole : newline ∉ bytes) : pieces bytes = [] := by
  rw [pieces, splitLines_unbroken whole]

theorem joinLines_ended (lines : List (List UInt8)) : (splitLines (joinLines lines)).2 = [] := by
  rcases List.eq_nil_or_concat lines with rfl | ⟨first, last, rfl⟩
  · rfl
  · have joined : joinLines (first.concat last) = (joinLines first ++ last) ++ [newline] := by
      simp [joinLines]
    rw [joined]
    exact (splitLines_newline _).2

-- What comes before the first newline inside a line is cut into the first lines of the batch.
theorem pieces_take {lines : List (List UInt8)} {size : Nat} (short : size ≤ unbroken lines) :
    pieces ((joinLines lines).take size) <+: lines := by
  induction lines generalizing size with
  | nil => simp [joinLines, pieces, splitLines]
  | cons line rest ih =>
    have joined : joinLines (line :: rest) = line ++ newline :: joinLines rest := by
      simp [joinLines]
    rw [joined]
    unfold unbroken at short
    split_ifs at short with broken
    · have inside := List.idxOf_lt_length_of_mem broken
      rw [List.take_append_of_le_length (by omega), pieces_unbroken]
      · exact List.nil_prefix
      · rw [List.mem_take_iff_idxOf_lt broken]
        omega
    · by_cases within : size ≤ line.length
      · rw [List.take_append_of_le_length within,
          pieces_unbroken fun member => broken (List.mem_of_mem_take member)]
        exact List.nil_prefix
      · have split : size = line.length + ((size - line.length - 1) + 1) := by omega
        rw [split, List.take_length_add_append, List.take_succ_cons, pieces,
          splitLines_line broken]
        exact List.cons_prefix_cons.mpr ⟨rfl, ih (by omega)⟩

/-! ## One flush -/

section Flushes

variable {writer : IlpWriter} {outcomes : Nat → AttemptOutcome}

/-- The buffer has the lines of the batch, and what came over a connection that is still open ends
behind a line. -/
structure Sound (writer : IlpWriter) : Prop where
  buffered : writer.buf = joinLines writer.batch
  counted : writer.count = writer.batch.length
  ended : ∀ received, writer.conn = .opened received → (splitLines received).2 = []

theorem pieces_append {first : List UInt8} (ended : (splitLines first).2 = [])
    (second : List UInt8) : pieces (first ++ second) = pieces first ++ pieces second := by
  rw [pieces, splitLines_append first second ended]
  rfl

theorem dialled_ended {conn : Conn} {dials : Bool} {received : List UInt8}
    (ended : ∀ received, conn = .opened received → (splitLines received).2 = [])
    (is : conn.dialled dials = .opened received) :
    (splitLines received).2 = [] ∧ pieces received = conn.streams.flatMap pieces := by
  cases conn with
  | none =>
    cases dials with
    | false => cases is
    | true =>
      obtain rfl := Conn.opened.inj is
      exact ⟨rfl, rfl⟩
  | opened old =>
    obtain rfl := Conn.opened.inj is
    exact ⟨ended old rfl, by simp [Conn.streams]⟩
  | shut => cases is

theorem dialled_streams {conn : Conn} {dials : Bool}
    (unopened : ∀ received, conn.dialled dials ≠ .opened received) : conn.streams = [] := by
  cases conn with
  | opened received => exact absurd rfl (unopened received)
  | _ => rfl

-- A flush adds what its writes deliver, and empties the buffer.
theorem tryWrite_delivered (sound : Sound writer) (attempt left : Nat) :
    (tryWrite outcomes attempt left writer).delivered =
      writer.delivered ++ (cuts outcomes writer.buf.length attempt left writer.conn).flatMap
        (fun size => pieces (writer.buf.take size)) ∧
    (tryWrite outcomes attempt left writer).batch = [] ∧
    (tryWrite outcomes attempt left writer).added = writer.added ∧
    Sound (tryWrite outcomes attempt left writer) := by
  induction left generalizing attempt writer with
  | zero =>
    refine ⟨by simp [tryWrite, cuts, reset, delivered, streams], rfl, rfl, rfl, rfl, sound.ended⟩
  | succ left ih =>
    rw [tryWrite, cuts]
    cases dialled : writer.conn.dialled (outcomes attempt).dials with
    | opened received =>
      obtain ⟨ended, same⟩ := dialled_ended sound.ended dialled
      cases fails : (outcomes attempt).failsAfter with
      | none =>
        refine ⟨?_, rfl, rfl, rfl, rfl, ?_⟩
        · simp [delivered, streams, reset, Conn.streams, pieces_append ended, same]
        · intro final is
          obtain rfl := Conn.opened.inj is
          rw [splitLines_append _ _ ended, sound.buffered]
          exact joinLines_ended _
      | some count =>
        have next : Sound { writer with
            conn := .none
            past := writer.past ++ [received ++ writer.buf.take count] } :=
          ⟨sound.buffered, sound.counted, nofun⟩
        obtain ⟨all, rest⟩ := ih next (attempt + 1)
        refine ⟨?_, rest⟩
        rw [all]
        simp [delivered, streams, Conn.streams, pieces_append ended, same, List.take_eq_take_min]
    | _ =>
      have next : Sound { writer with conn := .none } := ⟨sound.buffered, sound.counted, nofun⟩
      obtain ⟨all, rest⟩ := ih next (attempt + 1)
      have silent : writer.conn.streams = [] := dialled_streams (by rw [dialled]; exact nofun)
      refine ⟨?_, rest⟩
      rw [all, delivered, delivered, streams, streams, silent]
      rfl

theorem count_flatMap_le {cut : Nat → List (List UInt8)} {breaks : Nat → Bool}
    {sizes : List Nat} {line : List UInt8} {most : Nat} (one : sizes.countP breaks ≤ 1)
    (others : ∀ size ∈ sizes, breaks size = false → cut size = [])
    (bound : ∀ size ∈ sizes, (cut size).count line ≤ most) :
    (sizes.flatMap cut).count line ≤ most := by
  induction sizes with
  | nil => exact Nat.zero_le most
  | cons size rest ih =>
    rw [List.flatMap_cons, List.count_append]
    rw [List.countP_cons] at one
    have later := fun other (member : other ∈ rest) => others other (List.mem_cons_of_mem _ member)
    cases broken : breaks size with
    | false =>
      rw [others size List.mem_cons_self broken]
      have most_later := ih (by omega) later fun other member =>
        bound other (List.mem_cons_of_mem _ member)
      simpa using most_later
    | true =>
      -- The one write that delivers a line is this one.
      rw [if_pos broken] at one
      have none_left : rest.countP breaks = 0 := by omega
      have silent : rest.flatMap cut = [] := by
        rw [List.flatMap_eq_nil_iff]
        intro other member
        have unbroken_other := List.countP_eq_zero.mp none_left other member
        exact later other member (by simpa using unbroken_other)
      rw [silent]
      exact bound size List.mem_cons_self

/-- What was delivered and what waits in the buffer are lines that were added. -/
structure Accounted (writer : IlpWriter) : Prop extends Sound writer where
  spare : ∀ line, writer.delivered.count line + writer.batch.count line ≤ writer.added.count line

theorem flush_accounted (accounted : Accounted writer) (careful : CarefulFlush outcomes writer) :
    Accounted (writer.flush outcomes) := by
  unfold flush
  split_ifs with empty
  · exact accounted
  · obtain ⟨uncut, one⟩ := careful empty
    obtain ⟨all, batch, added, sound⟩ := tryWrite_delivered accounted.toSound 0 3
    refine ⟨sound, fun line => ?_⟩
    have most : ((cuts outcomes writer.buf.length 0 3 writer.conn).flatMap fun size =>
        pieces (writer.buf.take size)).count line ≤ writer.batch.count line := by
      refine count_flatMap_le one ?_ ?_
      · intro size _ broken
        exact pieces_unbroken (by simpa using broken)
      · intro size member
        have first := pieces_take (uncut size member)
        rw [← accounted.buffered] at first
        exact first.sublist.count_le line
    have before := accounted.spare line
    rw [all, batch, added, List.count_append, List.count_nil]
    omega

theorem put_accounted (accounted : Accounted writer) (line : List UInt8) :
    Accounted (writer.put line) := by
  refine ⟨⟨?_, ?_, accounted.ended⟩, fun other => ?_⟩
  · simp [put, joinLines, accounted.buffered]
  · simp [put, accounted.counted]
  · have before := accounted.spare other
    have same : (writer.put line).delivered = writer.delivered := rfl
    rw [same]
    simp only [put, List.count_append]
    omega

theorem shutDown_accounted (accounted : Accounted writer) : Accounted writer.shutDown := by
  unfold shutDown
  cases conn : writer.conn with
  | opened received =>
    refine ⟨⟨accounted.buffered, accounted.counted, nofun⟩, fun line => ?_⟩
    have before := accounted.spare line
    simp only [delivered, streams, conn, Conn.streams] at before ⊢
    simpa using before
  | _ =>
    refine ⟨⟨accounted.buffered, accounted.counted, nofun⟩, fun line => ?_⟩
    have before := accounted.spare line
    simp only [delivered, streams, conn] at before ⊢
    exact before

theorem step_accounted {batchSize : Nat} {action : Action} {next : IlpWriter}
    (accounted : Accounted writer) (careful : Careful batchSize writer action)
    (moved : step batchSize writer action = some next) : Accounted next := by
  cases action with
  | add line outcomes =>
    have filled := put_accounted accounted line
    obtain rfl := Option.some.inj moved
    split_ifs with full
    · exact flush_accounted filled (careful full)
    · exact filled
  | tick outcomes =>
    obtain rfl := Option.some.inj moved
    exact flush_accounted accounted careful
  | close outcomes =>
    simp only [step] at moved
    split_ifs at moved
    obtain rfl := Option.some.inj moved
    exact shutDown_accounted (flush_accounted accounted careful)

theorem atMostOnce_of_accounted (accounted : Accounted writer) : writer.AtMostOnce := by
  have once (line : List UInt8) : writer.delivered.count line ≤ writer.added.count line :=
    Nat.le_trans (Nat.le_add_right _ _) (accounted.spare line)
  refine ⟨once, fun piece member => ?_⟩
  exact List.count_pos_iff.mp (Nat.lt_of_lt_of_le (List.count_pos_iff.mpr member) (once piece))

end Flushes

/-- QuestDB gets every line at most once in the runs in which no flush delivers whole lines twice
and no write ends behind a newline that is inside a line. -/
theorem careful_runs_once (batchSize : Nat) (actions : List Action)
    (careful : Along (step batchSize) (Careful batchSize) start actions) :
    Throughout (step batchSize) AtMostOnce start actions := by
  have begun : Accounted start := by
    refine ⟨⟨rfl, rfl, ?_⟩, fun line => Nat.le_refl 0⟩
    intro received is
    obtain rfl := Conn.opened.inj is
    rfl
  exact throughout_of_along (fun writer action next => step_accounted)
    (fun writer => atMostOnce_of_accounted) begun careful

/-- A batch goes out in the second attempt, after a first one of which nothing arrived. -/
theorem careful_runs_once_retried :
    Throughout (step 2) AtMostOnce start
      [.add [0x61] fun _ => ⟨true, none⟩,
        .add [0x62] fun attempt => ⟨true, if attempt = 0 then some 1 else none⟩] := by
  refine careful_runs_once 2 _ fun next moved => ⟨fun full => absurd full (by decide), ?_⟩
  obtain rfl := Option.some.inj moved
  exact fun last _ => ⟨fun _ _ => by decide, trivial⟩

/-- The first write delivers the whole line and fails all the same. -/
def repeated : List Action :=
  [.add [0x61] fun attempt => ⟨true, if attempt = 0 then some 2 else none⟩]

theorem repeated_twice :
    (∃ final, exec (step 1) start repeated = some final ∧ final.added = [[0x61]] ∧
      final.delivered = [[0x61], [0x61]]) ∧
    ¬Throughout (step 1) AtMostOnce start repeated := by
  have ran : ∃ final, exec (step 1) start repeated = some final ∧ final.added = [[0x61]] ∧
      final.delivered = [[0x61], [0x61]] := ⟨_, rfl, rfl, rfl⟩
  refine ⟨ran, fun all => ?_⟩
  obtain ⟨final, taken, added, delivered⟩ := ran
  have last := (throughout_iff_prefixes.mp all repeated [] final (by simp) taken).once [0x61]
  rw [added, delivered] at last
  revert last
  decide

end IlpWriter

end SystemScale.Cloud
