import Mathlib.Data.List.Induction
import SystemScale.Agent.Ring
import SystemScale.Lib.LapBuffer

set_option autoImplicit false

/-!
# The relay's video buffer

`srt-relay` keeps the last chunks of a stream in a file of a fixed size. Nothing in the repository
reads the file: what a reader of its documented format finds there is stated here.
-/

namespace SystemScale.Relay

open Bytes
open Agent (setLen length_setLen)

structure VideoRingBuffer where
  file : List UInt8
  capacity : Nat
  writePos : Nat
  seq : UInt64

namespace VideoRingBuffer

def headerLen : Nat := 8 + 4 + 8

/-- A file may hold anything when it is opened. Its size is a signed word of 64 bits. -/
def openRing (capacity : Nat) (file : List UInt8) : Option VideoRingBuffer :=
  if capacity < 2 ^ 63 then some ⟨setLen capacity file, capacity, 0, 0⟩ else none

/-- A length keeps its low 32 bits. -/
def recordBytes (seq : UInt64) (ts : UInt64) (data : List UInt8) : List UInt8 :=
  leBytes 8 seq.toNat ++ (leBytes 4 data.length ++ (leBytes 8 ts.toNat ++ data))

/-- `fails` is how much gets written before an error, if there is one. The sequence number wraps. -/
def append (ring : VideoRingBuffer) (ts : UInt64) (data : List UInt8) (fails : Option Nat) :
    VideoRingBuffer :=
  let total := headerLen + data.length
  let writePos := if ring.writePos + total > ring.capacity then 0 else ring.writePos
  let bytes := recordBytes ring.seq ts data
  match fails with
  | some written => { ring with writePos, file := splice ring.file writePos (bytes.take written) }
  | none =>
    { ring with
      file := splice ring.file writePos bytes
      writePos := writePos + total
      seq := ring.seq + 1 }

/-! ## What is read back -/

structure Record where
  seq : UInt64
  ts : UInt64
  data : List UInt8
  deriving DecidableEq

def Record.bytes (record : Record) : List UInt8 := recordBytes record.seq record.ts record.data

/-- A record of the format `[seq: u64 LE][len: u32 LE][timestamp_ms: u64 LE][data: len bytes]`. -/
def readRecord (bytes : List UInt8) : Option (Record × List UInt8) :=
  let length := leValue (slice bytes 8 4)
  if headerLen + length ≤ bytes.length then
    some (⟨UInt64.ofNat (leValue (slice bytes 0 8)), UInt64.ofNat (leValue (slice bytes 12 8)),
      slice bytes headerLen length⟩, bytes.drop (headerLen + length))
  else none

def readRecords : Nat → List UInt8 → Option (List Record)
  | 0, _ => some []
  | count + 1, bytes =>
    (readRecord bytes).bind fun (record, rest) => (readRecords count rest).map (record :: ·)

theorem length_recordBytes (seq ts : UInt64) (data : List UInt8) :
    (recordBytes seq ts data).length = headerLen + data.length := by
  simp [recordBytes, headerLen]
  omega

theorem readRecord_bytes (record : Record) (narrow : record.data.length < 2 ^ 32)
    (rest : List UInt8) : readRecord (record.bytes ++ rest) = some (record, rest) := by
  obtain ⟨seq, ts, data⟩ := record
  have seq_width : (leBytes 8 seq.toNat).length = 8 := length_leBytes _ _
  have length_width : (leBytes 4 data.length).length = 4 := length_leBytes _ _
  have ts_width : (leBytes 8 ts.toNat).length = 8 := length_leBytes _ _
  have seq_back : leValue (leBytes 8 seq.toNat) = seq.toNat :=
    leValue_leBytes_of_lt seq.toNat_lt
  have length_back : leValue (leBytes 4 data.length) = data.length :=
    leValue_leBytes_of_lt (by simpa using narrow)
  have ts_back : leValue (leBytes 8 ts.toNat) = ts.toNat := leValue_leBytes_of_lt ts.toNat_lt
  have first : slice (recordBytes seq ts data ++ rest) 0 8 = leBytes 8 seq.toNat := by
    rw [recordBytes, slice, List.drop_zero, List.append_assoc, List.take_left' seq_width]
  have second : slice (recordBytes seq ts data ++ rest) 8 4 = leBytes 4 data.length := by
    rw [recordBytes, slice, List.append_assoc, List.drop_left' seq_width, List.append_assoc,
      List.take_left' length_width]
  have third : slice (recordBytes seq ts data ++ rest) 12 8 = leBytes 8 ts.toNat := by
    rw [recordBytes, slice, ← List.append_assoc (leBytes 8 _), List.append_assoc,
      List.drop_left' (by simp), List.append_assoc, List.take_left' ts_width]
  have fourth : slice (recordBytes seq ts data ++ rest) headerLen data.length = data := by
    rw [recordBytes, slice, ← List.append_assoc (leBytes 4 _), ← List.append_assoc (leBytes 8 _),
      List.append_assoc, List.drop_left' (by simp [headerLen]), List.take_left]
  have behind : (recordBytes seq ts data ++ rest).drop (headerLen + data.length) = rest :=
    List.drop_left' (length_recordBytes seq ts data)
  have inside : headerLen + data.length ≤ (recordBytes seq ts data ++ rest).length := by
    rw [List.length_append, length_recordBytes]
    exact Nat.le_add_right _ _
  simp only [readRecord, Record.bytes, first, second, third, seq_back, length_back, ts_back,
    fourth, behind, if_pos inside, UInt64.ofNat_toNat]

theorem readRecords_bytes (records : List Record)
    (narrow : ∀ record ∈ records, record.data.length < 2 ^ 32) (rest : List UInt8) :
    readRecords records.length ((records.map Record.bytes).flatten ++ rest) = some records := by
  induction records with
  | nil => rfl
  | cons record records ih =>
    rw [List.map_cons, List.flatten_cons, List.append_assoc, List.length_cons, readRecords,
      readRecord_bytes record (narrow record List.mem_cons_self)]
    simp [ih fun other member => narrow other (List.mem_cons_of_mem _ member)]

/-! ## Runs -/

structure Chunk where
  ts : UInt64
  data : List UInt8
  fails : Option Nat

def appends (ring : VideoRingBuffer) (chunks : List Chunk) : VideoRingBuffer :=
  chunks.foldl (fun ring chunk => ring.append chunk.ts chunk.data chunk.fails) ring

def number (records : List Record) (chunk : Chunk) : List Record :=
  match chunk.fails with
  | some _ => records
  | none => records ++ [⟨UInt64.ofNat records.length, chunk.ts, chunk.data⟩]

/-- The records that got written whole, by the numbers they have. -/
def written (chunks : List Chunk) : List Record := chunks.foldl number []

def size (records : List Record) : Nat := (records.map Record.bytes).flatten.length

def writer (ring : VideoRingBuffer) : LapBuffer.Writer UInt8 := ⟨ring.file, ring.writePos⟩

section Runs

variable {capacity largest : Nat} {ring : VideoRingBuffer} {records : List Record}

/-- The file as a buffer that records are written round. -/
structure Keeps (capacity largest : Nat) (records : List Record) (ring : VideoRingBuffer) :
    Prop where
  fixed : ring.capacity = capacity
  seq : ring.seq = UInt64.ofNat records.length
  laps : ∃ laps, laps.records = records.map Record.bytes ∧
    LapBuffer.Holds capacity largest laps ring.writer

theorem openRing_keeps {file : List UInt8} (opened : openRing capacity file = some ring)
    (largest : Nat) : Keeps capacity largest [] ring := by
  rw [openRing] at opened
  split_ifs at opened
  obtain rfl := Option.some.inj opened
  have holds := LapBuffer.new_holds (setLen capacity file) largest
  rw [length_setLen] at holds
  exact ⟨rfl, rfl, _, rfl, holds⟩

theorem append_fails (ring : VideoRingBuffer) (ts : UInt64) (data : List UInt8) (written : Nat) :
    (ring.append ts data (some written)).writer =
      ring.writer.tear ring.capacity (recordBytes ring.seq ts data) written := by
  rw [LapBuffer.Writer.tear, LapBuffer.Writer.start, length_recordBytes]
  rfl

theorem append_whole (ring : VideoRingBuffer) (ts : UInt64) (data : List UInt8) :
    (ring.append ts data none).writer =
      ring.writer.put ring.capacity (recordBytes ring.seq ts data) := by
  rw [LapBuffer.Writer.put, LapBuffer.Writer.start, length_recordBytes]
  rfl

theorem append_keeps (keeps : Keeps capacity largest records ring) (room : largest ≤ capacity)
    {chunk : Chunk} (fits : headerLen + chunk.data.length ≤ largest) :
    Keeps capacity largest (number records chunk)
      (ring.append chunk.ts chunk.data chunk.fails) := by
  obtain ⟨same, seq, laps, is, holds⟩ := keeps
  have small : (recordBytes ring.seq chunk.ts chunk.data).length ≤ largest := by
    rwa [length_recordBytes]
  have positive : 0 < largest := by
    simp only [headerLen] at fits
    omega
  rw [number]
  cases chunk.fails with
  | some written =>
    obtain ⟨after, kept, holds⟩ := LapBuffer.tear_holds positive small (small.trans room) holds
      written
    refine ⟨same, seq, after, kept.trans is, ?_⟩
    rw [append_fails, same]
    exact holds
  | none =>
    obtain ⟨after, kept, holds⟩ := LapBuffer.put_holds positive small (small.trans room) holds
    refine ⟨same, ?_, after, ?_, ?_⟩
    · rw [List.length_append, List.length_singleton, UInt64.ofNat_add, ← seq]
      rfl
    · rw [kept, is, List.map_append, seq]
      rfl
    · rw [append_whole, same]
      exact holds

theorem appends_keeps {file : List UInt8} (opened : openRing capacity file = some ring)
    (room : largest ≤ capacity) (chunks : List Chunk)
    (fits : ∀ chunk ∈ chunks, headerLen + chunk.data.length ≤ largest) :
    Keeps capacity largest (written chunks) (ring.appends chunks) := by
  induction chunks using List.reverseRecOn with
  | nil => exact openRing_keeps opened largest
  | append_singleton chunks chunk ih =>
    rw [written, appends, List.foldl_append, List.foldl_append]
    exact append_keeps (ih fun other member => fits other (by simp [member])) room
      (fits chunk (by simp))

theorem number_narrow {narrow : Nat} (chunks : List Chunk)
    (small : ∀ chunk ∈ chunks, chunk.data.length < narrow) :
    ∀ record ∈ written chunks, record.data.length < narrow := by
  induction chunks using List.reverseRecOn with
  | nil => exact fun _ member => nomatch member
  | append_singleton chunks chunk ih =>
    have before := ih fun other member => small other (by simp [member])
    rw [written, List.foldl_append]
    change ∀ record ∈ number (written chunks) chunk, _
    rw [number]
    split
    · exact before
    · intro record member
      rcases List.mem_append.mp member with old | last
      · exact before record old
      · rw [List.mem_singleton.mp last]
        exact small chunk (by simp)

end Runs

/-- However a stream is cut into chunks, and whichever of the writes fail on the way: the records
of this lap stand from the start of the file, and those of the lap before that are left stand
together behind them. Once one is lost, these are all of the file but three of the largest. -/
theorem ring_retains {capacity largest : Nat} {file : List UInt8} {ring : VideoRingBuffer}
    (opened : openRing capacity file = some ring) (chunks : List Chunk)
    (fits : ∀ chunk ∈ chunks, headerLen + chunk.data.length ≤ largest)
    (room : largest ≤ capacity) (narrow : largest ≤ 2 ^ 32) :
    (ring.appends chunks).file.length = capacity ∧
    (ring.appends chunks).seq = UInt64.ofNat (written chunks).length ∧
    ∃ gone kept lap start, written chunks = gone ++ kept ++ lap ∧
      readRecords lap.length (ring.appends chunks).file = some lap ∧
      (ring.appends chunks).writePos = size lap ∧ size lap ≤ start ∧
      readRecords kept.length ((ring.appends chunks).file.drop start) = some kept ∧
      (gone ≠ [] → capacity < size kept + size lap + 3 * largest) := by
  obtain ⟨same, seq, laps, is, holds⟩ := appends_keeps opened room chunks fits
  have small : ∀ record ∈ written chunks, record.data.length < 2 ^ 32 :=
    number_narrow chunks fun chunk member => by
      have fit := fits chunk member
      simp only [headerLen] at fit
      omega
  obtain ⟨older, lap, split, before, this_lap⟩ := List.map_eq_append_iff.mp is.symm
  obtain ⟨gone, kept, rfl, lost, left⟩ := List.map_eq_append_iff.mp before
  rw [split] at small
  have file : (ring.appends chunks).file =
      (lap.map Record.bytes).flatten ++ laps.behind := this_lap ▸ holds.buffer
  have writePos : (ring.appends chunks).writePos = size lap :=
    holds.pos.trans (by rw [size, this_lap])
  refine ⟨holds.length, seq, gone, kept, lap, size lap + laps.gap.length, split, ?_, writePos,
    Nat.le_add_right _ _, ?_, fun some_gone => ?_⟩
  · rw [file]
    exact readRecords_bytes lap (fun record member => small record (by simp [member])) _
  · rw [file, ← List.drop_drop, size, List.drop_left, LapBuffer.Laps.behind, List.drop_left, ← left]
    exact readRecords_bytes kept (fun record member => small record (by simp [member])) _
  · have retained := holds.retained (by rw [← lost]; simpa using some_gone)
    rwa [← left, ← this_lap] at retained

-- The third write fails, and the fourth begins the second lap.
def fourChunks : List Chunk :=
  [⟨1, [7], none⟩, ⟨2, [8], none⟩, ⟨3, [9], some 5⟩, ⟨4, [9], none⟩]

theorem fourChunks_retained : ∃ ring, openRing 50 [] = some ring ∧
    (ring.appends fourChunks).file.length = 50 ∧
    (ring.appends fourChunks).seq = UInt64.ofNat (written fourChunks).length ∧
    ∃ gone kept lap start, written fourChunks = gone ++ kept ++ lap ∧
      readRecords lap.length (ring.appends fourChunks).file = some lap ∧
      (ring.appends fourChunks).writePos = size lap ∧ size lap ≤ start ∧
      readRecords kept.length ((ring.appends fourChunks).file.drop start) = some kept ∧
      (gone ≠ [] → 50 < size kept + size lap + 3 * 21) :=
  ⟨_, rfl, ring_retains rfl fourChunks (by simp [fourChunks, headerLen]) (by decide) (by decide)⟩

end VideoRingBuffer

end SystemScale.Relay
