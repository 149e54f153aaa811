import SystemScale.Cloud.Proto
import SystemScale.Lib.Decimal

set_option autoImplicit false

/-!
# Rows of a query

What query-api's two handlers make of the rows that the database gives them. `Next` returns false at
the end of the rows and at an error alike; `Err` would tell.
-/

namespace SystemScale.Cloud

inductive DBValue (Time : Type) where
  | bytes (b : GoString)
  | text (s : GoString)
  | time (t : Time)
  | int (n : Int)
  | float (bits : UInt64)
  | bool (b : Bool)
  | null

structure Rows (Time : Type) where
  -- `none` is an error of `Columns`.
  columns : Option (List GoString)
  -- `none` is a row that `Scan` fails on, whatever it is given.
  rows : List (Option (List (DBValue Time)))
  failed : Bool

inductive RowValue where
  | text (s : GoString)
  | int (n : Int)
  | float (bits : UInt64)
  | bool (b : Bool)
  | null

/-- JSON has no infinities and no NaN. -/
def RowValue.encodes : RowValue → Bool
  | .float bits => Binary.finite bits
  | _ => true

inductive Answer (R : Type) where
  | error (status : Nat) (message : String)
  | ok (columns : Option (List GoString)) (rows : List R) (count : Nat)
  -- Status 200 is written before the body, which then has no JSON.
  | empty

section Handlers

variable {Time R : Type}

/-- `format` stands for `Format(time.RFC3339Nano)`. -/
def rowValue (format : Time → GoString) : DBValue Time → RowValue
  | .bytes b => .text b
  | .text s => .text s
  | .time t => .text (format t)
  | .int n => .int n
  | .float bits => .float bits
  | .bool b => .bool b
  | .null => .null

/-- `Scan` into so many destinations of any type. -/
def scan (count : Nat) : Option (List (DBValue Time)) → Option (List (DBValue Time))
  | some values => if values.length = count then some values else none
  | none => none

/-- The loop of both handlers, which goes on after a row that it cannot scan. -/
def readRows (count : Nat) (make : List (DBValue Time) → R) :
    List (Option (List (DBValue Time))) → List R → List R
  | [], result => result
  | row :: rest, result =>
    match scan count row with
    | none => readRows count make rest result
    | some values => readRows count make rest (result ++ [make values])

def writeRows (encodes : R → Bool) (columns : Option (List GoString)) (rows : List R) : Answer R :=
  if rows.all encodes then .ok columns rows rows.length else .empty

def queryRow (format : Time → GoString) (values : List (DBValue Time)) : List RowValue :=
  values.map (rowValue format)

def setKey (row : List (GoString × RowValue)) (field : GoString × RowValue) :
    List (GoString × RowValue) :=
  row.filter (·.1 ≠ field.1) ++ [field]

def telemetryRow (format : Time → GoString) (columns : List GoString)
    (values : List (DBValue Time)) : List (GoString × RowValue) :=
  (columns.zip (values.map (rowValue format))).foldl setKey []

/-- `handleQuery` from the answer of `QueryContext` on, which may be an error. -/
def handleQueryRows (format : Time → GoString) : Option (Rows Time) → Answer (List RowValue)
  | none => .error 500 "query execution failed"
  | some stream =>
    match stream.columns with
    | none => .error 500 "failed to read columns"
    | some columns =>
      writeRows (·.all RowValue.encodes) (some columns)
        (readRows columns.length (queryRow format) stream.rows [])

/-- `handleTelemetry` from there on. An error of `Columns` leaves it without any. -/
def handleTelemetryRows (format : Time → GoString) :
    Option (Rows Time) → Answer (List (GoString × RowValue))
  | none => .error 500 "query failed"
  | some stream =>
    let columns := stream.columns.getD []
    writeRows (·.all (·.2.encodes)) none
      (readRows columns.length (telemetryRow format columns) stream.rows [])

/-- Rows are answered only if all of them are, in order and counted; else there is an error. -/
def Complete (make : List GoString → List (DBValue Time) → R) (result : Option (Rows Time)) :
    Answer R → Prop
  | .error _ _ => True
  | .empty => False
  | .ok _ rows count => ∃ (stream : Rows Time) (values : List (List (DBValue Time))),
      result = some stream ∧ stream.failed = false ∧ stream.rows = values.map some ∧
      rows = values.map (make (stream.columns.getD [])) ∧ count = values.length

/-- The stream ends without an error, and each of its rows can be scanned and written. -/
def Whole (count : Nat) (encodes : R → Bool) (make : List (DBValue Time) → R)
    (stream : Rows Time) : Prop :=
  stream.failed = false ∧
    ∀ row ∈ stream.rows, ∃ values, scan count row = some values ∧ encodes (make values) = true

/-! ## The loop -/

theorem scan_some {count : Nat} {row : Option (List (DBValue Time))} {values : List (DBValue Time)}
    (scanned : scan count row = some values) : row = some values := by
  unfold scan at scanned
  split at scanned
  · split_ifs at scanned
    rw [scanned]
  · cases scanned

theorem readRows_eq (count : Nat) (make : List (DBValue Time) → R)
    (rows : List (Option (List (DBValue Time)))) (result : List R) :
    readRows count make rows result = result ++ (rows.filterMap (scan count)).map make := by
  induction rows generalizing result with
  | nil => simp [readRows]
  | cons row rest ih =>
    rw [readRows]
    cases scanned : scan count row with
    | none => rw [List.filterMap_cons_none scanned]; exact ih result
    | some values =>
      rw [List.filterMap_cons_some scanned]
      simp only [ih, List.append_assoc, List.map_cons, List.singleton_append]

-- What cannot be scanned is missing from the number of rows.
theorem filterMap_scan {count : Nat} {values : List (List (DBValue Time))}
    (all : ((values.map some).filterMap (scan count)).length = values.length) :
    ∀ row ∈ values, scan count (some row) = some row := by
  induction values with
  | nil => simp
  | cons first rest ih =>
    have bound : ((rest.map some).filterMap (scan count)).length ≤ rest.length := by
      have := List.length_filterMap_le (scan count) (rest.map some)
      rwa [List.length_map] at this
    rw [List.map_cons] at all
    cases scanned : scan count (some first) with
    | none =>
      rw [List.filterMap_cons_none scanned, List.length_cons] at all
      omega
    | some found =>
      obtain rfl := Option.some.inj (scan_some scanned)
      rw [List.filterMap_cons_some scanned, List.length_cons, List.length_cons] at all
      intro row member
      rcases List.mem_cons.mp member with rfl | later
      · exact scanned
      · exact ih (Nat.succ.inj all) row later

theorem scan_all {count : Nat} {rows : List (Option (List (DBValue Time)))}
    (all : ∀ row ∈ rows, ∃ values, scan count row = some values) :
    rows = (rows.filterMap (scan count)).map some := by
  induction rows with
  | nil => rfl
  | cons row rest ih =>
    obtain ⟨values, scanned⟩ := all row List.mem_cons_self
    rw [List.filterMap_cons_some scanned, List.map_cons, ← scan_some scanned,
      ← ih fun other member => all other (List.mem_cons_of_mem _ member)]

theorem writeRows_complete_iff {encodes : R → Bool} {columns : Option (List GoString)}
    {make : List GoString → List (DBValue Time) → R} {stream : Rows Time} {count : Nat} :
    Complete make (some stream) (writeRows encodes columns
        (readRows count (make (stream.columns.getD [])) stream.rows [])) ↔
      Whole count encodes (make (stream.columns.getD [])) stream := by
  rw [readRows_eq, List.nil_append]
  constructor
  · unfold writeRows
    split_ifs with encoded
    · rintro ⟨other, values, same, ended, read, rows, -⟩
      obtain rfl := Option.some.inj same
      have all := congrArg List.length rows
      rw [List.length_map, List.length_map, read] at all
      refine ⟨ended, fun row member => ?_⟩
      rw [read] at member
      obtain ⟨value, inside, rfl⟩ := List.mem_map.mp member
      refine ⟨value, filterMap_scan all value inside, ?_⟩
      rw [rows] at encoded
      exact List.all_eq_true.mp encoded _ (List.mem_map_of_mem inside)
    · exact False.elim
  · rintro ⟨ended, all⟩
    have encoded : ((stream.rows.filterMap (scan count)).map
        (make (stream.columns.getD []))).all encodes = true := by
      rw [List.all_eq_true]
      intro row member
      obtain ⟨values, inside, rfl⟩ := List.mem_map.mp member
      obtain ⟨found, is_row, scanned⟩ := List.mem_filterMap.mp inside
      obtain ⟨other, again, encodes_row⟩ := all found is_row
      obtain rfl := Option.some.inj (scanned.symm.trans again)
      exact encodes_row
    rw [writeRows, if_pos encoded]
    have scanned : ∀ row ∈ stream.rows, ∃ values, scan count row = some values :=
      fun row member => (all row member).imp fun _ both => both.1
    exact ⟨stream, _, rfl, ended, scan_all scanned, rfl, List.length_map _⟩

end Handlers

section Answers

variable {Time : Type} (format : Time → GoString) {stream : Rows Time}

theorem query_complete_iff {columns : List GoString} (found : stream.columns = some columns) :
    Complete (fun _ => queryRow format) (some stream) (handleQueryRows format (some stream)) ↔
      Whole columns.length (·.all RowValue.encodes) (queryRow format) stream := by
  have answer : handleQueryRows format (some stream) = writeRows (·.all RowValue.encodes)
      (some columns) (readRows columns.length (queryRow format) stream.rows []) := by
    simp only [handleQueryRows, found]
  rw [answer]
  exact writeRows_complete_iff

theorem telemetry_complete_iff :
    Complete (telemetryRow format) (some stream) (handleTelemetryRows format (some stream)) ↔
      Whole (stream.columns.getD []).length (·.all (·.2.encodes))
        (telemetryRow format (stream.columns.getD [])) stream :=
  writeRows_complete_iff

end Answers

/-- Neither handler asks for the error that ended the rows, and both go on after one that cannot be
scanned. -/
theorem answers_complete_iff {Time : Type} (format : Time → GoString) (result : Option (Rows Time)) :
    (Complete (fun _ => queryRow format) result (handleQueryRows format result) ↔
      ∀ stream columns, result = some stream → stream.columns = some columns →
        Whole columns.length (·.all RowValue.encodes) (queryRow format) stream) ∧
    (Complete (telemetryRow format) result (handleTelemetryRows format result) ↔
      ∀ stream, result = some stream →
        Whole (stream.columns.getD []).length (·.all (·.2.encodes))
          (telemetryRow format (stream.columns.getD [])) stream) := by
  cases result with
  | none => exact ⟨iff_of_true trivial nofun, iff_of_true trivial nofun⟩
  | some stream =>
    constructor
    · cases found : stream.columns with
      | none =>
        have answer : handleQueryRows format (some stream) = .error 500 "failed to read columns" := by
          simp only [handleQueryRows, found]
        rw [answer]
        refine iff_of_true trivial ?_
        rintro other columns same is_columns
        obtain rfl := Option.some.inj same
        cases found.symm.trans is_columns
      | some columns =>
        rw [query_complete_iff format found]
        constructor
        · rintro whole other names same is_names
          obtain rfl := Option.some.inj same
          cases found.symm.trans is_names
          exact whole
        · exact fun always => always stream columns rfl found
    · rw [telemetry_complete_iff]
      constructor
      · rintro whole other same
        cases same
        exact whole
      · exact fun always => always stream rfl

def lostStream : Rows Nat :=
  ⟨some [[0x76]], [some [.int 1]], true⟩

/-- One row, and then the connection is lost: both handlers answer that there was one row. -/
theorem lost_rows_unnoticed :
    (∃ rows, handleQueryRows (fun _ => []) (some lostStream) = .ok (some [[0x76]]) rows 1) ∧
      ¬ Complete (fun _ => queryRow fun _ => []) (some lostStream)
        (handleQueryRows (fun _ => []) (some lostStream)) ∧
      (∃ rows, handleTelemetryRows (fun _ => []) (some lostStream) = .ok none rows 1) ∧
      ¬ Complete (telemetryRow fun _ => []) (some lostStream)
        (handleTelemetryRows (fun _ => []) (some lostStream)) := by
  refine ⟨⟨_, rfl⟩, ?_, ⟨_, rfl⟩, ?_⟩
  · rintro ⟨stream, values, same, ended, -⟩
    obtain rfl := Option.some.inj same
    cases ended
  · rintro ⟨stream, values, same, ended, -⟩
    obtain rfl := Option.some.inj same
    cases ended

end SystemScale.Cloud
