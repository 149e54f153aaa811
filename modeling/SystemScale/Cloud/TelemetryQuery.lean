import SystemScale.Cloud.Query
import SystemScale.Cloud.TimeExpr
import SystemScale.Lib.SqlSelect

set_option autoImplicit false

/-!
# Queries of one vehicle

`GET /v1/telemetry` of query-api writes a query of its own. Ids are bound to placeholders; times, the
interval and the limit stand in the text.
-/

namespace SystemScale.Cloud

open LineProtocol (ascii)
open SqlSelect (Expr Condition Select Item Reads Token bytes)

/-! ## The handler -/

/-- `r.URL.Query().Get` of each name. -/
structure TelemetryParams where
  vehicleID : GoString
  streamType : GoString
  start : GoString
  endTime : GoString
  sampleBy : GoString
  limit : GoString
  project : GoString

/-- `^\d+[smhd]$` -/
def validInterval (s : GoString) : Bool :=
  match s.getLast? with
  | some unit => decide (unit ∈ timeUnits) && !s.dropLast.isEmpty && s.dropLast.all isDigitByte
  | none => false

def streamTypeOf (params : TelemetryParams) : GoString :=
  if params.streamType = [] then ascii "telemetry".toList else params.streamType

def startOf (params : TelemetryParams) : GoString :=
  if params.start = [] then ascii "-1h".toList else params.start

def limitOf (params : TelemetryParams) : Nat :=
  let limit :=
    match atoi params.limit with
    | some l => if 0 < l then l.toNat else 1000
    | none => 1000
  if limit > 10000 then 10000 else limit

def sampledColumns : GoString :=
  ascii ("timestamp,\n\t\t\tfirst(vehicle_id) as vehicle_id, first(stream_type) as stream_type," ++
    "\n\t\t\tfirst(stream_name) as stream_name," ++
    "\n\t\t\tavg(lat) as lat, avg(lon) as lon, avg(alt_m) as alt_m," ++
    "\n\t\t\tlast(seq) as seq, last(payload_json) as payload_json," ++
    "\n\t\t\tavg(battery_pct) as battery_pct, avg(speed_ms) as speed_ms, avg(heading) as heading").toList

def plainColumns : GoString :=
  ascii ("timestamp, vehicle_id, stream_type, stream_name," ++
    "\n\t\t\tlat, lon, alt_m, seq, payload_json,\n\t\t\tbattery_pct, speed_ms, heading").toList

def columnsOf (params : TelemetryParams) : GoString :=
  if params.sampleBy ≠ [] then sampledColumns else plainColumns

def addStart (query start : GoString) : GoString :=
  let timeSQL := parseTimeExpr start
  if timeSQL ≠ [] then query ++ ascii " AND timestamp > ".toList ++ timeSQL else query

def addEnd (query endExpr : GoString) : GoString :=
  if endExpr ≠ [] then
    let endSQL := parseTimeExpr endExpr
    if endSQL ≠ [] then query ++ ascii " AND timestamp < ".toList ++ endSQL else query
  else query

def addProject (query project : GoString) : GoString :=
  if project ≠ [] then query ++ ascii " AND project_id = $4".toList else query

def addSample (query sampleBy : GoString) : GoString :=
  if sampleBy ≠ [] then query ++ ascii " SAMPLE BY ".toList ++ sampleBy else query

def telemetryQuery (params : TelemetryParams) : GoString :=
  let query := ascii "SELECT ".toList ++ columnsOf params ++
    ascii " FROM telemetry WHERE vehicle_id = $1 AND org_id = $2 AND stream_type = $3".toList
  let query := addStart query (startOf params)
  let query := addEnd query params.endTime
  let query := addProject query params.project
  let query := addSample query params.sampleBy
  query ++ ascii " ORDER BY timestamp DESC".toList ++ ascii " LIMIT ".toList ++
    formatInt (limitOf params)

def telemetryArgs (params : TelemetryParams) (orgID : String) : List GoString :=
  let args := [params.vehicleID, Utf8.encode orgID, streamTypeOf params]
  if params.project ≠ [] then args ++ [params.project] else args

inductive TelemetryAsk where
  | refused (status : Nat) (message : String)
  | query (sql : GoString) (args : List GoString)

/-- `handleTelemetry` up to `QueryContext`. -/
def handleTelemetry (method : String) (claims : Option Claims) (params : TelemetryParams) :
    TelemetryAsk :=
  if method ≠ "GET" then .refused 405 "Method Not Allowed"
  else
    match claims with
    | none => .refused 401 "Unauthorized"
    | some claims =>
      if params.vehicleID = [] then .refused 400 "vehicle_id is required"
      else if params.sampleBy ≠ [] ∧ ¬ validInterval params.sampleBy then
        .refused 400 "invalid sample_by format (e.g. 1m, 5s, 1h)"
      else .query (telemetryQuery params) (telemetryArgs params claims.orgID)

/-! ## The rows that a query picks -/

/-- The columns of the table that these queries compare. -/
structure TelemetryRow where
  vehicleID : GoString
  orgID : GoString
  streamType : GoString
  projectID : GoString
  timestamp : Int

section Rows

-- What the database takes for a time, now, is up to it.
variable (readTime : Expr → Option Int) (args : List GoString) (row : TelemetryRow)

def placeholder (k : Nat) : List UInt8 := 0x24 :: ascii (Nat.toDigits 10 (k + 1))

def textOf : Expr → Option GoString
  | .name text =>
    if text = bytes "vehicle_id" then some row.vehicleID
    else if text = bytes "org_id" then some row.orgID
    else if text = bytes "stream_type" then some row.streamType
    else if text = bytes "project_id" then some row.projectID
    else ((List.range args.length).find? fun k => text = placeholder k).bind (args[·]?)
  | .literal text => some text
  | _ => none

def timeOf : Expr → Option Int
  | .name text => if text = bytes "timestamp" then some row.timestamp else readTime (.name text)
  | other => readTime other

/-- Texts are compared for equality and times for their order. -/
def meets (condition : Condition) : Bool :=
  if condition.operator = SqlSelect.equality then
    ((textOf args row condition.left).bind fun left =>
      (textOf args row condition.right).map fun right => decide (left = right)).getD false
  else
    ((timeOf readTime row condition.left).bind fun left =>
      (timeOf readTime row condition.right).map fun right =>
        if condition.operator = SqlSelect.above then decide (right < left)
        else decide (left < right)).getD false

end Rows

/-! ## The statement that is meant -/

def column (name : String) : Expr := .name (bytes name)

def dateaddExpr (unit : UInt8) (n : Int) : Expr :=
  .call (bytes "dateadd") [.literal [unit], .minus (.name (formatInt n)), .call (bytes "now") []]

def timeExpr (s : GoString) : Option Expr :=
  if s = [] then none
  else
    match relativeTime s with
    | some (unit, n) => some (dateaddExpr unit n)
    | none => some (.literal s)

def timeBound (operator : UInt8) (s : GoString) : List Condition :=
  (timeExpr s).toList.map fun time => ⟨column "timestamp", operator, time⟩

def moreConditions (params : TelemetryParams) : List Condition :=
  timeBound SqlSelect.above (startOf params) ++ timeBound SqlSelect.below params.endTime ++
    if params.project ≠ [] then [⟨column "project_id", SqlSelect.equality, column "$4"⟩] else []

def firstConditions : List Condition :=
  [⟨column "vehicle_id", SqlSelect.equality, column "$1"⟩,
    ⟨column "org_id", SqlSelect.equality, column "$2"⟩,
    ⟨column "stream_type", SqlSelect.equality, column "$3"⟩]

def plainItems : List Item :=
  ["timestamp", "vehicle_id", "stream_type", "stream_name", "lat", "lon", "alt_m", "seq",
    "payload_json", "battery_pct", "speed_ms", "heading"].map fun name => ⟨column name, none⟩

def aggregate (function name : String) : Item :=
  ⟨.call (bytes function) [column name], some (bytes name)⟩

def sampledItems : List Item :=
  ⟨column "timestamp", none⟩ ::
    (["vehicle_id", "stream_type", "stream_name"].map (aggregate "first") ++
      ["lat", "lon", "alt_m"].map (aggregate "avg") ++
      ["seq", "payload_json"].map (aggregate "last") ++
      ["battery_pct", "speed_ms", "heading"].map (aggregate "avg"))

def telemetrySelect (params : TelemetryParams) : Select where
  items := if params.sampleBy ≠ [] then sampledItems else plainItems
  table := bytes "telemetry"
  filter := some [firstConditions ++ moreConditions params]
  sampleBy := if params.sampleBy ≠ [] then some params.sampleBy else none
  orderBy := some (bytes "timestamp", true)
  limit := some (formatInt (limitOf params))

/-- No second minus sign stands before the number. -/
def OneSign (s : GoString) : Prop := ∀ unit n, relativeTime s = some (unit, n) → 0 ≤ n

/-! ## How the text is read -/

section Reading

theorem digit_word {b : UInt8} (digit : isDigitByte b = true) :
    SqlSelect.isWordByte b = true ∧ SqlSelect.isUpper b = false := by
  have range : 0x30 ≤ b.toNat ∧ b.toNat ≤ 0x39 := by simpa [isDigitByte] using digit
  have low : (0x30 : UInt8) ≤ b := UInt8.le_iff_toNat_le.mpr range.1
  have high : b ≤ 0x39 := UInt8.le_iff_toNat_le.mpr range.2
  have no_upper : ¬ (0x41 : UInt8) ≤ b := by
    rw [UInt8.le_iff_toNat_le]
    have := range.2
    simp only [UInt8.reduceToNat]
    omega
  simp [SqlSelect.isWordByte, SqlSelect.isUpper, low, high, no_upper]

theorem formatInt_word (n : Nat) : SqlSelect.IsWord (formatInt n) := by
  obtain ⟨some_digit, digits⟩ := ascii_digits n
  exact ⟨some_digit, fun b member => digit_word (List.all_eq_true.mp digits b member)⟩

theorem formatInt_plain (n : Nat) : ∀ b ∈ formatInt n, SqlText.Plain b := fun b member =>
  digit_plain (List.all_eq_true.mp (ascii_digits n).2 b member)

-- Keywords begin with a letter.
theorem formatInt_isName (n : Nat) : SqlSelect.isName (formatInt n) = true := by
  obtain ⟨some_digit, digits⟩ := ascii_digits n
  have letters : ∀ word ∈ SqlSelect.keywords, word.all isDigitByte = false := by decide
  refine decide_eq_true fun member => ?_
  have word : (formatInt n).all isDigitByte = true := digits
  rw [letters _ member] at word
  cases word

theorem run_dateadd {unit : UInt8} (known : unit ∈ timeUnits) (n : Nat) :
    SqlText.run .code (dateadd unit n) =
      (.code, dateaddPieces unit (SqlText.minus :: formatInt n)) := by
  have closing : ∀ c ∈ ascii ", now())".toList, SqlText.Plain c := by decide +kernel
  obtain ⟨b, rest, number⟩ := List.exists_cons_of_ne_nil (formatInt_word n).1
  have plain := formatInt_plain n
  rw [number] at plain
  have later : ∀ c ∈ rest ++ ascii ", now())".toList, SqlText.Plain c := by
    intro c member
    rcases List.mem_append.mp member with inside | behind
    · exact plain c (by simp [inside])
    · exact closing c behind
  have split : dateadd unit n = ascii "dateadd('".toList ++ [unit] ++ ascii "', -".toList ++
      (b :: (rest ++ ascii ", now())".toList)) := by
    rw [dateadd, List.append_assoc, number]
    rfl
  rw [split, SqlText.run_then (dateadd_opens known), SqlText.run_minus (plain b (by simp)) later,
    dateaddPieces, number]
  simp [symbols]

theorem cut_dateadd (unit : UInt8) (n : Nat) :
    SqlSelect.cut [] (dateaddPieces unit (SqlText.minus :: formatInt n)) =
      (dateaddExpr unit n).tokens := by
  have number := SqlSelect.cut_letters (formatInt_word n).2 [] (symbols (ascii ", now())".toList))
  have some_digit := (formatInt_word n).1
  have behind : SqlSelect.cut (formatInt n) (symbols (ascii ", now())".toList)) =
      [.word (formatInt n), .symbol SqlSelect.comma, .word (bytes "now"),
        .symbol SqlSelect.opening, .symbol SqlSelect.closing, .symbol SqlSelect.closing] := by
    cases digits : formatInt n with
    | nil => exact absurd digits some_digit
    | cons b rest => rfl
  have before : SqlSelect.cut [] (dateaddPieces unit (SqlText.minus :: formatInt n)) =
      [.word (bytes "dateadd"), .symbol SqlSelect.opening, .literal [unit],
        .symbol SqlSelect.comma, .symbol SqlText.minus] ++
        SqlSelect.cut [] ((formatInt n).map .symbol ++ symbols (ascii ", now())".toList)) := by
    rw [dateaddPieces, List.append_assoc]
    rfl
  rw [before, number, List.nil_append, behind]
  rfl

theorem parseTimeExpr_reads {s : GoString} (one_sign : OneSign s) {time : Expr}
    (read : timeExpr s = some time) :
    parseTimeExpr s ≠ [] ∧ Reads time.tokens (parseTimeExpr s) := by
  unfold timeExpr at read
  unfold parseTimeExpr
  split_ifs at read ⊢
  cases relative : relativeTime s with
  | none =>
    rw [relative] at read
    obtain rfl := Option.some.inj read
    exact ⟨by simp, SqlSelect.reads_literal (stands_escaped s)⟩
  | some both =>
    obtain ⟨unit, n⟩ := both
    rw [relative] at read
    obtain rfl := Option.some.inj read
    obtain ⟨n, rfl⟩ := Int.eq_ofNat_of_zero_le (one_sign unit n relative)
    refine ⟨by simp [dateadd, ascii], _, SqlText.stands_code ?_, cut_dateadd unit n⟩
    exact run_dateadd (relativeTime_known relative) n

def andTokens (conditions : List Condition) : List Token :=
  conditions.flatMap fun condition => .word (bytes "and") :: condition.tokens

/-- The tokens up to the last of the first conditions. -/
def openTokens (items : List Item) : List Token :=
  .word (bytes "select") :: (SqlSelect.itemTokens items ++
    .word (bytes "telemetry") :: .word (bytes "where") ::
      SqlSelect.conjunctionTokens firstConditions)

theorem reads_constant {text : GoString} {tokens : List Token}
    (constant : text.all (fun b => decide (SqlText.Plain b)) = true ∧
      SqlSelect.cut [] (text.map .symbol) = tokens) : Reads tokens text := by
  obtain ⟨plain, rfl⟩ := constant
  exact SqlSelect.reads_plain fun b member => of_decide_eq_true (List.all_eq_true.mp plain b member)

theorem ascii_append (first second : String) :
    ascii (first ++ second).toList = ascii first.toList ++ ascii second.toList := by
  simp [ascii, String.toList_append]

-- A text is its characters, which evaluate faster than `toList` of it.
theorem ascii_ofList (text : List Char) : ascii (String.ofList text).toList = ascii text := by
  rw [String.toList_ofList]

theorem columns_reads (params : TelemetryParams) :
    Reads (openTokens (telemetrySelect params).items) (ascii "SELECT ".toList ++ columnsOf params ++
      ascii " FROM telemetry WHERE vehicle_id = $1 AND org_id = $2 AND stream_type = $3".toList) := by
  by_cases sampling : params.sampleBy ≠ []
  · simp only [columnsOf, telemetrySelect, if_pos sampling, sampledColumns, ascii_append]
    repeat rw [ascii_ofList]
    exact reads_constant (by decide +kernel)
  · simp only [columnsOf, telemetrySelect, if_neg sampling, plainColumns, ascii_append]
    repeat rw [ascii_ofList]
    exact reads_constant (by decide +kernel)

variable {tokens : List Token} {query : GoString}

-- A bound stands between blanks.
theorem timeBound_reads (reads : Reads tokens query) {s : GoString} (one_sign : OneSign s)
    {operator : UInt8} {words : GoString} (compares : Reads
      [.word (bytes "and"), .word (bytes "timestamp"), .symbol operator] words) :
    Reads (tokens ++ andTokens (timeBound operator s))
      (if parseTimeExpr s ≠ [] then
        query ++ (SqlText.blank :: (words ++ SqlText.blank :: parseTimeExpr s)) else query) := by
  cases read : timeExpr s with
  | none =>
    have empty : s = [] := by
      unfold timeExpr at read
      split_ifs at read with empty
      · exact empty
      · split at read <;> cases read
    subst empty
    simpa [timeBound, read, andTokens, parseTimeExpr] using reads
  | some time =>
    obtain ⟨some_text, expr_reads⟩ := parseTimeExpr_reads one_sign read
    rw [if_pos some_text]
    have both := reads.append (compares.append expr_reads)
    simpa [timeBound, read, andTokens, Condition.tokens, column, Expr.tokens] using both

theorem addStart_reads (reads : Reads tokens query) {s : GoString} (one_sign : OneSign s) :
    Reads (tokens ++ andTokens (timeBound SqlSelect.above s)) (addStart query s) := by
  have compares : Reads [.word (bytes "and"), .word (bytes "timestamp"),
      .symbol SqlSelect.above] (ascii "AND timestamp >".toList) := reads_constant (by decide)
  have bound := timeBound_reads reads one_sign compares
  have text : query ++ ascii " AND timestamp > ".toList ++ parseTimeExpr s = query ++
      (SqlText.blank :: (ascii "AND timestamp >".toList ++ SqlText.blank :: parseTimeExpr s)) := by
    rw [List.append_assoc]
    rfl
  rw [← text] at bound
  rw [addStart]
  exact bound

theorem addEnd_reads (reads : Reads tokens query) {s : GoString} (one_sign : OneSign s) :
    Reads (tokens ++ andTokens (timeBound SqlSelect.below s)) (addEnd query s) := by
  have compares : Reads [.word (bytes "and"), .word (bytes "timestamp"),
      .symbol SqlSelect.below] (ascii "AND timestamp <".toList) := reads_constant (by decide)
  have bound := timeBound_reads reads one_sign compares
  have text : query ++ ascii " AND timestamp < ".toList ++ parseTimeExpr s = query ++
      (SqlText.blank :: (ascii "AND timestamp <".toList ++ SqlText.blank :: parseTimeExpr s)) := by
    rw [List.append_assoc]
    rfl
  rw [← text] at bound
  rw [addEnd]
  by_cases empty : s = []
  · subst empty
    simpa [timeBound, timeExpr, andTokens] using reads
  · rw [if_pos empty]
    exact bound

theorem addProject_reads (reads : Reads tokens query) (project : GoString) :
    Reads (tokens ++ andTokens (if project ≠ [] then
      [⟨column "project_id", SqlSelect.equality, column "$4"⟩] else [])) (addProject query project) := by
  rw [addProject]
  by_cases named : project ≠ []
  · rw [if_pos named, if_pos named]
    have compares : Reads (andTokens [⟨column "project_id", SqlSelect.equality, column "$4"⟩])
        (ascii "AND project_id = $4".toList) := reads_constant (by decide)
    exact reads.append compares
  · rw [if_neg named, if_neg named]
    simpa [andTokens] using reads

theorem validInterval_word {s : GoString} (valid : validInterval s = true) :
    SqlSelect.IsWord s ∧ ∀ b ∈ s, SqlText.Plain b := by
  unfold validInterval at valid
  split at valid
  · next unit last =>
    simp only [Bool.and_eq_true, decide_eq_true_eq] at valid
    obtain ⟨⟨known, -⟩, digits⟩ := valid
    have split : s = s.dropLast ++ [unit] := (List.dropLast_append_getLast? unit last).symm
    have units : ∀ b ∈ timeUnits, (SqlSelect.isWordByte b = true ∧ SqlSelect.isUpper b = false) ∧
        SqlText.Plain b := by
      intro b member
      simp only [timeUnits, List.mem_cons, List.not_mem_nil, or_false] at member
      rcases member with rfl | rfl | rfl | rfl <;> decide
    have each : ∀ b ∈ s, (SqlSelect.isWordByte b = true ∧ SqlSelect.isUpper b = false) ∧
        SqlText.Plain b := by
      intro b member
      rw [split] at member
      rcases List.mem_append.mp member with digit | is_unit
      · have digit := List.all_eq_true.mp digits b digit
        exact ⟨digit_word digit, digit_plain digit⟩
      · exact List.mem_singleton.mp is_unit ▸ units unit known
    refine ⟨⟨?_, fun b member => (each b member).1⟩, fun b member => (each b member).2⟩
    rintro rfl
    cases last
  · cases valid

theorem addSample_reads (reads : Reads tokens query) {sampleBy : GoString}
    (valid : sampleBy ≠ [] → validInterval sampleBy = true) :
    Reads (tokens ++ SqlSelect.sampleTokens (if sampleBy ≠ [] then some sampleBy else none))
      (addSample query sampleBy) := by
  rw [addSample]
  by_cases sampling : sampleBy ≠ []
  · rw [if_pos sampling, if_pos sampling, List.append_assoc]
    obtain ⟨word, plain⟩ := validInterval_word (valid sampling)
    have words : Reads [.word (bytes "sample"), .word (bytes "by")] (ascii "SAMPLE BY".toList) :=
      reads_constant (by decide)
    have interval := SqlSelect.reads_plain plain
    rw [SqlSelect.cut_word word] at interval
    exact reads.append (words.append interval)
  · rw [if_neg sampling, if_neg sampling]
    simpa [SqlSelect.sampleTokens] using reads

theorem limit_lex (reads : Reads tokens query) (n : Nat) :
    SqlSelect.lex (query ++ ascii " ORDER BY timestamp DESC".toList ++ ascii " LIMIT ".toList ++
        formatInt n) =
      some (tokens ++ (SqlSelect.orderTokens (some (bytes "timestamp", true)) ++
        SqlSelect.limitTokens (some (formatInt n)))) := by
  have words : Reads (SqlSelect.orderTokens (some (bytes "timestamp", true)) ++
      [.word (bytes "limit")]) (ascii "ORDER BY timestamp DESC LIMIT".toList) :=
    reads_constant (by decide)
  have number := SqlSelect.lex_plain (formatInt_plain n)
  rw [SqlSelect.cut_word (formatInt_word n)] at number
  have whole := (reads.append words).lex number
  convert whole using 2
  · simp only [List.append_assoc]
    rfl
  · simp [SqlSelect.limitTokens]

theorem telemetryQuery_lex {params : TelemetryParams}
    (valid : params.sampleBy ≠ [] → validInterval params.sampleBy = true)
    (start_sign : OneSign (startOf params)) (end_sign : OneSign params.endTime) :
    SqlSelect.lex (telemetryQuery params) = some (telemetrySelect params).tokens := by
  have reads := addSample_reads (addProject_reads (addEnd_reads (addStart_reads
    (columns_reads params) start_sign) end_sign) params.project) valid
  rw [telemetryQuery, limit_lex reads]
  have some_condition : firstConditions ≠ [] := List.cons_ne_nil _ _
  simp only [telemetrySelect, Select.tokens, Select.clauses, SqlSelect.filterTokens,
    SqlSelect.formulaTokens, SqlSelect.conjunctionTokens_append some_condition, openTokens,
    moreConditions, andTokens, List.flatMap_append, List.cons_append, List.append_assoc]

theorem items_ok (params : TelemetryParams) :
    ∀ item ∈ (telemetrySelect params).items, item.Ok := by
  have plain : ∀ item ∈ plainItems, item.Ok := by
    intro item member
    obtain ⟨name, listed, rfl⟩ := List.mem_map.mp member
    have names : ∀ name ∈ ["timestamp", "vehicle_id", "stream_type", "stream_name", "lat", "lon",
        "alt_m", "seq", "payload_json", "battery_pct", "speed_ms", "heading"],
        SqlSelect.isName (bytes name) = true := by decide
    exact ⟨names name listed, nofun⟩
  have aggregated (function : String) (ok : SqlSelect.isName (bytes function) = true)
      (names : List String) (all_ok : ∀ name ∈ names, SqlSelect.isName (bytes name) = true) :
      ∀ item ∈ names.map (aggregate function), item.Ok := by
    intro item member
    obtain ⟨name, listed, rfl⟩ := List.mem_map.mp member
    refine ⟨⟨ok, all_ok name listed, trivial⟩, fun label same => ?_⟩
    obtain rfl := Option.some.inj same
    exact all_ok name listed
  have sampled : ∀ item ∈ sampledItems, item.Ok := by
    intro item member
    simp only [sampledItems, List.mem_cons, List.mem_append] at member
    rcases member with rfl | ((firsts | places) | lasts) | rest
    · exact ⟨show SqlSelect.isName (bytes "timestamp") = true by decide, nofun⟩
    · exact aggregated "first" (by decide) _ (by decide) item firsts
    · exact aggregated "avg" (by decide) _ (by decide) item places
    · exact aggregated "last" (by decide) _ (by decide) item lasts
    · exact aggregated "avg" (by decide) _ (by decide) item rest
  rw [telemetrySelect]
  split_ifs
  · exact sampled
  · exact plain

theorem timeBound_ok {s : GoString} (one_sign : OneSign s) {operator : UInt8}
    (comparison : SqlSelect.isComparison operator = true) :
    ∀ condition ∈ timeBound operator s, condition.Ok := by
  intro condition member
  obtain ⟨time, read, rfl⟩ := List.mem_map.mp member
  refine ⟨show SqlSelect.isName _ = true by decide, ?_, comparison⟩
  rw [Option.mem_toList] at read
  unfold timeExpr at read
  split_ifs at read
  split at read
  · next unit n relative =>
    obtain rfl := Option.some.inj read
    obtain ⟨n, rfl⟩ := Int.eq_ofNat_of_zero_le (one_sign unit n relative)
    have dateadd : SqlSelect.isName (bytes "dateadd") = true := by decide
    have now : SqlSelect.isName (bytes "now") = true := by decide
    exact ⟨dateadd, trivial, formatInt_isName n, ⟨now, trivial⟩, trivial⟩
  · obtain rfl := Option.some.inj read
    trivial

theorem telemetrySelect_ok {params : TelemetryParams} (start_sign : OneSign (startOf params))
    (end_sign : OneSign params.endTime) : (telemetrySelect params).Ok where
  items := by
    refine ⟨?_, items_ok params⟩
    rw [telemetrySelect]
    split_ifs
    · exact List.cons_ne_nil _ _
    · exact List.cons_ne_nil _ _
  table := show SqlSelect.isName (bytes "telemetry") = true by decide
  filter conjunctions same := by
    obtain rfl := Option.some.inj same
    refine ⟨List.cons_ne_nil _ _, fun conjunction member => ?_⟩
    obtain rfl := List.mem_singleton.mp member
    refine ⟨by simp [firstConditions], fun condition inside => ?_⟩
    have equated (left right : String) (left_ok : SqlSelect.isName (bytes left) = true)
        (right_ok : SqlSelect.isName (bytes right) = true) :
        Condition.Ok ⟨column left, SqlSelect.equality, column right⟩ := ⟨left_ok, right_ok, rfl⟩
    simp only [firstConditions, moreConditions, List.mem_append, List.mem_cons,
      List.not_mem_nil, or_false] at inside
    rcases inside with (rfl | rfl | rfl) | (start | before) | project
    · exact equated _ _ (by decide) (by decide)
    · exact equated _ _ (by decide) (by decide)
    · exact equated _ _ (by decide) (by decide)
    · exact timeBound_ok start_sign rfl condition start
    · exact timeBound_ok end_sign rfl condition before
    · split_ifs at project
      · obtain rfl := List.mem_singleton.mp project
        exact equated _ _ (by decide) (by decide)
      · cases project

end Reading

/-! ## What is picked -/

section Picking

variable {readTime : Expr → Option Int}

/-- The rows that the request asks for, of the caller's organisation. -/
structure Asked (readTime : Expr → Option Int) (params : TelemetryParams) (orgID : String)
    (row : TelemetryRow) : Prop where
  vehicle : row.vehicleID = params.vehicleID
  org : row.orgID = Utf8.encode orgID
  stream : row.streamType = streamTypeOf params
  project : params.project ≠ [] → row.projectID = params.project
  start : ∀ time, timeExpr (startOf params) = some time →
    ∃ t, readTime time = some t ∧ t < row.timestamp
  before : ∀ time, timeExpr params.endTime = some time →
    ∃ t, readTime time = some t ∧ row.timestamp < t

theorem timeExpr_timeOf {s : GoString} {time : Expr} (read : timeExpr s = some time)
    (row : TelemetryRow) : timeOf readTime row time = readTime time := by
  unfold timeExpr at read
  split_ifs at read
  split at read <;>
  · obtain rfl := Option.some.inj read
    rfl

theorem timeBound_above {args : List GoString} {row : TelemetryRow} {s : GoString} :
    (timeBound SqlSelect.above s).all (meets readTime args row) = true ↔
      ∀ time, timeExpr s = some time → ∃ t, readTime time = some t ∧ t < row.timestamp := by
  cases read : timeExpr s with
  | none => simp [timeBound, read]
  | some time =>
    have stamp : timeOf readTime row (column "timestamp") = some row.timestamp := rfl
    have no_text : SqlSelect.above ≠ SqlSelect.equality := by decide
    simp only [timeBound, read, Option.toList_some, List.map_cons, List.map_nil, List.all_cons,
      List.all_nil, Bool.and_true, meets, if_neg no_text, stamp, timeExpr_timeOf read,
      Option.bind_some, if_true, Option.some.injEq, forall_eq']
    cases readTime time <;> simp

theorem timeBound_below {args : List GoString} {row : TelemetryRow} {s : GoString} :
    (timeBound SqlSelect.below s).all (meets readTime args row) = true ↔
      ∀ time, timeExpr s = some time → ∃ t, readTime time = some t ∧ row.timestamp < t := by
  cases read : timeExpr s with
  | none => simp [timeBound, read]
  | some time =>
    have stamp : timeOf readTime row (column "timestamp") = some row.timestamp := rfl
    have no_text : SqlSelect.below ≠ SqlSelect.equality := by decide
    have no_above : SqlSelect.below ≠ SqlSelect.above := by decide
    simp only [timeBound, read, Option.toList_some, List.map_cons, List.map_nil, List.all_cons,
      List.all_nil, Bool.and_true, meets, if_neg no_text, if_neg no_above, stamp,
      timeExpr_timeOf read, Option.bind_some, Option.some.injEq, forall_eq']
    cases readTime time <;> simp

theorem meets_equal {args : List GoString} {row : TelemetryRow} {left right : Expr}
    {first second : GoString} (left_text : textOf args row left = some first)
    (right_text : textOf args row right = some second) :
    meets readTime args row ⟨left, SqlSelect.equality, right⟩ = true ↔ first = second := by
  simp [meets, left_text, right_text]

theorem textOf_placeholder {args : List GoString} {row : TelemetryRow} (name : String)
    {count k : Nat} (length : args.length = count)
    (no_column : bytes name ∉ ["vehicle_id", "org_id", "stream_type", "project_id"].map bytes)
    (found : (List.range count).find? (fun j => bytes name = placeholder j) = some k) :
    textOf args row (column name) = args[k]? := by
  simp only [List.map_cons, List.map_nil, List.mem_cons, List.not_mem_nil, or_false, not_or]
    at no_column
  obtain ⟨no_vehicle, no_org, no_stream, no_project⟩ := no_column
  rw [column, textOf, if_neg no_vehicle, if_neg no_org, if_neg no_stream, if_neg no_project, length,
    found, Option.bind_some]

theorem telemetryArgs_text (params : TelemetryParams) (orgID : String) (row : TelemetryRow) :
    textOf (telemetryArgs params orgID) row (column "$1") = some params.vehicleID ∧
      textOf (telemetryArgs params orgID) row (column "$2") = some (Utf8.encode orgID) ∧
      textOf (telemetryArgs params orgID) row (column "$3") = some (streamTypeOf params) ∧
      (params.project ≠ [] →
        textOf (telemetryArgs params orgID) row (column "$4") = some params.project) := by
  have first : ∀ count ∈ [3, 4],
      (List.range count).find? (fun j => bytes "$1" = placeholder j) = some 0 := by decide
  have second : ∀ count ∈ [3, 4],
      (List.range count).find? (fun j => bytes "$2" = placeholder j) = some 1 := by decide
  have third : ∀ count ∈ [3, 4],
      (List.range count).find? (fun j => bytes "$3" = placeholder j) = some 2 := by decide
  have fourth : (List.range 4).find? (fun j => bytes "$4" = placeholder j) = some 3 := by
    decide
  rw [telemetryArgs]
  split_ifs with named
  · have length : ([params.vehicleID, Utf8.encode orgID, streamTypeOf params] ++
        [params.project]).length = 4 := rfl
    exact ⟨textOf_placeholder "$1" length (by decide) (first 4 (by simp)),
      textOf_placeholder "$2" length (by decide) (second 4 (by simp)),
      textOf_placeholder "$3" length (by decide) (third 4 (by simp)),
      fun _ => textOf_placeholder "$4" length (by decide) fourth⟩
  · have length : [params.vehicleID, Utf8.encode orgID, streamTypeOf params].length = 3 := rfl
    exact ⟨textOf_placeholder "$1" length (by decide) (first 3 (by simp)),
      textOf_placeholder "$2" length (by decide) (second 3 (by simp)),
      textOf_placeholder "$3" length (by decide) (third 3 (by simp)),
      fun some_name => absurd some_name named⟩

theorem telemetrySelect_picks (params : TelemetryParams) (orgID : String) (row : TelemetryRow) :
    (telemetrySelect params).picks (meets readTime (telemetryArgs params orgID) row) = true ↔
      Asked readTime params orgID row := by
  obtain ⟨vehicle, org, stream, fourth⟩ := telemetryArgs_text params orgID row
  have vehicle_column : textOf (telemetryArgs params orgID) row (column "vehicle_id") =
      some row.vehicleID := rfl
  have org_column : textOf (telemetryArgs params orgID) row (column "org_id") =
      some row.orgID := rfl
  have stream_column : textOf (telemetryArgs params orgID) row (column "stream_type") =
      some row.streamType := rfl
  have project_column : textOf (telemetryArgs params orgID) row (column "project_id") =
      some row.projectID := rfl
  have project : (if params.project ≠ [] then
      [(⟨column "project_id", SqlSelect.equality, column "$4"⟩ : Condition)] else []).all
        (meets readTime (telemetryArgs params orgID) row) = true ↔
      (params.project ≠ [] → row.projectID = params.project) := by
    by_cases named : params.project ≠ []
    · rw [if_pos named, List.all_cons, List.all_nil, Bool.and_true,
        meets_equal project_column (fourth named)]
      exact ⟨fun same _ => same, fun same => same named⟩
    · rw [if_neg named]
      exact iff_of_true rfl fun some_name => absurd some_name named
  have firsts : firstConditions.all (meets readTime (telemetryArgs params orgID) row) = true ↔
      row.vehicleID = params.vehicleID ∧ row.orgID = Utf8.encode orgID ∧
        row.streamType = streamTypeOf params := by
    simp only [firstConditions, List.all_cons, List.all_nil, Bool.and_true, Bool.and_eq_true,
      meets_equal vehicle_column vehicle, meets_equal org_column org,
      meets_equal stream_column stream]
  simp only [telemetrySelect, Select.picks, List.any_cons, List.any_nil, Bool.or_false,
    moreConditions, List.all_append, Bool.and_eq_true, firsts, project, timeBound_above,
    timeBound_below]
  constructor
  · rintro ⟨⟨vehicle, org, stream⟩, ⟨start, before⟩, project⟩
    exact ⟨vehicle, org, stream, project, start, before⟩
  · rintro ⟨vehicle, org, stream, project, start, before⟩
    exact ⟨⟨vehicle, org, stream⟩, ⟨start, before⟩, project⟩

theorem handleTelemetry_query {method : String} {caller : Claims} {params : TelemetryParams}
    {sql : GoString} {args : List GoString}
    (asked : handleTelemetry method (some caller) params = .query sql args) :
    (params.sampleBy ≠ [] → validInterval params.sampleBy = true) ∧ sql = telemetryQuery params ∧
      args = telemetryArgs params caller.orgID := by
  unfold handleTelemetry at asked
  split_ifs at asked with _ _ invalid
  simp only [TelemetryAsk.query.injEq] at asked
  refine ⟨fun sampling => ?_, asked.1.symm, asked.2.symm⟩
  by_contra other
  exact invalid ⟨sampling, other⟩

theorem limitOf_bounds (params : TelemetryParams) : 1 ≤ limitOf params ∧ limitOf params ≤ 10000 := by
  cases read : atoi params.limit with
  | none => simp [limitOf, read]
  | some l =>
    by_cases positive : 0 < l
    · simp only [limitOf, read, if_pos positive]
      by_cases many : l.toNat > 10000
      · rw [if_pos many]
        omega
      · rw [if_neg many]
        exact ⟨Int.lt_toNat.mpr positive, Nat.le_of_not_lt many⟩
    · simp [limitOf, read, positive]

/-- The query is read as one statement. It picks the rows that were asked for, of the caller's
organisation and of no other, and gives no more than ten thousand. -/
theorem telemetry_reads_own {method : String} {caller : Claims} {params : TelemetryParams}
    {sql : GoString} {args : List GoString}
    (asked : handleTelemetry method (some caller) params = .query sql args)
    (start_sign : OneSign (startOf params)) (end_sign : OneSign params.endTime) :
    ∃ select, SqlSelect.parse sql = some select ∧ select.table = bytes "telemetry" ∧
      select.orderBy = some (bytes "timestamp", true) ∧
      (∃ n : Nat, 1 ≤ n ∧ n ≤ 10000 ∧ select.limit = some (formatInt n)) ∧
      select.sampleBy = (if params.sampleBy ≠ [] then some params.sampleBy else none) ∧
      ∀ readTime row, select.picks (meets readTime args row) = true ↔
        Asked readTime params caller.orgID row := by
  obtain ⟨valid, rfl, rfl⟩ := handleTelemetry_query asked
  have read : SqlSelect.parse (telemetryQuery params) = some (telemetrySelect params) := by
    rw [SqlSelect.parse, telemetryQuery_lex valid start_sign end_sign, Option.bind_some,
      SqlSelect.statement_tokens (telemetrySelect_ok start_sign end_sign)]
  obtain ⟨some_row, few⟩ := limitOf_bounds params
  exact ⟨_, read, rfl, rfl, ⟨_, some_row, few, rfl⟩, rfl, fun readTime row =>
    telemetrySelect_picks params caller.orgID row⟩

def lastHour : TelemetryParams := ⟨ascii "v1".toList, [], [], [], [], [], []⟩

def operatorOf (orgID : String) : Claims := ⟨"u1", orgID, "operator", []⟩

theorem last_hour_reads_own : ∃ select,
    SqlSelect.parse (telemetryQuery lastHour) = some select ∧ select.table = bytes "telemetry" ∧
      select.orderBy = some (bytes "timestamp", true) ∧
      (∃ n : Nat, 1 ≤ n ∧ n ≤ 10000 ∧ select.limit = some (formatInt n)) ∧ select.sampleBy = none ∧
      ∀ readTime row,
        select.picks (meets readTime [ascii "v1".toList, Utf8.encode "org-a",
          ascii "telemetry".toList] row) = true ↔ Asked readTime lastHour "org-a" row := by
  have hour : relativeTime (startOf lastHour) = some (0x68, 1) := by decide
  have asked : handleTelemetry "GET" (some (operatorOf "org-a")) lastHour =
      .query (telemetryQuery lastHour) (telemetryArgs lastHour "org-a") := rfl
  exact telemetry_reads_own asked
    (fun unit n relative => by
      obtain ⟨rfl, rfl⟩ := Prod.mk.inj (Option.some.inj (hour.symm.trans relative))
      decide)
    (fun _ _ relative => nomatch relative)

/-- A second sign begins a comment, and a line break in the end of the range ends it. -/
def brokenRange : TelemetryParams :=
  ⟨ascii "v1".toList, [], ascii "--5s".toList,
    ascii "\n5, now()) OR vehicle_id = vehicle_id --".toList, [], [], []⟩

/-- What follows is read as a part of the query, which then picks rows of every organisation. -/
theorem second_sign_picks_others :
    handleTelemetry "GET" (some (operatorOf "org-a")) brokenRange =
        .query (telemetryQuery brokenRange) (telemetryArgs brokenRange "org-a") ∧
      ((SqlSelect.parse (telemetryQuery brokenRange)).map fun select =>
        select.picks (meets (fun _ => none) (telemetryArgs brokenRange "org-a")
          ⟨ascii "v2".toList, Utf8.encode "org-b", ascii "telemetry".toList, [], 0⟩)) = some true := by
  exact ⟨rfl, by decide +kernel⟩

end Picking

end SystemScale.Cloud
