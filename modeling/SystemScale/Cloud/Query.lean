import Mathlib.Data.List.DropRight
import SystemScale.Cloud.Auth
import SystemScale.Cloud.Commands

set_option autoImplicit false

/-!
# Queries of telemetry

`POST /v1/query` of query-api, which puts a filter into the caller's text. Offsets are in bytes.
-/

namespace SystemScale.Cloud

/-! ## strings and unicode -/

/-- `unicode.ToLower` and `unicode.ToUpper`. Letters beyond ASCII may change the number of their
bytes, and some of them turn into letters of ASCII. -/
structure Unicode where
  toLower : Char → Char
  toUpper : Char → Char
  lower_ascii : ∀ c, c.toNat < 128 → toLower c = c.toLower
  lower_blank : ∀ c, toLower c = ' ' → c = ' '

def goBytes (text : List Char) : GoString := Utf8.encode (String.ofList text)

def goLen (text : List Char) : Nat := (goBytes text).length

/-- `strings.Index`: where a text first occurs, if it does. -/
def index (pattern : List Char) : List Char → Option Nat
  | [] => if pattern = [] then some 0 else none
  | c :: rest =>
    if pattern.isPrefixOf (c :: rest) then some 0
    else (index pattern rest).map (goLen [c] + ·)

def contains (text : List Char) (pattern : String) : Bool := (index pattern.toList text).isSome

def isSpace (c : Char) : Bool :=
  decide (0x09 ≤ c.toNat ∧ c.toNat ≤ 0x0D) || c = ' ' || c.toNat = 0x85 || c.toNat = 0xA0 ||
    c.toNat = 0x1680 || decide (0x2000 ≤ c.toNat ∧ c.toNat ≤ 0x200A) || c.toNat = 0x2028 ||
    c.toNat = 0x2029 || c.toNat = 0x202F || c.toNat = 0x205F || c.toNat = 0x3000

def trimSpace (text : List Char) : List Char := (text.dropWhile isSpace).rdropWhile isSpace

/-! ## The filter -/

def clauseKeywords : List (List Char) :=
  [" order by".toList, " group by".toList, " limit ".toList, " sample by".toList]

def findClauseInsertPos (lower : List Char) : Nat :=
  clauseKeywords.foldl
    (fun pos kw =>
      match index kw lower with
      | some idx => if idx < pos then idx else pos
      | none => pos)
    (goLen lower)

variable (unicode : Unicode)

def toLower (text : List Char) : List Char := text.map unicode.toLower

/-- The text for the database and its arguments, or `none` where a slice is out of range. -/
def injectOrgFilter (query : List Char) (orgID : String) : Option (GoString × List String) :=
  let lower := toLower unicode query
  if ¬ contains lower "telemetry" then some (goBytes query, [])
  else if contains lower "org_id" then some (goBytes query, [])
  else
    let insertPos := findClauseInsertPos lower
    let bytes := goBytes query
    if bytes.length < insertPos then none
    else if contains lower "where" then
      some (bytes.take insertPos ++ goBytes " AND org_id = $1".toList ++ goBytes " ".toList ++
        bytes.drop insertPos, [orgID])
    else
      some (bytes.take insertPos ++ goBytes " WHERE org_id = $1".toList ++ goBytes " ".toList ++
        bytes.drop insertPos, [orgID])

/-! ## The handler -/

structure QueryRequest where
  sql : String
  params : List Json.Value

def QueryRequest.set (req : QueryRequest) (key : String) (value : Json.Value) :
    Option QueryRequest :=
  if foldEqual "sql" key then do
    let sql ← decodeGoString req.sql value
    some { req with sql := sql }
  else if foldEqual "params" key then
    match value with
    | .array params => some { req with params := params }
    | .null => some { req with params := [] }
    | _ => none
  else some req

def QueryRequest.decode (body : List Char) : Option QueryRequest :=
  match goReader.first body with
  | some (.object fields) => fields.foldlM (fun req field => req.set field.1 field.2) ⟨"", []⟩
  | some .null => some ⟨"", []⟩
  | _ => none

/-- `query` holds what is handed to the database. The request's own parameters are not. -/
inductive QueryResponse where
  | refused (status : Nat) (message : String)
  | panicked
  | query (sql : GoString) (args : List String)

def handleQuery (method : String) (claims : Option Claims) (body : List Char) : QueryResponse :=
  if method ≠ "POST" then .refused 405 "Method Not Allowed"
  else
    match claims with
    | none => .refused 401 "Unauthorized"
    | some claims =>
      match QueryRequest.decode body with
      | none => .refused 400 "invalid request body"
      | some req =>
        if req.sql = "" then .refused 400 "sql is required"
        else
          let trimmed := trimSpace req.sql.toList
          if "SELECT".toList.isPrefixOf (trimmed.map unicode.toUpper) then
            match injectOrgFilter unicode trimmed claims.orgID with
            | some (query, queryArgs) => .query query queryArgs
            | none => .panicked
          else .refused 400 "only SELECT queries are allowed"

/-! ## Where the filter goes -/

theorem goBytes_eq (text : List Char) : goBytes text = text.flatMap String.utf8EncodeChar := by
  simp [goBytes, Utf8.encode]

theorem goBytes_append (first second : List Char) :
    goBytes (first ++ second) = goBytes first ++ goBytes second := by
  simp [goBytes, Utf8.encode]

theorem goLen_append (first second : List Char) :
    goLen (first ++ second) = goLen first + goLen second := by
  rw [goLen, goBytes_append, List.length_append]
  rfl

theorem goLen_cons (c : Char) (rest : List Char) : goLen (c :: rest) = goLen [c] + goLen rest :=
  goLen_append [c] rest

theorem strict_goBytes (text : List Char) :
    Utf8.strict (goBytes text) = some (String.ofList text) := Utf8.strict_encode _

theorem goBytes_of_strict {bytes : GoString} {text : String}
    (read : Utf8.strict bytes = some text) : bytes = goBytes text.toList := by
  unfold Utf8.strict at read
  split_ifs at read with whole
  obtain rfl := Option.some.inj read
  rw [goBytes, String.ofList_toList, whole]

-- Text put into a string leaves it well formed only between its characters.
theorem cut_of_goBytes {text between whole : List Char} {pos : Nat} (short : pos ≤ goLen text)
    (put : (goBytes text).take pos ++ goBytes (' ' :: between) ++ (goBytes text).drop pos =
      goBytes whole) :
    ∃ first second, text = first ++ second ∧ goLen first = pos := by
  have blank : goBytes (' ' :: between) = 0x20 :: goBytes between := goBytes_append [' '] between
  rw [blank, List.append_assoc, List.cons_append, goBytes_eq whole] at put
  obtain ⟨first, _, _, first_is⟩ := Utf8.ascii_boundary (by decide) put.symm
  have same : first.flatMap String.utf8EncodeChar ++ (goBytes text).drop pos =
      text.flatMap String.utf8EncodeChar := by
    rw [first_is, List.take_append_drop, goBytes_eq]
  obtain ⟨second, split⟩ := Utf8.prefix_of_encoded same
  refine ⟨first, second, split.symm, ?_⟩
  rw [goLen, goBytes_eq, first_is, List.length_take]
  exact Nat.min_eq_left short

theorem index_isSome {pattern text : List Char} :
    (index pattern text).isSome ↔ pattern <:+: text := by
  induction text with
  | nil =>
    rw [index, List.infix_nil]
    split_ifs with empty <;> simp [empty]
  | cons c rest ih =>
    rw [index, List.infix_cons_iff, ← ih]
    split_ifs with starts
    · simp [List.isPrefixOf_iff_prefix.mp starts]
    · have elsewhere : ¬ pattern <+: c :: rest := fun is => starts (List.isPrefixOf_iff_prefix.mpr is)
      simp [elsewhere]

theorem contains_iff {text : List Char} {pattern : String} :
    contains text pattern = true ↔ pattern.toList <:+: text := index_isSome

/-- One of the keywords stands here, in lower case and between single blanks. -/
def keywordHere (lower : List Char) : Bool := clauseKeywords.any fun kw => kw.isPrefixOf lower

/-- The text up to the first keyword that is found in its lower-case form. -/
def beforeKeyword : List Char → List Char
  | [] => []
  | c :: rest =>
    if keywordHere (toLower unicode (c :: rest)) then [] else c :: beforeKeyword rest

def laterKeyword (lower : List Char) (pos : Nat) (kw : List Char) : Nat :=
  match index kw lower with
  | some idx => if idx < pos then idx else pos
  | none => pos

theorem findClauseInsertPos_eq (lower : List Char) :
    findClauseInsertPos lower = clauseKeywords.foldl (laterKeyword lower) (goLen lower) := rfl

theorem foldl_zero (lower : List Char) (keywords : List (List Char)) :
    keywords.foldl (laterKeyword lower) 0 = 0 := by
  induction keywords with
  | nil => rfl
  | cons kw keywords ih =>
    have stays : laterKeyword lower 0 kw = 0 := by
      unfold laterKeyword
      split <;> simp
    rw [List.foldl_cons, stays, ih]

theorem foldl_here {c : Char} {rest : List Char} (keywords : List (List Char))
    (here : keywords.any (·.isPrefixOf (c :: rest)) = true) (pos : Nat) :
    keywords.foldl (laterKeyword (c :: rest)) pos = 0 := by
  induction keywords generalizing pos with
  | nil => simp at here
  | cons kw keywords ih =>
    rw [List.foldl_cons]
    by_cases starts : kw.isPrefixOf (c :: rest)
    · have found : laterKeyword (c :: rest) pos kw = 0 := by
        simp only [laterKeyword, index, if_pos starts]
        split_ifs <;> omega
      rw [found, foldl_zero]
    · rw [List.any_cons, Bool.or_eq_true] at here
      exact ih (here.resolve_left starts) _

theorem foldl_later {c : Char} {rest : List Char} (keywords : List (List Char))
    (later : keywords.any (·.isPrefixOf (c :: rest)) = false) (pos : Nat) :
    keywords.foldl (laterKeyword (c :: rest)) (goLen [c] + pos) =
      goLen [c] + keywords.foldl (laterKeyword rest) pos := by
  induction keywords generalizing pos with
  | nil => rfl
  | cons kw keywords ih =>
    rw [List.any_cons, Bool.or_eq_false_iff] at later
    have moved : laterKeyword (c :: rest) (goLen [c] + pos) kw =
        goLen [c] + laterKeyword rest pos kw := by
      simp only [laterKeyword, index, later.1, Bool.false_eq_true, if_false]
      cases index kw rest with
      | none => rfl
      | some idx =>
        simp only [Option.map_some, Nat.add_lt_add_iff_left]
        split_ifs <;> rfl
    rw [List.foldl_cons, List.foldl_cons, moved, ih later.2]

theorem toLower_cons (c : Char) (rest : List Char) :
    toLower unicode (c :: rest) = unicode.toLower c :: toLower unicode rest := rfl

theorem findClauseInsertPos_toLower (text : List Char) :
    findClauseInsertPos (toLower unicode text) =
      goLen (toLower unicode (beforeKeyword unicode text)) := by
  induction text with
  | nil => rfl
  | cons c rest ih =>
    rw [findClauseInsertPos_eq] at ih ⊢
    rw [beforeKeyword]
    by_cases here : keywordHere (toLower unicode (c :: rest))
    · rw [if_pos here]
      exact foldl_here clauseKeywords here _
    · rw [if_neg here]
      rw [toLower_cons] at here
      have later := foldl_later clauseKeywords (Bool.eq_false_iff.mpr here)
        (goLen (toLower unicode rest))
      rw [ih] at later
      rw [toLower_cons, goLen_cons, later]
      exact (goLen_cons _ (toLower unicode (beforeKeyword unicode rest))).symm

theorem beforeKeyword_split (text : List Char) :
    ∃ after, text = beforeKeyword unicode text ++ after ∧
      (after = [] ∨ keywordHere (toLower unicode after) = true) := by
  induction text with
  | nil => exact ⟨[], rfl, .inl rfl⟩
  | cons c rest ih =>
    rw [beforeKeyword]
    by_cases here : keywordHere (toLower unicode (c :: rest))
    · rw [if_pos here]
      exact ⟨c :: rest, rfl, .inr here⟩
    · rw [if_neg here]
      obtain ⟨after, split, stands⟩ := ih
      exact ⟨after, by rw [List.cons_append, ← split], stands⟩

end SystemScale.Cloud
