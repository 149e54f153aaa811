import SystemScale.Cloud.Query
import SystemScale.Lib.SqlConjuncts

set_option autoImplicit false

/-!
# Queries keep to the caller's organisation

A caller's query of `telemetry` is compared with the text that query-api hands to the database in
its place.
-/

namespace SystemScale.Contract

open Cloud Sql

/-! ## Rows -/

/-- A row, by its organisation and by the other comparisons that it meets. -/
structure Row where
  orgID : String
  meets : Comparison → Bool

def orgColumn : List Char := "org_id".toList

/-- The arguments stand for `$1`; one that is missing compares equal to nothing. -/
def Row.holds (args : List String) (row : Row) (comparison : Comparison) : Bool :=
  if comparison.column = orgColumn ∧ comparison.operator = ['='] then
    match comparison.operand with
    | .literal text => row.orgID = String.ofList text
    | .name text =>
      if text = ['$', '1'] then args.head? = some row.orgID else row.meets comparison
  else row.meets comparison

/-- The rows that a statement selects. Its later clauses work on these. -/
def selected (args : List String) (filter : Option Formula) (table : List Row) : List Row :=
  table.filter fun row =>
    match filter with
    | none => true
    | some formula => formula.holds (row.holds args)

def KeepsTo (org : String) (args : List String) (filter : Option Formula) : Prop :=
  ∀ table, ∀ row ∈ selected args filter table, row.orgID = org

def telemetry : List Char := "telemetry".toList

/-- The text is one query of the table, and no row of another organisation is among those it
selects. -/
def Isolated (org : String) (sql : GoString) (args : List String) : Prop :=
  ∃ text filter, Utf8.strict sql = some text ∧ parse telemetry text.toList = some filter ∧
    KeepsTo org args filter

def openRow (org : String) : Row := ⟨org, fun _ => true⟩

theorem openRow_other (org : String) (args : List String) (comparison : Comparison)
    (other : comparison.column ≠ orgColumn) : (openRow org).holds args comparison = true := by
  simp [Row.holds, other, openRow]

theorem row_holds_open {args : List String} {row : Row} {comparison : Comparison}
    (holds : row.holds args comparison = true) :
    (openRow row.orgID).holds args comparison = true := by
  unfold Row.holds at holds ⊢
  split_ifs at holds ⊢
  · cases operand : comparison.operand with
    | literal text =>
      rw [operand] at holds
      exact holds
    | name text =>
      rw [operand] at holds
      simp only at holds ⊢
      split_ifs at holds ⊢
      · exact holds
      · rfl
  · rfl

-- The rows that meet most decide whether a formula keeps to an organisation.
theorem keepsTo_iff {org : String} {args : List String} {formula : Formula} :
    KeepsTo org args (some formula) ↔
      ∀ other, other ≠ org → formula.holds ((openRow other).holds args) = false := by
  constructor
  · intro keeps other different
    by_contra holds
    rw [Bool.not_eq_false] at holds
    exact different (keeps [openRow other] (openRow other) (by simp [selected, holds]))
  · intro closed table row member
    by_contra different
    have holds := Formula.holds_mono (fun _ => row_holds_open) (List.mem_filter.mp member).2
    rw [closed row.orgID different] at holds
    exact Bool.noConfusion holds

theorem other_org (org : String) : ∃ other, other ≠ org := by
  refine ⟨org ++ "x", fun same => ?_⟩
  have length := congrArg String.length same
  simp at length

theorem not_keepsTo_none {org : String} {args : List String} : ¬ KeepsTo org args none := by
  intro keeps
  obtain ⟨other, different⟩ := other_org org
  exact different (keeps [openRow other] (openRow other) (by simp [selected]))

-- A formula that leaves the organisation out is met by rows of any.
theorem not_keepsTo {org : String} {args : List String} {filter : Option Formula}
    (avoids : AllAvoid orgColumn filter) : ¬ KeepsTo org args filter := by
  cases filter with
  | none => exact not_keepsTo_none
  | some formula =>
    intro keeps
    obtain ⟨other, different⟩ := other_org org
    have closed := keepsTo_iff.mp keeps other different
    rw [(avoids formula rfl).holds (openRow_other other args)] at closed
    exact Bool.noConfusion closed

theorem isolated_goBytes {org : String} {text : List Char} {args : List String} :
    Isolated org (goBytes text) args ↔
      ∃ filter, parse telemetry text = some filter ∧ KeepsTo org args filter := by
  constructor
  · rintro ⟨read, filter, is_read, parsed, keeps⟩
    obtain rfl := Option.some.inj ((strict_goBytes text).symm.trans is_read)
    exact ⟨filter, by rwa [String.toList_ofList] at parsed, keeps⟩
  · rintro ⟨filter, parsed, keeps⟩
    exact ⟨_, filter, strict_goBytes text, by rwa [String.toList_ofList], keeps⟩

/-! ## Queries that mention the organisation -/

/-- The organisations whose rows can meet a formula; `none` stands for all of them. -/
def organisations : Formula → Option (List String)
  | .compare comparison =>
    if comparison.column = orgColumn ∧ comparison.operator = ['='] then
      match comparison.operand with
      | .literal text => some [String.ofList text]
      | .name text => if text = ['$', '1'] then some [] else none
    else none
  | .and first second =>
    match organisations first, organisations second with
    | none, orgs => orgs
    | orgs, none => orgs
    | some orgs, some others => some (orgs.filter (· ∈ others))
  | .or first second =>
    match organisations first, organisations second with
    | some orgs, some others => some (orgs ++ others)
    | _, _ => none
  | .paren inner => organisations inner

/-- The formula itself allows for rows of one organisation at most. -/
def Confined (org : String) (filter : Option Formula) : Prop :=
  ∃ orgs, filter.bind organisations = some orgs ∧ ∀ other ∈ orgs, other = org

theorem organisations_spec (formula : Formula) (org : String) :
    formula.holds ((openRow org).holds []) =
      (organisations formula).all fun orgs => decide (org ∈ orgs) := by
  induction formula with
  | compare comparison =>
    simp only [Formula.holds, Row.holds, organisations]
    split_ifs
    · cases comparison.operand with
      | literal text => exact decide_eq_decide.mpr List.mem_singleton.symm
      | name text =>
        simp only
        split_ifs <;> simp [openRow]
    · rfl
  | and first second ih_first ih_second =>
    rw [Formula.holds, ih_first, ih_second, organisations]
    cases organisations first <;> cases organisations second <;> simp
  | or first second ih_first ih_second =>
    rw [Formula.holds, ih_first, ih_second, organisations]
    cases organisations first <;> cases organisations second <;> simp
  | paren inner ih => exact ih

theorem keepsTo_iff_confined {org : String} {filter : Option Formula} :
    KeepsTo org [] filter ↔ Confined org filter := by
  cases filter with
  | none => exact iff_of_false not_keepsTo_none (by simp [Confined])
  | some formula =>
    rw [keepsTo_iff, Confined, Option.bind_some]
    simp only [organisations_spec]
    cases organisations formula with
    | none =>
      obtain ⟨other, different⟩ := other_org org
      refine iff_of_false (fun closed => ?_) (by simp)
      exact Bool.noConfusion (closed other different)
    | some orgs =>
      simp only [Option.all_some, decide_eq_false_iff_not, Option.some.injEq, exists_eq_left']
      exact ⟨fun closed other member => by_contra fun different => closed other different member,
        fun alike other different member => different (alike other member)⟩

/-! ## Letters -/

variable (unicode : Unicode)

def Ascii (text : List Char) : Prop := ∀ c ∈ text, c.toNat < 128

instance (text : List Char) : Decidable (Ascii text) :=
  List.decidableBAll (fun c : Char => c.toNat < 128) text

theorem ascii_of_toLower {c : Char} (small : c.toLower.toNat < 128) : c.toNat < 128 := by
  by_contra large
  have same : c.toLower = c := by
    unfold Char.toLower
    rw [dif_neg]
    rintro ⟨_, below⟩
    have : c.toNat ≤ 90 := below
    omega
  rw [same] at small
  exact large small

-- A word of ASCII that the lexer sees is there for `strings.Contains` as well.
theorem lowered_eq {text word : List Char} (ascii : Ascii word)
    (spelled : lowered text = word) : toLower unicode text = word := by
  rw [← spelled]
  refine List.map_congr_left fun c member => unicode.lower_ascii c (ascii_of_toLower ?_)
  exact ascii _ (spelled ▸ List.mem_map_of_mem member)

theorem infix_toLower {text word : List Char} (ascii : Ascii word)
    (inside : word <:+: lowered text) : word <:+: toLower unicode text := by
  obtain ⟨before, after, split⟩ := inside
  obtain ⟨first, rest, rfl, first_is, rest_is⟩ := List.map_eq_append_iff.mp split.symm
  obtain ⟨start, found, rfl, -, found_is⟩ := List.map_eq_append_iff.mp first_is
  have same := lowered_eq unicode ascii found_is
  refine ⟨toLower unicode start, toLower unicode rest, ?_⟩
  rw [← same]
  simp [toLower]

/-! ## The place of the filter -/

def clauseWords : List (List Char) :=
  ["order".toList, "group".toList, "limit".toList, "sample".toList]

theorem blank_split (word more : List Char) {text : List Char}
    (starts : ' ' :: (word ++ ' ' :: more) <+: toLower unicode text) :
    ∃ found rest, text = ' ' :: (found ++ ' ' :: rest) ∧ toLower unicode found = word := by
  obtain ⟨after, split⟩ := starts
  cases text with
  | nil => simp [toLower] at split
  | cons c text =>
    rw [toLower_cons, List.cons_append, List.append_assoc] at split
    obtain ⟨blank, behind⟩ := List.cons.inj split
    obtain rfl := unicode.lower_blank c blank.symm
    obtain ⟨found, rest, rfl, found_is, rest_is⟩ := List.map_eq_append_iff.mp behind.symm
    cases rest with
    | nil => simp at rest_is
    | cons d rest =>
      obtain ⟨blank, -⟩ := List.cons.inj rest_is
      obtain rfl := unicode.lower_blank d blank
      exact ⟨found, rest, rfl, found_is⟩

theorem keywordHere_split {text : List Char} (here : keywordHere (toLower unicode text) = true) :
    ∃ word rest, text = ' ' :: (word ++ ' ' :: rest) ∧ toLower unicode word ∈ clauseWords := by
  obtain ⟨keyword, member, starts⟩ := List.any_eq_true.mp here
  have starts := List.isPrefixOf_iff_prefix.mp starts
  simp only [clauseKeywords, List.mem_cons, List.not_mem_nil, or_false] at member
  rcases member with rfl | rfl | rfl | rfl
  · obtain ⟨word, rest, split, is⟩ :=
      blank_split unicode "order".toList "by".toList starts
    exact ⟨word, rest, split, by simp [is, clauseWords]⟩
  · obtain ⟨word, rest, split, is⟩ :=
      blank_split unicode "group".toList "by".toList starts
    exact ⟨word, rest, split, by simp [is, clauseWords]⟩
  · obtain ⟨word, rest, split, is⟩ :=
      blank_split unicode "limit".toList [] starts
    exact ⟨word, rest, split, by simp [is, clauseWords]⟩
  · obtain ⟨word, rest, split, is⟩ :=
      blank_split unicode "sample".toList "by".toList starts
    exact ⟨word, rest, split, by simp [is, clauseWords]⟩

theorem isWordChar_of_toLower {c : Char} (letter : (unicode.toLower c).isLower = true) :
    isWordChar c = true := by
  by_cases small : c.toNat < 128
  · have table : ∀ n < 128, (Char.ofNat n).toLower.isLower = true →
        isWordChar (Char.ofNat n) = true := by
      decide
    have self := Char.ofNat_toNat c
    rw [unicode.lower_ascii c small] at letter
    rw [← self] at letter ⊢
    exact table c.toNat small letter
  · simp only [isWordChar, Bool.or_eq_true, decide_eq_true_eq]
    exact .inr (Nat.le_of_not_lt small)

theorem keywordHere_blank {text : List Char}
    (stands : text = [] ∨ keywordHere (toLower unicode text) = true) : StartsBlank text := by
  rcases stands with rfl | here
  · exact .inl rfl
  · obtain ⟨word, rest, rfl, _⟩ := keywordHere_split unicode here
    exact .inr ⟨_, rfl⟩

theorem keywordHere_tail {text : List Char} {tokens : List Token}
    (stands : text = [] ∨ keywordHere (toLower unicode text) = true)
    (lexed : lex text = some tokens) : Tail tokens := by
  rcases stands with rfl | here
  · exact .inl (Option.some.inj lexed).symm
  · obtain ⟨word, rest, rfl, clause⟩ := keywordHere_split unicode here
    have letters : ∀ keyword ∈ clauseWords, keyword ≠ [] ∧ keyword.all Char.isLower = true := by
      decide
    obtain ⟨filled, lower⟩ := letters _ clause
    have spelled : ∀ c ∈ word, isWordChar c = true := fun c member =>
      isWordChar_of_toLower unicode (List.all_eq_true.mp lower _ (List.mem_map_of_mem member))
    have word_filled : word ≠ [] := fun empty => filled (by rw [empty]; rfl)
    have lexed_word := lex_append (lex_word word_filled spelled) rest
    rw [lex_blank, lexed_word] at lexed
    obtain ⟨others, -, rfl⟩ := Option.map_eq_some_iff.mp lexed
    have other (keyword : List Char) (ascii : Ascii keyword)
        (no_clause : keyword ∉ clauseWords) : lowered word ≠ keyword := fun same =>
      no_clause (lowered_eq unicode ascii same ▸ clause)
    refine .inr ⟨lowered word, others, rfl, ?_, ?_, ?_⟩
    · exact other _ (by decide) (by decide)
    · exact other _ (by decide) (by decide)
    · exact other _ (by decide) (by decide)

/-! ## What the filter does -/

def orgFilter : Formula := .compare ⟨orgColumn, ['='], .name ['$', '1']⟩

def filterTokens (keyword : String) : List Token :=
  [.word keyword.toList, .word orgColumn, .operator ['='], .word ['$', '1']]

/-- The filter as query-api writes it, without the blanks around it. -/
def filterText (filtered : Bool) : List Char :=
  if filtered then "AND org_id = $1".toList else "WHERE org_id = $1".toList

def filterKeyword (filtered : Bool) : String := if filtered then "and" else "where"

theorem lex_filterText (filtered : Bool) :
    lex (filterText filtered) = some (filterTokens (filterKeyword filtered)) := by
  cases filtered <;> decide

theorem filterText_plain (filtered : Bool) :
    ('\'' ∉ ' ' :: filterText filtered ++ [' '] ∧ '"' ∉ ' ' :: filterText filtered ++ [' ']) ∧
      orgColumn.length < (' ' :: filterText filtered ++ [' ']).length := by
  cases filtered <;> decide

/-- What stands before the place can take the filter's keyword, and the filter binds the whole
formula. -/
def FitsAt (filtered : Bool) (phase : Phase) (rest : List Token) : Prop :=
  if filtered then ∃ frame outer, phase = .factor frame outer ∧ Conjoins telemetry frame outer rest
  else phase = .tabled ∧ Conjoins telemetry .empty [] rest

def FitsBetween (filtered : Bool) (first second : List Char) : Prop :=
  ∃ before rest phase, lex first = some before ∧ lex second = some rest ∧
    run telemetry .start before = some phase ∧ FitsAt filtered phase rest

theorem run_and {frame : Frame} {outer : List Frame} :
    run telemetry (.factor frame outer) (filterTokens "and") =
      some (.factor (frame.add orgFilter) outer) := rfl

theorem run_where :
    run telemetry .tabled (filterTokens "where") =
      some (.factor (Frame.empty.add orgFilter) []) := rfl

theorem run_keyword {phase next : Phase} {keyword : String}
    (read : run telemetry phase (filterTokens keyword) = some next) :
    ∃ begun, phase.next telemetry (.word keyword.toList) = some begun := by
  rw [filterTokens, run, List.foldlM_cons] at read
  obtain ⟨begun, stepped, _⟩ := Option.bind_eq_some_iff.mp read
  exact ⟨begun, stepped⟩

theorem orgFilter_unmet {org other : String} (different : other ≠ org) :
    orgFilter.holds ((openRow other).holds [org]) = false := by
  refine decide_eq_false fun same => different ?_
  exact (Option.some.inj same).symm

theorem filtered_keeps_iff {org : String} {frame : Frame} {outer : List Frame} {rest : List Token}
    (avoids : ∀ other ∈ frame :: outer, other.Avoids orgColumn)
    (absent : ∀ token ∈ rest, ¬ token.Spells orgColumn) :
    (∃ found, reads telemetry (.factor (frame.add orgFilter) outer) rest = some found ∧
      KeepsTo org [org] found) ↔ Conjoins telemetry frame outer rest := by
  have decides {found : Option Formula} {other : String} (different : other ≠ org)
      (read : reads telemetry (.factor (frame.add orgFilter) outer) rest = some found) :=
    holds_iff_not_conjoins (openRow_other other [org]) (orgFilter_unmet different) avoids absent
      read
  constructor
  · rintro ⟨found, read, keeps⟩
    obtain ⟨other, different⟩ := other_org org
    obtain ⟨whole, rfl, decided⟩ := decides different read
    have closed := keepsTo_iff.mp keeps other different
    rw [← Bool.not_eq_true, decided, not_not] at closed
    exact closed
  · intro conjoins
    obtain ⟨factor, readable⟩ := conjoins.reads
    have alike : (Phase.factor (frame.add factor) outer).erase =
        (Phase.factor (frame.add orgFilter) outer).erase := by
      simp [Phase.erase, erase_add]
    rw [reads_erase telemetry alike] at readable
    obtain ⟨found, read⟩ := Option.isSome_iff_exists.mp readable
    obtain ⟨other, different⟩ := other_org org
    obtain ⟨whole, rfl, _⟩ := decides different read
    refine ⟨_, read, keepsTo_iff.mpr fun other different => ?_⟩
    obtain ⟨whole', is_whole, decided⟩ := decides different read
    obtain rfl := Option.some.inj is_whole
    rw [← Bool.not_eq_true, decided, not_not]
    exact conjoins

theorem fitsAt_iff (org : String) (filtered : Bool) {phase : Phase} {rest : List Token}
    (avoids : phase.Avoids orgColumn) (absent : ∀ token ∈ rest, ¬ token.Spells orgColumn) :
    (∃ found, ((run telemetry phase (filterTokens (filterKeyword filtered))).bind fun next =>
        reads telemetry next rest) = some found ∧ KeepsTo org [org] found) ↔
      FitsAt filtered phase rest := by
  cases filtered with
  | true =>
    simp only [filterKeyword, FitsAt, if_true]
    constructor
    · rintro ⟨found, whole, keeps⟩
      obtain ⟨next, read, reread⟩ := Option.bind_eq_some_iff.mp whole
      obtain ⟨begun, stepped⟩ := run_keyword read
      obtain ⟨frame, outer, rfl, _⟩ := next_and stepped
      obtain rfl := Option.some.inj (run_and.symm.trans read)
      exact ⟨frame, outer, rfl, (filtered_keeps_iff (List.forall_mem_cons.mpr avoids) absent).mp
        ⟨found, reread, keeps⟩⟩
    · rintro ⟨frame, outer, rfl, conjoins⟩
      rw [run_and]
      exact (filtered_keeps_iff (List.forall_mem_cons.mpr avoids) absent).mpr conjoins
  | false =>
    have empty : ∀ other ∈ [Frame.empty], other.Avoids orgColumn := by
      simpa using Frame.Avoids.empty
    simp only [filterKeyword, FitsAt, Bool.false_eq_true, if_false]
    constructor
    · rintro ⟨found, whole, keeps⟩
      obtain ⟨next, read, reread⟩ := Option.bind_eq_some_iff.mp whole
      obtain ⟨begun, stepped⟩ := run_keyword read
      obtain ⟨rfl, _⟩ := next_where stepped
      obtain rfl := Option.some.inj (run_where.symm.trans read)
      exact ⟨rfl, (filtered_keeps_iff empty absent).mp ⟨found, reread, keeps⟩⟩
    · rintro ⟨rfl, conjoins⟩
      rw [run_where]
      exact (filtered_keeps_iff empty absent).mpr conjoins

/-! ## Where the filter goes -/

theorem infix_lowered {text part : List Char} {word : List Char} (inside : part <:+: text)
    (absent : ¬ word <:+: lowered text) : ¬ word <:+: lowered part :=
  fun found => absent (found.trans (inside.map Char.toLower))

-- Inside quotation marks the filter is no part of the formula.
theorem unclosed_keeps {org : String} {filtered : Bool} {first second : List Char}
    (whole : (lex (first ++ second)).isSome) (unnamed : ¬ orgColumn <:+: lowered (first ++ second))
    (unclosed : lex first = none) {found : Option Formula}
    (parsed : parse telemetry (first ++ ' ' :: filterText filtered ++ ' ' :: second) = some found) :
    ¬ KeepsTo org [org] found := by
  have regroup : first ++ ' ' :: filterText filtered ++ ' ' :: second =
      first ++ ((' ' :: filterText filtered ++ [' ']) ++ second) := by simp
  rw [regroup] at parsed
  obtain ⟨unquoted, long⟩ := filterText_plain filtered
  exact not_keepsTo (parse_avoids parsed fun tokens lexed =>
    lex_unclosed (by decide) unclosed whole unnamed unquoted long lexed)

theorem fitsBetween_iff {org : String} (filtered : Bool) {first second : List Char}
    (whole : (lex (first ++ second)).isSome)
    (unnamed : ¬ orgColumn <:+: lowered (first ++ second)) :
    (∃ found, parse telemetry (first ++ ' ' :: filterText filtered ++ ' ' :: second) = some found ∧
      KeepsTo org [org] found) ↔ FitsBetween filtered first second := by
  cases lexed : lex first with
  | none =>
    refine iff_of_false ?_ (by simp [FitsBetween, lexed])
    rintro ⟨found, parsed, keeps⟩
    exact unclosed_keeps whole unnamed lexed parsed keeps
  | some before =>
    rw [parse_between lexed (lex_filterText filtered)]
    cases lexed_second : lex second with
    | none => exact iff_of_false (by simp) (by simp [FitsBetween, lexed_second])
    | some rest =>
      rw [Option.bind_some]
      cases read : run telemetry .start before with
      | none => exact iff_of_false (by simp) (by simp [FitsBetween, lexed, read])
      | some phase =>
        have absent_first := infix_lowered (List.prefix_append first second).isInfix unnamed
        have absent_second := infix_lowered (List.suffix_append first second).isInfix unnamed
        have avoids := run_avoids (show Phase.start.Avoids orgColumn from trivial)
          (lex_absent (by decide) absent_first lexed) read
        have fits := fitsAt_iff org filtered avoids
          (lex_absent (by decide) absent_second lexed_second)
        rw [Option.bind_some, fits]
        simp [FitsBetween, lexed, lexed_second, read]

variable (unicode : Unicode)

/-- Where the first clause begins in the lower-case form of the text. In the text itself that may
be another place. -/
def insertPos (text : List Char) : Nat := goLen (toLower unicode (beforeKeyword unicode text))

def FilterFits (text : List Char) : Prop :=
  ∃ first second, text = first ++ second ∧ goLen first = insertPos unicode text ∧
    FitsBetween (contains (toLower unicode text) "where") first second

section Injected

variable {unicode} {text : List Char} {filter : Option Formula} {org : String} {sql : GoString}
  {args : List String}

theorem injectOrgFilter_named (named : contains (toLower unicode text) "org_id" = true) :
    injectOrgFilter unicode text org = some (goBytes text, []) := by
  simp only [injectOrgFilter, named, if_true, ite_self]

theorem injectOrgFilter_unnamed (table : contains (toLower unicode text) "telemetry" = true)
    (unnamed : contains (toLower unicode text) "org_id" = false)
    (injected : injectOrgFilter unicode text org = some (sql, args)) :
    insertPos unicode text ≤ goLen text ∧ args = [org] ∧
      sql = (goBytes text).take (insertPos unicode text) ++
        goBytes (' ' :: (filterText (contains (toLower unicode text) "where") ++ [' '])) ++
        (goBytes text).drop (insertPos unicode text) := by
  have pos := findClauseInsertPos_toLower unicode text
  have written (keyword : String) :
      goBytes (' ' :: (keyword.toList ++ [' '])) = goBytes (' ' :: keyword.toList) ++ goBytes [' '] :=
    goBytes_append (' ' :: keyword.toList) [' ']
  unfold injectOrgFilter at injected
  simp only [table, unnamed, not_true_eq_false, if_false, Bool.false_eq_true, pos] at injected
  split_ifs at injected with long filtered
  · obtain ⟨rfl, rfl⟩ := Prod.mk.inj (Option.some.inj injected)
    refine ⟨Nat.le_of_not_lt long, rfl, ?_⟩
    rw [filtered, filterText, if_pos rfl, written, List.append_assoc (List.take _ _)]
    rfl
  · obtain ⟨rfl, rfl⟩ := Prod.mk.inj (Option.some.inj injected)
    refine ⟨Nat.le_of_not_lt long, rfl, ?_⟩
    rw [Bool.not_eq_true] at filtered
    rw [filtered, filterText, if_neg (by decide), written, List.append_assoc (List.take _ _)]
    rfl

theorem spliced_eq (filtered : Bool) (first second : List Char) :
    goBytes first ++ goBytes (' ' :: (filterText filtered ++ [' '])) ++ goBytes second =
      goBytes (first ++ ' ' :: filterText filtered ++ ' ' :: second) := by
  simp only [← goBytes_append, List.append_assoc, List.cons_append, List.nil_append]

theorem unnamed_isolated_iff (parsed : parse telemetry text = some filter)
    (unnamed : contains (toLower unicode text) "org_id" = false)
    (injected : injectOrgFilter unicode text org = some (sql, args)) :
    Isolated org sql args ↔ FilterFits unicode text := by
  have table : contains (toLower unicode text) "telemetry" = true :=
    contains_iff.mpr (infix_toLower unicode (by decide) (parse_names (by decide) parsed))
  have absent : ¬ orgColumn <:+: lowered text := fun inside =>
    Bool.eq_false_iff.mp unnamed (contains_iff.mpr (infix_toLower unicode (by decide) inside))
  have whole : (lex text).isSome := by
    cases lexed : lex text with
    | none => simp [parse, lexed] at parsed
    | some tokens => rfl
  obtain ⟨short, rfl, spliced⟩ := injectOrgFilter_unnamed table unnamed injected
  have at_cut {first second : List Char} (split : text = first ++ second)
      (pos : goLen first = insertPos unicode text) :
      Isolated org sql [org] ↔
        FitsBetween (contains (toLower unicode text) "where") first second := by
    rw [← fitsBetween_iff _ (split ▸ whole) (split ▸ absent), ← isolated_goBytes, ← spliced_eq,
      spliced, ← pos]
    nth_rewrite 1 [split]
    nth_rewrite 2 [split]
    rw [goBytes_append, goLen, List.take_left, List.drop_left]
  constructor
  · intro isolated
    obtain ⟨read, is_read⟩ : ∃ read, Utf8.strict sql = some read := by
      obtain ⟨read, _, is_read, _⟩ := isolated
      exact ⟨read, is_read⟩
    obtain ⟨first, second, split, pos⟩ :=
      cut_of_goBytes short (spliced.symm.trans (goBytes_of_strict is_read))
    exact ⟨first, second, split, pos, (at_cut split pos).mp isolated⟩
  · rintro ⟨first, second, split, pos, fits⟩
    exact (at_cut split pos).mpr fits

end Injected

theorem handleQuery_query {method : String} {claims : Claims} {body : List Char}
    {req : QueryRequest} {sql : GoString} {args : List String}
    (decoded : QueryRequest.decode body = some req)
    (answered : handleQuery unicode method (some claims) body = .query sql args) :
    injectOrgFilter unicode (trimSpace req.sql.toList) claims.orgID = some (sql, args) := by
  unfold handleQuery at answered
  simp only [decoded] at answered
  split_ifs at answered
  cases injected : injectOrgFilter unicode (trimSpace req.sql.toList) claims.orgID with
  | none => simp [injected] at answered
  | some query =>
    simp only [injected, QueryResponse.query.injEq] at answered
    obtain ⟨rfl, rfl⟩ := answered
    rfl

theorem handleQuery_accepts {claims : Claims} {body : List Char}
    {req : QueryRequest} (decoded : QueryRequest.decode body = some req) (filled : req.sql ≠ "")
    (select : "SELECT".toList.isPrefixOf ((trimSpace req.sql.toList).map unicode.toUpper) = true)
    (inside : (injectOrgFilter unicode (trimSpace req.sql.toList) claims.orgID).isSome) :
    ∃ sql args, handleQuery unicode "POST" (some claims) body = .query sql args := by
  obtain ⟨⟨sql, args⟩, injected⟩ := Option.isSome_iff_exists.mp inside
  refine ⟨sql, args, ?_⟩
  rw [handleQuery, if_neg (by decide)]
  simp only [decoded, if_neg filled, if_pos select, injected]

/-! ## Texts that keep their length in lower case -/

section Unshifted

variable {unicode} {text after : List Char} {filter : Option Formula}

theorem parse_parts (parsed : parse telemetry text = some filter)
    (split : text = beforeKeyword unicode text ++ after)
    (stands : after = [] ∨ keywordHere (toLower unicode after) = true) {first : List Token}
    (lexed : lex (beforeKeyword unicode text) = some first) :
    ∃ rest phase, lex after = some rest ∧ run telemetry .start first = some phase ∧
      reads telemetry phase rest = some filter ∧ Tail rest := by
  rw [split, parse_append lexed (keywordHere_blank unicode stands)] at parsed
  obtain ⟨rest, lexed_after, parsed⟩ := Option.bind_eq_some_iff.mp parsed
  obtain ⟨phase, read, finished⟩ := Option.bind_eq_some_iff.mp parsed
  exact ⟨rest, phase, lexed_after, read, finished, keywordHere_tail unicode stands lexed_after⟩

theorem parseHead_eq {before : List Char} {first : List Token} {phase : Phase}
    (lexed : lex before = some first) (read : run telemetry .start first = some phase) :
    parseHead telemetry before = phase.head := by
  simp [parseHead, lexed, read]

theorem head_some {phase : Phase} {frame : Frame} :
    phase.head = some (some frame) ↔ phase = .factor frame [] := by
  constructor
  · intro is_head
    unfold Phase.head at is_head
    split at is_head
    · simp at is_head
    · rw [Option.some.inj (Option.some.inj is_head)]
    · simp at is_head
  · rintro rfl
    rfl

theorem head_none {phase : Phase} : phase.head = some none ↔ phase = .tabled := by
  constructor
  · intro is_head
    unfold Phase.head at is_head
    split at is_head <;> simp at is_head
    rfl
  · rintro rfl
    rfl

def HeadFits (filtered : Bool) (head : Option (Option Frame)) : Prop :=
  if filtered then ∃ frame, head = some (some frame) ∧ frame.ored = none else head = some none

theorem fitsAt_iff_headFits {filtered : Bool} {phase : Phase} {rest : List Token}
    (tail : Tail rest) (finished : reads telemetry phase rest = some filter) :
    FitsAt filtered phase rest ↔ HeadFits filtered phase.head := by
  cases filtered with
  | true =>
    simp only [FitsAt, HeadFits, if_true, head_some]
    constructor
    · rintro ⟨frame, outer, rfl, conjoins⟩
      obtain ⟨rfl, _, _⟩ := factor_tail tail finished
      exact ⟨frame, rfl, conjoins.before frame (by simp)⟩
    · rintro ⟨frame, rfl, conjunct⟩
      obtain ⟨_, _, others⟩ := factor_tail tail finished
      refine ⟨frame, [], rfl, ⟨orgFilter, ?_⟩, by simpa using conjunct, tail_conjoined tail finished⟩
      rw [others]
      rfl
  | false =>
    simp only [FitsAt, HeadFits, Bool.false_eq_true, if_false, head_none]
    constructor
    · exact And.left
    · rintro rfl
      obtain ⟨_, others⟩ := tabled_tail tail finished
      have read := others (Frame.empty.add orgFilter)
      refine ⟨rfl, ⟨orgFilter, ?_⟩, by simp [Frame.empty], tail_conjoined tail read⟩
      rw [read]
      rfl

theorem goLen_cut {first second before : List Char} (split : first ++ second = before ++ after)
    (same : goLen first = goLen before) : first = before := by
  have bytes : goBytes first ++ goBytes second = goBytes before ++ goBytes after := by
    rw [← goBytes_append, split, goBytes_append]
  have alike := Utf8.encode_injective (List.append_inj_left bytes same)
  exact String.ofList_injective alike

-- Where lower case does not move the first clause, the text before it decides.
theorem filterFits_iff (parsed : parse telemetry text = some filter)
    (unshifted : insertPos unicode text = goLen (beforeKeyword unicode text)) :
    FilterFits unicode text ↔
      HeadFits (contains (toLower unicode text) "where")
        (parseHead telemetry (beforeKeyword unicode text)) := by
  obtain ⟨after, split, stands⟩ := beforeKeyword_split unicode text
  constructor
  · rintro ⟨first, second, cut, pos, before, rest, phase, lexed, lexed_second, read, fits⟩
    obtain rfl := goLen_cut (cut.symm.trans split) (pos.trans unshifted)
    obtain rfl := List.append_cancel_left (cut.symm.trans split)
    obtain ⟨rest', phase', lexed', read', finished, tail⟩ := parse_parts parsed split stands lexed
    obtain rfl := Option.some.inj (lexed_second.symm.trans lexed')
    obtain rfl := Option.some.inj (read.symm.trans read')
    rw [parseHead_eq lexed read]
    exact (fitsAt_iff_headFits tail finished).mp fits
  · intro fits
    cases lexed : lex (beforeKeyword unicode text) with
    | none =>
      unfold HeadFits at fits
      split_ifs at fits <;> simp [parseHead, lexed] at fits
    | some first =>
      obtain ⟨rest, phase, lexed_after, read, finished, tail⟩ :=
        parse_parts parsed split stands lexed
      rw [parseHead_eq lexed read] at fits
      exact ⟨_, after, split, unshifted.symm, first, rest, phase, lexed, lexed_after, read,
        (fitsAt_iff_headFits tail finished).mpr fits⟩

end Unshifted

/-- A text that mentions the organisation must keep to it by itself. In any other text, the place
that was found must take the filter, and no `OR` may get around it. -/
theorem query_isolated_iff {method : String} {claims : Claims} {body : List Char}
    {req : QueryRequest} {filter : Option Formula} {sql : GoString} {args : List String}
    (decoded : QueryRequest.decode body = some req)
    (parsed : parse telemetry (trimSpace req.sql.toList) = some filter)
    (answered : handleQuery unicode method (some claims) body = .query sql args) :
    Isolated claims.orgID sql args ↔
      if contains (toLower unicode (trimSpace req.sql.toList)) "org_id" then
        Confined claims.orgID filter
      else FilterFits unicode (trimSpace req.sql.toList) := by
  have injected := handleQuery_query unicode decoded answered
  split_ifs with named
  · rw [injectOrgFilter_named named] at injected
    obtain ⟨rfl, rfl⟩ := Prod.mk.inj (Option.some.inj injected)
    rw [isolated_goBytes, parsed, ← keepsTo_iff_confined]
    simp
  · exact unnamed_isolated_iff parsed (Bool.not_eq_true _ ▸ named) injected

/-- Letters beyond ASCII are left as they are. -/
def asciiUnicode : Unicode where
  toLower := Char.toLower
  toUpper := Char.toUpper
  lower_ascii := fun _ _ => rfl
  lower_blank := by
    intro c lowered
    have blank : (Char.toLower c).toNat = 32 := by rw [lowered]; rfl
    have small : c.toNat < 128 := ascii_of_toLower (by omega)
    have table : ∀ n < 128, (Char.ofNat n).toLower = ' ' → Char.ofNat n = ' ' := by decide
    have self := Char.ofNat_toNat c
    rw [← self] at lowered ⊢
    exact table c.toNat small lowered

def acmeCaller : Claims := ⟨"user", "acme", "viewer", []⟩

def askBody (sql : String) : List Char := "\x7b\"sql\":\"".toList ++ sql.toList ++ "\"\x7d".toList

def oneReading : String := "SELECT a FROM telemetry WHERE a = 1 LIMIT 5"

def isOne (column : Char) : Formula := .compare ⟨[column], ['='], .name ['1']⟩

theorem conjunction_isolated :
    ∃ sql args, handleQuery asciiUnicode "POST" (some acmeCaller) (askBody oneReading) =
        .query sql args ∧ Isolated acmeCaller.orgID sql args := by
  have decoded : QueryRequest.decode (askBody oneReading) = some ⟨oneReading, []⟩ := rfl
  have parsed : parse telemetry (trimSpace oneReading.toList) = some (some (isOne 'a')) := by
    decide +kernel
  have head : parseHead telemetry (beforeKeyword asciiUnicode (trimSpace oneReading.toList)) =
      some (some ⟨none, some (isOne 'a')⟩) := by
    decide +kernel
  obtain ⟨sql, args, answered⟩ := handleQuery_accepts asciiUnicode decoded (by decide)
    (by decide +kernel) (show (injectOrgFilter _ _ acmeCaller.orgID).isSome by decide +kernel)
  refine ⟨sql, args, answered, (query_isolated_iff asciiUnicode decoded parsed answered).mpr ?_⟩
  rw [if_neg (by decide +kernel), filterFits_iff parsed (by decide +kernel), HeadFits,
    if_pos (by decide +kernel)]
  exact ⟨_, head, rfl⟩

def eitherReading : String := "SELECT a FROM telemetry WHERE a = 1 OR b = 1"

theorem disjunction_not_isolated :
    parse telemetry (trimSpace eitherReading.toList) = some (some (.or (isOne 'a') (isOne 'b'))) ∧
      ∃ sql args, handleQuery asciiUnicode "POST" (some acmeCaller) (askBody eitherReading) =
        .query sql args ∧ ¬ Isolated acmeCaller.orgID sql args := by
  have decoded : QueryRequest.decode (askBody eitherReading) = some ⟨eitherReading, []⟩ := rfl
  have parsed : parse telemetry (trimSpace eitherReading.toList) =
      some (some (.or (isOne 'a') (isOne 'b'))) := by
    decide +kernel
  have head : parseHead telemetry (beforeKeyword asciiUnicode (trimSpace eitherReading.toList)) =
      some (some ⟨some (isOne 'a'), some (isOne 'b')⟩) := by
    decide +kernel
  obtain ⟨sql, args, answered⟩ := handleQuery_accepts asciiUnicode decoded (by decide)
    (by decide +kernel) (show (injectOrgFilter _ _ acmeCaller.orgID).isSome by decide +kernel)
  refine ⟨parsed, sql, args, answered, ?_⟩
  have injected := handleQuery_query asciiUnicode decoded answered
  have unnamed : contains (toLower asciiUnicode (trimSpace eitherReading.toList)) "org_id" = false := by
    decide +kernel
  rw [unnamed_isolated_iff parsed unnamed injected, filterFits_iff parsed (by decide +kernel),
    HeadFits, if_pos (by decide +kernel)]
  rintro ⟨frame, is_head, conjunct⟩
  obtain rfl := Option.some.inj (Option.some.inj (head.symm.trans is_head))
  exact nomatch conjunct

end SystemScale.Contract
