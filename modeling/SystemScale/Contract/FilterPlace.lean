import SystemScale.Contract.TenantIsolation

set_option autoImplicit false

/-!
# The place of the filter

`findClauseInsertPos` measures the lower-case copy of a query, and `injectOrgFilter` cuts the query
itself at what it measured.
-/

namespace SystemScale.Contract

open Cloud Sql

def fragment (filtered : Bool) : List Char := ' ' :: (filterText filtered ++ [' '])

/-- The query ends here, or one of its clauses begins. -/
def ClauseBegins (rest : List Char) : Prop :=
  rest = [] ∨ ∃ keyword ∈ clauseKeywords, keyword <+: lowered rest

/-- The text for the database is the query, with one filter at most before a clause or at the end. -/
def Placed (text : List Char) : Option (GoString × List String) → Prop
  | none => False
  | some (sql, _) => sql = goBytes text ∨
      ∃ filtered first second, text = first ++ second ∧ ClauseBegins second ∧
        sql = goBytes first ++ goBytes (fragment filtered) ++ goBytes second

variable (unicode : Unicode)

/-- Lower case adds to the text before the first clause just the bytes up to a clause or the end. -/
def PlaceKept (text : List Char) : Prop :=
  ∃ between rest, text = beforeKeyword unicode text ++ between ++ rest ∧
    goLen (toLower unicode (beforeKeyword unicode text)) =
      goLen (beforeKeyword unicode text ++ between) ∧
    ClauseBegins rest

/-! ## One place only -/

theorem fragment_commutes {filtered : Bool} {part : List Char} (filled : part ≠ [])
    (same : fragment filtered ++ part = part ++ fragment filtered) :
    fragment filtered <+: part := by
  have apart : ∀ filtered, ∀ length < (fragment filtered).length, length ≠ 0 →
      fragment filtered ++ (fragment filtered).take length ≠
        (fragment filtered).take length ++ fragment filtered := by
    decide
  rcases Nat.lt_or_ge part.length (fragment filtered).length with short | long
  · have begins : part = (fragment filtered).take part.length := by
      have taken := congrArg (List.take part.length) same
      rw [List.take_left, List.take_append_of_le_length (by omega)] at taken
      exact taken.symm
    rw [begins] at same
    exact absurd same (apart filtered part.length short (by simpa using filled))
  · exact List.prefix_of_prefix_length_le ⟨part, same⟩ (List.prefix_append part _) long

theorem not_apart {filtered : Bool} {first part behind : List Char}
    (same : first ++ fragment filtered ++ (part ++ behind) =
      first ++ part ++ fragment filtered ++ behind)
    (absent : ¬ fragment filtered <:+: first ++ (part ++ behind)) : part = [] := by
  have regrouped : first ++ (fragment filtered ++ part) ++ behind =
      first ++ (part ++ fragment filtered) ++ behind := by
    simpa only [List.append_assoc] using same
  have commutes := List.append_cancel_left (List.append_cancel_right regrouped)
  by_contra filled
  obtain ⟨more, rfl⟩ := fragment_commutes filled commutes
  exact absent ⟨first, more ++ behind, by simp only [List.append_assoc]⟩

-- The filter stands at one place of a text that does not have it elsewhere.
theorem placed_once {filtered : Bool} {first second other behind : List Char}
    (split : first ++ second = other ++ behind)
    (same : first ++ fragment filtered ++ second = other ++ fragment filtered ++ behind)
    (absent : ¬ fragment filtered <:+: first ++ second) : first = other := by
  rcases List.append_eq_append_iff.mp split with ⟨part, rfl, rfl⟩ | ⟨part, rfl, rfl⟩
  · rw [not_apart same absent, List.append_nil]
  · rw [split] at absent
    rw [not_apart same.symm absent, List.append_nil]

/-! ## Clauses -/

section Clauses

variable {unicode} {text first second : List Char}

-- A clause of the text itself is one of its lower-case copy.
theorem ClauseBegins.here (unicode : Unicode) (begins : ClauseBegins second) :
    second = [] ∨ keywordHere (toLower unicode second) = true := by
  rcases begins with rfl | ⟨keyword, member, after, split⟩
  · exact .inl rfl
  · obtain ⟨word, rest, rfl, word_is, _⟩ := List.map_eq_append_iff.mp split.symm
    have ascii : ∀ keyword ∈ clauseKeywords, Ascii keyword := by decide
    have spelled := lowered_eq unicode (ascii keyword member) word_is
    refine .inr (List.any_eq_true.mpr ⟨keyword, member, List.isPrefixOf_iff_prefix.mpr ?_⟩)
    exact ⟨toLower unicode rest, by rw [← spelled, toLower, toLower, toLower, List.map_append]⟩

-- The first clause of the lower-case copy is not behind any clause of the text.
theorem beforeKeyword_begins (begins : ClauseBegins second) :
    beforeKeyword unicode (first ++ second) <+: first := by
  have here := begins.here unicode
  induction first with
  | nil =>
    rw [List.nil_append]
    cases second with
    | nil => exact List.prefix_rfl
    | cons c rest =>
      rw [beforeKeyword, if_pos (here.resolve_left (by simp))]
  | cons c rest ih =>
    rw [List.cons_append, beforeKeyword]
    split_ifs
    · exact List.nil_prefix
    · exact List.cons_prefix_cons.mpr ⟨rfl, ih⟩

end Clauses

theorem goBytes_fragment_ne {filtered : Bool} {first second : List Char} :
    goBytes first ++ goBytes (fragment filtered) ++ goBytes second ≠ goBytes (first ++ second) := by
  intro same
  have lengths := congrArg List.length same
  have some : 0 < (goBytes (fragment filtered)).length := by cases filtered <;> decide
  rw [goBytes_append, List.length_append, List.length_append, List.length_append] at lengths
  omega

-- Only one of the two filters has the length that was added.
theorem fragment_same {filtered other : Bool} {first second before behind : List Char}
    (split : first ++ second = before ++ behind)
    (same : goBytes first ++ goBytes (fragment filtered) ++ goBytes second =
      goBytes before ++ goBytes (fragment other) ++ goBytes behind) : filtered = other := by
  have whole := congrArg goLen split
  rw [goLen_append, goLen_append] at whole
  have lengths := congrArg List.length same
  simp only [List.length_append] at lengths
  have alike : goLen (fragment filtered) = goLen (fragment other) := by
    unfold goLen at whole ⊢
    omega
  have table : ∀ filtered other, goLen (fragment filtered) = goLen (fragment other) →
      filtered = other := by
    decide
  exact table filtered other alike

/-! ## Where the filter is put -/

section Injected

variable {unicode} {text : List Char} {org : String} {sql : GoString} {args : List String}

theorem injectOrgFilter_other (other : contains (toLower unicode text) "telemetry" = false) :
    injectOrgFilter unicode text org = some (goBytes text, []) := by
  simp [injectOrgFilter, other]

theorem injectOrgFilter_panics (table : contains (toLower unicode text) "telemetry" = true)
    (unnamed : contains (toLower unicode text) "org_id" = false)
    (panics : injectOrgFilter unicode text org = none) : goLen text < insertPos unicode text := by
  have pos := findClauseInsertPos_toLower unicode text
  unfold injectOrgFilter at panics
  simp only [table, unnamed, not_true_eq_false, if_false, Bool.false_eq_true, pos] at panics
  split_ifs at panics with long
  exact long

theorem unfiltered (unnamed : contains (toLower unicode text) "org_id" = false) (filtered : Bool) :
    ¬ fragment filtered <:+: text := by
  intro inside
  have named : orgColumn <:+: lowered (fragment filtered) := by cases filtered <;> decide
  have mentioned := infix_toLower unicode (by decide) (named.trans (inside.map Char.toLower))
  rw [Bool.eq_false_iff] at unnamed
  exact unnamed (contains_iff.mpr mentioned)

theorem cut_at {first second : List Char} {pos : Nat} (split : text = first ++ second)
    (cut : goLen first = pos) :
    (goBytes text).take pos = goBytes first ∧ (goBytes text).drop pos = goBytes second := by
  rw [split, goBytes_append, ← cut, goLen]
  exact ⟨List.take_left, List.drop_left⟩

theorem placed_kept (table : contains (toLower unicode text) "telemetry" = true)
    (unnamed : contains (toLower unicode text) "org_id" = false)
    (injected : injectOrgFilter unicode text org = some (sql, args))
    (placed : Placed text (some (sql, args))) : PlaceKept unicode text := by
  obtain ⟨short, _, spliced⟩ := injectOrgFilter_unnamed table unnamed injected
  generalize contains (toLower unicode text) "where" = where_found at spliced
  obtain ⟨whole, encoded⟩ : ∃ whole, sql = goBytes whole := by
    rcases placed with same | ⟨filtered, first, second, _, _, same⟩
    · exact ⟨text, same⟩
    · exact ⟨first ++ fragment filtered ++ second, by rw [same, goBytes_append, goBytes_append]⟩
  obtain ⟨before, behind, cut, pos⟩ := cut_of_goBytes short (spliced.symm.trans encoded)
  obtain ⟨taken, dropped⟩ := cut_at cut pos
  have put : sql = goBytes before ++ goBytes (fragment where_found) ++ goBytes behind := by
    rw [spliced, taken, dropped]
    rfl
  rcases placed with same | ⟨filtered, first, second, split, begins, same⟩
  · rw [put, cut] at same
    exact absurd same goBytes_fragment_ne
  · have both := split.symm.trans cut
    rw [put] at same
    obtain rfl := fragment_same both same.symm
    rw [← goBytes_append, ← goBytes_append, ← goBytes_append, ← goBytes_append] at same
    have texts := String.ofList_injective (Utf8.encode_injective same)
    have absent := unfiltered unnamed filtered
    rw [split] at absent
    obtain rfl := placed_once both texts.symm absent
    obtain ⟨between, ends⟩ := @beforeKeyword_begins unicode first second begins
    rw [← split] at ends
    refine ⟨between, second, ?_, ?_, begins⟩
    · rw [ends]
      exact split
    · rw [ends]
      exact pos.symm

theorem kept_placed (table : contains (toLower unicode text) "telemetry" = true)
    (unnamed : contains (toLower unicode text) "org_id" = false)
    (kept : PlaceKept unicode text) : Placed text (injectOrgFilter unicode text org) := by
  obtain ⟨between, rest, split, pos, begins⟩ := kept
  cases injected : injectOrgFilter unicode text org with
  | none =>
    have long := injectOrgFilter_panics table unnamed injected
    have inside := congrArg goLen split
    rw [goLen_append, ← pos] at inside
    unfold insertPos at long
    omega
  | some answer =>
    obtain ⟨sql, args⟩ := answer
    obtain ⟨_, _, spliced⟩ := injectOrgFilter_unnamed table unnamed injected
    obtain ⟨taken, dropped⟩ := cut_at split pos.symm
    refine .inr ⟨contains (toLower unicode text) "where",
      beforeKeyword unicode text ++ between, rest, split, begins, ?_⟩
    rw [spliced, insertPos, taken, dropped]
    rfl

end Injected

/-- The filter is put in one place of the query, and a right one, exactly if there is none to put in
or lower case keeps the place. -/
theorem filter_placed_iff (text : List Char) (org : String) :
    Placed text (injectOrgFilter unicode text org) ↔
      contains (toLower unicode text) "telemetry" = false ∨
      contains (toLower unicode text) "org_id" = true ∨ PlaceKept unicode text := by
  cases table : contains (toLower unicode text) "telemetry" with
  | false =>
    rw [injectOrgFilter_other table]
    exact iff_of_true (.inl rfl) (.inl rfl)
  | true =>
    cases named : contains (toLower unicode text) "org_id" with
    | true =>
      rw [injectOrgFilter_named named]
      exact iff_of_true (.inl rfl) (.inr (.inl rfl))
    | false =>
      simp only [Bool.true_eq_false, Bool.false_eq_true, false_or]
      refine ⟨fun placed => ?_, kept_placed table named⟩
      cases injected : injectOrgFilter unicode text org with
      | none =>
        rw [injected] at placed
        exact placed.elim
      | some answer =>
        rw [injected] at placed
        exact placed_kept table named injected placed

/-- One letter beyond ASCII, whose lower case has three bytes instead of two. -/
def strokedUnicode : Unicode where
  toLower c := if c = 'Ⱥ' then 'ⱥ' else c.toLower
  toUpper c := if c = 'ⱥ' then 'Ⱥ' else c.toUpper
  lower_ascii := by
    intro c small
    rw [if_neg]
    rintro rfl
    revert small
    decide
  lower_blank := by
    intro c lowered
    split_ifs at lowered
    · exact absurd lowered (by decide)
    · exact asciiUnicode.lower_blank c lowered

theorem longer_letter_panics :
    injectOrgFilter strokedUnicode "SELECT 'Ⱥ' FROM telemetry".toList "acme" = none ∧
      ¬ ∀ (unicode : Unicode) (text : List Char) (org : String),
        Placed text (injectOrgFilter unicode text org) := by
  have panics : injectOrgFilter strokedUnicode "SELECT 'Ⱥ' FROM telemetry".toList "acme" = none := by
    decide +kernel
  refine ⟨panics, fun always => ?_⟩
  have placed := always strokedUnicode "SELECT 'Ⱥ' FROM telemetry".toList "acme"
  rw [panics] at placed
  exact placed

end SystemScale.Contract
