import SystemScale.Lib.Sql

set_option autoImplicit false

/-!
# Texts put into queries

A blank ends every token but a text in quotation marks, so what is put in between is read on its
own. A word that a text does not contain is not among its tokens.
-/

namespace Sql

/-! ## Cutting texts -/

theorem scan_append (mode : Mode) (first second : List Char) :
    scan mode (first ++ second) =
      (scan mode first).bind fun before =>
        (scan before.2 second).map fun after => (before.1 ++ after.1, after.2) := by
  induction first generalizing mode with
  | nil => cases found : scan mode second <;> simp [scan, found]
  | cons c rest ih =>
    rw [List.cons_append, scan, scan]
    cases step mode c with
    | none => rfl
    | some stepped =>
      simp only [Option.bind_eq_bind, Option.bind_some, ih]
      cases scan stepped.2 rest with
      | none => rfl
      | some scanned =>
        simp only [Option.bind_some]
        cases scan scanned.2 second <;> simp

theorem step_space {mode : Mode} {ended : List Token} (closed : mode.close = some ended) :
    step mode ' ' = some (ended, .blank) := by
  have blank : begin ' ' = some ([], .blank) := by decide
  have solid : isWordChar ' ' = false ∧ isOperatorChar ' ' = false := by decide
  cases mode with
  | literal text => simp [Mode.close] at closed
  | quoted text => simp [Mode.close] at closed
  | _ => simp [step, Mode.extend, closed, blank, solid]

theorem lexFrom_append {mode : Mode} {first : List Char} {tokens : List Token}
    (lexed : lexFrom mode first = some tokens) (rest : List Char) :
    lexFrom mode (first ++ ' ' :: rest) = (lex rest).map (tokens ++ ·) := by
  rw [lexFrom] at lexed
  rw [lexFrom, scan_append]
  cases scanned : scan mode first with
  | none => simp [scanned] at lexed
  | some scanned' =>
    obtain ⟨before, mode'⟩ := scanned'
    simp only [scanned, Option.bind_eq_bind, Option.bind_some] at lexed ⊢
    cases closed : mode'.close with
    | none => simp [closed] at lexed
    | some ended =>
      simp only [closed, Option.bind_some, Option.some.injEq] at lexed
      subst lexed
      rw [scan, step_space closed, lex, lexFrom]
      simp only [Option.bind_eq_bind, Option.bind_some]
      cases scan .blank rest with
      | none => rfl
      | some more =>
        simp only [Option.bind_some, Option.map_some]
        cases more.2.close <;> simp

theorem lex_append {first : List Char} {tokens : List Token} (lexed : lex first = some tokens)
    (rest : List Char) : lex (first ++ ' ' :: rest) = (lex rest).map (tokens ++ ·) :=
  lexFrom_append lexed rest

theorem lex_blank (rest : List Char) : lex (' ' :: rest) = lex rest := by
  have lexed := lex_append (show lex [] = some [] from rfl) rest
  rw [List.nil_append] at lexed
  rw [lexed]
  cases lex rest <;> simp

theorem scan_word (text word : List Char) (spelled : ∀ c ∈ word, isWordChar c = true) :
    scan (.word text) word = some ([], .word (text ++ word)) := by
  induction word generalizing text with
  | nil => simp [scan]
  | cons c word ih =>
    have first := spelled c (by simp)
    have later := ih (text ++ [c]) fun other member => spelled other (List.mem_cons_of_mem _ member)
    simp [scan, step, Mode.extend, first, later]

theorem lex_word {word : List Char} (filled : word ≠ []) (spelled : ∀ c ∈ word, isWordChar c = true) :
    lex word = some [.word (lowered word)] := by
  cases word with
  | nil => exact absurd rfl filled
  | cons c word =>
    have first := spelled c (by simp)
    have solid : isBlank c = false := by
      by_contra blank
      simp only [isBlank, Bool.not_eq_false, Bool.or_eq_true, decide_eq_true_eq] at blank
      rcases blank with (((rfl | rfl) | rfl) | rfl) | rfl <;> revert first <;> decide
    have begun : begin c = some ([], .word [c]) := by simp [begin, solid, first]
    have later := scan_word [c] word fun other member => spelled other (List.mem_cons_of_mem _ member)
    simp [lex, lexFrom, scan, step, Mode.extend, Mode.close, begun, later]

theorem scan_literal (text more : List Char) (unquoted : '\'' ∉ more) :
    scan (.literal text) more = some ([], .literal (text ++ more)) := by
  induction more generalizing text with
  | nil => simp [scan]
  | cons c more ih =>
    obtain ⟨other, unquoted⟩ := List.ne_and_not_mem_of_not_mem_cons unquoted
    have later := ih (text ++ [c]) unquoted
    simp [scan, step, Mode.extend, other.symm, later]

theorem scan_quoted (text more : List Char) (unquoted : '"' ∉ more) :
    scan (.quoted text) more = some ([], .quoted (text ++ more)) := by
  induction more generalizing text with
  | nil => simp [scan]
  | cons c more ih =>
    obtain ⟨other, unquoted⟩ := List.ne_and_not_mem_of_not_mem_cons unquoted
    have later := ih (text ++ [c]) unquoted
    simp [scan, step, Mode.extend, other.symm, later]

/-! ## Words that are not there -/

def Token.Spells (word : List Char) (token : Token) : Prop :=
  token = .word word ∨ token = .quoted word

/-- What is being read stands in the text that was read, or can be no spelling of the word. -/
def Mode.Fresh (word read : List Char) : Mode → Prop
  | .word text => text <:+ read
  | .quoted text => text <:+ read ∨ '"' ∈ text ∨ word.length < text.length
  | .quotedQuote text => text <:+: read ∨ '"' ∈ text ∨ word.length < text.length
  | _ => True

section Absent

variable {word read : List Char} {mode : Mode}

theorem mem_lowered_quote {text : List Char} (quote : '"' ∈ text) : '"' ∈ lowered text :=
  List.mem_map.mpr ⟨'"', quote, by decide⟩

theorem close_absent (unquoted : '"' ∉ word) (absent : ¬ word <:+: lowered read)
    (fresh : mode.Fresh word read) {ended : List Token} (closed : mode.close = some ended) :
    ∀ token ∈ ended, ¬ token.Spells word := by
  intro token member spells
  cases mode with
  | word text =>
    obtain rfl := Option.some.inj closed
    obtain rfl := List.mem_singleton.mp member
    rcases spells with is | is
    · obtain rfl := Token.word.inj is
      exact absent (fresh.isInfix.map Char.toLower)
    · simp at is
  | quotedQuote text =>
    obtain rfl := Option.some.inj closed
    obtain rfl := List.mem_singleton.mp member
    rcases spells with is | is
    · simp at is
    · obtain rfl := Token.quoted.inj is
      rcases fresh with inside | quote | long
      · exact absent (inside.map Char.toLower)
      · exact unquoted (mem_lowered_quote quote)
      · simp [lowered] at long
  | blank =>
    obtain rfl := Option.some.inj closed
    simp at member
  | operator text =>
    obtain rfl := Option.some.inj closed
    obtain rfl := List.mem_singleton.mp member
    simp [Token.Spells] at spells
  | literalQuote text =>
    obtain rfl := Option.some.inj closed
    obtain rfl := List.mem_singleton.mp member
    simp [Token.Spells] at spells
  | literal text => simp [Mode.close] at closed
  | quoted text => simp [Mode.close] at closed

theorem suffix_concat {text : List Char} (suffix : text <:+ read) (c : Char) :
    text ++ [c] <:+ read ++ [c] := by
  obtain ⟨before, rfl⟩ := suffix
  exact ⟨before, by simp⟩

theorem extend_fresh {c : Char} {next : Mode} (fresh : mode.Fresh word read)
    (extended : mode.extend c = some next) : next.Fresh word (read ++ [c]) := by
  cases mode with
  | blank => simp [Mode.extend] at extended
  | word text =>
    simp only [Mode.extend] at extended
    split_ifs at extended
    obtain rfl := Option.some.inj extended
    exact suffix_concat fresh c
  | operator text =>
    simp only [Mode.extend] at extended
    split_ifs at extended
    obtain rfl := Option.some.inj extended
    trivial
  | literal text =>
    obtain rfl := Option.some.inj extended
    split_ifs <;> trivial
  | literalQuote text =>
    simp only [Mode.extend] at extended
    split_ifs at extended
    obtain rfl := Option.some.inj extended
    trivial
  | quoted text =>
    obtain rfl := Option.some.inj extended
    split_ifs
    · rcases fresh with suffix | other
      · exact .inl (suffix.isInfix.trans (List.prefix_append read [c]).isInfix)
      · exact .inr other
    · rcases fresh with suffix | quote | long
      · exact .inl (suffix_concat suffix c)
      · exact .inr (.inl (List.mem_append_left _ quote))
      · exact .inr (.inr (by simp; omega))
  | quotedQuote text =>
    simp only [Mode.extend] at extended
    split_ifs at extended with quote
    obtain rfl := Option.some.inj extended
    exact .inr (.inl (by simp [quote]))

theorem begin_fresh (word read : List Char) {c : Char} {begun : List Token} {next : Mode}
    (began : begin c = some (begun, next)) :
    (∀ token ∈ begun, ¬ token.Spells word) ∧ next.Fresh word (read ++ [c]) := by
  unfold begin at began
  repeat' split at began
  all_goals cases began
  all_goals simp [Token.Spells, Mode.Fresh]

theorem step_absent {c : Char} {tokens : List Token} {next : Mode} (unquoted : '"' ∉ word)
    (absent : ¬ word <:+: lowered read) (fresh : mode.Fresh word read)
    (stepped : step mode c = some (tokens, next)) :
    (∀ token ∈ tokens, ¬ token.Spells word) ∧ next.Fresh word (read ++ [c]) := by
  unfold step at stepped
  cases extended : mode.extend c with
  | some longer =>
    simp only [extended, Option.some.injEq, Prod.mk.injEq] at stepped
    obtain ⟨rfl, rfl⟩ := stepped
    exact ⟨by simp, extend_fresh fresh extended⟩
  | none =>
    cases closed : mode.close with
    | none => simp [extended, closed] at stepped
    | some ended =>
      cases began : begin c with
      | none => simp [extended, closed, began] at stepped
      | some begun =>
        simp only [extended, closed, began, Option.bind_eq_bind, Option.bind_some,
          Option.some.injEq, Prod.mk.injEq] at stepped
        obtain ⟨rfl, rfl⟩ := stepped
        obtain ⟨others, fresh_next⟩ := begin_fresh word read began
        have first := close_absent unquoted absent fresh closed
        refine ⟨fun token member => ?_, fresh_next⟩
        rcases List.mem_append.mp member with member | member
        · exact first token member
        · exact others token member

theorem scan_absent (unquoted : '"' ∉ word) {text : List Char} {tokens : List Token} {next : Mode}
    (absent : ¬ word <:+: lowered (read ++ text)) (fresh : mode.Fresh word read)
    (scanned : scan mode text = some (tokens, next)) :
    (∀ token ∈ tokens, ¬ token.Spells word) ∧ next.Fresh word (read ++ text) := by
  induction text generalizing mode read tokens with
  | nil =>
    obtain ⟨rfl, rfl⟩ := Prod.mk.inj (Option.some.inj scanned)
    rw [List.append_nil]
    exact ⟨by simp, fresh⟩
  | cons c rest ih =>
    have before : ¬ word <:+: lowered read := fun inside =>
      absent (inside.trans ((List.prefix_append read (c :: rest)).isInfix.map Char.toLower))
    rw [scan] at scanned
    cases stepped : step mode c with
    | none => simp [stepped] at scanned
    | some first =>
      obtain ⟨begun, mode'⟩ := first
      obtain ⟨first_absent, fresh'⟩ := step_absent unquoted before fresh stepped
      cases later : scan mode' rest with
      | none => simp [stepped, later] at scanned
      | some more =>
        obtain ⟨more, last⟩ := more
        simp only [stepped, later, Option.bind_eq_bind, Option.bind_some, Option.some.injEq,
          Prod.mk.injEq] at scanned
        obtain ⟨rfl, rfl⟩ := scanned
        have split : read ++ c :: rest = read ++ [c] ++ rest := by simp
        rw [split] at absent ⊢
        obtain ⟨more_absent, fresh_last⟩ := ih absent fresh' later
        refine ⟨fun token member => ?_, fresh_last⟩
        rcases List.mem_append.mp member with member | member
        · exact first_absent token member
        · exact more_absent token member

theorem lexFrom_absent (unquoted : '"' ∉ word) {text : List Char} {tokens : List Token}
    (absent : ¬ word <:+: lowered (read ++ text)) (fresh : mode.Fresh word read)
    (lexed : lexFrom mode text = some tokens) : ∀ token ∈ tokens, ¬ token.Spells word := by
  rw [lexFrom] at lexed
  cases scanned : scan mode text with
  | none => simp [scanned] at lexed
  | some found =>
    obtain ⟨before, last⟩ := found
    obtain ⟨before_absent, fresh_last⟩ := scan_absent unquoted absent fresh scanned
    cases closed : last.close with
    | none => simp [scanned, closed] at lexed
    | some ended =>
      simp only [scanned, closed, Option.bind_eq_bind, Option.bind_some,
        Option.some.injEq] at lexed
      have ended_absent := close_absent unquoted absent fresh_last closed
      intro token member
      rw [← lexed] at member
      rcases List.mem_append.mp member with member | member
      · exact before_absent token member
      · exact ended_absent token member

end Absent

theorem lex_absent {word text : List Char} (unquoted : '"' ∉ word)
    (absent : ¬ word <:+: lowered text) {tokens : List Token} (lexed : lex text = some tokens) :
    ∀ token ∈ tokens, ¬ token.Spells word :=
  lexFrom_absent unquoted (show ¬ word <:+: lowered ([] ++ text) from absent)
    (show Mode.Fresh word [] .blank from trivial) lexed

theorem lexFrom_scan {mode next : Mode} {first : List Char} {tokens : List Token}
    (scanned : scan mode first = some (tokens, next)) (second : List Char) :
    lexFrom mode (first ++ second) = (lexFrom next second).map (tokens ++ ·) := by
  rw [lexFrom, lexFrom, scan_append, scanned]
  simp only [Option.bind_eq_bind, Option.bind_some]
  cases scan next second with
  | none => rfl
  | some more =>
    simp only [Option.map_some, Option.bind_some]
    cases more.2.close <;> simp

-- A text that is put inside quotation marks adds to what stands there, and no more.
theorem lex_unclosed {word before between after : List Char} (unquoted_word : '"' ∉ word)
    (unclosed : lex before = none) (whole : (lex (before ++ after)).isSome)
    (absent : ¬ word <:+: lowered (before ++ after))
    (unquoted : '\'' ∉ between ∧ '"' ∉ between) (long : word.length < between.length)
    {tokens : List Token} (lexed : lex (before ++ (between ++ after)) = some tokens) :
    ∀ token ∈ tokens, ¬ token.Spells word := by
  cases scanned : scan .blank before with
  | none => simp [lex, lexFrom, scan_append, scanned] at whole
  | some found =>
    obtain ⟨first, mode⟩ := found
    have absent_before : ¬ word <:+: lowered ([] ++ before) := fun inside =>
      absent (inside.trans ((List.prefix_append before after).isInfix.map Char.toLower))
    have absent_after : ¬ word <:+: lowered ([] ++ after) := fun inside =>
      absent (inside.trans ((List.suffix_append before after).isInfix.map Char.toLower))
    obtain ⟨first_absent, -⟩ := scan_absent unquoted_word absent_before
      (show Mode.Fresh word [] .blank from trivial) scanned
    rw [lex, lexFrom_scan scanned] at lexed
    obtain ⟨rest, lexed_rest, rfl⟩ := Option.map_eq_some_iff.mp lexed
    -- Only the two kinds of quotation marks leave a text unclosed.
    have rest_absent : ∀ token ∈ rest, ¬ token.Spells word := by
      cases mode with
      | literal text =>
        rw [lexFrom_scan (scan_literal text between unquoted.1)] at lexed_rest
        obtain ⟨later, lexed_later, rfl⟩ := Option.map_eq_some_iff.mp lexed_rest
        exact lexFrom_absent unquoted_word absent_after
          (show Mode.Fresh word [] (.literal (text ++ between)) from trivial) lexed_later
      | quoted text =>
        rw [lexFrom_scan (scan_quoted text between unquoted.2)] at lexed_rest
        obtain ⟨later, lexed_later, rfl⟩ := Option.map_eq_some_iff.mp lexed_rest
        have fresh : Mode.Fresh word [] (.quoted (text ++ between)) :=
          .inr (.inr (by simp; omega))
        exact lexFrom_absent unquoted_word absent_after fresh lexed_later
      | _ => simp [lex, lexFrom, scanned, Mode.close] at unclosed
    intro token member
    rcases List.mem_append.mp member with member | member
    · exact first_absent token member
    · exact rest_absent token member

/-! ## Names that are not there -/

theorem name_absent {word : List Char} {token : Token} (absent : ¬ token.Spells word) :
    token.name ≠ some word := by
  intro named
  cases token with
  | word text =>
    simp only [Token.name] at named
    split_ifs at named
    exact absent (.inl (congrArg Token.word (Option.some.inj named)))
  | quoted text => exact absent (.inr (congrArg Token.quoted (Option.some.inj named)))
  | _ => simp [Token.name] at named

def Formula.Avoids (column : List Char) : Formula → Prop
  | .compare comparison => comparison.column ≠ column
  | .and first second => first.Avoids column ∧ second.Avoids column
  | .or first second => first.Avoids column ∧ second.Avoids column
  | .paren inner => inner.Avoids column

theorem Formula.Avoids.holds {column : List Char} {formula : Formula}
    (avoids : formula.Avoids column) {meets : Comparison → Bool}
    (others : ∀ comparison, comparison.column ≠ column → meets comparison = true) :
    formula.holds meets = true := by
  induction formula with
  | compare comparison => exact others comparison avoids
  | and first second ih_first ih_second =>
    simp [Formula.holds, ih_first avoids.1, ih_second avoids.2]
  | or first second ih_first ih_second => simp [Formula.holds, ih_first avoids.1]
  | paren inner ih => exact ih avoids

def AllAvoid (column : List Char) (formula : Option Formula) : Prop :=
  ∀ found, formula = some found → found.Avoids column

structure Frame.Avoids (column : List Char) (frame : Frame) : Prop where
  ored : AllAvoid column frame.ored
  conj : AllAvoid column frame.conj

/-- The column is not compared in what has been read of the formula. -/
def Phase.Avoids (column : List Char) : Phase → Prop
  | .operand frame outer => frame.Avoids column ∧ ∀ other ∈ outer, other.Avoids column
  | .compared name frame outer =>
    name ≠ column ∧ frame.Avoids column ∧ ∀ other ∈ outer, other.Avoids column
  | .value name _ frame outer =>
    name ≠ column ∧ frame.Avoids column ∧ ∀ other ∈ outer, other.Avoids column
  | .factor frame outer => frame.Avoids column ∧ ∀ other ∈ outer, other.Avoids column
  | .byNext filter _ => AllAvoid column filter
  | .argument filter _ => AllAvoid column filter
  | .arguments filter _ => AllAvoid column filter
  | _ => True

section Avoiding

variable {column source : List Char} {frame : Frame}

theorem AllAvoid.none : AllAvoid column none := fun _ found => nomatch found

theorem AllAvoid.some {formula : Formula} (avoids : formula.Avoids column) :
    AllAvoid column (some formula) := by
  rintro found ⟨⟩
  exact avoids

theorem Frame.Avoids.empty : Frame.empty.Avoids column := ⟨.none, .none⟩

theorem Frame.Avoids.add (avoids : frame.Avoids column) {factor : Formula}
    (factor_avoids : factor.Avoids column) : (frame.add factor).Avoids column := by
  unfold Frame.add
  cases conj : frame.conj with
  | none => exact ⟨avoids.ored, .some factor_avoids⟩
  | some before => exact ⟨avoids.ored, .some ⟨avoids.conj before conj, factor_avoids⟩⟩

theorem Frame.Avoids.whole (avoids : frame.Avoids column) : AllAvoid column frame.whole := by
  unfold Frame.whole
  cases ored : frame.ored with
  | none => exact avoids.conj
  | some before =>
    cases conj : frame.conj with
    | none => exact .some (avoids.ored before ored)
    | some last => exact .some ⟨avoids.ored before ored, avoids.conj last conj⟩

theorem Frame.Avoids.split (avoids : frame.Avoids column) : frame.split.Avoids column :=
  ⟨avoids.whole, .none⟩

theorem clause_avoids {filter : Option Formula} {last : Nat} {token : Token} {next : Phase}
    (avoids : AllAvoid column filter) (read : clause filter last token = some next) :
    next.Avoids column := by
  unfold clause at read
  split_ifs at read <;> obtain rfl := Option.some.inj read <;> exact avoids

theorem next_avoids {phase next : Phase} {token : Token} (avoids : phase.Avoids column)
    (other : token.name ≠ some column) (read : phase.next source token = some next) :
    next.Avoids column := by
  cases phase with
  | tabled =>
    simp only [Phase.next] at read
    split_ifs at read
    · obtain rfl := Option.some.inj read
      exact ⟨.empty, by simp⟩
    · exact clause_avoids .none read
  | operand frame outer =>
    simp only [Phase.next] at read
    split_ifs at read
    · obtain rfl := Option.some.inj read
      exact ⟨.empty, List.forall_mem_cons.mpr avoids⟩
    · obtain ⟨name, named, rfl⟩ := Option.map_eq_some_iff.mp read
      exact ⟨fun same => other (named.trans (congrArg some same)), avoids⟩
  | compared name frame outer =>
    simp only [Phase.next] at read
    split at read
    · obtain rfl := Option.some.inj read
      exact avoids
    · simp at read
  | value name operator frame outer =>
    simp only [Phase.next] at read
    split at read
    · obtain rfl := Option.some.inj read
      exact ⟨avoids.2.1.add avoids.1, avoids.2.2⟩
    · obtain ⟨text, named, rfl⟩ := Option.map_eq_some_iff.mp read
      exact ⟨avoids.2.1.add avoids.1, avoids.2.2⟩
  | factor frame outer =>
    cases outer with
    | nil =>
      simp only [Phase.next] at read
      split_ifs at read
      · obtain rfl := Option.some.inj read
        exact avoids
      · obtain rfl := Option.some.inj read
        exact ⟨avoids.1.split, avoids.2⟩
      · exact clause_avoids avoids.1.whole read
    | cons enclosing outer =>
      obtain ⟨first, others⟩ := List.forall_mem_cons.mp avoids.2
      simp only [Phase.next] at read
      split_ifs at read
      · obtain rfl := Option.some.inj read
        exact avoids
      · obtain rfl := Option.some.inj read
        exact ⟨avoids.1.split, avoids.2⟩
      · obtain ⟨inner, whole, rfl⟩ := Option.map_eq_some_iff.mp read
        have inner_avoids : (Formula.paren inner).Avoids column := avoids.1.whole inner whole
        exact ⟨first.add inner_avoids, others⟩
  | byNext filter number =>
    simp only [Phase.next] at read
    split_ifs at read
    obtain rfl := Option.some.inj read
    exact avoids
  | argument filter number =>
    simp only [Phase.next] at read
    split_ifs at read
    obtain rfl := Option.some.inj read
    exact avoids
  | arguments filter number =>
    simp only [Phase.next] at read
    split_ifs at read
    · obtain rfl := Option.some.inj read
      exact avoids
    · obtain rfl := Option.some.inj read
      exact avoids
    · exact clause_avoids avoids read
  | _ =>
    simp only [Phase.next, itemNext] at read
    split_ifs at read <;> obtain rfl := Option.some.inj read <;> trivial

theorem run_invariant (Inv : Phase → Prop) (Good : Token → Prop)
    (preserved : ∀ phase token next, Inv phase → Good token →
      phase.next source token = some next → Inv next)
    {phase last : Phase} {tokens : List Token} (first : Inv phase)
    (good : ∀ token ∈ tokens, Good token) (read : run source phase tokens = some last) :
    Inv last := by
  induction tokens generalizing phase with
  | nil =>
    obtain rfl := Option.some.inj read
    exact first
  | cons token rest ih =>
    rw [run, List.foldlM_cons] at read
    cases stepped : phase.next source token with
    | none => simp [stepped] at read
    | some next =>
      simp only [stepped, Option.bind_eq_bind, Option.bind_some] at read
      exact ih (preserved phase token next first (good token (by simp)) stepped)
        (fun other member => good other (List.mem_cons_of_mem _ member)) read

theorem run_avoids {phase last : Phase} {tokens : List Token} (avoids : phase.Avoids column)
    (others : ∀ token ∈ tokens, ¬ token.Spells column)
    (read : run source phase tokens = some last) : last.Avoids column :=
  run_invariant (Phase.Avoids column) (fun token => ¬ token.Spells column)
    (fun _ _ _ avoids other stepped => next_avoids avoids (name_absent other) stepped)
    avoids others read

theorem finish_avoids {phase : Phase} {filter : Option Formula} (avoids : phase.Avoids column)
    (finished : phase.finish = some filter) : AllAvoid column filter := by
  unfold Phase.finish at finished
  split at finished
  · obtain rfl := Option.some.inj finished
    exact .none
  · obtain rfl := Option.some.inj finished
    exact avoids.1.whole
  · obtain rfl := Option.some.inj finished
    exact avoids
  · simp at finished

end Avoiding

theorem parse_avoids {column source text : List Char} {filter : Option Formula}
    (parsed : parse source text = some filter)
    (absent : ∀ tokens, lex text = some tokens → ∀ token ∈ tokens, ¬ token.Spells column) :
    AllAvoid column filter := by
  rw [parse] at parsed
  cases lexed : lex text with
  | none => simp [lexed] at parsed
  | some tokens =>
    cases read : run source .start tokens with
    | none => simp [lexed, read] at parsed
    | some last =>
      simp only [lexed, read, Option.bind_eq_bind, Option.bind_some] at parsed
      have avoids : Phase.start.Avoids column := trivial
      exact finish_avoids (run_avoids avoids (absent tokens lexed) read) parsed

/-! ## What a statement must name -/

section Header

variable {source : List Char}

def Phase.Header : Phase → Prop
  | .start => True
  | .item => True
  | .columnEnd => True
  | .call => True
  | .callEnd => True
  | .called => True
  | .aliasNext => True
  | .itemEnd => True
  | .table => True
  | _ => False

theorem next_header {phase next : Phase} {token : Token} (header : phase.Header)
    (other : token.name ≠ some source) (read : phase.next source token = some next) :
    next.Header := by
  cases phase with
  | table => simp [Phase.next, other] at read
  | start | item | columnEnd | call | callEnd | called | aliasNext | itemEnd =>
    simp only [Phase.next, itemNext] at read
    split_ifs at read <;> obtain rfl := Option.some.inj read <;> trivial
  | _ => exact header.elim

theorem parse_names {text : List Char} {filter : Option Formula} (unquoted : '"' ∉ source)
    (parsed : parse source text = some filter) : source <:+: lowered text := by
  by_contra absent
  rw [parse] at parsed
  cases lexed : lex text with
  | none => simp [lexed] at parsed
  | some tokens =>
    cases read : run source .start tokens with
    | none => simp [lexed, read] at parsed
    | some last =>
      have header := run_invariant Phase.Header (fun token => ¬ token.Spells source)
        (fun _ _ _ header other stepped => next_header header (name_absent other) stepped)
        (show Phase.start.Header from trivial) (lex_absent unquoted absent lexed) read
      simp only [lexed, read, Option.bind_eq_bind, Option.bind_some] at parsed
      cases last <;> first | exact header.elim | simp [Phase.finish] at parsed

end Header

/-! ## Texts in between -/

section Between

variable {source : List Char}

def reads (source : List Char) (phase : Phase) (tokens : List Token) : Option (Option Formula) :=
  (run source phase tokens).bind Phase.finish

theorem run_append (phase : Phase) (first second : List Token) :
    run source phase (first ++ second) =
      (run source phase first).bind fun next => run source next second :=
  List.foldlM_append

def StartsBlank (text : List Char) : Prop := text = [] ∨ ∃ rest, text = ' ' :: rest

theorem lex_append_blank {first second : List Char} {tokens : List Token}
    (lexed : lex first = some tokens) (blank : StartsBlank second) :
    lex (first ++ second) = (lex second).map (tokens ++ ·) := by
  rcases blank with rfl | ⟨rest, rfl⟩
  · have nothing : lex [] = some [] := rfl
    simp [lexed, nothing]
  · rw [lex_append lexed, lex_blank]

theorem parse_append {first second : List Char} {tokens : List Token}
    (lexed : lex first = some tokens) (blank : StartsBlank second) :
    parse source (first ++ second) =
      (lex second).bind fun rest =>
        (run source .start tokens).bind fun phase => reads source phase rest := by
  rw [parse, lex_append_blank lexed blank]
  cases lex second with
  | none => rfl
  | some rest =>
    simp only [Option.map_some, Option.bind_eq_bind, Option.bind_some, run_append, reads]
    cases run source .start tokens <;> rfl

theorem parse_between {first between second : List Char} {before inserted : List Token}
    (lexed : lex first = some before) (lexed_between : lex between = some inserted) :
    parse source (first ++ ' ' :: between ++ ' ' :: second) =
      (lex second).bind fun rest =>
        (run source .start before).bind fun phase =>
          (run source phase inserted).bind fun next => reads source next rest := by
  have lexed_both := lex_append lexed between
  rw [lexed_between, Option.map_some] at lexed_both
  have lexed_second := lex_blank second
  rw [parse_append lexed_both (.inr ⟨second, rfl⟩), lexed_second]
  congr 1
  funext rest
  rw [run_append]
  cases run source .start before <;> rfl

theorem next_and {phase next : Phase} (read : phase.next source (.word "and".toList) = some next) :
    ∃ frame outer, phase = .factor frame outer ∧ next = .operand frame outer := by
  cases phase with
  | factor frame outer => exact ⟨frame, outer, rfl, (Option.some.inj read).symm⟩
  | _ => simp [Phase.next, itemNext, clause, Token.is, Token.name, Token.isLiteral, reserved] at read

theorem next_where {phase next : Phase}
    (read : phase.next source (.word "where".toList) = some next) :
    phase = .tabled ∧ next = .operand .empty [] := by
  cases phase with
  | tabled => exact ⟨rfl, (Option.some.inj read).symm⟩
  | factor frame outer =>
    cases outer <;> simp [Phase.next, clause, Token.is] at read
  | _ => simp [Phase.next, itemNext, clause, Token.is, Token.name, Token.isLiteral, reserved] at read

/-! ## The clauses behind a formula -/

def Phase.InClause (filter : Option Formula) : Phase → Prop
  | .byNext other _ => other = filter
  | .argument other _ => other = filter
  | .arguments other _ => other = filter
  | _ => False

def Phase.refilter (filter : Option Formula) : Phase → Phase
  | .byNext _ number => .byNext filter number
  | .argument _ number => .argument filter number
  | .arguments _ number => .arguments filter number
  | phase => phase

theorem clause_refilter {filter : Option Formula} {last : Nat} {token : Token} {next : Phase}
    (read : clause filter last token = some next) (other : Option Formula) :
    next.InClause filter ∧ clause other last token = some (next.refilter other) := by
  unfold clause at read ⊢
  split_ifs at read ⊢ <;> obtain rfl := Option.some.inj read <;> exact ⟨rfl, rfl⟩

theorem next_refilter {filter : Option Formula} {phase next : Phase} {token : Token}
    (inside : phase.InClause filter) (read : phase.next source token = some next)
    (other : Option Formula) :
    next.InClause filter ∧
      (phase.refilter other).next source token = some (next.refilter other) := by
  cases phase with
  | byNext found number =>
    obtain rfl : found = filter := inside
    simp only [Phase.next, Phase.refilter] at read ⊢
    split_ifs at read ⊢
    obtain rfl := Option.some.inj read
    exact ⟨rfl, rfl⟩
  | argument found number =>
    obtain rfl : found = filter := inside
    simp only [Phase.next, Phase.refilter] at read ⊢
    split_ifs at read ⊢
    obtain rfl := Option.some.inj read
    exact ⟨rfl, rfl⟩
  | arguments found number =>
    obtain rfl : found = filter := inside
    simp only [Phase.next, Phase.refilter] at read ⊢
    split_ifs at read ⊢
    · obtain rfl := Option.some.inj read
      exact ⟨rfl, rfl⟩
    · obtain rfl := Option.some.inj read
      exact ⟨rfl, rfl⟩
    · exact clause_refilter read other
  | _ => exact inside.elim

theorem reads_refilter {filter found : Option Formula} {phase : Phase} {tokens : List Token}
    (inside : phase.InClause filter) (read : reads source phase tokens = some found)
    (other : Option Formula) :
    found = filter ∧ reads source (phase.refilter other) tokens = some other := by
  induction tokens generalizing phase with
  | nil =>
    cases phase with
    | arguments filter number =>
      obtain rfl := inside
      obtain rfl := Option.some.inj read
      exact ⟨rfl, rfl⟩
    | _ => first | exact inside.elim | simp [reads, run, Phase.finish] at read
  | cons token rest ih =>
    simp only [reads, run, List.foldlM_cons] at read ⊢
    cases stepped : phase.next source token with
    | none => simp [stepped] at read
    | some next =>
      obtain ⟨inside_next, refiltered⟩ := next_refilter inside stepped other
      simp only [stepped, refiltered, Option.bind_eq_bind, Option.bind_some] at read ⊢
      exact ih inside_next read

/-- No token, or a word that does not go on with a formula. -/
def Tail (tokens : List Token) : Prop :=
  tokens = [] ∨ ∃ word rest, tokens = .word word :: rest ∧
    word ≠ "and".toList ∧ word ≠ "or".toList ∧ word ≠ "where".toList

theorem word_is {word : List Char} {keyword : String} (other : word ≠ keyword.toList) :
    (Token.word word).is keyword = false :=
  decide_eq_false fun same => other (Token.word.inj same)

theorem factor_tail {frame : Frame} {outer : List Frame} {tokens : List Token}
    {found : Option Formula} (tail : Tail tokens)
    (read : reads source (.factor frame outer) tokens = some found) :
    outer = [] ∧ found = frame.whole ∧
      ∀ other : Frame, reads source (.factor other []) tokens = some other.whole := by
  rcases tail with rfl | ⟨word, rest, rfl, no_and, no_or, _⟩
  · cases outer with
    | nil =>
      obtain rfl := Option.some.inj read
      exact ⟨rfl, rfl, fun other => rfl⟩
    | cons enclosing outer => simp [reads, run, Phase.finish] at read
  · cases outer with
    | nil =>
      simp only [reads, run, List.foldlM_cons, Phase.next, word_is no_and, word_is no_or,
        Bool.false_eq_true, if_false] at read ⊢
      cases begun : clause frame.whole 0 (.word word) with
      | none => simp [begun] at read
      | some next =>
        simp only [begun, Option.bind_eq_bind, Option.bind_some] at read
        obtain ⟨inside, _⟩ := clause_refilter begun none
        obtain ⟨is_whole, _⟩ := reads_refilter inside read none
        refine ⟨trivial, is_whole, fun other => ?_⟩
        obtain ⟨_, rebegun⟩ := clause_refilter begun other.whole
        simp only [rebegun, Option.bind_eq_bind, Option.bind_some]
        exact (reads_refilter inside read other.whole).2
    | cons enclosing outer =>
      simp [reads, run, Phase.next, word_is no_and, word_is no_or] at read

theorem tabled_tail {tokens : List Token} {found : Option Formula} (tail : Tail tokens)
    (read : reads source .tabled tokens = some found) :
    found = none ∧
      ∀ other : Frame, reads source (.factor other []) tokens = some other.whole := by
  rcases tail with rfl | ⟨word, rest, rfl, no_and, no_or, no_where⟩
  · obtain rfl := Option.some.inj read
    exact ⟨rfl, fun other => rfl⟩
  · simp only [reads, run, List.foldlM_cons, Phase.next, word_is no_and, word_is no_or,
      word_is no_where, Bool.false_eq_true, if_false] at read ⊢
    cases begun : clause none 0 (.word word) with
    | none => simp [begun] at read
    | some next =>
      simp only [begun, Option.bind_eq_bind, Option.bind_some] at read
      obtain ⟨inside, _⟩ := clause_refilter begun none
      obtain ⟨is_none, _⟩ := reads_refilter inside read none
      refine ⟨is_none, fun other => ?_⟩
      obtain ⟨_, rebegun⟩ := clause_refilter begun other.whole
      simp only [rebegun, Option.bind_eq_bind, Option.bind_some]
      exact (reads_refilter inside read other.whole).2

end Between

end Sql
