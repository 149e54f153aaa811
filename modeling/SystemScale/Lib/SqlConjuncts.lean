import SystemScale.Lib.SqlLaws

set_option autoImplicit false

/-!
# Conjuncts put into queries

What another conjunct does to a statement that it is put into. The other comparisons are taken as
met: the statement then picks a row out unless the conjunct binds all of its formula.
-/

namespace Sql

/-! ## Formulas with one conjunct unmet -/

theorem Formula.holds_mono {meets others : Comparison → Bool}
    (more : ∀ comparison, meets comparison = true → others comparison = true) {formula : Formula}
    (holds : formula.holds meets = true) : formula.holds others = true := by
  induction formula with
  | compare comparison => exact more comparison holds
  | and first second ih_first ih_second =>
    rw [Formula.holds, Bool.and_eq_true] at holds ⊢
    exact ⟨ih_first holds.1, ih_second holds.2⟩
  | or first second ih_first ih_second =>
    rw [Formula.holds, Bool.or_eq_true] at holds ⊢
    exact holds.imp ih_first ih_second
  | paren inner ih => exact ih holds

/-- No `OR` among the tokens splits the formula that stands before them, or one around it. The
depth is that of the tokens within it. -/
def conjoined : Nat → List Token → Bool
  | _, [] => true
  | depth, token :: rest =>
    if token = .openParen then conjoined (depth + 1) rest
    else if token = .closeParen then conjoined (depth - 1) rest
    else (depth ≠ 0 || !token.is "or") && conjoined depth rest

section Marked

variable {source column : List Char} {meets : Comparison → Bool} {mark : Option Nat}
  {single : Bool} {frame : Frame} {outer : List Frame}

def Frame.Met (meets : Comparison → Bool) (frame : Frame) : Prop :=
  ∀ conj, frame.conj = some conj → conj.holds meets = true

/-- No disjunct that is met stands before the conjunction. -/
def Frame.conjunctive (meets : Comparison → Bool) (frame : Frame) : Bool :=
  !frame.ored.any (Formula.holds meets)

/-- The formulas that are being read, innermost first, are met up to one at the depth. Its fate is
open only where it and those around it are single conjunctions. -/
def MarkedAt (meets : Comparison → Bool) : Nat → Bool → List Frame → Prop
  | 0, single, pinned :: outer =>
    (∃ conj, pinned.conj = some conj ∧ conj.holds meets = false) ∧
      (∀ frame ∈ outer, frame.Met meets) ∧ single = (pinned :: outer).all (Frame.conjunctive meets)
  | depth + 1, single, inner :: outer => inner.Met meets ∧ MarkedAt meets depth single outer
  | _, _, [] => False

def Marked (meets : Comparison → Bool) (mark : Option Nat) (single : Bool) (stack : List Frame) :
    Prop :=
  match mark with
  | none => ∀ frame ∈ stack, frame.Met meets
  | some depth => MarkedAt meets depth single stack

/-- Whether the whole formula will be met, with the rest of the tokens to be read. -/
def expected (mark : Option Nat) (single : Bool) (tokens : List Token) : Bool :=
  match mark with
  | none => true
  | some depth => !(single && conjoined depth tokens)

def deeper (mark : Option Nat) : Option Nat := mark.map (· + 1)

theorem add_met (met : frame.Met meets) {factor : Formula} (holds : factor.holds meets = true) :
    (frame.add factor).Met meets := by
  intro conj added
  unfold Frame.add at added
  cases before : frame.conj with
  | none =>
    simp only [before, Option.some.injEq] at added
    exact added ▸ holds
  | some first =>
    simp only [before, Option.some.injEq] at added
    simp [← added, Formula.holds, met first before, holds]

@[simp] theorem add_ored (factor : Formula) : (frame.add factor).ored = frame.ored := by
  unfold Frame.add
  cases frame.conj <;> rfl

theorem add_conj (factor : Formula) : (frame.add factor).conj.isSome := by
  unfold Frame.add
  cases frame.conj <;> rfl

theorem add_unmet {conj factor : Formula} (before : frame.conj = some conj)
    (unmet : conj.holds meets = false) :
    ∃ last, (frame.add factor).conj = some last ∧ last.holds meets = false := by
  refine ⟨.and conj factor, by simp [Frame.add, before], ?_⟩
  simp [Formula.holds, unmet]

-- A factor that is not met, behind a conjunction that is.
theorem add_marks (factor : Formula) (unmet : factor.holds meets = false) :
    ∃ last, (frame.add factor).conj = some last ∧ last.holds meets = false := by
  unfold Frame.add
  cases frame.conj with
  | none => exact ⟨factor, rfl, unmet⟩
  | some conj => exact ⟨.and conj factor, rfl, by simp [Formula.holds, unmet]⟩

theorem marked_add (marked : Marked meets mark single (frame :: outer)) {factor : Formula}
    (holds : factor.holds meets = true) : Marked meets mark single (frame.add factor :: outer) := by
  match mark, marked with
  | none, marked =>
    obtain ⟨met, others⟩ := List.forall_mem_cons.mp marked
    exact List.forall_mem_cons.mpr ⟨add_met met holds, others⟩
  | some 0, ⟨⟨conj, before, unmet⟩, others, is_single⟩ =>
    refine ⟨add_unmet before unmet, others, ?_⟩
    simpa [Frame.conjunctive] using is_single
  | some (depth + 1), ⟨met, others⟩ => exact ⟨add_met met holds, others⟩

theorem marked_push {stack : List Frame} (marked : Marked meets mark single stack) :
    Marked meets (deeper mark) single (.empty :: stack) := by
  have met : Frame.empty.Met meets := fun _ found => nomatch found
  match mark, marked with
  | none, marked => exact List.forall_mem_cons.mpr ⟨met, marked⟩
  | some depth, marked => exact ⟨met, marked⟩

theorem whole_holds (meets : Comparison → Bool) {conj : Formula} (ends : frame.conj = some conj) :
    ∃ whole, frame.whole = some whole ∧
      whole.holds meets = (frame.ored.any (Formula.holds meets) || conj.holds meets) := by
  unfold Frame.whole
  cases ored : frame.ored with
  | none => exact ⟨conj, ends, by simp⟩
  | some first =>
    rw [ends]
    exact ⟨.or first conj, rfl, rfl⟩

theorem marked_split (marked : Marked meets mark single (frame :: outer)) :
    ∃ next, Marked meets next single (frame.split :: outer) ∧
      ∀ rest, expected next single rest = expected mark single (.word "or".toList :: rest) := by
  have met : frame.split.Met meets := fun _ found => nomatch found
  match mark, marked with
  | none, marked =>
    exact ⟨none, List.forall_mem_cons.mpr ⟨met, (List.forall_mem_cons.mp marked).2⟩, fun rest => rfl⟩
  | some 0, ⟨_, others, _⟩ =>
    refine ⟨none, List.forall_mem_cons.mpr ⟨met, others⟩, fun rest => ?_⟩
    simp [expected, conjoined, Token.is]
  | some (depth + 1), ⟨_, others⟩ =>
    refine ⟨some (depth + 1), ⟨met, others⟩, fun rest => ?_⟩
    simp [expected, conjoined]

theorem marked_close {enclosing : Frame} {inner : Formula} (ends : frame.conj.isSome)
    (whole : frame.whole = some inner)
    (marked : Marked meets mark single (frame :: enclosing :: outer)) :
    ∃ next, Marked meets next single (enclosing.add (.paren inner) :: outer) ∧
      ∀ rest, expected next single rest = expected mark single (.closeParen :: rest) := by
  obtain ⟨conj, ends⟩ := Option.isSome_iff_exists.mp ends
  obtain ⟨found, is_whole, value⟩ := whole_holds meets ends
  obtain rfl := Option.some.inj (is_whole.symm.trans whole)
  have value : (Formula.paren found).holds meets = _ := value
  match mark, marked with
  | none, marked =>
    obtain ⟨met, marked⟩ := List.forall_mem_cons.mp marked
    obtain ⟨enclosing_met, others⟩ := List.forall_mem_cons.mp marked
    rw [met conj ends, Bool.or_true] at value
    exact ⟨none, List.forall_mem_cons.mpr ⟨add_met enclosing_met value, others⟩, fun rest => rfl⟩
  | some 0, ⟨⟨conj', ends', unmet⟩, met, is_single⟩ =>
    obtain rfl := Option.some.inj (ends'.symm.trans ends)
    obtain ⟨enclosing_met, others⟩ := List.forall_mem_cons.mp met
    rw [unmet, Bool.or_false] at value
    cases ored : frame.ored.any (Formula.holds meets) with
    | true =>
      rw [ored] at value
      refine ⟨none, List.forall_mem_cons.mpr ⟨add_met enclosing_met value, others⟩, fun rest => ?_⟩
      rw [is_single]
      simp [expected, Frame.conjunctive, ored]
    | false =>
      rw [ored] at value
      refine ⟨some 0, ⟨add_marks _ value, others, ?_⟩, fun rest => ?_⟩
      · rw [is_single]
        simp [Frame.conjunctive, ored]
      · simp [expected, conjoined]
  | some (depth + 1), ⟨met, others⟩ =>
    rw [met conj ends, Bool.or_true] at value
    have others : Marked meets (some depth) single (enclosing :: outer) := others
    refine ⟨some depth, marked_add others value, fun rest => ?_⟩
    simp [expected, conjoined]

/-- A token that changes neither the depth nor what stands alone there. -/
def Token.Plain (token : Token) : Prop :=
  token ≠ .openParen ∧ token ≠ .closeParen ∧ token.is "or" = false

theorem conjoined_plain {token : Token} (plain : token.Plain) (depth : Nat) (rest : List Token) :
    conjoined depth (token :: rest) = conjoined depth rest := by
  obtain ⟨no_open, no_close, no_or⟩ := plain
  simp [conjoined, no_open, no_close, no_or]

theorem expected_plain {token : Token} (plain : token.Plain) (rest : List Token) :
    expected mark single (token :: rest) = expected mark single rest := by
  cases mark with
  | none => rfl
  | some depth => rw [expected, expected, conjoined_plain plain]

theorem plain_name {token : Token} {name : List Char} (named : token.name = some name) :
    token.Plain := by
  refine ⟨?_, ?_, ?_⟩
  · rintro rfl
    simp [Token.name] at named
  · rintro rfl
    simp [Token.name] at named
  · refine decide_eq_false ?_
    rintro rfl
    simp [Token.name, reserved] at named

theorem plain_is {token : Token} {keyword : String} (other : keyword.toList ≠ "or".toList)
    (is : token.is keyword = true) : token.Plain := by
  obtain rfl := of_decide_eq_true is
  exact ⟨by simp, by simp, word_is other⟩

theorem clause_plain {filter : Option Formula} {last : Nat} {token : Token} {next : Phase}
    (read : clause filter last token = some next) : token.Plain := by
  unfold clause at read
  split_ifs at read with sample group order limit
  · exact plain_is (by decide) sample.2
  · exact plain_is (by decide) group.2
  · exact plain_is (by decide) order.2
  · exact plain_is (by decide) limit.2

theorem inClause_plain {source : List Char} {filter : Option Formula} {phase next : Phase}
    {token : Token} (inside : phase.InClause filter)
    (read : phase.next source token = some next) : token.Plain := by
  cases phase with
  | byNext found number =>
    simp only [Phase.next] at read
    split_ifs at read with is_by
    exact plain_is (by decide) is_by
  | argument found number =>
    simp only [Phase.next] at read
    split_ifs at read with named
    obtain ⟨name, named⟩ := Option.isSome_iff_exists.mp named
    exact plain_name named
  | arguments found number =>
    simp only [Phase.next] at read
    split_ifs at read with is_comma named
    · exact is_comma ▸ ⟨by simp, by simp, rfl⟩
    · obtain ⟨name, named⟩ := Option.isSome_iff_exists.mp named
      exact plain_name named
    · exact clause_plain read
  | _ => exact inside.elim

def Settled (meets : Comparison → Bool) (mark : Option Nat) (single : Bool)
    (filter : Option Formula) : Prop :=
  ∃ whole, filter = some whole ∧ whole.holds meets = expected mark single []

def Phase.Marked (meets : Comparison → Bool) (column : List Char) (mark : Option Nat)
    (single : Bool) : Phase → Prop
  | .operand frame outer => Sql.Marked meets mark single (frame :: outer)
  | .compared name frame outer => name ≠ column ∧ Sql.Marked meets mark single (frame :: outer)
  | .value name _ frame outer => name ≠ column ∧ Sql.Marked meets mark single (frame :: outer)
  | .factor frame outer => frame.conj.isSome ∧ Sql.Marked meets mark single (frame :: outer)
  | .byNext filter _ => Settled meets mark single filter
  | .argument filter _ => Settled meets mark single filter
  | .arguments filter _ => Settled meets mark single filter
  | _ => False

theorem marked_ends (ends : frame.conj.isSome) (marked : Sql.Marked meets mark single [frame]) :
    Settled meets mark single frame.whole := by
  obtain ⟨conj, ends⟩ := Option.isSome_iff_exists.mp ends
  obtain ⟨whole, is_whole, value⟩ := whole_holds meets ends
  refine ⟨whole, is_whole, ?_⟩
  match mark, marked with
  | none, marked => rw [value, marked frame (by simp) conj ends, Bool.or_true, expected]
  | some 0, ⟨⟨conj', ends', unmet⟩, _, is_single⟩ =>
    obtain rfl := Option.some.inj (ends'.symm.trans ends)
    rw [value, unmet, is_single]
    simp [expected, conjoined, Frame.conjunctive]
  | some (_ + 1), ⟨_, nothing⟩ => simp [MarkedAt] at nothing

theorem clause_marked {filter : Option Formula} {last : Nat} {token : Token} {next : Phase}
    (settled : Settled meets mark single filter) (read : clause filter last token = some next) :
    next.Marked meets column mark single := by
  unfold clause at read
  split_ifs at read <;> obtain rfl := Option.some.inj read <;> exact settled

theorem next_marked (others : ∀ comparison, comparison.column ≠ column → meets comparison = true)
    {phase next : Phase} {token : Token} (marked : phase.Marked meets column mark single)
    (other : token.name ≠ some column) (read : phase.next source token = some next) :
    ∃ after, next.Marked meets column after single ∧
      ∀ rest, expected after single rest = expected mark single (token :: rest) := by
  have stays (plain : token.Plain) (kept : next.Marked meets column mark single) :
      ∃ after, next.Marked meets column after single ∧
        ∀ rest, expected after single rest = expected mark single (token :: rest) :=
    ⟨mark, kept, fun rest => (expected_plain plain rest).symm⟩
  cases phase with
  | operand frame outer =>
    simp only [Phase.next] at read
    split_ifs at read with opened
    · obtain rfl := opened
      obtain rfl := Option.some.inj read
      refine ⟨deeper mark, marked_push marked, fun rest => ?_⟩
      cases mark <;> simp [deeper, expected, conjoined]
    · obtain ⟨name, named, rfl⟩ := Option.map_eq_some_iff.mp read
      exact stays (plain_name named) ⟨fun same => other (named.trans (congrArg _ same)), marked⟩
  | compared name frame outer =>
    cases token with
    | operator text =>
      obtain rfl := Option.some.inj read
      exact stays ⟨by simp, by simp, rfl⟩ marked
    | _ => simp [Phase.next] at read
  | value name operator frame outer =>
    obtain ⟨different, marked⟩ := marked
    have compared (operand : Operand) : Sql.Marked meets mark single
        (frame.add (.compare ⟨name, operator, operand⟩) :: outer) :=
      marked_add marked (others _ different)
    cases token with
    | literal text =>
      obtain rfl := Option.some.inj read
      exact stays ⟨by simp, by simp, rfl⟩ ⟨add_conj _, compared _⟩
    | word text | quoted text =>
      simp only [Phase.next] at read
      obtain ⟨name, named, rfl⟩ := Option.map_eq_some_iff.mp read
      exact stays (plain_name named) ⟨add_conj _, compared _⟩
    | _ => simp [Phase.next, Token.name] at read
  | factor frame outer =>
    obtain ⟨ends, marked⟩ := marked
    cases is_and : token.is "and" with
    | true =>
      simp only [Phase.next, is_and, if_true] at read
      obtain rfl := Option.some.inj read
      exact stays (plain_is (by decide) is_and) marked
    | false =>
      cases is_or : token.is "or" with
      | true =>
        simp only [Phase.next, is_and, is_or, if_true, Bool.false_eq_true, if_false] at read
        obtain rfl := Option.some.inj read
        obtain rfl := of_decide_eq_true is_or
        exact marked_split marked
      | false =>
        simp only [Phase.next, is_and, is_or, Bool.false_eq_true, if_false] at read
        cases outer with
        | nil => exact stays (clause_plain read) (clause_marked (marked_ends ends marked) read)
        | cons enclosing outer =>
          simp only at read
          split_ifs at read with closed
          obtain rfl := closed
          obtain ⟨inner, whole, rfl⟩ := Option.map_eq_some_iff.mp read
          obtain ⟨after, kept, same⟩ := marked_close ends whole marked
          exact ⟨after, ⟨add_conj _, kept⟩, same⟩
  | byNext filter number =>
    have plain := inClause_plain (show Phase.InClause filter (.byNext filter number) from rfl) read
    simp only [Phase.next] at read
    split_ifs at read
    obtain rfl := Option.some.inj read
    exact stays plain marked
  | argument filter number =>
    have plain := inClause_plain (show Phase.InClause filter (.argument filter number) from rfl) read
    simp only [Phase.next] at read
    split_ifs at read
    obtain rfl := Option.some.inj read
    exact stays plain marked
  | arguments filter number =>
    have plain := inClause_plain (show Phase.InClause filter (.arguments filter number) from rfl) read
    simp only [Phase.next] at read
    split_ifs at read
    · obtain rfl := Option.some.inj read
      exact stays plain marked
    · obtain rfl := Option.some.inj read
      exact stays plain marked
    · exact stays plain (clause_marked marked read)
  | _ => exact marked.elim

theorem reads_marked (others : ∀ comparison, comparison.column ≠ column → meets comparison = true)
    {phase : Phase} {tokens : List Token} {found : Option Formula}
    (marked : phase.Marked meets column mark single)
    (absent : ∀ token ∈ tokens, ¬ token.Spells column)
    (read : reads source phase tokens = some found) :
    ∃ whole, found = some whole ∧ whole.holds meets = expected mark single tokens := by
  induction tokens generalizing phase mark with
  | nil =>
    cases phase with
    | factor frame outer =>
      cases outer with
      | nil =>
        obtain rfl := Option.some.inj read
        exact marked_ends marked.1 marked.2
      | cons enclosing outer => simp [reads, run, Phase.finish] at read
    | arguments filter number =>
      obtain rfl := Option.some.inj read
      exact marked
    | _ => first | exact marked.elim | simp [reads, run, Phase.finish] at read
  | cons token rest ih =>
    simp only [reads, run, List.foldlM_cons] at read
    cases stepped : phase.next source token with
    | none => simp [stepped] at read
    | some next =>
      simp only [stepped, Option.bind_eq_bind, Option.bind_some] at read
      obtain ⟨after, kept, same⟩ :=
        next_marked others marked (name_absent (absent token (by simp))) stepped
      obtain ⟨whole, is_whole, value⟩ :=
        ih kept (fun later member => absent later (List.mem_cons_of_mem _ member)) read
      exact ⟨whole, is_whole, value.trans (same rest)⟩

end Marked

theorem inClause_conjoined {source : List Char} {filter found : Option Formula} {phase : Phase}
    {tokens : List Token} (inside : phase.InClause filter)
    (read : reads source phase tokens = some found) (depth : Nat) :
    conjoined depth tokens = true := by
  induction tokens generalizing phase with
  | nil => rfl
  | cons token rest ih =>
    simp only [reads, run, List.foldlM_cons] at read
    cases stepped : phase.next source token with
    | none => simp [stepped] at read
    | some next =>
      simp only [stepped, Option.bind_eq_bind, Option.bind_some] at read
      rw [conjoined_plain (inClause_plain inside stepped)]
      exact ih (next_refilter inside stepped none).1 read

theorem tail_conjoined {source : List Char} {frame : Frame} {tokens : List Token}
    {found : Option Formula} (tail : Tail tokens)
    (read : reads source (.factor frame []) tokens = some found) : conjoined 0 tokens = true := by
  rcases tail with rfl | ⟨word, rest, rfl, no_and, no_or, _⟩
  · rfl
  · simp only [reads, run, List.foldlM_cons, Phase.next, word_is no_and, word_is no_or,
      Bool.false_eq_true, if_false] at read
    cases begun : clause frame.whole 0 (.word word) with
    | none => simp [begun] at read
    | some next =>
      simp only [begun, Option.bind_eq_bind, Option.bind_some] at read
      rw [conjoined_plain (clause_plain begun)]
      exact inClause_conjoined (clause_refilter begun none).1 read 0

/-! ## Readings that differ in what is compared -/

def anyFormula : Formula := .compare ⟨[], [], .literal []⟩

def Frame.erase (frame : Frame) : Frame :=
  ⟨frame.ored.map fun _ => anyFormula, frame.conj.map fun _ => anyFormula⟩

def Phase.erase : Phase → Phase
  | .operand frame outer => .operand frame.erase (outer.map Frame.erase)
  | .compared _ frame outer => .compared [] frame.erase (outer.map Frame.erase)
  | .value _ _ frame outer => .value [] [] frame.erase (outer.map Frame.erase)
  | .factor frame outer => .factor frame.erase (outer.map Frame.erase)
  | .byNext _ number => .byNext none number
  | .argument _ number => .argument none number
  | .arguments _ number => .arguments none number
  | phase => phase

theorem erase_add (frame : Frame) (factor : Formula) :
    (frame.add factor).erase = ⟨frame.erase.ored, some anyFormula⟩ := by
  unfold Frame.add
  cases frame.conj <;> rfl

theorem erase_erase (frame : Frame) : frame.erase.erase = frame.erase := by
  obtain ⟨ored, conj⟩ := frame
  cases ored <;> cases conj <;> rfl

theorem isSome_whole_erase (frame : Frame) : frame.erase.whole.isSome = frame.whole.isSome := by
  obtain ⟨ored, conj⟩ := frame
  cases ored <;> cases conj <;> rfl

theorem erase_split (frame : Frame) : frame.erase.split.erase = frame.split.erase := by
  obtain ⟨ored, conj⟩ := frame
  cases ored <;> cases conj <;> rfl

theorem clause_erase (filter other : Option Formula) (last : Nat) (token : Token) :
    (clause filter last token).map Phase.erase = (clause other last token).map Phase.erase := by
  unfold clause
  split_ifs <;> rfl

theorem next_erase (source : List Char) (phase : Phase) (token : Token) :
    (phase.next source token).map Phase.erase =
      (phase.erase.next source token).map Phase.erase := by
  cases phase with
  | operand frame outer =>
    simp only [Phase.next, Phase.erase]
    split_ifs
    · simp [Phase.erase, erase_erase]
    · cases token.name <;> simp [Phase.erase, erase_erase]
  | compared name frame outer =>
    cases token <;> simp [Phase.next, Phase.erase, erase_erase]
  | value name operator frame outer =>
    have compared (operand other : Operand) :
        (Phase.factor (frame.add (.compare ⟨name, operator, operand⟩)) outer).erase =
          (Phase.factor (frame.erase.add (.compare ⟨[], [], other⟩))
            (outer.map Frame.erase)).erase := by
      simp [Phase.erase, erase_add, erase_erase]
    cases token with
    | literal text => exact congrArg some (compared _ _)
    | _ =>
      simp only [Phase.next, Phase.erase, Option.map_map]
      exact Option.map_congr fun _ _ => compared _ _
  | factor frame outer =>
    cases is_and : token.is "and" with
    | true => simp [Phase.next, is_and, Phase.erase, erase_erase]
    | false =>
      cases is_or : token.is "or" with
      | true => simp [Phase.next, is_and, is_or, Phase.erase, erase_erase, erase_split]
      | false =>
        simp only [Phase.next, Phase.erase, is_and, is_or, Bool.false_eq_true, if_false]
        cases outer with
        | nil => exact clause_erase _ _ 0 token
        | cons enclosing outer =>
          have ends := isSome_whole_erase frame
          simp only [List.map_cons]
          split_ifs
          · cases whole : frame.whole with
            | none =>
              have whole' : frame.erase.whole = none :=
                Option.not_isSome_iff_eq_none.mp (by rw [ends, whole]; simp)
              simp [whole']
            | some inner =>
              rw [whole] at ends
              obtain ⟨inner', whole'⟩ := Option.isSome_iff_exists.mp ends
              simp [whole', Phase.erase, erase_add, erase_erase]
          · rfl
  | byNext filter number =>
    simp only [Phase.next, Phase.erase]
    split_ifs <;> rfl
  | argument filter number =>
    simp only [Phase.next, Phase.erase]
    split_ifs <;> rfl
  | arguments filter number =>
    simp only [Phase.next, Phase.erase]
    split_ifs
    · rfl
    · rfl
    · exact clause_erase filter none number token
  | _ => rfl

theorem run_erase (source : List Char) {phase other : Phase} (alike : phase.erase = other.erase) (tokens : List Token) :
    (run source phase tokens).map Phase.erase = (run source other tokens).map Phase.erase := by
  induction tokens generalizing phase other with
  | nil => exact congrArg some alike
  | cons token rest ih =>
    have stepped := next_erase source phase token
    rw [alike, ← next_erase source other token] at stepped
    simp only [run, List.foldlM_cons] at ih ⊢
    cases next : phase.next source token with
    | none =>
      rw [next] at stepped
      rw [Option.map_eq_none_iff.mp stepped.symm]
    | some after =>
      rw [next] at stepped
      obtain ⟨after', next', alike'⟩ := Option.map_eq_some_iff.mp stepped.symm
      rw [next']
      exact ih alike'.symm

theorem finish_erase (phase : Phase) : phase.erase.finish.isSome = phase.finish.isSome := by
  cases phase with
  | factor frame outer => cases outer <;> rfl
  | _ => rfl

theorem reads_erase (source : List Char) {phase other : Phase} (alike : phase.erase = other.erase)
    (tokens : List Token) :
    (reads source phase tokens).isSome = (reads source other tokens).isSome := by
  have same := run_erase source alike tokens
  unfold reads
  cases read : run source phase tokens with
  | none =>
    rw [read] at same
    rw [Option.map_eq_none_iff.mp same.symm]
  | some last =>
    rw [read] at same
    obtain ⟨last', read', alike'⟩ := Option.map_eq_some_iff.mp same.symm
    rw [read', Option.bind_some, Option.bind_some, ← finish_erase last, ← alike', finish_erase]

/-! ## Places -/

/-- Another conjunct may stand between what has been read and the tokens, and `AND` binds it to the
whole formula. -/
structure Conjoins (source : List Char) (frame : Frame) (outer : List Frame)
    (tokens : List Token) : Prop where
  reads : ∃ factor, (reads source (.factor (frame.add factor) outer) tokens).isSome
  before : ∀ other ∈ frame :: outer, other.ored = none
  behind : conjoined 0 tokens = true

theorem all_conjunctive {column : List Char} {meets : Comparison → Bool} {stack : List Frame}
    (others : ∀ comparison, comparison.column ≠ column → meets comparison = true)
    (avoids : ∀ frame ∈ stack, frame.Avoids column) :
    stack.all (Frame.conjunctive meets) = stack.all fun frame => frame.ored.isNone := by
  induction stack with
  | nil => rfl
  | cons frame stack ih =>
    obtain ⟨first, later⟩ := List.forall_mem_cons.mp avoids
    have conjunctive : frame.conjunctive meets = frame.ored.isNone := by
      cases ored : frame.ored with
      | none => simp [Frame.conjunctive, ored]
      | some formula => simp [Frame.conjunctive, ored, (first.ored formula ored).holds others]
    rw [List.all_cons, List.all_cons, conjunctive, ih later]

-- With the conjunct alone unmet, the statement picks nothing out just where that binds.
theorem holds_iff_not_conjoins {source column : List Char} {meets : Comparison → Bool}
    {frame : Frame} {outer : List Frame} {tokens : List Token} {factor : Formula}
    {found : Option Formula}
    (others : ∀ comparison, comparison.column ≠ column → meets comparison = true)
    (unmet : factor.holds meets = false) (avoids : ∀ other ∈ frame :: outer, other.Avoids column)
    (absent : ∀ token ∈ tokens, ¬ token.Spells column)
    (read : reads source (.factor (frame.add factor) outer) tokens = some found) :
    ∃ whole, found = some whole ∧
      (whole.holds meets = true ↔ ¬ Conjoins source frame outer tokens) := by
  have met (other : Frame) (member : other ∈ frame :: outer) : other.Met meets :=
    fun conj found => ((avoids other member).conj conj found).holds others
  have singles : (frame.add factor :: outer).all (Frame.conjunctive meets) =
      (frame :: outer).all fun other => other.ored.isNone := by
    rw [← all_conjunctive others avoids]
    simp [Frame.conjunctive]
  have marked : Phase.Marked meets column (some 0)
      ((frame :: outer).all fun other => other.ored.isNone) (.factor (frame.add factor) outer) :=
    ⟨add_conj factor, add_marks factor unmet,
      fun other member => met other (List.mem_cons_of_mem _ member), singles.symm⟩
  obtain ⟨whole, is_whole, value⟩ := reads_marked others marked absent read
  refine ⟨whole, is_whole, ?_⟩
  have conjoins : Conjoins source frame outer tokens ↔
      ((frame :: outer).all (fun other => other.ored.isNone) && conjoined 0 tokens) = true := by
    rw [Bool.and_eq_true, List.all_eq_true]
    constructor
    · intro conjoins
      exact ⟨fun other member => by rw [conjoins.before other member]; rfl, conjoins.behind⟩
    · rintro ⟨before, behind⟩
      exact ⟨⟨factor, by rw [read]; rfl⟩,
        fun other member => Option.isNone_iff_eq_none.mp (before other member), behind⟩
  rw [value, conjoins, expected, Bool.not_eq_true, Bool.not_eq_true']

end Sql
