import SystemScale.Lib.Runs

set_option autoImplicit false

/-!
# Runs with the actions of others left out

A system answers its actions. What one party is answered in a run is compared with what it would be
answered if nobody else had been there.
-/

namespace Purge

variable {S A O : Type}

/-! ## Answers -/

def step (serve : S → A → Option (S × O)) (state : S) (action : A) : Option S :=
  (serve state action).map Prod.fst

/-- The state at the end of a run, and each action's answer. -/
def transcript (serve : S → A → Option (S × O)) : S → List A → Option (S × List O)
  | state, [] => some (state, [])
  | state, action :: rest =>
    (serve state action).bind fun (next, answer) =>
      (transcript serve next rest).map fun (final, answers) => (final, answer :: answers)

section Parties

variable (serve : S → A → Option (S × O)) (own : S → A → Bool) (rename : S → A → A)

/-- The own actions of a run, under the names they have where the others are missing. -/
def purge : S → List A → List A
  | _, [] => []
  | state, action :: rest =>
    match serve state action with
    | none => []
    | some (next, _) =>
      if own state action then rename state action :: purge next rest else purge next rest

def observed : S → List A → List O
  | _, [] => []
  | state, action :: rest =>
    match serve state action with
    | none => []
    | some (next, answer) =>
      if own state action then answer :: observed next rest else observed next rest

/-- The conditions on single steps: what others do is not in the view, and what is done oneself
depends on the view only. -/
structure Unwinds (view : S → S) (Inv : S → Prop) (ok : S → A → Prop) : Prop where
  keeps : ∀ {state action next answer}, Inv state → serve state action = some (next, answer) →
    Inv next
  unseen : ∀ {state action next answer}, Inv state → ok state action →
    serve state action = some (next, answer) → own state action = false → view next = view state
  alike : ∀ {state action next answer}, Inv state → ok state action →
    serve state action = some (next, answer) → own state action = true →
      serve (view state) (rename state action) = some (view next, answer)

end Parties

section Rules

variable {serve : S → A → Option (S × O)} {own : S → A → Bool} {rename : S → A → A}
  {view : S → S} {Inv : S → Prop} {ok : S → A → Prop}

theorem step_served {state next : S} {action : A} (taken : step serve state action = some next) :
    ∃ answer, serve state action = some (next, answer) := by
  obtain ⟨⟨after, answer⟩, served, rfl⟩ := Option.map_eq_some_iff.mp taken
  exact ⟨answer, served⟩

theorem transcript_cons {state next : S} {action : A} {answer : O} (rest : List A)
    (served : serve state action = some (next, answer)) :
    transcript serve state (action :: rest) =
      (transcript serve next rest).map fun (final, answers) => (final, answer :: answers) := by
  rw [transcript, served]
  rfl

theorem purge_cons {state next : S} {action : A} {answer : O} (rest : List A)
    (served : serve state action = some (next, answer)) :
    purge serve own rename state (action :: rest) =
      if own state action then rename state action :: purge serve own rename next rest
      else purge serve own rename next rest := by
  rw [purge, served]

theorem observed_cons {state next : S} {action : A} {answer : O} (rest : List A)
    (served : serve state action = some (next, answer)) :
    observed serve own state (action :: rest) =
      if own state action then answer :: observed serve own next rest
      else observed serve own next rest := by
  rw [observed, served]

-- By induction on the run: the view of the state it is in is the state of the run without the others.
theorem Unwinds.transcript_purge (unwinds : Unwinds serve own rename view Inv ok) {state final : S}
    {actions : List A} (inv : Inv state) (along : Runs.Along (step serve) ok state actions)
    (ran : Runs.exec (step serve) state actions = some final) :
    transcript serve (view state) (purge serve own rename state actions) =
      some (view final, observed serve own state actions) := by
  induction actions generalizing state with
  | nil =>
    obtain rfl := Option.some.inj ran
    rfl
  | cons action rest ih =>
    rw [Runs.exec_cons, Option.bind_eq_some_iff] at ran
    obtain ⟨next, taken, ran⟩ := ran
    obtain ⟨met, later⟩ := along next taken
    obtain ⟨answer, served⟩ := step_served taken
    have tail := ih (unwinds.keeps inv served) later ran
    rw [purge_cons rest served, observed_cons rest served]
    cases mine : own state action with
    | true =>
      rw [if_pos rfl, if_pos rfl, transcript_cons _ (unwinds.alike inv met served mine), tail]
      rfl
    | false =>
      rw [if_neg (by simp), if_neg (by simp), ← unwinds.unseen inv met served mine]
      exact tail

end Rules

/-! ## Places among what is kept -/

section Places

variable {R : Type} {rows : List R} {row : R} {index : Nat}

/-- The place of a row when only the kept ones are left. -/
def place (kept : R → Bool) (rows : List R) (index : Nat) : Nat := (rows.take index).countP kept

variable (kept : R → Bool)

theorem getElem_place (found : rows[index]? = some row) (own : kept row = true) :
    (rows.filter kept)[place kept rows index]? = some row := by
  induction rows generalizing index with
  | nil => cases found
  | cons first rest ih =>
    cases index with
    | zero =>
      obtain rfl := Option.some.inj found
      simp [place, own]
    | succ index =>
      have later := ih (by simpa using found)
      by_cases here : kept first = true
      · simpa [place, here] using later
      · simpa [place, here] using later

theorem eraseIdx_place (found : rows[index]? = some row) (own : kept row = true) :
    (rows.filter kept).eraseIdx (place kept rows index) = (rows.eraseIdx index).filter kept := by
  induction rows generalizing index with
  | nil => cases found
  | cons first rest ih =>
    cases index with
    | zero =>
      obtain rfl := Option.some.inj found
      simp [place, own]
    | succ index =>
      have later := ih (by simpa using found)
      by_cases here : kept first = true
      · simpa [place, here] using later
      · simpa [place, here] using later

theorem filter_eraseIdx (found : rows[index]? = some row) (other : kept row = false) :
    (rows.eraseIdx index).filter kept = rows.filter kept := by
  induction rows generalizing index with
  | nil => cases found
  | cons first rest ih =>
    cases index with
    | zero =>
      obtain rfl := Option.some.inj found
      simp [other]
    | succ index =>
      have later := ih (by simpa using found)
      by_cases here : kept first = true
      · simpa [here] using later
      · simpa [here] using later

end Places

end Purge
