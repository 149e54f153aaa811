import Mathlib.Data.List.Induction

set_option autoImplicit false

/-!
# Runs of a transition system

A system is a partial step function; a schedule is a list of actions. `none` means that the
action is not enabled.
-/

namespace Runs

universe u v

variable {S : Type u} {A : Type v}

def exec (step : S → A → Option S) : S → List A → Option S
  | state, [] => some state
  | state, action :: rest => (step state action).bind fun next => exec step next rest

/-- Every step the schedule takes meets `ok` in the state it starts from. -/
def Along (step : S → A → Option S) (ok : S → A → Prop) : S → List A → Prop
  | _, [] => True
  | state, action :: rest =>
      ∀ next, step state action = some next → ok state action ∧ Along step ok next rest

/-- Every state the schedule visits satisfies `P`, the first one included. -/
def Throughout (step : S → A → Option S) (P : S → Prop) : S → List A → Prop
  | state, [] => P state
  | state, action :: rest =>
      P state ∧ ∀ next, step state action = some next → Throughout step P next rest

section Rules

variable {step : S → A → Option S} {Inv P : S → Prop} {ok : S → A → Prop}

@[simp] theorem exec_nil (state : S) : exec step state [] = some state := rfl

theorem exec_cons (state : S) (action : A) (rest : List A) :
    exec step state (action :: rest) =
      (step state action).bind fun next => exec step next rest := rfl

theorem exec_append (state : S) (first second : List A) :
    exec step state (first ++ second) =
      (exec step state first).bind fun next => exec step next second := by
  induction first generalizing state with
  | nil => rfl
  | cons action rest ih =>
    simp only [List.cons_append, exec_cons, Option.bind_assoc]
    exact congrArg _ (funext ih)

theorem exec_after {state middle : S} {first : List A}
    (ran : exec step state first = some middle) (second : List A) :
    exec step state (first ++ second) = exec step middle second := by
  rw [exec_append, ran]
  rfl

-- What holds of the empty run and is kept by one step more holds of every run.
theorem exec_induction {init : S} {P : List A → S → Prop} (empty : P [] init)
    (more : ∀ actions action state next, exec step init actions = some state → P actions state →
      step state action = some next → P (actions ++ [action]) next)
    {actions : List A} {final : S} (ran : exec step init actions = some final) :
    P actions final := by
  induction actions using List.reverseRecOn generalizing final with
  | nil => exact Option.some.inj ran ▸ empty
  | append_singleton actions action ih =>
    rw [exec_append, Option.bind_eq_some_iff] at ran
    obtain ⟨state, before, last⟩ := ran
    rw [exec_cons, Option.bind_eq_some_iff] at last
    obtain ⟨next, taken, ended⟩ := last
    obtain rfl := Option.some.inj ended
    exact more actions action state next before (ih before) taken

theorem exec_invariant
    (preserves : ∀ state action next, Inv state → step state action = some next → Inv next)
    {state final : S} {actions : List A} (start : Inv state)
    (ran : exec step state actions = some final) : Inv final := by
  induction actions generalizing state with
  | nil => exact Option.some.inj ran ▸ start
  | cons action rest ih =>
    rw [exec_cons, Option.bind_eq_some_iff] at ran
    obtain ⟨next, taken, ran⟩ := ran
    exact ih (preserves state action next start taken) ran

-- What every action of a kind keeps holds after a run of such actions.
theorem exec_invariant_of {allowed : A → Prop}
    (preserves : ∀ state action next, Inv state → allowed action →
      step state action = some next → Inv next)
    {state final : S} {actions : List A} (all : ∀ action ∈ actions, allowed action)
    (start : Inv state) (ran : exec step state actions = some final) : Inv final := by
  induction actions generalizing state with
  | nil => exact Option.some.inj ran ▸ start
  | cons action rest ih =>
    rw [exec_cons, Option.bind_eq_some_iff] at ran
    obtain ⟨next, taken, ran⟩ := ran
    have kept := preserves state action next start (all action List.mem_cons_self) taken
    exact ih (fun other member => all other (List.mem_cons_of_mem _ member)) kept ran

theorem Along.nil (state : S) : Along step ok state [] := trivial

theorem Along.cons {state next : S} {action : A} {rest : List A}
    (taken : step state action = some next) (met : ok state action)
    (later : Along step ok next rest) : Along step ok state (action :: rest) := by
  intro other moved
  obtain rfl := Option.some.inj (taken.symm.trans moved)
  exact ⟨met, later⟩

theorem Along.always (all : ∀ state action, ok state action) (state : S) (actions : List A) :
    Along step ok state actions := by
  induction actions generalizing state with
  | nil => trivial
  | cons action rest ih => exact fun next _ => ⟨all state action, ih next⟩

theorem Throughout.start {state : S} {actions : List A}
    (all : Throughout step P state actions) : P state := by
  cases actions with
  | nil => exact all
  | cons action rest => exact all.1

-- The states a schedule visits are the final states of its prefixes.
theorem throughout_iff_prefixes {state : S} {actions : List A} :
    Throughout step P state actions ↔
      ∀ taken rest final, actions = taken ++ rest →
        exec step state taken = some final → P final := by
  induction actions generalizing state with
  | nil =>
    constructor
    · intro holds taken rest final split ran
      obtain ⟨rfl, rfl⟩ := List.append_eq_nil_iff.mp split.symm
      exact Option.some.inj ran ▸ holds
    · intro all
      exact all [] [] state rfl rfl
  | cons action rest ih =>
    constructor
    · rintro ⟨holds, later⟩ taken others final split ran
      cases taken with
      | nil => exact Option.some.inj ran ▸ holds
      | cons first taken =>
        obtain ⟨rfl, later_split⟩ := List.cons_eq_cons.mp split
        rw [exec_cons, Option.bind_eq_some_iff] at ran
        obtain ⟨next, moved, ran⟩ := ran
        exact ih.mp (later next moved) taken others final later_split ran
    · intro all
      refine ⟨all [] _ state rfl rfl, fun next moved => ih.mpr ?_⟩
      intro taken others final split ran
      refine all (action :: taken) others final (by rw [split]; rfl) ?_
      rw [exec_cons, moved]
      exact ran

theorem throughout_of_along
    (preserves : ∀ state action next, Inv state → ok state action →
      step state action = some next → Inv next)
    (enough : ∀ state, Inv state → P state)
    {state : S} {actions : List A} (start : Inv state)
    (along : Along step ok state actions) : Throughout step P state actions := by
  induction actions generalizing state with
  | nil => exact enough state start
  | cons action rest ih =>
    refine ⟨enough state start, fun next taken => ?_⟩
    obtain ⟨met, along⟩ := along next taken
    exact ih (preserves state action next start met taken) along

-- When, from good states, a step keeps `P` exactly if it meets `ok`, whole runs keep `P` exactly
-- if all their steps meet `ok`.
theorem throughout_iff_along
    (preserves : ∀ state action next, Inv state → P state → ok state action →
      step state action = some next → Inv next)
    (exact_step : ∀ state action next, Inv state → P state →
      step state action = some next → (P next ↔ ok state action))
    {state : S} {actions : List A} (start : Inv state) (holds : P state) :
    Throughout step P state actions ↔ Along step ok state actions := by
  induction actions generalizing state with
  | nil => exact ⟨fun _ => trivial, fun _ => holds⟩
  | cons action rest ih =>
    have one (next : S) (taken : step state action = some next) :
        Throughout step P next rest ↔ ok state action ∧ Along step ok next rest := by
      have keeps := exact_step state action next start holds taken
      constructor
      · intro all
        have met := keeps.mp all.start
        have inv := preserves state action next start holds met taken
        exact ⟨met, (ih inv (keeps.mpr met)).mp all⟩
      · rintro ⟨met, along⟩
        have inv := preserves state action next start holds met taken
        exact (ih inv (keeps.mpr met)).mpr along
    constructor
    · rintro ⟨_, later⟩ next taken
      exact (one next taken).mp (later next taken)
    · intro along
      exact ⟨holds, fun next taken => (one next taken).mpr (along next taken)⟩

end Rules

/-! ## Machines that answer every call -/

section Machines

variable {T : Type u} {C O : Type v} {first : S → C → S × O} {second : T → C → T × O}

def answers (step : S → C → S × O) : S → List C → List O
  | _, [] => []
  | state, call :: rest => (step state call).2 :: answers step (step state call).1 rest

def after (step : S → C → S × O) (state : S) (calls : List C) : S :=
  calls.foldl (fun state call => (step state call).1) state

/-- Two machines whose related states answer `ok` calls alike and stay related. -/
def Simulates (first : S → C → S × O) (second : T → C → T × O) (ok : C → Prop)
    (related : S → T → Prop) : Prop :=
  ∀ state other call, related state other → ok call →
    (first state call).2 = (second other call).2 ∧
      related (first state call).1 (second other call).1

theorem Simulates.answers_eq {ok : C → Prop} {related : S → T → Prop}
    (simulates : Simulates first second ok related) {state : S} {other : T} {calls : List C}
    (start : related state other) (allowed : ∀ call ∈ calls, ok call) :
    answers first state calls = answers second other calls := by
  induction calls generalizing state other with
  | nil => rfl
  | cons call rest ih =>
    obtain ⟨same, next⟩ := simulates state other call start (allowed call (by simp))
    have later := ih next fun other member => allowed other (List.mem_cons_of_mem _ member)
    rw [answers, answers, same, later]

theorem Simulates.after_related {ok : C → Prop} {related : S → T → Prop}
    (simulates : Simulates first second ok related) {state : S} {other : T} {calls : List C}
    (start : related state other) (allowed : ∀ call ∈ calls, ok call) :
    related (after first state calls) (after second other calls) := by
  induction calls generalizing state other with
  | nil => exact start
  | cons call rest ih =>
    obtain ⟨_, next⟩ := simulates state other call start (allowed call (by simp))
    exact ih next fun other member => allowed other (List.mem_cons_of_mem _ member)

end Machines

end Runs
