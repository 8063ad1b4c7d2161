import Mathlib.Data.List.Basic

/-!
# Runs of a partial step function

A system is a function `step : S → A → Option S`: an action is refused (`none`) or leads to
one next state. `run` folds a list of actions. `Always` speaks about every state of a run and
`EachStep` about every step of it, each with the state before the step. The two meet in
`always_of_eachStep` (an invariant that every good step preserves holds all along a run of
good steps) and `always_iff_eachStep_of_implies` (when a bad step breaks a property at once, the
property holds all along exactly the runs without bad steps).
-/

namespace VxSqlite.Run

variable {S A : Type} (step : S → A → Option S)

/-- Perform the actions in order; a refused action stops the run. -/
def run : S → List A → Option S
  | state, [] => some state
  | state, action :: rest => (step state action).bind fun next => run next rest

/-- `invariant` holds in every state of the run, the first one included. -/
def Always (invariant : S → Prop) : S → List A → Prop
  | state, [] => invariant state
  | state, action :: rest =>
      invariant state ∧ ∀ next, step state action = some next → Always invariant next rest

/-- `good` holds of every step of the run, together with the state the step starts in. -/
def EachStep (good : S → A → Prop) : S → List A → Prop
  | _, [] => True
  | state, action :: rest =>
      good state action ∧ ∀ next, step state action = some next → EachStep good next rest

variable {step}

theorem run_cons_eq_some {state final : S} {action : A} {rest : List A} :
    run step state (action :: rest) = some final ↔
      ∃ next, step state action = some next ∧ run step next rest = some final := by
  simp [run, Option.bind_eq_some_iff]

theorem Always.head {invariant : S → Prop} {state : S} {actions : List A}
    (h : Always step invariant state actions) : invariant state := by
  cases actions with
  | nil => exact h
  | cons action rest => exact h.1

/-- An invariant that holds all along a run holds where the run ends. -/
theorem Always.last {invariant : S → Prop} {state final : S} {actions : List A}
    (h : Always step invariant state actions) (hrun : run step state actions = some final) :
    invariant final := by
  induction actions generalizing state with
  | nil =>
      cases Option.some.inj hrun
      exact h
  | cons action rest ih =>
      obtain ⟨next, hstep, hrest⟩ := run_cons_eq_some.mp hrun
      exact ih (h.2 next hstep) hrest

theorem Always.mono {first second : S → Prop} {state : S} {actions : List A}
    (himp : ∀ s, first s → second s) (h : Always step first state actions) :
    Always step second state actions := by
  induction actions generalizing state with
  | nil => exact himp state h
  | cons action rest ih => exact ⟨himp state h.1, fun next hstep => ih (h.2 next hstep)⟩

/-- Whether all steps are good can be found out by running the system. -/
instance EachStep.decidable {good : S → A → Prop} [∀ state action, Decidable (good state action)] :
    ∀ state actions, Decidable (EachStep step good state actions)
  | _, [] => isTrue trivial
  | state, action :: rest =>
      match hstep : step state action with
      | none => decidable_of_iff (good state action) (by simp [EachStep, hstep])
      | some next =>
          have : Decidable (EachStep step good next rest) := EachStep.decidable next rest
          decidable_of_iff (good state action ∧ EachStep step good next rest)
            (by simp [EachStep, hstep])

theorem EachStep.mono {first second : S → A → Prop} {state : S} {actions : List A}
    (himp : ∀ s a, first s a → second s a) (h : EachStep step first state actions) :
    EachStep step second state actions := by
  induction actions generalizing state with
  | nil => trivial
  | cons action rest ih =>
      exact ⟨himp state action h.1, fun next hstep => ih (h.2 next hstep)⟩

/-- The invariant rule: what every good step preserves holds all along a run of good steps. -/
theorem always_of_eachStep {invariant : S → Prop} {good : S → A → Prop}
    (hstep : ∀ s a s', invariant s → good s a → step s a = some s' → invariant s')
    {state : S} {actions : List A} (hstart : invariant state)
    (hgood : EachStep step good state actions) : Always step invariant state actions := by
  induction actions generalizing state with
  | nil => exact hstart
  | cons action rest ih =>
      refine ⟨hstart, ?_⟩
      intro next hnext
      exact ih (hstep state action next hstart hgood.1 hnext) (hgood.2 next hnext)

/-- Let good steps keep `invariant`, which implies `property`, and let a bad step from a state of
`invariant` end outside `property`. Then `property` holds all along a completed run exactly if all
its steps are good. -/
theorem always_iff_eachStep_of_implies {invariant property : S → Prop} {good : S → A → Prop}
    (himplies : ∀ s, invariant s → property s)
    (hgood : ∀ s a s', invariant s → good s a → step s a = some s' → invariant s')
    (hbad : ∀ s a s', invariant s → step s a = some s' → property s' → good s a)
    {state final : S} {actions : List A} (hstart : invariant state)
    (hrun : run step state actions = some final) :
    Always step property state actions ↔ EachStep step good state actions := by
  constructor
  · intro h
    induction actions generalizing state with
    | nil => trivial
    | cons action rest ih =>
        obtain ⟨next, hnext, hrest⟩ := run_cons_eq_some.mp hrun
        have hgoodStep : good state action :=
          hbad state action next hstart hnext (h.2 next hnext).head
        refine ⟨hgoodStep, ?_⟩
        intro other hother
        cases hnext.symm.trans hother
        exact ih (hgood state action next hstart hgoodStep hnext) hrest (h.2 next hnext)
  · intro h
    exact (always_of_eachStep hgood hstart h).mono himplies

/-- What follows of a good step in a state of the invariant holds of each step of a run of good
steps. -/
theorem EachStep.of_invariant {invariant : S → Prop} {good other : S → A → Prop}
    (hstep : ∀ s a s', invariant s → good s a → step s a = some s' → invariant s')
    (himp : ∀ s a, invariant s → good s a → other s a) {state : S} {actions : List A}
    (hstart : invariant state) (hgood : EachStep step good state actions) :
    EachStep step other state actions := by
  induction actions generalizing state with
  | nil => trivial
  | cons action rest ih =>
      refine ⟨himp state action hstart hgood.1, ?_⟩
      intro next hnext
      exact ih (hstep state action next hstart hgood.1 hnext) (hgood.2 next hnext)

end VxSqlite.Run
