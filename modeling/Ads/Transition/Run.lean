import Mathlib.Data.List.Basic

/-!
# Runs of labelled transition systems

A labelled step function, its finite runs, and the rules by which facts about
one step become facts about every run.
-/

namespace Ads.Transition

universe u v w x

variable {σ : Type u} {ι : Type v} {τ : Type w} {κ : Type x}

/-- `Run step start labels state`: the labels, taken in order, lead from `start`
to `state`. -/
inductive Run (step : σ → ι → Option σ) (start : σ) : List ι → σ → Prop
  | nil : Run step start [] start
  | snoc {labels : List ι} {label : ι} {middle after : σ} :
      Run step start labels middle → step middle label = some after →
      Run step start (labels ++ [label]) after

/-- Take the labels in order, as long as each is enabled. -/
def execute (step : σ → ι → Option σ) (start : σ) (labels : List ι) : Option σ :=
  labels.foldlM step start

/-- The steps that lead to states of a given kind. -/
def restrict (step : σ → ι → Option σ) (Within : σ → Prop) [DecidablePred Within]
    (state : σ) (label : ι) : Option σ :=
  (step state label).filter fun after => decide (Within after)

/-- Every state that the labels pass satisfies a condition. -/
def AllStates (step : σ → ι → Option σ) (start : σ) (labels : List ι) (Holds : σ → Prop) : Prop :=
  ∀ prior later state, labels = prior ++ later → Run step start prior state → Holds state

/-- Every step that the labels take meets a condition. -/
def AllSteps (step : σ → ι → Option σ) (start : σ) (labels : List ι)
    (Meets : σ → ι → Prop) : Prop :=
  ∀ prior label later state, labels = prior ++ label :: later →
    Run step start prior state → Meets state label

theorem restrict_eq_some_iff {step : σ → ι → Option σ} {Within : σ → Prop}
    [DecidablePred Within] {state after : σ} {label : ι} :
    restrict step Within state label = some after ↔
      step state label = some after ∧ Within after := by
  rw [restrict, Option.filter_eq_some_iff, decide_eq_true_iff]

namespace Run

variable {step : σ → ι → Option σ} {start middle state after : σ} {labels later : List ι}

/-- A single step is a run. -/
theorem one {label : ι} (taken : step start label = some after) :
    Run step start [label] after :=
  Run.nil.snoc taken

/-- Runs compose. -/
theorem trans (first : Run step start labels middle) (second : Run step middle later state) :
    Run step start (labels ++ later) state := by
  induction second with
  | nil => rwa [List.append_nil]
  | snoc _ taken ih =>
      rw [← List.append_assoc]
      exact ih.snoc taken

/-- What an execution reaches is reached by a run. -/
theorem of_execute (executed : execute step start labels = some state) :
    Run step start labels state := by
  induction labels generalizing start with
  | nil =>
      cases executed
      exact .nil
  | cons label labels ih =>
      simp only [execute, List.foldlM_cons, Option.bind_eq_bind,
        Option.bind_eq_some_iff] at executed
      obtain ⟨middle, taken, rest⟩ := executed
      exact (one taken).trans (ih rest)

theorem execute_eq (run : Run step start labels state) :
    execute step start labels = some state := by
  induction run with
  | nil => rfl
  | snoc _ taken ih =>
      rw [execute] at ih
      rw [execute, List.foldlM_append, ih]
      simp [taken]

/-- The labels determine where the run ends. -/
theorem deterministic (first : Run step start labels middle)
    (second : Run step start labels state) : middle = state :=
  Option.some.inj (first.execute_eq.symm.trans second.execute_eq)

/-- A run passes its earlier states. -/
theorem split (run : Run step start (labels ++ later) state) :
    ∃ middle, Run step start labels middle ∧ Run step middle later state := by
  have executed := run.execute_eq
  rw [execute, List.foldlM_append, Option.bind_eq_bind, Option.bind_eq_some_iff] at executed
  rcases executed with ⟨middle, first, second⟩
  exact ⟨middle, of_execute first, of_execute second⟩

/-- The step that a run takes from a state that it passes. -/
theorem step_of_cons {label : ι} (run : Run step start (labels ++ label :: later) state)
    (first : Run step start labels middle) : ∃ after, step middle label = some after := by
  rcases run.split with ⟨reached, prior, rest⟩
  cases prior.deterministic first
  have executed := rest.execute_eq
  rw [execute, List.foldlM_cons, Option.bind_eq_bind, Option.bind_eq_some_iff] at executed
  rcases executed with ⟨after, taken, -⟩
  exact ⟨after, taken⟩

/-- What holds at the start and is preserved by every step holds after every
run. -/
theorem invariant {Inv : σ → Prop} (run : Run step start labels state) (initial : Inv start)
    (preserved : ∀ state label after, Inv state → step state label = some after → Inv after) :
    Inv state := by
  induction run with
  | nil => exact initial
  | snoc _ taken ih => exact preserved _ _ _ ih taken

/-- The same for facts that relate the state to the labels taken, of which each
satisfies a condition. -/
theorem invariant_labels {Inv : List ι → σ → Prop} {Allowed : ι → Prop}
    (run : Run step start labels state) (allowed : ∀ label ∈ labels, Allowed label)
    (initial : Inv [] start)
    (preserved : ∀ labels state label after, Inv labels state → Allowed label →
      step state label = some after → Inv (labels ++ [label]) after) :
    Inv labels state := by
  induction run with
  | nil => exact initial
  | @snoc labels label _ _ _ taken ih =>
      refine preserved _ _ _ _ (ih fun label member => ?_) ?_ taken
      · exact allowed label (List.mem_append_left _ member)
      · exact allowed label (List.mem_append_right _ List.mem_cons_self)

/-- The steps that lead to a state of the run. -/
theorem allSteps_of_append_left {Meets : σ → ι → Prop}
    (steps : AllSteps step start (labels ++ later) Meets) : AllSteps step start labels Meets := by
  intro prior label rest state equal first
  apply steps prior label (rest ++ later) state _ first
  rw [equal, List.append_assoc, List.cons_append]

theorem allSteps_nil {Meets : σ → ι → Prop} : AllSteps step start [] Meets := by
  intro prior label rest state equal
  cases prior <;> cases equal

/-- The conditions of a run, one step at a time. -/
theorem allSteps_cons {Meets : σ → ι → Prop} {label : ι} (meets : Meets start label)
    (taken : step start label = some middle) (steps : AllSteps step middle later Meets) :
    AllSteps step start (label :: later) Meets := by
  intro prior other rest state equal first
  cases prior with
  | nil =>
      cases equal
      cases first.deterministic .nil
      exact meets
  | cons head prior =>
      cases equal
      rcases @split _ _ step start state [label] prior first with ⟨reached, single, second⟩
      cases single.deterministic (one taken)
      exact steps prior other rest state rfl second

/-- The same where every step meets a condition. -/
theorem invariant_allSteps {Inv : σ → Prop} {Meets : σ → ι → Prop}
    (run : Run step start labels state) (steps : AllSteps step start labels Meets)
    (initial : Inv start)
    (preserved : ∀ state label after, Inv state → Meets state label →
      step state label = some after → Inv after) : Inv state := by
  induction run with
  | nil => exact initial
  | @snoc labels label middle _ run taken ih =>
      apply preserved middle label _ _ (steps labels label [] middle rfl run) taken
      exact ih (allSteps_of_append_left steps)

/-- The steps that follow a state of the run. -/
theorem allSteps_of_append {Meets : σ → ι → Prop} (first : Run step start labels middle)
    (steps : AllSteps step start (labels ++ later) Meets) : AllSteps step middle later Meets := by
  intro prior label rest state equal second
  apply steps (labels ++ prior) label rest state _ (first.trans second)
  rw [equal, List.append_assoc]

/-- Where each step leads to a state of a given kind exactly when it meets a condition,
all states of a run are of that kind exactly when all its steps meet the condition. -/
theorem allStates_iff_allSteps {Inv Holds : σ → Prop} {Meets : σ → ι → Prop}
    (run : Run step start labels state) (initial : Inv start) (holds : Holds start)
    (preserved : ∀ state label after, Inv state → step state label = some after → Inv after)
    (exact : ∀ state label after, Inv state → Holds state → step state label = some after →
      (Holds after ↔ Meets state label)) :
    AllStates step start labels Holds ↔ AllSteps step start labels Meets := by
  constructor
  · intro states prior label later middle equal first
    subst equal
    rcases run.step_of_cons first with ⟨after, taken⟩
    have here := states prior (label :: later) middle rfl first
    have next := states (prior ++ [label]) later after (by simp) (first.snoc taken)
    exact (exact middle label after (first.invariant initial preserved) here taken).mp next
  · intro steps prior later middle equal first
    have both : Inv middle ∧ Holds middle := by
      refine @invariant_allSteps _ _ step start middle prior (fun state => Inv state ∧ Holds state)
        Meets first (allSteps_of_append_left (equal ▸ steps)) ⟨initial, holds⟩ ?_
      rintro state label after ⟨inv, here⟩ meets taken
      exact ⟨preserved state label after inv taken,
        (exact state label after inv here taken).mpr meets⟩
    exact both.2

/-- A system each of whose steps is a run of another, seen through a view, reaches
nothing that the other does not. -/
theorem simulate {coarse : τ → κ → Option τ} (view : σ → τ)
    (simulated : ∀ state label after, step state label = some after →
      ∃ labels, Run coarse (view state) labels (view after))
    (run : Run step start labels state) :
    ∃ labels, Run coarse (view start) labels (view state) := by
  induction run with
  | nil => exact ⟨[], .nil⟩
  | snoc _ taken ih =>
      obtain ⟨first, firstRun⟩ := ih
      obtain ⟨second, secondRun⟩ := simulated _ _ _ taken
      exact ⟨first ++ second, firstRun.trans secondRun⟩

/-- The same where the states correspond without one determining the other. -/
theorem simulate_matched {coarse : τ → κ → Option τ} {Matches : σ → τ → Prop} {origin : τ}
    (run : Run step start labels state) (initial : Matches start origin)
    (simulated : ∀ state other label after, Matches state other → step state label = some after →
      ∃ labels reached, Run coarse other labels reached ∧ Matches after reached) :
    ∃ labels reached, Run coarse origin labels reached ∧ Matches state reached := by
  induction run with
  | nil => exact ⟨[], origin, .nil, initial⟩
  | snoc _ taken ih =>
      obtain ⟨first, other, firstRun, isMatch⟩ := ih
      obtain ⟨second, reached, secondRun, matched⟩ := simulated _ _ _ _ isMatch taken
      exact ⟨first ++ second, reached, firstRun.trans secondRun, matched⟩

end Run

end Ads.Transition
