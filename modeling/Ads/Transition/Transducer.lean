import Mathlib.Data.List.Basic

/-!
# Runs with outputs

Machines that answer each input, and the rule by which two machines that agree in one
step, through a view of their states, give the same outputs in every run.
-/

namespace Ads.Transition

universe u v w x

variable {σ : Type u} {ι : Type v} {ο : Type w} {τ : Type x}

/-- Feed the inputs to the machine one by one, and collect its outputs. -/
def transduce (step : σ → ι → Option (ο × σ)) : σ → List ι → Option (List ο × σ)
  | state, [] => some ([], state)
  | state, input :: inputs =>
      (step state input).bind fun answer =>
        (transduce step answer.2 inputs).map fun rest => (answer.1 :: rest.1, rest.2)

/-- The same answer, seen through a view of the state. -/
def seenThrough (view : σ → τ) (answer : ο × σ) : ο × τ :=
  (answer.1, view answer.2)

variable {step : σ → ι → Option (ο × σ)} {coarse : τ → ι → Option (ο × τ)} {view : σ → τ}

/-- Machines that agree in every step agree in every run. -/
theorem transduce_view
    (agree : ∀ state input, (step state input).map (seenThrough view) = coarse (view state) input)
    (state : σ) (inputs : List ι) :
    (transduce step state inputs).map (seenThrough view) =
      transduce coarse (view state) inputs := by
  induction inputs generalizing state with
  | nil => rfl
  | cons input inputs ih =>
      rw [transduce, transduce, ← agree state input]
      cases answered : step state input with
      | none => rfl
      | some answer =>
          have rest := ih answer.2
          simp only [Option.bind_some, Option.map_some, Option.map_map, seenThrough, ← rest]
          rfl

/-- The same answer, in states that correspond. -/
def Agree (Matches : σ → τ → Prop) (answer : ο × σ) (other : ο × τ) : Prop :=
  answer.1 = other.1 ∧ Matches answer.2 other.2

/-- Machines that agree in every step from states that correspond agree in every run from
there. -/
theorem transduce_rel {Matches : σ → τ → Prop}
    (agree : ∀ state other input, Matches state other →
      Option.Rel (Agree Matches) (step state input) (coarse other input))
    {state : σ} {other : τ} (initial : Matches state other) (inputs : List ι) :
    Option.Rel (Agree Matches) (transduce step state inputs) (transduce coarse other inputs) := by
  induction inputs generalizing state other with
  | nil => exact .some ⟨rfl, initial⟩
  | cons input inputs ih =>
      have first := agree state other input initial
      rw [transduce, transduce]
      generalize step state input = answer, coarse other input = another at first ⊢
      cases first with
      | none => exact .none
      | @some answer another same =>
          have rest := ih same.2
          rw [Option.bind_some, Option.bind_some]
          generalize transduce step answer.2 inputs = outputs,
            transduce coarse another.2 inputs = others at rest ⊢
          cases rest with
          | none => exact .none
          | some rest => exact .some ⟨congrArg₂ List.cons same.1 rest.1, rest.2⟩

end Ads.Transition
