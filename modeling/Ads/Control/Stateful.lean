import Ads.Control.Outcome

/-!
# Fallible routines over a state

A routine that fails keeps what it has done to the state by then, as a routine
does that writes through a reference.  Two rules tell where the state is safe: a
routine that never writes keeps it, and a routine that checks everything before
it first writes is atomic, which is to say that its errors leave the state alone.
-/

namespace Ads.Control

universe u v

/-- A fallible routine over states `σ`. -/
def Stateful (σ : Type u) (ε : Type v) (α : Type) : Type (max u v) :=
  σ → Outcome ε α × σ

namespace Stateful

variable {σ : Type u} {ε : Type v} {α β : Type}

instance : Monad (Stateful σ ε) where
  pure value := fun state => (.ok value, state)
  bind first next := fun state =>
    match first state with
    | (.ok value, after) => next value after
    | (.err error, after) => (.err error, after)
    | (.panic, after) => (.panic, after)

/-- Report an error. -/
def fail (error : ε) : Stateful σ ε α :=
  fun state => (.err error, state)

/-- Report an error if a check fails. -/
def failIf (condition : Prop) [Decidable condition] (error : ε) : Stateful σ ε Unit :=
  if condition then fail error else pure ()

/-- A fallible computation that does not use the state. -/
def lift (outcome : Outcome ε α) : Stateful σ ε α :=
  fun state => (outcome, state)

/-- The value of a function of the state. -/
def gets (f : σ → α) : Stateful σ ε α :=
  fun state => (.ok (f state), state)

/-- Change the state. -/
def modify (f : σ → σ) : Stateful σ ε Unit :=
  fun state => (.ok (), f state)

/-! ## Running a routine -/

theorem bind_run_ok {first : Stateful σ ε α} {state after : σ} {value : α}
    (ran : first state = (.ok value, after)) (next : α → Stateful σ ε β) :
    (first >>= next) state = next value after := by
  change (match first state with
    | (.ok value, after) => next value after
    | (.err error, after) => (.err error, after)
    | (.panic, after) => (.panic, after)) = next value after
  rw [ran]

theorem gets_bind_run (f : σ → α) (next : α → Stateful σ ε β) (state : σ) :
    (gets f >>= next) state = next (f state) state :=
  rfl

theorem modify_bind_run (f : σ → σ) (next : Unit → Stateful σ ε β) (state : σ) :
    (modify f >>= next) state = next () (f state) :=
  rfl

/-- How a sequence ends: in its first half, or in its second. -/
theorem bind_run_cases (first : Stateful σ ε α) (next : α → Stateful σ ε β) (state : σ) :
    (∃ value after, first state = (.ok value, after) ∧
        (first >>= next) state = next value after) ∨
      (∃ error after, first state = (.err error, after) ∧
        (first >>= next) state = (.err error, after)) ∨
      ∃ after, first state = (.panic, after) ∧ (first >>= next) state = (.panic, after) := by
  have unfolded : (first >>= next) state = (match first state with
      | (.ok value, after) => next value after
      | (.err error, after) => (.err error, after)
      | (.panic, after) => (.panic, after)) := rfl
  rcases ran : first state with ⟨outcome, after⟩
  rw [ran] at unfolded
  cases outcome with
  | ok value => exact .inl ⟨value, after, rfl, unfolded⟩
  | err error => exact .inr (.inl ⟨error, after, rfl, unfolded⟩)
  | panic => exact .inr (.inr ⟨after, rfl, unfolded⟩)

/-- A sequence succeeds exactly when each half does. -/
theorem bind_run_eq_ok_iff {first : Stateful σ ε α} {next : α → Stateful σ ε β}
    {state last : σ} {result : β} :
    (first >>= next) state = (.ok result, last) ↔
      ∃ value after, first state = (.ok value, after) ∧
        next value after = (.ok result, last) := by
  rcases bind_run_cases first next state with ⟨value, after, ran, whole⟩ |
    ⟨error, after, ran, whole⟩ | ⟨after, ran, whole⟩
  · rw [whole]
    constructor
    · intro rest
      exact ⟨value, after, ran, rest⟩
    · rintro ⟨other, middle, same, rest⟩
      cases ran.symm.trans same
      exact rest
  · simp [ran, whole]
  · simp [ran, whole]

/-- A sequence goes on exactly after a check that is passed. -/
theorem failIf_bind_run_eq_ok_iff {condition : Prop} [Decidable condition] {error : ε}
    {next : Unit → Stateful σ ε β} {state last : σ} {result : β} :
    ((failIf condition error : Stateful σ ε Unit) >>= next) state = (.ok result, last) ↔
      ¬ condition ∧ next () state = (.ok result, last) := by
  rw [bind_run_eq_ok_iff, failIf]
  split
  · rename_i holds
    simp [fail, holds]
  · rename_i fails
    constructor
    · rintro ⟨_, _, ran, rest⟩
      cases ran
      exact ⟨fails, rest⟩
    · rintro ⟨-, rest⟩
      exact ⟨(), state, rfl, rest⟩

/-- A sequence goes on exactly after a computation that succeeds. -/
theorem lift_bind_run_eq_ok_iff {outcome : Outcome ε α} {next : α → Stateful σ ε β}
    {state last : σ} {result : β} :
    (lift outcome >>= next) state = (.ok result, last) ↔
      ∃ value, outcome = .ok value ∧ next value state = (.ok result, last) := by
  rw [bind_run_eq_ok_iff]
  constructor
  · rintro ⟨value, after, ran, rest⟩
    rcases Prod.mk.inj ran with ⟨computed, same⟩
    subst same
    exact ⟨value, computed, rest⟩
  · rintro ⟨value, computed, rest⟩
    exact ⟨value, state, congrArg (·, state) computed, rest⟩

/-! ## Routines that panic -/

/-- A sequence panics exactly when its first half does, or its second half does on what the
first left. -/
theorem bind_run_panics_iff {first : Stateful σ ε α} {next : α → Stateful σ ε β} {state : σ} :
    ((first >>= next) state).1 = .panic ↔
      (first state).1 = .panic ∨
        ∃ value after, first state = (.ok value, after) ∧ (next value after).1 = .panic := by
  rcases bind_run_cases first next state with ⟨value, after, ran, whole⟩ |
    ⟨error, after, ran, whole⟩ | ⟨after, ran, whole⟩
  · rw [whole, ran]
    constructor
    · intro panicked
      exact Or.inr ⟨value, after, rfl, panicked⟩
    · rintro (failed | ⟨other, middle, same, panicked⟩)
      · cases failed
      · cases same
        exact panicked
  · simp [ran, whole]
  · simp [ran, whole]

theorem failIf_bind_run_panics_iff {condition : Prop} [Decidable condition] {error : ε}
    {next : Unit → Stateful σ ε β} {state : σ} :
    (((failIf condition error : Stateful σ ε Unit) >>= next) state).1 = .panic ↔
      ¬condition ∧ (next () state).1 = .panic := by
  by_cases holds : condition
  · rw [failIf, if_pos holds]
    constructor
    · intro failed
      cases failed
    · rintro ⟨fails, -⟩
      exact absurd holds fails
  · rw [failIf, if_neg holds]
    exact (and_iff_right holds).symm

theorem lift_bind_run_panics_iff {outcome : Outcome ε α} {next : α → Stateful σ ε β}
    {state : σ} :
    ((lift outcome >>= next) state).1 = .panic ↔
      outcome = .panic ∨ ∃ value, outcome = .ok value ∧ (next value state).1 = .panic := by
  rw [bind_run_panics_iff, lift]
  constructor
  · rintro (panicked | ⟨value, after, same, panicked⟩)
    · exact Or.inl panicked
    · obtain ⟨computed, rfl⟩ := Prod.mk.inj same
      exact Or.inr ⟨value, computed, panicked⟩
  · rintro (panicked | ⟨value, computed, panicked⟩)
    · exact Or.inl panicked
    · exact Or.inr ⟨value, state, congrArg (·, state) computed, panicked⟩

/-! ## Routines that do not write -/

/-- However the routine ends, the state is as it was. -/
def Keeps (routine : Stateful σ ε α) : Prop :=
  ∀ state, (routine state).2 = state

theorem keeps_pure (value : α) : Keeps (pure value : Stateful σ ε α) :=
  fun _ => rfl

theorem keeps_fail (error : ε) : Keeps (fail error : Stateful σ ε α) :=
  fun _ => rfl

theorem keeps_failIf (condition : Prop) [Decidable condition] (error : ε) :
    Keeps (failIf condition error : Stateful σ ε Unit) := by
  unfold failIf
  split
  · exact keeps_fail error
  · exact keeps_pure ()

theorem keeps_lift (outcome : Outcome ε α) : Keeps (lift outcome : Stateful σ ε α) :=
  fun _ => rfl

theorem keeps_gets (f : σ → α) : Keeps (gets f : Stateful σ ε α) :=
  fun _ => rfl

/-! ## Routines without errors -/

/-- The routine returns or panics. -/
def NoError (routine : Stateful σ ε α) : Prop :=
  ∀ state error, (routine state).1 ≠ .err error

theorem noError_pure (value : α) : NoError (pure value : Stateful σ ε α) := by
  intro state error equal
  cases equal

theorem noError_lift {outcome : Outcome ε α} (noError : ∀ error, outcome ≠ .err error) :
    NoError (lift outcome : Stateful σ ε α) :=
  fun _ => noError

theorem noError_gets (f : σ → α) : NoError (gets f : Stateful σ ε α) := by
  intro state error equal
  cases equal

theorem noError_modify (f : σ → σ) : NoError (modify f : Stateful σ ε Unit) := by
  intro state error equal
  cases equal

theorem NoError.bind {first : Stateful σ ε α} {next : α → Stateful σ ε β}
    (firstSafe : NoError first) (nextSafe : ∀ value, NoError (next value)) :
    NoError (first >>= next) := by
  intro state error
  have safe := firstSafe state
  rcases bind_run_cases first next state with ⟨value, after, ran, whole⟩ |
    ⟨error', after, ran, whole⟩ | ⟨after, ran, whole⟩
  · rw [whole]
    exact nextSafe value after error
  · rw [ran] at safe
    exact absurd rfl (safe error')
  · rw [whole]
    intro equal
    cases equal

/-! ## Routines that check before they write -/

/-- An error of the routine leaves the state as it was. -/
def Atomic (routine : Stateful σ ε α) : Prop :=
  ∀ state error after, routine state = (.err error, after) → after = state

theorem Keeps.atomic {routine : Stateful σ ε α} (keeps : Keeps routine) : Atomic routine := by
  intro state error after failed
  rw [← keeps state, failed]

/-- A routine without errors is atomic, whatever it writes. -/
theorem NoError.atomic {routine : Stateful σ ε α} (noError : NoError routine) :
    Atomic routine := by
  intro state error after failed
  exact absurd (congrArg Prod.fst failed) (noError state error)

/-- Checks may come before an atomic routine. -/
theorem Keeps.bind_atomic {first : Stateful σ ε α} {next : α → Stateful σ ε β}
    (keeps : Keeps first) (atomic : ∀ value, Atomic (next value)) : Atomic (first >>= next) := by
  intro state error last failed
  have kept := keeps state
  rcases bind_run_cases first next state with ⟨value, after, ran, whole⟩ |
    ⟨error', after, ran, whole⟩ | ⟨after, ran, whole⟩
  · rw [ran] at kept
    cases kept
    exact atomic value _ error last (whole ▸ failed)
  · rw [ran] at kept
    cases kept
    rw [whole] at failed
    cases failed
    rfl
  · rw [whole] at failed
    cases failed

end Stateful

end Ads.Control
