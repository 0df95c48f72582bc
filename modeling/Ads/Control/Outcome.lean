import Mathlib.Control.Basic

/-!
# Outcomes of fallible routines

A routine of an imperative program either returns a value, reports an error to
its caller, or panics.  A panic is not an error value: no handler between the
panicking expression and the thread's entry sees it.  `Outcome` keeps the three
apart, so that "returns `Ok` or `Err`" is a statement about the routine and not
a convention of the model.
-/

namespace Ads.Control

universe u v w

/-- A returned value, a reported error, or a panic. -/
inductive Outcome (ε : Type u) (α : Type v)
  | ok (value : α)
  | err (error : ε)
  | panic
  deriving DecidableEq, Repr

namespace Outcome

variable {ε : Type u} {α : Type v} {β : Type v}

/-- Sequencing stops at the first error or panic. -/
protected def bind (first : Outcome ε α) (next : α → Outcome ε β) : Outcome ε β :=
  match first with
  | ok value => next value
  | err error => err error
  | panic => panic

instance : Monad (Outcome ε) where
  pure := ok
  bind := Outcome.bind

instance : LawfulMonad (Outcome ε) := LawfulMonad.mk' _
  (fun first => by cases first <;> rfl)
  (fun _ _ => rfl)
  (fun first _ _ => by cases first <;> rfl)

@[simp]
theorem pure_eq_ok (value : α) : (pure value : Outcome ε α) = ok value :=
  rfl

@[simp]
theorem ok_bind (value : α) (next : α → Outcome ε β) :
    (ok value >>= next) = next value :=
  rfl

@[simp]
theorem err_bind (error : ε) (next : α → Outcome ε β) :
    ((err error : Outcome ε α) >>= next) = err error :=
  rfl

@[simp]
theorem panic_bind (next : α → Outcome ε β) :
    ((panic : Outcome ε α) >>= next) = panic :=
  rfl

@[simp]
theorem map_ok (f : α → β) (value : α) :
    f <$> (ok value : Outcome ε α) = ok (f value) :=
  rfl

@[simp]
theorem map_err (f : α → β) (error : ε) :
    f <$> (err error : Outcome ε α) = err error :=
  rfl

@[simp]
theorem map_panic (f : α → β) : f <$> (panic : Outcome ε α) = panic :=
  rfl

@[simp]
theorem ok_ne_panic (value : α) : (ok value : Outcome ε α) ≠ panic :=
  fun equal => by cases equal

@[simp]
theorem err_ne_panic (error : ε) : (err error : Outcome ε α) ≠ panic :=
  fun equal => by cases equal

/-- A failure, which has no value to return, as an outcome of any type. -/
def raise (failure : Outcome ε Empty) : Outcome ε α :=
  match failure with
  | err error => err error
  | panic => panic

@[simp]
theorem raise_err (error : ε) : (raise (err error) : Outcome ε α) = err error :=
  rfl

@[simp]
theorem raise_panic : (raise panic : Outcome ε α) = panic :=
  rfl

@[simp]
theorem ok_ne_raise (value : α) (failure : Outcome ε Empty) : ok value ≠ raise failure := by
  cases failure with
  | ok value => cases value
  | err error => exact fun equal => by cases equal
  | panic => exact ok_ne_panic value

@[simp]
theorem raise_bind (failure : Outcome ε Empty) (next : α → Outcome ε β) :
    ((raise failure : Outcome ε α) >>= next) = raise failure := by
  cases failure with
  | ok value => cases value
  | err error => rfl
  | panic => rfl

/-- What is checked first succeeds exactly when the check passes and the rest succeeds. -/
theorem ite_err_eq_ok_iff {fails : Prop} [Decidable fails] {error : ε} {rest : Outcome ε α}
    {value : α} : (if fails then err error else rest) = ok value ↔ ¬fails ∧ rest = ok value := by
  by_cases failed : fails <;> simp [failed]

theorem ite_panic_eq_ok_iff {fails : Prop} [Decidable fails] {rest : Outcome ε α} {value : α} :
    (if fails then panic else rest) = ok value ↔ ¬fails ∧ rest = ok value := by
  by_cases failed : fails <;> simp [failed]

/-- A sequence succeeds exactly when both halves do. -/
theorem bind_eq_ok_iff {first : Outcome ε α} {next : α → Outcome ε β} {result : β} :
    (first >>= next) = ok result ↔
      ∃ value, first = ok value ∧ next value = ok result := by
  cases first <;> simp

/-- A sequence fails exactly when its first half does so or its second half does
so on the value of the first. -/
theorem bind_eq_raise_iff {first : Outcome ε α} {next : α → Outcome ε β}
    {failure : Outcome ε Empty} :
    (first >>= next) = raise failure ↔
      first = raise failure ∨ ∃ value, first = ok value ∧ next value = raise failure := by
  cases first with
  | ok value => simp
  | err error =>
      cases failure with
      | ok value => cases value
      | err other => simp
      | panic => simp
  | panic =>
      cases failure with
      | ok value => cases value
      | err other => simp
      | panic => simp

/-- A sequence panics exactly when its first half does or its second half does
on the value of the first. -/
theorem bind_eq_panic_iff {first : Outcome ε α} {next : α → Outcome ε β} :
    (first >>= next) = panic ↔
      first = panic ∨ ∃ value, first = ok value ∧ next value = panic := by
  cases first <;> simp

theorem map_eq_ok_iff {first : Outcome ε α} {f : α → β} {result : β} :
    f <$> first = ok result ↔ ∃ value, first = ok value ∧ f value = result := by
  cases first <;> simp

/-- A row of checks passes exactly when each check does. -/
theorem forM_eq_ok_iff {γ : Type w} {items : List γ} {check : γ → Outcome ε PUnit} :
    items.forM check = ok PUnit.unit ↔ ∀ item ∈ items, check item = ok PUnit.unit := by
  induction items with
  | nil => simp
  | cons item items ih =>
      rw [List.forM, bind_eq_ok_iff, List.forall_mem_cons, ← ih]
      constructor
      · rintro ⟨⟨⟩, first, others⟩
        exact ⟨first, others⟩
      · rintro ⟨first, others⟩
        exact ⟨PUnit.unit, first, others⟩

end Outcome

end Ads.Control
