import Mathlib.Data.Sum.Basic

/-!
# Endless loops

A loop whose body either goes on with a new state or leaves with a result, and
the number of rounds that it takes.
-/

namespace Ads.Control

universe u v

variable {σ : Type u} {β : Type v}

/-- Repeat the body until it leaves the loop.  The fuel bounds the number of rounds. -/
def loop (body : σ → σ ⊕ β) : Nat → σ → Option β
  | 0, _ => none
  | fuel + 1, state =>
      match body state with
      | .inl after => loop body fuel after
      | .inr result => some result

/-- The body leaves the loop with the result, after the rounds in which it goes on. -/
inductive Leaves (body : σ → σ ⊕ β) : σ → Nat → β → Prop
  | now {state : σ} {result : β} : body state = .inr result → Leaves body state 0 result
  | later {state after : σ} {rounds : Nat} {result : β} :
      body state = .inl after → Leaves body after rounds result →
      Leaves body state (rounds + 1) result

variable {body : σ → σ ⊕ β} {state : σ} {result : β} {fuel rounds : Nat}

/-- The rounds that it takes need one more unit of fuel. -/
theorem Leaves.loop_eq (leaves : Leaves body state rounds result) (enough : rounds < fuel) :
    loop body fuel state = some result := by
  induction leaves generalizing fuel with
  | now left =>
      cases fuel with
      | zero => cases enough
      | succ fuel => rw [loop, left]
  | later goesOn _ ih =>
      cases fuel with
      | zero => cases enough
      | succ fuel =>
          rw [loop, goesOn]
          exact ih (Nat.lt_of_succ_lt_succ enough)

theorem leaves_of_loop (left : loop body fuel state = some result) :
    ∃ rounds < fuel, Leaves body state rounds result := by
  induction fuel generalizing state with
  | zero => cases left
  | succ fuel ih =>
      rw [loop] at left
      split at left
      · rename_i after goesOn
        rcases ih left with ⟨rounds, enough, leaves⟩
        exact ⟨rounds + 1, Nat.succ_lt_succ enough, .later goesOn leaves⟩
      · rename_i same
        cases left
        exact ⟨0, Nat.succ_pos fuel, .now same⟩

/-- A loop returns, given enough fuel, exactly if its body leaves it. -/
theorem exists_loop_iff :
    (∃ fuel, loop body fuel state = some result) ↔
      ∃ rounds, Leaves body state rounds result := by
  constructor
  · rintro ⟨fuel, left⟩
    rcases leaves_of_loop left with ⟨rounds, -, leaves⟩
    exact ⟨rounds, leaves⟩
  · rintro ⟨rounds, leaves⟩
    exact ⟨rounds + 1, leaves.loop_eq (Nat.lt_succ_self rounds)⟩

end Ads.Control
