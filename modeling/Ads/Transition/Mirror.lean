import Mathlib.Data.Finset.Basic

/-!
# Mirrors of a set

A set changes key by key, and a copy of it takes every change over some time later.
Changes of one key may be taken over in another order than they were made in.  The
copy is settled as long as every key on which the two differ has a change that is
still to be taken over.
-/

namespace Ads.Transition

universe u

variable {κ : Type u}

/-- A change of one key. -/
inductive Update (κ : Type u)
  | insert (key : κ)
  | remove (key : κ)
  deriving DecidableEq

namespace Update

/-- The key that is changed. -/
def key : Update κ → κ
  | insert key => key
  | remove key => key

/-- Whether the key is there afterwards. -/
def present : Update κ → Bool
  | insert _ => true
  | remove _ => false

variable [DecidableEq κ]

/-- Make the change. -/
def apply : Update κ → Finset κ → Finset κ
  | insert key, keys => Insert.insert key keys
  | remove key, keys => keys.erase key

theorem key_mem_apply_iff (update : Update κ) (keys : Finset κ) :
    update.key ∈ update.apply keys ↔ update.present = true := by
  cases update with
  | insert added => simp [key, apply, present]
  | remove removed => simp [key, apply, present]

/-- A change leaves the other keys. -/
theorem mem_apply_of_ne {update : Update κ} {keys : Finset κ} {other : κ}
    (different : other ≠ update.key) : other ∈ update.apply keys ↔ other ∈ keys := by
  cases update with
  | insert key => exact Finset.mem_insert.trans (or_iff_right different)
  | remove key => exact Finset.mem_erase.trans (and_iff_right different)

end Update

/-- Every key on which the copy differs has a change outstanding. -/
def Settled (original copy : Finset κ) (outstanding : κ → Prop) : Prop :=
  ∀ key, (key ∈ copy ↔ key ∈ original) ∨ outstanding key

/-- A key on which the copy differs has no change outstanding. -/
def Lost (original copy : Finset κ) (outstanding : κ → Prop) (key : κ) : Prop :=
  ¬ (key ∈ copy ↔ key ∈ original) ∧ ¬ outstanding key

section Mirror

variable {original copy : Finset κ} {outstanding later : κ → Prop}

/-- Changes may become outstanding. -/
theorem Settled.mono (settled : Settled original copy outstanding)
    (kept : ∀ key, outstanding key → later key) : Settled original copy later :=
  fun key => (settled key).imp_right (kept key)

/-- With no change outstanding, the copy is the set. -/
theorem Settled.eq (settled : Settled original copy outstanding)
    (none : ∀ key, ¬ outstanding key) : copy = original := by
  ext key
  exact (settled key).resolve_right (none key)

theorem Lost.ne {key : κ} (lost : Lost original copy outstanding key) : copy ≠ original := by
  rintro rfl
  exact lost.1 Iff.rfl

variable [DecidableEq κ] {update : Update κ}

/-- A change of the set becomes outstanding. -/
theorem Settled.change (settled : Settled original copy outstanding)
    (kept : ∀ key, outstanding key → later key) (added : later update.key) :
    Settled (update.apply original) copy later := by
  intro key
  by_cases same : key = update.key
  · rw [same]
    exact Or.inr added
  · rw [Update.mem_apply_of_ne same]
    exact (settled key).imp_right (kept key)

/-- A change may be taken over if the set is still as the change left it, or if another change
of the key is outstanding. -/
theorem Settled.take (settled : Settled original copy outstanding)
    (kept : ∀ key, key ≠ update.key → outstanding key → later key)
    (timely : (update.key ∈ original ↔ update.present = true) ∨ later update.key) :
    Settled original (update.apply copy) later := by
  intro key
  by_cases same : key = update.key
  · rw [same, update.key_mem_apply_iff]
    exact timely.imp_left Iff.symm
  · rw [Update.mem_apply_of_ne same]
    exact (settled key).imp_right (kept key same)

/-- Otherwise taking it over loses the key. -/
theorem lost_of_take (stale : ¬ ((update.key ∈ original ↔ update.present = true) ∨
    later update.key)) : Lost original (update.apply copy) later update.key := by
  rw [not_or] at stale
  rw [Lost, update.key_mem_apply_iff]
  exact ⟨fun agree => stale.1 agree.symm, stale.2⟩

/-- A lost key stays lost while other changes are taken over. -/
theorem Lost.take {key : κ} (lost : Lost original copy outstanding key)
    (pending : outstanding update.key) (kept : ∀ key, later key → outstanding key) :
    Lost original (update.apply copy) later key := by
  have different : key ≠ update.key := by
    rintro rfl
    exact lost.2 pending
  rw [Lost, Update.mem_apply_of_ne different]
  exact ⟨lost.1, fun again => lost.2 (kept key again)⟩

end Mirror

end Ads.Transition
