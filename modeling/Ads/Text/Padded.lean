import Mathlib.Data.List.TakeWhile

/-!
# Padded rows

A row of fixed size that has less content is filled up with one element.  Where
that element is null, the content ends at the first null, or with the row when
there is none.
-/

namespace Ads.Text

universe u

variable {α : Type u}

/-- A row of `size` elements, the content in front and `fill` behind it. -/
def padded (fill : α) (size : Nat) (content : List α) : List α :=
  content ++ List.replicate (size - content.length) fill

theorem padded_nil (fill : α) (size : Nat) : padded fill size [] = List.replicate size fill :=
  rfl

theorem padded_of_length_eq {fill : α} {size : Nat} {content : List α}
    (full : content.length = size) : padded fill size content = content := by
  rw [padded, full, Nat.sub_self, List.replicate_zero, List.append_nil]

/-- Overwriting the first element behind the content adds one to it. -/
theorem set_padded {fill : α} {size : Nat} {content : List α} (room : content.length < size)
    (element : α) :
    (padded fill size content).set content.length element =
      padded fill size (content ++ [element]) := by
  obtain ⟨spare, same⟩ := Nat.exists_eq_add_of_lt room
  have behind : size - content.length = spare + 1 := by omega
  have fewer : size - (content ++ [element]).length = spare := by
    rw [List.length_append, List.length_singleton]
    omega
  rw [padded, padded, behind, fewer, List.set_append_right _ _ (Nat.le_refl _), Nat.sub_self,
    List.replicate_succ, List.set_cons_zero, List.append_assoc, List.singleton_append]

/-! ## Up to the first null -/

variable [DecidableEq α]

/-- The number of elements up to the first null. -/
def lengthToNull (null : α) (row : List α) : Nat :=
  (row.findIdx? fun element => element == null).getD row.length

theorem lengthToNull_le (null : α) (row : List α) : lengthToNull null row ≤ row.length := by
  rw [lengthToNull, ← List.findIdx_eq_getD_findIdx?]
  exact List.findIdx_le_length

theorem take_lengthToNull (null : α) (row : List α) :
    row.take (lengthToNull null row) = row.takeWhile fun element => element != null := by
  have same : (fun element : α => !(element != null)) = fun element => element == null := by
    funext element
    exact Bool.not_not _
  rw [lengthToNull, ← List.findIdx_eq_getD_findIdx?, List.takeWhile_eq_take_findIdx_not, same]

/-- In front of the first null stands the content, whatever is behind it. -/
theorem takeWhile_terminated {null : α} {content : List α}
    (clean : null ∉ content) (behind : List α) :
    (content ++ null :: behind).takeWhile (fun element => element != null) = content := by
  have kept : ∀ element ∈ content, (element != null) = true := by
    intro element member
    rw [bne_iff_ne]
    rintro rfl
    exact clean member
  rw [List.takeWhile_append_of_pos kept, List.takeWhile_cons_of_neg (by simp), List.append_nil]

theorem takeWhile_padded {null : α} {content : List α} (clean : null ∉ content) (size : Nat) :
    (padded null size content).takeWhile (fun element => element != null) = content := by
  have kept : ∀ element ∈ content, (element != null) = true := by
    intro element member
    rw [bne_iff_ne]
    rintro rfl
    exact clean member
  rw [padded, List.takeWhile_append_of_pos kept]
  cases size - content.length with
  | zero => rw [List.replicate_zero, List.takeWhile_nil, List.append_nil]
  | succ spare => simp [List.replicate_succ]

theorem lengthToNull_padded {null : α} {content : List α} (clean : null ∉ content) (size : Nat) :
    lengthToNull null (padded null size content) = content.length := by
  have front := congrArg List.length (take_lengthToNull null (padded null size content))
  rwa [takeWhile_padded clean, List.length_take_of_le (lengthToNull_le null _)] at front

end Ads.Text
