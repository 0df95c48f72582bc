import Mathlib.Algebra.Ring.Nat
import Ads.Bytes.Scatter

/-!
# Windows into buffers

A window of a buffer is a run of its elements; pasting overwrites one.  A row of
buffers, read through, has the windows of its buffers at the offsets where they
begin.
-/

namespace Ads.Bytes

universe u

variable {α : Type u}

/-- The `count` elements of `buf` from `start` on. -/
def window (buf : List α) (start count : Nat) : List α :=
  (buf.drop start).take count

/-- Overwrite `buf` with `data` from `start` on. -/
def paste (buf : List α) (start : Nat) (data : List α) : List α :=
  buf.take start ++ data ++ buf.drop (start + data.length)

theorem length_window {buf : List α} {start count : Nat} (fits : start + count ≤ buf.length) :
    (window buf start count).length = count := by
  rw [window, List.length_take, List.length_drop]
  omega

theorem length_paste {buf data : List α} {start : Nat} (fits : start + data.length ≤ buf.length) :
    (paste buf start data).length = buf.length := by
  simp only [paste, List.length_append, List.length_take, List.length_drop]
  omega

/-- The window at the front. -/
theorem window_zero (buf : List α) (count : Nat) : window buf 0 count = buf.take count :=
  rfl

/-- Adjacent windows join. -/
theorem window_add (buf : List α) (start first second : Nat) :
    window buf start (first + second) =
      window buf start first ++ window buf (start + first) second := by
  rw [window, window, window, List.take_add, List.drop_drop]

/-- A window of the front is a window of the whole. -/
theorem window_append_left {first : List α} {start count : Nat} (second : List α)
    (fits : start + count ≤ first.length) :
    window (first ++ second) start count = window first start count := by
  rw [window, window, List.drop_append_of_le_length (by omega),
    List.take_append_of_le_length (by rw [List.length_drop]; omega)]

/-- A window of a window is a window of the whole. -/
theorem window_window {buf : List α} {outer size start count : Nat} (fits : start + count ≤ size) :
    window (window buf outer size) start count = window buf (outer + start) count := by
  rw [window, window, window, List.drop_take, List.take_take, List.drop_drop,
    Nat.min_eq_left (by omega)]

/-- Pasting over a part of the same size replaces it. -/
theorem paste_append {first middle data : List α} (same : data.length = middle.length)
    (last : List α) :
    paste (first ++ (middle ++ last)) first.length data = first ++ (data ++ last) := by
  rw [paste, List.take_left, ← List.drop_drop, List.drop_left, same, List.drop_left,
    List.append_assoc]

/-- Pasted data is seen where it was pasted. -/
theorem window_paste_self {buf data : List α} {start : Nat} (fits : start ≤ buf.length) :
    window (paste buf start data) start data.length = data := by
  rw [window, paste, List.append_assoc, List.drop_left' (List.length_take_of_le fits),
    List.take_left]

/-- Pasting leaves what comes after it. -/
theorem window_paste_after {buf data : List α} {start position : Nat} (count : Nat)
    (fits : start + data.length ≤ buf.length) (after : start + data.length ≤ position) :
    window (paste buf start data) position count = window buf position count := by
  obtain ⟨gap, rfl⟩ := Nat.exists_eq_add_of_le after
  have front : (buf.take start ++ data).length = start + data.length := by
    rw [List.length_append, List.length_take_of_le (by omega)]
  rw [window, window, paste, ← List.drop_drop, List.drop_left' front, List.drop_drop]

/-- Where the buffer at `index` begins when the row is read through. -/
def offset (row : List (List α)) (index : Nat) : Nat :=
  (row.take index).flatten.length

@[simp]
theorem offset_zero (row : List (List α)) : offset row 0 = 0 :=
  rfl

theorem offset_succ {row : List (List α)} {index : Nat} {buf : List α}
    (found : row[index]? = some buf) : offset row (index + 1) = offset row index + buf.length := by
  rw [offset, offset, List.take_add_one, found]
  simp

/-- Where buffers of one size begin. -/
theorem offset_of_uniform {row : List (List α)} {size index : Nat}
    (uniform : ∀ buf ∈ row, buf.length = size) (within : index ≤ row.length) :
    offset row index = size * index := by
  have sizes : (row.take index).map List.length = List.replicate index size := by
    rw [List.map_congr_left fun buf member => uniform buf (List.mem_of_mem_take member),
      List.map_const', List.length_take_of_le within]
  rw [offset, List.length_flatten, sizes, List.sum_replicate_nat, Nat.mul_comm]

/-- Parts of one size, one for each item. -/
theorem length_flatten_map_of_uniform {R : Type} {part : R → List α} {size : Nat}
    (uniform : ∀ item, (part item).length = size) (items : List R) :
    (items.map part).flatten.length = size * items.length := by
  induction items with
  | nil => rfl
  | cons item items ih => simp [uniform, ih, Nat.mul_succ, Nat.add_comm]

/-- All headers, then all bodies, are as long as the items one after the other. -/
theorem length_flatten_headers_bodies {R : Type} {header body : R → List α} {size : Nat}
    (uniform : ∀ item, (header item).length = size) (items : List R) :
    (items.map header ++ items.map body).flatten.length =
      (items.map fun item => size + (body item).length).sum := by
  rw [List.flatten_append, List.length_append, length_flatten_map_of_uniform uniform]
  induction items with
  | nil => rfl
  | cons item items ih =>
      simp only [List.map_cons, List.flatten_cons, List.length_append, List.length_cons,
        List.sum_cons, Nat.mul_succ, ← ih]
      omega

/-- A buffer ends within the row. -/
theorem offset_add_length_le {row : List (List α)} {index : Nat} {buf : List α}
    (found : row[index]? = some buf) : offset row index + buf.length ≤ row.flatten.length := by
  have split := congrArg List.flatten (List.take_append_drop (index + 1) row)
  rw [← offset_succ found, offset, ← split, List.flatten_append, List.length_append]
  exact Nat.le_add_right _ _

/-- A window of one buffer is a window of the row. -/
theorem window_flatten {row : List (List α)} {index start count : Nat} {buf : List α}
    (found : row[index]? = some buf) (fits : start + count ≤ buf.length) :
    window row.flatten (offset row index + start) count = window buf start count := by
  have split : row.flatten =
      (row.take index).flatten ++ (buf ++ (row.drop (index + 1)).flatten) := by
    obtain ⟨bound, rfl⟩ := List.getElem?_eq_some_iff.mp found
    rw [← List.flatten_cons, ← List.flatten_append, List.getElem_cons_drop,
      List.take_append_drop]
  have shifted : window row.flatten (offset row index + start) count =
      window (buf ++ (row.drop (index + 1)).flatten) start count := by
    rw [window, window, split, offset, ← List.drop_drop, List.drop_left]
  rw [shifted, window_append_left _ fits]

/-- A window of a buffer is that of the data written over it only where the data reaches
that far. -/
theorem window_overlay_eq_iff {data buf : List α} {start count : Nat}
    (fits : start + count ≤ buf.length) :
    window (overlay data buf) start count = window data start count ↔
      count = 0 ∨ start + count ≤ data.length := by
  constructor
  · intro same
    have lengths := congrArg List.length same
    rw [length_window (by rw [length_overlay]; exact fits), window, List.length_take,
      List.length_drop] at lengths
    omega
  · rintro (rfl | within)
    · rfl
    · have front : start + count ≤ (data.take buf.length).length := by
        rw [List.length_take]
        exact Nat.le_min.mpr ⟨fits, within⟩
      rw [overlay, window_append_left _ front, window, window, List.drop_take, List.take_take,
        Nat.min_eq_left (by omega)]

end Ads.Bytes
