import Mathlib.Data.List.Basic

/-!
# Scattering bytes over buffers

Writing a run of elements over a row of fixed buffers, front to back: each buffer
takes as many as it holds, and what the run does not reach stays as it was.
-/

namespace Ads.Bytes

universe u

variable {α : Type u}

/-- Write `data` over the front of `buf`, as far as both reach. -/
def overlay (data buf : List α) : List α :=
  data.take buf.length ++ buf.drop data.length

@[simp]
theorem overlay_nil (buf : List α) : overlay [] buf = buf := by
  simp [overlay]

@[simp]
theorem length_overlay (data buf : List α) : (overlay data buf).length = buf.length := by
  simp only [overlay, List.length_append, List.length_take, List.length_drop]
  omega

/-- Data as long as the buffer replaces it. -/
theorem overlay_of_length_eq {data buf : List α} (same : data.length = buf.length) :
    overlay data buf = data := by
  rw [overlay, ← same, List.take_length, same, List.drop_length, List.append_nil]

/-- The front of the buffer is the data, where it reaches that far. -/
theorem take_overlay {data buf : List α} {count : Nat} (within : count ≤ data.length)
    (fits : count ≤ buf.length) : (overlay data buf).take count = data.take count := by
  have reached : count ≤ (data.take buf.length).length := by
    rw [List.length_take]
    exact Nat.le_min.mpr ⟨fits, within⟩
  rw [overlay, List.take_append_of_le_length reached, List.take_take, Nat.min_eq_left fits]

/-- The front of the buffer is the data only where the data reaches that far. -/
theorem take_overlay_eq_iff {data buf : List α} {count : Nat} (fits : count ≤ buf.length) :
    (overlay data buf).take count = data.take count ↔ count ≤ data.length := by
  constructor
  · intro same
    have lengths := congrArg List.length same
    rw [List.length_take_of_le (by rw [length_overlay]; exact fits), List.length_take] at lengths
    omega
  · exact fun within => take_overlay within fits

/-- The data makes up the whole buffer exactly when it reaches its end. -/
theorem overlay_eq_take_iff {data buf : List α} :
    overlay data buf = data.take buf.length ↔ buf.length ≤ data.length := by
  rw [← take_overlay_eq_iff (Nat.le_refl buf.length),
    List.take_of_length_le (Nat.le_of_eq (length_overlay data buf))]

/-- The back of the buffer is as it was exactly when what the data puts there is what was
there. -/
theorem drop_overlay_eq_iff {data buf : List α} {count : Nat} (fits : count ≤ buf.length)
    (within : count ≤ data.length) :
    (overlay data buf).drop count = buf.drop count ↔
      (data.take buf.length).drop count = (buf.take data.length).drop count := by
  have front : count ≤ (data.take buf.length).length := by
    rw [List.length_take]
    exact Nat.le_min.mpr ⟨fits, within⟩
  have old : count ≤ (buf.take data.length).length := by
    rw [List.length_take]
    exact Nat.le_min.mpr ⟨within, fits⟩
  have split : buf.drop count = (buf.take data.length).drop count ++ buf.drop data.length := by
    rw [← List.drop_append_of_le_length old, List.take_append_drop]
  rw [overlay, List.drop_append_of_le_length front, split, List.append_cancel_right_eq]

/-- What the data does not reach is left. -/
theorem drop_overlay (data buf : List α) :
    (overlay data buf).drop (min data.length buf.length) =
      buf.drop (min data.length buf.length) := by
  have front : (data.take buf.length).length = min data.length buf.length := by
    rw [List.length_take, Nat.min_comm]
  rw [overlay, List.drop_left' front]
  rcases Nat.le_total data.length buf.length with short | long
  · rw [Nat.min_eq_left short]
  · rw [Nat.min_eq_right long, List.drop_length, List.drop_eq_nil_of_le long]

/-- Scatter `data` over a row of buffers. -/
def scatter : List (List α) → List α → List (List α)
  | [], _ => []
  | buf :: bufs, data => overlay data buf :: scatter bufs (data.drop buf.length)

@[simp]
theorem scatter_nil (data : List α) : scatter [] data = [] :=
  rfl

@[simp]
theorem scatter_cons (buf : List α) (bufs : List (List α)) (data : List α) :
    scatter (buf :: bufs) data = overlay data buf :: scatter bufs (data.drop buf.length) :=
  rfl

@[simp]
theorem scatter_empty (bufs : List (List α)) : scatter bufs [] = bufs := by
  induction bufs with
  | nil => rfl
  | cons buf bufs ih => simp [ih]

@[simp]
theorem length_scatter (bufs : List (List α)) (data : List α) :
    (scatter bufs data).length = bufs.length := by
  induction bufs generalizing data with
  | nil => rfl
  | cons buf bufs ih => simp [ih]

/-- The buffers keep their sizes. -/
theorem map_length_scatter (bufs : List (List α)) (data : List α) :
    (scatter bufs data).map List.length = bufs.map List.length := by
  induction bufs generalizing data with
  | nil => rfl
  | cons buf bufs ih => simp [ih]

/-- The second row takes over where the first row is full. -/
theorem scatter_append (first second : List (List α)) (data : List α) :
    scatter (first ++ second) data =
      scatter first data ++ scatter second (data.drop first.flatten.length) := by
  induction first generalizing data with
  | nil => simp
  | cons buf bufs ih =>
      simp only [List.cons_append, scatter_cons, ih, List.drop_drop, List.flatten_cons,
        List.length_append]

/-- A row takes up data of its own sizes, buffer by buffer. -/
theorem scatter_append_flatten {bufs datas : List (List α)}
    (sizes : bufs.map List.length = datas.map List.length) (more : List (List α))
    (rest : List α) :
    scatter (bufs ++ more) (datas.flatten ++ rest) = datas ++ scatter more rest := by
  induction bufs generalizing datas with
  | nil =>
      cases datas with
      | nil => rfl
      | cons data datas => cases sizes
  | cons buf bufs ih =>
      cases datas with
      | nil => cases sizes
      | cons data datas =>
          rw [List.map_cons, List.map_cons, List.cons.injEq] at sizes
          have whole : (data ++ (datas.flatten ++ rest)).take buf.length = data := by
            rw [sizes.1, List.take_left]
          have nothingLeft : buf.drop (data ++ (datas.flatten ++ rest)).length = [] := by
            apply List.drop_eq_nil_of_le
            rw [List.length_append]
            omega
          rw [List.cons_append, scatter_cons, List.flatten_cons, List.append_assoc, overlay,
            whole, nothingLeft, List.append_nil, sizes.1, List.drop_left, ih sizes.2,
            List.cons_append]

/-- A buffer takes up the data from where it begins in the row. -/
theorem getElem?_scatter (bufs : List (List α)) (data : List α) (index : Nat) :
    (scatter bufs data)[index]? = (bufs[index]?).map fun buf =>
      overlay (data.drop (bufs.take index).flatten.length) buf := by
  induction bufs generalizing data index with
  | nil => rfl
  | cons buf bufs ih =>
      cases index with
      | zero => rfl
      | succ index =>
          rw [scatter_cons, List.getElem?_cons_succ, ih, List.getElem?_cons_succ,
            List.take_succ_cons, List.flatten_cons, List.length_append, List.drop_drop]

/-- The row, read through, is the data over the old contents. -/
theorem flatten_scatter (bufs : List (List α)) (data : List α) :
    (scatter bufs data).flatten = overlay data bufs.flatten := by
  induction bufs generalizing data with
  | nil => simp [overlay]
  | cons buf bufs ih =>
      rw [scatter_cons, List.flatten_cons, ih, List.flatten_cons]
      rcases Nat.le_total data.length buf.length with short | long
      · have whole : data.length ≤ (buf ++ bufs.flatten).length := by
          rw [List.length_append]
          omega
        rw [List.drop_eq_nil_of_le short, overlay_nil, overlay, overlay,
          List.take_of_length_le short, List.take_of_length_le whole,
          List.drop_append_of_le_length short, List.append_assoc]
      · rw [overlay, overlay, overlay, List.drop_eq_nil_of_le long, List.append_nil,
          List.length_append, List.take_add, List.drop_append, List.drop_eq_nil_of_le long,
          List.length_drop, List.nil_append, List.append_assoc]

end Ads.Bytes
