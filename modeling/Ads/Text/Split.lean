import Mathlib.Data.List.Basic

/-!
# Splitting text

The parts of a text between the occurrences of a separator.  There is one part
more than separators, and joined again they are the text.
-/

namespace Ads.Text

/-- The parts of a text between the separators. -/
def split (separator : Char) (text : String) : List String :=
  (text.toList.splitOn separator).map String.ofList

theorem map_toList_ofList (parts : List (List Char)) :
    (parts.map String.ofList).map String.toList = parts := by
  simp [List.map_map, Function.comp_def]

theorem map_ofList_toList (parts : List String) :
    (parts.map String.toList).map String.ofList = parts := by
  simp [List.map_map, Function.comp_def]

theorem split_ne_nil (separator : Char) (text : String) : split separator text ≠ [] := by
  rw [split, Ne, List.map_eq_nil_iff]
  exact List.splitOn_ne_nil separator text.toList

/-- The parts, joined, are the text. -/
theorem intercalate_split (separator : Char) (text : String) :
    (String.singleton separator).intercalate (split separator text) = text := by
  apply String.toList_inj.mp
  rw [String.toList_intercalate, split, map_toList_ofList, String.toList_singleton,
    List.intercalate_splitOn]

/-- Parts without separators, joined, split into themselves. -/
theorem split_intercalate {separator : Char} {parts : List String}
    (whole : ∀ part ∈ parts, separator ∉ part.toList) (filled : parts ≠ []) :
    split separator ((String.singleton separator).intercalate parts) = parts := by
  have lists : ∀ part ∈ parts.map String.toList, separator ∉ part :=
    List.forall_mem_map.mpr whole
  have nonempty : parts.map String.toList ≠ [] := by
    rwa [Ne, List.map_eq_nil_iff]
  rw [split, String.toList_intercalate, String.toList_singleton,
    List.splitOn_intercalate separator lists nonempty, map_ofList_toList]

/-- Joining adds separators only. -/
theorem not_mem_intercalate (separator : Char) {char : Char} (other : char ≠ separator)
    {parts : List String} (without : ∀ part ∈ parts, char ∉ part.toList) :
    char ∉ ((String.singleton separator).intercalate parts).toList := by
  induction parts with
  | nil => simp
  | cons part parts ih =>
      obtain ⟨notHere, notThere⟩ := List.forall_mem_cons.mp without
      cases parts with
      | nil => rwa [String.intercalate_singleton]
      | cons next parts =>
          rw [String.intercalate_cons_cons, String.toList_append, String.toList_append,
            List.mem_append, List.mem_append, String.toList_singleton, List.mem_singleton]
          rintro ((here | same) | there)
          · exact notHere here
          · exact other same
          · exact ih notThere there

/-- Two parts stand on the sides of one separator. -/
theorem split_eq_pair_of {separator : Char} {first second : String}
    (before : separator ∉ first.toList) (behind : separator ∉ second.toList) :
    split separator (first ++ String.singleton separator ++ second) = [first, second] := by
  have whole : ∀ part ∈ [first, second], separator ∉ part.toList := by
    simp [before, behind]
  have parts := split_intercalate whole (List.cons_ne_nil first [second])
  rwa [String.intercalate_cons_cons, String.intercalate_singleton] at parts

theorem eq_of_split_eq_pair {separator : Char} {text first second : String}
    (parts : split separator text = [first, second]) :
    text = first ++ String.singleton separator ++ second := by
  have joined := intercalate_split separator text
  rw [parts, String.intercalate_cons_cons, String.intercalate_singleton] at joined
  exact joined.symm

end Ads.Text
