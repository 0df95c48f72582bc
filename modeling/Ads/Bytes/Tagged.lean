import Mathlib.Logic.Function.Iterate
import Ads.Bytes.Reader
import Ads.Bytes.Window

/-!
# Rows of tagged items

An item is a tag, the length of its payload and the payload; a row is item after
item.  An index of a row says of every item its tag and the range where it lies,
with as many bytes as one likes left out in front: all four bytes of tag and
length for the payload alone.
-/

namespace Ads.Bytes

open Ads.Control

universe u v

/-- The elements from `start` up to `stop`; a range outside of the slice is a panic. -/
def subslice {ε : Type u} {α : Type v} (buf : List α) (start stop : Nat) : Outcome ε (List α) :=
  if start ≤ stop ∧ stop ≤ buf.length then .ok (window buf start (stop - start)) else .panic

theorem subslice_append {ε : Type u} {α : Type v} (front middle back : List α) :
    (subslice (front ++ (middle ++ back)) front.length (front.length + middle.length) :
      Outcome ε (List α)) = .ok middle := by
  have within : front.length + middle.length ≤ (front ++ (middle ++ back)).length := by
    rw [List.length_append, List.length_append]
    omega
  rw [subslice, if_pos ⟨Nat.le_add_right _ _, within⟩, Nat.add_sub_cancel_left, window,
    List.drop_left, List.take_left]

/-- A tag and a payload that fits a length field of two bytes. -/
structure Tagged where
  tag : UInt16
  payload : List UInt8
  bound : payload.length < 2 ^ 16

namespace Tagged

/-- The length field. -/
def length (item : Tagged) : UInt16 :=
  UInt16.ofNat item.payload.length

@[simp]
theorem toNat_length (item : Tagged) : item.length.toNat = item.payload.length :=
  UInt16.toNat_ofNat_of_lt' item.bound

/-- Tag, length and payload. -/
def bytes (item : Tagged) : List UInt8 :=
  u16Bytes item.tag ++ (u16Bytes item.length ++ item.payload)

@[simp]
theorem length_bytes (item : Tagged) : item.bytes.length = item.payload.length + 4 := by
  simp only [bytes, List.length_append, length_u16Bytes]
  omega

/-- Behind tag and length is the payload. -/
theorem drop_bytes (item : Tagged) : item.bytes.drop 4 = item.payload := by
  rw [bytes, ← List.append_assoc]
  exact List.drop_left' (by simp)

/-! ## The items in front of a slice -/

/-- In front of a slice stand a tag and a length of more bytes than follow them. -/
def Overlong (place : List UInt8) : Prop :=
  ∃ (tag length : UInt16) (rest : List UInt8),
    place = u16Bytes tag ++ (u16Bytes length ++ rest) ∧ rest.length < length.toNat

theorem exists_u16Bytes {place : List UInt8} (enough : 2 ≤ place.length) :
    ∃ (word : UInt16) (rest : List UInt8), place = u16Bytes word ++ rest := by
  refine ⟨UInt16.ofNat (leValue (place.take 2)), place.drop 2, ?_⟩
  rw [u16Bytes_leValue (List.length_take_of_le enough), List.take_append_drop]

/-- In front of a slice there is no tag, a tag without a length, a length of more bytes than
follow it, or an item. -/
theorem front_cases (place : List UInt8) :
    place.length < 2 ∨ (2 ≤ place.length ∧ place.length < 4) ∨ Overlong place ∨
      ∃ (item : Tagged) (rest : List UInt8), place = item.bytes ++ rest := by
  by_cases tagged : 2 ≤ place.length
  · obtain ⟨tag, behind, rfl⟩ := exists_u16Bytes tagged
    rw [List.length_append, length_u16Bytes]
    by_cases measured : 2 ≤ behind.length
    · obtain ⟨length, rest, rfl⟩ := exists_u16Bytes measured
      by_cases long : rest.length < length.toNat
      · exact Or.inr (Or.inr (Or.inl ⟨tag, length, rest, rfl, long⟩))
      · have within : (rest.take length.toNat).length = length.toNat :=
          List.length_take_of_le (Nat.le_of_not_lt long)
        have word : UInt16.ofNat (rest.take length.toNat).length = length := by
          rw [within, UInt16.ofNat_toNat]
        refine Or.inr (Or.inr (Or.inr ⟨⟨tag, rest.take length.toNat, ?_⟩, rest.drop length.toNat,
          ?_⟩))
        · rw [within]
          exact length.toNat_lt
        · rw [bytes, Tagged.length, word, List.append_assoc, List.append_assoc,
            List.take_append_drop]
    · exact Or.inr (Or.inl (by omega))
  · exact Or.inl (Nat.lt_of_not_le tagged)

/-- Every slice is a row of items with something behind it that is no item. -/
theorem exists_row (input : List UInt8) :
    ∃ (items : List Tagged) (place : List UInt8), input = items.flatMap bytes ++ place ∧
      (place.length < 2 ∨ (2 ≤ place.length ∧ place.length < 4) ∨ Overlong place) := by
  rcases front_cases input with short | cut | overlong | ⟨item, rest, front⟩
  · exact ⟨[], input, rfl, Or.inl short⟩
  · exact ⟨[], input, rfl, Or.inr (Or.inl cut)⟩
  · exact ⟨[], input, rfl, Or.inr (Or.inr overlong)⟩
  · have smaller : rest.length < input.length := by
      rw [front, List.length_append, length_bytes]
      omega
    obtain ⟨items, place, behind, ends⟩ := exists_row rest
    refine ⟨item :: items, place, ?_, ends⟩
    rw [front, behind, List.flatMap_cons, List.append_assoc]
termination_by input.length

theorem length_le_row (items : List Tagged) : items.length ≤ (items.flatMap bytes).length := by
  induction items with
  | nil => exact Nat.le_refl 0
  | cons item items ih =>
      rw [List.length_cons, List.flatMap_cons, List.length_append, length_bytes]
      omega

/-- The slice behind the item in front, as its length says. -/
def skip (place : List UInt8) : List UInt8 :=
  place.drop (4 + (leU16 (place.drop 2)).toNat)

theorem drop_bytes_append (item : Tagged) (rest : List UInt8) :
    (item.bytes ++ rest).drop 2 = u16Bytes item.length ++ (item.payload ++ rest) := by
  rw [bytes, List.append_assoc, List.append_assoc]
  exact List.drop_left' (length_u16Bytes item.tag)

theorem skip_bytes_append (item : Tagged) (rest : List UInt8) :
    skip (item.bytes ++ rest) = rest := by
  rw [skip, drop_bytes_append, leU16_u16Bytes_append, toNat_length, Nat.add_comm, ← length_bytes,
    List.drop_left]

/-- Stepping over the first items of a row. -/
theorem iterate_skip_row {k : Nat} {items : List Tagged} (within : k ≤ items.length)
    (place : List UInt8) :
    skip^[k] (items.flatMap bytes ++ place) = (items.drop k).flatMap bytes ++ place := by
  induction k generalizing items with
  | zero => rfl
  | succ k ih =>
      cases items with
      | nil => contradiction
      | cons item items =>
          rw [Function.iterate_succ_apply, List.flatMap_cons, List.append_assoc,
            skip_bytes_append, ih (Nat.le_of_succ_le_succ within), List.drop_succ_cons]

/-- The first items of a row take as many bytes as they have. -/
theorem drop_row (k : Nat) (items : List Tagged) (place : List UInt8) :
    (items.flatMap bytes ++ place).drop ((items.take k).flatMap bytes).length =
      (items.drop k).flatMap bytes ++ place := by
  have parts : items.flatMap bytes = (items.take k).flatMap bytes ++ (items.drop k).flatMap bytes := by
    rw [← List.flatMap_append, List.take_append_drop]
  rw [parts, List.append_assoc, List.drop_left]

/-! ## The index of a row -/

/-- The index of a row that begins at `pos`: of every item the tag and its range, `skip`
bytes of it left out in front. -/
def ranges (skip : Nat) : Nat → List Tagged → List (UInt16 × Nat × Nat)
  | _, [] => []
  | pos, item :: items =>
      (item.tag, pos + skip, pos + item.bytes.length) ::
        ranges skip (pos + item.bytes.length) items

theorem ranges_append (skip pos : Nat) (first second : List Tagged) :
    ranges skip pos (first ++ second) =
      ranges skip pos first ++ ranges skip (pos + (first.flatMap bytes).length) second := by
  induction first generalizing pos with
  | nil => rfl
  | cons item items ih =>
      rw [List.cons_append, ranges, ranges, ih, List.cons_append, List.flatMap_cons,
        List.length_append, Nat.add_assoc]

@[simp]
theorem length_ranges (skip pos : Nat) (items : List Tagged) :
    (ranges skip pos items).length = items.length := by
  induction items generalizing pos with
  | nil => rfl
  | cons item items ih => rw [ranges, List.length_cons, ih, List.length_cons]

/-- The entry of an item: its range begins behind the items before it. -/
theorem getElem?_ranges (skip pos : Nat) (items : List Tagged) (k : Nat) :
    (ranges skip pos items)[k]? = (items[k]?).map fun item =>
      let start := pos + ((items.take k).flatMap bytes).length
      (item.tag, start + skip, start + item.bytes.length) := by
  induction items generalizing pos k with
  | nil => rfl
  | cons item items ih =>
      cases k with
      | zero => rfl
      | succ k =>
          rw [ranges, List.getElem?_cons_succ, ih, List.getElem?_cons_succ, List.take_succ_cons,
            List.flatMap_cons, List.length_append, Nat.add_assoc]

/-- The range of an item holds its bytes, the skipped ones left out. -/
theorem subslice_range {ε : Type u} {skip : Nat} (front : List UInt8) (item : Tagged)
    (back : List UInt8) (inside : skip ≤ item.bytes.length) :
    (subslice (front ++ (item.bytes ++ back)) (front.length + skip)
      (front.length + item.bytes.length) : Outcome ε (List UInt8)) =
        .ok (item.bytes.drop skip) := by
  have skipped : (front ++ item.bytes.take skip).length = front.length + skip := by
    rw [List.length_append, List.length_take_of_le inside]
  have kept : front.length + skip + (item.bytes.drop skip).length =
      front.length + item.bytes.length := by
    rw [List.length_drop]
    omega
  have whole : front ++ (item.bytes ++ back) =
      (front ++ item.bytes.take skip) ++ (item.bytes.drop skip ++ back) := by
    rw [List.append_assoc, ← List.append_assoc (item.bytes.take skip), List.take_append_drop]
  rw [whole, ← skipped, ← kept, ← skipped]
  exact subslice_append _ _ _

/-- A tag that no item has is not in the index. -/
theorem find?_ranges_of_none {tag : UInt16} {items : List Tagged} (skip pos : Nat)
    (absent : items.find? (fun item => item.tag == tag) = none) :
    (ranges skip pos items).find? (fun entry => entry.1 == tag) = none := by
  induction items generalizing pos with
  | nil => rfl
  | cons item items ih =>
      rw [List.find?_cons] at absent
      rw [ranges, List.find?_cons]
      cases same : item.tag == tag with
      | true => simp [same] at absent
      | false =>
          rw [same] at absent
          exact ih _ absent

/-- The first entry with a tag is that of the first item with it, and its range holds that
item's bytes. -/
theorem find?_ranges_of_some {ε : Type u} {tag : UInt16} {items : List Tagged} {item : Tagged}
    {skip : Nat} (front back : List UInt8) (inside : skip ≤ 4)
    (found : items.find? (fun item => item.tag == tag) = some item) :
    ∃ entry, (ranges skip front.length items).find? (fun entry => entry.1 == tag) = some entry ∧
      (subslice (front ++ (items.flatMap bytes ++ back)) entry.2.1 entry.2.2 :
        Outcome ε (List UInt8)) = .ok (item.bytes.drop skip) := by
  induction items generalizing front with
  | nil => simp at found
  | cons head items ih =>
      rw [List.find?_cons] at found
      rw [ranges, List.find?_cons, List.flatMap_cons, List.append_assoc]
      cases same : head.tag == tag with
      | true =>
          rw [same] at found
          cases found
          refine ⟨_, rfl, ?_⟩
          apply subslice_range
          rw [length_bytes]
          omega
      | false =>
          rw [same] at found
          have later := ih (front ++ head.bytes) found
          rwa [List.length_append, List.append_assoc] at later

end Tagged

end Ads.Bytes
