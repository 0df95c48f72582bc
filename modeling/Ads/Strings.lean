import Ads.Text.Padded
import Ads.Text.Utf16

/-!
# Fixed-length wide strings

A wide string is an array of code units, read up to its first null.  It is made
from a text unit after unit, as long as there is room, and gives back the text.
-/

namespace Ads.Strings

open Ads.Text

/-- A fixed-length wide string, with one extra null unit. -/
structure WString (LEN : Nat) where
  units : Vector UInt16 LEN
  null : UInt16

namespace WString

variable {LEN : Nat}

/-- Create a new empty string. -/
def new : WString LEN where
  units := Vector.replicate LEN 0
  null := 0

/-- Return the number of code units up to the first null. -/
def len (wstr : WString LEN) : Nat :=
  lengthToNull 0 wstr.units.toList

/-- Get the slice up to the first null code unit. -/
def asSlice (wstr : WString LEN) : List UInt16 :=
  wstr.units.toList.take wstr.len

/-- Compare with another wide string. -/
def eq (wstr other : WString LEN) : Bool :=
  wstr.asSlice == other.asSlice

/-- Compare with a text. -/
def eqStr (wstr : WString LEN) (other : String) : Bool :=
  wstr.asSlice == encodeUtf16 other

/-- Write unit after unit from index `i` on.  A unit that has no room is an error. -/
def writeUnits : Nat → List UInt16 → WString LEN → Except Unit (WString LEN)
  | _, [], wstr => .ok wstr
  | i, unit :: units, wstr =>
      if room : i < LEN then
        writeUnits (i + 1) units { wstr with units := wstr.units.set i unit room }
      else .error ()

/-- Convert from a text. -/
def tryFrom (text : String) : Except Unit (WString LEN) :=
  writeUnits 0 (encodeUtf16 text) new

/-- Convert to a text.  An unpaired surrogate is an error. -/
def tryIntoString (wstr : WString LEN) : Except UInt16 String :=
  (collect (decodeUtf16 (wstr.units.toList.takeWhile fun unit => unit != 0))).map String.ofList

/-! ## What is written -/

/-- The array holds these units, with nulls behind them. -/
def Holds (wstr : WString LEN) (content : List UInt16) : Prop :=
  wstr.units.toList = padded 0 LEN content

theorem holds_new : Holds (new : WString LEN) [] := by
  rw [Holds, new, padded_nil, Vector.toList_replicate]

/-- Writing a unit behind the content adds it. -/
theorem Holds.set {wstr : WString LEN} {content : List UInt16} (holds : Holds wstr content)
    (unit : UInt16) (room : content.length < LEN) :
    Holds { wstr with units := wstr.units.set content.length unit room }
      (content ++ [unit]) := by
  rw [Holds] at holds ⊢
  rw [Vector.toList_set, holds, set_padded room]

/-- All units are written if they have room. -/
theorem Holds.writeUnits {wstr : WString LEN} {content : List UInt16}
    (holds : Holds wstr content) {units : List UInt16}
    (fits : content.length + units.length ≤ LEN) :
    ∃ written, WString.writeUnits content.length units wstr = .ok written ∧
      Holds written (content ++ units) := by
  induction units generalizing wstr content with
  | nil => exact ⟨wstr, rfl, by rwa [List.append_nil]⟩
  | cons unit units ih =>
      rw [List.length_cons] at fits
      have room : content.length < LEN := by omega
      have next := @ih _ (content ++ [unit]) (holds.set unit room) (by simp; omega)
      rw [List.length_append, List.length_singleton, List.append_assoc,
        List.singleton_append] at next
      rw [WString.writeUnits, dif_pos room]
      exact next

/-- The first unit without room ends the loop. -/
theorem writeUnits_of_long {i : Nat} {units : List UInt16} (within : i ≤ LEN)
    (long : LEN < i + units.length) (wstr : WString LEN) :
    writeUnits i units wstr = .error () := by
  induction units generalizing i wstr with
  | nil =>
      rw [List.length_nil] at long
      omega
  | cons unit units ih =>
      rw [List.length_cons] at long
      rw [writeUnits]
      split
      · rename_i room
        exact ih room (by omega) _
      · rfl

/-! ## What is read -/

variable {wstr : WString LEN} {content : List UInt16}

theorem Holds.len_eq (holds : Holds wstr content) (clean : 0 ∉ content) :
    wstr.len = content.length := by
  rw [len, holds, lengthToNull_padded clean]

theorem Holds.asSlice_eq (holds : Holds wstr content) (clean : 0 ∉ content) :
    wstr.asSlice = content := by
  rw [asSlice, len, take_lengthToNull, holds, takeWhile_padded clean]

/-- Units that encode a text are read as that text. -/
theorem Holds.tryIntoString_eq {text : String} (holds : Holds wstr (encodeUtf16 text))
    (clean : 0 ∉ encodeUtf16 text) : wstr.tryIntoString = .ok text := by
  rw [tryIntoString, holds, takeWhile_padded clean, decodeUtf16_encodeUtf16, collect_map_ok]
  exact congrArg Except.ok String.ofList_toList

/-- A text is converted exactly if its units fit, and then they are what is held. -/
theorem tryFrom_eq_ok_iff {text : String} :
    (∃ wstr : WString LEN, tryFrom text = .ok wstr) ↔ (encodeUtf16 text).length ≤ LEN := by
  constructor
  · rintro ⟨wstr, made⟩
    by_contra long
    have failed := @writeUnits_of_long LEN 0 (encodeUtf16 text) (Nat.zero_le LEN) (by omega) new
    rw [tryFrom, failed] at made
    contradiction
  · intro fits
    obtain ⟨wstr, made, -⟩ := @Holds.writeUnits LEN new [] holds_new (encodeUtf16 text) (by simpa)
    exact ⟨wstr, made⟩

theorem holds_of_tryFrom {text : String} (made : tryFrom text = .ok wstr) :
    Holds wstr (encodeUtf16 text) := by
  have fits := tryFrom_eq_ok_iff.mp ⟨wstr, made⟩
  obtain ⟨written, same, holds⟩ :=
    @Holds.writeUnits LEN new [] holds_new (encodeUtf16 text) (by simpa)
  cases made.symm.trans same
  exact holds

/-- Wide strings round-trip: a text without null characters is converted exactly if its code
units fit, and what is made gives back the text, has its length, and equals exactly this
text and the wide strings made from it. -/
theorem tryFrom_roundTrips (text : String) (clean : '\x00' ∉ text.toList) :
    ((∃ wstr : WString LEN, tryFrom text = .ok wstr) ↔ (encodeUtf16 text).length ≤ LEN) ∧
      ∀ wstr : WString LEN, tryFrom text = .ok wstr →
        wstr.tryIntoString = .ok text ∧ wstr.len = (encodeUtf16 text).length ∧
          (∀ other : String, wstr.eqStr other = true ↔ other = text) ∧
          ∀ (other : String) (made : WString LEN), '\x00' ∉ other.toList →
            tryFrom other = .ok made → (wstr.eq made = true ↔ text = other) := by
  have units : 0 ∉ encodeUtf16 text := fun member =>
    clean ((zero_mem_encodeUtf16_iff text).mp member)
  refine ⟨tryFrom_eq_ok_iff, fun wstr same => ?_⟩
  have holds := holds_of_tryFrom same
  refine ⟨holds.tryIntoString_eq units, holds.len_eq units, ?_, ?_⟩
  · intro other
    rw [eqStr, holds.asSlice_eq units, beq_iff_eq, encodeUtf16_injective.eq_iff, eq_comm]
  · intro other made otherClean otherSame
    have otherUnits : 0 ∉ encodeUtf16 other := fun member =>
      otherClean ((zero_mem_encodeUtf16_iff other).mp member)
    rw [eq, holds.asSlice_eq units, (holds_of_tryFrom otherSame).asSlice_eq otherUnits,
      beq_iff_eq, encodeUtf16_injective.eq_iff]

/-- A letter and a pair of surrogates that ends with the array; in an array with one unit
less the pair is cut, and there is no wide string. -/
theorem tryFrom_pair_roundTrips :
    ((∃ wstr : WString 3, tryFrom "a😀" = .ok wstr ∧ wstr.tryIntoString = .ok "a😀") ∧
      ¬∃ wstr : WString 2, tryFrom "a😀" = .ok wstr) := by
  have clean : '\x00' ∉ "a😀".toList := by decide
  have three := @tryFrom_roundTrips 3 "a😀" clean
  have two := @tryFrom_roundTrips 2 "a😀" clean
  constructor
  · obtain ⟨wstr, made⟩ := three.1.mpr (by decide)
    exact ⟨wstr, made, (three.2 wstr made).1⟩
  · intro made
    exact absurd (two.1.mp made) (by decide)

end WString

end Ads.Strings
