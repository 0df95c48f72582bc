import Mathlib.Data.List.Basic

/-!
# Decimal numbers

Unsigned numbers below a bound as text: one or more digits, with a plus sign in
front if one likes, and leading zeros.  What is printed has neither and is
parsed as the number that it was.
-/

namespace Ads.Text

/-- The value of a digit. -/
def digitValue (char : Char) : Nat :=
  char.toNat - '0'.toNat

/-- The number that these digits make behind a value.  No value on the way may reach the
bound. -/
def parseDigits (bound : Nat) : List Char → Nat → Option Nat
  | [], value => some value
  | char :: chars, value =>
      if char.isDigit ∧ 10 * value + digitValue char < bound then
        parseDigits bound chars (10 * value + digitValue char)
      else none

/-- Parse an unsigned number below the bound. -/
def parseUnsigned (bound : Nat) (text : String) : Option Nat :=
  match text.toList with
  | [] => none
  | ['+'] => none
  | '+' :: digits => parseDigits bound digits 0
  | digits => parseDigits bound digits 0

/-- Parse an octet. -/
def parseU8 (text : String) : Option UInt8 :=
  (parseUnsigned 256 text).map UInt8.ofNat

/-- Parse a 16-bit word. -/
def parseU16 (text : String) : Option UInt16 :=
  (parseUnsigned 65536 text).map UInt16.ofNat

/-- Digits only make a value larger. -/
theorem le_ofDigitChars (chars : List Char) (value : Nat) :
    value ≤ Nat.ofDigitChars 10 chars value := by
  induction chars generalizing value with
  | nil => simp
  | cons char chars ih =>
      have next := ih (10 * value + digitValue char)
      rw [Nat.ofDigitChars_cons]
      exact Nat.le_trans (by omega) next

/-- Digits are parsed exactly if the number they make is below the bound. -/
theorem parseDigits_eq_some_iff {bound value number : Nat} {chars : List Char}
    (below : value < bound) :
    parseDigits bound chars value = some number ↔
      (∀ char ∈ chars, char.isDigit) ∧ number = Nat.ofDigitChars 10 chars value ∧
        number < bound := by
  induction chars generalizing value with
  | nil =>
      rw [parseDigits, Nat.ofDigitChars_nil, Option.some.injEq]
      constructor
      · rintro rfl
        exact ⟨List.forall_mem_nil _, rfl, below⟩
      · rintro ⟨-, rfl, -⟩
        rfl
  | cons char chars ih =>
      rw [parseDigits, Nat.ofDigitChars_cons, List.forall_mem_cons]
      split
      · rename_i digit
        rw [ih digit.2, and_iff_right digit.1]
        rfl
      · rename_i refused
        constructor
        · intro none
          contradiction
        · rintro ⟨⟨digit, -⟩, rfl, fits⟩
          have next := le_ofDigitChars chars (10 * value + digitValue char)
          exact absurd ⟨digit, Nat.lt_of_le_of_lt next fits⟩ refused

/-- A number is parsed exactly from its digits, with or without a plus sign. -/
theorem parseUnsigned_eq_some_iff {bound number : Nat} {text : String} (positive : 0 < bound) :
    parseUnsigned bound text = some number ↔
      ∃ digits : List Char, (text.toList = digits ∨ text.toList = '+' :: digits) ∧
        digits ≠ [] ∧ (∀ char ∈ digits, char.isDigit) ∧
          number = Nat.ofDigitChars 10 digits 0 ∧ number < bound := by
  have plus : ¬ '+'.isDigit = true := by decide
  rw [parseUnsigned]
  generalize text.toList = chars
  split
  · simp
  · constructor
    · intro none
      contradiction
    · rintro ⟨digits, rfl | alone, filled, allDigits, -⟩
      · exact absurd (allDigits '+' List.mem_cons_self) plus
      · exact absurd (List.cons.inj alone).2.symm filled
  · rename_i digits notAlone
    rw [parseDigits_eq_some_iff positive]
    constructor
    · rintro ⟨allDigits, number⟩
      exact ⟨digits, Or.inr rfl, fun none => notAlone (by rw [none]), allDigits, number⟩
    · rintro ⟨others, rfl | behind, -, allDigits, number⟩
      · exact absurd (allDigits '+' List.mem_cons_self) plus
      · obtain ⟨-, rfl⟩ := List.cons.inj behind
        exact ⟨allDigits, number⟩
  · rename_i filled _ unsigned
    rw [parseDigits_eq_some_iff positive]
    constructor
    · rintro ⟨allDigits, number⟩
      exact ⟨chars, Or.inl rfl, filled, allDigits, number⟩
    · rintro ⟨digits, rfl | signed, -, allDigits, number⟩
      · exact ⟨allDigits, number⟩
      · exact absurd signed (unsigned digits)

/-- What is printed is parsed as the number that it was. -/
theorem parseUnsigned_toString {bound number : Nat} (below : number < bound) :
    parseUnsigned bound (toString number) = some number := by
  rw [parseUnsigned_eq_some_iff (Nat.zero_lt_of_lt below), Nat.toString_eq_repr, Nat.toList_repr]
  refine ⟨Nat.toDigits 10 number, Or.inl rfl, Nat.toDigits_ne_nil, ?_,
    Nat.ofDigitChars_ten_toDigits.symm, below⟩
  intro char member
  exact Nat.isDigit_of_mem_toDigits (by decide) (by decide) member

/-- A character that is neither a digit nor a plus sign is not in a number. -/
theorem not_mem_of_parseUnsigned {bound number : Nat} {text : String}
    (parsed : parseUnsigned bound text = some number) (positive : 0 < bound) (char : Char)
    (other : ¬char.isDigit) (unsigned : char ≠ '+') : char ∉ text.toList := by
  obtain ⟨digits, same | same, -, allDigits, -⟩ :=
    (parseUnsigned_eq_some_iff positive).mp parsed
  · rw [same]
    exact fun member => other (allDigits char member)
  · rw [same, List.mem_cons]
    rintro (rfl | member)
    · exact unsigned rfl
    · exact other (allDigits char member)

/-! ## Octets and words -/

theorem parseU8_toString (byte : UInt8) : parseU8 (toString byte.toNat) = some byte := by
  rw [parseU8, parseUnsigned_toString byte.toNat_lt, Option.map_some, UInt8.ofNat_toNat]

theorem parseU16_toString (word : UInt16) : parseU16 (toString word.toNat) = some word := by
  rw [parseU16, parseUnsigned_toString word.toNat_lt, Option.map_some, UInt16.ofNat_toNat]

theorem not_mem_of_parseU8 {text : String} {byte : UInt8} (parsed : parseU8 text = some byte)
    (char : Char) (other : ¬char.isDigit) (unsigned : char ≠ '+') : char ∉ text.toList := by
  obtain ⟨number, parsed, -⟩ := Option.map_eq_some_iff.mp parsed
  exact not_mem_of_parseUnsigned parsed (by decide) char other unsigned

theorem not_mem_of_parseU16 {text : String} {word : UInt16} (parsed : parseU16 text = some word)
    (char : Char) (other : ¬char.isDigit) (unsigned : char ≠ '+') : char ∉ text.toList := by
  obtain ⟨number, parsed, -⟩ := Option.map_eq_some_iff.mp parsed
  exact not_mem_of_parseUnsigned parsed (by decide) char other unsigned

end Ads.Text
