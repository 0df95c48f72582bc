import Mathlib.Data.List.Basic

/-!
# UTF-16

Text as a row of 16-bit code units.  A character from `0x10000` on takes two
units, a pair of surrogates.  The decoder looks at one unit after the other and
gives an error for a surrogate that is not half of a pair; the units of a text
decode to its characters, so that the encoding is injective.
-/

namespace Ads.Text

/-- The code units of a character. -/
def utf16Units (char : Char) : List UInt16 :=
  if char.toNat < 0x10000 then [UInt16.ofNat char.toNat]
  else [UInt16.ofNat (0xD800 + (char.toNat - 0x10000) / 0x400),
    UInt16.ofNat (0xDC00 + (char.toNat - 0x10000) % 0x400)]

/-- The code units of a text. -/
def encodeUtf16 (text : String) : List UInt16 :=
  text.toList.flatMap utf16Units

/-- A unit that is half of a pair. -/
def isSurrogate (unit : UInt16) : Bool :=
  0xD800 ≤ unit.toNat && unit.toNat < 0xE000

/-- Two units that are a pair, the high half in front. -/
def isPair (high low : UInt16) : Bool :=
  0xD800 ≤ high.toNat && high.toNat < 0xDC00 && 0xDC00 ≤ low.toNat && low.toNat < 0xE000

/-- The character of a pair. -/
def pairChar (high low : UInt16) : Char :=
  Char.ofNat (0x10000 + (high.toNat - 0xD800) * 0x400 + (low.toNat - 0xDC00))

/-- Decode unit after unit.  Behind an unpaired surrogate, which is its own error, the
decoder goes on with the next unit. -/
def decodeUtf16 : List UInt16 → List (Except UInt16 Char)
  | [] => []
  | [unit] => [if isSurrogate unit then .error unit else .ok (Char.ofNat unit.toNat)]
  | unit :: next :: rest =>
      if !isSurrogate unit then .ok (Char.ofNat unit.toNat) :: decodeUtf16 (next :: rest)
      else if isPair unit next then .ok (pairChar unit next) :: decodeUtf16 rest
      else .error unit :: decodeUtf16 (next :: rest)

/-- The values of a row of results, or the first error. -/
def collect {ε α : Type} : List (Except ε α) → Except ε (List α)
  | [] => .ok []
  | .ok value :: results => (collect results).map (value :: ·)
  | .error error :: _ => .error error

theorem collect_map_ok {ε α : Type} (values : List α) :
    collect (values.map Except.ok : List (Except ε α)) = .ok values := by
  induction values with
  | nil => rfl
  | cons value values ih =>
      rw [List.map_cons, collect, ih]
      rfl

/-! ## Characters of one unit and of two -/

/-- A unit that is no surrogate is a character by itself. -/
theorem decodeUtf16_cons {unit : UInt16} (single : isSurrogate unit = false)
    (rest : List UInt16) :
    decodeUtf16 (unit :: rest) = .ok (Char.ofNat unit.toNat) :: decodeUtf16 rest := by
  cases rest with
  | nil => simp [decodeUtf16, single]
  | cons next rest => simp [decodeUtf16, single]

theorem decodeUtf16_pair {high low : UInt16} (paired : isPair high low = true)
    (rest : List UInt16) :
    decodeUtf16 (high :: low :: rest) = .ok (pairChar high low) :: decodeUtf16 rest := by
  have surrogate : isSurrogate high = true := by
    simp only [isPair, isSurrogate, Bool.and_eq_true, decide_eq_true_eq] at paired ⊢
    omega
  simp [decodeUtf16, surrogate, paired]

/-- No character has the number of a surrogate. -/
theorem toNat_valid (char : Char) :
    char.toNat < 0xD800 ∨ 0xDFFF < char.toNat ∧ char.toNat < 0x110000 :=
  char.valid

theorem utf16Units_of_small {char : Char} (small : char.toNat < 0x10000) :
    utf16Units char = [UInt16.ofNat char.toNat] :=
  if_pos small

theorem toNat_utf16Unit {value : Nat} (small : value < 0x10000) :
    (UInt16.ofNat value).toNat = value :=
  UInt16.toNat_ofNat_of_lt' small

/-- From `0x10000` on, the number of a character is in the two halves of a pair. -/
theorem utf16Units_of_large {char : Char} (large : ¬char.toNat < 0x10000) :
    ∃ high low : UInt16, utf16Units char = [high, low] ∧
      high.toNat = 0xD800 + (char.toNat - 0x10000) / 0x400 ∧
        low.toNat = 0xDC00 + (char.toNat - 0x10000) % 0x400 := by
  have valid := toNat_valid char
  exact ⟨_, _, if_neg large, toNat_utf16Unit (by omega), toNat_utf16Unit (by omega)⟩

/-- The units of a character, in front of others, decode to it. -/
theorem decodeUtf16_utf16Units_append (char : Char) (rest : List UInt16) :
    decodeUtf16 (utf16Units char ++ rest) = .ok char :: decodeUtf16 rest := by
  have valid := toNat_valid char
  by_cases small : char.toNat < 0x10000
  · have number := toNat_utf16Unit small
    have single : isSurrogate (UInt16.ofNat char.toNat) = false := by
      rw [isSurrogate, number]
      simp only [Bool.and_eq_false_iff, decide_eq_false_iff_not]
      omega
    rw [utf16Units_of_small small, List.singleton_append, decodeUtf16_cons single, number,
      Char.ofNat_toNat]
  · obtain ⟨high, low, units, highNumber, lowNumber⟩ := utf16Units_of_large small
    have paired : isPair high low = true := by
      rw [isPair, highNumber, lowNumber]
      simp only [Bool.and_eq_true, decide_eq_true_eq]
      omega
    have joined : 0x10000 + (high.toNat - 0xD800) * 0x400 + (low.toNat - 0xDC00) =
        char.toNat := by
      omega
    rw [units, List.cons_append, List.singleton_append, decodeUtf16_pair paired, pairChar,
      joined, Char.ofNat_toNat]

/-! ## Whole texts -/

theorem decodeUtf16_flatMap (chars : List Char) :
    decodeUtf16 (chars.flatMap utf16Units) = chars.map Except.ok := by
  induction chars with
  | nil => rfl
  | cons char chars ih =>
      rw [List.flatMap_cons, decodeUtf16_utf16Units_append, ih, List.map_cons]

/-- The units of a text decode to its characters. -/
theorem decodeUtf16_encodeUtf16 (text : String) :
    decodeUtf16 (encodeUtf16 text) = text.toList.map Except.ok :=
  decodeUtf16_flatMap text.toList

theorem encodeUtf16_injective : Function.Injective encodeUtf16 := by
  intro first second same
  have decoded := congrArg decodeUtf16 same
  rw [decodeUtf16_encodeUtf16, decodeUtf16_encodeUtf16] at decoded
  have okInjective : Function.Injective (Except.ok : Char → Except UInt16 Char) :=
    fun _ _ => Except.ok.inj
  exact String.toList_inj.mp (List.map_injective_iff.mpr okInjective decoded)

/-- Only the null character has a null unit. -/
theorem zero_mem_utf16Units_iff (char : Char) : 0 ∈ utf16Units char ↔ char = '\x00' := by
  by_cases small : char.toNat < 0x10000
  · rw [utf16Units_of_small small, List.mem_singleton, eq_comm, ← UInt16.toNat_inj,
      toNat_utf16Unit small, ← Char.toNat_inj]
    rfl
  · obtain ⟨high, low, units, highNumber, lowNumber⟩ := utf16Units_of_large small
    have zero : (0 : UInt16).toNat = 0 := rfl
    have null : ('\x00' : Char).toNat = 0 := rfl
    rw [units, List.mem_pair, ← UInt16.toNat_inj, ← UInt16.toNat_inj, ← Char.toNat_inj, zero,
      null]
    omega

theorem zero_mem_encodeUtf16_iff (text : String) :
    0 ∈ encodeUtf16 text ↔ '\x00' ∈ text.toList := by
  simp only [encodeUtf16, List.mem_flatMap, zero_mem_utf16Units_iff, exists_eq_right]

end Ads.Text
