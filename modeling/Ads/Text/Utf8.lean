import Mathlib.Data.List.Basic

/-!
# Lossy UTF-8

Text from bytes that need not be valid UTF-8: every maximal malformed sequence
becomes one replacement character.  Bytes that encode a text decode to it.
-/

namespace Ads.Text

/-- The bytes of a text. -/
def utf8Bytes (text : String) : List UInt8 :=
  text.toList.flatMap String.utf8EncodeChar

/-- The character whose encoding the bytes begin with. -/
def firstChar (bytes : List UInt8) : Option Char :=
  (bytes.take 4).toByteArray.utf8DecodeChar? 0

/-- A byte that continues a sequence. -/
def isContinuation (byte : UInt8) : Bool :=
  byte &&& 0xC0 == 0x80

/-- Whether the second byte may follow the first one in a well-formed sequence. -/
def mayFollow (first second : UInt8) : Bool :=
  if first < 0xC2 then false
  else if first == 0xE0 then 0xA0 ≤ second && second ≤ 0xBF
  else if first == 0xED then 0x80 ≤ second && second ≤ 0x9F
  else if first == 0xF0 then 0x90 ≤ second && second ≤ 0xBF
  else if first == 0xF4 then 0x80 ≤ second && second ≤ 0x8F
  else if first ≤ 0xF3 then isContinuation second
  else false

/-- The length of the malformed sequence at the front: the bytes up to the first one
that cannot continue a character. -/
def malformedLength : List UInt8 → Nat
  | first :: second :: third :: _ =>
      if !mayFollow first second then 1
      else if !isContinuation third then 2
      else 3
  | [first, second] => if !mayFollow first second then 1 else 2
  | _ => 1

/-- Decode up to `fuel` characters, with a replacement for each malformed sequence. -/
def lossyChars : Nat → List UInt8 → List Char
  | 0, _ => []
  | _ + 1, [] => []
  | fuel + 1, bytes =>
      match firstChar bytes with
      | some char => char :: lossyChars fuel (bytes.drop char.utf8Size)
      | none => '\uFFFD' :: lossyChars fuel (bytes.drop (malformedLength bytes))

/-- The text of bytes, malformed sequences replaced.  Each step consumes a byte at
least. -/
def fromUtf8Lossy (bytes : List UInt8) : String :=
  String.ofList (lossyChars bytes.length bytes)

theorem firstChar_append (char : Char) (rest : List UInt8) :
    firstChar (String.utf8EncodeChar char ++ rest) = some char := by
  have size : (String.utf8EncodeChar char).length ≤ 4 := by
    rw [String.length_utf8EncodeChar]
    exact char.utf8Size_le_four
  rw [firstChar, List.take_append, List.take_of_length_le size, List.toByteArray_append,
    ByteArray.utf8DecodeChar?_utf8EncodeChar_append]

theorem lossyChars_flatMap {fuel : Nat} {chars : List Char}
    (enough : (chars.flatMap String.utf8EncodeChar).length ≤ fuel) :
    lossyChars fuel (chars.flatMap String.utf8EncodeChar) = chars := by
  induction chars generalizing fuel with
  | nil => cases fuel <;> rfl
  | cons char chars ih =>
      have size : (String.utf8EncodeChar char).length = char.utf8Size :=
        String.length_utf8EncodeChar char
      have positive : 0 < char.utf8Size := char.utf8Size_pos
      rw [List.flatMap_cons, List.length_append, size] at enough
      cases fuel with
      | zero => omega
      | succ fuel =>
          cases bytes : String.utf8EncodeChar char with
          | nil =>
              rw [bytes] at size
              simp at size
              omega
          | cons byte others =>
              rw [List.flatMap_cons, bytes, List.cons_append, lossyChars, ← List.cons_append,
                ← bytes, firstChar_append]
              dsimp only
              rw [← size, List.drop_left, ih (by omega)]
              simp

/-- Decoding the bytes of a text returns it. -/
@[simp]
theorem fromUtf8Lossy_utf8Bytes (text : String) : fromUtf8Lossy (utf8Bytes text) = text := by
  rw [fromUtf8Lossy, utf8Bytes, lossyChars_flatMap (Nat.le_refl _), String.ofList_toList]

/-- The text of bytes that are valid UTF-8. -/
def fromUtf8 (bytes : List UInt8) : Option String :=
  String.fromUTF8? bytes.toByteArray

@[simp]
theorem fromUtf8_utf8Bytes (text : String) : fromUtf8 (utf8Bytes text) = some text := by
  have same : (utf8Bytes text).toByteArray = text.toByteArray := by
    rw [utf8Bytes, ← String.utf8Encode_toList]
    rfl
  rw [fromUtf8, same, String.fromUTF8?, dif_pos text.isValidUTF8]
  rfl

end Ads.Text
