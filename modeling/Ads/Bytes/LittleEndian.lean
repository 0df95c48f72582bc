import Mathlib.Tactic.Ring
import Mathlib.Tactic.NormNum

/-!
# Little-endian numbers

A number below `256 ^ width` is written as exactly `width` bytes, least
significant byte first.  The fixed-width unsigned types are read and written
through this one pair of maps.
-/

namespace Ads.Bytes

/-- The `width` low bytes of `value`, least significant first. -/
def leBytes : Nat → Nat → List UInt8
  | 0, _ => []
  | width + 1, value => UInt8.ofNat value :: leBytes width (value / 256)

/-- The number whose little-endian bytes are given. -/
def leValue : List UInt8 → Nat
  | [] => 0
  | byte :: bytes => byte.toNat + 256 * leValue bytes

@[simp]
theorem leBytes_zero (value : Nat) : leBytes 0 value = [] :=
  rfl

@[simp]
theorem leValue_nil : leValue [] = 0 :=
  rfl

@[simp]
theorem length_leBytes (width value : Nat) : (leBytes width value).length = width := by
  induction width generalizing value with
  | zero => rfl
  | succ width ih => simp [leBytes, ih]

theorem leValue_lt (bytes : List UInt8) : leValue bytes < 256 ^ bytes.length := by
  induction bytes with
  | nil => simp
  | cons byte bytes ih =>
      have byteLt : byte.toNat < 256 := byte.toNat_lt
      simp only [leValue, List.length_cons, pow_succ]
      omega

/-- Reading back what was written keeps the number modulo its width. -/
theorem leValue_leBytes (width value : Nat) :
    leValue (leBytes width value) = value % 256 ^ width := by
  induction width generalizing value with
  | zero => simp [Nat.mod_one]
  | succ width ih =>
      have lowByte : (UInt8.ofNat value).toNat = value % 256 := by simp
      rw [leBytes, leValue, ih, lowByte, pow_succ', Nat.mod_mul]

theorem leValue_leBytes_of_lt {width value : Nat} (bound : value < 256 ^ width) :
    leValue (leBytes width value) = value := by
  rw [leValue_leBytes, Nat.mod_eq_of_lt bound]

/-- Every byte list is the encoding of its own value at its own width. -/
theorem leBytes_leValue (bytes : List UInt8) :
    leBytes bytes.length (leValue bytes) = bytes := by
  induction bytes with
  | nil => rfl
  | cons byte bytes ih =>
      have byteLt : byte.toNat < 256 := byte.toNat_lt
      have quotient : (byte.toNat + 256 * leValue bytes) / 256 = leValue bytes := by omega
      have remainder : UInt8.ofNat (byte.toNat + 256 * leValue bytes) = byte := by
        apply UInt8.toNat_inj.mp
        rw [UInt8.toNat_ofNat']
        omega
      rw [List.length_cons, leBytes, leValue, quotient, remainder, ih]

/-! ## Fixed-width unsigned types -/

/-- The two bytes of a 16-bit word. -/
def u16Bytes (value : UInt16) : List UInt8 :=
  leBytes 2 value.toNat

/-- The four bytes of a 32-bit word. -/
def u32Bytes (value : UInt32) : List UInt8 :=
  leBytes 4 value.toNat

/-- The eight bytes of a 64-bit word. -/
def u64Bytes (value : UInt64) : List UInt8 :=
  leBytes 8 value.toNat

@[simp]
theorem length_u16Bytes (value : UInt16) : (u16Bytes value).length = 2 :=
  length_leBytes 2 value.toNat

@[simp]
theorem length_u32Bytes (value : UInt32) : (u32Bytes value).length = 4 :=
  length_leBytes 4 value.toNat

@[simp]
theorem length_u64Bytes (value : UInt64) : (u64Bytes value).length = 8 :=
  length_leBytes 8 value.toNat

@[simp]
theorem leValue_u16Bytes (value : UInt16) : leValue (u16Bytes value) = value.toNat :=
  leValue_leBytes_of_lt value.toNat_lt

@[simp]
theorem leValue_u32Bytes (value : UInt32) : leValue (u32Bytes value) = value.toNat :=
  leValue_leBytes_of_lt value.toNat_lt

@[simp]
theorem leValue_u64Bytes (value : UInt64) : leValue (u64Bytes value) = value.toNat :=
  leValue_leBytes_of_lt value.toNat_lt

/-- The 16-bit word at the front of a slice. -/
def leU16 (bytes : List UInt8) : UInt16 :=
  UInt16.ofNat (leValue (bytes.take 2))

/-- The 32-bit word at the front of a slice. -/
def leU32 (bytes : List UInt8) : UInt32 :=
  UInt32.ofNat (leValue (bytes.take 4))

@[simp]
theorem leU16_u16Bytes_append (value : UInt16) (rest : List UInt8) :
    leU16 (u16Bytes value ++ rest) = value := by
  rw [leU16, List.take_left' (length_u16Bytes value), leValue_u16Bytes, UInt16.ofNat_toNat]

@[simp]
theorem leU32_u32Bytes_append (value : UInt32) (rest : List UInt8) :
    leU32 (u32Bytes value ++ rest) = value := by
  rw [leU32, List.take_left' (length_u32Bytes value), leValue_u32Bytes, UInt32.ofNat_toNat]

/-- Missing bytes at the end count as zeros. -/
theorem leValue_append_zeros (bytes : List UInt8) (count : Nat) :
    leValue (bytes ++ List.replicate count 0) = leValue bytes := by
  induction bytes with
  | nil =>
      rw [List.nil_append]
      induction count with
      | zero => rfl
      | succ count ih => simp [List.replicate_succ, leValue, ih]
  | cons byte bytes ih => rw [List.cons_append, leValue, leValue, ih]

theorem leU32_append_zeros (bytes : List UInt8) (count : Nat) :
    leU32 (bytes ++ List.replicate count 0) = leU32 bytes := by
  rw [leU32, leU32, List.take_append, List.take_replicate, leValue_append_zeros]

/-- Only the front of the bytes counts. -/
theorem leU32_take {count : Nat} (bytes : List UInt8) (enough : 4 ≤ count) :
    leU32 (bytes.take count) = leU32 bytes := by
  rw [leU32, leU32, List.take_take, Nat.min_eq_left enough]

theorem u16Bytes_leValue {bytes : List UInt8} (size : bytes.length = 2) :
    u16Bytes (UInt16.ofNat (leValue bytes)) = bytes := by
  have bound := leValue_lt bytes
  rw [size] at bound
  rw [u16Bytes, UInt16.toNat_ofNat_of_lt' (by simpa using bound), ← size, leBytes_leValue]

theorem u32Bytes_leValue {bytes : List UInt8} (size : bytes.length = 4) :
    u32Bytes (UInt32.ofNat (leValue bytes)) = bytes := by
  have bound := leValue_lt bytes
  rw [size] at bound
  rw [u32Bytes, UInt32.toNat_ofNat_of_lt' (by simpa using bound), ← size, leBytes_leValue]

theorem u64Bytes_leValue {bytes : List UInt8} (size : bytes.length = 8) :
    u64Bytes (UInt64.ofNat (leValue bytes)) = bytes := by
  have bound := leValue_lt bytes
  rw [size] at bound
  rw [u64Bytes, UInt64.toNat_ofNat_of_lt' (by simpa using bound), ← size, leBytes_leValue]

/-! ## Signed numbers -/

/-- The `width` bytes of `value` in two's complement. -/
def intBytes (width : Nat) (value : Int) : List UInt8 :=
  leBytes width (value % 256 ^ width).toNat

/-- The number whose bytes in two's complement are given. -/
def leInt (bytes : List UInt8) : Int :=
  if 2 * leValue bytes < 256 ^ bytes.length then leValue bytes
  else leValue bytes - 256 ^ bytes.length

@[simp]
theorem length_intBytes (width : Nat) (value : Int) : (intBytes width value).length = width :=
  length_leBytes width _

/-- Reading the bytes as an unsigned number gives the value modulo the width. -/
theorem leValue_intBytes (width : Nat) (value : Int) :
    (leValue (intBytes width value) : Int) = value % 256 ^ width := by
  have positive : (0 : Int) < 256 ^ width := by positivity
  have nonneg := Int.emod_nonneg value positive.ne'
  have below : (value % 256 ^ width).toNat < 256 ^ width := by
    rw [Int.toNat_lt nonneg]
    push_cast
    exact Int.emod_lt_of_pos value positive
  rw [intBytes, leValue_leBytes_of_lt below, Int.toNat_of_nonneg nonneg]

theorem leValue_intBytes_of_nonneg {width : Nat} {value : Int} (nonneg : 0 ≤ value)
    (bound : value < 256 ^ width) : (leValue (intBytes width value) : Int) = value := by
  rw [leValue_intBytes, Int.emod_eq_of_lt nonneg bound]

/-- A number within the signed range of its width is read back. -/
theorem leInt_intBytes {width : Nat} {value : Int} (low : -(256 ^ width) ≤ 2 * value)
    (high : 2 * value < 256 ^ width) : leInt (intBytes width value) = value := by
  have unsigned := leValue_intBytes width value
  have size : (256 : Int) ^ width = ((256 ^ width : Nat) : Int) := by push_cast; rfl
  rw [leInt, length_intBytes]
  by_cases negative : value < 0
  · have wrapped : value % 256 ^ width = value + 256 ^ width := by
      rw [← Int.add_emod_right, Int.emod_eq_of_lt (by omega) (by omega)]
    rw [wrapped] at unsigned
    rw [if_neg (by omega), unsigned]
    omega
  · have same : value % 256 ^ width = value := Int.emod_eq_of_lt (by omega) (by omega)
    rw [same] at unsigned
    rw [if_pos (by omega), unsigned]

end Ads.Bytes
