import Ads.Bytes.Reader
import Ads.Bytes.Window

/-!
# Reading words at positions

A reader of a fixed number of bytes that stands at some position of a slice reads
the window there and stands behind it.  A slice is cut into chunks of one size,
front to back.
-/

namespace Ads.Bytes

open Ads.Control

universe u v

namespace Reader

variable {ε : Type u} {α β : Type}

/-- The reader takes `count` bytes, if there are as many, and decodes them. -/
def ReadsWord (reader : Reader ε α) (count : Nat) (decode : List UInt8 → α) : Prop :=
  ∀ input, count ≤ input.length → reader input = .ok (decode (input.take count), input.drop count)

/-- A reader of a word reads the window where it stands. -/
theorem ReadsWord.run_drop {reader : Reader ε α} {count : Nat} {decode : List UInt8 → α}
    (word : ReadsWord reader count decode) {input : List UInt8} {pos : Nat}
    (within : pos + count ≤ input.length) :
    reader (input.drop pos) = .ok (decode (window input pos count), input.drop (pos + count)) := by
  have enough : count ≤ (input.drop pos).length := by
    rw [List.length_drop]
    omega
  rw [word _ enough, List.drop_drop]
  rfl

theorem readsWord_take (eof : ε) (count : Nat) : ReadsWord (take eof count) count id := by
  intro input enough
  rw [take, if_pos enough]
  rfl

theorem ReadsWord.bind_pure {reader : Reader ε α} {count : Nat} {decode : List UInt8 → α}
    (word : ReadsWord reader count decode) (f : α → β) :
    ReadsWord (reader >>= fun value => pure (f value)) count fun bytes => f (decode bytes) := by
  intro input enough
  rw [bind_run_ok (word input enough)]
  rfl

theorem ReadsWord.expect {ε' : Type v} {reader : Reader ε' α} {count : Nat}
    {decode : List UInt8 → α} (word : ReadsWord reader count decode) :
    ReadsWord (Reader.expect reader : Reader ε α) count decode := by
  intro input enough
  rw [Reader.expect, word input enough]

theorem readsWord_u8 (eof : ε) : ReadsWord (u8 eof) 1 fun bytes => UInt8.ofNat (leValue bytes) :=
  (readsWord_take eof 1).bind_pure _

theorem readsWord_u16 (eof : ε) :
    ReadsWord (u16 eof) 2 fun bytes => UInt16.ofNat (leValue bytes) :=
  (readsWord_take eof 2).bind_pure _

theorem readsWord_u32 (eof : ε) :
    ReadsWord (u32 eof) 4 fun bytes => UInt32.ofNat (leValue bytes) :=
  (readsWord_take eof 4).bind_pure _

theorem readsWord_i64 (eof : ε) : ReadsWord (i64 eof) 8 leInt :=
  (readsWord_take eof 8).bind_pure _

end Reader

/-! ## Chunks -/

variable {ε : Type u} {α : Type}

/-- Cut a slice into chunks of exactly `size` elements; what is left at its end is dropped.
Chunks of no elements are a panic. -/
def chunksExact (size : Nat) (buf : List α) : Outcome ε (List (List α)) :=
  if size = 0 then .panic
  else .ok ((List.range (buf.length / size)).map fun k => window buf (k * size) size)

/-- A slice of `count` chunks is cut into these. -/
theorem chunksExact_eq {size count : Nat} {buf : List α} (positive : 0 < size)
    (whole : buf.length = count * size) :
    (chunksExact size buf : Outcome ε _) =
      .ok ((List.range count).map fun k => window buf (k * size) size) := by
  rw [chunksExact, if_neg (Nat.ne_of_gt positive), whole, Nat.mul_div_cancel count positive]

/-- The entries of a table over the first numbers. -/
theorem getElem?_map_range (f : Nat → α) (count k : Nat) :
    ((List.range count).map f)[k]? = if k < count then some (f k) else none := by
  rw [List.getElem?_map]
  split
  · rename_i inside
    rw [List.getElem?_range inside, Option.map_some]
  · rename_i outside
    have none : (List.range count)[k]? = none := by
      rw [List.getElem?_eq_none_iff, List.length_range]
      exact Nat.le_of_not_lt outside
    rw [none, Option.map_none]

end Ads.Bytes
