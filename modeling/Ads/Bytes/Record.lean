import Ads.Bytes.Reader

/-!
# Records with a length in front

A record that says its own length is read from exactly its bytes: the reader of
the content cannot run past them, and whatever it leaves of them is skipped.
-/

namespace Ads.Bytes

open Ads.Control

universe u

namespace Reader

variable {ε : Type u} {α β : Type}

/-- The result of a reader on a whole slice.  Bytes that are left over are ignored. -/
def runOn (reader : Reader ε α) (bytes : List UInt8) : Outcome ε α :=
  reader bytes >>= fun result => .ok result.1

/-- Split off `size` bytes and read from these alone. -/
def nested (size : Nat) (reader : Reader ε α) : Reader ε α := do
  let bytes ← splitAt size
  lift (reader.runOn bytes)

/-- Read a record whose length, in four bytes that count themselves, is in front of it.
A length below four is the error `invalid`. -/
def framed (eof : ε) (invalid : UInt32 → ε) (reader : Reader ε α) : Reader ε α := do
  let entryLen ← u32 eof
  if entryLen.toNat < 4 then fail (invalid entryLen)
  else nested (entryLen.toNat - 4) reader

/-- Read a section that is there only if its flag is set. -/
def optionally (present : Bool) (reader : Reader ε α) : Reader ε (Option α) :=
  if present then reader >>= fun value => pure (some value) else pure none

theorem runOn_eq_ok_iff {reader : Reader ε α} {bytes : List UInt8} {value : α} :
    reader.runOn bytes = .ok value ↔ ∃ rest, reader bytes = .ok (value, rest) := by
  rw [runOn, Outcome.bind_eq_ok_iff]
  constructor
  · rintro ⟨⟨read, rest⟩, ran, same⟩
    cases same
    exact ⟨rest, ran⟩
  · rintro ⟨rest, ran⟩
    exact ⟨(value, rest), ran, rfl⟩

theorem runOn_eq_raise_iff {reader : Reader ε α} {bytes : List UInt8}
    {failure : Outcome ε Empty} :
    reader.runOn bytes = .raise failure ↔ reader bytes = .raise failure := by
  rw [runOn, Outcome.bind_eq_raise_iff]
  constructor
  · rintro (failed | ⟨result, -, done⟩)
    · exact failed
    · exact absurd done (Outcome.ok_ne_raise _ failure)
  · exact Or.inl

theorem runOn_eq_panic_iff {reader : Reader ε α} {bytes : List UInt8} :
    reader.runOn bytes = .panic ↔ reader bytes = .panic :=
  @runOn_eq_raise_iff _ _ reader bytes .panic

theorem optionally_run_eq_raise_iff {reader : Reader ε α} {present : Bool}
    {input : List UInt8} {failure : Outcome ε Empty} :
    optionally present reader input = .raise failure ↔
      present = true ∧ reader input = .raise failure := by
  cases present with
  | false =>
      constructor
      · intro done
        exact absurd done (Outcome.ok_ne_raise _ failure)
      · rintro ⟨absent, -⟩
        contradiction
  | true =>
      rw [optionally, if_pos rfl, bind_run_eq_raise_iff]
      constructor
      · rintro (failed | ⟨value, rest, -, done⟩)
        · exact ⟨rfl, failed⟩
        · exact absurd done (Outcome.ok_ne_raise _ failure)
      · rintro ⟨-, failed⟩
        exact Or.inl failed

theorem optionally_run_eq_ok_iff {reader : Reader ε α} {present : Bool}
    {input rest : List UInt8} {value : α} :
    optionally present reader input = .ok (some value, rest) ↔
      present = true ∧ reader input = .ok (value, rest) := by
  cases present with
  | false =>
      constructor
      · intro done
        cases done
      · rintro ⟨absent, -⟩
        contradiction
  | true =>
      rw [optionally, if_pos rfl, bind_run_eq_ok_iff]
      constructor
      · rintro ⟨read, middle, ran, done⟩
        cases done
        exact ⟨rfl, ran⟩
      · rintro ⟨-, ran⟩
        exact ⟨value, rest, ran, rfl⟩

theorem optionally_run_eq_none_iff {reader : Reader ε α} {present : Bool}
    {input rest : List UInt8} :
    optionally present reader input = .ok (none, rest) ↔ present = false ∧ input = rest := by
  cases present with
  | false =>
      constructor
      · intro done
        cases done
        exact ⟨rfl, rfl⟩
      · rintro ⟨-, rfl⟩
        rfl
  | true =>
      rw [optionally, if_pos rfl, bind_run_eq_ok_iff]
      constructor
      · rintro ⟨read, middle, -, done⟩
        cases done
      · rintro ⟨absent, -⟩
        contradiction

theorem NeverPanics.optionally {reader : Reader ε α} (safe : NeverPanics reader)
    (present : Bool) : NeverPanics (Reader.optionally present reader) := by
  cases present with
  | false => exact NeverPanics.pure none
  | true => exact safe.bind fun _ => NeverPanics.pure _

/-- The reader takes `count` bytes of any input that has them, and fails on any other. -/
structure Fixed (reader : Reader ε α) (count : Nat) : Prop where
  reads : ∀ input, count ≤ input.length → ∃ value, reader input = .ok (value, input.drop count)
  enough : ∀ input value rest, reader input = .ok (value, rest) → count ≤ input.length

theorem Fixed.pure (value : α) : Fixed (Pure.pure value : Reader ε α) 0 where
  reads := fun _ _ => ⟨value, rfl⟩
  enough := fun input _ _ _ => Nat.zero_le input.length

theorem fixed_take (eof : ε) (count : Nat) : Fixed (take eof count) count where
  reads := fun input enough => ⟨input.take count, take_run eof enough⟩
  enough := by
    intro input value rest ran
    obtain ⟨size, rfl⟩ := take_eq_ok_iff.mp ran
    rw [List.length_append, size]
    exact Nat.le_add_right count _

theorem Fixed.bind {first : Reader ε α} {next : α → Reader ε β} {count more : Nat}
    (firstFixed : Fixed first count) (nextFixed : ∀ value, Fixed (next value) more) :
    Fixed (first >>= next) (count + more) where
  reads := by
    intro input enough
    obtain ⟨value, ran⟩ := firstFixed.reads input (Nat.le_of_add_right_le enough)
    have left : more ≤ (input.drop count).length := by
      rw [List.length_drop]
      exact Nat.le_sub_of_add_le' enough
    obtain ⟨result, nextRan⟩ := (nextFixed value).reads (input.drop count) left
    rw [List.drop_drop] at nextRan
    exact ⟨result, bind_run_eq_ok_iff.mpr ⟨value, input.drop count, ran, nextRan⟩⟩
  enough := by
    intro input result rest ran
    obtain ⟨value, middle, firstRan, nextRan⟩ := bind_run_eq_ok_iff.mp ran
    have there := firstFixed.enough input value middle firstRan
    obtain ⟨same, again⟩ := firstFixed.reads input there
    cases firstRan.symm.trans again
    have left := (nextFixed value).enough _ result rest nextRan
    rw [List.length_drop] at left
    omega

theorem Fixed.optionally {reader : Reader ε α} {count : Nat} (fixed : Fixed reader count)
    (present : Bool) : Fixed (Reader.optionally present reader) (if present then count else 0) := by
  cases present with
  | false => exact Fixed.pure none
  | true => exact fixed.bind fun value => Fixed.pure (some value)

theorem Reads.runOn {reader : Reader ε α} {bytes : List UInt8} {value : α}
    (reads : Reads reader bytes value) (rest : List UInt8) :
    reader.runOn (bytes ++ rest) = .ok value := by
  rw [Reader.runOn, reads rest]
  rfl

/-- A nested reader reads back a record, with whatever follows in it skipped. -/
theorem Reads.nested {reader : Reader ε α} {bytes : List UInt8} {value : α}
    (reads : Reads reader bytes value) (skipped : List UInt8) :
    Reads (Reader.nested (bytes ++ skipped).length reader) (bytes ++ skipped) value := by
  intro rest
  rw [Reader.nested, bind_run_ok (reads_splitAt (bytes ++ skipped) rest), lift,
    reads.runOn skipped]
  rfl

end Reader

/-- The bytes of a record behind its length. -/
def frame (content : List UInt8) : List UInt8 :=
  u32Bytes (UInt32.ofNat (content.length + 4)) ++ content

/-- A value whose record is short enough for its length field. -/
def Framed {α : Type} (encode : α → List UInt8) : Type :=
  { value : α // (encode value).length + 4 < 2 ^ 32 }

namespace Framed

variable {α : Type} {encode : α → List UInt8}

/-- The bytes of the record behind its length. -/
def bytes (framed : Framed encode) : List UInt8 :=
  frame (encode framed.val)

theorem four_le_length (framed : Framed encode) : 4 ≤ framed.bytes.length := by
  rw [bytes, frame, List.length_append, length_u32Bytes]
  exact Nat.le_add_right 4 _

end Framed

namespace Reader

variable {ε : Type u} {α β : Type}

/-- A framed record is read back, with what follows the content in it skipped. -/
theorem reads_framed {reader : Reader ε β} {content skipped : List UInt8} {value : β}
    (eof : ε) (invalid : UInt32 → ε) (reads : Reads reader content value)
    (short : (content ++ skipped).length + 4 < 2 ^ 32) :
    Reads (framed eof invalid reader) (frame (content ++ skipped)) value := by
  have length : (UInt32.ofNat ((content ++ skipped).length + 4)).toNat =
      (content ++ skipped).length + 4 := UInt32.toNat_ofNat_of_lt' short
  apply (reads_u32 eof _).bind
  rw [length, if_neg (by omega), Nat.add_sub_cancel]
  exact reads.nested skipped

theorem reads_optionally_some {reader : Reader ε α} {bytes : List UInt8} {value : α}
    (reads : Reads reader bytes value) : Reads (optionally true reader) bytes (some value) :=
  reads.bind_pure

theorem reads_optionally_none (reader : Reader ε α) :
    Reads (optionally false reader) [] none :=
  Reads.pure none

/-- A section that is there exactly if its flag is set is read back. -/
theorem reads_optionally {reader : Reader ε α} {encode : β → List UInt8} {f : β → α}
    {present : Bool} {content : Option β} (flag : present = content.isSome)
    (reads : ∀ value ∈ content, Reads reader (encode value) (f value)) :
    Reads (optionally present reader) (content.elim [] encode) (content.map f) := by
  subst flag
  cases content with
  | none => exact reads_optionally_none reader
  | some value => exact reads_optionally_some (reads value rfl)

end Reader

end Ads.Bytes
