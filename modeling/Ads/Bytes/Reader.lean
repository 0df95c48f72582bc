import Ads.Control.Outcome
import Ads.Bytes.LittleEndian

/-!
# Readers over byte slices

A reader consumes a prefix of a byte slice and leaves the rest, as a mutable
slice cursor does.  A read past the end is the error the caller names for it; a
split past the end is a panic.

Two notions connect a reader to a wire layout.  `Reads` says that a reader takes
exactly the given bytes off the front of any input and returns the given value;
it composes along the bytes and is how "decoding undoes encoding" is proved.
`Exact` says in addition that nothing else is accepted.
-/

namespace Ads.Bytes

open Ads.Control

universe u v

/-- A reader of an `α` from the front of a byte slice. -/
def Reader (ε : Type u) (α : Type) : Type u :=
  List UInt8 → Outcome ε (α × List UInt8)

namespace Reader

variable {ε : Type u} {α β : Type}

instance : Monad (Reader ε) where
  pure value := fun input => .ok (value, input)
  bind first next := fun input => first input >>= fun result => next result.1 result.2

/-- Run a fallible computation that reads nothing. -/
def lift (outcome : Outcome ε α) : Reader ε α :=
  fun input => outcome >>= fun value => .ok (value, input)

/-- Report an error. -/
def fail (error : ε) : Reader ε α :=
  fun _ => .err error

/-- Read exactly `count` bytes; a shorter input is the error `eof`. -/
def take (eof : ε) (count : Nat) : Reader ε (List UInt8) :=
  fun input =>
    if count ≤ input.length then .ok (input.take count, input.drop count) else .err eof

/-- Split off the first `count` bytes; a shorter input is a panic. -/
def splitAt (count : Nat) : Reader ε (List UInt8) :=
  fun input =>
    if count ≤ input.length then .ok (input.take count, input.drop count) else .panic

/-- The bytes that are left, all of them consumed. -/
def takeAll : Reader ε (List UInt8) :=
  fun input => .ok (input, [])

/-- The number of bytes that are left. -/
def remaining : Reader ε Nat :=
  fun input => .ok (input.length, input)

/-- Read one byte. -/
def u8 (eof : ε) : Reader ε UInt8 := do
  let bytes ← take eof 1
  pure (UInt8.ofNat (leValue bytes))

/-- Read a little-endian 16-bit word. -/
def u16 (eof : ε) : Reader ε UInt16 := do
  let bytes ← take eof 2
  pure (UInt16.ofNat (leValue bytes))

/-- Read a little-endian 32-bit word. -/
def u32 (eof : ε) : Reader ε UInt32 := do
  let bytes ← take eof 4
  pure (UInt32.ofNat (leValue bytes))

/-- Read a little-endian 64-bit word. -/
def u64 (eof : ε) : Reader ε UInt64 := do
  let bytes ← take eof 8
  pure (UInt64.ofNat (leValue bytes))

/-- Read a little-endian signed 32-bit number. -/
def i32 (eof : ε) : Reader ε Int := do
  let bytes ← take eof 4
  pure (leInt bytes)

/-- Read a little-endian signed 64-bit number. -/
def i64 (eof : ε) : Reader ε Int := do
  let bytes ← take eof 8
  pure (leInt bytes)

/-- Run a reader `count` times and collect its results. -/
def repeatN (reader : Reader ε α) : Nat → Reader ε (List α)
  | 0 => pure []
  | count + 1 => do
      let value ← reader
      let values ← repeatN reader count
      pure (value :: values)

/-- Unwrap a read that its author holds to be infallible: an error becomes a
panic. -/
def expect {ε' : Type v} (reader : Reader ε' α) : Reader ε α :=
  fun input =>
    match reader input with
    | .ok result => .ok result
    | _ => .panic

instance : LawfulMonad (Reader ε) := LawfulMonad.mk' _
  (fun first => by
    funext input
    exact bind_pure (first input))
  (fun _ _ => rfl)
  (fun first next last => by
    funext input
    exact bind_assoc (first input) _ _)

/-! ## Running a reader -/

@[simp]
theorem pure_run (value : α) (input : List UInt8) :
    (pure value : Reader ε α) input = .ok (value, input) :=
  rfl

theorem bind_run (first : Reader ε α) (next : α → Reader ε β) (input : List UInt8) :
    (first >>= next) input = first input >>= fun result => next result.1 result.2 :=
  rfl

theorem bind_run_ok {first : Reader ε α} {input : List UInt8} {value : α}
    {rest : List UInt8} (ran : first input = .ok (value, rest)) (next : α → Reader ε β) :
    (first >>= next) input = next value rest := by
  rw [bind_run, ran]
  rfl

theorem bind_run_err {first : Reader ε α} {input : List UInt8} {error : ε}
    (failed : first input = .err error) (next : α → Reader ε β) :
    (first >>= next) input = .err error := by
  rw [bind_run, failed]
  rfl

theorem lift_pure (value : α) : (lift (pure value) : Reader ε α) = pure value :=
  rfl

theorem lift_run_eq_panic_iff {outcome : Outcome ε α} {input : List UInt8} :
    lift outcome input = .panic ↔ outcome = .panic := by
  cases outcome <;> simp [lift]

theorem lift_run_eq_ok_iff {outcome : Outcome ε α} {value : α} {input rest : List UInt8} :
    lift outcome input = .ok (value, rest) ↔ outcome = .ok value ∧ rest = input := by
  cases outcome with
  | ok result => simp [lift, eq_comm]
  | err error => simp [lift]
  | panic => simp [lift]

theorem lift_bind (first : Outcome ε α) (next : α → Outcome ε β) :
    (lift (first >>= next) : Reader ε β) = lift first >>= fun value => lift (next value) := by
  funext input
  cases first <;> rfl

theorem take_run {count : Nat} {input : List UInt8} (eof : ε) (enough : count ≤ input.length) :
    take eof count input = .ok (input.take count, input.drop count) :=
  if_pos enough

theorem take_run_short {count : Nat} {input : List UInt8} (eof : ε)
    (short : input.length < count) : take eof count input = .err eof :=
  if_neg (Nat.not_le_of_lt short)

theorem u16_run {input : List UInt8} (eof : ε) (enough : 2 ≤ input.length) :
    u16 eof input = .ok (leU16 input, input.drop 2) :=
  bind_run_ok (take_run eof enough) _

theorem u16_run_short {input : List UInt8} (eof : ε) (short : input.length < 2) :
    u16 eof input = .err eof :=
  bind_run_err (take_run_short eof short) _

theorem u32_run {input : List UInt8} (eof : ε) (enough : 4 ≤ input.length) :
    u32 eof input = .ok (leU32 input, input.drop 4) :=
  bind_run_ok (take_run eof enough) _

theorem u32_run_short {input : List UInt8} (eof : ε) (short : input.length < 4) :
    u32 eof input = .err eof :=
  bind_run_err (take_run_short eof short) _

theorem i32_run {input : List UInt8} (eof : ε) (enough : 4 ≤ input.length) :
    i32 eof input = .ok (leInt (input.take 4), input.drop 4) :=
  bind_run_ok (take_run eof enough) _

theorem i32_run_short {input : List UInt8} (eof : ε) (short : input.length < 4) :
    i32 eof input = .err eof :=
  bind_run_err (take_run_short eof short) _

/-- A sequence of readers succeeds exactly when each succeeds on what the one
before it left. -/
theorem bind_run_eq_ok_iff {first : Reader ε α} {next : α → Reader ε β}
    {input rest : List UInt8} {result : β} :
    (first >>= next) input = .ok (result, rest) ↔
      ∃ value middle, first input = .ok (value, middle) ∧
        next value middle = .ok (result, rest) := by
  rw [bind_run, Outcome.bind_eq_ok_iff]
  exact Prod.exists

/-- A sequence of readers fails exactly when the first does so or the second does
so on what the first left. -/
theorem bind_run_eq_raise_iff {first : Reader ε α} {next : α → Reader ε β}
    {input : List UInt8} {failure : Outcome ε Empty} :
    (first >>= next) input = .raise failure ↔
      first input = .raise failure ∨
        ∃ value middle, first input = .ok (value, middle) ∧
          next value middle = .raise failure := by
  rw [bind_run, Outcome.bind_eq_raise_iff, Prod.exists]

/-- A counted loop succeeds exactly when its first round and the others do. -/
theorem repeatN_succ_eq_ok_iff {reader : Reader ε α} {count : Nat} {input rest : List UInt8}
    {results : List α} :
    repeatN reader (count + 1) input = .ok (results, rest) ↔
      ∃ value values middle, reader input = .ok (value, middle) ∧
        repeatN reader count middle = .ok (values, rest) ∧ results = value :: values := by
  constructor
  · intro ran
    obtain ⟨value, middle, first, others⟩ := bind_run_eq_ok_iff.mp ran
    obtain ⟨values, last, loop, done⟩ := bind_run_eq_ok_iff.mp others
    cases done
    exact ⟨value, values, middle, first, loop, rfl⟩
  · rintro ⟨value, values, middle, first, loop, rfl⟩
    exact bind_run_eq_ok_iff.mpr ⟨value, middle, first,
      bind_run_eq_ok_iff.mpr ⟨values, rest, loop, rfl⟩⟩

/-- What holds of each result of a reader holds of all results of its loop. -/
theorem forall_mem_of_repeatN {reader : Reader ε α} {valid : α → Prop}
    (each : ∀ input value rest, reader input = .ok (value, rest) → valid value) {count : Nat}
    {input rest : List UInt8} {values : List α}
    (ran : repeatN reader count input = .ok (values, rest)) : ∀ value ∈ values, valid value := by
  induction count generalizing input values with
  | zero =>
      cases ran
      exact List.forall_mem_nil valid
  | succ count ih =>
      obtain ⟨value, others, middle, first, loop, rfl⟩ := repeatN_succ_eq_ok_iff.mp ran
      exact List.forall_mem_cons.mpr ⟨each _ _ _ first, ih loop⟩

/-- A counted loop that also computes with what it reads: first everything is read,
then each result is computed from what its round has read. -/
theorem repeatN_bind_lift_eq_ok_iff {reader : Reader ε α} {f : α → Outcome ε β} {count : Nat}
    {input rest : List UInt8} {results : List β} :
    repeatN (reader >>= fun value => lift (f value)) count input = .ok (results, rest) ↔
      ∃ values, repeatN reader count input = .ok (values, rest) ∧
        List.Forall₂ (fun value result => f value = .ok result) values results := by
  induction count generalizing input results with
  | zero =>
      constructor
      · intro ran
        cases ran
        exact ⟨[], rfl, List.Forall₂.nil⟩
      · rintro ⟨values, ran, computed⟩
        cases ran
        cases computed
        rfl
  | succ count ih =>
      rw [repeatN_succ_eq_ok_iff]
      constructor
      · rintro ⟨result, others, middle, first, loop, rfl⟩
        obtain ⟨value, behind, read, lifted⟩ := bind_run_eq_ok_iff.mp first
        obtain ⟨same, computes, moved⟩ := Outcome.bind_eq_ok_iff.mp lifted
        cases moved
        obtain ⟨values, ran, computed⟩ := ih.mp loop
        exact ⟨value :: values, repeatN_succ_eq_ok_iff.mpr ⟨value, values, _, read, ran, rfl⟩,
          List.Forall₂.cons computes computed⟩
      · rintro ⟨values, ran, computed⟩
        obtain ⟨value, tail, middle, read, loop, rfl⟩ := repeatN_succ_eq_ok_iff.mp ran
        cases computed with
        | @cons _ result _ others computes computed =>
            refine ⟨result, others, middle, ?_, ih.mpr ⟨tail, loop, computed⟩, rfl⟩
            rw [bind_run_ok read, lift, computes]
            rfl

/-- A counted loop fails exactly when it gets to a round that does so. -/
theorem repeatN_eq_raise_iff {reader : Reader ε α} {count : Nat} {input : List UInt8}
    {failure : Outcome ε Empty} :
    repeatN reader count input = .raise failure ↔
      ∃ round < count, ∃ values place, repeatN reader round input = .ok (values, place) ∧
        reader place = .raise failure := by
  induction count generalizing input with
  | zero => simp [repeatN]
  | succ count ih =>
      rw [repeatN, bind_run_eq_raise_iff]
      constructor
      · rintro (failed | ⟨value, middle, first, others⟩)
        · exact ⟨0, Nat.succ_pos count, [], input, rfl, failed⟩
        · rcases bind_run_eq_raise_iff.mp others with loop | ⟨values, last, -, done⟩
          · obtain ⟨round, before, values, place, ran, failed⟩ := ih.mp loop
            exact ⟨round + 1, Nat.succ_lt_succ before, value :: values, place,
              repeatN_succ_eq_ok_iff.mpr ⟨value, values, middle, first, ran, rfl⟩, failed⟩
          · exact absurd done (Outcome.ok_ne_raise _ failure)
      · rintro ⟨round, before, values, place, ran, failed⟩
        cases round with
        | zero =>
            cases ran
            exact Or.inl failed
        | succ round =>
            obtain ⟨value, values, middle, first, loop, rfl⟩ := repeatN_succ_eq_ok_iff.mp ran
            refine Or.inr ⟨value, middle, first, bind_run_eq_raise_iff.mpr (Or.inl ?_)⟩
            exact ih.mpr ⟨round, Nat.lt_of_succ_lt_succ before, values, place, loop, failed⟩

theorem bind_run_eq_panic_iff {first : Reader ε α} {next : α → Reader ε β}
    {input : List UInt8} :
    (first >>= next) input = .panic ↔
      first input = .panic ∨
        ∃ value middle, first input = .ok (value, middle) ∧ next value middle = .panic :=
  @bind_run_eq_raise_iff _ _ _ first next input .panic

theorem repeatN_eq_panic_iff {reader : Reader ε α} {count : Nat} {input : List UInt8} :
    repeatN reader count input = .panic ↔
      ∃ round < count, ∃ values place, repeatN reader round input = .ok (values, place) ∧
        reader place = .panic :=
  @repeatN_eq_raise_iff _ _ reader count input .panic

/-! ## Reading back an encoding -/

/-- On any input that starts with `bytes` the reader consumes exactly these and
returns `value`. -/
def Reads (reader : Reader ε α) (bytes : List UInt8) (value : α) : Prop :=
  ∀ rest, reader (bytes ++ rest) = .ok (value, rest)

theorem Reads.pure (value : α) : Reads (Pure.pure value : Reader ε α) [] value :=
  fun _ => rfl

theorem Reads.bind {first : Reader ε α} {next : α → Reader ε β}
    {firstBytes nextBytes : List UInt8} {value : α} {result : β}
    (firstReads : Reads first firstBytes value)
    (nextReads : Reads (next value) nextBytes result) :
    Reads (first >>= next) (firstBytes ++ nextBytes) result := by
  intro rest
  rw [List.append_assoc, bind_run_ok (firstReads (nextBytes ++ rest)) next]
  exact nextReads rest

/-- The last step of a sequence only computes with what was read. -/
theorem Reads.bind_pure {first : Reader ε α} {f : α → β} {bytes : List UInt8}
    {value : α} (reads : Reads first bytes value) :
    Reads (first >>= fun read => Pure.pure (f read)) bytes (f value) := by
  have composed : Reads (first >>= fun read => Pure.pure (f read)) (bytes ++ []) (f value) :=
    reads.bind (Reads.pure (f value))
  rwa [List.append_nil] at composed

theorem reads_take (eof : ε) (bytes : List UInt8) :
    Reads (take eof bytes.length) bytes bytes := by
  intro rest
  simp [take]

theorem reads_splitAt (bytes : List UInt8) :
    Reads (splitAt bytes.length : Reader ε _) bytes bytes := by
  intro rest
  simp [splitAt]

/-- A word is read from bytes that decode to it. -/
theorem reads_word {width : Nat} {decode : List UInt8 → α} {bytes : List UInt8} {value : α}
    (eof : ε) (size : bytes.length = width) (decoded : decode bytes = value) :
    Reads (take eof width >>= fun bytes => Pure.pure (decode bytes)) bytes value := by
  subst size decoded
  exact (reads_take eof bytes).bind_pure

theorem reads_u8 (eof : ε) (value : UInt8) : Reads (u8 eof) [value] value :=
  reads_word eof rfl (by simp [leValue])

theorem u8_cons (eof : ε) (byte : UInt8) (rest : List UInt8) :
    u8 eof (byte :: rest) = .ok (byte, rest) :=
  reads_u8 eof byte rest

theorem reads_u16 (eof : ε) (value : UInt16) : Reads (u16 eof) (u16Bytes value) value :=
  reads_word eof (length_u16Bytes value) (by simp)

theorem reads_u32 (eof : ε) (value : UInt32) : Reads (u32 eof) (u32Bytes value) value :=
  reads_word eof (length_u32Bytes value) (by simp)

theorem reads_u64 (eof : ε) (value : UInt64) : Reads (u64 eof) (u64Bytes value) value :=
  reads_word eof (length_u64Bytes value) (by simp)

theorem reads_i32 (eof : ε) {value : Int} (low : -2 ^ 31 ≤ value) (high : value < 2 ^ 31) :
    Reads (i32 eof) (intBytes 4 value) value :=
  reads_word eof (length_intBytes 4 value) (leInt_intBytes (by omega) (by omega))

theorem Reads.expect {ε' : Type v} {reader : Reader ε' α} {bytes : List UInt8} {value : α}
    (reads : Reads reader bytes value) :
    Reads (Reader.expect reader : Reader ε α) bytes value := by
  intro rest
  rw [Reader.expect, reads rest]

/-- A counted loop reads back a concatenation of encodings. -/
theorem reads_repeatN_map {reader : Reader ε α} {encode : β → List UInt8} {f : β → α}
    {items : List β} (reads : ∀ item ∈ items, Reads reader (encode item) (f item)) :
    Reads (repeatN reader items.length) (items.flatMap encode) (items.map f) := by
  induction items with
  | nil => exact Reads.pure []
  | cons item items ih =>
      have head := reads item List.mem_cons_self
      have tail := ih fun other member => reads other (List.mem_cons_of_mem item member)
      rw [List.flatMap_cons]
      exact head.bind tail.bind_pure

/-! ## Exactness -/

/-- The reader accepts precisely the inputs that start with the encoding of a
valid value, and returns that value. -/
def Exact (reader : Reader ε α) (encode : α → List UInt8) (valid : α → Prop) : Prop :=
  ∀ input value rest, reader input = .ok (value, rest) ↔
    valid value ∧ input = encode value ++ rest

theorem take_eq_ok_iff {eof : ε} {count : Nat} {input bytes rest : List UInt8} :
    take eof count input = .ok (bytes, rest) ↔
      bytes.length = count ∧ input = bytes ++ rest := by
  constructor
  · intro taken
    unfold take at taken
    split at taken
    · rename_i enough
      cases taken
      exact ⟨List.length_take_of_le enough, (List.take_append_drop count input).symm⟩
    · contradiction
  · rintro ⟨rfl, rfl⟩
    exact reads_take eof bytes rest

/-- A word is read exactly if its bytes and its value determine each other. -/
theorem exact_word {width : Nat} {ofNat : Nat → α} {encode : α → List UInt8} (eof : ε)
    (size : ∀ value, (encode value).length = width)
    (encode_ofNat : ∀ bytes : List UInt8, bytes.length = width →
      encode (ofNat (leValue bytes)) = bytes)
    (ofNat_encode : ∀ value, ofNat (leValue (encode value)) = value) :
    Exact (take eof width >>= fun bytes => pure (ofNat (leValue bytes)) : Reader ε α) encode
      fun _ => True := by
  intro input value rest
  constructor
  · intro ran
    obtain ⟨bytes, middle, taken, result⟩ := bind_run_eq_ok_iff.mp ran
    obtain ⟨length, rfl⟩ := take_eq_ok_iff.mp taken
    cases result
    rw [encode_ofNat bytes length]
    exact ⟨trivial, rfl⟩
  · rintro ⟨-, rfl⟩
    exact reads_word eof (size value) (ofNat_encode value) rest

theorem exact_u16 (eof : ε) : Exact (u16 eof) u16Bytes fun _ => True :=
  exact_word eof length_u16Bytes (fun _ => u16Bytes_leValue) (by simp)

theorem exact_u32 (eof : ε) : Exact (u32 eof) u32Bytes fun _ => True :=
  exact_word eof length_u32Bytes (fun _ => u32Bytes_leValue) (by simp)

theorem exact_u64 (eof : ε) : Exact (u64 eof) u64Bytes fun _ => True :=
  exact_word eof length_u64Bytes (fun _ => u64Bytes_leValue) (by simp)

/-- The reader accepts precisely the inputs that start with the encoding of some
`β`, whatever value it returns for it. -/
def Accepts (reader : Reader ε α) (encode : β → List UInt8) : Prop :=
  ∀ input rest, (∃ value, reader input = .ok (value, rest)) ↔
    ∃ item, input = encode item ++ rest

/-- A counted loop accepts precisely the concatenations of that many encodings. -/
theorem Accepts.repeatN {reader : Reader ε α} {encode : β → List UInt8}
    (accepts : Accepts reader encode) (count : Nat) (input rest : List UInt8) :
    (∃ values, Reader.repeatN reader count input = .ok (values, rest)) ↔
      ∃ items : List β, items.length = count ∧ input = items.flatMap encode ++ rest := by
  induction count generalizing input with
  | zero =>
      constructor
      · rintro ⟨values, done⟩
        cases done
        exact ⟨[], rfl, rfl⟩
      · rintro ⟨items, none, rfl⟩
        cases List.length_eq_zero_iff.mp none
        exact ⟨[], rfl⟩
  | succ count ih =>
      constructor
      · rintro ⟨values, ran⟩
        obtain ⟨value, middle, first, others⟩ := bind_run_eq_ok_iff.mp ran
        obtain ⟨tail, last, loop, done⟩ := bind_run_eq_ok_iff.mp others
        cases done
        obtain ⟨item, rfl⟩ := (accepts input middle).mp ⟨value, first⟩
        obtain ⟨items, size, rfl⟩ := (ih middle).mp ⟨tail, loop⟩
        exact ⟨item :: items, by simp [size], by simp [List.append_assoc]⟩
      · rintro ⟨items, size, rfl⟩
        cases items with
        | nil => simp at size
        | cons item items =>
            have tailSize : items.length = count := by simpa using size
            obtain ⟨value, first⟩ :=
              (accepts _ (items.flatMap encode ++ rest)).mpr ⟨item, rfl⟩
            obtain ⟨values, loop⟩ := (ih (items.flatMap encode ++ rest)).mpr
              ⟨items, tailSize, rfl⟩
            refine ⟨value :: values, ?_⟩
            rw [List.flatMap_cons, List.append_assoc]
            exact bind_run_eq_ok_iff.mpr ⟨value, _, first,
              bind_run_eq_ok_iff.mpr ⟨values, rest, loop, rfl⟩⟩

/-! ## Absence of panics -/

/-- The reader returns or reports an error on every input. -/
def NeverPanics (reader : Reader ε α) : Prop :=
  ∀ input, reader input ≠ .panic

theorem NeverPanics.pure (value : α) : NeverPanics (Pure.pure value : Reader ε α) :=
  fun input => Outcome.ok_ne_panic (value, input)

theorem NeverPanics.bind {first : Reader ε α} {next : α → Reader ε β}
    (firstSafe : NeverPanics first) (nextSafe : ∀ value, NeverPanics (next value)) :
    NeverPanics (first >>= next) := by
  intro input panicked
  rcases Outcome.bind_eq_panic_iff.mp panicked with firstPanicked | ⟨result, -, nextPanicked⟩
  · exact firstSafe input firstPanicked
  · exact nextSafe result.1 result.2 nextPanicked

theorem neverPanics_take (eof : ε) (count : Nat) : NeverPanics (take eof count) := by
  intro input
  unfold take
  split
  · exact Outcome.ok_ne_panic _
  · exact Outcome.err_ne_panic _

theorem neverPanics_fail (error : ε) : NeverPanics (fail error : Reader ε α) :=
  fun _ => Outcome.err_ne_panic error

theorem neverPanics_u8 (eof : ε) : NeverPanics (u8 eof) :=
  (neverPanics_take eof 1).bind fun _ => NeverPanics.pure _

theorem neverPanics_u16 (eof : ε) : NeverPanics (u16 eof) :=
  (neverPanics_take eof 2).bind fun _ => NeverPanics.pure _

theorem neverPanics_u32 (eof : ε) : NeverPanics (u32 eof) :=
  (neverPanics_take eof 4).bind fun _ => NeverPanics.pure _

theorem neverPanics_u64 (eof : ε) : NeverPanics (u64 eof) :=
  (neverPanics_take eof 8).bind fun _ => NeverPanics.pure _

theorem NeverPanics.repeatN {reader : Reader ε α} (safe : NeverPanics reader) (count : Nat) :
    NeverPanics (Reader.repeatN reader count) := by
  induction count with
  | zero => exact NeverPanics.pure []
  | succ count ih => exact safe.bind fun _ => ih.bind fun _ => NeverPanics.pure _

end Reader

end Ads.Bytes
