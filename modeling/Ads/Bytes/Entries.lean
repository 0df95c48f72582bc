import Ads.Bytes.Record

/-!
# Sequences of records with a length in front

A loop over records that say their own length stands, at each of its rounds,
behind whole records.  `Entries` describes what such a loop has read; the two
kinds of loop, with a count and up to the end of the data, succeed and fail
exactly as the records they get to.
-/

namespace Ads.Bytes

open Ads.Control

universe u

/-- The length, itself included, that the record in front of a slice declares. -/
def entryLen (place : List UInt8) : Nat :=
  (leU32 place).toNat

/-- The bytes of the record in front of a slice behind its length. -/
def entryContent (place : List UInt8) : List UInt8 :=
  (place.drop 4).take (entryLen place - 4)

/-- The record in front of a slice counts its length and ends within the slice. -/
structure EntryFits (place : List UInt8) : Prop where
  word : 4 ≤ place.length
  counted : 4 ≤ entryLen place
  inside : entryLen place ≤ place.length

/-- The record in front of a slice declares less than the length itself takes. -/
def Undercounts (place : List UInt8) : Prop :=
  4 ≤ place.length ∧ entryLen place < 4

/-- The record in front of a slice declares more bytes than there are. -/
def Overruns (place : List UInt8) : Prop :=
  4 ≤ place.length ∧ place.length < entryLen place

instance (place : List UInt8) : Decidable (Overruns place) :=
  inferInstanceAs (Decidable (_ ∧ _))

/-- A record's length is missing, too small, too large, or fits. -/
theorem entry_cases (place : List UInt8) :
    place.length < 4 ∨ Undercounts place ∨ Overruns place ∨ EntryFits place := by
  by_cases word : 4 ≤ place.length
  · by_cases counted : 4 ≤ entryLen place
    · by_cases inside : entryLen place ≤ place.length
      · exact Or.inr (Or.inr (Or.inr ⟨word, counted, inside⟩))
      · exact Or.inr (Or.inr (Or.inl ⟨word, Nat.lt_of_not_le inside⟩))
    · exact Or.inr (Or.inl ⟨word, Nat.lt_of_not_le counted⟩)
  · exact Or.inl (Nat.lt_of_not_le word)

/-- Where there is a length there are bytes. -/
theorem ne_nil_of_word {place : List UInt8} (word : 4 ≤ place.length) : place ≠ [] := by
  rintro rfl
  exact absurd word (by decide)

theorem EntryFits.not_overruns {place : List UInt8} (fits : EntryFits place) :
    ¬Overruns place :=
  fun overruns => Nat.not_lt_of_le fits.inside overruns.2

/-- More bytes behind a slice do not change the record in front. -/
theorem EntryFits.append {place : List UInt8} (fits : EntryFits place) (tail : List UInt8) :
    EntryFits (place ++ tail) ∧ entryContent (place ++ tail) = entryContent place ∧
      (place ++ tail).drop (entryLen (place ++ tail)) =
        place.drop (entryLen place) ++ tail := by
  have word := fits.word
  have inside := fits.inside
  have sameLen : entryLen (place ++ tail) = entryLen place := by
    rw [entryLen, entryLen, leU32, leU32, List.take_append_of_le_length word]
  have dropped : (place ++ tail).drop 4 = place.drop 4 ++ tail :=
    List.drop_append_of_le_length word
  refine ⟨⟨?_, ?_, ?_⟩, ?_, ?_⟩
  · rw [List.length_append]
    exact Nat.le_add_right_of_le word
  · rw [sameLen]
    exact fits.counted
  · rw [sameLen, List.length_append]
    exact Nat.le_add_right_of_le inside
  · rw [entryContent, entryContent, sameLen, dropped]
    apply List.take_append_of_le_length
    rw [List.length_drop]
    exact Nat.sub_le_sub_right inside 4
  · rw [sameLen]
    exact List.drop_append_of_le_length inside

/-! ## What a loop over records has read -/

variable {ε : Type u} {α σ : Type}

/-- In front of `rest` stand whole records, whose contents decode to the values. -/
inductive Entries (decode : List UInt8 → Outcome ε α) :
    List UInt8 → List α → List UInt8 → Prop
  | nil (place : List UInt8) : Entries decode place [] place
  | cons {place rest : List UInt8} {value : α} {values : List α} (fits : EntryFits place)
      (decodes : decode (entryContent place) = .ok value)
      (others : Entries decode (place.drop (entryLen place)) values rest) :
      Entries decode place (value :: values) rest

/-- A loop over `count` records gets to `place`, with a record still to read. -/
def EntryAt (decode : List UInt8 → Outcome ε α) (count : Nat) (input place : List UInt8) :
    Prop :=
  ∃ values : List α, values.length < count ∧ Entries decode input values place

namespace Entries

variable {decode : List UInt8 → Outcome ε α} {input middle rest : List UInt8}
  {values others : List α}

/-- What is behind the records does not matter. -/
theorem append_tail (entries : Entries decode input values rest) (tail : List UInt8) :
    Entries decode (input ++ tail) values (rest ++ tail) := by
  induction entries with
  | nil place => exact nil (place ++ tail)
  | cons fits decodes _ ih =>
      obtain ⟨whole, sameContent, sameRest⟩ := fits.append tail
      apply cons whole
      · rw [sameContent]
        exact decodes
      · rw [sameRest]
        exact ih

/-- Records behind records. -/
theorem trans (first : Entries decode input values middle)
    (second : Entries decode middle others rest) :
    Entries decode input (values ++ others) rest := by
  induction first with
  | nil place => exact second
  | cons fits decodes _ ih => exact cons fits decodes (ih second)

theorem nil_iff :
    Entries decode [] values rest ↔ values = [] ∧ rest = [] := by
  constructor
  · intro entries
    cases entries with
    | nil => exact ⟨rfl, rfl⟩
    | cons fits => exact absurd fits.word (by simp)
  · rintro ⟨rfl, rfl⟩
    exact nil []

/-- So many records in front of a slice are the same records, with the same rest. -/
theorem unique {values' : List α} {rest' : List UInt8}
    (entries : Entries decode input values rest) (entries' : Entries decode input values' rest')
    (size : values.length = values'.length) : values = values' ∧ rest = rest' := by
  induction entries generalizing values' rest' with
  | nil place =>
      cases entries' with
      | nil => exact ⟨rfl, rfl⟩
      | cons => simp at size
  | cons fits decodes _ ih =>
      cases entries' with
      | nil => simp at size
      | cons fits' decodes' others' =>
          cases decodes.symm.trans decodes'
          obtain ⟨rfl, rfl⟩ := ih others' (Nat.succ.inj size)
          exact ⟨rfl, rfl⟩

/-- The records take bytes off the front. -/
theorem length_le (entries : Entries decode input values rest) :
    rest.length ≤ input.length := by
  induction entries with
  | nil place => exact Nat.le_refl _
  | @cons place rest value values fits decodes others ih =>
      rw [List.length_drop] at ih
      exact Nat.le_trans ih (Nat.sub_le _ _)

end Entries

/-- In front of `rest` stand whole records, whose contents describe the values. -/
inductive Laid (describes : List UInt8 → α → Prop) : List UInt8 → List α → List UInt8 → Prop
  | nil (place : List UInt8) : Laid describes place [] place
  | cons {place rest : List UInt8} {value : α} {values : List α} (fits : EntryFits place)
      (content : describes (entryContent place) value)
      (others : Laid describes (place.drop (entryLen place)) values rest) :
      Laid describes place (value :: values) rest

/-- Records are read exactly as they are described. -/
theorem entries_iff_laid {decode : List UInt8 → Outcome ε α}
    {describes : List UInt8 → α → Prop}
    (same : ∀ content value, decode content = .ok value ↔ describes content value)
    {input rest : List UInt8} {values : List α} :
    Entries decode input values rest ↔ Laid describes input values rest := by
  constructor
  · intro entries
    induction entries with
    | nil place => exact .nil place
    | cons fits decodes _ ih => exact .cons fits ((same _ _).mp decodes) ih
  · intro laid
    induction laid with
    | nil place => exact .nil place
    | cons fits content _ ih => exact .cons fits ((same _ _).mpr content) ih

/-- A framed record in front fits and has its content. -/
theorem entry_frame {content : List UInt8} (short : content.length + 4 < 2 ^ 32)
    (rest : List UInt8) :
    EntryFits (frame content ++ rest) ∧ entryContent (frame content ++ rest) = content ∧
      (frame content ++ rest).drop (entryLen (frame content ++ rest)) = rest := by
  have size : (frame content).length = content.length + 4 := by
    rw [frame, List.length_append, length_u32Bytes, Nat.add_comm]
  have declared : entryLen (frame content ++ rest) = content.length + 4 := by
    rw [entryLen, frame, List.append_assoc, leU32_u32Bytes_append]
    exact UInt32.toNat_ofNat_of_lt' short
  refine ⟨⟨?_, ?_, ?_⟩, ?_, ?_⟩
  · rw [List.length_append, size]
    omega
  · rw [declared]
    omega
  · rw [declared, List.length_append, size]
    omega
  · have behind : (frame content ++ rest).drop 4 = content ++ rest := by
      rw [frame, List.append_assoc]
      exact List.drop_left' (length_u32Bytes _)
    rw [entryContent, declared, Nat.add_sub_cancel, behind]
    exact List.take_left
  · rw [declared, ← size]
    exact List.drop_left

/-- A framed record in front of other records. -/
theorem Entries.frame_cons {decode : List UInt8 → Outcome ε α} {content rest last : List UInt8}
    {value : α} {values : List α} (short : content.length + 4 < 2 ^ 32)
    (decodes : decode content = .ok value) (others : Entries decode rest values last) :
    Entries decode (frame content ++ rest) (value :: values) last := by
  obtain ⟨fits, same, behind⟩ := entry_frame short rest
  apply Entries.cons fits
  · rw [same]
    exact decodes
  · rw [behind]
    exact others

namespace Reader

variable {reader : Reader ε α} {eof : ε} {invalid : UInt32 → ε} {place rest : List UInt8}
  {value : α} {values : List α}

/-! ## One record -/

theorem framed_run_short (short : place.length < 4) :
    framed eof invalid reader place = .err eof :=
  bind_run_err (u32_run_short eof short) _

/-- The split behind the length word takes exactly the content. -/
theorem splitAt_run_fits (fits : EntryFits place) :
    splitAt ((leU32 place).toNat - 4) (place.drop 4) =
      (.ok (entryContent place, place.drop (entryLen place)) : Outcome ε _) := by
  have enough : (leU32 place).toNat - 4 ≤ (place.drop 4).length := by
    rw [List.length_drop]
    exact Nat.sub_le_sub_right fits.inside 4
  have past : (place.drop 4).drop ((leU32 place).toNat - 4) = place.drop (entryLen place) := by
    have counted : 4 ≤ (leU32 place).toNat := fits.counted
    rw [List.drop_drop, entryLen, Nat.add_sub_cancel' counted]
  rw [splitAt, if_pos enough, past, entryContent, entryLen]

/-- The split behind the length word goes past the end. -/
theorem splitAt_run_overruns (overruns : Overruns place) :
    splitAt ((leU32 place).toNat - 4) (place.drop 4) = (.panic : Outcome ε _) := by
  have tooLong : ¬(leU32 place).toNat - 4 ≤ (place.drop 4).length := by
    rw [List.length_drop]
    exact Nat.not_le_of_lt (Nat.sub_lt_sub_right overruns.1 overruns.2)
  rw [splitAt, if_neg tooLong]

theorem not_undercounts_of_overruns (overruns : Overruns place) : ¬(leU32 place).toNat < 4 :=
  Nat.not_lt_of_le (Nat.le_of_lt (Nat.lt_of_le_of_lt overruns.1 overruns.2))

theorem framed_run_undercounts (undercounts : Undercounts place) :
    framed eof invalid reader place = .err (invalid (leU32 place)) := by
  have small : (leU32 place).toNat < 4 := undercounts.2
  rw [framed, bind_run_ok (u32_run eof undercounts.1), if_pos small]
  rfl

theorem framed_run_overruns (overruns : Overruns place) :
    framed eof invalid reader place = .panic := by
  rw [framed, bind_run_ok (u32_run eof overruns.1),
    if_neg (not_undercounts_of_overruns overruns), nested, bind_run,
    splitAt_run_overruns overruns]
  rfl

/-- A record that fits is read from its content alone, and what follows is left. -/
theorem framed_run (fits : EntryFits place) :
    framed eof invalid reader place =
      reader.runOn (entryContent place) >>= fun value =>
        .ok (value, place.drop (entryLen place)) := by
  have counted : ¬(leU32 place).toNat < 4 := Nat.not_lt_of_le fits.counted
  rw [framed, bind_run_ok (u32_run eof fits.word), if_neg counted, nested, bind_run,
    splitAt_run_fits fits]
  rfl

theorem framed_eq_ok_iff :
    framed eof invalid reader place = .ok (value, rest) ↔
      EntryFits place ∧ reader.runOn (entryContent place) = .ok value ∧
        rest = place.drop (entryLen place) := by
  rcases entry_cases place with short | undercounts | overruns | fits
  · rw [framed_run_short short]
    constructor
    · intro failed
      contradiction
    · rintro ⟨fits, -, -⟩
      exact absurd fits.word (Nat.not_le_of_lt short)
  · rw [framed_run_undercounts undercounts]
    constructor
    · intro failed
      contradiction
    · rintro ⟨fits, -, -⟩
      exact absurd fits.counted (Nat.not_le_of_lt undercounts.2)
  · rw [framed_run_overruns overruns]
    constructor
    · intro failed
      contradiction
    · rintro ⟨fits, -, -⟩
      exact absurd overruns fits.not_overruns
  · rw [framed_run fits, Outcome.bind_eq_ok_iff]
    constructor
    · rintro ⟨read, ran, same⟩
      cases same
      exact ⟨fits, ran, rfl⟩
    · rintro ⟨-, ran, rfl⟩
      exact ⟨value, ran, rfl⟩

/-- Reading a record panics exactly if it overruns, or fits and its content panics. -/
theorem framed_eq_panic_iff :
    framed eof invalid reader place = .panic ↔
      Overruns place ∨ EntryFits place ∧ reader.runOn (entryContent place) = .panic := by
  constructor
  · intro panicked
    rcases entry_cases place with short | undercounts | overruns | fits
    · rw [framed_run_short short] at panicked
      contradiction
    · rw [framed_run_undercounts undercounts] at panicked
      contradiction
    · exact Or.inl overruns
    · rw [framed_run fits, Outcome.bind_eq_panic_iff] at panicked
      rcases panicked with content | ⟨value, -, done⟩
      · exact Or.inr ⟨fits, content⟩
      · contradiction
  · rintro (overruns | ⟨fits, content⟩)
    · exact framed_run_overruns overruns
    · rw [framed_run fits, content]
      rfl

/-! ## A counted loop -/

/-- A loop over `count` records reads exactly that many. -/
theorem repeatN_framed_eq_ok_iff {count : Nat} {input : List UInt8} :
    repeatN (framed eof invalid reader) count input = .ok (values, rest) ↔
      values.length = count ∧ Entries reader.runOn input values rest := by
  induction count generalizing input values with
  | zero =>
      constructor
      · intro ran
        cases ran
        exact ⟨rfl, Entries.nil _⟩
      · rintro ⟨none, entries⟩
        cases entries with
        | nil => rfl
        | cons => simp at none
  | succ count ih =>
      rw [repeatN_succ_eq_ok_iff]
      constructor
      · rintro ⟨value, others, middle, first, loop, rfl⟩
        obtain ⟨fits, decodes, rfl⟩ := framed_eq_ok_iff.mp first
        obtain ⟨size, entries⟩ := ih.mp loop
        exact ⟨by rw [List.length_cons, size], Entries.cons fits decodes entries⟩
      · rintro ⟨size, entries⟩
        cases entries with
        | nil => simp at size
        | @cons place rest value values fits decodes others =>
            exact ⟨value, values, _, framed_eq_ok_iff.mpr ⟨fits, decodes, rfl⟩,
              ih.mpr ⟨Nat.succ.inj size, others⟩, rfl⟩

/-- A loop over `count` records fails exactly as a record does that it gets to. -/
theorem repeatN_framed_eq_raise_iff {count : Nat} {input : List UInt8}
    {failure : Outcome ε Empty} :
    repeatN (framed eof invalid reader) count input = .raise failure ↔
      ∃ place, EntryAt reader.runOn count input place ∧
        framed eof invalid reader place = .raise failure := by
  rw [repeatN_eq_raise_iff]
  constructor
  · rintro ⟨round, before, values, place, ran, failed⟩
    obtain ⟨rfl, entries⟩ := repeatN_framed_eq_ok_iff.mp ran
    exact ⟨place, ⟨values, before, entries⟩, failed⟩
  · rintro ⟨place, ⟨values, before, entries⟩, failed⟩
    exact ⟨values.length, before, values, place,
      repeatN_framed_eq_ok_iff.mpr ⟨rfl, entries⟩, failed⟩

/-! ## A loop up to the end of the data -/

/-- Split off the content of the record in front.  A length below four underflows. -/
def splitRecord (eof : ε) : Reader ε (List UInt8) := do
  let size ← u32 eof
  if size.toNat < 4 then lift .panic else splitAt (size.toNat - 4)

theorem splitRecord_run_short (short : place.length < 4) :
    splitRecord eof place = .err eof :=
  bind_run_err (u32_run_short eof short) _

theorem splitRecord_run_undercounts (undercounts : Undercounts place) :
    splitRecord eof place = .panic := by
  have small : (leU32 place).toNat < 4 := undercounts.2
  rw [splitRecord, bind_run_ok (u32_run eof undercounts.1), if_pos small]
  rfl

theorem splitRecord_run_overruns (overruns : Overruns place) :
    splitRecord eof place = .panic := by
  rw [splitRecord, bind_run_ok (u32_run eof overruns.1),
    if_neg (not_undercounts_of_overruns overruns), splitAt_run_overruns overruns]

theorem splitRecord_run (fits : EntryFits place) :
    splitRecord eof place = .ok (entryContent place, place.drop (entryLen place)) := by
  have counted : ¬(leU32 place).toNat < 4 := Nat.not_lt_of_le fits.counted
  rw [splitRecord, bind_run_ok (u32_run eof fits.word), if_neg counted, splitAt_run_fits fits]

/-- Decode records up to the end of the data, each added to what the others left. -/
def foldRecords (eof : ε) (decode : List UInt8 → Outcome ε α) (insert : σ → α → σ) :
    Nat → List UInt8 → σ → Outcome ε σ
  | 0, _, state => pure state
  | _ + 1, [], state => pure state
  | rounds + 1, place, state => do
      let (content, rest) ← splitRecord eof place
      let value ← decode content
      foldRecords eof decode insert rounds rest (insert state value)

/-- What the loop does with the record in front. -/
def recordStep (eof : ε) (decode : List UInt8 → Outcome ε α) (place : List UInt8) :
    Outcome ε α :=
  splitRecord eof place >>= fun split => decode split.1

variable {decode : List UInt8 → Outcome ε α} {insert : σ → α → σ}

/-- The loop panics at a record whose length is bad, or whose content panics. -/
theorem recordStep_eq_panic_iff :
    recordStep eof decode place = .panic ↔
      Undercounts place ∨ Overruns place ∨
        EntryFits place ∧ decode (entryContent place) = .panic := by
  rw [recordStep]
  constructor
  · intro panicked
    rcases entry_cases place with short | undercounts | overruns | fits
    · rw [splitRecord_run_short short] at panicked
      contradiction
    · exact Or.inl undercounts
    · exact Or.inr (Or.inl overruns)
    · rw [splitRecord_run fits] at panicked
      exact Or.inr (Or.inr ⟨fits, panicked⟩)
  · rintro (undercounts | overruns | ⟨fits, content⟩)
    · rw [splitRecord_run_undercounts undercounts]
      rfl
    · rw [splitRecord_run_overruns overruns]
      rfl
    · rw [splitRecord_run fits]
      exact content

theorem recordStep_eq_ok_iff :
    recordStep eof decode place = .ok value ↔
      EntryFits place ∧ decode (entryContent place) = .ok value := by
  rw [recordStep]
  rcases entry_cases place with short | undercounts | overruns | fits
  · rw [splitRecord_run_short short]
    constructor
    · intro failed
      contradiction
    · rintro ⟨fits, -⟩
      exact absurd fits.word (Nat.not_le_of_lt short)
  · rw [splitRecord_run_undercounts undercounts]
    constructor
    · intro failed
      contradiction
    · rintro ⟨fits, -⟩
      exact absurd fits.counted (Nat.not_le_of_lt undercounts.2)
  · rw [splitRecord_run_overruns overruns]
    constructor
    · intro failed
      contradiction
    · rintro ⟨fits, -⟩
      exact absurd overruns fits.not_overruns
  · rw [splitRecord_run fits, Outcome.ok_bind]
    exact ⟨fun decodes => ⟨fits, decodes⟩, And.right⟩

/-- One round of the loop: the record in front, then the rest of the data. -/
theorem foldRecords_succ (rounds : Nat) (state : σ) (more : place ≠ []) :
    foldRecords eof decode insert (rounds + 1) place state =
      recordStep eof decode place >>= fun value =>
        foldRecords eof decode insert rounds (place.drop (entryLen place))
          (insert state value) := by
  cases place with
  | nil => exact absurd rfl more
  | cons byte bytes =>
      rw [foldRecords, recordStep]
      rcases entry_cases (byte :: bytes) with short | undercounts | overruns | fits
      · rw [splitRecord_run_short short]
        rfl
      · rw [splitRecord_run_undercounts undercounts]
        rfl
      · rw [splitRecord_run_overruns overruns]
        rfl
      · rw [splitRecord_run fits]
        rfl
      · exact more

theorem foldRecords_nil (rounds : Nat) (state : σ) :
    foldRecords eof decode insert rounds [] state = .ok state := by
  cases rounds <;> rfl

theorem foldRecords_nil_eq_ok_iff {rounds : Nat} {state result : σ} :
    foldRecords eof decode insert rounds [] state = .ok result ↔
      ∃ values, Entries decode [] values [] ∧ result = values.foldl insert state := by
  rw [foldRecords_nil]
  constructor
  · rintro ⟨⟩
    exact ⟨[], Entries.nil [], rfl⟩
  · rintro ⟨values, entries, rfl⟩
    rw [(Entries.nil_iff.mp entries).1]
    rfl

theorem foldRecords_nil_eq_raise_iff {rounds : Nat} {state : σ} {failure : Outcome ε Empty} :
    foldRecords eof decode insert rounds [] state = .raise failure ↔
      ∃ values reached, Entries decode [] values reached ∧ reached ≠ [] ∧
        recordStep eof decode reached = .raise failure := by
  rw [foldRecords_nil]
  constructor
  · intro failed
    exact absurd failed (Outcome.ok_ne_raise state failure)
  · rintro ⟨values, reached, entries, more, -⟩
    exact absurd (Entries.nil_iff.mp entries).2 more

/-- A record takes four bytes at least, so that the rounds still suffice behind it. -/
theorem rounds_suffice {rounds : Nat} (fits : EntryFits place)
    (enough : place.length ≤ rounds + 1) :
    (place.drop (entryLen place)).length ≤ rounds := by
  have counted := fits.counted
  rw [List.length_drop]
  omega

/-- The loop ends well exactly if the data are whole records that all decode. -/
theorem foldRecords_eq_ok_iff {rounds : Nat} {state result : σ}
    (enough : place.length ≤ rounds) :
    foldRecords eof decode insert rounds place state = .ok result ↔
      ∃ values, Entries decode place values [] ∧ result = values.foldl insert state := by
  induction rounds generalizing place state with
  | zero =>
      cases List.length_eq_zero_iff.mp (Nat.le_zero.mp enough)
      exact foldRecords_nil_eq_ok_iff
  | succ rounds ih =>
      by_cases more : place = []
      · subst more
        rw [foldRecords_nil]
        constructor
        · rintro ⟨⟩
          exact ⟨[], Entries.nil [], rfl⟩
        · rintro ⟨values, entries, rfl⟩
          cases entries with
          | nil => rfl
          | cons fits => exact absurd fits.word (by simp)
      · rw [foldRecords_succ rounds state more, Outcome.bind_eq_ok_iff]
        constructor
        · rintro ⟨value, first, others⟩
          obtain ⟨fits, decodes⟩ := recordStep_eq_ok_iff.mp first
          obtain ⟨values, entries, rfl⟩ := (ih (rounds_suffice fits enough)).mp others
          exact ⟨value :: values, Entries.cons fits decodes entries, rfl⟩
        · rintro ⟨values, entries, rfl⟩
          cases entries with
          | nil => exact absurd rfl more
          | @cons place rest value values fits decodes others =>
              exact ⟨value, recordStep_eq_ok_iff.mpr ⟨fits, decodes⟩,
                (ih (rounds_suffice fits enough)).mpr ⟨values, others, rfl⟩⟩

/-- The loop fails exactly as a record does that it gets to. -/
theorem foldRecords_eq_raise_iff {rounds : Nat} {state : σ} {failure : Outcome ε Empty}
    (enough : place.length ≤ rounds) :
    foldRecords eof decode insert rounds place state = .raise failure ↔
      ∃ values reached, Entries decode place values reached ∧ reached ≠ [] ∧
        recordStep eof decode reached = .raise failure := by
  induction rounds generalizing place state with
  | zero =>
      cases List.length_eq_zero_iff.mp (Nat.le_zero.mp enough)
      exact foldRecords_nil_eq_raise_iff
  | succ rounds ih =>
      by_cases more : place = []
      · subst more
        rw [foldRecords_nil]
        constructor
        · intro failed
          exact absurd failed (Outcome.ok_ne_raise state failure)
        · rintro ⟨values, reached, entries, more, -⟩
          have none := entries.length_le
          exact absurd (List.length_eq_zero_iff.mp (Nat.le_zero.mp none)) more
      · rw [foldRecords_succ rounds state more, Outcome.bind_eq_raise_iff]
        constructor
        · rintro (failed | ⟨value, first, others⟩)
          · exact ⟨[], place, Entries.nil place, more, failed⟩
          · obtain ⟨fits, decodes⟩ := recordStep_eq_ok_iff.mp first
            obtain ⟨values, reached, entries, behind, failed⟩ :=
              (ih (rounds_suffice fits enough)).mp others
            exact ⟨value :: values, reached, Entries.cons fits decodes entries, behind, failed⟩
        · rintro ⟨values, reached, entries, behind, failed⟩
          cases entries with
          | nil => exact Or.inl failed
          | @cons place rest value values fits decodes others =>
              exact Or.inr ⟨value, recordStep_eq_ok_iff.mpr ⟨fits, decodes⟩,
                (ih (rounds_suffice fits enough)).mpr ⟨values, reached, others, behind, failed⟩⟩

/-- More rounds than there are bytes change nothing: the loop has come to its end. -/
theorem foldRecords_add (more : Nat) (state : σ) :
    foldRecords eof decode insert (place.length + more) place state =
      foldRecords eof decode insert place.length place state := by
  have enough : place.length ≤ place.length + more := Nat.le_add_right _ more
  cases ran : foldRecords eof decode insert place.length place state with
  | ok result =>
      exact (foldRecords_eq_ok_iff enough).mpr
        ((foldRecords_eq_ok_iff (Nat.le_refl _)).mp ran)
  | err error =>
      change _ = Outcome.raise (.err error)
      exact (foldRecords_eq_raise_iff enough).mpr
        ((foldRecords_eq_raise_iff (Nat.le_refl _)).mp ran)
  | panic =>
      change _ = Outcome.raise .panic
      exact (foldRecords_eq_raise_iff enough).mpr
        ((foldRecords_eq_raise_iff (Nat.le_refl _)).mp ran)

end Reader

end Ads.Bytes
