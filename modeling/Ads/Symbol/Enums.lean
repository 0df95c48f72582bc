import Ads.Bytes.Entries
import Ads.Symbol.Wire

/-!
# Enum variants

The size of an enum and its base type come from the device independently of each
other.  A variant is read in two steps: its name and its bytes, which every enum
has, and the number these bytes stand for, which depends on the base type.
-/

namespace Ads.Symbols

open Ads.Bytes Ads.Bytes.Reader Ads.Control Ads.Text

/-! ## Variants on the wire -/

/-- A variant as it is on the wire: its name, and the bytes of its value. -/
structure RawEnumInfo where
  name : String
  raw : List UInt8
  deriving DecidableEq

def readRawEnumInfo (size : Nat) : Reader Error RawEnumInfo := do
  let eof := Error.eof "parsing enum infos"
  let nameLen ← u8 eof
  let name ← readStr nameLen.toNat
  let raw ← take eof size
  pure { name, raw }

def readRawEnumInfos (size : Nat) : Reader Error (List RawEnumInfo) := do
  let count ← u16 (.eof "parsing enum infos")
  repeatN (readRawEnumInfo size) count.toNat

/-- The number that a variant's bytes stand for. -/
def RawEnumInfo.decode (baseType : UInt32) (variant : RawEnumInfo) : Outcome Error EnumInfo :=
  enumValue baseType variant.raw >>= fun value => pure { name := variant.name, value }

/-- A variant is read, then its value is computed. -/
theorem parseEnumInfo_eq (size : Nat) (baseType : UInt32) :
    parseEnumInfo size baseType =
      readRawEnumInfo size >>= fun variant => lift (variant.decode baseType) := by
  simp only [parseEnumInfo, readRawEnumInfo, RawEnumInfo.decode, lift_bind, lift_pure, bind_assoc,
    pure_bind]

theorem parseEnumInfos_eq_ok_iff {size : Nat} {baseType : UInt32} {ptr rest : List UInt8}
    {infos : List EnumInfo} :
    parseEnumInfos size baseType ptr = .ok (infos, rest) ↔
      ∃ variants, readRawEnumInfos size ptr = .ok (variants, rest) ∧
        List.Forall₂ (fun variant info => variant.decode baseType = .ok info) variants infos := by
  rw [parseEnumInfos, readRawEnumInfos, parseEnumInfo_eq, bind_run_eq_ok_iff]
  constructor
  · rintro ⟨count, middle, counted, loop⟩
    obtain ⟨variants, ran, decoded⟩ := repeatN_bind_lift_eq_ok_iff.mp loop
    exact ⟨variants, bind_run_eq_ok_iff.mpr ⟨count, middle, counted, ran⟩, decoded⟩
  · rintro ⟨variants, read, decoded⟩
    obtain ⟨count, middle, counted, ran⟩ := bind_run_eq_ok_iff.mp read
    exact ⟨count, middle, counted, repeatN_bind_lift_eq_ok_iff.mpr ⟨variants, ran, decoded⟩⟩

/-- A string whose length is a byte is never too long: the variant's value begins right
behind the terminator, or at the end of the data. -/
theorem readStr_u8 (len : UInt8) (ptr : List UInt8) :
    readStr len.toNat ptr =
      .ok (fromUtf8Lossy (ptr.take len.toNat), ptr.drop (len.toNat + 1)) := by
  have short : ¬maxStrLen < len.toNat := by
    have bound := len.toNat_lt
    rw [maxStrLen]
    omega
  rw [readStr, if_neg short]
  by_cases cut : ptr.length < len.toNat + 1
  · have content : ptr.take (min len.toNat ptr.length) = ptr.take len.toNat := by
      rw [← List.take_take, List.take_length]
    rw [if_pos cut, List.drop_eq_nil_of_le (Nat.le_of_lt cut), ← content]
  · rw [if_neg cut]

/-- Behind the length of a variant's name, the value is all that can be missing. -/
theorem readRawEnumInfo_cons (size : Nat) (nameLen : UInt8) (ptr : List UInt8) :
    ∃ name, readRawEnumInfo size (nameLen :: ptr) =
      take (.eof "parsing enum infos") size (ptr.drop (nameLen.toNat + 1)) >>= fun taken =>
        .ok ({ name, raw := taken.1 }, taken.2) := by
  refine ⟨fromUtf8Lossy (ptr.take nameLen.toNat), ?_⟩
  rw [readRawEnumInfo, bind_run_ok (u8_cons _ nameLen ptr), bind_run_ok (readStr_u8 nameLen ptr)]
  rfl

/-- A variant is there exactly if its name's length and its value are. -/
theorem readRawEnumInfo_accepts_iff {size : Nat} {ptr : List UInt8} :
    (∃ variant rest, readRawEnumInfo size ptr = .ok (variant, rest)) ↔
      1 ≤ ptr.length ∧ size ≤ ptr.length - ((ptr.getD 0 0).toNat + 2) := by
  cases ptr with
  | nil =>
      constructor
      · rintro ⟨variant, rest, read⟩
        cases read
      · rintro ⟨absent, -⟩
        simp at absent
  | cons nameLen ptr =>
      obtain ⟨name, read⟩ := readRawEnumInfo_cons size nameLen ptr
      have value : (ptr.drop (nameLen.toNat + 1)).length =
          (nameLen :: ptr).length - (nameLen.toNat + 2) := by
        rw [List.length_drop, List.length_cons]
        omega
      rw [read, List.getD_cons_zero, ← value]
      by_cases enough : size ≤ (ptr.drop (nameLen.toNat + 1)).length
      · rw [take_run _ enough]
        exact ⟨fun _ => ⟨by simp, enough⟩, fun _ => ⟨_, _, rfl⟩⟩
      · rw [take_run_short _ (Nat.lt_of_not_le enough)]
        constructor
        · rintro ⟨variant, rest, failed⟩
          cases failed
        · rintro ⟨-, present⟩
          exact absurd present enough

/-- Every variant has as many bytes as the enum's size says. -/
theorem length_raw {size : Nat} {input rest : List UInt8} {variant : RawEnumInfo}
    (read : readRawEnumInfo size input = .ok (variant, rest)) : variant.raw.length = size := by
  obtain ⟨nameLen, _, -, read⟩ := bind_run_eq_ok_iff.mp read
  obtain ⟨name, _, -, read⟩ := bind_run_eq_ok_iff.mp read
  obtain ⟨raw, _, taken, read⟩ := bind_run_eq_ok_iff.mp read
  cases read
  exact (take_eq_ok_iff.mp taken).1

theorem length_raw_of_mem {size : Nat} {input rest : List UInt8} {variants : List RawEnumInfo}
    (read : readRawEnumInfos size input = .ok (variants, rest)) :
    ∀ variant ∈ variants, variant.raw.length = size := by
  obtain ⟨count, middle, -, loop⟩ := bind_run_eq_ok_iff.mp read
  exact forall_mem_of_repeatN (fun _ _ _ => length_raw) loop

/-! ## The width of a base type -/

/-- How many bytes the decoder takes for a value of a base type, whatever its size. -/
def enumWidth : UInt32 → Nat
  | 2 => 2
  | 3 => 4
  | 4 => 4
  | 5 => 8
  | 16 => 1
  | 17 => 1
  | 18 => 2
  | 19 => 4
  | 20 => 8
  | 21 => 8
  | _ => 0

/-- A slice of a value panics exactly if the value is shorter. -/
theorem slice_eq_panic_iff {width : Nat} {raw : List UInt8} {value : Int} :
    (if width ≤ raw.length then Outcome.ok value else .panic : Outcome Error Int) = .panic ↔
      raw.length < width := by
  by_cases enough : width ≤ raw.length
  · rw [if_pos enough]
    constructor
    · intro done
      cases done
    · intro short
      exact absurd enough (Nat.not_le_of_lt short)
  · rw [if_neg enough]
    exact ⟨fun _ => Nat.lt_of_not_le enough, fun _ => rfl⟩

/-- The value of a variant is computed exactly if the base type's width is there. -/
theorem enumValue_eq_panic_iff {baseType : UInt32} {raw : List UInt8} :
    enumValue baseType raw = .panic ↔ raw.length < enumWidth baseType := by
  unfold enumValue
  split
  case h_11 =>
    have none : enumWidth baseType = 0 := by
      unfold enumWidth
      split
      all_goals first | rfl | contradiction
    rw [none]
    -- the slice is as wide as the value
    constructor
    · intro panicked
      split at panicked
      · rename_i width
        exact absurd (slice_eq_panic_iff.mp panicked) (by omega)
      · rename_i width
        exact absurd (slice_eq_panic_iff.mp panicked) (by omega)
      · rename_i width
        exact absurd (slice_eq_panic_iff.mp panicked) (by omega)
      · rename_i width
        exact absurd (slice_eq_panic_iff.mp panicked) (by omega)
      · cases panicked
    · intro short
      exact absurd short (Nat.not_lt_zero _)
  all_goals exact slice_eq_panic_iff

theorem decode_eq_panic_iff {baseType : UInt32} {variant : RawEnumInfo} :
    variant.decode baseType = .panic ↔ variant.raw.length < enumWidth baseType := by
  rw [RawEnumInfo.decode, Outcome.bind_eq_panic_iff, ← enumValue_eq_panic_iff]
  simp

theorem neverPanics_readRawEnumInfo (size : Nat) : NeverPanics (readRawEnumInfo size) := by
  intro ptr
  cases ptr with
  | nil => exact Outcome.err_ne_panic _
  | cons nameLen ptr =>
      obtain ⟨name, read⟩ := readRawEnumInfo_cons size nameLen ptr
      rw [read]
      intro panicked
      rcases Outcome.bind_eq_panic_iff.mp panicked with taken | ⟨value, -, done⟩
      · exact neverPanics_take _ size _ taken
      · exact Outcome.ok_ne_panic _ done

/-- The list of variants has a first one, and it is all there. -/
def FirstEnumInfo (size : Nat) (ptr : List UInt8) : Prop :=
  3 ≤ ptr.length ∧ leU16 ptr ≠ 0 ∧ size ≤ ptr.length - ((ptr.getD 2 0).toNat + 4)

theorem firstEnumInfo_iff {size : Nat} {ptr : List UInt8} :
    FirstEnumInfo size ptr ↔ leU16 ptr ≠ 0 ∧
      ∃ variant rest, readRawEnumInfo size (ptr.drop 2) = .ok (variant, rest) := by
  have nameLen : (ptr.drop 2).getD 0 0 = ptr.getD 2 0 := by
    simp [List.getD_eq_getElem?_getD]
  have value : (ptr.drop 2).length - ((ptr.getD 2 0).toNat + 2) =
      ptr.length - ((ptr.getD 2 0).toNat + 4) := by
    rw [List.length_drop]
    omega
  rw [FirstEnumInfo, readRawEnumInfo_accepts_iff, nameLen, value, List.length_drop]
  constructor
  · rintro ⟨size, some, there⟩
    exact ⟨some, Nat.le_sub_of_add_le size, there⟩
  · rintro ⟨some, size, there⟩
    exact ⟨Nat.add_le_of_le_sub (by omega) size, some, there⟩

/-- One variant panics exactly if it is there and its size is below the base type's width. -/
theorem parseEnumInfo_eq_panic_iff {size : Nat} {baseType : UInt32} {ptr : List UInt8} :
    parseEnumInfo size baseType ptr = .panic ↔
      size < enumWidth baseType ∧
        ∃ variant rest, readRawEnumInfo size ptr = .ok (variant, rest) := by
  rw [parseEnumInfo_eq, bind_run_eq_panic_iff]
  constructor
  · rintro (read | ⟨variant, rest, read, decoded⟩)
    · exact absurd read (neverPanics_readRawEnumInfo size ptr)
    · rw [lift, Outcome.bind_eq_panic_iff, decode_eq_panic_iff, length_raw read] at decoded
      rcases decoded with narrow | ⟨value, -, done⟩
      · exact ⟨narrow, variant, rest, read⟩
      · exact absurd done (Outcome.ok_ne_panic _)
  · rintro ⟨narrow, variant, rest, read⟩
    refine Or.inr ⟨variant, rest, read, ?_⟩
    rw [lift, decode_eq_panic_iff.mpr (by rwa [length_raw read])]
    rfl

/-- A variant that was read in full is as wide as its base type. -/
theorem enumWidth_le_of_parseEnumInfo {size : Nat} {baseType : UInt32} {ptr rest : List UInt8}
    {info : EnumInfo} (read : parseEnumInfo size baseType ptr = .ok (info, rest)) :
    enumWidth baseType ≤ size := by
  by_contra narrow
  rw [parseEnumInfo_eq] at read
  obtain ⟨variant, middle, raw, -⟩ := bind_run_eq_ok_iff.mp read
  have panicked : parseEnumInfo size baseType ptr = .panic :=
    parseEnumInfo_eq_panic_iff.mpr ⟨Nat.lt_of_not_le narrow, variant, middle, raw⟩
  rw [parseEnumInfo_eq, read] at panicked
  contradiction

/-- The variants of an enum panic exactly if its size is below the base type's width
and there is a variant. -/
theorem parseEnumInfos_eq_panic_iff {size : Nat} {baseType : UInt32} {ptr : List UInt8} :
    parseEnumInfos size baseType ptr = .panic ↔
      size < enumWidth baseType ∧ FirstEnumInfo size ptr := by
  rw [parseEnumInfos, firstEnumInfo_iff]
  by_cases counted : 2 ≤ ptr.length
  · rw [bind_run_ok (u16_run _ counted), repeatN_eq_panic_iff]
    constructor
    · rintro ⟨round, before, infos, place, ran, panicked⟩
      obtain ⟨narrow, there⟩ := parseEnumInfo_eq_panic_iff.mp panicked
      cases round with
      | zero =>
          cases ran
          refine ⟨narrow, fun none => ?_, there⟩
          rw [none] at before
          exact Nat.lt_irrefl 0 before
      | succ round =>
          -- the variant before would have panicked already
          obtain ⟨info, infos, middle, first, -, -⟩ := repeatN_succ_eq_ok_iff.mp ran
          exact absurd narrow (Nat.not_lt_of_le (enumWidth_le_of_parseEnumInfo first))
    · rintro ⟨narrow, some, there⟩
      have positive : 0 < (leU16 ptr).toNat :=
        Nat.pos_of_ne_zero fun none => some (UInt16.toNat_inj.mp none)
      exact ⟨0, positive, [], ptr.drop 2, rfl, parseEnumInfo_eq_panic_iff.mpr ⟨narrow, there⟩⟩
  · rw [bind_run_err (u16_run_short _ (Nat.lt_of_not_le counted))]
    constructor
    · intro failed
      contradiction
    · rintro ⟨-, -, variant, rest, read⟩
      rw [List.drop_eq_nil_of_le (Nat.le_of_lt (Nat.lt_of_not_le counted))] at read
      cases read

/-! ## Values -/

/-- The number that the bytes of an integer type stand for. -/
def IntegerType.value (typ : IntegerType) (raw : List UInt8) : Int :=
  if typ.signed then leInt raw else leValue raw

/-- Bytes stand for the same signed and unsigned number exactly if the top bit is clear. -/
theorem leInt_eq_leValue_iff {raw : List UInt8} :
    leInt raw = leValue raw ↔ 2 * leValue raw < 256 ^ raw.length := by
  have bound := leValue_lt raw
  have positive : (0 : Int) < 256 ^ raw.length := by positivity
  rw [leInt]
  by_cases clear : 2 * leValue raw < 256 ^ raw.length
  · rw [if_pos clear]
    exact ⟨fun _ => clear, fun _ => rfl⟩
  · rw [if_neg clear]
    constructor
    · intro same
      omega
    · intro below
      exact absurd below clear

/-- A value of its type's natural size is decoded as its type says, apart from the
unsigned numbers of 64 bits, which are taken for signed ones. -/
theorem enumValue_of_integerType {baseType : UInt32} {typ : IntegerType} {raw : List UInt8}
    (isInteger : integerType baseType = some typ) (size : raw.length = typ.width) :
    enumValue baseType raw = .ok (if baseType = 21 then leInt raw else typ.value raw) := by
  have whole : raw.take typ.width = raw := List.take_of_length_le size.le
  unfold integerType at isInteger
  split at isInteger <;> cases isInteger
  all_goals
    rw [enumValue]
    dsimp only
    rw [if_pos size.ge, whole]
    rfl

/-- What the decoder makes of a variant of an integer type. -/
def RawEnumInfo.decoded (baseType : UInt32) (typ : IntegerType) (variant : RawEnumInfo) :
    EnumInfo where
  name := variant.name
  value := if baseType = 21 then leInt variant.raw else typ.value variant.raw

/-- What the documentation promises for a variant of an integer type. -/
def RawEnumInfo.promised (typ : IntegerType) (variant : RawEnumInfo) : EnumInfo where
  name := variant.name
  value := typ.value variant.raw

/-- A list of computations whose results are known has exactly these results. -/
theorem forall₂_eq_ok_iff {α β ε : Type} {f : α → Outcome ε β} {g : α → β} {values : List α}
    {results : List β} (each : ∀ value ∈ values, f value = .ok (g value)) :
    List.Forall₂ (fun value result => f value = .ok result) values results ↔
      results = values.map g := by
  induction values generalizing results with
  | nil => simp
  | cons value values ih =>
      obtain ⟨first, others⟩ := List.forall_mem_cons.mp each
      cases results with
      | nil => simp
      | cons result results =>
          rw [List.forall₂_cons, ih others, first, List.map_cons]
          constructor
          · rintro ⟨⟨⟩, rfl⟩
            rfl
          · rintro ⟨⟩
            exact ⟨rfl, rfl⟩

/-- The variants of an integer type at its natural size are those on the wire, each with
what the decoder makes of it. -/
theorem parseEnumInfos_of_integerType {baseType : UInt32} {typ : IntegerType} {size : Nat}
    {ptr rest : List UInt8} {infos : List EnumInfo}
    (isInteger : integerType baseType = some typ) (natural : size = typ.width) :
    parseEnumInfos size baseType ptr = .ok (infos, rest) ↔
      ∃ variants, readRawEnumInfos size ptr = .ok (variants, rest) ∧
        infos = variants.map (RawEnumInfo.decoded baseType typ) := by
  rw [parseEnumInfos_eq_ok_iff]
  have decodes : ∀ variants, readRawEnumInfos size ptr = .ok (variants, rest) →
      ∀ variant ∈ variants,
        variant.decode baseType = .ok (variant.decoded baseType typ) := by
    intro variants read variant member
    have width := (length_raw_of_mem read variant member).trans natural
    rw [RawEnumInfo.decode, enumValue_of_integerType isInteger width]
    rfl
  constructor
  · rintro ⟨variants, read, decoded⟩
    exact ⟨variants, read, (forall₂_eq_ok_iff (decodes variants read)).mp decoded⟩
  · rintro ⟨variants, read, decoded⟩
    exact ⟨variants, read, (forall₂_eq_ok_iff (decodes variants read)).mpr decoded⟩

theorem integerType_21 : integerType 21 = some ⟨8, false⟩ :=
  rfl

/-- The decoder keeps the promise for a variant exactly if it has no unsigned number of
64 bits that takes them all. -/
theorem decoded_eq_promised_iff {baseType : UInt32} {typ : IntegerType} {variant : RawEnumInfo}
    (isInteger : integerType baseType = some typ) (natural : variant.raw.length = typ.width) :
    variant.decoded baseType typ = variant.promised typ ↔
      (baseType = 21 → leValue variant.raw < 2 ^ 63) := by
  rw [RawEnumInfo.decoded, RawEnumInfo.promised, EnumInfo.mk.injEq]
  by_cases unsigned : baseType = 21
  · subst unsigned
    cases isInteger.symm.trans integerType_21
    have width : variant.raw.length = 8 := natural
    rw [if_pos rfl]
    show _ ∧ leInt variant.raw = leValue variant.raw ↔ _
    rw [leInt_eq_leValue_iff, width]
    constructor
    · rintro ⟨-, below⟩ -
      omega
    · intro below
      have bound := below rfl
      exact ⟨rfl, by omega⟩
  · rw [if_neg unsigned]
    exact ⟨fun _ same => absurd same unsigned, fun _ => ⟨rfl, rfl⟩⟩

/-- The variants of an enum are decoded without a panic, and an integer type's to the
numbers on the wire, exactly if the size is not below the base type's width where there
is a variant, and no unsigned number of 64 bits is above the signed ones. -/
theorem parseEnumInfos_faithful_iff (size : Nat) (baseType : UInt32) (ptr : List UInt8) :
    (parseEnumInfos size baseType ptr ≠ .panic ∧
      ∀ typ, integerType baseType = some typ → size = typ.width →
        ∀ infos rest, parseEnumInfos size baseType ptr = .ok (infos, rest) →
          ∃ variants, readRawEnumInfos size ptr = .ok (variants, rest) ∧
            infos = variants.map (RawEnumInfo.promised typ)) ↔
      ¬(size < enumWidth baseType ∧ FirstEnumInfo size ptr) ∧
        (baseType = 21 → size = 8 →
          ∀ variants rest, readRawEnumInfos size ptr = .ok (variants, rest) →
            ∀ variant ∈ variants, leValue variant.raw < 2 ^ 63) := by
  rw [Ne, parseEnumInfos_eq_panic_iff]
  apply and_congr_right
  rintro -
  constructor
  · rintro kept rfl rfl variants rest read variant member
    have parsed := (parseEnumInfos_of_integerType integerType_21 rfl).mpr ⟨variants, read, rfl⟩
    obtain ⟨same, again, promised⟩ := kept _ integerType_21 rfl _ _ parsed
    cases read.symm.trans again
    have agree := List.map_inj_left.mp promised variant member
    exact (decoded_eq_promised_iff integerType_21 (length_raw_of_mem read variant member)).mp
      agree rfl
  · intro below typ isInteger natural infos rest parsed
    obtain ⟨variants, read, rfl⟩ := (parseEnumInfos_of_integerType isInteger natural).mp parsed
    refine ⟨variants, read, List.map_congr_left ?_⟩
    intro variant member
    have width := (length_raw_of_mem read variant member).trans natural
    apply (decoded_eq_promised_iff isInteger width).mpr
    rintro rfl
    cases isInteger.symm.trans integerType_21
    exact below rfl natural variants rest read variant member

/-- A signed word declared with one byte panics, and the largest unsigned number of 64
bits is decoded as minus one. -/
theorem parseEnumInfos_unfaithful :
    parseEnumInfos 1 2 [1, 0, 0, 0, 5] = .panic ∧
      parseEnumInfos 8 21 [1, 0, 0, 0, 255, 255, 255, 255, 255, 255, 255, 255] =
        .ok ([{ name := "", value := -1 }], []) ∧
      IntegerType.value ⟨8, false⟩ (List.replicate 8 255) = 2 ^ 64 - 1 := by
  refine ⟨rfl, rfl, ?_⟩
  decide

end Ads.Symbols
