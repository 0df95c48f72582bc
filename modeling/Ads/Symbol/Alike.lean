import Ads.Symbol.Nested

/-!
# One record as a type and as a field

The same bytes can be decoded as a type of their own or as a field.  Both decoders read
the head alike.  Before the sections the decoder of a type reads the sub-items; the
decoder of a field does not, and takes their first bytes for its sections.
-/

namespace Ads.Symbols

open Ads.Bytes Ads.Bytes.Reader Ads.Control Ads.Text

/-- A field says of itself what a type says of itself. -/
structure Alike (typ : TypeInfo) (field : Field) : Prop where
  name : field.name = typ.name
  typeName : field.typ = typ.typeName
  size : field.size = typ.size
  array : field.array = typ.array
  baseType : field.baseType = typ.baseType
  flags : field.flags = typ.flags
  comment : field.comment = typ.comment
  attributes : field.attributes = typ.attributes

/-! ## What a decoded record consists of -/

/-- A type that was decoded consists of a head, its sub-items and its sections. -/
theorem TypeLaid.parts {ptr : List UInt8} {typ : TypeInfo} (laid : TypeLaid ptr typ) :
    ∃ head input behind sections middle rest,
      readTypeInfoHead ptr = .ok (head, input) ∧ typ.fields.length = head.subItems ∧
        Laid FieldLaid input typ.fields behind ∧
        SectionsLaid head.flags head.size behind sections middle ∧
        optionally (hasFlag head.flags typeFlagAttributes) parseAttributes middle =
          .ok (typ.attributes, rest) ∧
        Alike typ (head.toField typ.attributes) := by
  cases laid with
  | intro headRead count fields sections ends =>
      obtain ⟨attributes, rest, attributesRead, ends⟩ := bind_run_eq_ok_iff.mp ends
      obtain ⟨enums, last, -, made⟩ := bind_run_eq_ok_iff.mp ends
      cases made
      refine ⟨_, _, _, _, _, rest, headRead, count, fields, sections, attributesRead, ?_⟩
      constructor <;> rfl

/-- A field is decoded exactly if it lies in the bytes of its record. -/
theorem decodeTypeInfo_field_iff {ptr : List UInt8} {parent : TypeInfo} {field : Field} :
    decodeTypeInfo ptr (some parent) =
        .ok (none, some { parent with fields := parent.fields ++ [field] }) ↔
      FieldLaid ptr field := by
  rw [decodeTypeInfo_eq_ok_iff]
  constructor
  · generalize isResult : (none, some { parent with fields := parent.fields ++ [field] }) = result
    intro laid
    cases laid with
    | field laid =>
        have same := congrArg TypeInfo.fields (Option.some.inj (congrArg Prod.snd isResult))
        obtain ⟨rfl⟩ := List.append_cancel_left same
        exact laid
  · exact .field

/-- The field of a record with this head. -/
theorem fieldLaid_iff {ptr input : List UInt8} {head : TypeInfoHead} {field : Field}
    (read : readTypeInfoHead ptr = .ok (head, input)) :
    FieldLaid ptr field ↔
      ∃ attributes sections place rest,
        SectionsLaid head.flags head.size input sections place ∧
          optionally (hasFlag head.flags typeFlagAttributes) parseAttributes place =
            .ok (attributes, rest) ∧
          field = head.toField attributes := by
  constructor
  · intro laid
    cases laid with
    | intro again sections attributesRead =>
        cases read.symm.trans again
        exact ⟨_, _, _, _, sections, attributesRead, rfl⟩
  · rintro ⟨attributes, sections, place, rest, laid, attributesRead, rfl⟩
    exact .intro read laid attributesRead

/-! ## Where sections have their attributes -/

theorem fixed_parseGuid : Fixed parseGuid 16 :=
  (fixed_take _ 16).bind fun _ => Fixed.pure _

theorem fixed_skipCopyMask (size : Nat) : Fixed (skipCopyMask size) size :=
  (fixed_take _ size).bind fun _ => Fixed.pure ()

/-- The bytes of the GUID and the copy mask. -/
def sectionsStart (flags : UInt32) (size : Nat) : Nat :=
  (if hasFlag flags typeFlagGuid then 16 else 0) +
    if hasFlag flags typeFlagCopyMask then size else 0

/-- The attributes of sections that begin with `input` are at `place`: behind the bytes of the
GUID and the copy mask, and behind the method infos. -/
def AttributesAt (flags : UInt32) (size : Nat) (input place : List UInt8) : Prop :=
  sectionsStart flags size ≤ input.length ∧
    if hasFlag flags typeFlagMethodInfos then
      ∃ methods, MethodsLaid (input.drop (sectionsStart flags size)) methods place
    else input.drop (sectionsStart flags size) = place

theorem attributesAt_iff {flags : UInt32} {size : Nat} {input place : List UInt8} :
    AttributesAt flags size input place ↔
      ∃ sections, SectionsLaid flags size input sections place := by
  have guid := fixed_parseGuid.optionally (hasFlag flags typeFlagGuid)
  have mask := (fixed_skipCopyMask size).optionally (hasFlag flags typeFlagCopyMask)
  rw [AttributesAt, sectionsStart, ← List.drop_drop]
  constructor
  · rintro ⟨enough, methods⟩
    obtain ⟨text, guidRead⟩ := guid.reads input (Nat.le_of_add_right_le enough)
    obtain ⟨skipped, maskRead⟩ := mask.reads _
      (by rw [List.length_drop]; exact Nat.le_sub_of_add_le' enough)
    split at methods
    · rename_i flagged
      obtain ⟨methods, laid⟩ := methods
      exact ⟨(text, some methods), .intro guidRead maskRead ⟨flagged, laid⟩⟩
    · rename_i unflagged
      exact ⟨(text, none), .intro guidRead maskRead ⟨Bool.eq_false_iff.mpr unflagged, methods⟩⟩
  · rintro ⟨sections, laid⟩
    cases laid with
    | @intro _ _ methods _ _ _ guidRead maskRead laid =>
        have first := guid.enough _ _ _ guidRead
        obtain ⟨_, again⟩ := guid.reads input first
        cases guidRead.symm.trans again
        have second := mask.enough _ _ _ maskRead
        obtain ⟨_, again⟩ := mask.reads _ second
        cases maskRead.symm.trans again
        rw [List.length_drop] at second
        refine ⟨by omega, ?_⟩
        cases methods with
        | some methods =>
            rw [if_pos laid.1]
            exact ⟨methods, laid.2⟩
        | none =>
            rw [if_neg (Bool.eq_false_iff.mp laid.1)]
            exact laid.2

/-- There is one such place at most. -/
theorem AttributesAt.unique {flags : UInt32} {size : Nat} {input place other : List UInt8}
    (first : AttributesAt flags size input place) (second : AttributesAt flags size input other) :
    place = other := by
  obtain ⟨_, laid⟩ := attributesAt_iff.mp first
  obtain ⟨_, again⟩ := attributesAt_iff.mp second
  cases (readSections_eq_ok_iff.mpr laid).symm.trans (readSections_eq_ok_iff.mpr again)
  rfl

/-! ## Attributes -/

/-- A row of attributes: the lengths of a name and a value, and these, each with a byte behind
it, as far as the bytes go. -/
inductive AttributeRow : List UInt8 → List Attribute → List UInt8 → Prop
  | nil (place : List UInt8) : AttributeRow place [] place
  | cons {nameLen valueLen : UInt8} {name value rest : List UInt8} {attributes : List Attribute}
      (isValue : value = name.drop (nameLen.toNat + 1))
      (others : AttributeRow (value.drop (valueLen.toNat + 1)) attributes rest) :
      AttributeRow (nameLen :: valueLen :: name)
        (⟨fromUtf8Lossy (name.take nameLen.toNat), fromUtf8Lossy (value.take valueLen.toNat)⟩ ::
          attributes) rest

/-- The bytes of a list of attributes: how many there are, and the row. -/
def AttributesLaid (place : List UInt8) (attributes : List Attribute) (rest : List UInt8) : Prop :=
  ∃ (count : UInt16) (first : List UInt8), place = u16Bytes count ++ first ∧
    attributes.length = count.toNat ∧ AttributeRow first attributes rest

theorem parseAttribute_cons (nameLen valueLen : UInt8) (name : List UInt8) :
    parseAttribute (nameLen :: valueLen :: name) =
      .ok (⟨fromUtf8Lossy (name.take nameLen.toNat),
          fromUtf8Lossy ((name.drop (nameLen.toNat + 1)).take valueLen.toNat)⟩,
        (name.drop (nameLen.toNat + 1)).drop (valueLen.toNat + 1)) := by
  rw [parseAttribute, bind_run_ok (u8_cons _ nameLen _), bind_run_ok (u8_cons _ valueLen _),
    bind_run_ok (readStr_u8 nameLen name), bind_run_ok (readStr_u8 valueLen _)]
  rfl

theorem repeatN_parseAttribute_eq_ok_iff {count : Nat} {input rest : List UInt8}
    {attributes : List Attribute} :
    repeatN parseAttribute count input = .ok (attributes, rest) ↔
      attributes.length = count ∧ AttributeRow input attributes rest := by
  induction count generalizing input attributes with
  | zero =>
      constructor
      · intro ran
        cases ran
        exact ⟨rfl, .nil _⟩
      · rintro ⟨none, row⟩
        cases row with
        | nil => rfl
        | cons => cases none
  | succ count ih =>
      rw [repeatN_succ_eq_ok_iff]
      constructor
      · rintro ⟨entry, others, middle, ran, loop, rfl⟩
        obtain ⟨number, row⟩ := ih.mp loop
        refine ⟨congrArg (· + 1) number, ?_⟩
        cases input with
        | nil => cases ran
        | cons nameLen input =>
            cases input with
            | nil => cases ran
            | cons valueLen name =>
                rw [parseAttribute_cons] at ran
                cases ran
                exact .cons rfl row
      · rintro ⟨number, row⟩
        cases row with
        | nil => cases number
        | @cons nameLen valueLen name _ _ others isValue row =>
            subst isValue
            exact ⟨_, others, _, parseAttribute_cons nameLen valueLen name,
              ih.mpr ⟨Nat.succ.inj number, row⟩, rfl⟩

theorem parseAttributes_eq_ok_iff {place rest : List UInt8} {attributes : List Attribute} :
    parseAttributes place = .ok (attributes, rest) ↔ AttributesLaid place attributes rest := by
  rw [parseAttributes, bind_run_eq_ok_iff]
  constructor
  · rintro ⟨count, first, counted, loop⟩
    obtain ⟨-, bytes⟩ := (exact_u16 _ _ _ _).mp counted
    exact ⟨count, first, bytes, repeatN_parseAttribute_eq_ok_iff.mp loop⟩
  · rintro ⟨count, first, bytes, row⟩
    exact ⟨count, first, (exact_u16 _ _ _ _).mpr ⟨trivial, bytes⟩,
      repeatN_parseAttribute_eq_ok_iff.mpr row⟩

/-! ## Where the two decoders agree -/

/-- The bytes behind a record's head, where its sub-items begin, happen to read as sections:
there are a GUID, a copy mask and method infos in them as the flags say, and if there are
attributes, then with the same texts as those behind the sub-items. -/
def Coincides (flags : UInt32) (size : Nat) (input behind : List UInt8) : Prop :=
  ∃ place, AttributesAt flags size input place ∧
    (hasFlag flags typeFlagAttributes = true → ∃ other attributes rest rest',
      AttributesAt flags size behind other ∧ AttributesLaid place attributes rest ∧
        AttributesLaid other attributes rest')

/-- There are no sub-items in front of the sections; or neither methods nor attributes; or
both, and the bytes of the sub-items coincide with the sections behind them. -/
def SectionsAlike (ptr : List UInt8) : Prop :=
  ∃ head input fields behind,
    readTypeInfoHead ptr = .ok (head, input) ∧ fields.length = head.subItems ∧
      Laid FieldLaid input fields behind ∧
      (head.subItems = 0 ∨
        hasFlag head.flags typeFlagMethodInfos = false ∧
          hasFlag head.flags typeFlagAttributes = false ∨
        0 < head.subItems ∧ (hasFlag head.flags typeFlagMethodInfos = true ∨
            hasFlag head.flags typeFlagAttributes = true) ∧
          Coincides head.flags head.size input behind)

section

variable {flags : UInt32} {size : Nat} {input behind : List UInt8}
  {attributes : Option (List Attribute)}

/-- The bytes at `input` read as sections with these attributes. -/
def ReadsAlike (flags : UInt32) (size : Nat) (input : List UInt8)
    (attributes : Option (List Attribute)) : Prop :=
  ∃ sections place rest, SectionsLaid flags size input sections place ∧
    optionally (hasFlag flags typeFlagAttributes) parseAttributes place = .ok (attributes, rest)

/-- Without methods and attributes, sections are a number of bytes that are skipped. -/
theorem readsAlike_of_skipped (noMethods : hasFlag flags typeFlagMethodInfos = false)
    (noAttributes : hasFlag flags typeFlagAttributes = false)
    (longer : behind.length ≤ input.length)
    (reads : ReadsAlike flags size behind attributes) :
    ReadsAlike flags size input attributes := by
  obtain ⟨sections, middle, rest, laid, read⟩ := reads
  obtain ⟨enough, -⟩ := attributesAt_iff.mpr ⟨sections, laid⟩
  have here : AttributesAt flags size input (input.drop (sectionsStart flags size)) := by
    refine ⟨Nat.le_trans enough longer, ?_⟩
    rw [noMethods, if_neg Bool.false_ne_true]
  obtain ⟨others, laid⟩ := attributesAt_iff.mp here
  rw [noAttributes] at read
  cases read
  exact ⟨others, _, _, laid, by rw [noAttributes]; rfl⟩

/-- The bytes read alike exactly if they coincide. -/
theorem readsAlike_iff_coincides (reads : ReadsAlike flags size behind attributes) :
    ReadsAlike flags size input attributes ↔ Coincides flags size input behind := by
  obtain ⟨sections, middle, rest, laid, read⟩ := reads
  have there := attributesAt_iff.mpr ⟨sections, laid⟩
  cases flagged : hasFlag flags typeFlagAttributes with
  | false =>
      rw [flagged] at read
      cases read
      constructor
      · rintro ⟨others, place, rest, laid, -⟩
        exact ⟨place, attributesAt_iff.mpr ⟨others, laid⟩, fun present => by
          rw [flagged] at present
          cases present⟩
      · rintro ⟨place, here, -⟩
        obtain ⟨others, laid⟩ := attributesAt_iff.mp here
        exact ⟨others, place, place, laid, by rw [flagged]; rfl⟩
  | true =>
      cases attributes with
      | none =>
          obtain ⟨absent, -⟩ := optionally_run_eq_none_iff.mp read
          rw [flagged] at absent
          cases absent
      | some attributes =>
          obtain ⟨-, table⟩ := optionally_run_eq_ok_iff.mp read
          constructor
          · rintro ⟨others, place, last, laid, read⟩
            obtain ⟨-, here⟩ := optionally_run_eq_ok_iff.mp read
            exact ⟨place, attributesAt_iff.mpr ⟨others, laid⟩, fun _ => ⟨middle, attributes, last,
              rest, there, parseAttributes_eq_ok_iff.mp here, parseAttributes_eq_ok_iff.mp table⟩⟩
          · rintro ⟨place, here, same⟩
            obtain ⟨other, texts, last, last', again, table', table''⟩ := same flagged
            obtain ⟨others, laid⟩ := attributesAt_iff.mp here
            cases there.unique again
            cases table.symm.trans (parseAttributes_eq_ok_iff.mpr table'')
            exact ⟨others, place, last, laid, optionally_run_eq_ok_iff.mpr
              ⟨flagged, parseAttributes_eq_ok_iff.mpr table'⟩⟩

/-- A record is a field alike exactly if the bytes behind its head read as sections with the
type's attributes. -/
theorem asField_iff_readsAlike {ptr : List UInt8} {head : TypeInfoHead} {typ : TypeInfo}
    (read : readTypeInfoHead ptr = .ok (head, input))
    (alike : Alike typ (head.toField typ.attributes)) :
    (∀ parent : TypeInfo, ∃ field,
      decodeTypeInfo ptr (some parent) =
          .ok (none, some { parent with fields := parent.fields ++ [field] }) ∧
        Alike typ field) ↔ ReadsAlike head.flags head.size input typ.attributes := by
  simp only [decodeTypeInfo_field_iff, fieldLaid_iff read]
  constructor
  · intro asField
    obtain ⟨_, ⟨attributes, others, place, last, laid, read, rfl⟩, same⟩ := asField typ
    cases same.attributes
    exact ⟨others, place, last, laid, read⟩
  · rintro ⟨others, place, last, laid, read⟩ -
    exact ⟨_, ⟨_, others, place, last, laid, read, rfl⟩, alike⟩

end

/-- A record that decodes as a type decodes alike as a field exactly if it has no sub-items in
front of its sections, or neither methods nor attributes, or sub-items whose bytes coincide
with the sections behind them. -/
theorem decodeTypeInfo_alike_iff {ptr : List UInt8} {typ : TypeInfo}
    (decoded : decodeTypeInfo ptr none = .ok (some typ, none)) :
    (∀ parent : TypeInfo, ∃ field,
      decodeTypeInfo ptr (some parent) =
          .ok (none, some { parent with fields := parent.fields ++ [field] }) ∧
        Alike typ field) ↔ SectionsAlike ptr := by
  obtain ⟨laid⟩ := decodeTypeInfo_eq_ok_iff.mp decoded
  obtain ⟨head, input, behind, sections, middle, rest, headRead, count, fields, sectionsLaid,
    attributesRead, alike⟩ := laid.parts
  have type : ReadsAlike head.flags head.size behind typ.attributes :=
    ⟨sections, middle, rest, sectionsLaid, attributesRead⟩
  rw [asField_iff_readsAlike headRead alike]
  constructor
  · intro reads
    refine ⟨head, input, typ.fields, behind, headRead, count, fields, ?_⟩
    rcases Nat.eq_zero_or_pos head.subItems with none | some
    · exact .inl none
    · cases methods : hasFlag head.flags typeFlagMethodInfos with
      | true =>
          exact .inr (.inr ⟨some, .inl rfl, (readsAlike_iff_coincides type).mp reads⟩)
      | false =>
          cases attributes : hasFlag head.flags typeFlagAttributes with
          | true =>
              exact .inr (.inr ⟨some, .inr rfl, (readsAlike_iff_coincides type).mp reads⟩)
          | false => exact .inr (.inl ⟨rfl, rfl⟩)
  · rintro ⟨again, input', fields', behind', headAgain, countAgain, fieldsAgain, reason⟩
    cases headRead.symm.trans headAgain
    have entries := (entries_iff_laid fun _ _ => readField_eq_ok_iff).mpr fields
    have entriesAgain := (entries_iff_laid fun _ _ => readField_eq_ok_iff).mpr fieldsAgain
    obtain ⟨rfl, rfl⟩ := entries.unique entriesAgain (count.trans countAgain.symm)
    rcases reason with none | ⟨noMethods, noAttributes⟩ | ⟨-, -, coincides⟩
    · rw [none] at count
      rw [List.length_eq_zero_iff.mp count] at fields
      cases fields
      exact type
    · exact readsAlike_of_skipped noMethods noAttributes entries.length_le type
    · exact (readsAlike_iff_coincides type).mpr coincides

/-- A record with a GUID and an attribute in front of no sub-items. -/
theorem decodeTypeInfo_alike_sample :
    let record := [1, 0, 0, 0] ++ List.replicate 20 0 ++ [128, 16, 0, 0] ++
      List.replicate 13 0 ++ List.replicate 16 7 ++ [1, 0, 1, 0, 97, 0, 0]
    let parent : TypeInfo := ⟨"P", "", "", 0, [], [], 0, 0, none, none, none, none⟩
    ∃ field,
      decodeTypeInfo record (some parent) = .ok (none, some { parent with fields := [field] }) ∧
        field.attributes = some [⟨"a", ""⟩] := by
  intro record parent
  have decoded : decodeTypeInfo record none =
      .ok (some ⟨"", "", "", 0, [], [], 0, 0x1080, some "07070707-0707-0707-0707-070707070707",
        none, some [⟨"a", ""⟩], none⟩, none) := by decide +kernel
  have head : readTypeInfoHead record =
      .ok (⟨0, 0, 0, 0x1080, 0, "", "", "", []⟩,
        List.replicate 16 7 ++ [1, 0, 1, 0, 97, 0, 0]) := by decide +kernel
  have sections : SectionsAlike record :=
    ⟨_, _, [], _, head, rfl, Laid.nil _, Or.inl rfl⟩
  obtain ⟨field, asField, alike⟩ := (decodeTypeInfo_alike_iff decoded).mpr sections parent
  exact ⟨field, asField, alike.attributes⟩

/-- A type with a sub-item and an empty list of attributes: as a field, the sub-item's length
is taken for the number of the attributes. -/
theorem decodeTypeInfo_not_alike :
    let item := frame ([1, 0, 0, 0] ++ List.replicate 37 0)
    let record := [1, 0, 0, 0] ++ List.replicate 20 0 ++ [0, 16, 0, 0] ++ List.replicate 8 0 ++
      [1, 0, 0, 0, 0] ++ item ++ [0, 0]
    let field : Field := ⟨"", "", some 0, 0, [], 0, 0, "", none⟩
    let typ : TypeInfo := ⟨"", "", "", 0, [], [field], 0, 0x1000, none, none, some [], none⟩
    decodeTypeInfo record none = .ok (some typ, none) ∧
      decodeTypeInfo record (some typ) = .err (.eof "parsing attributes") := by
  decide +kernel

end Ads.Symbols
