import Ads.Symbol.Sections

/-!
# How a type-info record lies in its bytes

What the decoders accept, as a relation between bytes and what they describe.  Nested
records lie one behind the other, each in exactly the bytes that its length declares,
and what the record around them says next begins right behind the last one.
-/

namespace Ads.Symbols

open Ads.Bytes Ads.Bytes.Reader Ads.Control

/-! ## Methods -/

/-- The method that a head, parameters and attributes describe. -/
def RpcMethodHead.toMethod (head : RpcMethodHead) (parameters : List RpcMethodParameter)
    (attributes : Option (List Attribute)) : RpcMethod where
  name := head.name
  returnType := head.returnType
  returnSize := head.returnSize
  comment := head.comment
  parameters := parameters
  attributes := attributes.getD []

/-- The bytes of a method's record: its head, its parameters, and right behind the last of
them the attributes. -/
inductive MethodLaid (content : List UInt8) : RpcMethod → Prop
  | intro {head : RpcMethodHead} {input behind rest : List UInt8}
      {parameters : List RpcMethodParameter} {attributes : Option (List Attribute)}
      (headRead : readRpcMethodHead content = .ok (head, input))
      (count : parameters.length = head.paramCount)
      (entries : Entries parseRpcMethodParameter.runOn input parameters behind)
      (attributesRead : optionally (hasFlag head.flags rpcMethodAttributeFlag) parseAttributes
        behind = .ok (attributes, rest)) :
      MethodLaid content (head.toMethod parameters attributes)

/-- A method is decoded from a record exactly if it lies in its bytes. -/
theorem parseRpcMethod_eq_ok_iff {content : List UInt8} {method : RpcMethod} :
    parseRpcMethod.runOn content = .ok method ↔ MethodLaid content method := by
  rw [runOn_eq_ok_iff, parseRpcMethod_eq]
  constructor
  · rintro ⟨rest, ran⟩
    obtain ⟨head, input, headRead, body⟩ := bind_run_eq_ok_iff.mp ran
    obtain ⟨parameters, behind, loop, ran⟩ := bind_run_eq_ok_iff.mp body
    obtain ⟨attributes, last, attributesRead, made⟩ := bind_run_eq_ok_iff.mp ran
    obtain ⟨count, entries⟩ := repeatN_framed_eq_ok_iff.mp loop
    cases made
    exact .intro headRead count entries attributesRead
  · intro laid
    cases laid with
    | @intro head input behind rest parameters _ headRead count entries attributesRead =>
        have loop : repeatN parameterEntry head.paramCount input = .ok (parameters, behind) :=
          repeatN_framed_eq_ok_iff.mpr ⟨count, entries⟩
        refine ⟨rest, ?_⟩
        rw [bind_run_ok headRead, readRpcMethodBody, bind_run_ok loop, bind_run_ok attributesRead]
        rfl

/-- The bytes of method infos: how many methods there are, and the methods. -/
inductive MethodsLaid (input : List UInt8) : List RpcMethod → List UInt8 → Prop
  | intro {count : UInt16} {first rest : List UInt8} {methods : List RpcMethod}
      (counted : input = u16Bytes count ++ first)
      (number : methods.length = count.toNat)
      (laid : Laid MethodLaid first methods rest) :
      MethodsLaid input methods rest

theorem parseMethodInfos_eq_ok_iff {input rest : List UInt8} {methods : List RpcMethod} :
    parseMethodInfos input = .ok (methods, rest) ↔ MethodsLaid input methods rest := by
  rw [parseMethodInfos_eq, bind_run_eq_ok_iff]
  constructor
  · rintro ⟨count, first, counted, loop⟩
    obtain ⟨-, bytes⟩ := (exact_u16 _ _ _ _).mp counted
    obtain ⟨number, entries⟩ := repeatN_framed_eq_ok_iff.mp loop
    exact .intro bytes number ((entries_iff_laid fun _ _ => parseRpcMethod_eq_ok_iff).mp entries)
  · intro laid
    cases laid with
    | @intro count first _ _ bytes number laid =>
        have entries := (entries_iff_laid fun _ _ => parseRpcMethod_eq_ok_iff).mpr laid
        exact ⟨count, first, (exact_u16 _ _ _ _).mpr ⟨trivial, bytes⟩,
          repeatN_framed_eq_ok_iff.mpr ⟨number, entries⟩⟩

/-! ## Sections -/

/-- The bytes of the sections in front of the attributes. -/
inductive SectionsLaid (flags : UInt32) (size : Nat) (input : List UInt8) :
    Option String × Option (List RpcMethod) → List UInt8 → Prop
  | intro {guid : Option String} {skipped : Option Unit} {methods : Option (List RpcMethod)}
      {afterGuid afterMask rest : List UInt8}
      (guidRead : optionally (hasFlag flags typeFlagGuid) parseGuid input = .ok (guid, afterGuid))
      (maskRead : optionally (hasFlag flags typeFlagCopyMask) (skipCopyMask size) afterGuid =
        .ok (skipped, afterMask))
      (laid : match methods with
        | some methods => hasFlag flags typeFlagMethodInfos = true ∧
            MethodsLaid afterMask methods rest
        | none => hasFlag flags typeFlagMethodInfos = false ∧ afterMask = rest) :
      SectionsLaid flags size input (guid, methods) rest

theorem readSections_eq_ok_iff {flags : UInt32} {size : Nat} {input rest : List UInt8}
    {sections : Option String × Option (List RpcMethod)} :
    readSections flags size input = .ok (sections, rest) ↔
      SectionsLaid flags size input sections rest := by
  constructor
  · intro ran
    obtain ⟨guid, afterGuid, guidRead, ran⟩ := bind_run_eq_ok_iff.mp ran
    obtain ⟨skipped, afterMask, maskRead, ran⟩ := bind_run_eq_ok_iff.mp ran
    obtain ⟨methods, last, methodsRead, made⟩ := bind_run_eq_ok_iff.mp ran
    cases made
    refine .intro guidRead maskRead ?_
    cases methods with
    | some methods =>
        obtain ⟨present, read⟩ := optionally_run_eq_ok_iff.mp methodsRead
        exact ⟨present, parseMethodInfos_eq_ok_iff.mp read⟩
    | none => exact optionally_run_eq_none_iff.mp methodsRead
  · intro laid
    cases laid with
    | @intro _ _ methods _ _ _ guidRead maskRead laid =>
        rw [readSections, bind_run_ok guidRead, bind_run_ok maskRead]
        refine bind_run_eq_ok_iff.mpr ⟨methods, rest, ?_, rfl⟩
        cases methods with
        | some methods =>
            exact optionally_run_eq_ok_iff.mpr ⟨laid.1, parseMethodInfos_eq_ok_iff.mpr laid.2⟩
        | none => exact optionally_run_eq_none_iff.mpr laid

/-! ## Records -/

/-- The bytes of a field: its head, its sections, and behind these its attributes. -/
inductive FieldLaid (ptr : List UInt8) : Field → Prop
  | intro {head : TypeInfoHead} {sections : Option String × Option (List RpcMethod)}
      {input behind rest : List UInt8} {attributes : Option (List Attribute)}
      (headRead : readTypeInfoHead ptr = .ok (head, input))
      (laid : SectionsLaid head.flags head.size input sections behind)
      (attributesRead : optionally (hasFlag head.flags typeFlagAttributes) parseAttributes behind =
        .ok (attributes, rest)) :
      FieldLaid ptr (head.toField attributes)

theorem readField_eq_ok_iff {ptr : List UInt8} {field : Field} :
    readField.runOn ptr = .ok field ↔ FieldLaid ptr field := by
  rw [runOn_eq_ok_iff, readField_eq]
  constructor
  · rintro ⟨rest, ran⟩
    obtain ⟨head, input, headRead, ran⟩ := bind_run_eq_ok_iff.mp ran
    obtain ⟨sections, behind, sectionsRead, ran⟩ := bind_run_eq_ok_iff.mp ran
    obtain ⟨attributes, last, attributesRead, made⟩ := bind_run_eq_ok_iff.mp ran
    cases made
    exact .intro headRead (readSections_eq_ok_iff.mp sectionsRead) attributesRead
  · intro laid
    cases laid with
    | @intro _ _ _ _ rest _ headRead laid attributesRead =>
        refine ⟨rest, ?_⟩
        rw [bind_run_ok headRead, bind_run_ok (readSections_eq_ok_iff.mpr laid),
          bind_run_ok attributesRead]
        rfl

/-- The sub-items of a type are read exactly as they lie one behind the other. -/
theorem repeatN_subItemEntry_eq_ok_iff {count : Nat} {input rest : List UInt8}
    {fields : List Field} :
    repeatN subItemEntry count input = .ok (fields, rest) ↔
      fields.length = count ∧ Laid FieldLaid input fields rest := by
  rw [← entries_iff_laid fun _ _ => readField_eq_ok_iff]
  exact repeatN_framed_eq_ok_iff

/-- The bytes of a type: its head, its sub-items, right behind the last of them its sections,
and behind the last method its attributes and enum variants. -/
inductive TypeLaid (ptr : List UInt8) : TypeInfo → Prop
  | intro {head : TypeInfoHead} {fields : List Field}
      {sections : Option String × Option (List RpcMethod)} {typ : TypeInfo}
      {input behind middle rest : List UInt8}
      (headRead : readTypeInfoHead ptr = .ok (head, input))
      (count : fields.length = head.subItems)
      (fieldsLaid : Laid FieldLaid input fields behind)
      (sectionsLaid : SectionsLaid head.flags head.size behind sections middle)
      (ends : readTypeRest (head.withFields fields) sections middle = .ok (typ, rest)) :
      TypeLaid ptr typ

theorem readTypeInfo_eq_ok_iff {ptr : List UInt8} {typ : TypeInfo} :
    readTypeInfo.runOn ptr = .ok typ ↔ TypeLaid ptr typ := by
  rw [runOn_eq_ok_iff, readTypeInfo_eq]
  constructor
  · rintro ⟨rest, ran⟩
    obtain ⟨head, input, headRead, ran⟩ := bind_run_eq_ok_iff.mp ran
    obtain ⟨fields, behind, loop, ran⟩ := bind_run_eq_ok_iff.mp ran
    obtain ⟨sections, middle, sectionsRead, ends⟩ := bind_run_eq_ok_iff.mp ran
    obtain ⟨count, laid⟩ := repeatN_subItemEntry_eq_ok_iff.mp loop
    exact .intro headRead count laid (readSections_eq_ok_iff.mp sectionsRead) ends
  · intro laid
    cases laid with
    | @intro _ _ _ _ _ _ _ rest headRead count laid sections ends =>
        have loop := repeatN_subItemEntry_eq_ok_iff.mpr ⟨count, laid⟩
        refine ⟨rest, ?_⟩
        rw [bind_run_ok headRead, bind_run_ok loop,
          bind_run_ok (readSections_eq_ok_iff.mpr sections)]
        exact ends

/-- The bytes of a record, and what its decoder returns and leaves of the parent. -/
inductive RecordLaid (ptr : List UInt8) :
    Option TypeInfo → Option TypeInfo × Option TypeInfo → Prop
  | type {typ : TypeInfo} (laid : TypeLaid ptr typ) : RecordLaid ptr none (some typ, none)
  | field {parent : TypeInfo} {field : Field} (laid : FieldLaid ptr field) :
      RecordLaid ptr (some parent)
        (none, some { parent with fields := parent.fields ++ [field] })

/-- A record is decoded exactly if it lies in its bytes, with all records nested in it. -/
theorem decodeTypeInfo_eq_ok_iff {ptr : List UInt8} {parent : Option TypeInfo}
    {result : Option TypeInfo × Option TypeInfo} :
    decodeTypeInfo ptr parent = .ok result ↔ RecordLaid ptr parent result := by
  cases parent with
  | none =>
      rw [decodeTypeInfo, Outcome.bind_eq_ok_iff]
      constructor
      · rintro ⟨typ, read, same⟩
        cases same
        exact .type (readTypeInfo_eq_ok_iff.mp read)
      · rintro ⟨laid⟩
        exact ⟨_, readTypeInfo_eq_ok_iff.mpr laid, rfl⟩
  | some parent =>
      rw [decodeTypeInfo, Outcome.bind_eq_ok_iff]
      constructor
      · rintro ⟨field, read, same⟩
        cases same
        exact .field (readField_eq_ok_iff.mp read)
      · intro laid
        cases laid with
        | field laid => exact ⟨_, readField_eq_ok_iff.mpr laid, rfl⟩

end Ads.Symbols
