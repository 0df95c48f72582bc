import Ads.Bytes.Entries
import Ads.Symbol.Enums

/-!
# The sections of a type-info record

The decoders of the upload formats, taken apart at the places where other records
are nested: what a record says before its array bounds, before its sub-items, before
its methods and before its enum variants, and what a method says before its
parameters.  Nothing but the array bounds, the nested records and the enum values
can panic.
-/

namespace Ads.Symbols

open Ads.Bytes Ads.Bytes.Reader Ads.Control Ads.Text

/-! ## Readers that never panic -/

theorem neverPanics_readStr (len : Nat) : NeverPanics (readStr len) := by
  intro ptr
  unfold readStr
  split
  · exact Outcome.err_ne_panic _
  · split
    · exact Outcome.ok_ne_panic _
    · exact Outcome.ok_ne_panic _

theorem neverPanics_parseGuid : NeverPanics parseGuid :=
  (neverPanics_take _ 16).bind fun _ => NeverPanics.pure _

theorem neverPanics_skipCopyMask (size : Nat) : NeverPanics (skipCopyMask size) :=
  (neverPanics_take _ size).bind fun _ => NeverPanics.pure _

theorem neverPanics_parseAttribute : NeverPanics parseAttribute :=
  (neverPanics_u8 _).bind fun _ => (neverPanics_u8 _).bind fun _ =>
    (neverPanics_readStr _).bind fun _ => (neverPanics_readStr _).bind fun _ =>
      NeverPanics.pure _

theorem neverPanics_parseAttributes : NeverPanics parseAttributes :=
  (neverPanics_u16 _).bind fun count => neverPanics_parseAttribute.repeatN count.toNat

theorem neverPanics_parseRpcMethodParameter : NeverPanics parseRpcMethodParameter :=
  (neverPanics_u32 _).bind fun _ => (neverPanics_u32 _).bind fun _ =>
    (neverPanics_u32 _).bind fun _ => (neverPanics_u32 _).bind fun _ =>
      (neverPanics_u32 _).bind fun _ => (neverPanics_take _ 16).bind fun _ =>
        (neverPanics_u16 _).bind fun _ => (neverPanics_u16 _).bind fun _ =>
          (neverPanics_u16 _).bind fun _ => (neverPanics_u16 _).bind fun _ =>
            (neverPanics_readStr _).bind fun _ => (neverPanics_readStr _).bind fun _ =>
              (neverPanics_readStr _).bind fun _ =>
                (neverPanics_parseAttributes.optionally _).bind fun _ => NeverPanics.pure _

/-! ## A method, up to its parameters -/

/-- What a method says before its parameters. -/
structure RpcMethodHead where
  returnSize : Nat
  flags : UInt32
  paramCount : Nat
  name : String
  returnType : String
  comment : String

def readRpcMethodHead : Reader Error RpcMethodHead := do
  let eof := Error.eof "parsing RPC method"
  let _version ← u32 eof
  let _vTableIndex ← u32 eof
  let returnSize ← u32 eof
  let _returnAlignSize ← u32 eof
  let _reserved ← u32 eof
  let _returnTypeGuid ← take eof 16
  let _returnAdsDataType ← u32 eof
  let flags ← u32 eof
  let nameLen ← u16 eof
  let returnTypeLen ← u16 eof
  let commentLen ← u16 eof
  let paramCount ← u16 eof
  let name ← readStr nameLen.toNat
  let returnType ← readStr returnTypeLen.toNat
  let comment ← readStr commentLen.toNat
  pure { returnSize := returnSize.toNat, flags, paramCount := paramCount.toNat, name,
         returnType, comment }

theorem neverPanics_readRpcMethodHead : NeverPanics readRpcMethodHead :=
  (neverPanics_u32 _).bind fun _ => (neverPanics_u32 _).bind fun _ =>
    (neverPanics_u32 _).bind fun _ => (neverPanics_u32 _).bind fun _ =>
      (neverPanics_u32 _).bind fun _ => (neverPanics_take _ 16).bind fun _ =>
        (neverPanics_u32 _).bind fun _ => (neverPanics_u32 _).bind fun _ =>
          (neverPanics_u16 _).bind fun _ => (neverPanics_u16 _).bind fun _ =>
            (neverPanics_u16 _).bind fun _ => (neverPanics_u16 _).bind fun _ =>
              (neverPanics_readStr _).bind fun _ => (neverPanics_readStr _).bind fun _ =>
                (neverPanics_readStr _).bind fun _ => NeverPanics.pure _

/-- A parameter's entry in a method. -/
def parameterEntry : Reader Error RpcMethodParameter :=
  framed (.eof "parsing RPC method")
    (.reply "parsing RPC method" "invalid parameter entry length") parseRpcMethodParameter

/-- A method's entry in the method infos. -/
def methodEntry : Reader Error RpcMethod :=
  framed (.eof "parsing method infos")
    (.reply "parsing method infos" "invalid method entry length") parseRpcMethod

/-- A sub-item's entry in a type. -/
def subItemEntry : Reader Error Field :=
  framed (.eof "decoding type info")
    (.reply "decoding type info" "invalid sub-item entry length") readField

/-- What follows in a method behind its head. -/
def readRpcMethodBody (head : RpcMethodHead) : Reader Error RpcMethod := do
  let parameters ← repeatN parameterEntry head.paramCount
  let attributes ← optionally (hasFlag head.flags rpcMethodAttributeFlag) parseAttributes
  pure { name := head.name, returnType := head.returnType, returnSize := head.returnSize,
         comment := head.comment, parameters, attributes := attributes.getD [] }

theorem parseRpcMethod_eq : parseRpcMethod = readRpcMethodHead >>= readRpcMethodBody := by
  simp only [parseRpcMethod, readRpcMethodHead, readRpcMethodBody, parameterEntry, bind_assoc,
    pure_bind]

/-! ## A record, up to its array bounds -/

deriving instance DecidableEq for TypeInfoHead

/-- Read a record's head without its array bounds, and how many of these there are. -/
def readTypeInfoStart : Reader Error (TypeInfoHead × Nat) := do
  let ctx := "decoding type info"
  let eof := Error.eof ctx
  let version ← u32 eof
  if version ≠ 1 then fail (.reply ctx "unknown type info version" version)
  else
    let _header ← take eof 8
    let size ← u32 eof
    let offset ← u32 eof
    let baseType ← u32 eof
    let flags ← u32 eof
    let lenName ← u16 eof
    let lenType ← u16 eof
    let lenComment ← u16 eof
    let arrayDim ← u16 eof
    let subItems ← u16 eof
    let name ← readStr lenName.toNat
    let typeName ← readStr lenType.toNat
    let comment ← readStr lenComment.toNat
    pure ({ size := size.toNat, offset, baseType, flags, subItems := subItems.toNat, name,
            typeName, comment, array := [] }, arrayDim.toNat)

theorem neverPanics_readTypeInfoStart : NeverPanics readTypeInfoStart := by
  apply (neverPanics_u32 _).bind
  intro version
  split
  · exact neverPanics_fail _
  · exact (neverPanics_take _ 8).bind fun _ => (neverPanics_u32 _).bind fun _ =>
      (neverPanics_u32 _).bind fun _ => (neverPanics_u32 _).bind fun _ =>
        (neverPanics_u32 _).bind fun _ => (neverPanics_u16 _).bind fun _ =>
          (neverPanics_u16 _).bind fun _ => (neverPanics_u16 _).bind fun _ =>
            (neverPanics_u16 _).bind fun _ => (neverPanics_u16 _).bind fun _ =>
              (neverPanics_readStr _).bind fun _ => (neverPanics_readStr _).bind fun _ =>
                (neverPanics_readStr _).bind fun _ => NeverPanics.pure _

/-- The head of a record with its array bounds. -/
def readArrayDims (start : TypeInfoHead × Nat) : Reader Error TypeInfoHead := do
  let array ← repeatN readArrayDim start.2
  pure { start.1 with array }

theorem readTypeInfoHead_eq : readTypeInfoHead = readTypeInfoStart >>= readArrayDims := by
  rw [readTypeInfoHead, readTypeInfoStart, bind_assoc]
  apply bind_congr
  intro version
  split
  · rfl
  · simp only [readArrayDims, bind_assoc, pure_bind]

/-- The end of an array dimension, its lower bound and its number of elements together. -/
def arrayEnd (place : List UInt8) : Int :=
  leInt (place.take 4) + leInt ((place.drop 4).take 4)

/-- An array dimension is there, and its end or its upper bound takes more than 32 bits. -/
def BoundsOverflow (place : List UInt8) : Prop :=
  8 ≤ place.length ∧ (arrayEnd place ≤ -2 ^ 31 ∨ 2 ^ 31 ≤ arrayEnd place)

theorem checkedI32_eq_ok_iff {value result : Int} :
    checkedI32 value = .ok result ↔ (-2 ^ 31 ≤ value ∧ value < 2 ^ 31) ∧ result = value := by
  rw [checkedI32]
  split
  · rename_i fits
    constructor
    · rintro ⟨⟩
      exact ⟨fits, rfl⟩
    · rintro ⟨-, rfl⟩
      rfl
  · rename_i exceeds
    constructor
    · intro failed
      contradiction
    · rintro ⟨fits, -⟩
      exact absurd fits exceeds

theorem checkedI32_eq_panic_iff {value : Int} :
    checkedI32 value = .panic ↔ ¬(-2 ^ 31 ≤ value ∧ value < 2 ^ 31) := by
  rw [checkedI32]
  split
  · rename_i fits
    exact ⟨fun done => by contradiction, fun exceeds => absurd fits exceeds⟩
  · rename_i exceeds
    exact ⟨fun _ => exceeds, fun _ => rfl⟩

theorem readArrayDim_eq_panic_iff {place : List UInt8} :
    readArrayDim place = .panic ↔ BoundsOverflow place := by
  rw [readArrayDim, BoundsOverflow]
  by_cases lowerThere : 4 ≤ place.length
  · rw [bind_run_ok (i32_run _ lowerThere)]
    by_cases totalThere : 4 ≤ (place.drop 4).length
    · have enough : 8 ≤ place.length := by
        rw [List.length_drop] at totalThere
        omega
      rw [bind_run_ok (i32_run _ totalThere)]
      simp only [bind_run_eq_panic_iff, lift_run_eq_panic_iff, lift_run_eq_ok_iff,
        checkedI32_eq_panic_iff, checkedI32_eq_ok_iff]
      constructor
      · rintro (ended | ⟨past, _, ⟨⟨_, rfl⟩, rfl⟩, upper | ⟨_, _, _, done⟩⟩)
        · refine ⟨enough, ?_⟩
          rw [arrayEnd]
          omega
        · refine ⟨enough, ?_⟩
          rw [arrayEnd]
          omega
        · exact absurd done (Outcome.ok_ne_panic _)
      · rintro ⟨-, overflow⟩
        by_cases fits : -2 ^ 31 ≤ arrayEnd place ∧ arrayEnd place < 2 ^ 31
        · refine Or.inr ⟨arrayEnd place, _, ⟨⟨fits, rfl⟩, rfl⟩, Or.inl fun upper => ?_⟩
          omega
        · exact Or.inl fits
    · rw [bind_run_err (i32_run_short _ (Nat.lt_of_not_le totalThere))]
      rw [List.length_drop] at totalThere
      constructor
      · intro failed
        contradiction
      · rintro ⟨enough, -⟩
        omega
  · rw [bind_run_err (i32_run_short _ (Nat.lt_of_not_le lowerThere))]
    constructor
    · intro failed
      contradiction
    · rintro ⟨enough, -⟩
      omega

/-- A record gets to an array dimension whose bounds overflow. -/
def ArrayFault (ptr : List UInt8) : Prop :=
  ∃ start input, readTypeInfoStart ptr = .ok (start, input) ∧
    ∃ round < start.2, ∃ array place, repeatN readArrayDim round input = .ok (array, place) ∧
      BoundsOverflow place

theorem readTypeInfoHead_eq_panic_iff {ptr : List UInt8} :
    readTypeInfoHead ptr = .panic ↔ ArrayFault ptr := by
  rw [readTypeInfoHead_eq, bind_run_eq_panic_iff]
  constructor
  · rintro (started | ⟨start, input, started, dims⟩)
    · exact absurd started (neverPanics_readTypeInfoStart ptr)
    · rcases bind_run_eq_panic_iff.mp dims with loop | ⟨array, rest, -, done⟩
      · obtain ⟨round, before, array, place, ran, overflow⟩ := repeatN_eq_panic_iff.mp loop
        exact ⟨start, input, started, round, before, array, place, ran,
          readArrayDim_eq_panic_iff.mp overflow⟩
      · exact absurd done (Outcome.ok_ne_panic _)
  · rintro ⟨start, input, started, round, before, array, place, ran, overflow⟩
    refine Or.inr ⟨start, input, started, bind_run_eq_panic_iff.mpr (Or.inl ?_)⟩
    exact repeatN_eq_panic_iff.mpr ⟨round, before, array, place, ran,
      readArrayDim_eq_panic_iff.mpr overflow⟩

/-! ## A record, up to its methods -/

/-- The sections of a type or a field in front of the attributes: the GUID and the
methods, with the copy mask skipped. -/
def readSections (flags : UInt32) (size : Nat) :
    Reader Error (Option String × Option (List RpcMethod)) := do
  let guid ← optionally (hasFlag flags typeFlagGuid) parseGuid
  let _ ← optionally (hasFlag flags typeFlagCopyMask) (skipCopyMask size)
  let methods ← optionally (hasFlag flags typeFlagMethodInfos) parseMethodInfos
  pure (guid, methods)

/-- Read the sections in front of the method infos, and how many methods these have. -/
def readMethodCount (flags : UInt32) (size : Nat) : Reader Error Nat := do
  let _ ← optionally (hasFlag flags typeFlagGuid) parseGuid
  let _ ← optionally (hasFlag flags typeFlagCopyMask) (skipCopyMask size)
  let count ← optionally (hasFlag flags typeFlagMethodInfos) (u16 (.eof "parsing method infos"))
  pure (count.elim 0 UInt16.toNat)

theorem parseMethodInfos_eq :
    parseMethodInfos = u16 (.eof "parsing method infos") >>= fun count =>
      repeatN methodEntry count.toNat :=
  rfl

theorem parseFieldAttributes_eq (flags : UInt32) (size : Nat) :
    parseFieldAttributes flags size = readSections flags size >>= fun _ =>
      optionally (hasFlag flags typeFlagAttributes) parseAttributes := by
  simp only [parseFieldAttributes, readSections, bind_assoc, pure_bind]

/-- The sections of a type behind its methods. -/
def readTypeRest (typ : TypeInfo) (sections : Option String × Option (List RpcMethod)) :
    Reader Error TypeInfo := do
  let attributes ← optionally (hasFlag typ.flags typeFlagAttributes) parseAttributes
  let enumInfo ← optionally (hasFlag typ.flags typeFlagEnumInfos)
    (parseEnumInfos typ.size typ.baseType)
  pure { typ with guid := sections.1, methods := sections.2, attributes, enumInfo }

theorem parseTypeFlags_eq (typ : TypeInfo) :
    parseTypeFlags typ = readSections typ.flags typ.size >>= readTypeRest typ := by
  simp only [parseTypeFlags, readSections, readTypeRest, bind_assoc, pure_bind]

/-- The type that a record's head and its fields describe, still without its sections. -/
def TypeInfoHead.withFields (head : TypeInfoHead) (fields : List Field) : TypeInfo where
  name := head.name
  typeName := head.typeName
  comment := head.comment
  size := head.size
  array := head.array
  fields := fields
  baseType := head.baseType
  flags := head.flags
  guid := none
  methods := none
  attributes := none
  enumInfo := none

/-- The field that a record's head and its attributes describe. -/
def TypeInfoHead.toField (head : TypeInfoHead) (attributes : Option (List Attribute)) : Field where
  name := head.name
  typ := head.typeName
  offset := if head.offset = 0xFFFFFFFF then none else some head.offset
  size := head.size
  array := head.array
  baseType := head.baseType
  flags := head.flags
  comment := head.comment
  attributes := attributes

theorem readTypeInfo_eq :
    readTypeInfo = readTypeInfoHead >>= fun head =>
      repeatN subItemEntry head.subItems >>= fun fields =>
        readSections head.flags head.size >>= readTypeRest (head.withFields fields) := by
  simp only [readTypeInfo, parseTypeFlags_eq]
  rfl

theorem readField_eq :
    readField = readTypeInfoHead >>= fun head =>
      readSections head.flags head.size >>= fun _ =>
        optionally (hasFlag head.flags typeFlagAttributes) parseAttributes >>= fun attributes =>
          pure (head.toField attributes) := by
  simp only [readField, parseFieldAttributes_eq, bind_assoc]
  rfl

end Ads.Symbols
