import Ads.Symbol.Decode

/-!
# Symbols and types on the wire

What a device uploads: the records with all their fields, including those that the
decoder skips, their bytes, and the symbols and types that they stand for.
-/

namespace Ads.Symbols

open Ads.Bytes Ads.Control Ads.Text

/-- A string of at most `limit` bytes. -/
structure Text (limit : Nat) where
  value : String
  fits : (utf8Bytes value).length ≤ limit

namespace Text

variable {limit : Nat}

/-- The number of bytes, without the null byte. -/
def length (text : Text limit) : Nat :=
  (utf8Bytes text.value).length

/-- The string with its null byte. -/
def bytes (text : Text limit) : List UInt8 :=
  utf8Bytes text.value ++ [0]

end Text

/-- A list whose length fits a 16-bit counter. -/
structure Counted (α : Type) where
  items : List α
  count : items.length < 2 ^ 16

namespace Counted

variable {α β : Type}

/-- The number of items. -/
def number (list : Counted α) : UInt16 :=
  UInt16.ofNat list.items.length

/-- The counter, and the items behind it. -/
def bytes (encode : α → List UInt8) (list : Counted α) : List UInt8 :=
  u16Bytes list.number ++ list.items.flatMap encode

end Counted

/-! ## Attributes -/

/-- An attribute whose lengths fit a byte each. -/
structure WireAttribute where
  name : Text 255
  value : Text 255

namespace WireAttribute

def bytes (entry : WireAttribute) : List UInt8 :=
  [UInt8.ofNat entry.name.length] ++ ([UInt8.ofNat entry.value.length] ++
    (entry.name.bytes ++ entry.value.bytes))

def decoded (entry : WireAttribute) : Attribute where
  name := entry.name.value
  value := entry.value.value

end WireAttribute

/-- A list of attributes. -/
abbrev WireAttributes : Type :=
  Counted WireAttribute

def WireAttributes.decoded (attributes : WireAttributes) : List Attribute :=
  attributes.items.map WireAttribute.decoded

/-! ## GUIDs -/

/-- A GUID. -/
structure Guid where
  data1 : UInt32
  data2 : UInt16
  data3 : UInt16
  data4 : List UInt8
  size : data4.length = 8

namespace Guid

def bytes (guid : Guid) : List UInt8 :=
  u32Bytes guid.data1 ++ (u16Bytes guid.data2 ++ (u16Bytes guid.data3 ++ guid.data4))

/-- The usual text of a GUID: five groups of hexadecimal digits. -/
def text (guid : Guid) : String :=
  let group := fun bytes : List UInt8 => bytes.flatMap fun byte => hexDigits 2 byte.toNat
  String.ofList <|
    hexDigits 8 guid.data1.toNat ++ ['-'] ++ hexDigits 4 guid.data2.toNat ++ ['-'] ++
      hexDigits 4 guid.data3.toNat ++ ['-'] ++ group (guid.data4.take 2) ++ ['-'] ++
      group (guid.data4.drop 2)

end Guid

/-! ## Methods -/

/-- A parameter of a method. -/
structure WireParameter where
  size : UInt32
  alignSize : UInt32
  adsDataType : UInt32
  flags : UInt32
  reserved : UInt32
  typeGuid : Guid
  lengthIsParamIndex : UInt16
  name : Text maxStrLen
  typ : Text maxStrLen
  comment : Text maxStrLen
  attributes : Option WireAttributes
  attributeFlag : hasFlag flags rpcParamAttributeFlag = attributes.isSome

namespace WireParameter

def content (parameter : WireParameter) : List UInt8 :=
  u32Bytes parameter.size ++ (u32Bytes parameter.alignSize ++
    (u32Bytes parameter.adsDataType ++ (u32Bytes parameter.flags ++
      (u32Bytes parameter.reserved ++ (parameter.typeGuid.bytes ++
        (u16Bytes parameter.lengthIsParamIndex ++
          (u16Bytes (UInt16.ofNat parameter.name.length) ++
            (u16Bytes (UInt16.ofNat parameter.typ.length) ++
              (u16Bytes (UInt16.ofNat parameter.comment.length) ++
                (parameter.name.bytes ++ (parameter.typ.bytes ++ (parameter.comment.bytes ++
                  parameter.attributes.elim [] (Counted.bytes WireAttribute.bytes)))))))))))))

def decoded (parameter : WireParameter) : RpcMethodParameter where
  name := parameter.name.value
  typ := parameter.typ.value
  size := parameter.size.toNat
  variableKind := .fromFlags parameter.flags
  comment := parameter.comment.value
  attributes := (parameter.attributes.map WireAttributes.decoded).getD []

end WireParameter

/-- A method. -/
structure WireMethod where
  version : UInt32
  vTableIndex : UInt32
  returnSize : UInt32
  returnAlignSize : UInt32
  reserved : UInt32
  returnTypeGuid : Guid
  returnAdsDataType : UInt32
  flags : UInt32
  name : Text maxStrLen
  returnType : Text maxStrLen
  comment : Text maxStrLen
  parameters : Counted (Framed WireParameter.content)
  attributes : Option WireAttributes
  attributeFlag : hasFlag flags rpcMethodAttributeFlag = attributes.isSome

namespace WireMethod

def content (method : WireMethod) : List UInt8 :=
  u32Bytes method.version ++ (u32Bytes method.vTableIndex ++ (u32Bytes method.returnSize ++
    (u32Bytes method.returnAlignSize ++ (u32Bytes method.reserved ++
      (method.returnTypeGuid.bytes ++ (u32Bytes method.returnAdsDataType ++
        (u32Bytes method.flags ++ (u16Bytes (UInt16.ofNat method.name.length) ++
          (u16Bytes (UInt16.ofNat method.returnType.length) ++
            (u16Bytes (UInt16.ofNat method.comment.length) ++ (u16Bytes method.parameters.number ++
              (method.name.bytes ++ (method.returnType.bytes ++ (method.comment.bytes ++
                (method.parameters.items.flatMap Framed.bytes ++
                  method.attributes.elim [] (Counted.bytes WireAttribute.bytes))))))))))))))))

def decoded (method : WireMethod) : RpcMethod where
  name := method.name.value
  returnType := method.returnType.value
  returnSize := method.returnSize.toNat
  comment := method.comment.value
  parameters := method.parameters.items.map (·.val.decoded)
  attributes := (method.attributes.map WireAttributes.decoded).getD []

end WireMethod

/-- A list of methods. -/
abbrev WireMethods : Type :=
  Counted (Framed WireMethod.content)

def WireMethods.decoded (methods : WireMethods) : List RpcMethod :=
  methods.items.map (·.val.decoded)

/-! ## Enum variants -/

/-- An integer type: its width in bytes, and whether it is signed. -/
structure IntegerType where
  width : Nat
  signed : Bool

/-- The integer types among the base types. -/
def integerType : UInt32 → Option IntegerType
  | 2 => some ⟨2, true⟩
  | 3 => some ⟨4, true⟩
  | 16 => some ⟨1, true⟩
  | 17 => some ⟨1, false⟩
  | 18 => some ⟨2, false⟩
  | 19 => some ⟨4, false⟩
  | 20 => some ⟨8, true⟩
  | 21 => some ⟨8, false⟩
  | _ => none

/-- The values of an integer type that fit 64 signed bits. -/
def IntegerType.Holds (typ : IntegerType) (value : Int) : Prop :=
  if typ.signed then -(256 ^ typ.width) ≤ 2 * value ∧ 2 * value < 256 ^ typ.width
  else 0 ≤ value ∧ value < 256 ^ typ.width ∧ value < 2 ^ 63

/-- An enum variant. -/
structure WireEnumInfo where
  name : Text 255
  value : Int

namespace WireEnumInfo

def bytes (width : Nat) (info : WireEnumInfo) : List UInt8 :=
  [UInt8.ofNat info.name.length] ++ (info.name.bytes ++ intBytes width info.value)

def decoded (info : WireEnumInfo) : EnumInfo where
  name := info.name.value
  value := info.value

end WireEnumInfo

/-- A list of enum variants. -/
abbrev WireEnumInfos : Type :=
  Counted WireEnumInfo

def WireEnumInfos.decoded (infos : WireEnumInfos) : List EnumInfo :=
  infos.items.map WireEnumInfo.decoded

/-! ## Types -/

/-- An array dimension: its lower bound and the number of its elements. -/
structure WireArrayDim where
  lower : Int
  total : Int
  lowerFits : -2 ^ 31 ≤ lower
  nonempty : 1 ≤ total
  totalFits : total < 2 ^ 31
  sumFits : lower + total < 2 ^ 31

namespace WireArrayDim

def bytes (dim : WireArrayDim) : List UInt8 :=
  intBytes 4 dim.lower ++ intBytes 4 dim.total

def decoded (dim : WireArrayDim) : Int × Int :=
  (dim.lower, dim.lower + dim.total - 1)

end WireArrayDim

/-- What a type-info record says of a type or a field, apart from its sub-items.  Each
section is there exactly if its flag is set. -/
structure WireRecord where
  header : List UInt8
  headerSize : header.length = 8
  size : UInt32
  offset : UInt32
  baseType : UInt32
  flags : UInt32
  name : Text maxStrLen
  typeName : Text maxStrLen
  comment : Text maxStrLen
  array : Counted WireArrayDim
  guid : Option Guid
  copyMask : Option (List UInt8)
  methods : Option WireMethods
  attributes : Option WireAttributes
  enumInfo : Option WireEnumInfos
  guidFlag : hasFlag flags typeFlagGuid = guid.isSome
  copyMaskFlag : hasFlag flags typeFlagCopyMask = copyMask.isSome
  methodsFlag : hasFlag flags typeFlagMethodInfos = methods.isSome
  attributesFlag : hasFlag flags typeFlagAttributes = attributes.isSome
  enumInfoFlag : hasFlag flags typeFlagEnumInfos = enumInfo.isSome
  copyMaskSize : ∀ mask ∈ copyMask, mask.length = size.toNat
  /-- Enum variants have the size of their integer type, and values that fit it. -/
  enumFits : ∀ infos ∈ enumInfo, ∃ typ, integerType baseType = some typ ∧
    size.toNat = typ.width ∧ ∀ info ∈ infos.items, typ.Holds info.value

namespace WireRecord

/-- Everything before the sub-items. -/
def headBytes (record : WireRecord) (subItems : UInt16) : List UInt8 :=
  u32Bytes 1 ++ (record.header ++ (u32Bytes record.size ++ (u32Bytes record.offset ++
    (u32Bytes record.baseType ++ (u32Bytes record.flags ++
      (u16Bytes (UInt16.ofNat record.name.length) ++
        (u16Bytes (UInt16.ofNat record.typeName.length) ++
          (u16Bytes (UInt16.ofNat record.comment.length) ++ (u16Bytes record.array.number ++
            (u16Bytes subItems ++ (record.name.bytes ++ (record.typeName.bytes ++
              (record.comment.bytes ++ record.array.items.flatMap WireArrayDim.bytes)))))))))))))

/-- The sections before the enum variants. -/
def sectionBytes (record : WireRecord) : List UInt8 :=
  record.guid.elim [] Guid.bytes ++ (record.copyMask.elim [] id ++
    (record.methods.elim [] (Counted.bytes Framed.bytes) ++
      record.attributes.elim [] (Counted.bytes WireAttribute.bytes)))

def enumBytes (record : WireRecord) : List UInt8 :=
  record.enumInfo.elim [] (Counted.bytes (WireEnumInfo.bytes record.size.toNat))

/-- A record without sub-items. -/
def content (record : WireRecord) : List UInt8 :=
  (record.headBytes 0 ++ record.sectionBytes) ++ record.enumBytes

/-- The field that the record stands for. -/
def decoded (record : WireRecord) : Field where
  name := record.name.value
  typ := record.typeName.value
  offset := if record.offset = 0xFFFFFFFF then none else some record.offset
  size := record.size.toNat
  array := record.array.items.map WireArrayDim.decoded
  baseType := record.baseType
  flags := record.flags
  comment := record.comment.value
  attributes := record.attributes.map WireAttributes.decoded

end WireRecord

/-- A type: a record, and the records of its fields. -/
structure WireType where
  record : WireRecord
  fields : Counted (Framed WireRecord.content)

namespace WireType

def content (typ : WireType) : List UInt8 :=
  typ.record.headBytes typ.fields.number ++ (typ.fields.items.flatMap Framed.bytes ++
    (typ.record.sectionBytes ++ typ.record.enumBytes))

/-- The type that the records stand for. -/
def decoded (typ : WireType) : TypeInfo where
  name := typ.record.name.value
  typeName := typ.record.typeName.value
  comment := typ.record.comment.value
  size := typ.record.size.toNat
  array := typ.record.array.items.map WireArrayDim.decoded
  fields := typ.fields.items.map (·.val.decoded)
  baseType := typ.record.baseType
  flags := typ.record.flags
  guid := typ.record.guid.map Guid.text
  methods := typ.record.methods.map WireMethods.decoded
  attributes := typ.record.attributes.map WireAttributes.decoded
  enumInfo := typ.record.enumInfo.map WireEnumInfos.decoded

end WireType

/-! ## Symbols -/

/-- A symbol.  The decoder skips what comes after the type name. -/
structure WireSymbol where
  ixGroup : UInt32
  ixOffset : UInt32
  size : UInt32
  baseType : UInt32
  flags : UInt16
  legacyArrayDim : UInt16
  name : Text maxStrLen
  typ : Text maxStrLen
  comment : Text maxStrLen
  /-- The sections behind the comment. -/
  sections : List UInt8

namespace WireSymbol

/-- Everything up to the type name. -/
def headBytes (symbol : WireSymbol) : List UInt8 :=
  u32Bytes symbol.ixGroup ++ (u32Bytes symbol.ixOffset ++ (u32Bytes symbol.size ++
    (u32Bytes symbol.baseType ++ (u16Bytes symbol.flags ++ (u16Bytes symbol.legacyArrayDim ++
      (u16Bytes (UInt16.ofNat symbol.name.length) ++ (u16Bytes (UInt16.ofNat symbol.typ.length) ++
        (u16Bytes (UInt16.ofNat symbol.comment.length) ++
          (symbol.name.bytes ++ symbol.typ.bytes)))))))))

def content (symbol : WireSymbol) : List UInt8 :=
  symbol.headBytes ++ (symbol.comment.bytes ++ symbol.sections)

def decoded (symbol : WireSymbol) : Symbol where
  name := symbol.name.value
  ixGroup := symbol.ixGroup
  ixOffset := symbol.ixOffset
  typ := symbol.typ.value
  size := symbol.size.toNat
  baseType := symbol.baseType
  flags := symbol.flags.toUInt32

end WireSymbol

end Ads.Symbols
