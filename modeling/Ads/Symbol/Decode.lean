import Ads.Bytes.Record
import Ads.Symbol.Types
import Ads.Text.Utf8

/-!
# Decoding symbols and types

The upload formats of a device's symbol table and type inventory: records with
their length in front, nested up to four levels, with sections that are present
if a flag is set.
-/

namespace Ads.Symbols

open Ads.Bytes Ads.Bytes.Reader Ads.Control Ads.Text

/-- Ceiling on a declared string length. -/
def maxStrLen : Nat := 8196

/-- Read a null-terminated string of `len` bytes.  A string that runs past the end of
the data is whatever is left of it. -/
def readStr (len : Nat) : Reader Error String := fun ptr =>
  if maxStrLen < len then
    .err (.reply "reading string" "string length exceeds maximum" (UInt32.ofNat len))
  else if ptr.length < len + 1 then
    let content := min len ptr.length
    .ok (fromUtf8Lossy (ptr.take content), [])
  else .ok (fromUtf8Lossy (ptr.take len), ptr.drop (len + 1))

/-- A number in `width` lower-case hexadecimal digits. -/
def hexDigits : Nat → Nat → List Char
  | 0, _ => []
  | width + 1, value => hexDigits width (value / 16) ++ [Nat.digitChar (value % 16)]

/-- The text of a GUID. -/
def formatGuid (g : List UInt8) : String :=
  let byte := fun index => hexDigits 2 (g.getD index 0).toNat
  String.ofList <|
    hexDigits 8 (leU32 g).toNat ++ ['-'] ++ hexDigits 4 (leU16 (g.drop 4)).toNat ++ ['-'] ++
      hexDigits 4 (leU16 (g.drop 6)).toNat ++ ['-'] ++ byte 8 ++ byte 9 ++ ['-'] ++
      byte 10 ++ byte 11 ++ byte 12 ++ byte 13 ++ byte 14 ++ byte 15

def parseGuid : Reader Error String := do
  let g ← take (.eof "parsing GUID") 16
  pure (formatGuid g)

def skipCopyMask (size : Nat) : Reader Error Unit := do
  let _ ← take (.eof "skipping copy mask") size
  pure ()

/-- Read one attribute: both lengths, then both strings. -/
def parseAttribute : Reader Error Attribute := do
  let eof := Error.eof "parsing attributes"
  let nameLen ← u8 eof
  let valueLen ← u8 eof
  let name ← readStr nameLen.toNat
  let value ← readStr valueLen.toNat
  pure { name, value }

def parseAttributes : Reader Error (List Attribute) := do
  let count ← u16 (.eof "parsing attributes")
  repeatN parseAttribute count.toNat

/-- Convert a floating-point number to 64 bits, as a cast does: towards zero, with
numbers out of range saturated and no number as zero. -/
def floatToI64 (exponentBits mantissaBits : Nat) (bits : Nat) : Int :=
  let mantissa := bits % 2 ^ mantissaBits
  let exponent := bits / 2 ^ mantissaBits % 2 ^ exponentBits
  let negative := bits / 2 ^ (mantissaBits + exponentBits) % 2 = 1
  let special := exponent = 2 ^ exponentBits - 1
  let bias := 2 ^ (exponentBits - 1) - 1
  let magnitude :=
    if exponent < bias then 0
    else (2 ^ mantissaBits + mantissa) * 2 ^ (exponent - bias) / 2 ^ mantissaBits
  if special ∧ mantissa ≠ 0 then 0
  else if negative then
    if special ∨ 2 ^ 63 < magnitude then -2 ^ 63 else -(magnitude : Int)
  else
    if special ∨ 2 ^ 63 ≤ magnitude then 2 ^ 63 - 1 else (magnitude : Int)

/-- The number that an enum variant of the given base type and size has.  The slice of
the base type's width panics when the size is smaller. -/
def enumValue (baseType : UInt32) (raw : List UInt8) : Outcome Error Int :=
  let slice := fun (width : Nat) (value : List UInt8 → Int) =>
    if width ≤ raw.length then Outcome.ok (value (raw.take width)) else .panic
  match baseType with
  | 2 => slice 2 leInt
  | 3 => slice 4 leInt
  | 4 => slice 4 fun bytes => floatToI64 8 23 (leValue bytes)
  | 5 => slice 8 fun bytes => floatToI64 11 52 (leValue bytes)
  | 16 => slice 1 leInt
  | 17 => slice 1 fun bytes => leValue bytes
  | 18 => slice 2 fun bytes => leValue bytes
  | 19 => slice 4 fun bytes => leValue bytes
  | 20 => slice 8 leInt
  | 21 => slice 8 leInt -- the cast to a signed number keeps the bits
  | _ =>
      match raw.length with
      | 1 => slice 1 fun bytes => leValue bytes
      | 2 => slice 2 leInt
      | 4 => slice 4 leInt
      | 8 => slice 8 leInt
      | _ => .ok (-99)

/-- Read one enum variant. -/
def parseEnumInfo (size : Nat) (baseType : UInt32) : Reader Error EnumInfo := do
  let eof := Error.eof "parsing enum infos"
  let nameLen ← u8 eof
  let name ← readStr nameLen.toNat
  let raw ← take eof size
  let value ← lift (enumValue baseType raw)
  pure { name, value }

def parseEnumInfos (size : Nat) (baseType : UInt32) : Reader Error (List EnumInfo) := do
  let count ← u16 (.eof "parsing enum infos")
  repeatN (parseEnumInfo size baseType) count.toNat

def parseRpcMethodParameter : Reader Error RpcMethodParameter := do
  let eof := Error.eof "parsing RPC method parameter"
  let size ← u32 eof
  let _alignSize ← u32 eof
  let _adsDataType ← u32 eof
  let flags ← u32 eof
  let _reserved ← u32 eof
  let _typeGuid ← take eof 16
  let _lengthIsParamIndex ← u16 eof
  let nameLen ← u16 eof
  let typeLen ← u16 eof
  let commentLen ← u16 eof
  let name ← readStr nameLen.toNat
  let typ ← readStr typeLen.toNat
  let comment ← readStr commentLen.toNat
  let attributes ← optionally (hasFlag flags rpcParamAttributeFlag) parseAttributes
  pure { name, typ, size := size.toNat, variableKind := .fromFlags flags, comment,
         attributes := attributes.getD [] }

def parseRpcMethod : Reader Error RpcMethod := do
  let ctx := "parsing RPC method"
  let eof := Error.eof ctx
  let _version ← u32 eof
  let _vTableIndex ← u32 eof
  let returnSize ← u32 eof
  let _returnAlignSize ← u32 eof
  let _reserved ← u32 eof
  let _returnTypeGuid ← take eof 16
  let _returnAdsDataType ← u32 eof
  let flags ← u32 eof
  let nameLen ← u16 eof
  let returnTypeLen ← u16 eof
  let commentLen ← u16 eof
  let paramCount ← u16 eof
  let name ← readStr nameLen.toNat
  let returnType ← readStr returnTypeLen.toNat
  let comment ← readStr commentLen.toNat
  let parameters ← repeatN
    (framed eof (.reply ctx "invalid parameter entry length") parseRpcMethodParameter)
    paramCount.toNat
  let attributes ← optionally (hasFlag flags rpcMethodAttributeFlag) parseAttributes
  pure { name, returnType, returnSize := returnSize.toNat, comment, parameters,
         attributes := attributes.getD [] }

def parseMethodInfos : Reader Error (List RpcMethod) := do
  let ctx := "parsing method infos"
  let count ← u16 (.eof ctx)
  repeatN (framed (.eof ctx) (.reply ctx "invalid method entry length") parseRpcMethod)
    count.toNat

/-- Read the sections of a type whose flags are set. -/
def parseTypeFlags (typ : TypeInfo) : Reader Error TypeInfo := do
  let guid ← optionally (hasFlag typ.flags typeFlagGuid) parseGuid
  let _ ← optionally (hasFlag typ.flags typeFlagCopyMask) (skipCopyMask typ.size)
  let methods ← optionally (hasFlag typ.flags typeFlagMethodInfos) parseMethodInfos
  let attributes ← optionally (hasFlag typ.flags typeFlagAttributes) parseAttributes
  let enumInfo ← optionally (hasFlag typ.flags typeFlagEnumInfos)
    (parseEnumInfos typ.size typ.baseType)
  pure { typ with guid, methods, attributes, enumInfo }

/-- Read the sections of a field whose flags are set, up to the attributes. -/
def parseFieldAttributes (flags : UInt32) (size : Nat) :
    Reader Error (Option (List Attribute)) := do
  let _ ← optionally (hasFlag flags typeFlagGuid) parseGuid
  let _ ← optionally (hasFlag flags typeFlagCopyMask) (skipCopyMask size)
  let _ ← optionally (hasFlag flags typeFlagMethodInfos) parseMethodInfos
  optionally (hasFlag flags typeFlagAttributes) parseAttributes

/-- A sum of signed 32-bit numbers with overflow checks, as in a debug build. -/
def checkedI32 (value : Int) : Outcome Error Int :=
  if -2 ^ 31 ≤ value ∧ value < 2 ^ 31 then .ok value else .panic

/-- Read one array dimension: its lower bound and the number of its elements. -/
def readArrayDim : Reader Error (Int × Int) := do
  let eof := Error.eof "decoding type info"
  let lower ← i32 eof
  let total ← i32 eof
  let past ← lift (checkedI32 (lower + total))
  let upper ← lift (checkedI32 (past - 1))
  pure (lower, upper)

/-- What a type-info record says before its sub-items and sections. -/
structure TypeInfoHead where
  size : Nat
  offset : UInt32
  baseType : UInt32
  flags : UInt32
  subItems : Nat
  name : String
  typeName : String
  comment : String
  array : List (Int × Int)

def readTypeInfoHead : Reader Error TypeInfoHead := do
  let ctx := "decoding type info"
  let eof := Error.eof ctx
  let version ← u32 eof
  if version ≠ 1 then fail (.reply ctx "unknown type info version" version)
  else
    let _header ← take eof 8
    let size ← u32 eof
    let offset ← u32 eof
    let baseType ← u32 eof
    let flags ← u32 eof
    let lenName ← u16 eof
    let lenType ← u16 eof
    let lenComment ← u16 eof
    let arrayDim ← u16 eof
    let subItems ← u16 eof
    let name ← readStr lenName.toNat
    let typeName ← readStr lenType.toNat
    let comment ← readStr lenComment.toNat
    let array ← repeatN readArrayDim arrayDim.toNat
    pure { size := size.toNat, offset, baseType, flags, subItems := subItems.toNat, name,
           typeName, comment, array }

/-- The field that a record describes.  The offset -1 marks a field that is placed
somewhere else in memory. -/
def readField : Reader Error Field := do
  let head ← readTypeInfoHead
  let attributes ← parseFieldAttributes head.flags head.size
  pure { name := head.name, typ := head.typeName,
         offset := if head.offset = 0xFFFFFFFF then none else some head.offset,
         size := head.size, array := head.array, baseType := head.baseType,
         flags := head.flags, comment := head.comment, attributes }

/-- The type that a record describes, with its sub-items as fields. -/
def readTypeInfo : Reader Error TypeInfo := do
  let ctx := "decoding type info"
  let head ← readTypeInfoHead
  let fields ← repeatN
    (framed (.eof ctx) (.reply ctx "invalid sub-item entry length") readField) head.subItems
  parseTypeFlags
    { name := head.name, typeName := head.typeName, comment := head.comment, size := head.size,
      array := head.array, baseType := head.baseType, flags := head.flags, fields,
      guid := none, methods := none, attributes := none, enumInfo := none }

/-- Decode a single type-info record.  With a parent it is decoded as a field and pushed
onto the parent's fields, otherwise as a top-level type. -/
def decodeTypeInfo (ptr : List UInt8) (parent : Option TypeInfo) :
    Outcome Error (Option TypeInfo × Option TypeInfo) :=
  match parent with
  | some typ => do
      let field ← readField.runOn ptr
      pure (none, some { typ with fields := typ.fields ++ [field] })
  | none => do
      let typ ← readTypeInfo.runOn ptr
      pure (some typ, none)

/-- A mapping from type name to type. -/
abbrev TypeMap : Type :=
  Std.HashMap String TypeInfo

/-- Read the length of a table entry and split the entry off.  A length below four
underflows. -/
def splitEntry (eof : Error) : Reader Error (List UInt8) := do
  let entrySize ← u32 eof
  if entrySize.toNat < 4 then lift .panic else splitAt (entrySize.toNat - 4)

/-- Decode the entries of the type table.  Every entry takes four bytes at least, so that
as many rounds as there are bytes suffice. -/
def decodeTypes : Nat → List UInt8 → TypeMap → Outcome Error TypeMap
  | 0, _, typeMap => pure typeMap
  | _ + 1, [], typeMap => pure typeMap
  | rounds + 1, dataPtr, typeMap => do
      let (entryPtr, rest) ← splitEntry (.eof "decoding type info") dataPtr
      let (decoded, _) ← decodeTypeInfo entryPtr none
      match decoded with
      | none => .panic
      | some typ => decodeTypes rounds rest (typeMap.insert typ.name typ)

/-- Decode one entry of the symbol table.  What follows the type name is skipped. -/
def readSymbol : Reader Error Symbol := do
  let eof := Error.eof "decoding symbol info"
  let ixGroup ← u32 eof
  let ixOffset ← u32 eof
  let size ← u32 eof
  let baseType ← u32 eof
  let flags ← u16 eof
  let _legacyArrayDim ← u16 eof
  let lenName ← u16 eof
  let lenType ← u16 eof
  let _lenComment ← u16 eof
  let name ← readStr lenName.toNat
  let typ ← readStr lenType.toNat
  pure { name, ixGroup, ixOffset, typ, size := size.toNat, baseType,
         flags := flags.toUInt32 }

/-- Decode the entries of the symbol table. -/
def decodeSymbols : Nat → List UInt8 → List Symbol → Outcome Error (List Symbol)
  | 0, _, symbols => pure symbols
  | _ + 1, [], symbols => pure symbols
  | rounds + 1, dataPtr, symbols => do
      let (entryPtr, rest) ← splitEntry (.eof "decoding symbol info") dataPtr
      let symbol ← readSymbol.runOn entryPtr
      decodeSymbols rounds rest (symbols ++ [symbol])

/-- Decode symbol and type information: a list of symbols, and a map of type names to
types. -/
def decodeSymbolInfo (symbolData typeData : List UInt8) :
    Outcome Error (List Symbol × TypeMap) := do
  let typeMap ← decodeTypes typeData.length typeData ∅
  let symbols ← decodeSymbols symbolData.length symbolData []
  pure (symbols, typeMap)

end Ads.Symbols
