import Ads.Errors

/-!
# Symbols and types

The symbols of a device and its type inventory, as the decoder returns them.
-/

namespace Ads.Symbols

/-- A type attribute (pragma annotation). -/
structure Attribute where
  name : String
  value : String
  deriving DecidableEq

/-- An enum variant name and numeric value. -/
structure EnumInfo where
  name : String
  value : Int
  deriving DecidableEq

/-- The declaration kind of an RPC method parameter. -/
inductive RpcMethodParameterVariableKind
  | input
  | output
  | inOut
  | unknown
  deriving DecidableEq, Repr

/-- The kind that the two low bits of a parameter's flags say. -/
def RpcMethodParameterVariableKind.fromFlags (flags : UInt32) : RpcMethodParameterVariableKind :=
  match flags &&& 0x03 with
  | 0x01 => .input
  | 0x02 => .output
  | 0x03 => .inOut
  | _ => .unknown

/-- A parameter of an RPC method. -/
structure RpcMethodParameter where
  name : String
  typ : String
  size : Nat
  variableKind : RpcMethodParameterVariableKind
  comment : String
  attributes : List Attribute
  deriving DecidableEq

/-- An RPC method exposed by a function block. -/
structure RpcMethod where
  name : String
  returnType : String
  returnSize : Nat
  comment : String
  parameters : List RpcMethodParameter
  attributes : List Attribute
  deriving DecidableEq

/-- A field of a structure type.  A field without an offset is defined in some other
memory block. -/
structure Field where
  name : String
  typ : String
  offset : Option UInt32
  size : Nat
  array : List (Int × Int)
  baseType : UInt32
  flags : UInt32
  comment : String
  attributes : Option (List Attribute)
  deriving DecidableEq

/-- A type in the device's type inventory. -/
structure TypeInfo where
  name : String
  typeName : String
  comment : String
  size : Nat
  /-- The lower and upper index bounds of each array dimension. -/
  array : List (Int × Int)
  fields : List Field
  baseType : UInt32
  flags : UInt32
  guid : Option String
  methods : Option (List RpcMethod)
  attributes : Option (List Attribute)
  enumInfo : Option (List EnumInfo)
  deriving DecidableEq

/-- A symbol in the device's memory. -/
structure Symbol where
  name : String
  ixGroup : UInt32
  ixOffset : UInt32
  typ : String
  size : Nat
  baseType : UInt32
  flags : UInt32
  deriving DecidableEq

/-- The flag of a type GUID. -/
def typeFlagGuid : UInt32 := 0x080

/-- The flag of a copy mask. -/
def typeFlagCopyMask : UInt32 := 0x200

/-- The flag of method infos. -/
def typeFlagMethodInfos : UInt32 := 0x800

/-- The flag of attributes. -/
def typeFlagAttributes : UInt32 := 0x1000

/-- The flag of enum infos. -/
def typeFlagEnumInfos : UInt32 := 0x2000

/-- The flag of attributes on a method. -/
def rpcMethodAttributeFlag : UInt32 := 0x08

/-- The flag of attributes on a method's parameter. -/
def rpcParamAttributeFlag : UInt32 := 0x40

/-- Whether a flag is set. -/
def hasFlag (flags flag : UInt32) : Bool :=
  flags &&& flag != 0

end Ads.Symbols
