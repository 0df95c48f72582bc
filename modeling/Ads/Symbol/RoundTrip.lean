import Ads.Symbol.Wire

/-!
# Decoding undoes encoding

Each decoder reads back the records and sections that it is for, and the table
decoders read back whole tables.
-/

namespace Ads.Symbols

open Ads.Bytes Ads.Bytes.Reader Ads.Control Ads.Text

/-! ## Strings and counted lists -/

theorem reads_readStr {limit : Nat} (text : Text limit) (short : limit ≤ maxStrLen) :
    Reads (readStr text.length) text.bytes text.value := by
  intro rest
  have fits := text.fits
  have notLong : ¬maxStrLen < text.length := by
    rw [Text.length]
    omega
  have enough : ¬(text.bytes ++ rest).length < text.length + 1 := by
    simp [Text.bytes, Text.length]
  have content : (text.bytes ++ rest).take text.length = utf8Bytes text.value := by
    rw [Text.bytes, List.append_assoc, Text.length, List.take_left]
  have behind : (text.bytes ++ rest).drop (text.length + 1) = rest := by
    apply List.drop_left'
    simp [Text.bytes, Text.length]
  rw [readStr, if_neg notLong, if_neg enough, content, behind, fromUtf8Lossy_utf8Bytes]

/-- A string whose length is a byte. -/
theorem reads_readStr_u8 (text : Text 255) :
    Reads (readStr (UInt8.ofNat text.length).toNat) text.bytes text.value := by
  have length : (UInt8.ofNat text.length).toNat = text.length :=
    UInt8.toNat_ofNat_of_lt' (Nat.lt_of_le_of_lt text.fits (by decide))
  rw [length]
  exact reads_readStr text (by decide)

/-- A string whose length is a 16-bit word. -/
theorem reads_readStr_u16 (text : Text maxStrLen) :
    Reads (readStr (UInt16.ofNat text.length).toNat) text.bytes text.value := by
  have length : (UInt16.ofNat text.length).toNat = text.length :=
    UInt16.toNat_ofNat_of_lt' (Nat.lt_of_le_of_lt text.fits (by decide))
  rw [length]
  exact reads_readStr text (Nat.le_refl _)

/-- A counted list of items that are read back one by one. -/
theorem reads_items {α β : Type} {reader : Reader Error β} {encode : α → List UInt8}
    {f : α → β} (list : Counted α)
    (reads : ∀ item ∈ list.items, Reads reader (encode item) (f item)) :
    Reads (repeatN reader list.number.toNat) (list.items.flatMap encode) (list.items.map f) := by
  have number : list.number.toNat = list.items.length := UInt16.toNat_ofNat_of_lt' list.count
  rw [number]
  exact reads_repeatN_map reads

/-- A framed record that is read back up to the bytes that its reader skips. -/
theorem reads_entry {α β : Type} {reader : Reader Error β} {encode : α → List UInt8}
    {value : β} {content skipped : List UInt8} (entry : Framed encode) (eof : Error)
    (invalid : UInt32 → Error) (layout : encode entry.val = content ++ skipped)
    (reads : Reads reader content value) :
    Reads (framed eof invalid reader) entry.bytes value := by
  have short := entry.property
  rw [Framed.bytes, layout]
  rw [layout] at short
  exact reads_framed eof invalid reads short

/-- A framed record that is read back completely. -/
theorem reads_wholeEntry {α β : Type} {reader : Reader Error β} {encode : α → List UInt8}
    {value : β} (entry : Framed encode) (eof : Error) (invalid : UInt32 → Error)
    (reads : Reads reader (encode entry.val) value) :
    Reads (framed eof invalid reader) entry.bytes value :=
  reads_entry entry eof invalid (List.append_nil _).symm reads

/-! ## Sections -/

theorem reads_parseAttribute (entry : WireAttribute) :
    Reads parseAttribute entry.bytes entry.decoded :=
  (reads_u8 _ _).bind <| (reads_u8 _ _).bind <| (reads_readStr_u8 entry.name).bind
    (reads_readStr_u8 entry.value).bind_pure

theorem reads_parseAttributes (entries : WireAttributes) :
    Reads parseAttributes (entries.bytes WireAttribute.bytes) entries.decoded :=
  (reads_u16 _ _).bind (reads_items entries fun entry _ => reads_parseAttribute entry)

theorem Guid.length_bytes (guid : Guid) : guid.bytes.length = 16 := by
  simp [Guid.bytes, guid.size]

theorem Guid.getD_bytes (guid : Guid) (index : Nat) :
    guid.bytes.getD (8 + index) 0 = guid.data4.getD index 0 := by
  have front : (u32Bytes guid.data1 ++
      (u16Bytes guid.data2 ++ u16Bytes guid.data3)).length = 8 := by
    simp
  rw [List.getD_eq_getElem?_getD, List.getD_eq_getElem?_getD, Guid.bytes,
    ← List.append_assoc (u16Bytes guid.data2), ← List.append_assoc,
    List.getElem?_append_right (by omega), front, Nat.add_sub_cancel_left]

/-- The two groups of digits at the end of a GUID, byte by byte. -/
theorem hexDigits_groups {data4 : List UInt8} (size : data4.length = 8) :
    (data4.take 2).flatMap (fun byte => hexDigits 2 byte.toNat) =
        hexDigits 2 (data4.getD 0 0).toNat ++ hexDigits 2 (data4.getD 1 0).toNat ∧
      (data4.drop 2).flatMap (fun byte => hexDigits 2 byte.toNat) =
        hexDigits 2 (data4.getD 2 0).toNat ++ hexDigits 2 (data4.getD 3 0).toNat ++
          hexDigits 2 (data4.getD 4 0).toNat ++ hexDigits 2 (data4.getD 5 0).toNat ++
            hexDigits 2 (data4.getD 6 0).toNat ++ hexDigits 2 (data4.getD 7 0).toNat := by
  match data4, size with
  | [a, b, c, d, e, f, g, h], _ => simp

theorem formatGuid_bytes (guid : Guid) : formatGuid guid.bytes = guid.text := by
  have first : leU32 guid.bytes = guid.data1 := leU32_u32Bytes_append _ _
  have second : leU16 (guid.bytes.drop 4) = guid.data2 := by
    rw [Guid.bytes, List.drop_left' (length_u32Bytes _), leU16_u16Bytes_append]
  have third : leU16 (guid.bytes.drop 6) = guid.data3 := by
    rw [Guid.bytes, ← List.append_assoc, List.drop_left' (by simp), leU16_u16Bytes_append]
  have last := guid.getD_bytes
  rcases hexDigits_groups guid.size with ⟨pair, six⟩
  delta formatGuid
  rw [first, second, third, Guid.text]
  dsimp only
  rw [pair, six, ← last 0, ← last 1, ← last 2, ← last 3, ← last 4, ← last 5, ← last 6, ← last 7]
  simp only [List.append_assoc]

theorem reads_parseGuid (guid : Guid) : Reads parseGuid guid.bytes guid.text := by
  have taken : Reads (take (Error.eof "parsing GUID") 16) guid.bytes guid.bytes := by
    have whole := reads_take (Error.eof "parsing GUID") guid.bytes
    rwa [guid.length_bytes] at whole
  have read : Reads parseGuid guid.bytes (formatGuid guid.bytes) := taken.bind_pure
  rwa [formatGuid_bytes] at read

theorem reads_takeGuid (eof : Error) (guid : Guid) : Reads (take eof 16) guid.bytes guid.bytes := by
  have whole := reads_take eof guid.bytes
  rwa [guid.length_bytes] at whole

theorem reads_skipCopyMask {size : Nat} {mask : List UInt8} (fits : mask.length = size) :
    Reads (skipCopyMask size) mask () := by
  rw [← fits]
  exact (reads_take _ mask).bind_pure

/-- The attributes behind a flag. -/
theorem reads_flaggedAttributes {present : Bool} {entries : Option WireAttributes}
    (flag : present = entries.isSome) :
    Reads (optionally present parseAttributes)
      (entries.elim [] (Counted.bytes WireAttribute.bytes))
      (entries.map WireAttributes.decoded) :=
  reads_optionally flag fun entries _ => reads_parseAttributes entries

/-! ## Methods -/

theorem reads_parseRpcMethodParameter (parameter : WireParameter) :
    Reads parseRpcMethodParameter parameter.content parameter.decoded :=
  (reads_u32 _ _).bind <| (reads_u32 _ _).bind <| (reads_u32 _ _).bind <|
    (reads_u32 _ _).bind <| (reads_u32 _ _).bind <| (reads_takeGuid _ _).bind <|
      (reads_u16 _ _).bind <| (reads_u16 _ _).bind <| (reads_u16 _ _).bind <|
        (reads_u16 _ _).bind <| (reads_readStr_u16 _).bind <| (reads_readStr_u16 _).bind <|
          (reads_readStr_u16 _).bind <|
            (reads_flaggedAttributes parameter.attributeFlag).bind_pure

theorem reads_parseRpcMethod (method : WireMethod) :
    Reads parseRpcMethod method.content method.decoded := by
  have parameters := fun (eof : Error) (invalid : UInt32 → Error) =>
    reads_items method.parameters fun parameter _ =>
      reads_wholeEntry parameter eof invalid (reads_parseRpcMethodParameter parameter.val)
  exact (reads_u32 _ _).bind <| (reads_u32 _ _).bind <| (reads_u32 _ _).bind <|
    (reads_u32 _ _).bind <| (reads_u32 _ _).bind <| (reads_takeGuid _ _).bind <|
      (reads_u32 _ _).bind <| (reads_u32 _ _).bind <| (reads_u16 _ _).bind <|
        (reads_u16 _ _).bind <| (reads_u16 _ _).bind <| (reads_u16 _ _).bind <|
          (reads_readStr_u16 _).bind <| (reads_readStr_u16 _).bind <|
            (reads_readStr_u16 _).bind <| (parameters _ _).bind <|
              (reads_flaggedAttributes method.attributeFlag).bind_pure

theorem reads_parseMethodInfos (methods : WireMethods) :
    Reads parseMethodInfos (methods.bytes Framed.bytes) methods.decoded :=
  (reads_u16 _ _).bind <| reads_items methods fun method _ =>
    reads_wholeEntry method _ _ (reads_parseRpcMethod method.val)

/-! ## Enum variants -/

/-- A signed number is read back from its bytes. -/
theorem leInt_take {width : Nat} {value : Int}
    (holds : (⟨width, true⟩ : IntegerType).Holds value) :
    leInt ((intBytes width value).take width) = value := by
  have whole : (intBytes width value).take width = intBytes width value :=
    List.take_of_length_le (length_intBytes width value).le
  rcases holds with ⟨low, high⟩
  rw [whole, leInt_intBytes low high]

/-- An unsigned number is read back from its bytes. -/
theorem leValue_take {width : Nat} {value : Int}
    (holds : (⟨width, false⟩ : IntegerType).Holds value) :
    (leValue ((intBytes width value).take width) : Int) = value := by
  have whole : (intBytes width value).take width = intBytes width value :=
    List.take_of_length_le (length_intBytes width value).le
  rcases holds with ⟨low, high, -⟩
  rw [whole, leValue_intBytes_of_nonneg low high]

/-- A number of 64 unsigned bits that fits 63 is the same number as a signed one. -/
theorem holds_signed_of_unsigned {value : Int}
    (holds : (⟨8, false⟩ : IntegerType).Holds value) :
    (⟨8, true⟩ : IntegerType).Holds value := by
  rcases holds with ⟨low, -, high⟩
  constructor
  · show -(256 ^ 8 : Int) ≤ 2 * value
    omega
  · show 2 * value < (256 ^ 8 : Int)
    omega

/-- The value of a variant is decoded from the bytes of its integer type. -/
theorem enumValue_intBytes {baseType : UInt32} {typ : IntegerType} {value : Int}
    (isInteger : integerType baseType = some typ) (holds : typ.Holds value) :
    enumValue baseType (intBytes typ.width value) = .ok value := by
  unfold integerType at isInteger
  split at isInteger <;> cases isInteger
  all_goals
    rw [enumValue]
    dsimp only
    rw [if_pos (length_intBytes _ value).ge]
  · rw [leInt_take holds]
  · rw [leInt_take holds]
  · rw [leInt_take holds]
  · rw [leValue_take holds]
  · rw [leValue_take holds]
  · rw [leValue_take holds]
  · rw [leInt_take holds]
  · rw [leInt_take (holds_signed_of_unsigned holds)]

theorem reads_parseEnumInfo {baseType : UInt32} {typ : IntegerType}
    (isInteger : integerType baseType = some typ) {info : WireEnumInfo}
    (holds : typ.Holds info.value) :
    Reads (parseEnumInfo typ.width baseType) (info.bytes typ.width) info.decoded := by
  have raw : Reads (take (Error.eof "parsing enum infos") typ.width)
      (intBytes typ.width info.value) (intBytes typ.width info.value) := by
    have whole := reads_take (Error.eof "parsing enum infos") (intBytes typ.width info.value)
    rwa [length_intBytes] at whole
  have value : Reads (lift (enumValue baseType (intBytes typ.width info.value)) : Reader Error _)
      [] info.value := by
    intro rest
    rw [enumValue_intBytes isInteger holds]
    rfl
  have fields : Reads (parseEnumInfo typ.width baseType)
      ([UInt8.ofNat info.name.length] ++ (info.name.bytes ++
        (intBytes typ.width info.value ++ []))) info.decoded :=
    (reads_u8 _ _).bind <| (reads_readStr_u8 _).bind <| raw.bind value.bind_pure
  rwa [List.append_nil] at fields

theorem reads_parseEnumInfos {baseType : UInt32} {typ : IntegerType}
    (isInteger : integerType baseType = some typ) {infos : WireEnumInfos}
    (holds : ∀ info ∈ infos.items, typ.Holds info.value) :
    Reads (parseEnumInfos typ.width baseType) (infos.bytes (WireEnumInfo.bytes typ.width))
      infos.decoded :=
  (reads_u16 _ _).bind <| reads_items infos fun info member =>
    reads_parseEnumInfo isInteger (holds info member)

/-! ## Records -/

theorem reads_checkedI32 {value : Int} (low : -2 ^ 31 ≤ value) (high : value < 2 ^ 31) :
    Reads (lift (checkedI32 value) : Reader Error Int) [] value := by
  intro rest
  rw [checkedI32, if_pos ⟨low, high⟩]
  rfl

theorem reads_readArrayDim (dim : WireArrayDim) : Reads readArrayDim dim.bytes dim.decoded := by
  have lowerFits := dim.lowerFits
  have nonempty := dim.nonempty
  have totalFits := dim.totalFits
  have sumFits := dim.sumFits
  have fields : Reads readArrayDim (intBytes 4 dim.lower ++ (intBytes 4 dim.total ++ ([] ++ [])))
      dim.decoded :=
    (reads_i32 _ lowerFits (by omega)).bind <| (reads_i32 _ (by omega) totalFits).bind <|
      (reads_checkedI32 (by omega) sumFits).bind <|
        (reads_checkedI32 (by omega) (by omega)).bind_pure
  simpa [WireArrayDim.bytes] using fields

/-- What the front of a record says. -/
def WireRecord.head (record : WireRecord) (subItems : Nat) : TypeInfoHead where
  size := record.size.toNat
  offset := record.offset
  baseType := record.baseType
  flags := record.flags
  subItems := subItems
  name := record.name.value
  typeName := record.typeName.value
  comment := record.comment.value
  array := record.array.items.map WireArrayDim.decoded

theorem reads_readTypeInfoHead (record : WireRecord) (subItems : UInt16) :
    Reads readTypeInfoHead (record.headBytes subItems) (record.head subItems.toNat) := by
  have header := fun eof : Error => reads_take eof record.header
  rw [record.headerSize] at header
  have dims := reads_items record.array fun dim _ => reads_readArrayDim dim
  exact (reads_u32 _ 1).bind <| (header _).bind <| (reads_u32 _ _).bind <|
    (reads_u32 _ _).bind <| (reads_u32 _ _).bind <| (reads_u32 _ _).bind <|
      (reads_u16 _ _).bind <| (reads_u16 _ _).bind <| (reads_u16 _ _).bind <|
        (reads_u16 _ _).bind <| (reads_u16 _ _).bind <| (reads_readStr_u16 _).bind <|
          (reads_readStr_u16 _).bind <| (reads_readStr_u16 _).bind <| dims.bind_pure

section Sections

variable (record : WireRecord)

theorem reads_guidSection :
    Reads (optionally (hasFlag record.flags typeFlagGuid) parseGuid)
      (record.guid.elim [] Guid.bytes) (record.guid.map Guid.text) :=
  reads_optionally record.guidFlag fun guid _ => reads_parseGuid guid

theorem reads_copyMaskSection :
    Reads (optionally (hasFlag record.flags typeFlagCopyMask)
        (skipCopyMask record.size.toNat))
      (record.copyMask.elim [] id) (record.copyMask.map fun _ => ()) :=
  reads_optionally record.copyMaskFlag fun mask member =>
    reads_skipCopyMask (record.copyMaskSize mask member)

theorem reads_methodsSection :
    Reads (optionally (hasFlag record.flags typeFlagMethodInfos) parseMethodInfos)
      (record.methods.elim [] (Counted.bytes Framed.bytes))
      (record.methods.map WireMethods.decoded) :=
  reads_optionally record.methodsFlag fun methods _ => reads_parseMethodInfos methods

theorem reads_enumSection :
    Reads (optionally (hasFlag record.flags typeFlagEnumInfos)
        (parseEnumInfos record.size.toNat record.baseType))
      record.enumBytes (record.enumInfo.map WireEnumInfos.decoded) := by
  apply reads_optionally record.enumInfoFlag
  intro infos member
  rcases record.enumFits infos member with ⟨typ, isInteger, size, holds⟩
  rw [size]
  exact reads_parseEnumInfos isInteger holds

theorem reads_parseFieldAttributes :
    Reads (parseFieldAttributes record.flags record.size.toNat) record.sectionBytes
      (record.attributes.map WireAttributes.decoded) :=
  (reads_guidSection record).bind <| (reads_copyMaskSection record).bind <|
    (reads_methodsSection record).bind (reads_flaggedAttributes record.attributesFlag)

/-- A field is read back from its record up to the enum variants. -/
theorem reads_readField :
    Reads readField (record.headBytes 0 ++ record.sectionBytes) record.decoded :=
  (reads_readTypeInfoHead record 0).bind (reads_parseFieldAttributes record).bind_pure

end Sections

/-- A type is read back from its record. -/
theorem reads_readTypeInfo (typ : WireType) :
    Reads readTypeInfo typ.content typ.decoded := by
  have fields := fun (eof : Error) (invalid : UInt32 → Error) =>
    reads_items typ.fields fun field _ =>
      reads_entry field eof invalid rfl (reads_readField field.val)
  have sections : ∀ undecorated : TypeInfo, undecorated.flags = typ.record.flags →
      undecorated.size = typ.record.size.toNat → undecorated.baseType = typ.record.baseType →
      Reads (parseTypeFlags undecorated) (typ.record.sectionBytes ++ typ.record.enumBytes)
        { undecorated with
          guid := typ.record.guid.map Guid.text
          methods := typ.record.methods.map WireMethods.decoded
          attributes := typ.record.attributes.map WireAttributes.decoded
          enumInfo := typ.record.enumInfo.map WireEnumInfos.decoded } := by
    rintro undecorated flags size baseType
    rw [WireRecord.sectionBytes, List.append_assoc, List.append_assoc, List.append_assoc,
      parseTypeFlags, flags, size, baseType]
    exact (reads_guidSection typ.record).bind <| (reads_copyMaskSection typ.record).bind <|
      (reads_methodsSection typ.record).bind <|
        (reads_flaggedAttributes typ.record.attributesFlag).bind <|
          (reads_enumSection typ.record).bind_pure
  exact (reads_readTypeInfoHead typ.record typ.fields.number).bind <|
    (fields _ _).bind (sections _ rfl rfl rfl)

/-- A symbol is read back from its record up to the comment. -/
theorem reads_readSymbol (symbol : WireSymbol) :
    Reads readSymbol symbol.headBytes symbol.decoded :=
  (reads_u32 _ _).bind <| (reads_u32 _ _).bind <| (reads_u32 _ _).bind <|
    (reads_u32 _ _).bind <| (reads_u16 _ _).bind <| (reads_u16 _ _).bind <|
      (reads_u16 _ _).bind <| (reads_u16 _ _).bind <| (reads_u16 _ _).bind <|
        (reads_readStr_u16 _).bind (reads_readStr_u16 _).bind_pure

/-! ## Tables -/

theorem reads_splitEntry {α : Type} {encode : α → List UInt8} (eof : Error)
    (entry : Framed encode) : Reads (splitEntry eof) entry.bytes (encode entry.val) := by
  have length : (UInt32.ofNat ((encode entry.val).length + 4)).toNat =
      (encode entry.val).length + 4 := UInt32.toNat_ofNat_of_lt' entry.property
  apply (reads_u32 eof _).bind
  rw [length, if_neg (by omega), Nat.add_sub_cancel]
  exact reads_splitAt (encode entry.val)

/-- The table that the types make up, entry by entry. -/
def insertAll (typeMap : TypeMap) (types : List (Framed WireType.content)) : TypeMap :=
  types.foldl (fun typeMap typ => typeMap.insert typ.val.decoded.name typ.val.decoded) typeMap

/-- A round over a table that is not empty. -/
theorem decodeTypes_succ {rounds : Nat} {dataPtr : List UInt8} (nonempty : dataPtr ≠ [])
    (typeMap : TypeMap) :
    decodeTypes (rounds + 1) dataPtr typeMap =
      (splitEntry (.eof "decoding type info") dataPtr >>= fun split =>
        decodeTypeInfo split.1 none >>= fun decoded =>
          match decoded.1 with
          | none => .panic
          | some typ => decodeTypes rounds split.2 (typeMap.insert typ.name typ)) := by
  cases dataPtr with
  | nil => exact absurd rfl nonempty
  | cons byte bytes => rfl

theorem decodeTypes_flatMap {rounds : Nat} {types : List (Framed WireType.content)}
    (enough : (types.flatMap Framed.bytes).length ≤ rounds) (typeMap : TypeMap) :
    decodeTypes rounds (types.flatMap Framed.bytes) typeMap = .ok (insertAll typeMap types) := by
  induction types generalizing rounds typeMap with
  | nil => cases rounds <;> rfl
  | cons typ types ih =>
      have long := Framed.four_le_length typ
      rw [List.flatMap_cons, List.length_append] at enough
      cases rounds with
      | zero => omega
      | succ rounds =>
          have nonempty : Framed.bytes typ ++ types.flatMap Framed.bytes ≠ [] := by
            apply List.append_ne_nil_of_left_ne_nil
            exact List.ne_nil_of_length_pos (by omega)
          have decoded : decodeTypeInfo (WireType.content typ.val) none =
              .ok (some typ.val.decoded, none) := by
            have read := (reads_readTypeInfo typ.val).runOn []
            rw [List.append_nil] at read
            rw [decodeTypeInfo, read]
            rfl
          rw [List.flatMap_cons, decodeTypes_succ nonempty, reads_splitEntry, Outcome.ok_bind,
            decoded, Outcome.ok_bind]
          exact ih (by omega) _

theorem decodeSymbols_succ {rounds : Nat} {dataPtr : List UInt8} (nonempty : dataPtr ≠ [])
    (symbols : List Symbol) :
    decodeSymbols (rounds + 1) dataPtr symbols =
      (splitEntry (.eof "decoding symbol info") dataPtr >>= fun split =>
        readSymbol.runOn split.1 >>= fun symbol =>
          decodeSymbols rounds split.2 (symbols ++ [symbol])) := by
  cases dataPtr with
  | nil => exact absurd rfl nonempty
  | cons byte bytes => rfl

theorem decodeSymbols_flatMap {rounds : Nat} {symbols : List (Framed WireSymbol.content)}
    (enough : (symbols.flatMap Framed.bytes).length ≤ rounds) (decoded : List Symbol) :
    decodeSymbols rounds (symbols.flatMap Framed.bytes) decoded =
      .ok (decoded ++ symbols.map (·.val.decoded)) := by
  induction symbols generalizing rounds decoded with
  | nil => cases rounds <;> simp [decodeSymbols]
  | cons symbol symbols ih =>
      have long := Framed.four_le_length symbol
      rw [List.flatMap_cons, List.length_append] at enough
      cases rounds with
      | zero => omega
      | succ rounds =>
          have nonempty : Framed.bytes symbol ++ symbols.flatMap Framed.bytes ≠ [] := by
            apply List.append_ne_nil_of_left_ne_nil
            exact List.ne_nil_of_length_pos (by omega)
          have read := (reads_readSymbol symbol.val).runOn
            (symbol.val.comment.bytes ++ symbol.val.sections)
          rw [List.flatMap_cons, decodeSymbols_succ nonempty, reads_splitEntry, Outcome.ok_bind,
            WireSymbol.content, read, Outcome.ok_bind, ih (by omega)]
          simp

/-! ## The map -/

theorem getElem?_insertAll_of_absent {types : List (Framed WireType.content)} {name : String}
    (absent : ∀ typ ∈ types, typ.val.decoded.name ≠ name) (typeMap : TypeMap) :
    (insertAll typeMap types)[name]? = typeMap[name]? := by
  induction types generalizing typeMap with
  | nil => rfl
  | cons first types ih =>
      rcases List.forall_mem_cons.mp absent with ⟨differs, others⟩
      rw [insertAll, List.foldl_cons]
      refine (ih others _).trans ?_
      rw [Std.HashMap.getElem?_insert, if_neg (by simpa using differs)]

theorem getElem?_insertAll_of_mem {types : List (Framed WireType.content)}
    (distinct : (types.map fun typ => typ.val.decoded.name).Nodup) (typeMap : TypeMap)
    {typ : Framed WireType.content} (member : typ ∈ types) :
    (insertAll typeMap types)[typ.val.decoded.name]? = some typ.val.decoded := by
  induction types generalizing typeMap with
  | nil => cases member
  | cons first types ih =>
      rw [List.map_cons, List.nodup_cons] at distinct
      rcases distinct with ⟨fresh, others⟩
      rw [insertAll, List.foldl_cons]
      rcases List.mem_cons.mp member with rfl | later
      · have absent : ∀ other ∈ types, other.val.decoded.name ≠ typ.val.decoded.name := by
          intro other otherMember same
          exact fresh (List.mem_map.mpr ⟨other, otherMember, same⟩)
        refine (getElem?_insertAll_of_absent absent _).trans ?_
        rw [Std.HashMap.getElem?_insert, if_pos (by simp)]
      · exact ih others _ later

/-- Decoding the upload of any symbols and any types with distinct names returns exactly
those symbols in order, and a map of exactly those types. -/
theorem decodeSymbolInfo_encoded (symbols : List (Framed WireSymbol.content))
    (types : List (Framed WireType.content))
    (distinct : (types.map fun typ => typ.val.decoded.name).Nodup) :
    ∃ typeMap,
      decodeSymbolInfo (symbols.flatMap Framed.bytes) (types.flatMap Framed.bytes) =
          .ok (symbols.map (·.val.decoded), typeMap) ∧
        ∀ name typ, typeMap[name]? = some typ ↔
          ∃ wire ∈ types, wire.val.decoded = typ ∧ typ.name = name := by
  refine ⟨insertAll ∅ types, ?_, ?_⟩
  · rw [decodeSymbolInfo, decodeTypes_flatMap (Nat.le_refl _), Outcome.ok_bind,
      decodeSymbols_flatMap (Nat.le_refl _), Outcome.ok_bind]
    rfl
  · intro name typ
    constructor
    · intro found
      by_cases named : ∃ wire ∈ types, wire.val.decoded.name = name
      · rcases named with ⟨wire, member, rfl⟩
        rw [getElem?_insertAll_of_mem distinct _ member, Option.some.injEq] at found
        exact ⟨wire, member, found, congrArg TypeInfo.name found.symm⟩
      · push Not at named
        rw [getElem?_insertAll_of_absent named, Std.HashMap.getElem?_empty] at found
        cases found
    · rintro ⟨wire, member, rfl, rfl⟩
      exact getElem?_insertAll_of_mem distinct _ member

/-- A field of one byte or two without sections. -/
def plainField (size offset baseType : UInt32) (name typeName : Text maxStrLen) : WireRecord where
  header := List.replicate 8 0
  headerSize := rfl
  size := size
  offset := offset
  baseType := baseType
  flags := 0x01
  name := name
  typeName := typeName
  comment := ⟨"", by decide⟩
  array := ⟨[⟨-1, 3, by decide, by decide, by decide, by decide⟩], by decide⟩
  guid := none
  copyMask := none
  methods := none
  attributes := none
  enumInfo := none
  guidFlag := by decide
  copyMaskFlag := by decide
  methodsFlag := by decide
  attributesFlag := by decide
  enumInfoFlag := by decide
  copyMaskSize := by simp
  enumFits := by simp

/-- A method with one parameter. -/
def startMethod : WireMethod where
  version := 1
  vTableIndex := 0
  returnSize := 2
  returnAlignSize := 2
  reserved := 0
  returnTypeGuid := ⟨1, 2, 3, List.replicate 8 4, rfl⟩
  returnAdsDataType := 2
  flags := 0
  name := ⟨"Start", by decide⟩
  returnType := ⟨"INT", by decide⟩
  comment := ⟨"", by decide⟩
  parameters := ⟨[⟨{ size := 4, alignSize := 4, adsDataType := 4, flags := 0x41, reserved := 0,
                     typeGuid := ⟨0, 0, 0, List.replicate 8 0, rfl⟩, lengthIsParamIndex := 0,
                     name := ⟨"speed", by decide⟩, typ := ⟨"REAL", by decide⟩,
                     comment := ⟨"rpm", by decide⟩,
                     attributes := some ⟨[⟨⟨"unit", by decide⟩, ⟨"", by decide⟩⟩], by decide⟩,
                     attributeFlag := by decide }, by decide +kernel⟩], by decide⟩
  attributes := none
  attributeFlag := by decide

/-- A structured enumeration with every section and two fields. -/
def everySection : WireType where
  record :=
    { plainField 2 0 2 ⟨"ST_Mode", by decide⟩ ⟨"INT", by decide⟩ with
      flags := 0x3A81
      guid := some ⟨0x12345678, 0x9ABC, 0xDEF0, [1, 2, 3, 4, 5, 6, 7, 8], rfl⟩
      copyMask := some [0xFF, 0x0F]
      methods := some ⟨[⟨startMethod, by decide +kernel⟩], by decide⟩
      attributes := some ⟨[⟨⟨"qualified_only", by decide⟩, ⟨"", by decide⟩⟩], by decide⟩
      enumInfo := some ⟨[⟨⟨"Off", by decide⟩, 0⟩, ⟨⟨"Fault", by decide⟩, -1⟩], by decide⟩
      guidFlag := by decide
      copyMaskFlag := by decide
      methodsFlag := by decide
      attributesFlag := by decide
      enumInfoFlag := by decide
      copyMaskSize := by simp [plainField]
      enumFits := by
        rintro infos member
        cases member
        exact ⟨⟨2, true⟩, rfl, rfl, by simp [IntegerType.Holds]⟩ }
  fields := ⟨[⟨plainField 1 0 33 ⟨"bFlag", by decide⟩ ⟨"BOOL", by decide⟩, by decide +kernel⟩,
              ⟨plainField 2 0xFFFFFFFF 2 ⟨"nValue", by decide⟩ ⟨"INT", by decide⟩,
                by decide +kernel⟩],
    by decide⟩

/-- A type with every section, another one, and a symbol. -/
theorem everySection_decoded :
    let symbols : List (Framed WireSymbol.content) :=
      [⟨{ ixGroup := 0x4020, ixOffset := 4, size := 2, baseType := 2, flags := 8,
          legacyArrayDim := 0, name := ⟨"MAIN.mode", by decide⟩, typ := ⟨"ST_Mode", by decide⟩,
          comment := ⟨"", by decide⟩, sections := [1, 2, 3] }, by decide +kernel⟩]
    let types : List (Framed WireType.content) :=
      [⟨everySection, by decide +kernel⟩,
        ⟨⟨plainField 8 0 65 ⟨"ST_Other", by decide⟩ ⟨"", by decide⟩, ⟨[], by decide⟩⟩,
          by decide +kernel⟩]
    ∃ typeMap,
      decodeSymbolInfo (symbols.flatMap Framed.bytes) (types.flatMap Framed.bytes) =
          .ok ([⟨"MAIN.mode", 0x4020, 4, "ST_Mode", 2, 2, 8⟩], typeMap) ∧
        typeMap["ST_Mode"]? = some everySection.decoded := by
  intro symbols types
  rcases decodeSymbolInfo_encoded symbols types (by decide +kernel) with ⟨typeMap, ran, holds⟩
  refine ⟨typeMap, ran, (holds _ _).mpr ⟨⟨everySection, by decide +kernel⟩, ?_, rfl, rfl⟩⟩
  exact List.mem_cons_self

end Ads.Symbols
