import Ads.Symbol.Layout

/-!
# Records nested in a type-info record

A type-info record holds sub-items, which are records of the same kind, and methods,
which hold parameters.  Each says its own length.  The decoder checks it from below:
a length under four is an error.  It does not check it from above: a record that ends
past the record around it makes the split panic.
-/

namespace Ads.Symbols

open Ads.Bytes Ads.Bytes.Reader Ads.Control

/-! ## The places of nested records -/

/-- How a type-info record is decoded: as a type of its own, or as a field. -/
inductive Mode
  | type
  | field
  deriving DecidableEq

/-- The mode that a parent puts the decoder in. -/
def Mode.ofParent : Option TypeInfo → Mode
  | none => .type
  | some _ => .field

/-- How many sub-items the decoder reads: a field's are left alone. -/
def Mode.subItems : Mode → TypeInfoHead → Nat
  | .type, head => head.subItems
  | .field, _ => 0

/-- Read a record up to its methods, and how many of these there are. -/
def Mode.readMethodCount (mode : Mode) : Reader Error Nat := do
  let head ← readTypeInfoHead
  let _ ← repeatN subItemEntry (mode.subItems head)
  Symbols.readMethodCount head.flags head.size

theorem Mode.readMethodCount_type :
    Mode.type.readMethodCount = readTypeInfoHead >>= fun head =>
      repeatN subItemEntry head.subItems >>= fun _ =>
        Symbols.readMethodCount head.flags head.size :=
  rfl

theorem Mode.readMethodCount_field :
    Mode.field.readMethodCount = readTypeInfoHead >>= fun head =>
      Symbols.readMethodCount head.flags head.size :=
  rfl

/-- The kinds of records that a type-info record has nested in it. -/
inductive Nested
  | subItem
  | method
  | parameter

namespace Nested

/-- What a nested record decodes to. -/
def Item : Nested → Type
  | subItem => Field
  | method => RpcMethod
  | parameter => RpcMethodParameter

/-- The decoder of a nested record's content. -/
def reader : (kind : Nested) → Reader Error kind.Item
  | subItem => readField
  | method => parseRpcMethod
  | parameter => parseRpcMethodParameter

/-- What the enclosing decoder does at a nested record. -/
def entry : (kind : Nested) → Reader Error kind.Item
  | subItem => subItemEntry
  | method => methodEntry
  | parameter => parameterEntry

end Nested

/-- The places at which the decoder of a record reads a nested one: each is a slice from
the nested record's length to the end of the record around it.  Everything in front of
the place was decoded. -/
inductive NestedAt : Mode → List UInt8 → Nested → List UInt8 → Prop
  | subItem {ptr input place : List UInt8} {head : TypeInfoHead}
      (read : readTypeInfoHead ptr = .ok (head, input))
      (loop : EntryAt readField.runOn head.subItems input place) :
      NestedAt .type ptr .subItem place
  | within {ptr outer place : List UInt8} {kind : Nested}
      (item : NestedAt .type ptr .subItem outer) (fits : EntryFits outer)
      (inner : NestedAt .field (entryContent outer) kind place) :
      NestedAt .type ptr kind place
  | method {mode : Mode} {ptr input place : List UInt8} {count : Nat}
      (read : mode.readMethodCount ptr = .ok (count, input))
      (loop : EntryAt parseRpcMethod.runOn count input place) :
      NestedAt mode ptr .method place
  | parameter {mode : Mode} {ptr outer input place : List UInt8} {head : RpcMethodHead}
      (item : NestedAt mode ptr .method outer) (fits : EntryFits outer)
      (read : readRpcMethodHead (entryContent outer) = .ok (head, input))
      (loop : EntryAt parseRpcMethodParameter.runOn head.paramCount input place) :
      NestedAt mode ptr .parameter place

/-! ## What fails in a nested record fails in the records around it -/

theorem readRpcMethod_fails {content input place : List UInt8} {head : RpcMethodHead}
    {failure : Outcome Error Empty} (read : readRpcMethodHead content = .ok (head, input))
    (loop : EntryAt parseRpcMethodParameter.runOn head.paramCount input place)
    (failed : parameterEntry place = .raise failure) :
    parseRpcMethod content = .raise failure := by
  have parameters : repeatN parameterEntry head.paramCount input = .raise failure :=
    repeatN_framed_eq_raise_iff.mpr ⟨place, loop, failed⟩
  rw [parseRpcMethod_eq, bind_run_ok read, readRpcMethodBody]
  exact bind_run_eq_raise_iff.mpr (Or.inl parameters)

theorem readSections_fails {flags : UInt32} {size count : Nat} {input rest place : List UInt8}
    {failure : Outcome Error Empty}
    (counted : readMethodCount flags size input = .ok (count, rest))
    (loop : EntryAt parseRpcMethod.runOn count rest place)
    (failed : methodEntry place = .raise failure) :
    readSections flags size input = .raise failure := by
  obtain ⟨guid, afterGuid, guidRead, counted⟩ := bind_run_eq_ok_iff.mp counted
  obtain ⟨mask, afterMask, maskRead, counted⟩ := bind_run_eq_ok_iff.mp counted
  obtain ⟨number, afterCount, numberRead, counted⟩ := bind_run_eq_ok_iff.mp counted
  cases counted
  rw [readSections, bind_run_ok guidRead, bind_run_ok maskRead]
  apply bind_run_eq_raise_iff.mpr
  left
  cases number with
  | none =>
      obtain ⟨values, before, -⟩ := loop
      exact absurd before (Nat.not_lt_zero _)
  | some number =>
      obtain ⟨present, numberRead⟩ := optionally_run_eq_ok_iff.mp numberRead
      apply optionally_run_eq_raise_iff.mpr
      refine ⟨present, ?_⟩
      rw [parseMethodInfos_eq, bind_run_ok numberRead]
      exact repeatN_framed_eq_raise_iff.mpr ⟨place, loop, failed⟩

/-- A nested record whose content fails fails itself. -/
theorem framed_fails {α : Type} {reader : Reader Error α} {eof : Error}
    {invalid : UInt32 → Error} {place : List UInt8} {failure : Outcome Error Empty}
    (fits : EntryFits place) (failed : reader (entryContent place) = .raise failure) :
    framed eof invalid reader place = .raise failure := by
  rw [framed_run fits, runOn_eq_raise_iff.mpr failed]
  exact Outcome.raise_bind failure _

/-- The decoder of a record in a mode fails. -/
def Mode.Fails (mode : Mode) (ptr : List UInt8) (failure : Outcome Error Empty) : Prop :=
  match mode with
  | .type => readTypeInfo ptr = .raise failure
  | .field => readField ptr = .raise failure

/-- What happens at the methods of a record happens to the record. -/
theorem Mode.fails_of_method {mode : Mode} {ptr input place : List UInt8} {count : Nat}
    {failure : Outcome Error Empty} (read : mode.readMethodCount ptr = .ok (count, input))
    (loop : EntryAt parseRpcMethod.runOn count input place)
    (failed : methodEntry place = .raise failure) : mode.Fails ptr failure := by
  obtain ⟨head, afterHead, headRead, read⟩ := bind_run_eq_ok_iff.mp read
  obtain ⟨fields, afterItems, itemsRead, read⟩ := bind_run_eq_ok_iff.mp read
  have sections := readSections_fails read loop failed
  cases mode with
  | type =>
      change repeatN subItemEntry head.subItems afterHead = _ at itemsRead
      rw [Mode.Fails, readTypeInfo_eq, bind_run_ok headRead, bind_run_ok itemsRead]
      exact bind_run_eq_raise_iff.mpr (Or.inl sections)
  | field =>
      cases itemsRead
      rw [Mode.Fails, readField_eq, bind_run_ok headRead]
      exact bind_run_eq_raise_iff.mpr (Or.inl sections)

theorem fails_of_subItem {ptr input place : List UInt8} {head : TypeInfoHead}
    {failure : Outcome Error Empty} (read : readTypeInfoHead ptr = .ok (head, input))
    (loop : EntryAt readField.runOn head.subItems input place)
    (failed : subItemEntry place = .raise failure) : Mode.type.Fails ptr failure := by
  have items : repeatN subItemEntry head.subItems input = .raise failure :=
    repeatN_framed_eq_raise_iff.mpr ⟨place, loop, failed⟩
  rw [Mode.Fails, readTypeInfo_eq, bind_run_ok read]
  exact bind_run_eq_raise_iff.mpr (Or.inl items)

/-- What fails at any nested record, at whatever depth, fails the whole decoder alike. -/
theorem NestedAt.fails {mode : Mode} {ptr place : List UInt8} {kind : Nested}
    {failure : Outcome Error Empty} (nested : NestedAt mode ptr kind place)
    (failed : kind.entry place = .raise failure) : mode.Fails ptr failure := by
  induction nested with
  | subItem read loop => exact fails_of_subItem read loop failed
  | within item fits inner ihItem ihInner =>
      exact ihItem (framed_fails fits (ihInner failed))
  | method read loop => exact Mode.fails_of_method read loop failed
  | parameter item fits read loop ih =>
      exact ih (framed_fails fits (readRpcMethod_fails read loop failed))

/-! ## What else can fail -/

/-- Read a type up to its enum variants. -/
def readToEnums : Reader Error TypeInfoHead := do
  let head ← readTypeInfoHead
  let _ ← repeatN subItemEntry head.subItems
  let _ ← readSections head.flags head.size
  let _ ← optionally (hasFlag head.flags typeFlagAttributes) parseAttributes
  pure head

/-- A record gets to array bounds that overflow, or to the value of an enum variant that is
narrower than its base type. -/
inductive ValueFault : Mode → List UInt8 → Prop
  | array {mode : Mode} {ptr : List UInt8} (fault : ArrayFault ptr) : ValueFault mode ptr
  | within {ptr place : List UInt8} (item : NestedAt .type ptr .subItem place)
      (fits : EntryFits place) (fault : ArrayFault (entryContent place)) : ValueFault .type ptr
  | enum {ptr input : List UInt8} {head : TypeInfoHead}
      (read : readToEnums ptr = .ok (head, input))
      (flagged : hasFlag head.flags typeFlagEnumInfos = true)
      (narrow : head.size < enumWidth head.baseType) (first : FirstEnumInfo head.size input) :
      ValueFault .type ptr

/-- A record gets to a nested one that ends past the record around it. -/
def NestedOverrun (mode : Mode) (ptr : List UInt8) : Prop :=
  ∃ kind place, NestedAt mode ptr kind place ∧ Overruns place

theorem parameterEntry_eq_panic_iff {place : List UInt8} :
    parameterEntry place = .panic ↔ Overruns place := by
  rw [parameterEntry, framed_eq_panic_iff, runOn_eq_panic_iff]
  constructor
  · rintro (overruns | ⟨-, content⟩)
    · exact overruns
    · exact absurd content (neverPanics_parseRpcMethodParameter _)
  · exact Or.inl

theorem parseRpcMethod_panics {content : List UInt8} (panicked : parseRpcMethod content = .panic) :
    ∃ head input place, readRpcMethodHead content = .ok (head, input) ∧
      EntryAt parseRpcMethodParameter.runOn head.paramCount input place ∧ Overruns place := by
  rw [parseRpcMethod_eq] at panicked
  rcases bind_run_eq_panic_iff.mp panicked with headPanics | ⟨head, input, read, body⟩
  · exact absurd headPanics (neverPanics_readRpcMethodHead content)
  · rcases bind_run_eq_panic_iff.mp body with loop | ⟨parameters, rest, -, attributes⟩
    · have failed : repeatN parameterEntry head.paramCount input = .raise .panic := loop
      obtain ⟨place, reached, overruns⟩ := repeatN_framed_eq_raise_iff.mp failed
      exact ⟨head, input, place, read, reached, parameterEntry_eq_panic_iff.mp overruns⟩
    · have safe := neverPanics_parseAttributes.optionally
        (hasFlag head.flags rpcMethodAttributeFlag)
      exact absurd attributes (safe.bind (fun _ => NeverPanics.pure _) rest)

/-- What panics at a method is the method's length or a parameter's. -/
theorem NestedAt.overrun_of_method {mode : Mode} {ptr place : List UInt8}
    (item : NestedAt mode ptr .method place) (panicked : methodEntry place = .panic) :
    NestedOverrun mode ptr := by
  rcases framed_eq_panic_iff.mp panicked with overruns | ⟨fits, content⟩
  · exact ⟨.method, place, item, overruns⟩
  · obtain ⟨head, input, inner, read, loop, overruns⟩ :=
      parseRpcMethod_panics (runOn_eq_panic_iff.mp content)
    exact ⟨.parameter, inner, NestedAt.parameter item fits read loop, overruns⟩

theorem readSections_panics {flags : UInt32} {size : Nat} {input : List UInt8}
    (panicked : readSections flags size input = .panic) :
    ∃ count rest place, readMethodCount flags size input = .ok (count, rest) ∧
      EntryAt parseRpcMethod.runOn count rest place ∧ methodEntry place = .panic := by
  rcases bind_run_eq_panic_iff.mp panicked with guid | ⟨guid, afterGuid, guidRead, panicked⟩
  · exact absurd guid (neverPanics_parseGuid.optionally _ input)
  · rcases bind_run_eq_panic_iff.mp panicked with mask | ⟨mask, afterMask, maskRead, panicked⟩
    · exact absurd mask ((neverPanics_skipCopyMask size).optionally _ afterGuid)
    · rcases bind_run_eq_panic_iff.mp panicked with methods | ⟨methods, rest, -, done⟩
      · have failed : optionally (hasFlag flags typeFlagMethodInfos) parseMethodInfos afterMask =
            .raise .panic := methods
        obtain ⟨present, failed⟩ := optionally_run_eq_raise_iff.mp failed
        rw [parseMethodInfos_eq] at failed
        rcases bind_run_eq_raise_iff.mp failed with counted | ⟨count, rest, counted, loop⟩
        · exact absurd counted (neverPanics_u16 _ afterMask)
        · obtain ⟨place, reached, entry⟩ := repeatN_framed_eq_raise_iff.mp loop
          refine ⟨count.toNat, rest, place, ?_, reached, entry⟩
          rw [readMethodCount, bind_run_ok guidRead, bind_run_ok maskRead,
            bind_run_ok (optionally_run_eq_ok_iff.mpr ⟨present, counted⟩)]
          rfl
      · exact absurd done (Outcome.ok_ne_panic _)

/-- A field panics at its array bounds or at a nested record that overruns. -/
theorem readField_panics {ptr : List UInt8} (panicked : readField ptr = .panic) :
    ArrayFault ptr ∨ NestedOverrun .field ptr := by
  rw [readField_eq] at panicked
  rcases bind_run_eq_panic_iff.mp panicked with bounds | ⟨head, afterHead, headRead, panicked⟩
  · exact Or.inl (readTypeInfoHead_eq_panic_iff.mp bounds)
  · rcases bind_run_eq_panic_iff.mp panicked with sections | ⟨sections, rest, -, attributes⟩
    · obtain ⟨count, rest, place, counted, loop, entry⟩ := readSections_panics sections
      have read : Mode.field.readMethodCount ptr = .ok (count, rest) := by
        rw [Mode.readMethodCount_field, bind_run_ok headRead]
        exact counted
      exact Or.inr ((NestedAt.method read loop).overrun_of_method entry)
    · have safe := neverPanics_parseAttributes.optionally
        (hasFlag head.flags typeFlagAttributes)
      exact absurd attributes (safe.bind (fun _ => NeverPanics.pure _) rest)

/-- A sub-item that panics overruns, or has a fault of its own. -/
theorem subItem_panics {ptr place : List UInt8} (item : NestedAt .type ptr .subItem place)
    (panicked : subItemEntry place = .panic) : ValueFault .type ptr ∨ NestedOverrun .type ptr := by
  rcases framed_eq_panic_iff.mp panicked with overruns | ⟨fits, content⟩
  · exact Or.inr ⟨.subItem, place, item, overruns⟩
  · rcases readField_panics (runOn_eq_panic_iff.mp content) with
      bounds | ⟨kind, inner, nested, past⟩
    · exact Or.inl (ValueFault.within item fits bounds)
    · exact Or.inr ⟨kind, inner, NestedAt.within item fits nested, past⟩

/-- Behind its methods, a type panics at its enum variants alone. -/
theorem readTypeRest_panics {typ : TypeInfo} {sections : Option String × Option (List RpcMethod)}
    {input : List UInt8} (panicked : readTypeRest typ sections input = .panic) :
    ∃ attributes rest,
      optionally (hasFlag typ.flags typeFlagAttributes) parseAttributes input =
        .ok (attributes, rest) ∧
      hasFlag typ.flags typeFlagEnumInfos = true ∧ typ.size < enumWidth typ.baseType ∧
        FirstEnumInfo typ.size rest := by
  rcases bind_run_eq_panic_iff.mp panicked with pragma | ⟨attributes, rest, read, panicked⟩
  · exact absurd pragma (neverPanics_parseAttributes.optionally _ input)
  · rcases bind_run_eq_panic_iff.mp panicked with enums | ⟨enums, _, -, done⟩
    · have failed : optionally (hasFlag typ.flags typeFlagEnumInfos)
          (parseEnumInfos typ.size typ.baseType) rest = .raise .panic := enums
      obtain ⟨flagged, failed⟩ := optionally_run_eq_raise_iff.mp failed
      obtain ⟨narrow, first⟩ := parseEnumInfos_eq_panic_iff.mp failed
      exact ⟨attributes, rest, read, flagged, narrow, first⟩
    · exact absurd done (Outcome.ok_ne_panic _)

/-- A type panics at a value or at a nested record that overruns. -/
theorem readTypeInfo_panics {ptr : List UInt8} (panicked : readTypeInfo ptr = .panic) :
    ValueFault .type ptr ∨ NestedOverrun .type ptr := by
  rw [readTypeInfo_eq] at panicked
  rcases bind_run_eq_panic_iff.mp panicked with bounds | ⟨head, afterHead, headRead, panicked⟩
  · exact Or.inl (ValueFault.array (readTypeInfoHead_eq_panic_iff.mp bounds))
  rcases bind_run_eq_panic_iff.mp panicked with items | ⟨fields, behind, itemsRead, panicked⟩
  · have failed : repeatN subItemEntry head.subItems afterHead = .raise .panic := items
    obtain ⟨place, loop, entry⟩ := repeatN_framed_eq_raise_iff.mp failed
    exact subItem_panics (NestedAt.subItem headRead loop) entry
  rcases bind_run_eq_panic_iff.mp panicked with sections | ⟨sections, rest, sectionsRead, panicked⟩
  · obtain ⟨count, rest, place, counted, loop, entry⟩ := readSections_panics sections
    have read : Mode.type.readMethodCount ptr = .ok (count, rest) := by
      rw [Mode.readMethodCount_type, bind_run_ok headRead, bind_run_ok itemsRead]
      exact counted
    exact Or.inr ((NestedAt.method read loop).overrun_of_method entry)
  · obtain ⟨attributes, input, read, flagged, narrow, first⟩ := readTypeRest_panics panicked
    change optionally (hasFlag head.flags typeFlagAttributes) parseAttributes rest = _ at read
    have before : readToEnums ptr = .ok (head, input) := by
      rw [readToEnums, bind_run_ok headRead, bind_run_ok itemsRead, bind_run_ok sectionsRead,
        bind_run_ok read]
      rfl
    exact Or.inl (ValueFault.enum before flagged narrow first)

theorem Mode.fails_of_arrayFault {mode : Mode} {ptr : List UInt8} (fault : ArrayFault ptr) :
    mode.Fails ptr .panic := by
  have headPanics : readTypeInfoHead ptr = .raise .panic :=
    readTypeInfoHead_eq_panic_iff.mpr fault
  cases mode with
  | type =>
      rw [Mode.Fails, readTypeInfo_eq]
      exact bind_run_eq_raise_iff.mpr (Or.inl headPanics)
  | field =>
      rw [Mode.Fails, readField_eq]
      exact bind_run_eq_raise_iff.mpr (Or.inl headPanics)

theorem fails_of_enumFault {ptr input : List UInt8} {head : TypeInfoHead}
    (read : readToEnums ptr = .ok (head, input))
    (flagged : hasFlag head.flags typeFlagEnumInfos = true)
    (narrow : head.size < enumWidth head.baseType) (first : FirstEnumInfo head.size input) :
    Mode.type.Fails ptr .panic := by
  obtain ⟨head, afterHead, headRead, read⟩ := bind_run_eq_ok_iff.mp read
  obtain ⟨fields, behind, itemsRead, read⟩ := bind_run_eq_ok_iff.mp read
  obtain ⟨sections, rest, sectionsRead, read⟩ := bind_run_eq_ok_iff.mp read
  obtain ⟨attributes, afterAttributes, attributesRead, read⟩ := bind_run_eq_ok_iff.mp read
  cases read
  have enums : parseEnumInfos head.size head.baseType input = .raise .panic :=
    parseEnumInfos_eq_panic_iff.mpr ⟨narrow, first⟩
  rw [Mode.Fails, readTypeInfo_eq, bind_run_ok headRead, bind_run_ok itemsRead,
    bind_run_ok sectionsRead]
  refine bind_run_eq_raise_iff.mpr (Or.inr ⟨attributes, input, attributesRead, ?_⟩)
  exact bind_run_eq_raise_iff.mpr
    (Or.inl (optionally_run_eq_raise_iff.mpr ⟨flagged, enums⟩))

theorem ValueFault.fails {mode : Mode} {ptr : List UInt8} (fault : ValueFault mode ptr) :
    mode.Fails ptr .panic := by
  cases fault with
  | array bounds => exact Mode.fails_of_arrayFault bounds
  | within item fits bounds =>
      exact item.fails (framed_fails fits (Mode.field.fails_of_arrayFault bounds))
  | enum read flagged narrow first => exact fails_of_enumFault read flagged narrow first

theorem Nested.entry_overruns {kind : Nested} {place : List UInt8} (overruns : Overruns place) :
    kind.entry place = .panic := by
  cases kind with
  | subItem => exact framed_run_overruns overruns
  | method => exact framed_run_overruns overruns
  | parameter => exact framed_run_overruns overruns

theorem NestedOverrun.fails {mode : Mode} {ptr : List UInt8} (overrun : NestedOverrun mode ptr) :
    mode.Fails ptr .panic := by
  obtain ⟨kind, place, nested, past⟩ := overrun
  exact nested.fails (Nested.entry_overruns past)

/-- A record panics exactly at a value or at a nested record that overruns. -/
theorem Mode.fails_panic_iff {mode : Mode} {ptr : List UInt8} :
    mode.Fails ptr .panic ↔ ValueFault mode ptr ∨ NestedOverrun mode ptr := by
  constructor
  · intro panicked
    cases mode with
    | type => exact readTypeInfo_panics panicked
    | field =>
        rcases readField_panics panicked with bounds | overrun
        · exact Or.inl (ValueFault.array bounds)
        · exact Or.inr overrun
  · rintro (fault | overrun)
    · exact fault.fails
    · exact overrun.fails

/-- What the decoder of a record does in a mode, `decodeTypeInfo` does. -/
theorem decodeTypeInfo_eq_raise_iff {ptr : List UInt8} {parent : Option TypeInfo}
    {failure : Outcome Error Empty} :
    decodeTypeInfo ptr parent = .raise failure ↔ (Mode.ofParent parent).Fails ptr failure := by
  cases parent with
  | none =>
      rw [decodeTypeInfo, Outcome.bind_eq_raise_iff, runOn_eq_raise_iff]
      constructor
      · rintro (failed | ⟨typ, -, done⟩)
        · exact failed
        · exact absurd done (Outcome.ok_ne_raise _ failure)
      · exact Or.inl
  | some parent =>
      rw [decodeTypeInfo, Outcome.bind_eq_raise_iff, runOn_eq_raise_iff]
      constructor
      · rintro (failed | ⟨field, -, done⟩)
        · exact failed
        · exact absurd done (Outcome.ok_ne_raise _ failure)
      · exact Or.inl

theorem decodeTypeInfo_eq_panic_iff {ptr : List UInt8} {parent : Option TypeInfo} :
    decodeTypeInfo ptr parent = .panic ↔
      ValueFault (Mode.ofParent parent) ptr ∨ NestedOverrun (Mode.ofParent parent) ptr :=
  (@decodeTypeInfo_eq_raise_iff ptr parent .panic).trans Mode.fails_panic_iff

/-! ## Behind nested records -/

/-- The decoder of a record goes on right behind the last of the sub-items, methods or
parameters that it has read, and fails there. -/
inductive FailsBehind : Mode → List UInt8 → Outcome Error Empty → Prop
  | subItems {ptr input behind : List UInt8} {head : TypeInfoHead} {fields : List Field}
      {failure : Outcome Error Empty} (read : readTypeInfoHead ptr = .ok (head, input))
      (count : fields.length = head.subItems) (laid : Laid FieldLaid input fields behind)
      (failed : parseTypeFlags (head.withFields fields) behind = .raise failure) :
      FailsBehind .type ptr failure
  | typeMethods {ptr input behind middle : List UInt8} {head : TypeInfoHead}
      {fields : List Field} {sections : Option String × Option (List RpcMethod)}
      {failure : Outcome Error Empty} (read : readTypeInfoHead ptr = .ok (head, input))
      (count : fields.length = head.subItems) (laid : Laid FieldLaid input fields behind)
      (methods : SectionsLaid head.flags head.size behind sections middle)
      (failed : readTypeRest (head.withFields fields) sections middle = .raise failure) :
      FailsBehind .type ptr failure
  | fieldMethods {ptr input behind : List UInt8} {head : TypeInfoHead}
      {sections : Option String × Option (List RpcMethod)} {failure : Outcome Error Empty}
      (read : readTypeInfoHead ptr = .ok (head, input))
      (methods : SectionsLaid head.flags head.size input sections behind)
      (failed : optionally (hasFlag head.flags typeFlagAttributes) parseAttributes behind =
        .raise failure) :
      FailsBehind .field ptr failure
  | parameters {mode : Mode} {ptr outer input behind : List UInt8} {head : RpcMethodHead}
      {parameters : List RpcMethodParameter} {failure : Outcome Error Empty}
      (item : NestedAt mode ptr .method outer) (fits : EntryFits outer)
      (read : readRpcMethodHead (entryContent outer) = .ok (head, input))
      (count : parameters.length = head.paramCount)
      (entries : Entries parseRpcMethodParameter.runOn input parameters behind)
      (failed : optionally (hasFlag head.flags rpcMethodAttributeFlag) parseAttributes behind =
        .raise failure) :
      FailsBehind mode ptr failure
  | within {ptr outer : List UInt8} {failure : Outcome Error Empty}
      (item : NestedAt .type ptr .subItem outer) (fits : EntryFits outer)
      (inner : FailsBehind .field (entryContent outer) failure) :
      FailsBehind .type ptr failure

theorem parseRpcMethod_fails_behind {content input behind : List UInt8} {head : RpcMethodHead}
    {parameters : List RpcMethodParameter} {failure : Outcome Error Empty}
    (read : readRpcMethodHead content = .ok (head, input))
    (count : parameters.length = head.paramCount)
    (entries : Entries parseRpcMethodParameter.runOn input parameters behind)
    (failed : optionally (hasFlag head.flags rpcMethodAttributeFlag) parseAttributes behind =
      .raise failure) :
    parseRpcMethod content = .raise failure := by
  have loop : repeatN parameterEntry head.paramCount input = .ok (parameters, behind) :=
    repeatN_framed_eq_ok_iff.mpr ⟨count, entries⟩
  rw [parseRpcMethod_eq, bind_run_ok read, readRpcMethodBody, bind_run_ok loop]
  exact bind_run_eq_raise_iff.mpr (Or.inl failed)

/-- What fails behind nested records fails the whole decoder alike. -/
theorem FailsBehind.fails {mode : Mode} {ptr : List UInt8} {failure : Outcome Error Empty}
    (behind : FailsBehind mode ptr failure) : mode.Fails ptr failure := by
  induction behind with
  | subItems read count laid failed =>
      have loop := repeatN_subItemEntry_eq_ok_iff.mpr ⟨count, laid⟩
      rw [Mode.Fails, readTypeInfo_eq, bind_run_ok read, bind_run_ok loop]
      rwa [parseTypeFlags_eq] at failed
  | typeMethods read count laid methods failed =>
      have loop := repeatN_subItemEntry_eq_ok_iff.mpr ⟨count, laid⟩
      rw [Mode.Fails, readTypeInfo_eq, bind_run_ok read, bind_run_ok loop,
        bind_run_ok (readSections_eq_ok_iff.mpr methods)]
      exact failed
  | fieldMethods read methods failed =>
      rw [Mode.Fails, readField_eq, bind_run_ok read,
        bind_run_ok (readSections_eq_ok_iff.mpr methods)]
      exact bind_run_eq_raise_iff.mpr (Or.inl failed)
  | parameters item fits read count entries failed =>
      exact item.fails (framed_fails fits
        (parseRpcMethod_fails_behind read count entries failed))
  | within item fits _ ih => exact item.fails (framed_fails fits ih)

/-! ## Confinement -/

end Ads.Symbols
