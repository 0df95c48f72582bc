import Ads.Client.Exchange
import Ads.Symbol.RoundTrip
import Mathlib.Data.List.Induction

/-!
# Uploading the tables

`get_symbol_info` asks for the sizes of the tables first, and for the tables afterwards, in
requests of their own, between which the device may change them.
-/

namespace Ads.Symbols

open Ads.Bytes Ads.Client Ads.Control

/-! ## The upload -/

/-- The index group of the sizes of the tables. -/
def symUploadInfo2 : UInt32 := 0xF00F

/-- The index group of the type table. -/
def symDtUpload : UInt32 := 0xF00E

/-- The index group of the symbol table. -/
def symUpload : UInt32 := 0xF00B

section Operations

variable {S : Type} (server : Server S) (device : Device)

/-- Get and decode symbol and type information from the PLC. -/
def getSymbolInfo : Operation S (List Symbol × TypeMap) := do
  let readData ← readExact server device symUploadInfo2 0 (List.replicate 64 0)
  let symbolLen := (leU32 (readData.drop 4)).toNat
  let typesLen := (leU32 (readData.drop 12)).toNat
  let typeData ← readExact server device symDtUpload 0 (List.replicate typesLen 0)
  let symbolData ← readExact server device symUpload 0 (List.replicate symbolLen 0)
  Operation.ofOutcome (decodeSymbolInfo symbolData typeData)

end Operations

/-! ## The device -/

/-- The tables of a device, whose sizes fit their words. -/
structure Tables where
  symbols : List (Framed WireSymbol.content)
  types : List (Framed WireType.content)
  symbolsFit : (symbols.flatMap Framed.bytes).length < 2 ^ 32
  typesFit : (types.flatMap Framed.bytes).length < 2 ^ 32

namespace Tables

/-- The symbol table as it is uploaded. -/
def symbolData (tables : Tables) : List UInt8 :=
  tables.symbols.flatMap Framed.bytes

/-- The type table as it is uploaded. -/
def typeData (tables : Tables) : List UInt8 :=
  tables.types.flatMap Framed.bytes

/-- The upload info says the sizes of the tables. -/
structure AnnouncedBy (tables : Tables) (info : List UInt8) : Prop where
  size : info.length = 64
  symbols : leU32 (info.drop 4) = UInt32.ofNat tables.symbolData.length
  types : leU32 (info.drop 12) = UInt32.ofNat tables.typeData.length

/-- The type of a name: the last one in the table. -/
def typeOf (tables : Tables) (name : String) : Option TypeInfo :=
  (tables.types.reverse.find? fun typ => typ.val.decoded.name = name).map (·.val.decoded)

end Tables

/-- How a device answers the three requests of an upload: with the sizes of its tables, and
with as much as was asked for of the tables that it has when it is asked. -/
structure Upload {S : Type} (server : Server S) (start : S) where
  first : S
  second : S
  third : S
  announced : Tables
  atTypes : Tables
  atSymbols : Tables
  info : List UInt8
  announces : announced.AnnouncedBy info
  infoAnswered : server.Answers start .read (readPayload symUploadInfo2 0 64) (first, .ok info)
  typesAnswered : server.Answers first .read
    (readPayload symDtUpload 0 announced.typeData.length)
    (second, .ok (atTypes.typeData.take announced.typeData.length))
  symbolsAnswered : server.Answers second .read
    (readPayload symUpload 0 announced.symbolData.length)
    (third, .ok (atSymbols.symbolData.take announced.symbolData.length))

/-! ## Tables that have changed -/

/-- A part of a table is read in full, or the answer is too short. -/
theorem readExact_taken {S : Type} {server : Server S} {device : Device} {link : Link S}
    {state : S} {indexGroup : UInt32} {table : List UInt8} {count : Nat}
    (fits : count < 2 ^ 32)
    (answers : server.Answers link.server .read (readPayload indexGroup 0 count)
      (state, .ok (table.take count))) :
    ∃ after, after.server = state ∧
      readExact server device indexGroup 0 (List.replicate count 0) link =
        (if table.length < count then
          .err (.reply "read data" "got less data than expected" (UInt32.ofNat table.length))
        else .ok (table.take count), after) := by
  have size : (List.replicate count (0 : UInt8)).length = count := List.length_replicate
  obtain ⟨reply, handled, gives⟩ := answers
  refine ⟨link.exchanged state .read (readPayload indexGroup 0 count), rfl, ?_⟩
  have run := @readExact_run S server device link state reply indexGroup 0
    (List.replicate count 0) (by rw [size]; exact fits) (by rw [size]; exact handled)
  rw [size] at run
  rw [run]
  refine congrArg (·, _) ?_
  by_cases short : table.length < count
  · have within : (table.take count).length = table.length := by
      rw [List.length_take]
      omega
    rw [if_pos short, Reply.filledExact, gives.filled (by
      rintro bytes same
      cases same
      omega)]
    change ensureExact "read data" (table.take count).length
      (overlay (table.take count) (List.replicate count 0)) = _
    rw [ensureExact, length_overlay, size, if_pos (by omega), within]
  · have whole : (table.take count).length = count := by
      rw [List.length_take]
      omega
    rw [if_neg short, gives.filledExact (by rw [size]; exact fits) (by
      rintro bytes same
      cases same
      rw [whole, size])]
    rfl

/-- Where an upload ends: at the first table that is shorter than it was announced, or else
with what the parts of the tables decode to. -/
theorem getSymbolInfo_upload {S : Type} {server : Server S} {device : Device} {link : Link S}
    (upload : Upload server link.server) :
    (getSymbolInfo server device link).1 =
      if upload.atTypes.typeData.length < upload.announced.typeData.length then
        .err (.reply "read data" "got less data than expected"
          (UInt32.ofNat upload.atTypes.typeData.length))
      else if upload.atSymbols.symbolData.length < upload.announced.symbolData.length then
        .err (.reply "read data" "got less data than expected"
          (UInt32.ofNat upload.atSymbols.symbolData.length))
      else decodeSymbolInfo
        (upload.atSymbols.symbolData.take upload.announced.symbolData.length)
        (upload.atTypes.typeData.take upload.announced.typeData.length) := by
  have size : (List.replicate 64 (0 : UInt8)).length = 64 := List.length_replicate
  obtain ⟨afterInfo, atFirst, infoRead⟩ : ∃ after : Link S, after.server = upload.first ∧
      readExact server device symUploadInfo2 0 (List.replicate 64 0) link =
        (.ok upload.info, after) := by
    refine ⟨_, rfl, readExact_answered (by rw [size]; decide)
      (by rw [size]; exact upload.infoAnswered) ?_⟩
    rintro bytes same
    cases same
    rw [upload.announces.size, size]
  have symbolsFit : upload.announced.symbolData.length < 2 ^ 32 := upload.announced.symbolsFit
  have typesFit : upload.announced.typeData.length < 2 ^ 32 := upload.announced.typesFit
  have symbolLen : (leU32 (upload.info.drop 4)).toNat = upload.announced.symbolData.length := by
    rw [upload.announces.symbols, UInt32.toNat_ofNat_of_lt' symbolsFit]
  have typesLen : (leU32 (upload.info.drop 12)).toNat = upload.announced.typeData.length := by
    rw [upload.announces.types, UInt32.toNat_ofNat_of_lt' typesFit]
  rw [getSymbolInfo, Operation.bind_run_ok infoRead,
    symbolLen, typesLen]
  obtain ⟨afterTypes, atSecond, typesRead⟩ := @readExact_taken S server device afterInfo
    upload.second _ _ _ typesFit (atFirst ▸ upload.typesAnswered)
  by_cases typesShort : upload.atTypes.typeData.length < upload.announced.typeData.length
  · rw [if_pos typesShort] at typesRead ⊢
    rw [Operation.bind_run_err typesRead]
  rw [if_neg typesShort] at typesRead ⊢
  rw [Operation.bind_run_ok typesRead]
  obtain ⟨afterSymbols, -, symbolsRead⟩ := @readExact_taken S server device afterTypes
    upload.third _ _ _ symbolsFit (atSecond ▸ upload.symbolsAnswered)
  by_cases symbolsShort : upload.atSymbols.symbolData.length < upload.announced.symbolData.length
  · rw [if_pos symbolsShort] at symbolsRead ⊢
    rw [Operation.bind_run_err symbolsRead]
  rw [if_neg symbolsShort] at symbolsRead ⊢
  rw [Operation.bind_run_ok symbolsRead, Operation.ofOutcome_run]

/-! ## Tables that have grown -/

/-- In the map of a table, the last type of a name is found. -/
theorem getElem?_insertAll (types : List (Framed WireType.content)) (name : String) :
    (insertAll ∅ types)[name]? =
      (types.reverse.find? fun typ => typ.val.decoded.name = name).map (·.val.decoded) := by
  induction types using List.reverseRecOn with
  | nil => exact Std.HashMap.getElem?_empty
  | append_singleton types typ ih =>
      rw [insertAll, List.foldl_append, List.foldl_cons, List.foldl_nil, List.reverse_append,
        List.reverse_singleton, List.singleton_append, List.find?_cons,
        Std.HashMap.getElem?_insert]
      by_cases same : typ.val.decoded.name = name
      · rw [if_pos (beq_iff_eq.mpr same), decide_eq_true same]
        rfl
      · rw [if_neg (fun equal => same (beq_iff_eq.mp equal)), decide_eq_false same]
        exact ih

/-- The front of a table that has grown is the table before. -/
theorem take_flatMap_of_isPrefix {α : Type} {encode : α → List UInt8} {before after : List α}
    (grown : before <+: after) :
    (after.flatMap encode).take (before.flatMap encode).length = before.flatMap encode ∧
      ¬(after.flatMap encode).length < (before.flatMap encode).length := by
  obtain ⟨added, rfl⟩ := grown
  rw [List.flatMap_append, List.take_left, List.length_append]
  exact ⟨rfl, by omega⟩

/-- What is uploaded is the tables as they were announced, however they have grown since,
entry by entry at their ends; of a table that has become shorter, the caller is told. -/
theorem getSymbolInfo_snapshot {S : Type} {server : Server S} {device : Device} {link : Link S}
    (upload : Upload server link.server) :
    (upload.announced.types <+: upload.atTypes.types →
      upload.announced.symbols <+: upload.atSymbols.symbols →
        ∃ typeMap, (getSymbolInfo server device link).1 =
            .ok (upload.announced.symbols.map (·.val.decoded), typeMap) ∧
          ∀ name : String, typeMap[name]? = upload.announced.typeOf name) ∧
    (upload.atTypes.typeData.length < upload.announced.typeData.length ∨
        upload.atSymbols.symbolData.length < upload.announced.symbolData.length →
      ∃ count, (getSymbolInfo server device link).1 =
        .err (.reply "read data" "got less data than expected" count)) := by
  rw [getSymbolInfo_upload]
  constructor
  · intro types symbols
    obtain ⟨typesTaken, typesLong⟩ := @take_flatMap_of_isPrefix _ Framed.bytes _ _ types
    obtain ⟨symbolsTaken, symbolsLong⟩ := @take_flatMap_of_isPrefix _ Framed.bytes _ _ symbols
    refine ⟨insertAll ∅ upload.announced.types, ?_, getElem?_insertAll _⟩
    rw [Tables.typeData, Tables.typeData, Tables.symbolData, Tables.symbolData,
      if_neg typesLong, if_neg symbolsLong, typesTaken, symbolsTaken, decodeSymbolInfo,
      decodeTypes_flatMap (Nat.le_refl _), Outcome.ok_bind,
      decodeSymbols_flatMap (Nat.le_refl _), Outcome.ok_bind]
    rfl
  · intro shorter
    by_cases typesShort : upload.atTypes.typeData.length < upload.announced.typeData.length
    · rw [if_pos typesShort]
      exact ⟨_, rfl⟩
    · rw [if_neg typesShort, if_pos (shorter.resolve_left typesShort)]
      exact ⟨_, rfl⟩

theorem everySection_fits : (WireType.content everySection).length + 4 < 2 ^ 32 := by
  decide +kernel

/-- The tables of one symbol and its type. -/
def modeTables : Tables where
  symbols := [⟨{ ixGroup := 0x4020, ixOffset := 4, size := 2, baseType := 2, flags := 8,
                 legacyArrayDim := 0, name := ⟨"MAIN.state", by decide⟩,
                 typ := everySection.record.name, comment := everySection.record.comment,
                 sections := [] }, by decide +kernel⟩]
  types := [⟨everySection, everySection_fits⟩]
  symbolsFit := by decide +kernel
  typesFit := by decide +kernel

/-- A type of the same fields with another name. -/
def otherType : Framed WireType.content :=
  ⟨⟨plainField 8 0 65 ⟨"ST_State", by decide⟩ everySection.record.comment, everySection.fields⟩,
    by decide +kernel⟩

/-- The same tables with another type. -/
def grownTables : Tables where
  symbols := modeTables.symbols
  types := modeTables.types ++ [otherType]
  symbolsFit := modeTables.symbolsFit
  typesFit := by decide +kernel

/-- The sizes of the first tables. -/
def modeInfo : List UInt8 :=
  u32Bytes 1 ++ u32Bytes (UInt32.ofNat modeTables.symbolData.length) ++ u32Bytes 1 ++
    u32Bytes (UInt32.ofNat modeTables.typeData.length) ++ List.replicate 48 0

/-- What a device answers that adds a type as soon as it has said how large its tables are. -/
def growingAnswer (payload : List UInt8) : List UInt8 :=
  let count := (leU32 (payload.drop 8)).toNat
  if leU32 payload = symUploadInfo2 then modeInfo
  else if leU32 payload = symDtUpload then grownTables.typeData.take count
  else grownTables.symbolData.take count

/-- The device. -/
def growingServer : Server Unit where
  handle _ _ payload := ((), .returning (growingAnswer payload))

theorem growingServer_answers {payload bytes : List UInt8}
    (answer : growingAnswer payload = bytes) :
    growingServer.Answers () .read payload ((), .ok bytes) :=
  ⟨_, rfl, congrArg Reply.returning answer⟩

/-- The upload while the tables grow. -/
def growingUpload : Upload growingServer () where
  first := ()
  second := ()
  third := ()
  announced := modeTables
  atTypes := grownTables
  atSymbols := grownTables
  info := modeInfo
  announces := ⟨by decide +kernel, by decide +kernel, by decide +kernel⟩
  infoAnswered := growingServer_answers (by decide +kernel)
  typesAnswered := growingServer_answers (by decide +kernel)
  symbolsAnswered := growingServer_answers (by decide +kernel)

theorem growingUpload_snapshot :
    ∃ typeMap, (getSymbolInfo growingServer ⟨⟨.localId, 1⟩, ⟨.localId, 851⟩⟩ ⟨1, (), []⟩).1 =
        .ok ([⟨"MAIN.state", 0x4020, 4, "ST_Mode", 2, 2, 8⟩], typeMap) ∧
      typeMap["ST_Mode"]? = some everySection.decoded ∧ typeMap["ST_State"]? = none := by
  obtain ⟨typeMap, ran, types⟩ := (@getSymbolInfo_snapshot Unit growingServer
    ⟨⟨.localId, 1⟩, ⟨.localId, 851⟩⟩ ⟨1, (), []⟩ growingUpload).1 (List.prefix_append _ _)
    (List.prefix_refl _)
  exact ⟨typeMap, ran, types _, types _⟩

end Ads.Symbols
