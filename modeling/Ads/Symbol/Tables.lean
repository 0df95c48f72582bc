import Mathlib.Data.List.Induction
import Ads.Symbol.Nested

/-!
# The symbol table and the type table

Both tables are rows of entries up to the end of the data, each with its length in
front.  A table that decodes is exactly such a row, so that tables can be appended; and
the loop fails exactly as an entry does that it gets to.
-/

namespace Ads.Symbols

open Ads.Bytes Ads.Bytes.Reader Ads.Control

/-! ## The two loops -/

/-- A type map with one more type, under its name. -/
def TypeMap.add (typeMap : TypeMap) (typ : TypeInfo) : TypeMap :=
  typeMap.insert typ.name typ

theorem decodeTypeInfo_none (ptr : List UInt8) :
    decodeTypeInfo ptr none = readTypeInfo.runOn ptr >>= fun typ => pure (some typ, none) :=
  rfl

theorem decodeTypes_eq (rounds : Nat) (typeData : List UInt8) (typeMap : TypeMap) :
    decodeTypes rounds typeData typeMap =
      foldRecords (.eof "decoding type info") readTypeInfo.runOn TypeMap.add rounds typeData
        typeMap := by
  induction rounds generalizing typeData typeMap with
  | zero => rfl
  | succ rounds ih =>
      cases typeData with
      | nil => rfl
      | cons byte bytes =>
          change (splitRecord _ (byte :: bytes) >>= _) = (splitRecord _ (byte :: bytes) >>= _)
          apply bind_congr
          rintro ⟨content, rest⟩
          change (decodeTypeInfo content none >>= _) = _
          rw [decodeTypeInfo_none, bind_assoc]
          apply bind_congr
          intro typ
          exact ih rest (typeMap.add typ)

theorem decodeSymbols_eq (rounds : Nat) (symbolData : List UInt8) (symbols : List Symbol) :
    decodeSymbols rounds symbolData symbols =
      foldRecords (.eof "decoding symbol info") readSymbol.runOn
        (fun symbols symbol => symbols ++ [symbol]) rounds symbolData symbols := by
  induction rounds generalizing symbolData symbols with
  | zero => rfl
  | succ rounds ih =>
      cases symbolData with
      | nil => rfl
      | cons byte bytes =>
          change (splitRecord _ (byte :: bytes) >>= _) = (splitRecord _ (byte :: bytes) >>= _)
          apply bind_congr
          rintro ⟨content, rest⟩
          apply bind_congr
          intro symbol
          exact ih rest (symbols ++ [symbol])

/-- The types of a table, the later one under a repeated name. -/
def TypeMap.ofTypes (types : List TypeInfo) : TypeMap :=
  types.foldl TypeMap.add ∅

theorem foldl_append_singleton {α : Type} (front items : List α) :
    items.foldl (fun front item => front ++ [item]) front = front ++ items := by
  induction items generalizing front with
  | nil => simp
  | cons item items ih => simp [ih]

theorem decodeTypes_eq_ok_iff {typeData : List UInt8} {typeMap : TypeMap} :
    decodeTypes typeData.length typeData ∅ = .ok typeMap ↔
      ∃ types, Entries readTypeInfo.runOn typeData types [] ∧ typeMap = TypeMap.ofTypes types := by
  rw [decodeTypes_eq]
  exact foldRecords_eq_ok_iff (Nat.le_refl _)

theorem decodeSymbols_eq_ok_iff {symbolData : List UInt8} {symbols : List Symbol} :
    decodeSymbols symbolData.length symbolData [] = .ok symbols ↔
      Entries readSymbol.runOn symbolData symbols [] := by
  rw [decodeSymbols_eq, foldRecords_eq_ok_iff (Nat.le_refl _)]
  simp only [foldl_append_singleton, List.nil_append]
  constructor
  · rintro ⟨items, entries, rfl⟩
    exact entries
  · intro entries
    exact ⟨symbols, entries, rfl⟩

/-- Both tables decode exactly if each is a row of entries that all decode. -/
theorem decodeSymbolInfo_eq_ok_iff {symbolData typeData : List UInt8} {symbols : List Symbol}
    {typeMap : TypeMap} :
    decodeSymbolInfo symbolData typeData = .ok (symbols, typeMap) ↔
      Entries readSymbol.runOn symbolData symbols [] ∧
        ∃ types, Entries readTypeInfo.runOn typeData types [] ∧
          typeMap = TypeMap.ofTypes types := by
  rw [decodeSymbolInfo, Outcome.bind_eq_ok_iff, ← decodeTypes_eq_ok_iff, ← decodeSymbols_eq_ok_iff]
  constructor
  · rintro ⟨decoded, types, rest⟩
    obtain ⟨items, ran, done⟩ := Outcome.bind_eq_ok_iff.mp rest
    cases done
    exact ⟨ran, types⟩
  · rintro ⟨ran, types⟩
    exact ⟨typeMap, types, Outcome.bind_eq_ok_iff.mpr ⟨symbols, ran, rfl⟩⟩

/-! ## Appending tables -/

theorem getElem?_foldl_add (types : List TypeInfo) (typeMap : TypeMap) (name : String) :
    (types.foldl TypeMap.add typeMap)[name]? =
      ((TypeMap.ofTypes types)[name]?).or typeMap[name]? := by
  induction types using List.reverseRecOn with
  | nil => simp [TypeMap.ofTypes]
  | append_singleton types typ ih =>
      rw [TypeMap.ofTypes, List.foldl_append, List.foldl_append]
      simp only [List.foldl_cons, List.foldl_nil, TypeMap.add, Std.HashMap.getElem?_insert]
      split
      · rfl
      · exact ih

/-- Tables that decode decode behind each other as well: the symbols of one after those of
the other, and the types of the second in place of those of the first with their names. -/
theorem decodeSymbolInfo_append {symbolData symbolData' typeData typeData' : List UInt8}
    {symbols symbols' : List Symbol} {typeMap typeMap' : TypeMap}
    (first : decodeSymbolInfo symbolData typeData = .ok (symbols, typeMap))
    (second : decodeSymbolInfo symbolData' typeData' = .ok (symbols', typeMap')) :
    ∃ merged : TypeMap,
      decodeSymbolInfo (symbolData ++ symbolData') (typeData ++ typeData') =
          .ok (symbols ++ symbols', merged) ∧
        ∀ name : String, merged[name]? = (typeMap'[name]?).or typeMap[name]? := by
  obtain ⟨symbolEntries, types, typeEntries, rfl⟩ := decodeSymbolInfo_eq_ok_iff.mp first
  obtain ⟨symbolEntries', types', typeEntries', rfl⟩ := decodeSymbolInfo_eq_ok_iff.mp second
  refine ⟨TypeMap.ofTypes (types ++ types'), ?_, ?_⟩
  · apply decodeSymbolInfo_eq_ok_iff.mpr
    constructor
    · exact (symbolEntries.append_tail symbolData').trans symbolEntries'
    · exact ⟨types ++ types', (typeEntries.append_tail typeData').trans typeEntries', rfl⟩
  · intro name
    rw [TypeMap.ofTypes, List.foldl_append]
    exact getElem?_foldl_add types' (TypeMap.ofTypes types) name

/-- Two tables of one symbol each, the first with a byte to skip, over two types of the same
name and different sizes. -/
theorem decodeSymbolInfo_append_sample :
    let symbol := fun group : UInt8 =>
      [group, 0, 0, 0] ++ List.replicate 16 0 ++ [1, 0, 0, 0, 0, 0, 65, 0, 0]
    let typ := fun size : UInt8 =>
      [1, 0, 0, 0] ++ List.replicate 8 0 ++ [size] ++ List.replicate 15 0 ++ [1] ++
        List.replicate 9 0 ++ [84, 0, 0, 0]
    ∃ merged : TypeMap,
      decodeSymbolInfo (frame (symbol 1 ++ [9]) ++ frame (symbol 2))
          (frame (typ 4) ++ frame (typ 8)) =
          .ok ([⟨"A", 1, 0, "", 0, 0, 0⟩, ⟨"A", 2, 0, "", 0, 0, 0⟩], merged) ∧
        (merged["T"]?).map TypeInfo.size = some 8 := by
  intro symbol typ
  have entry : ∀ {α : Type} {decode : List UInt8 → Outcome Error α} {content : List UInt8}
      {value : α}, content.length + 4 < 2 ^ 32 → decode content = .ok value →
        Entries decode (frame content) [value] [] := by
    intro α decode content value short decodes
    have entries := Entries.frame_cons short decodes (Entries.nil [])
    rwa [List.append_nil] at entries
  have first : decodeSymbolInfo (frame (symbol 1 ++ [9])) (frame (typ 4)) =
      .ok ([⟨"A", 1, 0, "", 0, 0, 0⟩],
        TypeMap.ofTypes [⟨"T", "", "", 4, [], [], 0, 0, none, none, none, none⟩]) :=
    decodeSymbolInfo_eq_ok_iff.mpr ⟨entry (by decide) (by decide +kernel), _,
      entry (by decide) (by decide +kernel), rfl⟩
  have second : decodeSymbolInfo (frame (symbol 2)) (frame (typ 8)) =
      .ok ([⟨"A", 2, 0, "", 0, 0, 0⟩],
        TypeMap.ofTypes [⟨"T", "", "", 8, [], [], 0, 0, none, none, none, none⟩]) :=
    decodeSymbolInfo_eq_ok_iff.mpr ⟨entry (by decide) (by decide +kernel), _,
      entry (by decide) (by decide +kernel), rfl⟩
  obtain ⟨merged, decoded, overrides⟩ := decodeSymbolInfo_append first second
  refine ⟨merged, decoded, ?_⟩
  rw [overrides "T"]
  simp [TypeMap.ofTypes, TypeMap.add]

/-! ## Totality -/

/-- The type table gets to an entry whose length is bad, or whose record has a fault. -/
def TypesFault (typeData : List UInt8) : Prop :=
  ∃ types place, Entries readTypeInfo.runOn typeData types place ∧
    (Undercounts place ∨ Overruns place ∨
      EntryFits place ∧
        (ValueFault .type (entryContent place) ∨ NestedOverrun .type (entryContent place)))

/-- The symbol table gets to an entry whose length is bad. -/
def SymbolsFault (symbolData : List UInt8) : Prop :=
  ∃ symbols place, Entries readSymbol.runOn symbolData symbols place ∧
    (Undercounts place ∨ Overruns place)

/-- The type table decodes as a whole. -/
def TypesDecode (typeData : List UInt8) : Prop :=
  ∃ types, Entries readTypeInfo.runOn typeData types []

theorem neverPanics_readSymbol : NeverPanics readSymbol :=
  (neverPanics_u32 _).bind fun _ => (neverPanics_u32 _).bind fun _ =>
    (neverPanics_u32 _).bind fun _ => (neverPanics_u32 _).bind fun _ =>
      (neverPanics_u16 _).bind fun _ => (neverPanics_u16 _).bind fun _ =>
        (neverPanics_u16 _).bind fun _ => (neverPanics_u16 _).bind fun _ =>
          (neverPanics_u16 _).bind fun _ => (neverPanics_readStr _).bind fun _ =>
            (neverPanics_readStr _).bind fun _ => NeverPanics.pure _

theorem decodeTypes_eq_raise_iff {typeData : List UInt8} {failure : Outcome Error Empty} :
    decodeTypes typeData.length typeData ∅ = .raise failure ↔
      ∃ types place, Entries readTypeInfo.runOn typeData types place ∧ place ≠ [] ∧
        recordStep (.eof "decoding type info") readTypeInfo.runOn place = .raise failure := by
  rw [decodeTypes_eq]
  exact foldRecords_eq_raise_iff (Nat.le_refl _)

theorem decodeSymbols_eq_raise_iff {symbolData : List UInt8} {failure : Outcome Error Empty} :
    decodeSymbols symbolData.length symbolData [] = .raise failure ↔
      ∃ symbols place, Entries readSymbol.runOn symbolData symbols place ∧ place ≠ [] ∧
        recordStep (.eof "decoding symbol info") readSymbol.runOn place = .raise failure := by
  rw [decodeSymbols_eq]
  exact foldRecords_eq_raise_iff (Nat.le_refl _)

/-- Decoding the tables fails as the type table does, or as the symbol table behind a type
table that decodes. -/
theorem decodeSymbolInfo_eq_raise_iff {symbolData typeData : List UInt8}
    {failure : Outcome Error Empty} :
    decodeSymbolInfo symbolData typeData = .raise failure ↔
      decodeTypes typeData.length typeData ∅ = .raise failure ∨
        TypesDecode typeData ∧ decodeSymbols symbolData.length symbolData [] = .raise failure := by
  rw [decodeSymbolInfo, Outcome.bind_eq_raise_iff]
  apply or_congr_right
  constructor
  · rintro ⟨typeMap, decoded, rest⟩
    obtain ⟨types, entries, -⟩ := decodeTypes_eq_ok_iff.mp decoded
    rcases Outcome.bind_eq_raise_iff.mp rest with failed | ⟨symbols, -, done⟩
    · exact ⟨⟨types, entries⟩, failed⟩
    · exact absurd done (Outcome.ok_ne_raise _ failure)
  · rintro ⟨⟨types, entries⟩, failed⟩
    exact ⟨_, decodeTypes_eq_ok_iff.mpr ⟨types, entries, rfl⟩,
      Outcome.bind_eq_raise_iff.mpr (Or.inl failed)⟩

theorem decodeTypes_eq_panic_iff {typeData : List UInt8} :
    decodeTypes typeData.length typeData ∅ = .panic ↔ TypesFault typeData := by
  have step : ∀ place, recordStep (.eof "decoding type info") readTypeInfo.runOn place = .panic ↔
      Undercounts place ∨ Overruns place ∨ EntryFits place ∧
        (ValueFault .type (entryContent place) ∨ NestedOverrun .type (entryContent place)) := by
    intro place
    rw [recordStep_eq_panic_iff, runOn_eq_panic_iff, ← Mode.fails_panic_iff]
    rfl
  have reached := @decodeTypes_eq_raise_iff typeData .panic
  constructor
  · intro panicked
    obtain ⟨types, place, entries, -, failed⟩ := reached.mp panicked
    exact ⟨types, place, entries, (step place).mp failed⟩
  · rintro ⟨types, place, entries, fault⟩
    refine reached.mpr ⟨types, place, entries, ?_, (step place).mpr fault⟩
    rcases fault with undercounts | overruns | ⟨fits, -⟩
    · exact ne_nil_of_word undercounts.1
    · exact ne_nil_of_word overruns.1
    · exact ne_nil_of_word fits.word

theorem decodeSymbols_eq_panic_iff {symbolData : List UInt8} :
    decodeSymbols symbolData.length symbolData [] = .panic ↔ SymbolsFault symbolData := by
  have step : ∀ place, recordStep (.eof "decoding symbol info") readSymbol.runOn place = .panic ↔
      Undercounts place ∨ Overruns place := by
    intro place
    rw [recordStep_eq_panic_iff, runOn_eq_panic_iff]
    have safe := neverPanics_readSymbol (entryContent place)
    tauto
  have reached := @decodeSymbols_eq_raise_iff symbolData .panic
  constructor
  · intro panicked
    obtain ⟨symbols, place, entries, -, failed⟩ := reached.mp panicked
    exact ⟨symbols, place, entries, (step place).mp failed⟩
  · rintro ⟨symbols, place, entries, fault⟩
    refine reached.mpr ⟨symbols, place, entries, ?_, (step place).mpr fault⟩
    rcases fault with undercounts | overruns
    · exact ne_nil_of_word undercounts.1
    · exact ne_nil_of_word overruns.1

theorem decodeSymbolInfo_eq_panic_iff {symbolData typeData : List UInt8} :
    decodeSymbolInfo symbolData typeData = .panic ↔
      TypesFault typeData ∨ TypesDecode typeData ∧ SymbolsFault symbolData := by
  rw [← decodeTypes_eq_panic_iff, ← decodeSymbols_eq_panic_iff]
  exact @decodeSymbolInfo_eq_raise_iff symbolData typeData .panic

/-- Decoding the tables comes to an end without a panic.  The loops end by themselves, more
rounds change nothing; an entry whose length does not fit is an error; and what decodes
was read entry by entry, each from exactly its own bytes. -/
structure TotalOn (symbolData typeData : List UInt8) : Prop where
  returns : decodeSymbolInfo symbolData typeData ≠ .panic
  typesEnd : ∀ more, decodeTypes (typeData.length + more) typeData ∅ =
    decodeTypes typeData.length typeData ∅
  symbolsEnd : ∀ more, decodeSymbols (symbolData.length + more) symbolData [] =
    decodeSymbols symbolData.length symbolData []
  typeLengths : ∀ types place, Entries readTypeInfo.runOn typeData types place → place ≠ [] →
    ¬EntryFits place → ∃ error, decodeSymbolInfo symbolData typeData = .err error
  symbolLengths : TypesDecode typeData →
    ∀ symbols place, Entries readSymbol.runOn symbolData symbols place → place ≠ [] →
      ¬EntryFits place → ∃ error, decodeSymbolInfo symbolData typeData = .err error
  entries : ∀ symbols typeMap, decodeSymbolInfo symbolData typeData = .ok (symbols, typeMap) →
    Entries readSymbol.runOn symbolData symbols [] ∧
      ∃ types, Entries readTypeInfo.runOn typeData types [] ∧ typeMap = TypeMap.ofTypes types

/-- An entry whose length neither fits nor is bad has no length at all. -/
theorem recordStep_of_misfit {α : Type} {eof : Error} {decode : List UInt8 → Outcome Error α}
    {place : List UInt8} (misfit : ¬EntryFits place) (counted : ¬Undercounts place)
    (inside : ¬Overruns place) : recordStep eof decode place = .err eof := by
  rcases entry_cases place with short | undercounts | overruns | fits
  · rw [recordStep, splitRecord_run_short short]
    rfl
  · exact absurd undercounts counted
  · exact absurd overruns inside
  · exact absurd fits misfit

/-- Decoding the tables is total exactly where neither gets to an entry that declares less
than its length takes or more than there is, or whose record has a fault. -/
theorem decodeSymbolInfo_total_iff (symbolData typeData : List UInt8) :
    TotalOn symbolData typeData ↔
      ¬TypesFault typeData ∧ (TypesDecode typeData → ¬SymbolsFault symbolData) := by
  constructor
  · intro total
    have returns := total.returns
    rw [Ne, decodeSymbolInfo_eq_panic_iff, not_or, not_and] at returns
    exact returns
  · rintro ⟨typesFine, symbolsFine⟩
    constructor
    · rw [Ne, decodeSymbolInfo_eq_panic_iff, not_or, not_and]
      exact ⟨typesFine, symbolsFine⟩
    · intro more
      rw [decodeTypes_eq, decodeTypes_eq, foldRecords_add]
    · intro more
      rw [decodeSymbols_eq, decodeSymbols_eq, foldRecords_add]
    · intro types place entries more misfit
      have failed : recordStep (.eof "decoding type info") readTypeInfo.runOn place =
          .raise (.err (.eof "decoding type info")) :=
        recordStep_of_misfit misfit
          (fun undercounts => typesFine ⟨types, place, entries, Or.inl undercounts⟩)
          (fun overruns => typesFine ⟨types, place, entries, Or.inr (Or.inl overruns)⟩)
      have ended := decodeTypes_eq_raise_iff.mpr ⟨types, place, entries, more, failed⟩
      exact ⟨_, decodeSymbolInfo_eq_raise_iff.mpr (Or.inl ended)⟩
    · intro decoded symbols place entries more misfit
      have fine := symbolsFine decoded
      have failed : recordStep (.eof "decoding symbol info") readSymbol.runOn place =
          .raise (.err (.eof "decoding symbol info")) :=
        recordStep_of_misfit misfit
          (fun undercounts => fine ⟨symbols, place, entries, Or.inl undercounts⟩)
          (fun overruns => fine ⟨symbols, place, entries, Or.inr overruns⟩)
      have ended := decodeSymbols_eq_raise_iff.mpr ⟨symbols, place, entries, more, failed⟩
      exact ⟨_, decodeSymbolInfo_eq_raise_iff.mpr (Or.inr ⟨decoded, ended⟩)⟩
    · intro symbols typeMap decoded
      exact decodeSymbolInfo_eq_ok_iff.mp decoded

/-- A length of three underflows, a length of five over four bytes splits past the end. -/
theorem decodeSymbolInfo_not_total :
    decodeSymbolInfo [3, 0, 0, 0] [] = .panic ∧ decodeSymbolInfo [5, 0, 0, 0] [] = .panic ∧
      decodeSymbolInfo [] [3, 0, 0, 0] = .panic ∧ decodeSymbolInfo [] [5, 0, 0, 0] = .panic :=
  ⟨rfl, rfl, rfl, rfl⟩

end Ads.Symbols
