import Ads.Bytes.Cursor
import Ads.Bytes.Record
import Ads.Client.Duration
import Ads.NetId
import Ads.Symbol.Types
import Ads.Text.Utf8

/-!
# Task telemetry

The task-info symbol is an array of task entries.  A layout is what is left of an
entry type whose fields were checked, a reader is a layout whose array bounds were
checked against the size of the symbol.  The decoder relies on both and does not
look at the metadata again.
-/

namespace Ads.TaskInfo

open Ads.Bytes Ads.Bytes.Reader Ads.Client Ads.Control Ads.Symbols Ads.Text

/-- The size of the documented fields. -/
def taskPrefixSize : Nat := 32

/-- The size of a task name. -/
def taskNameSize : Nat := 64

/-- The nanoseconds of one tick. -/
def tickNanos : UInt64 := 100

/-- The largest symbol that is read. -/
def maxTaskInfoSize : Nat := 16 * 1024 * 1024

/-- A resolved ADS memory range. -/
structure TaskInfoLocation where
  indexGroup : UInt32
  indexOffset : UInt32
  size : Nat
  deriving DecidableEq

/-! ## Checked arithmetic -/

/-- A sum of addresses, if it fits the address width. -/
def checkedAddUsize (first second : Nat) : Option Nat :=
  if first + second < 2 ^ 64 then some (first + second) else none

/-- A product of sizes, if it fits the address width. -/
def checkedMulUsize (first second : Nat) : Option Nat :=
  if first * second < 2 ^ 64 then some (first * second) else none

/-- The signed 32-bit number of this value, if there is one. -/
def checkedI32 (value : Int) : Option Int32 :=
  if -2 ^ 31 ≤ value ∧ value < 2 ^ 31 then some (Int32.ofInt value) else none

/-- A sum of signed 32-bit numbers, if it is one. -/
def checkedAdd (first second : Int32) : Option Int32 :=
  checkedI32 (first.toInt + second.toInt)

/-- A difference of signed 32-bit numbers, if it is one. -/
def checkedSub (first second : Int32) : Option Int32 :=
  checkedI32 (first.toInt - second.toInt)

theorem eq_of_checkedMulUsize {first second product : Nat}
    (fits : checkedMulUsize first second = some product) : first * second = product := by
  unfold checkedMulUsize at fits
  split at fits
  · exact Option.some.inj fits
  · contradiction

theorem checkedI32_eq_some_iff {value : Int} {result : Int32} :
    checkedI32 value = some result ↔ result.toInt = value := by
  constructor
  · intro fits
    unfold checkedI32 at fits
    split at fits
    · rename_i bounds
      cases fits
      exact Int32.toInt_ofInt_of_le bounds.1 bounds.2
    · contradiction
  · rintro rfl
    rw [checkedI32, if_pos ⟨result.le_toInt, result.toInt_lt⟩, Int32.ofInt_toInt]

/-! ## The layout of an entry -/

/-- The documented fields: name, offset, size and base type. -/
def required : List (String × UInt32 × Nat × UInt32) := [
    ("ObjId", 0, 4, 19),
    ("CycleTime", 4, 4, 19),
    ("Priority", 8, 2, 18),
    ("AdsPort", 10, 2, 18),
    ("CycleCount", 12, 4, 19),
    ("DcTaskTime", 16, 8, 20),
    ("LastExecTime", 24, 4, 19),
    ("FirstCycle", 28, 1, 33),
    ("CycleTimeExceeded", 29, 1, 33),
    ("InCallAfterOutputUpdate", 30, 1, 33),
    ("RTViolation", 31, 1, 33)]

/-- The first field of a type with this name. -/
def findField (entry : TypeInfo) (name : String) : Option Field :=
  entry.fields.find? fun field => field.name == name

/-- Check that a documented field is where the documentation says. -/
def checkRequired (entry : TypeInfo) : String × UInt32 × Nat × UInt32 → Outcome Error Unit
  | (name, offset, size, baseType) =>
      match findField entry name with
      | none => .err (.taskInfoLayout "a required task field is missing")
      | some field =>
          if field.offset ≠ some offset ∨ field.size ≠ size ∨ field.baseType ≠ baseType ∨
              field.array ≠ [] then
            .err (.taskInfoLayout
              "a required task field has an unsupported type, size, or offset")
          else .ok ()

/-- Whether a name field lies behind the documented ones and within an entry of this
size. -/
def nameFits (entrySize : Nat) (offset : UInt32) : Bool :=
  taskPrefixSize ≤ offset.toNat && match checkedAddUsize offset.toNat taskNameSize with
    | some stop => decide (stop ≤ entrySize)
    | none => false

/-- Whether a field is a supported task name. -/
def nameSupported (entrySize : Nat) (field : Field) : Bool :=
  (match field.offset with
    | some offset => nameFits entrySize offset
    | none => false) &&
    field.size == taskNameSize && field.baseType == 30 && field.array.isEmpty

/-- The validated layout of one entry of the task-info array: it holds the documented
fields, and the name if there is one. -/
structure TaskInfoLayout where
  entrySize : Nat
  taskNameOffset : Option Nat
  prefixFits : taskPrefixSize ≤ entrySize
  nameFits : ∀ offset ∈ taskNameOffset, offset + taskNameSize ≤ entrySize
  deriving DecidableEq

theorem add_le_of_nameFits {entrySize : Nat} {offset : UInt32} (fits : nameFits entrySize offset) :
    offset.toNat + taskNameSize ≤ entrySize := by
  unfold nameFits checkedAddUsize at fits
  split at fits
  · rename_i stop sum
    split at sum
    · cases sum
      simpa using (Bool.and_eq_true_iff.mp fits).2
    · contradiction
  · simp at fits

theorem nameFits_of_nameSupported {entrySize : Nat} {field : Field}
    (supported : nameSupported entrySize field) {offset : UInt32}
    (found : field.offset = some offset) : offset.toNat + taskNameSize ≤ entrySize := by
  simp only [nameSupported, found, Bool.and_eq_true] at supported
  exact add_le_of_nameFits supported.1.1.1

/-- Validate and create a layout from the array's element type. -/
def TaskInfoLayout.fromEntryType (entry : TypeInfo) : Outcome Error TaskInfoLayout :=
  if short : entry.size < taskPrefixSize then
    .err (.taskInfoLayout "task entry is shorter than documented prefix")
  else do
    required.forM (checkRequired entry)
    match findField entry "TaskName" with
    | some field =>
        if supported : nameSupported entry.size field then
          .ok { entrySize := entry.size
                taskNameOffset := field.offset.map UInt32.toNat
                prefixFits := Nat.le_of_not_lt short
                nameFits := by
                  intro offset found
                  obtain ⟨word, isOffset, rfl⟩ := Option.map_eq_some_iff.mp found
                  exact nameFits_of_nameSupported supported isOffset }
        else .err (.taskInfoLayout "TaskName has an unsupported type, size, or offset")
    | none =>
        .ok { entrySize := entry.size
              taskNameOffset := none
              prefixFits := Nat.le_of_not_lt short
              nameFits := by simp }

/-! ## The reader -/

/-- The number of elements between array bounds. -/
def arrayCount (first last : Int32) : Option Int32 :=
  ((checkedSub last first).filter fun count => decide (0 ≤ count.toInt)).bind fun n =>
    checkedAdd n 1

theorem arrayCount_eq_some_iff {first last count : Int32} :
    arrayCount first last = some count ↔
      first.toInt ≤ last.toInt ∧ count.toInt = last.toInt - first.toInt + 1 := by
  have one : (1 : Int32).toInt = 1 := by decide
  simp only [arrayCount, Option.bind_eq_some_iff, Option.filter_eq_some_iff, checkedSub,
    checkedAdd, checkedI32_eq_some_iff, decide_eq_true_eq, one]
  constructor
  · rintro ⟨n, ⟨difference, nonneg⟩, sum⟩
    omega
  · rintro ⟨ordered, sum⟩
    have low := count.le_toInt
    have high := count.toInt_lt
    have difference : (Int32.ofInt (count.toInt - 1)).toInt = count.toInt - 1 :=
      Int32.toInt_ofInt_of_le (by omega) (by omega)
    refine ⟨Int32.ofInt (count.toInt - 1), ⟨?_, ?_⟩, ?_⟩ <;> rw [difference] <;> omega

/-- Cached, validated metadata used to read task telemetry: the symbol is a whole number of
entries, whose indices are signed 32-bit numbers. -/
structure TaskInfoReader where
  target : AmsAddr
  symbolGeneration : UInt64
  taskInfo : TaskInfoLocation
  appInfo : Option TaskInfoLocation
  layout : TaskInfoLayout
  firstIndex : Int32
  whole : ∃ entries : Nat, taskInfo.size = entries * layout.entrySize ∧
    entries < 2 ^ 31 ∧ firstIndex.toInt + entries ≤ 2 ^ 31

/-- Create a reader for one target and symbol-metadata generation. -/
def TaskInfoReader.new (target : AmsAddr) (symbolGeneration : UInt64)
    (taskInfo : TaskInfoLocation) (arrayBounds : Int32 × Int32) (layout : TaskInfoLayout) :
    Outcome Error TaskInfoReader :=
  match counted : arrayCount arrayBounds.1 arrayBounds.2 with
  | none => .err (.taskInfoLayout "task array bounds are invalid")
  | some number =>
      let count := number.toInt.toNat
      if disagree : taskInfo.size = 0 ∨ maxTaskInfoSize < taskInfo.size ∨
          checkedMulUsize count layout.entrySize ≠ some taskInfo.size then
        .err (.taskInfoLayout "task array bounds and symbol size disagree")
      else
        .ok { target, symbolGeneration, taskInfo
              appInfo := none
              layout
              firstIndex := arrayBounds.1
              whole := by
                have product := not_not.mp (not_or.mp (not_or.mp disagree).2).2
                have bounds := arrayCount_eq_some_iff.mp counted
                have high := arrayBounds.2.toInt_lt
                have fits := number.toInt_lt
                refine ⟨count, (eq_of_checkedMulUsize product).symm, ?_, ?_⟩ <;> omega }

/-! ## Decoding -/

/-- A configured task, as reported by the task-info symbol. -/
structure PlcTaskSystemInfo where
  index : Int32
  objectId : UInt32
  adsPort : UInt16
  priority : UInt16
  cycleTime : Duration
  lastExecTime : Duration
  dcTaskTime : Int
  cycleCount : UInt32
  firstCycle : Bool
  cycleTimeExceeded : Bool
  inCallAfterOutputUpdate : Bool
  rtViolation : Bool
  name : Option String
  deriving DecidableEq

/-- The context of every decoding error. -/
def decoding : String := "decoding task info"

/-- The task's name, where the layout has one: the text up to the first zero. -/
def decodeName (entry : List UInt8) : Option Nat → Outcome Error (Option String)
  | none => .ok none
  | some offset =>
      if offset + taskNameSize ≤ entry.length then
        let nameBytes := window entry offset taskNameSize
        .ok (some (fromUtf8Lossy (nameBytes.take (nameBytes.findIdx fun byte => byte == 0))))
      else .err (Error.eof decoding)

/-- The duration of so many ticks. -/
def ticks (count : UInt32) : Duration :=
  Duration.fromNanos (count.toUInt64 * tickNanos)

/-- Decode one entry, field by field in the documented order. -/
def decodeTask (entry : List UInt8) (index : Int32) (taskNameOffset : Option Nat) :
    Outcome Error PlcTaskSystemInfo :=
  runOn (do
    let objectId ← u32 (Error.eof decoding)
    let cycleTime ← u32 (Error.eof decoding)
    let priority ← u16 (Error.eof decoding)
    let adsPort ← u16 (Error.eof decoding)
    let cycleCount ← u32 (Error.eof decoding)
    let dcTaskTime ← i64 (Error.eof decoding)
    let lastExecTime ← u32 (Error.eof decoding)
    let firstCycle ← u8 (Error.eof decoding)
    let cycleTimeExceeded ← u8 (Error.eof decoding)
    let inCallAfterOutputUpdate ← u8 (Error.eof decoding)
    let rtViolation ← u8 (Error.eof decoding)
    let name ← lift (decodeName entry taskNameOffset)
    pure { index, objectId
           cycleTime := ticks cycleTime
           priority, adsPort, cycleCount, dcTaskTime
           lastExecTime := ticks lastExecTime
           firstCycle := firstCycle != 0
           cycleTimeExceeded := cycleTimeExceeded != 0
           inCallAfterOutputUpdate := inCallAfterOutputUpdate != 0
           rtViolation := rtViolation != 0
           name }) entry

namespace TaskInfoReader

/-- The loop over the entries from this slot on. -/
def decodeFrom (reader : TaskInfoReader) :
    Nat → List (List UInt8) → Outcome Error (List PlcTaskSystemInfo)
  | _, [] => .ok []
  | slot, entry :: entries => do
      let index ← match checkedAdd reader.firstIndex (Int32.ofNat slot) with
        | some index => .ok index
        | none => .err (.reply decoding "task array index overflow" (UInt32.ofNat slot))
      let task ← decodeTask entry index reader.layout.taskNameOffset
      let tasks ← reader.decodeFrom (slot + 1) entries
      .ok (task :: tasks)

/-- Decode the bytes of the symbol. -/
def decodeTasks (reader : TaskInfoReader) (bytes : List UInt8) :
    Outcome Error (List PlcTaskSystemInfo) :=
  if bytes.length ≠ reader.taskInfo.size then
    .err (.reply decoding "unexpected task-info read length" (UInt32.ofNat bytes.length))
  else do
    let entries ← chunksExact reader.layout.entrySize bytes
    reader.decodeFrom 0 entries

end TaskInfoReader

end Ads.TaskInfo
