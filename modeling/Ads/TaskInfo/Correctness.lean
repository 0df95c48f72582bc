import Ads.TaskInfo.Core

/-!
# Telemetry decodes what the metadata says

Every entry is decoded from its own bytes, each field from where the metadata puts
it, and no reader that was built meets one of the decoder's failures.
-/

namespace Ads.TaskInfo

open Ads.Bytes Ads.Bytes.Reader Ads.Client Ads.Control Ads.Symbols Ads.Text

/-! ## One entry -/

/-- The text of a name's bytes, up to the first zero. -/
def nameText (bytes : List UInt8) : String :=
  fromUtf8Lossy (bytes.takeWhile fun byte => byte != 0)

/-- Whether a byte is set. -/
def isSet (bytes : List UInt8) : Bool :=
  leValue bytes != 0

/-- The task that an entry describes, every field at its documented offset. -/
def PlcTaskSystemInfo.ofEntry (entry : List UInt8) (index : Int32)
    (taskNameOffset : Option Nat) : PlcTaskSystemInfo where
  index := index
  objectId := UInt32.ofNat (leValue (window entry 0 4))
  cycleTime := ticks (UInt32.ofNat (leValue (window entry 4 4)))
  priority := UInt16.ofNat (leValue (window entry 8 2))
  adsPort := UInt16.ofNat (leValue (window entry 10 2))
  cycleCount := UInt32.ofNat (leValue (window entry 12 4))
  dcTaskTime := leInt (window entry 16 8)
  lastExecTime := ticks (UInt32.ofNat (leValue (window entry 24 4)))
  firstCycle := UInt8.ofNat (leValue (window entry 28 1)) != 0
  cycleTimeExceeded := UInt8.ofNat (leValue (window entry 29 1)) != 0
  inCallAfterOutputUpdate := UInt8.ofNat (leValue (window entry 30 1)) != 0
  rtViolation := UInt8.ofNat (leValue (window entry 31 1)) != 0
  name := taskNameOffset.map fun offset => nameText (window entry offset taskNameSize)

theorem decodeName_eq {entry : List UInt8} {taskNameOffset : Option Nat}
    (fits : ∀ offset ∈ taskNameOffset, offset + taskNameSize ≤ entry.length) :
    decodeName entry taskNameOffset =
      .ok (taskNameOffset.map fun offset => nameText (window entry offset taskNameSize)) := by
  cases taskNameOffset with
  | none => rfl
  | some offset =>
      have zero : (fun byte : UInt8 => !(byte != 0)) = fun byte => byte == 0 := by
        funext byte
        rw [bne, Bool.not_not]
      rw [decodeName, if_pos (fits offset rfl), Option.map_some, nameText,
        List.takeWhile_eq_take_findIdx_not, zero]

/-- An entry that holds its fields is decoded from where they are documented. -/
theorem decodeTask_eq {entry : List UInt8} {taskNameOffset : Option Nat} (index : Int32)
    (long : taskPrefixSize ≤ entry.length)
    (fits : ∀ offset ∈ taskNameOffset, offset + taskNameSize ≤ entry.length) :
    decodeTask entry index taskNameOffset =
      .ok (PlcTaskSystemInfo.ofEntry entry index taskNameOffset) := by
  rw [taskPrefixSize] at long
  rw [decodeTask, decodeName_eq fits, runOn, bind_run_ok (readsWord_u32 _ entry (by omega)),
    bind_run_ok ((readsWord_u32 _).run_drop (by omega)),
    bind_run_ok ((readsWord_u16 _).run_drop (by omega)),
    bind_run_ok ((readsWord_u16 _).run_drop (by omega)),
    bind_run_ok ((readsWord_u32 _).run_drop (by omega)),
    bind_run_ok ((readsWord_i64 _).run_drop (by omega)),
    bind_run_ok ((readsWord_u32 _).run_drop (by omega)),
    bind_run_ok ((readsWord_u8 _).run_drop (by omega)),
    bind_run_ok ((readsWord_u8 _).run_drop (by omega)),
    bind_run_ok ((readsWord_u8 _).run_drop (by omega)),
    bind_run_ok ((readsWord_u8 _).run_drop (by omega))]
  rfl

/-! ## The whole symbol -/

/-- The index of a slot. -/
def slotIndex (firstIndex : Int32) (slot : Nat) : Int32 :=
  Int32.ofInt (firstIndex.toInt + slot)

/-- The index of a slot of a reader is a signed 32-bit number. -/
theorem toInt_slotIndex {firstIndex : Int32} {slot : Nat}
    (within : firstIndex.toInt + slot < 2 ^ 31) :
    (slotIndex firstIndex slot).toInt = firstIndex.toInt + slot := by
  have low := firstIndex.le_toInt
  exact Int32.toInt_ofInt_of_le (by omega) within

/-- The loop's index is that of the slot, also where the slot alone is not a signed 32-bit
number. -/
theorem checkedAdd_slot {firstIndex : Int32} {slot : Nat}
    (within : firstIndex.toInt + slot < 2 ^ 31) (short : slot < 2 ^ 31) :
    checkedAdd firstIndex (Int32.ofNat slot) = some (slotIndex firstIndex slot) := by
  rw [checkedAdd, checkedI32_eq_some_iff, toInt_slotIndex within, Int32.toInt_ofNat_of_lt short]

theorem decodeFrom_eq (reader : TaskInfoReader) {entries : List (List UInt8)} {slot : Nat}
    (sizes : ∀ entry ∈ entries, entry.length = reader.layout.entrySize)
    (within : reader.firstIndex.toInt + (slot + entries.length : Nat) ≤ 2 ^ 31)
    (short : slot + entries.length ≤ 2 ^ 31) :
    reader.decodeFrom slot entries = .ok (entries.mapIdx fun k entry =>
      PlcTaskSystemInfo.ofEntry entry (slotIndex reader.firstIndex (slot + k))
        reader.layout.taskNameOffset) := by
  induction entries generalizing slot with
  | nil => rfl
  | cons entry entries ih =>
      rw [List.length_cons] at within short
      have size := sizes entry List.mem_cons_self
      have index := @checkedAdd_slot reader.firstIndex slot (by omega) (by omega)
      have task := @decodeTask_eq entry reader.layout.taskNameOffset
        (slotIndex reader.firstIndex slot) (by rw [size]; exact reader.layout.prefixFits)
        (by rw [size]; exact reader.layout.nameFits)
      have later := @ih (slot + 1)
        (fun other member => sizes other (List.mem_cons_of_mem entry member))
        (by omega) (by omega)
      have shifted : ∀ k, slot + 1 + k = slot + (k + 1) := by
        intro k
        omega
      simp only [shifted] at later
      rw [TaskInfoReader.decodeFrom, index]
      dsimp only
      rw [Outcome.ok_bind, task, Outcome.ok_bind, later, Outcome.ok_bind, List.mapIdx_cons,
        Nat.add_zero]

/-- A reader decodes every slice of the symbol's size, each entry from its own bytes. -/
theorem decodeTasks_eq (reader : TaskInfoReader) {entries : Nat} {bytes : List UInt8}
    (size : bytes.length = reader.taskInfo.size)
    (whole : reader.taskInfo.size = entries * reader.layout.entrySize) :
    reader.decodeTasks bytes = .ok ((List.range entries).map fun k =>
      PlcTaskSystemInfo.ofEntry (window bytes (k * reader.layout.entrySize)
        reader.layout.entrySize) (slotIndex reader.firstIndex k)
        reader.layout.taskNameOffset) := by
  have positive : 0 < reader.layout.entrySize :=
    Nat.lt_of_lt_of_le (by decide) reader.layout.prefixFits
  obtain ⟨own, ownWhole, short, indices⟩ := reader.whole
  have same : own = entries := Nat.eq_of_mul_eq_mul_right positive (ownWhole.symm.trans whole)
  subst same
  have sizes : ∀ entry ∈ (List.range own).map (fun k =>
      window bytes (k * reader.layout.entrySize) reader.layout.entrySize),
      entry.length = reader.layout.entrySize := by
    intro entry member
    obtain ⟨k, inRange, rfl⟩ := List.mem_map.mp member
    apply length_window
    rw [size, whole, ← Nat.succ_mul]
    exact Nat.mul_le_mul_right _ (List.mem_range.mp inRange)
  have loop := @decodeFrom_eq reader _ 0 sizes (by simpa using indices)
    (by simpa using Nat.le_of_lt short)
  rw [TaskInfoReader.decodeTasks, if_neg (not_not.mpr size),
    chunksExact_eq positive (size.trans whole), Outcome.ok_bind, loop]
  congr 1
  apply List.ext_getElem?
  intro k
  rw [List.getElem?_mapIdx, getElem?_map_range, getElem?_map_range]
  split
  · rw [Option.map_some, Nat.zero_add]
  · rfl

/-! ## What the metadata says -/

/-- The layout of an accepted entry type: its size, its documented fields, and where its name
is. -/
theorem fromEntryType_eq_ok {entry : TypeInfo} {layout : TaskInfoLayout}
    (accepted : TaskInfoLayout.fromEntryType entry = .ok layout) :
    layout.entrySize = entry.size ∧
      (∀ documented ∈ required, checkRequired entry documented = .ok ()) ∧
      layout.taskNameOffset = ((findField entry "TaskName").bind Field.offset).map UInt32.toNat ∧
      ∀ field ∈ findField entry "TaskName", nameSupported entry.size field := by
  unfold TaskInfoLayout.fromEntryType at accepted
  split at accepted
  · contradiction
  · obtain ⟨_, checked, rest⟩ := Outcome.bind_eq_ok_iff.mp accepted
    have fields := Outcome.forM_eq_ok_iff.mp checked
    cases found : findField entry "TaskName" with
    | none =>
        simp only [found] at rest
        cases rest
        exact ⟨rfl, fields, rfl, by simp⟩
    | some field =>
        simp only [found] at rest
        split at rest
        · rename_i supported
          cases rest
          refine ⟨rfl, fields, rfl, ?_⟩
          rintro _ ⟨⟩
          exact supported
        · contradiction

/-- A documented field that passed its check is where the documentation says. -/
theorem findField_of_checkRequired {entry : TypeInfo} {name : String} {offset : UInt32}
    {size : Nat} {baseType : UInt32}
    (checked : checkRequired entry (name, offset, size, baseType) = .ok ()) :
    ∃ field, findField entry name = some field ∧ field.offset = some offset ∧
      field.size = size := by
  unfold checkRequired at checked
  dsimp only at checked
  split at checked
  · contradiction
  · rename_i field found
    split at checked
    · contradiction
    · rename_i agree
      simp only [not_or, not_not] at agree
      exact ⟨field, found, agree.1, agree.2.1⟩

/-- The bytes where the metadata's first field of this name lies in the `k`-th entry. -/
def fieldData (entry : TypeInfo) (bytes : List UInt8) (k : Nat) (name : String) :
    Option (List UInt8) :=
  (findField entry name).bind fun field => field.offset.map fun offset =>
    window bytes (k * entry.size + offset.toNat) field.size

/-- A task is what the metadata makes of the bytes of its entry. -/
structure Describes (entry : TypeInfo) (bytes : List UInt8) (k : Nat)
    (task : PlcTaskSystemInfo) : Prop where
  objectId : (fieldData entry bytes k "ObjId").map leValue = some task.objectId.toNat
  cycleTime : (fieldData entry bytes k "CycleTime").map (fun data => leValue data * 100) =
    some task.cycleTime.asNanos
  priority : (fieldData entry bytes k "Priority").map leValue = some task.priority.toNat
  adsPort : (fieldData entry bytes k "AdsPort").map leValue = some task.adsPort.toNat
  cycleCount : (fieldData entry bytes k "CycleCount").map leValue = some task.cycleCount.toNat
  dcTaskTime : (fieldData entry bytes k "DcTaskTime").map leInt = some task.dcTaskTime
  lastExecTime : (fieldData entry bytes k "LastExecTime").map (fun data => leValue data * 100) =
    some task.lastExecTime.asNanos
  firstCycle : (fieldData entry bytes k "FirstCycle").map isSet = some task.firstCycle
  cycleTimeExceeded :
    (fieldData entry bytes k "CycleTimeExceeded").map isSet = some task.cycleTimeExceeded
  inCallAfterOutputUpdate : (fieldData entry bytes k "InCallAfterOutputUpdate").map isSet =
    some task.inCallAfterOutputUpdate
  rtViolation : (fieldData entry bytes k "RTViolation").map isSet = some task.rtViolation
  name : (fieldData entry bytes k "TaskName").map nameText = task.name
  unnamed : task.name = none ↔ ∀ field ∈ entry.fields, field.name ≠ "TaskName"
  nameSize : ∀ data ∈ fieldData entry bytes k "TaskName", data.length = taskNameSize
  sizes : ∀ documented ∈ required,
    ∀ data ∈ fieldData entry bytes k documented.1, data.length = documented.2.2.1

/-- A documented field lies in its entry's own bytes, as far behind their start as it is
documented. -/
theorem fieldData_of_checkRequired {entry : TypeInfo} {name : String} {offset : UInt32}
    {size : Nat} {baseType : UInt32} (bytes : List UInt8) (k : Nat)
    (checked : checkRequired entry (name, offset, size, baseType) = .ok ())
    (fits : offset.toNat + size ≤ entry.size) :
    fieldData entry bytes k name =
      some (window (window bytes (k * entry.size) entry.size) offset.toNat size) := by
  obtain ⟨field, found, position, length⟩ := findField_of_checkRequired checked
  rw [fieldData, found, Option.bind_some, position, Option.map_some, length,
    window_window fits]

theorem toNat_ofNat_leValue_u16 {data : List UInt8} (size : data.length = 2) :
    (UInt16.ofNat (leValue data)).toNat = leValue data := by
  have bound := leValue_lt data
  rw [size] at bound
  exact UInt16.toNat_ofNat_of_lt' (by simpa using bound)

theorem toNat_ofNat_leValue_u32 {data : List UInt8} (size : data.length = 4) :
    (UInt32.ofNat (leValue data)).toNat = leValue data := by
  have bound := leValue_lt data
  rw [size] at bound
  exact UInt32.toNat_ofNat_of_lt' (by simpa using bound)

theorem ofNat_leValue_bne_zero {data : List UInt8} (size : data.length = 1) :
    (UInt8.ofNat (leValue data) != 0) = isSet data := by
  have bound := leValue_lt data
  rw [size] at bound
  have value : (UInt8.ofNat (leValue data)).toNat = leValue data :=
    UInt8.toNat_ofNat_of_lt' (by simpa using bound)
  have zero : UInt8.ofNat (leValue data) = 0 ↔ leValue data = 0 := by
    rw [← UInt8.toNat_inj, value]
    rfl
  rw [isSet, Bool.eq_iff_iff, bne_iff_ne, bne_iff_ne, Ne, Ne, zero]

/-- The ticks of a 32-bit word do not overflow. -/
theorem asNanos_ticks (count : UInt32) : (ticks count).asNanos = count.toNat * 100 := by
  have bound := count.toNat_lt
  rw [ticks, Duration.asNanos_fromNanos, UInt64.toNat_mul, UInt32.toNat_toUInt64]
  exact Nat.mod_eq_of_lt (by rw [show tickNanos.toNat = 100 from rfl]; omega)

/-- The documented fields lie in the documented prefix. -/
theorem required_fits : ∀ documented ∈ required,
    documented.2.1.toNat + documented.2.2.1 ≤ taskPrefixSize := by
  decide

section Described

variable {entry : TypeInfo} {layout : TaskInfoLayout} {bytes : List UInt8} {k : Nat}

/-- A documented field of an accepted entry type lies in the entry's own bytes. -/
theorem fieldData_required (accepted : TaskInfoLayout.fromEntryType entry = .ok layout)
    (bytes : List UInt8) (k : Nat) {documented : String × UInt32 × Nat × UInt32}
    (member : documented ∈ required) :
    fieldData entry bytes k documented.1 =
      some (window (window bytes (k * entry.size) entry.size) documented.2.1.toNat
        documented.2.2.1) := by
  obtain ⟨size, checked, -, -⟩ := fromEntryType_eq_ok accepted
  apply fieldData_of_checkRequired bytes k (checked documented member)
  rw [← size]
  exact Nat.le_trans (required_fits documented member) layout.prefixFits

/-- Its bytes are all there. -/
theorem length_required (accepted : TaskInfoLayout.fromEntryType entry = .ok layout)
    (within : k * entry.size + entry.size ≤ bytes.length)
    {documented : String × UInt32 × Nat × UInt32} (member : documented ∈ required) :
    (window (window bytes (k * entry.size) entry.size) documented.2.1.toNat
      documented.2.2.1).length = documented.2.2.1 := by
  apply length_window
  rw [length_window within, ← (fromEntryType_eq_ok accepted).1]
  exact Nat.le_trans (required_fits documented member) layout.prefixFits

/-- The name of an accepted entry type lies in the entry's own bytes. -/
theorem fieldData_taskName (accepted : TaskInfoLayout.fromEntryType entry = .ok layout)
    (bytes : List UInt8) (k : Nat) :
    fieldData entry bytes k "TaskName" = layout.taskNameOffset.map fun offset =>
      window (window bytes (k * entry.size) entry.size) offset taskNameSize := by
  obtain ⟨size, -, nameOffset, named⟩ := fromEntryType_eq_ok accepted
  cases found : findField entry "TaskName" with
  | none =>
      rw [found] at nameOffset
      rw [fieldData, found, nameOffset]
      rfl
  | some field =>
      have supported := named field found
      rw [found] at nameOffset
      cases position : field.offset with
      | none => simp [nameSupported, position] at supported
      | some offset =>
          have fits := nameFits_of_nameSupported supported position
          have length : field.size = taskNameSize := by
            simp only [nameSupported, Bool.and_eq_true, beq_iff_eq] at supported
            exact supported.1.1.2
          rw [Option.bind_some, position] at nameOffset
          rw [fieldData, found, Option.bind_some, position, nameOffset, Option.map_some,
            Option.map_some, Option.map_some, window_window fits, length]

/-- An accepted entry type without a name has no field that is called so. -/
theorem taskNameOffset_eq_none_iff (accepted : TaskInfoLayout.fromEntryType entry = .ok layout) :
    layout.taskNameOffset = none ↔ ∀ field ∈ entry.fields, field.name ≠ "TaskName" := by
  obtain ⟨-, -, nameOffset, named⟩ := fromEntryType_eq_ok accepted
  have absent : findField entry "TaskName" = none ↔
      ∀ field ∈ entry.fields, field.name ≠ "TaskName" := by
    simp [findField, List.find?_eq_none]
  rw [nameOffset, ← absent]
  cases found : findField entry "TaskName" with
  | none => simp
  | some field =>
      have supported := named field found
      cases position : field.offset with
      | none => simp [nameSupported, position] at supported
      | some offset => simp [position]

section Fields

variable (accepted : TaskInfoLayout.fromEntryType entry = .ok layout)
  (within : k * entry.size + entry.size ≤ bytes.length)
  {name : String} {offset baseType : UInt32}

include accepted within

theorem map_leValue_u16 (member : (name, offset, 2, baseType) ∈ required) :
    (fieldData entry bytes k name).map leValue = some (UInt16.ofNat (leValue
      (window (window bytes (k * entry.size) entry.size) offset.toNat 2))).toNat := by
  have length := length_required accepted within member
  rw [fieldData_required accepted bytes k member, Option.map_some,
    toNat_ofNat_leValue_u16 length]

theorem map_leValue_u32 (member : (name, offset, 4, baseType) ∈ required) :
    (fieldData entry bytes k name).map leValue = some (UInt32.ofNat (leValue
      (window (window bytes (k * entry.size) entry.size) offset.toNat 4))).toNat := by
  have length := length_required accepted within member
  rw [fieldData_required accepted bytes k member, Option.map_some,
    toNat_ofNat_leValue_u32 length]

theorem map_isSet (member : (name, offset, 1, baseType) ∈ required) :
    (fieldData entry bytes k name).map isSet = some (UInt8.ofNat (leValue
      (window (window bytes (k * entry.size) entry.size) offset.toNat 1)) != 0) := by
  have length := length_required accepted within member
  rw [fieldData_required accepted bytes k member, Option.map_some,
    ofNat_leValue_bne_zero length]

/-- A duration is the ticks of its word. -/
theorem map_asNanos (member : (name, offset, 4, baseType) ∈ required) :
    (fieldData entry bytes k name).map (fun data => leValue data * 100) =
      some (ticks (UInt32.ofNat (leValue
        (window (window bytes (k * entry.size) entry.size) offset.toNat 4)))).asNanos := by
  have length := length_required accepted within member
  rw [fieldData_required accepted bytes k member, Option.map_some, asNanos_ticks,
    toNat_ofNat_leValue_u32 length]

end Fields

/-- The task of an entry is what accepted metadata makes of its bytes. -/
theorem describes_ofEntry (accepted : TaskInfoLayout.fromEntryType entry = .ok layout)
    (within : k * entry.size + entry.size ≤ bytes.length) (index : Int32) :
    Describes entry bytes k (PlcTaskSystemInfo.ofEntry
      (window bytes (k * entry.size) entry.size) index layout.taskNameOffset) :=
  { objectId := @map_leValue_u32 _ _ _ _ accepted within "ObjId" 0 19 (by simp [required])
    cycleTime := @map_asNanos _ _ _ _ accepted within "CycleTime" 4 19 (by simp [required])
    priority := @map_leValue_u16 _ _ _ _ accepted within "Priority" 8 18 (by simp [required])
    adsPort := @map_leValue_u16 _ _ _ _ accepted within "AdsPort" 10 18 (by simp [required])
    cycleCount := @map_leValue_u32 _ _ _ _ accepted within "CycleCount" 12 19 (by simp [required])
    dcTaskTime := by
      have member : ("DcTaskTime", 16, 8, 20) ∈ required := by simp [required]
      have data := fieldData_required accepted bytes k member
      rw [data, Option.map_some]
      rfl
    lastExecTime := @map_asNanos _ _ _ _ accepted within "LastExecTime" 24 19 (by simp [required])
    firstCycle := @map_isSet _ _ _ _ accepted within "FirstCycle" 28 33 (by simp [required])
    cycleTimeExceeded :=
      @map_isSet _ _ _ _ accepted within "CycleTimeExceeded" 29 33 (by simp [required])
    inCallAfterOutputUpdate :=
      @map_isSet _ _ _ _ accepted within "InCallAfterOutputUpdate" 30 33 (by simp [required])
    rtViolation := @map_isSet _ _ _ _ accepted within "RTViolation" 31 33 (by simp [required])
    name := by
      rw [fieldData_taskName accepted, Option.map_map]
      rfl
    unnamed := by
      rw [← taskNameOffset_eq_none_iff accepted]
      exact Option.map_eq_none_iff
    nameSize := by
      intro data found
      rw [fieldData_taskName accepted] at found
      obtain ⟨offset, position, rfl⟩ := Option.map_eq_some_iff.mp found
      apply length_window
      rw [length_window within, ← (fromEntryType_eq_ok accepted).1]
      exact layout.nameFits offset position
    sizes := by
      intro documented member data found
      rw [fieldData_required accepted bytes k member] at found
      cases found
      exact length_required accepted within member }

end Described

/-! ## Every reader decodes -/

/-- A reader that was made has the given symbol and layout, and one entry for every index
within the bounds. -/
theorem new_eq_ok {target : AmsAddr} {symbolGeneration : UInt64} {taskInfo : TaskInfoLocation}
    {first last : Int32} {layout : TaskInfoLayout} {reader : TaskInfoReader}
    (made : TaskInfoReader.new target symbolGeneration taskInfo (first, last) layout = .ok reader) :
    reader.taskInfo = taskInfo ∧ reader.layout = layout ∧ reader.firstIndex = first ∧
      ∃ entries : Nat, (entries : Int) = last.toInt - first.toInt + 1 ∧
        taskInfo.size = entries * layout.entrySize := by
  unfold TaskInfoReader.new at made
  split at made
  · contradiction
  · rename_i number counted
    have bounds := arrayCount_eq_some_iff.mp counted
    dsimp only at made bounds
    split at made
    · contradiction
    · rename_i disagree
      have product := not_not.mp (not_or.mp (not_or.mp disagree).2).2
      cases made
      refine ⟨rfl, rfl, rfl, number.toInt.toNat, ?_, (eq_of_checkedMulUsize product).symm⟩
      omega

section Reader

variable {entry : TypeInfo} {layout : TaskInfoLayout} {target : AmsAddr}
  {symbolGeneration : UInt64} {taskInfo : TaskInfoLocation} {first last : Int32}
  {reader : TaskInfoReader} {bytes : List UInt8}

/-- What is decoded is one task for every index within the bounds, each with what accepted
metadata says of its own entry. -/
theorem described_of_decoded (accepted : TaskInfoLayout.fromEntryType entry = .ok layout)
    (made : TaskInfoReader.new target symbolGeneration taskInfo (first, last) layout = .ok reader)
    (size : bytes.length = taskInfo.size) {tasks : List PlcTaskSystemInfo}
    (decoded : reader.decodeTasks bytes = .ok tasks) :
    (tasks.length : Int) = last.toInt - first.toInt + 1 ∧
      ∀ (k : Nat) (task : PlcTaskSystemInfo), tasks[k]? = some task →
        task.index.toInt = first.toInt + k ∧ Describes entry bytes k task := by
  obtain ⟨rfl, rfl, rfl, entries, count, whole⟩ := new_eq_ok made
  have entrySize := (fromEntryType_eq_ok accepted).1
  have high := last.toInt_lt
  cases decoded.symm.trans (decodeTasks_eq reader size whole)
  constructor
  · rw [List.length_map, List.length_range, count]
  · intro k task found
    rw [getElem?_map_range] at found
    split at found
    · rename_i inside
      cases found
      constructor
      · exact toInt_slotIndex (by omega)
      · rw [entrySize]
        apply describes_ofEntry accepted
        rw [size, whole, entrySize, ← Nat.succ_mul]
        exact Nat.mul_le_mul_right _ inside
    · contradiction

/-- With accepted metadata, every slice of the symbol's size decodes to one task for every
index within the bounds, each with what the metadata says of its own entry. -/
theorem decodeTasks_describes (accepted : TaskInfoLayout.fromEntryType entry = .ok layout)
    (made : TaskInfoReader.new target symbolGeneration taskInfo (first, last) layout = .ok reader)
    (size : bytes.length = taskInfo.size) :
    ∃ tasks, reader.decodeTasks bytes = .ok tasks ∧
      (tasks.length : Int) = last.toInt - first.toInt + 1 ∧
      (∀ (k : Nat) (task : PlcTaskSystemInfo), tasks[k]? = some task →
        task.index.toInt = first.toInt + k ∧ Describes entry bytes k task) ∧
      ∀ (other : List UInt8), other.length = taskInfo.size → ∀ k : Nat,
        window other (k * entry.size) entry.size = window bytes (k * entry.size) entry.size →
        ∃ others, reader.decodeTasks other = .ok others ∧ others[k]? = tasks[k]? := by
  obtain ⟨isInfo, isLayout, -, entries, -, whole⟩ := new_eq_ok made
  have entrySize := (fromEntryType_eq_ok accepted).1
  rw [← isInfo, ← isLayout] at whole
  have decoded :=
    decodeTasks_eq reader (size.trans (congrArg TaskInfoLocation.size isInfo.symm)) whole
  obtain ⟨count, described⟩ := described_of_decoded accepted made size decoded
  refine ⟨_, decoded, count, described, ?_⟩
  intro other length k same
  have again :=
    decodeTasks_eq reader (length.trans (congrArg TaskInfoLocation.size isInfo.symm)) whole
  refine ⟨_, again, ?_⟩
  rw [getElem?_map_range, getElem?_map_range, isLayout, entrySize, same]

end Reader

/-- The field that a row of the documentation stands for. -/
def documentedField : String × UInt32 × Nat × UInt32 → Field
  | (name, offset, size, baseType) =>
      { name, size, baseType
        typ := name
        offset := some offset
        array := []
        flags := 0
        comment := ""
        attributes := none }

/-- An entry type of 128 bytes with the documented fields and a name from byte 64 on. -/
def documentedEntry : TypeInfo where
  name := "PlcTaskSystemInfo"
  typeName := "PlcTaskSystemInfo"
  comment := ""
  size := 128
  array := []
  fields := (required ++ [("TaskName", 64, taskNameSize, 30)]).map documentedField
  baseType := 65
  flags := 0
  guid := none
  methods := none
  attributes := none
  enumInfo := none

/-- Two such entries, at the indices -1 and 0. -/
theorem documentedEntry_describes :
    ∃ reader tasks, TaskInfoReader.new ⟨.localId, 851⟩ 7 ⟨0x4020, 100, 256⟩ (-1, 0)
        ⟨128, some 64, by decide, by decide⟩ = .ok reader ∧
      reader.decodeTasks (List.replicate 256 1) = .ok tasks ∧ tasks.length = 2 ∧
      ∀ (k : Nat) (task : PlcTaskSystemInfo), tasks[k]? = some task →
        task.index.toInt = -1 + k ∧
          Describes documentedEntry (List.replicate 256 1) k task := by
  have accepted : TaskInfoLayout.fromEntryType documentedEntry =
      .ok ⟨128, some 64, by decide, by decide⟩ := by
    decide +kernel
  cases made : TaskInfoReader.new ⟨.localId, 851⟩ 7 ⟨0x4020, 100, 256⟩ (-1, 0)
      ⟨128, some 64, by decide, by decide⟩ with
  | ok reader =>
      obtain ⟨tasks, decoded, count, described, -⟩ := decodeTasks_describes accepted made
        (List.length_replicate (n := 256) (a := (1 : UInt8)))
      refine ⟨reader, tasks, rfl, decoded, ?_, ?_⟩
      · have bounds : (0 : Int32).toInt - (-1 : Int32).toInt + 1 = 2 := by decide
        rw [bounds] at count
        exact_mod_cast count
      · exact described
  | err error => cases made
  | panic => cases made

end Ads.TaskInfo
