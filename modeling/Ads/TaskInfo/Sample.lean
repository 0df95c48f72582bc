import Ads.Client.Reads
import Ads.TaskInfo.Correctness

/-!
# Samples of the task telemetry

A reader reads the task-info symbol from its device and decodes it, and the
application's task count if it knows where that is.  Once the bytes of the symbol
have arrived, no error is reported any more.
-/

namespace Ads.TaskInfo

open Ads.Bytes Ads.Bytes.Reader Ads.Client Ads.Control Ads.Symbols

/-- The size of the app-info fields up to the task count. -/
def appInfoTaskCountSize : Nat := 8

/-- Where the task count is. -/
def appInfoTaskCountOffset : Nat := 4

/-- The result of reading the task count alongside the telemetry. -/
inductive ReportedTaskCount
  | available (count : UInt32)
  | unavailable (error : Error)
  deriving DecidableEq

/-- One task sample and its optional application-wide task count. -/
structure PlcTaskInfoSnapshot where
  reportedTaskCount : Option ReportedTaskCount
  tasks : List PlcTaskSystemInfo
  deriving DecidableEq

/-- Include a resolved app-info location. -/
def TaskInfoReader.withAppInfo (reader : TaskInfoReader) (appInfo : TaskInfoLocation) :
    Outcome Error TaskInfoReader :=
  if appInfo.size < appInfoTaskCountSize then
    .err (.taskInfoLayout "app-info symbol is shorter than TaskCnt")
  else .ok { reader with appInfo := some appInfo }

section Operations

variable {S : Type} (server : Server S) (device : Device)

/-- Read the task count of the application. -/
def readAppTaskCount (location : TaskInfoLocation) : Operation S UInt32 := do
  let bytes ← readExact server device location.indexGroup location.indexOffset
    (List.replicate appInfoTaskCountSize 0)
  Operation.ofOutcome (runOn (u32 (Error.eof "decoding app task count"))
    (bytes.drop appInfoTaskCountOffset))

/-- Report the task count, or why it could not be read. -/
def reportTaskCount (location : TaskInfoLocation) : Operation S ReportedTaskCount :=
  fun link =>
    match readAppTaskCount server device location link with
    | (.ok count, after) => (.ok (.available count), after)
    | (.err error, after) => (.ok (.unavailable error), after)
    | (.panic, after) => (.panic, after)

/-- Read and decode the configured task-info symbol. -/
def TaskInfoReader.read (reader : TaskInfoReader) (currentGeneration : UInt64) :
    Operation S PlcTaskInfoSnapshot :=
  if currentGeneration ≠ reader.symbolGeneration then
    Operation.ofOutcome (.err .taskInfoInvalidated)
  else if device.addr ≠ reader.target then
    Operation.ofOutcome
      (.err (.taskInfoLayout "reader was used with a different ADS target"))
  else do
    let bytes ← readExact server device reader.taskInfo.indexGroup
      reader.taskInfo.indexOffset (List.replicate reader.taskInfo.size 0)
    let tasks ← Operation.ofOutcome (reader.decodeTasks bytes)
    match reader.appInfo with
    | none => pure ⟨none, tasks⟩
    | some location => do
        let count ← reportTaskCount server device location
        pure ⟨some count, tasks⟩

end Operations

section Samples

variable {S : Type} {server : Server S} {device : Device} {link last : Link S}

/-- A read keeps the size of the buffer. -/
theorem length_of_read {indexGroup indexOffset : UInt32} {data filled : List UInt8} {n : Nat}
    (ran : read server device indexGroup indexOffset data link = (.ok (n, filled), last)) :
    filled.length = data.length := by
  rcases Operation.ofOutcome_bind_run_eq_ok_iff.mp ran with ⟨length, -, rest⟩
  rcases Operation.bind_run_eq_ok_iff.mp rest with ⟨received, after, exchanged, finished⟩
  rcases communicate_eq_ok exchanged with ⟨-, state, reply, -, accepted, -⟩
  rcases settled_cons_eq_ok_iff.mp accepted with ⟨-, -, -, rfl⟩
  cases finished
  rw [scatter_cons, scatter_cons]
  exact length_overlay _ _

theorem length_of_readExact {indexGroup indexOffset : UInt32} {data filled : List UInt8}
    (ran : readExact server device indexGroup indexOffset data link = (.ok filled, last)) :
    filled.length = data.length := by
  rcases Operation.bind_run_eq_ok_iff.mp ran with ⟨⟨n, read⟩, after, first, rest⟩
  rcases ensureExact_eq_ok_iff.mp (congrArg Prod.fst rest) with ⟨-, rfl⟩
  exact length_of_read first

/-- The bytes of the symbol always decode. -/
theorem TaskInfoReader.decodes (reader : TaskInfoReader) {bytes : List UInt8}
    (size : bytes.length = reader.taskInfo.size) :
    ∃ tasks, reader.decodeTasks bytes = .ok tasks := by
  obtain ⟨entries, whole, -, -⟩ := reader.whole
  exact ⟨_, decodeTasks_eq reader size whole⟩

/-- A sample is decoded from bytes of the symbol's size that the device returned. -/
theorem TaskInfoReader.read_eq_ok {reader : TaskInfoReader} {currentGeneration : UInt64}
    {snapshot : PlcTaskInfoSnapshot}
    (ran : reader.read server device currentGeneration link = (.ok snapshot, last)) :
    currentGeneration = reader.symbolGeneration ∧ device.addr = reader.target ∧
      ∃ bytes after, readExact server device reader.taskInfo.indexGroup
          reader.taskInfo.indexOffset (List.replicate reader.taskInfo.size 0) link =
            (.ok bytes, after) ∧
        bytes.length = reader.taskInfo.size ∧ reader.decodeTasks bytes = .ok snapshot.tasks := by
  unfold TaskInfoReader.read at ran
  by_cases stale : currentGeneration ≠ reader.symbolGeneration
  · rw [if_pos stale] at ran
    cases ran
  by_cases foreign : device.addr ≠ reader.target
  · rw [if_neg stale, if_pos foreign] at ran
    cases ran
  rw [if_neg stale, if_neg foreign] at ran
  rcases Operation.bind_run_eq_ok_iff.mp ran with ⟨bytes, after, exact, rest⟩
  rcases Operation.ofOutcome_bind_run_eq_ok_iff.mp rest with ⟨tasks, decoded, rest⟩
  refine ⟨not_not.mp stale, not_not.mp foreign, bytes, after, exact, ?_, ?_⟩
  · rw [length_of_readExact exact, List.length_replicate]
  · cases known : reader.appInfo with
    | none =>
        simp only [known] at rest
        cases rest
        exact decoded
    | some location =>
        simp only [known] at rest
        rcases Operation.bind_run_eq_ok_iff.mp rest with ⟨count, middle, -, finished⟩
        cases finished
        exact decoded

/-- A task count that cannot be read is reported, not an error. -/
theorem reportTaskCount_ne_err {location : TaskInfoLocation} {error : Error} :
    reportTaskCount server device location link ≠ (.err error, last) := by
  intro ran
  unfold reportTaskCount at ran
  split at ran <;> cases ran

/-- Once the bytes of the symbol have arrived, a sample is taken without an error. -/
theorem TaskInfoReader.read_ne_err {reader : TaskInfoReader} {bytes : List UInt8}
    {after : Link S} {error : Error} (target : device.addr = reader.target)
    (arrived : readExact server device reader.taskInfo.indexGroup reader.taskInfo.indexOffset
      (List.replicate reader.taskInfo.size 0) link = (.ok bytes, after)) :
    reader.read server device reader.symbolGeneration link ≠ (.err error, last) := by
  have size := length_of_readExact arrived
  rw [List.length_replicate] at size
  obtain ⟨tasks, decoded⟩ := reader.decodes size
  intro ran
  have sampled := Operation.ofOutcome_run (.ok tasks) after
  unfold TaskInfoReader.read at ran
  rw [if_neg (not_not.mpr rfl), if_neg (not_not.mpr target), Operation.bind_run_ok arrived,
    decoded, Operation.bind_run_ok sampled] at ran
  cases known : reader.appInfo with
  | none =>
      simp only [known] at ran
      cases ran
  | some location =>
      simp only [known] at ran
      cases counted : reportTaskCount server device location after with
      | mk outcome middle =>
          cases outcome with
          | ok count =>
              rw [Operation.bind_run_ok counted] at ran
              cases ran
          | err error => exact reportTaskCount_ne_err counted
          | panic =>
              rw [Operation.bind_run_panic counted] at ran
              cases ran

/-- Where the task count is makes no difference to the tasks. -/
theorem TaskInfoReader.decodeTasks_withAppInfo {reader configured : TaskInfoReader}
    {appInfo : TaskInfoLocation} (known : reader.withAppInfo appInfo = .ok configured) :
    configured.taskInfo = reader.taskInfo ∧
      configured.decodeTasks = reader.decodeTasks := by
  unfold TaskInfoReader.withAppInfo at known
  split at known
  · contradiction
  · cases known
    have loop : ∀ slot entries,
        ({ reader with appInfo := some appInfo } : TaskInfoReader).decodeFrom slot entries =
          reader.decodeFrom slot entries := by
      intro slot entries
      induction entries generalizing slot with
      | nil => rfl
      | cons entry entries ih => rw [TaskInfoReader.decodeFrom, TaskInfoReader.decodeFrom, ih]
    refine ⟨rfl, ?_⟩
    funext bytes
    rw [TaskInfoReader.decodeTasks, TaskInfoReader.decodeTasks]
    simp only [loop]

/-- With accepted metadata, every task of a sample is what the metadata says of the bytes that
the device returned. -/
theorem TaskInfoReader.read_describes {entry : TypeInfo} {layout : TaskInfoLayout}
    (accepted : TaskInfoLayout.fromEntryType entry = .ok layout) {target : AmsAddr}
    {symbolGeneration currentGeneration : UInt64} {taskInfo appInfo : TaskInfoLocation}
    {first lastIndex : Int32} {reader configured : TaskInfoReader}
    (made : TaskInfoReader.new target symbolGeneration taskInfo (first, lastIndex) layout =
      .ok reader) (known : reader.withAppInfo appInfo = .ok configured)
    {snapshot : PlcTaskInfoSnapshot}
    (ran : configured.read server device currentGeneration link = (.ok snapshot, last)) :
    ∃ bytes after, readExact server device taskInfo.indexGroup taskInfo.indexOffset
        (List.replicate taskInfo.size 0) link = (.ok bytes, after) ∧
      (snapshot.tasks.length : Int) = lastIndex.toInt - first.toInt + 1 ∧
      ∀ (k : Nat) (task : PlcTaskSystemInfo), snapshot.tasks[k]? = some task →
        task.index.toInt = first.toInt + k ∧ Describes entry bytes k task := by
  obtain ⟨sameInfo, sameDecode⟩ := TaskInfoReader.decodeTasks_withAppInfo known
  obtain ⟨isInfo, -, -, -⟩ := new_eq_ok made
  obtain ⟨-, -, bytes, after, exact, size, decoded⟩ := TaskInfoReader.read_eq_ok ran
  rw [sameInfo, isInfo] at exact size
  rw [sameDecode] at decoded
  obtain ⟨count, described⟩ := described_of_decoded accepted made size decoded
  exact ⟨bytes, after, exact, count, described⟩

end Samples

end Ads.TaskInfo
