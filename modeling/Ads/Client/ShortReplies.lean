import Ads.Client.Device
import Ads.Client.ResultBufs

/-!
# Replies without a result word

The result word is sliced off a reply before the reply's length is looked at.  The
check of the length, which is there to ensure that there is a result word, comes too
late for that.
-/

namespace Ads.Client

open Ads.Bytes Ads.Control Ads.Control.Stateful

/-- A reply passes every check before its result word, and has no result word. -/
structure LacksResult (cmd : Command) (target : AmsAddr) (invokeId : UInt32)
    (respHeader : AdsHeader) (respBuf : List UInt8) : Prop where
  src : respHeader.src = target
  command : respHeader.command = cmd.toU16
  stateFlags : respHeader.stateFlags = 5
  invokeId : respHeader.invokeId = invokeId
  errorCode : respHeader.errorCode = 0
  short : respBuf.length < 4

theorem checkedU32_eq_panic_iff {bytes : List UInt8} :
    checkedU32 bytes = .panic ↔ bytes.length < 4 := by
  rw [checkedU32]
  split
  · rename_i enough
    exact ⟨fun done => by contradiction, fun short => absurd enough (Nat.not_le_of_lt short)⟩
  · rename_i short
    exact ⟨fun _ => Nat.lt_of_not_le short, fun _ => rfl⟩

/-- The loop that distributes the data never slices out of range. -/
theorem distribution_returns (resultBufs : List (List UInt8)) (data : List UInt8) :
    ((distributeLoop data resultBufs.length 0 0 data.length) resultBufs).1 = .ok () := by
  have looped := @distributeLoop_run data 0 data.length (Nat.zero_add _) [] resultBufs
  exact congrArg Prod.fst looped

/-- Settling a reply panics exactly at the result word. -/
theorem settleReplyInto_panics_iff {cmd : Command} {target : AmsAddr} {invokeId : UInt32}
    {respHeader : AdsHeader} {respBuf : List UInt8} {resultBufs : List (List UInt8)} :
    (settleReplyInto cmd target invokeId respHeader respBuf resultBufs).1 = .panic ↔
      LacksResult cmd target invokeId respHeader respBuf := by
  rw [settleReplyInto]
  constructor
  · intro panicked
    obtain ⟨src, panicked⟩ := failIf_bind_run_panics_iff.mp panicked
    obtain ⟨command, panicked⟩ := failIf_bind_run_panics_iff.mp panicked
    obtain ⟨flags, panicked⟩ := failIf_bind_run_panics_iff.mp panicked
    obtain ⟨id, panicked⟩ := failIf_bind_run_panics_iff.mp panicked
    obtain ⟨code, panicked⟩ := failIf_bind_run_panics_iff.mp panicked
    rcases lift_bind_run_panics_iff.mp panicked with word | ⟨result, -, panicked⟩
    · exact ⟨not_not.mp src, not_not.mp command, not_not.mp flags, not_not.mp id,
        not_not.mp code, checkedU32_eq_panic_iff.mp word⟩
    · obtain ⟨zero, panicked⟩ := failIf_bind_run_panics_iff.mp panicked
      rw [gets_bind_run] at panicked
      cases resultBufs with
      | nil => cases panicked
      | cons first others =>
          obtain ⟨enough, panicked⟩ := failIf_bind_run_panics_iff.mp panicked
          rcases bind_run_panics_iff.mp panicked with distributed | ⟨done, after, -, returned⟩
          · have returns := distribution_returns (first :: others) (respBuf.drop 4)
            cases returns.symm.trans distributed
          · cases returned
  · intro lacks
    apply failIf_bind_run_panics_iff.mpr
    refine ⟨not_not.mpr lacks.src, failIf_bind_run_panics_iff.mpr ?_⟩
    refine ⟨not_not.mpr lacks.command, failIf_bind_run_panics_iff.mpr ?_⟩
    refine ⟨not_not.mpr lacks.stateFlags, failIf_bind_run_panics_iff.mpr ?_⟩
    refine ⟨not_not.mpr lacks.invokeId, failIf_bind_run_panics_iff.mpr ?_⟩
    refine ⟨not_not.mpr lacks.errorCode, lift_bind_run_panics_iff.mpr (Or.inl ?_)⟩
    exact checkedU32_eq_panic_iff.mpr lacks.short

/-- Executing a command panics exactly if the request is sent, and the reply that comes
passes the checks of its header, reports no error and has less than a result word. -/
theorem communicateInto_returns_iff (source : AmsAddr) (cmd : Command) (target : AmsAddr)
    (payloadBufs : List (List UInt8)) (invokeId : UInt32)
    (exchange : List UInt8 → Except Error (AdsHeader × List UInt8))
    (resultBufs : List (List UInt8)) :
    (communicateInto source cmd target payloadBufs invokeId exchange resultBufs).1 ≠ .panic ↔
      ∀ requestBuf respHeader respBuf,
        assembleRequest source ⟨cmd, target, payloadBufs, resultBufs⟩ invokeId =
            .ok requestBuf →
          exchange requestBuf = .ok (respHeader, respBuf) →
            ¬LacksResult cmd target invokeId respHeader respBuf := by
  rw [communicateInto, gets_bind_run, id]
  cases assembled : assembleRequest source ⟨cmd, target, payloadBufs, resultBufs⟩ invokeId with
  | error error =>
      constructor
      · intro _ requestBuf respHeader respBuf sent
        cases sent
      · intro _ panicked
        cases panicked
  | ok requestBuf =>
      dsimp only
      cases exchanged : exchange requestBuf with
      | error error =>
          constructor
          · rintro - _ respHeader respBuf ⟨⟩ received
            cases exchanged.symm.trans received
          · intro _ panicked
            cases panicked
      | ok reply =>
          rcases reply with ⟨respHeader, respBuf⟩
          rw [Ne, settleReplyInto_panics_iff]
          constructor
          · rintro returns _ other payload ⟨⟩ received
            cases exchanged.symm.trans received
            exact returns
          · intro returns
            exact returns requestBuf respHeader respBuf rfl exchanged

/-- A read whose reply is a header alone, as the reader delivers it, makes the caller panic. -/
theorem communicateInto_short_reply :
    let address : AmsAddr := ⟨⟨[5, 1, 2, 3, 1, 1], rfl⟩, 851⟩
    let header := answerHeader address ⟨.read, address, [], []⟩ 1 ⟨0, []⟩
    (∃ after, readerTurn address ((∅ : PendingMap).insert 1 0) (fun _ => true) none
        header.asBytes = .continued [] after (.replied 0 header [])) ∧
      (communicateInto address .read address [] 1 (fun _ => .ok (header, []))
        [u32Bytes 0]).1 = .panic :=
  ⟨⟨_, rfl⟩, rfl⟩

end Ads.Client
