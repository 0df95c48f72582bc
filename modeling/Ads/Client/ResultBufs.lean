import Ads.Bytes.Window
import Ads.Client.Communicate
import Ads.Client.Reader
import Ads.Control.Stateful

/-!
# The output buffers of `communicate`

`communicate` with the output buffers of its caller as the state that it writes
to, and what it leaves in them on each of its ways out.
-/

namespace Ads.Client

open Ads.Bytes Ads.Control Ads.Control.Stateful

/-- The slice of `count` bytes from `start` on.  A slice out of range panics. -/
def slice (bytes : List UInt8) (start count : Nat) : Outcome Error (List UInt8) :=
  if start ≤ bytes.length ∧ count ≤ bytes.length - start then .ok (window bytes start count)
  else .panic

/-- The loop that distributes the data, over the `left` output buffers from `index`
on. -/
def distributeLoop (respBuf : List UInt8) :
    Nat → Nat → Nat → Nat → Stateful (List (List UInt8)) Error Unit
  | 0, _, _, _ => pure ()
  | left + 1, index, taken, restLen => do
      let buf ← gets fun bufs => bufs.getD index []
      let n := min buf.length restLen
      let b ← lift (slice respBuf taken n)
      modify fun bufs => bufs.set index (b ++ buf.drop n)
      if restLen - n = 0 then pure ()
      else distributeLoop respBuf left (index + 1) (taken + n) (restLen - n)

/-- Validate the reply to a request, and distribute its data into the output
buffers. -/
def settleReplyInto (cmd : Command) (target : AmsAddr) (invokeId : UInt32)
    (respHeader : AdsHeader) (respBuf : List UInt8) : Stateful (List (List UInt8)) Error Nat := do
  let action := cmd.action
  failIf (respHeader.src ≠ target)
    (.reply action "response wasn't from commanded target" 0)
  failIf (respHeader.command ≠ cmd.toU16)
    (.reply action "unexpected command" respHeader.command.toUInt32)
  failIf (respHeader.stateFlags ≠ 5)
    (.reply action "unexpected state flags" respHeader.stateFlags.toUInt32)
  failIf (respHeader.invokeId ≠ invokeId)
    (.reply action "unexpected invoke ID" respHeader.invokeId)
  failIf (respHeader.errorCode ≠ 0) (adsError action respHeader.errorCode)
  let result ← lift (checkedU32 respBuf)
  failIf (result ≠ 0) (adsError action result)
  let resultBufs ← gets id
  match resultBufs with
  | [] => pure 0
  | first :: others => do
      failIf (respBuf.length < first.length + 4)
        (.reply action "got less data than expected" (UInt32.ofNat respBuf.length))
      let data := respBuf.drop 4
      distributeLoop data (others.length + 1) 0 0 data.length
      pure data.length

/-- Execute an ADS command.  What comes between the assembled request and the reply,
or the error that takes its place, is up to the `exchange`. -/
def communicateInto (source : AmsAddr) (cmd : Command) (target : AmsAddr)
    (payloadBufs : List (List UInt8)) (invokeId : UInt32)
    (exchange : List UInt8 → Except Error (AdsHeader × List UInt8)) :
    Stateful (List (List UInt8)) Error Nat := do
  let resultBufs ← gets id
  match assembleRequest source ⟨cmd, target, payloadBufs, resultBufs⟩ invokeId with
  | .error error => fail error
  | .ok requestBuf =>
      match exchange requestBuf with
      | .error error => fail error
      | .ok (respHeader, respBuf) => settleReplyInto cmd target invokeId respHeader respBuf

/-! ## The loop -/

/-- The loop fills the buffers that are left as `distribute` does. -/
theorem distributeLoop_run {respBuf : List UInt8} {taken restLen : Nat}
    (rest : taken + restLen = respBuf.length) (done left : List (List UInt8)) :
    distributeLoop respBuf left.length done.length taken restLen (done ++ left) =
      (.ok (), done ++ distribute respBuf left taken restLen) := by
  induction left generalizing done taken restLen with
  | nil => rfl
  | cons buf left ih =>
      have here : (done ++ buf :: left).getD done.length [] = buf := by simp
      have inRange : slice respBuf taken (min buf.length restLen) =
          .ok (window respBuf taken (min buf.length restLen)) :=
        if_pos ⟨by omega, by omega⟩
      have written : ∀ filled, (done ++ buf :: left).set done.length filled =
          done ++ filled :: left := by simp
      have read : lift (slice respBuf taken (min buf.length restLen)) (done ++ buf :: left) =
          (.ok (window respBuf taken (min buf.length restLen)), done ++ buf :: left) :=
        congrArg (·, _) inRange
      rw [List.length_cons, distributeLoop, gets_bind_run, here, bind_run_ok read, modify_bind_run,
        written, distribute]
      by_cases exhausted : restLen - min buf.length restLen = 0
      · rw [if_pos exhausted, if_pos exhausted]
        rfl
      · have next := @ih (taken + min buf.length restLen)
          (restLen - min buf.length restLen) (by omega)
          (done ++ [window respBuf taken (min buf.length restLen) ++
            buf.drop (min buf.length restLen)])
        rw [List.append_assoc, List.append_assoc, List.length_append] at next
        rw [if_neg exhausted, if_neg exhausted]
        exact next

theorem noError_distributeLoop (respBuf : List UInt8) (left index taken restLen : Nat) :
    NoError (distributeLoop respBuf left index taken restLen) := by
  induction left generalizing index taken restLen with
  | zero => exact noError_pure ()
  | succ left ih =>
      apply (noError_gets _).bind
      intro buf
      have sliced : ∀ error, slice respBuf taken (min buf.length restLen) ≠ .err error := by
        intro error
        unfold slice
        split <;> exact fun equal => by cases equal
      apply (noError_lift sliced).bind
      intro b
      apply (noError_modify _).bind
      intro _
      split
      · exact noError_pure ()
      · exact ih _ _ _

/-! ## The ways out -/

/-- All checks come before the first write. -/
theorem atomic_settleReplyInto (cmd : Command) (target : AmsAddr) (invokeId : UInt32)
    (respHeader : AdsHeader) (respBuf : List UInt8) :
    Atomic (settleReplyInto cmd target invokeId respHeader respBuf) := by
  unfold settleReplyInto
  apply (keeps_failIf _ _).bind_atomic
  intro _
  apply (keeps_failIf _ _).bind_atomic
  intro _
  apply (keeps_failIf _ _).bind_atomic
  intro _
  apply (keeps_failIf _ _).bind_atomic
  intro _
  apply (keeps_failIf _ _).bind_atomic
  intro _
  apply (keeps_lift _).bind_atomic
  intro result
  apply (keeps_failIf _ _).bind_atomic
  intro _
  apply (keeps_gets _).bind_atomic
  intro resultBufs
  cases resultBufs with
  | nil => exact (keeps_pure 0).atomic
  | cons first others =>
      apply (keeps_failIf _ _).bind_atomic
      intro _
      apply NoError.atomic
      exact (noError_distributeLoop _ _ _ _ _).bind fun _ => noError_pure _

/-- An accepted reply is settled as `settleReply` does. -/
theorem settleReply_of_into {cmd : Command} {target : AmsAddr} {invokeId : UInt32}
    {respHeader : AdsHeader} {respBuf : List UInt8} {resultBufs after : List (List UInt8)}
    {count : Nat}
    (ran : settleReplyInto cmd target invokeId respHeader respBuf resultBufs =
      (.ok count, after)) (payloadBufs : List (List UInt8)) :
    settleReply ⟨cmd, target, payloadBufs, resultBufs⟩ invokeId respHeader respBuf =
      .ok ⟨count, after⟩ := by
  rw [settleReplyInto] at ran
  rcases failIf_bind_run_eq_ok_iff.mp ran with ⟨src, rest⟩
  rcases failIf_bind_run_eq_ok_iff.mp rest with ⟨command, rest⟩
  rcases failIf_bind_run_eq_ok_iff.mp rest with ⟨flags, rest⟩
  rcases failIf_bind_run_eq_ok_iff.mp rest with ⟨id, rest⟩
  rcases failIf_bind_run_eq_ok_iff.mp rest with ⟨code, rest⟩
  rcases lift_bind_run_eq_ok_iff.mp rest with ⟨result, word, rest⟩
  have long : ¬ respBuf.length < 4 := by
    intro short
    rw [checkedU32, if_neg (Nat.not_le_of_lt short)] at word
    cases word
  rw [checkedU32, if_pos (Nat.le_of_not_lt long)] at word
  cases word
  rcases failIf_bind_run_eq_ok_iff.mp rest with ⟨zero, rest⟩
  rw [gets_bind_run] at rest
  unfold settleReply
  dsimp only
  rw [if_neg src, if_neg command, if_neg flags, if_neg id, if_neg code, if_neg long,
    if_neg zero]
  cases resultBufs with
  | nil =>
      cases rest
      rfl
  | cons first others =>
      rcases failIf_bind_run_eq_ok_iff.mp rest with ⟨enough, rest⟩
      have looped := @distributeLoop_run (respBuf.drop 4) 0 (respBuf.drop 4).length
        (Nat.zero_add _) [] (first :: others)
      rcases bind_run_eq_ok_iff.mp rest with ⟨_, _, distributed, last⟩
      cases looped.symm.trans distributed
      cases last
      exact if_neg enough

/-- What an accepted reply says of the output buffers. -/
theorem settleReply_scatters {request : Request} {invokeId : UInt32} {respHeader : AdsHeader}
    {respBuf : List UInt8} {received : Received} {first : List UInt8}
    {others : List (List UInt8)} (bufs : request.resultBufs = first :: others)
    (accepted : settleReply request invokeId respHeader respBuf = .ok received) :
    first.length + 4 ≤ respBuf.length ∧ received.count = respBuf.length - 4 ∧
      received.bufs = scatter (first :: others) (respBuf.drop 4) := by
  obtain ⟨src, command, flags, id, code, long, result⟩ := settleReply_ok accepted
  unfold settleReply at accepted
  dsimp only at accepted
  rw [if_neg (not_not.mpr src), if_neg (not_not.mpr command), if_neg (not_not.mpr flags),
    if_neg (not_not.mpr id), if_neg (not_not.mpr code), if_neg (Nat.not_lt_of_le long),
    if_neg (not_not.mpr result), bufs] at accepted
  dsimp only at accepted
  rcases Outcome.ite_err_eq_ok_iff.mp accepted with ⟨enough, accepted⟩
  cases accepted
  refine ⟨Nat.le_of_not_lt enough, List.length_drop, ?_⟩
  rw [distribute_eq_scatter (Nat.zero_add _), List.drop_zero]

/-- The output buffers keep their sizes. -/
theorem settleReply_lengths {request : Request} {invokeId : UInt32} {respHeader : AdsHeader}
    {respBuf : List UInt8} {received : Received}
    (accepted : settleReply request invokeId respHeader respBuf = .ok received) :
    received.bufs.map List.length = request.resultBufs.map List.length := by
  cases bufs : request.resultBufs with
  | nil =>
      obtain ⟨src, command, flags, id, code, long, result⟩ := settleReply_ok accepted
      unfold settleReply at accepted
      dsimp only at accepted
      rw [if_neg (not_not.mpr src), if_neg (not_not.mpr command), if_neg (not_not.mpr flags),
        if_neg (not_not.mpr id), if_neg (not_not.mpr code), if_neg (Nat.not_lt_of_le long),
        if_neg (not_not.mpr result), bufs] at accepted
      cases accepted
      rfl
  | cons first others =>
      rcases settleReply_scatters bufs accepted with ⟨-, -, filled⟩
      rw [filled, map_length_scatter]

/-- When `communicate` fails, the output buffers are as they were.  When it succeeds, it has
sent its request, and it returns the length of the reply's data, which fills the first buffer
at least, and the buffers, read through, begin with the data and go on as they were. -/
theorem communicate_fills (source : AmsAddr) (cmd : Command) (target : AmsAddr)
    (payloadBufs : List (List UInt8)) (invokeId : UInt32)
    (exchange : List UInt8 → Except Error (AdsHeader × List UInt8))
    (resultBufs : List (List UInt8)) :
    (∀ error after, communicateInto source cmd target payloadBufs invokeId exchange resultBufs =
        (.err error, after) → after = resultBufs) ∧
      ∀ k after, communicateInto source cmd target payloadBufs invokeId exchange resultBufs =
          (.ok k, after) →
        ∃ requestBuf respHeader respBuf,
          assembleRequest source ⟨cmd, target, payloadBufs, resultBufs⟩ invokeId =
              .ok requestBuf ∧
          exchange requestBuf = .ok (respHeader, respBuf) ∧
          after.map List.length = resultBufs.map List.length ∧
          ∀ first others, resultBufs = first :: others →
            4 ≤ respBuf.length ∧ k = respBuf.length - 4 ∧ first.length ≤ k ∧
              after.flatten.take (min k resultBufs.flatten.length) =
                (respBuf.drop 4).take (min k resultBufs.flatten.length) ∧
              after.flatten.drop (min k resultBufs.flatten.length) =
                resultBufs.flatten.drop (min k resultBufs.flatten.length) := by
  constructor
  · have atomic : Atomic (communicateInto source cmd target payloadBufs invokeId exchange) := by
      apply (keeps_gets _).bind_atomic
      intro bufs
      cases assembleRequest source ⟨cmd, target, payloadBufs, bufs⟩ invokeId with
      | error error => exact (keeps_fail error).atomic
      | ok requestBuf =>
          dsimp only
          cases exchange requestBuf with
          | error error => exact (keeps_fail error).atomic
          | ok reply => exact atomic_settleReplyInto _ _ _ _ _
    exact atomic resultBufs
  · intro k after ran
    rw [communicateInto, gets_bind_run] at ran
    cases assembled : assembleRequest source ⟨cmd, target, payloadBufs, resultBufs⟩ invokeId with
    | error error =>
        rw [id, assembled] at ran
        cases ran
    | ok requestBuf =>
        rw [id, assembled] at ran
        dsimp only at ran
        cases exchanged : exchange requestBuf with
        | error error =>
            rw [exchanged] at ran
            cases ran
        | ok reply =>
            rcases reply with ⟨respHeader, respBuf⟩
            rw [exchanged] at ran
            have accepted := settleReply_of_into ran payloadBufs
            refine ⟨requestBuf, respHeader, respBuf, rfl, exchanged, ?_, ?_⟩
            · exact settleReply_lengths accepted
            · intro first others bufs
              rcases settleReply_scatters bufs accepted with ⟨enough, count, filled⟩
              dsimp only at count filled
              rw [← bufs] at filled
              have size : (respBuf.drop 4).length = k := by rw [List.length_drop, count]
              rw [filled, flatten_scatter, ← size]
              refine ⟨by omega, by omega, by omega, ?_, ?_⟩
              · exact take_overlay (Nat.min_le_left _ _) (Nat.min_le_right _ _)
              · exact drop_overlay _ _

/-- The header of a reply to the read request with invoke id 7. -/
def filledReply : AdsHeader where
  amsCmd := 0
  length := 39
  destNetid := .new 1 1 1 1 1 1
  destPort := 800
  srcNetid := .new 2 2 2 2 2 2
  srcPort := 851
  command := 2
  stateFlags := 5
  dataLength := 7
  errorCode := 0
  invokeId := 7

/-- Three bytes for two buffers of two. -/
theorem twoBuffers_filled :
    let request : Request := ⟨.read, filledReply.src, [[1, 0, 0, 0]], [[9, 9], [8, 8]]⟩
    let exchange : List UInt8 → Except Error (AdsHeader × List UInt8) := fun requestBuf =>
      if requestBuf.length = 42 then .ok (filledReply, [0, 0, 0, 0, 1, 2, 3])
      else .error (.io "waiting for response to dispatched request" .timedOut)
    ∃ after, communicateInto filledReply.dest request.cmd request.target request.payloadBufs 7
        exchange request.resultBufs = (.ok 3, after) ∧
      after.flatten.take 3 = [1, 2, 3] ∧ after.flatten.drop 3 = [8] := by
  intro request exchange
  have ran : communicateInto filledReply.dest request.cmd request.target request.payloadBufs 7
      exchange request.resultBufs = (.ok 3, [[1, 2], [3, 8]]) := by decide +kernel
  obtain ⟨requestBuf, respHeader, respBuf, assembled, exchanged, -, filled⟩ :=
    (communicate_fills filledReply.dest request.cmd request.target request.payloadBufs 7 exchange
      request.resultBufs).2 3 _ ran
  have length : requestBuf.length = 42 := by
    cases assembled
    decide
  rw [show exchange requestBuf = .ok (filledReply, [0, 0, 0, 0, 1, 2, 3]) from if_pos length]
    at exchanged
  cases exchanged
  obtain ⟨-, -, -, data, kept⟩ := filled [9, 9] [[8, 8]] rfl
  exact ⟨_, ran, data, kept⟩

end Ads.Client
