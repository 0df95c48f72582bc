import Ads.Bytes.Scatter
import Ads.Client.Header
import Ads.Errors

/-!
# Executing a command

The two halves of `communicate` around the exchange with the server: assembling
the request, and validating the reply and distributing its data.
-/

namespace Ads.Client

open Ads.Bytes Ads.Control

/-- The arguments of `communicate`: input buffers to send and output buffers to
fill. -/
structure Request where
  cmd : Command
  target : AmsAddr
  payloadBufs : List (List UInt8)
  resultBufs : List (List UInt8)

/-- The header of an outgoing request. -/
def requestHeader (source : AmsAddr) (request : Request) (invokeId : UInt32) : AdsHeader where
  amsCmd := 0
  length := UInt32.ofNat (amsHeaderSize + (request.payloadBufs.map List.length).sum)
  destNetid := request.target.netid
  destPort := request.target.port
  srcNetid := source.netid
  srcPort := source.port
  command := request.cmd.toU16
  stateFlags := 4
  dataLength := UInt32.ofNat (request.payloadBufs.map List.length).sum
  errorCode := 0
  invokeId := invokeId

/-- The bytes of an outgoing request: the header and the sum of all input
buffers.  A length that does not fit its field is an error. -/
def assembleRequest (source : AmsAddr) (request : Request) (invokeId : UInt32) :
    Except Error (List UInt8) :=
  let payloadLen := (request.payloadBufs.map List.length).sum
  let adsDataLen := amsHeaderSize + payloadLen
  if adsDataLen < 2 ^ 32 then
    .ok ((requestHeader source request invokeId).asBytes ++ request.payloadBufs.flatten)
  else .error .overflow

/-- Distribute the data into the output buffers, from `taken` on, up to the
`restLen` bytes that are left of it. -/
def distribute (respBuf : List UInt8) :
    List (List UInt8) → Nat → Nat → List (List UInt8)
  | [], _, _ => []
  | buf :: bufs, taken, restLen =>
      let n := min buf.length restLen
      let b := (respBuf.drop taken).take n
      let filled := b ++ buf.drop n
      if restLen - n = 0 then filled :: bufs
      else filled :: distribute respBuf bufs (taken + n) (restLen - n)

/-- What `communicate` leaves to its caller: the number of valid bytes, and the
output buffers. -/
structure Received where
  count : Nat
  bufs : List (List UInt8)
  deriving DecidableEq

/-- Validate the reply to a request and distribute its data. -/
def settleReply (request : Request) (invokeId : UInt32) (respHeader : AdsHeader)
    (respBuf : List UInt8) : Outcome Error Received :=
  let action := request.cmd.action
  if respHeader.src ≠ request.target then
    .err (.reply action "response wasn't from commanded target" 0)
  else if respHeader.command ≠ request.cmd.toU16 then
    .err (.reply action "unexpected command" respHeader.command.toUInt32)
  else if respHeader.stateFlags ≠ 5 then
    .err (.reply action "unexpected state flags" respHeader.stateFlags.toUInt32)
  else if respHeader.invokeId ≠ invokeId then
    .err (.reply action "unexpected invoke ID" respHeader.invokeId)
  else if respHeader.errorCode ≠ 0 then
    .err (adsError action respHeader.errorCode)
  else if respBuf.length < 4 then
    .panic -- the slice that holds the result word
  else if leU32 respBuf ≠ 0 then
    .err (adsError action (leU32 respBuf))
  else
    match request.resultBufs with
    | [] => .ok ⟨0, []⟩
    | first :: others =>
        if respBuf.length < first.length + 4 then
          .err (.reply action "got less data than expected" (UInt32.ofNat respBuf.length))
        else
          let data := respBuf.drop 4
          .ok ⟨data.length, distribute data (first :: others) 0 data.length⟩

/-! ## What the reply means to the caller -/

/-- The loop of `communicate` scatters the data over the output buffers. -/
theorem distribute_eq_scatter {respBuf : List UInt8} {bufs : List (List UInt8)}
    {taken restLen : Nat} (rest : taken + restLen = respBuf.length) :
    distribute respBuf bufs taken restLen = scatter bufs (respBuf.drop taken) := by
  induction bufs generalizing taken restLen with
  | nil => rfl
  | cons buf bufs ih =>
      have size : (respBuf.drop taken).length = restLen := by
        rw [List.length_drop]
        omega
      have filled : (respBuf.drop taken).take (min buf.length restLen) ++
          buf.drop (min buf.length restLen) = overlay (respBuf.drop taken) buf := by
        rw [overlay, size]
        rcases Nat.le_total buf.length restLen with full | short
        · rw [Nat.min_eq_left full, List.drop_length, List.drop_eq_nil_of_le full]
        · rw [Nat.min_eq_right short, List.take_of_length_le size.le,
            List.take_of_length_le (size.le.trans short)]
      rw [distribute, scatter_cons, List.drop_drop, filled]
      split
      · rename_i exhausted
        have nothing : respBuf.drop (taken + buf.length) = [] := by
          apply List.drop_eq_nil_of_le
          omega
        rw [nothing, scatter_empty]
      · rename_i more
        have whole : min buf.length restLen = buf.length := by omega
        rw [whole, ih (by omega)]

theorem assembleRequest_eq_error {source : AmsAddr} {request : Request} {invokeId : UInt32}
    {error : Error} (failed : assembleRequest source request invokeId = .error error) :
    error = .overflow := by
  unfold assembleRequest at failed
  dsimp only at failed
  split at failed
  · cases failed
  · exact (Except.error.inj failed).symm

/-- A reply that is accepted comes from the target, answers the command, and
carries the request's invoke id and a result of zero. -/
theorem settleReply_ok {request : Request} {invokeId : UInt32} {respHeader : AdsHeader}
    {respBuf : List UInt8} {received : Received}
    (accepted : settleReply request invokeId respHeader respBuf = .ok received) :
    respHeader.src = request.target ∧ respHeader.command = request.cmd.toU16 ∧
      respHeader.stateFlags = 5 ∧ respHeader.invokeId = invokeId ∧
      respHeader.errorCode = 0 ∧ 4 ≤ respBuf.length ∧ leU32 respBuf = 0 := by
  unfold settleReply at accepted
  rcases Outcome.ite_err_eq_ok_iff.mp accepted with ⟨src, accepted⟩
  rcases Outcome.ite_err_eq_ok_iff.mp accepted with ⟨command, accepted⟩
  rcases Outcome.ite_err_eq_ok_iff.mp accepted with ⟨flags, accepted⟩
  rcases Outcome.ite_err_eq_ok_iff.mp accepted with ⟨id, accepted⟩
  rcases Outcome.ite_err_eq_ok_iff.mp accepted with ⟨code, accepted⟩
  rcases Outcome.ite_panic_eq_ok_iff.mp accepted with ⟨long, accepted⟩
  rcases Outcome.ite_err_eq_ok_iff.mp accepted with ⟨result, -⟩
  exact ⟨not_not.mp src, not_not.mp command, not_not.mp flags, not_not.mp id, not_not.mp code,
    Nat.le_of_not_lt long, not_not.mp result⟩

end Ads.Client
