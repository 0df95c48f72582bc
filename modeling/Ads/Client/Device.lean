import Ads.Client.Communicate
import Ads.Client.Requests

/-!
# Reading and writing

The read and write commands of a device, over a link whose server answers each
command with one reply.
-/

namespace Ads.Client

open Ads.Bytes Ads.Control

/-- What a server answers to a command: the error code of the header and the
payload. -/
structure Reply where
  errorCode : UInt32
  payload : List UInt8
  deriving DecidableEq

/-- A server over the states `S`: what it does with a command and its payload. -/
structure Server (S : Type) where
  handle : S → Command → List UInt8 → S × Reply

/-- The client's invoke id, the server's state, and the commands that the server
has seen so far with their payloads. -/
structure Link (S : Type) where
  invokeId : UInt32
  server : S
  seen : List (Command × List UInt8)
  deriving DecidableEq

/-- A fallible operation over a link.  What the server did stays done when the
operation fails. -/
def Operation (S α : Type) : Type :=
  Link S → Outcome Error α × Link S

namespace Operation

variable {S α β : Type}

instance : Monad (Operation S) where
  pure value := fun link => (.ok value, link)
  bind first next := fun link =>
    match first link with
    | (.ok value, after) => next value after
    | (.err error, after) => (.err error, after)
    | (.panic, after) => (.panic, after)

/-- A computation that does not use the link. -/
def ofOutcome (outcome : Outcome Error α) : Operation S α :=
  fun link => (outcome, link)

@[simp]
theorem pure_run (value : α) (link : Link S) :
    (pure value : Operation S α) link = (.ok value, link) :=
  rfl

@[simp]
theorem ofOutcome_run (outcome : Outcome Error α) (link : Link S) :
    (ofOutcome outcome : Operation S α) link = (outcome, link) :=
  rfl

theorem bind_run_ok {first : Operation S α} {next : α → Operation S β} {link after : Link S}
    {value : α} (ran : first link = (.ok value, after)) :
    (first >>= next) link = next value after := by
  change (match first link with
    | (.ok value, after) => next value after
    | (.err error, after) => (.err error, after)
    | (.panic, after) => (.panic, after)) = next value after
  rw [ran]

theorem bind_run_err {first : Operation S α} {next : α → Operation S β} {link after : Link S}
    {error : Error} (ran : first link = (.err error, after)) :
    (first >>= next) link = (.err error, after) := by
  change (match first link with
    | (.ok value, after) => next value after
    | (.err error, after) => (.err error, after)
    | (.panic, after) => (.panic, after)) = (.err error, after)
  rw [ran]

theorem bind_run_panic {first : Operation S α} {next : α → Operation S β} {link after : Link S}
    (ran : first link = (.panic, after)) : (first >>= next) link = (.panic, after) := by
  change (match first link with
    | (.ok value, after) => next value after
    | (.err error, after) => (.err error, after)
    | (.panic, after) => (.panic, after)) = (.panic, after)
  rw [ran]

/-- A sequence succeeds exactly when each half does. -/
theorem bind_run_eq_ok_iff {first : Operation S α} {next : α → Operation S β}
    {link last : Link S} {result : β} :
    (first >>= next) link = (.ok result, last) ↔
      ∃ value after, first link = (.ok value, after) ∧
        next value after = (.ok result, last) := by
  rcases ran : first link with ⟨outcome, after⟩
  cases outcome with
  | ok value =>
      rw [bind_run_ok ran]
      simp
  | err error =>
      rw [bind_run_err ran]
      simp
  | panic =>
      rw [bind_run_panic ran]
      simp

/-- A sequence panics exactly when its first half does, or its second half does on the
value of the first. -/
theorem bind_run_panics_iff {first : Operation S α} {next : α → Operation S β}
    {link : Link S} :
    (∃ last, (first >>= next) link = (.panic, last)) ↔
      (∃ last, first link = (.panic, last)) ∨
        ∃ value after last, first link = (.ok value, after) ∧
          next value after = (.panic, last) := by
  rcases ran : first link with ⟨outcome, after⟩
  cases outcome with
  | ok value =>
      rw [bind_run_ok ran]
      simp
  | err error =>
      rw [bind_run_err ran]
      simp
  | panic =>
      rw [bind_run_panic ran]
      simp

theorem ofOutcome_bind_run_panics_iff {outcome : Outcome Error α} {next : α → Operation S β}
    {link : Link S} :
    (∃ last, (ofOutcome outcome >>= next) link = (.panic, last)) ↔
      outcome = .panic ∨
        ∃ value, outcome = .ok value ∧ ∃ last, next value link = (.panic, last) := by
  rw [bind_run_panics_iff]
  cases outcome <;> simp

/-- A sequence goes on exactly after a computation that succeeds. -/
theorem ofOutcome_bind_run_eq_ok_iff {outcome : Outcome Error α} {next : α → Operation S β}
    {link last : Link S} {result : β} :
    (ofOutcome outcome >>= next) link = (.ok result, last) ↔
      ∃ value, outcome = .ok value ∧ next value link = (.ok result, last) := by
  rw [bind_run_eq_ok_iff]
  constructor
  · rintro ⟨value, after, ran, rest⟩
    rcases Prod.mk.inj ran with ⟨computed, same⟩
    subst same
    exact ⟨value, computed, rest⟩
  · rintro ⟨value, computed, rest⟩
    exact ⟨value, link, congrArg (·, link) computed, rest⟩

end Operation

/-- Issue requests one by one.  A request that fails does not keep the next ones
from being issued. -/
def inSequence {S R α : Type} (issue : R → Operation S α) :
    List R → Link S → List (Outcome Error α) × Link S
  | [], link => ([], link)
  | request :: requests, link =>
      let (outcome, after) := issue request link
      let (outcomes, last) := inSequence issue requests after
      (outcome :: outcomes, last)

/-- A number that has to fit into 32 bits. -/
def tryInto (value : Nat) : Outcome Error UInt32 :=
  if value < 2 ^ 32 then .ok (UInt32.ofNat value) else .err .overflow

/-- A device that is served over a link: its address, and the address of the
client. -/
structure Device where
  source : AmsAddr
  addr : AmsAddr

/-- The header of the server's reply to a request. -/
def answerHeader (source : AmsAddr) (request : Request) (invokeId : UInt32) (reply : Reply) :
    AdsHeader where
  amsCmd := 0
  length := UInt32.ofNat (amsHeaderSize + reply.payload.length)
  destNetid := source.netid
  destPort := source.port
  srcNetid := request.target.netid
  srcPort := request.target.port
  command := request.cmd.toU16
  stateFlags := 5
  dataLength := UInt32.ofNat reply.payload.length
  errorCode := reply.errorCode
  invokeId := invokeId

variable {S : Type} (server : Server S) (device : Device)

/-- Execute an ADS command on the device: send the sum of all input buffers, and
distribute the data of the reply over the output buffers. -/
def communicate (cmd : Command) (payloadBufs resultBufs : List (List UInt8)) :
    Operation S Received :=
  fun link =>
    let request : Request := ⟨cmd, device.addr, payloadBufs, resultBufs⟩
    match assembleRequest device.source request link.invokeId with
    | .error error => (.err error, { link with invokeId := link.invokeId + 1 })
    | .ok _ =>
        let payload := payloadBufs.flatten
        let (state, reply) := server.handle link.server cmd payload
        let header := answerHeader device.source request link.invokeId reply
        (settleReply request link.invokeId header reply.payload,
          { invokeId := link.invokeId + 1, server := state,
            seen := link.seen ++ [(cmd, payload)] })

/-- Read some data at a given index group and offset.  Returned data can be
shorter than the buffer, the length is the return value. -/
def read (indexGroup indexOffset : UInt32) (data : List UInt8) :
    Operation S (Nat × List UInt8) := do
  let length ← Operation.ofOutcome (tryInto data.length)
  let header : IndexLength := { indexGroup, indexOffset, length }
  let received ← communicate server device .read [header.asBytes] [u32Bytes 0, data]
  pure ((leU32 (received.bufs.getD 0 [])).toNat, received.bufs.getD 1 [])

/-- Write some data to a given index group and offset. -/
def write (indexGroup indexOffset : UInt32) (data : List UInt8) : Operation S Unit := do
  let length ← Operation.ofOutcome (tryInto data.length)
  let header : IndexLength := { indexGroup, indexOffset, length }
  let _ ← communicate server device .write [header.asBytes, data] []
  pure ()

/-- Write some data to a given index group and offset and then read back some
reply from there. -/
def writeRead (indexGroup indexOffset : UInt32) (writeData readData : List UInt8) :
    Operation S (Nat × List UInt8) := do
  let readLength ← Operation.ofOutcome (tryInto readData.length)
  let writeLength ← Operation.ofOutcome (tryInto writeData.length)
  let header : IndexLengthRW := { indexGroup, indexOffset, readLength, writeLength }
  let received ← communicate server device .readWrite [header.asBytes, writeData]
    [u32Bytes 0, readData]
  pure ((leU32 (received.bufs.getD 0 [])).toNat, received.bufs.getD 1 [])

/-! ## Exchanges -/

theorem tryInto_eq_ok_iff {value : Nat} {word : UInt32} :
    tryInto value = .ok word ↔ value < 2 ^ 32 ∧ word = UInt32.ofNat value := by
  unfold tryInto
  split
  · rename_i bound
    rw [Outcome.ok.injEq, eq_comm]
    exact (and_iff_right bound).symm
  · rename_i long
    constructor
    · intro ran
      cases ran
    · intro fits
      exact absurd fits.1 long

/-- What a caller learns from the reply to its own request. -/
def settled (cmd : Command) (resultBufs : List (List UInt8)) (reply : Reply) :
    Outcome Error Received :=
  if reply.errorCode ≠ 0 then .err (adsError cmd.action reply.errorCode)
  else if reply.payload.length < 4 then .panic
  else if leU32 reply.payload ≠ 0 then .err (adsError cmd.action (leU32 reply.payload))
  else
    match resultBufs with
    | [] => .ok ⟨0, []⟩
    | first :: others =>
        if reply.payload.length < first.length + 4 then
          .err (.reply cmd.action "got less data than expected"
            (UInt32.ofNat reply.payload.length))
        else
          .ok ⟨(reply.payload.drop 4).length, scatter (first :: others) (reply.payload.drop 4)⟩

/-- The checks of the header all pass on the reply to the request itself. -/
theorem settleReply_answerHeader (source : AmsAddr) (request : Request) (invokeId : UInt32)
    (reply : Reply) :
    settleReply request invokeId (answerHeader source request invokeId reply) reply.payload =
      settled request.cmd request.resultBufs reply := by
  have src : (answerHeader source request invokeId reply).src = request.target := rfl
  have command : (answerHeader source request invokeId reply).command = request.cmd.toU16 := rfl
  have flags : (answerHeader source request invokeId reply).stateFlags = 5 := rfl
  have id : (answerHeader source request invokeId reply).invokeId = invokeId := rfl
  have code : (answerHeader source request invokeId reply).errorCode = reply.errorCode := rfl
  unfold settleReply settled
  dsimp only
  rw [if_neg (not_not.mpr src), if_neg (not_not.mpr command), if_neg (not_not.mpr flags),
    if_neg (not_not.mpr id), code]
  cases buffers : request.resultBufs with
  | nil => rfl
  | cons first others =>
      dsimp only
      rw [distribute_eq_scatter (Nat.zero_add _), List.drop_zero]

/-- What an exchange leaves of the link: the server has seen the payload. -/
def Link.exchanged (link : Link S) (state : S) (cmd : Command) (payload : List UInt8) :
    Link S where
  invokeId := link.invokeId + 1
  server := state
  seen := link.seen ++ [(cmd, payload)]

variable {server : Server S} {device : Device}

/-- A request whose length fits its field is exchanged. -/
theorem communicate_run {cmd : Command} {payloadBufs resultBufs : List (List UInt8)}
    {link : Link S} {state : S} {reply : Reply}
    (short : amsHeaderSize + payloadBufs.flatten.length < 2 ^ 32)
    (handled : server.handle link.server cmd payloadBufs.flatten = (state, reply)) :
    communicate server device cmd payloadBufs resultBufs link =
      (settled cmd resultBufs reply, link.exchanged state cmd payloadBufs.flatten) := by
  have assembled : assembleRequest device.source ⟨cmd, device.addr, payloadBufs, resultBufs⟩
      link.invokeId = .ok ((requestHeader device.source ⟨cmd, device.addr, payloadBufs, resultBufs⟩
        link.invokeId).asBytes ++ payloadBufs.flatten) := by
    rw [List.length_flatten] at short
    exact if_pos short
  simp only [communicate, assembled, handled, settleReply_answerHeader]
  rfl

/-- A request whose length does not fit its field is refused. -/
theorem communicate_refused {cmd : Command} {payloadBufs resultBufs : List (List UInt8)}
    {link : Link S} (long : ¬amsHeaderSize + payloadBufs.flatten.length < 2 ^ 32) :
    communicate server device cmd payloadBufs resultBufs link =
      (.err .overflow, { link with invokeId := link.invokeId + 1 }) := by
  have refused : assembleRequest device.source ⟨cmd, device.addr, payloadBufs, resultBufs⟩
      link.invokeId = .error .overflow := by
    rw [List.length_flatten] at long
    exact if_neg long
  rw [communicate, refused]

/-- A request that is answered well was short enough to be sent. -/
theorem communicate_eq_ok {cmd : Command} {payloadBufs resultBufs : List (List UInt8)}
    {link after : Link S} {received : Received}
    (ran : communicate server device cmd payloadBufs resultBufs link = (.ok received, after)) :
    amsHeaderSize + payloadBufs.flatten.length < 2 ^ 32 ∧
      ∃ state reply, server.handle link.server cmd payloadBufs.flatten = (state, reply) ∧
        settled cmd resultBufs reply = .ok received ∧
        after = link.exchanged state cmd payloadBufs.flatten := by
  by_cases short : amsHeaderSize + payloadBufs.flatten.length < 2 ^ 32
  · rcases handled : server.handle link.server cmd payloadBufs.flatten with ⟨state, reply⟩
    rw [communicate_run short handled, Prod.mk.injEq] at ran
    exact ⟨short, state, reply, rfl, ran.1, ran.2.symm⟩
  · rw [communicate_refused short] at ran
    cases ran

/-- A reply is accepted exactly if it reports success and fills the first buffer, and its data
lies scattered over the output buffers. -/
theorem settled_cons_eq_ok_iff {cmd : Command} {first : List UInt8} {others : List (List UInt8)}
    {reply : Reply} {received : Received} :
    settled cmd (first :: others) reply = .ok received ↔
      reply.errorCode = 0 ∧ leU32 reply.payload = 0 ∧ first.length + 4 ≤ reply.payload.length ∧
        received = ⟨(reply.payload.drop 4).length,
          scatter (first :: others) (reply.payload.drop 4)⟩ := by
  rw [settled, Outcome.ite_err_eq_ok_iff, Outcome.ite_panic_eq_ok_iff, Outcome.ite_err_eq_ok_iff,
    Outcome.ite_err_eq_ok_iff, not_not, not_not, Outcome.ok.injEq]
  constructor
  · rintro ⟨code, -, result, enough, same⟩
    exact ⟨code, result, Nat.le_of_not_lt enough, same.symm⟩
  · rintro ⟨code, result, enough, same⟩
    exact ⟨code, by omega, result, Nat.not_lt_of_le enough, same.symm⟩

end Ads.Client
