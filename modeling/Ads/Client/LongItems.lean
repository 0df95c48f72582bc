import Ads.Client.CutReplies

/-!
# Items longer than their buffers

The items of a sum-up reply say how many bytes they return, and nothing compares that
with the buffers until the bytes are moved into place or handed to the caller.
-/

namespace Ads.Client

open Ads.Bytes Ads.Control

/-- A successful result has no more bytes than the buffer. -/
def ResultLength.Within (res : ResultLength) (rbuf : List UInt8) : Prop :=
  res.result = 0 → res.length.toNat ≤ rbuf.length

/-- The record of an item, over what stood in its place. -/
def Reply.record (reply : Reply) (index : Nat) (held : ResultLength) : ResultLength :=
  .ofBytes (overlay (reply.bytes.drop (8 * index)) held.asBytes)

/-- The caller gets the data or an error, and the data is the front of the buffer. -/
def Readable (data : Outcome Error (List UInt8)) (rbuf : List UInt8) : Prop :=
  data ≠ .panic ∧ ∀ bytes, data = .ok bytes → bytes <+: rbuf

/-- A call over a list of requests returns, and the data of each request can be read then.
A call that fails has not touched the requests. -/
def Survives {R : Type} (data : R → Outcome Error (List UInt8)) (rbuf : R → List UInt8)
    (requests : List R) : Outcome Error (List R) → Prop
  | .ok after => ∀ request ∈ after, Readable (data request) (rbuf request)
  | .err _ => ∀ request ∈ requests, Readable (data request) (rbuf request)
  | .panic => False

variable {reply : Reply} {device : Device} {link : Link Unit}

/-! ## Reading one item -/

theorem readable_returnedData_iff {action : String} {res : ResultLength} {rbuf : List UInt8} :
    Readable (returnedData action res rbuf) rbuf ↔ res.Within rbuf := by
  constructor
  · rintro ⟨returns, -⟩ success
    by_contra long
    apply returns
    rw [returnedData, if_neg (not_not.mpr success), if_neg long]
  · intro within
    constructor
    · intro panicked
      unfold returnedData at panicked
      split at panicked
      · cases panicked
      · rename_i success
        rw [if_pos (within (not_not.mp success))] at panicked
        cases panicked
    · intro bytes read
      rw [(returnedData_eq_ok_iff.mp read).2.2]
      exact List.take_prefix _ rbuf

theorem ReadRequest.readable_iff {request : ReadRequest} :
    Readable request.data request.rbuf ↔ request.res.Within request.rbuf :=
  readable_returnedData_iff

theorem WriteReadRequest.readable_iff {request : WriteReadRequest} :
    Readable request.data request.rbuf ↔ request.res.Within request.rbuf :=
  readable_returnedData_iff

/-! ## The exchange -/

/-- With a reply that has its result word, a sum-up request itself never panics. -/
theorem sumUp_answering_returns {indexGroup : UInt32} {nreq rlen wlen : Nat}
    {wBuffers rBuffers : List (List UInt8)} (enough : 8 ≤ reply.payload.length)
    (last : Link Unit) :
    sumUp (.answering reply) device indexGroup nreq rlen wlen wBuffers rBuffers link ≠
      (.panic, last) := by
  intro panicked
  rcases Operation.ofOutcome_bind_run_panics_iff.mp ⟨last, panicked⟩ with
    overflow | ⟨readLength, -, rest⟩
  · exact tryInto_ne_panic _ overflow
  rcases Operation.ofOutcome_bind_run_panics_iff.mp rest with overflow | ⟨writeLength, -, rest⟩
  · exact tryInto_ne_panic _ overflow
  rcases Operation.bind_run_panics_iff.mp rest with exchanged | ⟨received, after, final, -, done⟩
  · have short := (communicate_answering_panics_iff.mp exchanged).2.2
    omega
  · cases done

/-- The exchange alone takes the buffers up from an accepted reply. -/
theorem sumUp_answering_bufs_iff {indexGroup : UInt32} {nreq rlen wlen : Nat}
    {wBuffers rBuffers : List (List UInt8)} (size : wBuffers.flatten.length = wlen)
    {bufs : List (List UInt8)} :
    (∃ last, sumUp (.answering reply) device indexGroup nreq rlen wlen wBuffers rBuffers link =
        (.ok bufs, last)) ↔
      (Sends rlen wlen ∧ reply.Accepted) ∧ scatter rBuffers reply.bytes = bufs := by
  have whole := @sumUp_answering_iff reply device link _ indexGroup nreq rlen wlen wBuffers
    rBuffers size .ok bufs
  rw [Outcome.ok.injEq, ← and_assoc] at whole
  rw [← whole]
  constructor
  · rintro ⟨last, ran⟩
    exact ⟨last, Operation.bind_run_ok ran⟩
  · rintro ⟨last, ran⟩
    rcases Operation.bind_run_eq_ok_iff.mp ran with ⟨same, middle, ran, done⟩
    cases done
    exact ⟨_, ran⟩

/-- A call over a sum-up request survives the reply exactly if what it makes of an accepted
reply does, and otherwise the requests can be read as they are. -/
theorem sumUp_survives_iff {R : Type} {data : R → Outcome Error (List UInt8)}
    {rbuf : R → List UInt8} {requests : List R} {indexGroup : UInt32} {nreq rlen wlen : Nat}
    {wBuffers rBuffers : List (List UInt8)} (size : wBuffers.flatten.length = wlen)
    (enough : 8 ≤ reply.payload.length)
    {next : List (List UInt8) → Outcome Error (List R)} :
    Survives data rbuf requests
        ((sumUp (.answering reply) device indexGroup nreq rlen wlen wBuffers rBuffers >>=
          fun bufs => Operation.ofOutcome (next bufs)) link).1 ↔
      (Sends rlen wlen ∧ reply.Accepted →
        Survives data rbuf requests (next (scatter rBuffers reply.bytes))) ∧
      (¬(Sends rlen wlen ∧ reply.Accepted) →
        ∀ request ∈ requests, Readable (data request) (rbuf request)) := by
  cases summed : sumUp (.answering reply) device indexGroup nreq rlen wlen wBuffers rBuffers
      link with
  | mk outcome last =>
      cases outcome with
      | ok bufs =>
          obtain ⟨received, rfl⟩ := (sumUp_answering_bufs_iff size).mp ⟨last, summed⟩
          rw [Operation.bind_run_ok summed, Operation.ofOutcome_run]
          constructor
          · intro survives
            exact ⟨fun _ => survives, fun lost => absurd received lost⟩
          · rintro ⟨survives, -⟩
            exact survives received
      | err error =>
          have lost : ¬(Sends rlen wlen ∧ reply.Accepted) := by
            intro received
            obtain ⟨final, ran⟩ := (sumUp_answering_bufs_iff size).mpr ⟨received, rfl⟩
            cases summed.symm.trans ran
          rw [Operation.bind_run_err summed]
          constructor
          · intro readable
            exact ⟨fun received => absurd received lost, fun _ => readable⟩
          · rintro ⟨-, readable⟩
            exact readable lost
      | panic => exact absurd summed (sumUp_answering_returns enough last)

/-! ## Reads -/

/-- Every request of a list, each with its position, when the requests are filled. -/
theorem forall_mem_fillRequests_iff {R : Type} {fill : R → List UInt8 → List UInt8 → R}
    {res rbuf : R → List UInt8} {requests : List R} {Good : R → Prop}
    (uniform : ∀ request, (res request).length = 8) :
    (∀ request ∈ fillRequests fill res rbuf requests reply.bytes, Good request) ↔
      ∀ (index : Nat) (request : R), requests[index]? = some request →
        Good (fill request (overlay (reply.bytes.drop (8 * index)) (res request))
          (overlay (reply.bytes.drop (8 * requests.length + offset (requests.map rbuf) index))
            (rbuf request))) := by
  constructor
  · intro good index request found
    exact good _ (List.mem_of_getElem? (getElem?_fillRequests uniform found))
  · intro good filled member
    rcases List.mem_iff_getElem?.mp member with ⟨index, found⟩
    rcases exists_of_fillRequests uniform found with ⟨request, isRequest, rfl⟩
    exact good index request isRequest

/-- A sum-up read survives a reply exactly when no successful item has more bytes than its
buffer. -/
theorem readMulti_survives_iff {requests : List ReadRequest}
    (enough : 8 ≤ reply.payload.length) :
    Survives ReadRequest.data (·.rbuf) requests
        (readMulti (.answering reply) device requests link).1 ↔
      (Sends (readLength requests) (indexLengthSize * requests.length) ∧ reply.Accepted →
        ∀ (index : Nat) (request : ReadRequest), requests[index]? = some request →
          (reply.record index request.res).Within request.rbuf) ∧
      (¬(Sends (readLength requests) (indexLengthSize * requests.length) ∧ reply.Accepted) →
        ∀ request ∈ requests, request.res.Within request.rbuf) := by
  have filled : (∀ request ∈ fillRequests ReadRequest.fill (·.res.asBytes) (·.rbuf) requests
      reply.bytes, Readable request.data request.rbuf) ↔
        ∀ (index : Nat) (request : ReadRequest), requests[index]? = some request →
          (reply.record index request.res).Within request.rbuf := by
    rw [forall_mem_fillRequests_iff fun r : ReadRequest => ResultLength.length_asBytes r.res]
    apply forall_congr'
    intro index
    apply forall₂_congr
    intro request found
    rw [ReadRequest.readable_iff, ReadRequest.rbuf_fill _ (length_overlay _ _)]
    unfold ResultLength.Within
    rw [length_overlay]
    rfl
  rw [← filled, ← forall₂_congr fun _ _ => ReadRequest.readable_iff]
  exact sumUp_survives_iff (ReadRequest.length_sent requests) enough

/-! ## Combined writes and reads -/

/-- The scan fails its assertion at the first result that exceeds its buffer. -/
theorem scanOffsets_panics {requests : List WriteReadRequest} {request : WriteReadRequest}
    (member : request ∈ requests) (long : request.rbuf.length < request.res.length.toNat)
    (initCum actCum : Nat) : scanOffsets initCum actCum requests = .panic := by
  induction requests generalizing initCum actCum with
  | nil => cases member
  | cons first others ih =>
      rw [scanOffsets]
      split
      · rename_i fits
        rcases List.mem_cons.mp member with rfl | later
        · exact absurd fits (Nat.not_le_of_lt long)
        · rw [ih later]
          rfl
      · rfl

/-- The buffers are moved into place exactly if no result exceeds its buffer, and then the
data of every request can be read. -/
theorem fixup_survives_iff {requests before : List WriteReadRequest} :
    Survives WriteReadRequest.data (·.rbuf) before (fixupWriteReadReturnBuffers requests) ↔
      ∀ request ∈ requests, request.res.length.toNat ≤ request.rbuf.length := by
  constructor
  · intro survives request member
    by_contra long
    rw [fixupWriteReadReturnBuffers, scanOffsets_panics member (Nat.lt_of_not_le long)]
      at survives
    exact survives
  · intro fits
    rcases fixupWriteReadReturnBuffers_each fits with ⟨fixed, ran, count, each⟩
    rw [ran]
    intro request member
    rcases List.mem_iff_getElem?.mp member with ⟨index, found⟩
    have bound := (List.getElem?_eq_some_iff.mp found).1
    have isRequest := List.getElem?_eq_getElem (count ▸ bound)
    rcases each index _ isRequest with ⟨other, otherFound, sameRes, sameLength, -⟩
    cases found.symm.trans otherFound
    apply WriteReadRequest.readable_iff.mpr
    intro _
    rw [sameRes, sameLength]
    exact fits _ (List.mem_of_getElem? isRequest)

/-- A sum-up write and read survives a reply exactly when no item at all announces more bytes
than its buffer has. -/
theorem writeReadMulti_survives_iff {requests : List WriteReadRequest}
    (enough : 8 ≤ reply.payload.length) :
    Survives WriteReadRequest.data (·.rbuf) requests
        (writeReadMulti (.answering reply) device requests link).1 ↔
      (Sends (writeReadReadLength requests) (writeReadWriteLength requests) ∧
          reply.Accepted →
        ∀ (index : Nat) (request : WriteReadRequest), requests[index]? = some request →
          (reply.record index request.res).length.toNat ≤ request.rbuf.length) ∧
      (¬(Sends (writeReadReadLength requests) (writeReadWriteLength requests) ∧
          reply.Accepted) →
        ∀ request ∈ requests, request.res.Within request.rbuf) := by
  have filled : (∀ request ∈ fillRequests WriteReadRequest.fill (·.res.asBytes) (·.rbuf)
      requests reply.bytes, request.res.length.toNat ≤ request.rbuf.length) ↔
        ∀ (index : Nat) (request : WriteReadRequest), requests[index]? = some request →
          (reply.record index request.res).length.toNat ≤ request.rbuf.length := by
    rw [forall_mem_fillRequests_iff fun r : WriteReadRequest =>
      ResultLength.length_asBytes r.res]
    apply forall_congr'
    intro index
    apply forall₂_congr
    intro request found
    dsimp only [WriteReadRequest.fill, WriteReadRequest.fillBuf]
    rw [length_overlay]
    rfl
  rw [← filled, ← @fixup_survives_iff _ requests,
    ← forall₂_congr fun _ _ => WriteReadRequest.readable_iff]
  exact sumUp_survives_iff (WriteReadRequest.length_sent requests) enough

/-! ## Both -/

/-- For every reply with a result word of zero, to any requests: a sum-up read returns, and
so does the data of each of its requests, exactly when no successful item has more bytes
than its buffer; a sum-up write and read does so exactly when no item has, whether it was
successful or not.  Where no item is received, what the requests held before counts. -/
theorem sumUpReplies_survive_iff (reply : Reply) (device : Device) (link : Link Unit)
    (enough : 8 ≤ reply.payload.length) (success : leU32 reply.payload = 0)
    (reads : List ReadRequest) (writeReads : List WriteReadRequest) :
    (Survives ReadRequest.data (·.rbuf) reads
        (readMulti (.answering reply) device reads link).1 ↔
      (Sends (readLength reads) (indexLengthSize * reads.length) ∧ reply.errorCode = 0 →
        ∀ (index : Nat) (request : ReadRequest), reads[index]? = some request →
          (reply.record index request.res).Within request.rbuf) ∧
      (¬(Sends (readLength reads) (indexLengthSize * reads.length) ∧ reply.errorCode = 0) →
        ∀ request ∈ reads, request.res.Within request.rbuf)) ∧
    (Survives WriteReadRequest.data (·.rbuf) writeReads
        (writeReadMulti (.answering reply) device writeReads link).1 ↔
      (Sends (writeReadReadLength writeReads) (writeReadWriteLength writeReads) ∧
          reply.errorCode = 0 →
        ∀ (index : Nat) (request : WriteReadRequest), writeReads[index]? = some request →
          (reply.record index request.res).length.toNat ≤ request.rbuf.length) ∧
      (¬(Sends (writeReadReadLength writeReads) (writeReadWriteLength writeReads) ∧
          reply.errorCode = 0) →
        ∀ request ∈ writeReads, request.res.Within request.rbuf)) := by
  have accepted : reply.Accepted ↔ reply.errorCode = 0 :=
    and_iff_left ⟨success, enough⟩
  rw [← accepted]
  exact ⟨readMulti_survives_iff enough, writeReadMulti_survives_iff enough⟩

/-- Two items that return as many bytes as they have room for. -/
theorem fittingReply_survives :
    Survives ReadRequest.data (·.rbuf) [.new 1 2 [0, 0], .new 1 2 [0]]
      (readMulti (.answering (replyOf [0, 0, 0, 0, 2, 0, 0, 0, 0, 0, 0, 0, 1, 0, 0, 0, 7, 8, 9]))
        ⟨⟨.localId, 1⟩, ⟨.localId, 851⟩⟩ [.new 1 2 [0, 0], .new 1 2 [0]] ⟨1, (), []⟩).1 := by
  have whole := sumUpReplies_survive_iff
    (replyOf [0, 0, 0, 0, 2, 0, 0, 0, 0, 0, 0, 0, 1, 0, 0, 0, 7, 8, 9])
    ⟨⟨.localId, 1⟩, ⟨.localId, 851⟩⟩ ⟨1, (), []⟩ (by decide) (by decide)
    [.new 1 2 [0, 0], .new 1 2 [0]] []
  apply whole.1.mpr
  constructor
  · intro _ index request found success
    match index, found with
    | 0, found =>
        cases found
        decide
    | 1, found =>
        cases found
        decide
  · intro lost
    exact absurd ⟨⟨by decide, by decide⟩, rfl⟩ lost

/-- An item that announces three bytes for a buffer of two makes the data of a read panic, and
the whole write and read, there even if the item has failed. -/
theorem longItem_panics :
    let reply := fun code => replyOf [code, 0, 0, 0, 3, 0, 0, 0, 7, 8]
    let device : Device := ⟨⟨.localId, 1⟩, ⟨.localId, 851⟩⟩
    ((∃ filled last, readMulti (.answering (reply 0)) device [.new 1 2 [0, 0]] ⟨1, (), []⟩ =
        (.ok filled, last) ∧ filled.map ReadRequest.data = [.panic]) ∧
      ¬ Survives ReadRequest.data (·.rbuf) [.new 1 2 [0, 0]]
        (readMulti (.answering (reply 0)) device [.new 1 2 [0, 0]] ⟨1, (), []⟩).1) ∧
    (writeReadMulti (.answering (reply 0)) device [.new 1 2 [] [0, 0]] ⟨1, (), []⟩).1 =
      .panic ∧
    (writeReadMulti (.answering (reply 7)) device [.new 1 2 [] [0, 0]] ⟨1, (), []⟩).1 =
      .panic := by
  intro reply device
  refine ⟨⟨⟨_, _, rfl, rfl⟩, ?_⟩, rfl, rfl⟩
  intro survives
  exact (survives _ (List.mem_singleton_self _)).1 rfl

end Ads.Client
