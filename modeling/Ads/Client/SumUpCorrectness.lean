import Mathlib.Data.List.Forall2
import Mathlib.Algebra.Order.BigOperators.Group.List
import Mathlib.Algebra.Order.Group.Nat
import Ads.Client.SumUpServer

/-!
# Sum-up requests agree with single requests

A sum-up request that succeeds leaves in every request what the single request
would have returned, and shows the server the same items.
-/

namespace Ads.Client

open Ads.Bytes Ads.Control

/-! ## The single requests -/

section Single

variable {S : Type} (server : Server S) (device : Device)

/-- Issue a single read, and keep the bytes of the buffer that it returned. -/
def ReadRequest.issue (request : ReadRequest) : Operation S (List UInt8) := do
  let (count, data) ← read server device request.req.indexGroup request.req.indexOffset
    request.rbuf
  Operation.ofOutcome (if count ≤ data.length then .ok (data.take count) else .panic)

/-- Issue a single write. -/
def WriteRequest.issue (request : WriteRequest) : Operation S Unit :=
  write server device request.req.indexGroup request.req.indexOffset request.wbuf

/-- Issue a single combined write and read, and keep the bytes of the buffer that it
returned. -/
def WriteReadRequest.issue (request : WriteReadRequest) : Operation S (List UInt8) := do
  let (count, data) ← writeRead server device request.req.indexGroup request.req.indexOffset
    request.wbuf request.rbuf
  Operation.ofOutcome (if count ≤ data.length then .ok (data.take count) else .panic)

end Single

/-- The item of a read. -/
def ReadRequest.item (request : ReadRequest) : Item where
  indexGroup := request.req.indexGroup
  indexOffset := request.req.indexOffset
  readLength := request.req.length
  writeData := []

/-- The item of a write. -/
def WriteRequest.item (request : WriteRequest) : Item where
  indexGroup := request.req.indexGroup
  indexOffset := request.req.indexOffset
  readLength := 0
  writeData := request.wbuf

/-- The item of a combined write and read. -/
def WriteReadRequest.item (request : WriteReadRequest) : Item where
  indexGroup := request.req.indexGroup
  indexOffset := request.req.indexOffset
  readLength := request.req.readLength
  writeData := request.wbuf

/-- Both calls return the same value, or both report the same ADS code. -/
inductive SameResult {α : Type} : Outcome Error α → Outcome Error α → Prop
  | ok (value : α) : SameResult (.ok value) (.ok value)
  | ads (first second : String) (code : UInt32) :
      SameResult (.err (adsError first code)) (.err (adsError second code))

/-- A sum-up request of the given items agrees with the single requests: in every
result, in the state of the server, and in what the server has seen. -/
structure Agrees {S α : Type} (kind : SumUp) (items : List Item) (link after : Link S)
    (results : List (Outcome Error α)) (singles : List (Outcome Error α) × Link S) :
    Prop where
  results : List.Forall₂ SameResult results singles.1
  state : after.server = singles.2.server
  seenAtOnce : ∃ payload, after.seen = link.seen ++ [(.readWrite, payload)] ∧
    kind.items payload = some items
  seenSingly : singles.2.seen =
    link.seen ++ items.map fun item => (kind.command, kind.singlePayload item)

/-! ## What an answer means to the caller -/

/-- The data of an answer, or its result code as an error. -/
def Answer.outcome (answer : Answer) (action : String) : Outcome Error (List UInt8) :=
  if answer.code ≠ 0 then .err (adsError action answer.code) else .ok answer.data

/-- Whether an answer reports success. -/
def Answer.status (answer : Answer) (action : String) : Outcome Error Unit :=
  if answer.code ≠ 0 then .err (adsError action answer.code) else .ok ()

theorem sameResult_outcome (answer : Answer) (first second : String) :
    SameResult (answer.outcome first) (answer.outcome second) := by
  unfold Answer.outcome
  split
  · exact .ads first second answer.code
  · exact .ok answer.data

theorem sameResult_status (answer : Answer) (first second : String) :
    SameResult (answer.status first) (answer.status second) := by
  unfold Answer.status
  split
  · exact .ads first second answer.code
  · exact .ok ()

theorem toNat_ofNat_length {data : List UInt8} {bound : UInt32}
    (fits : data.length ≤ bound.toNat) : (UInt32.ofNat data.length).toNat = data.length :=
  UInt32.toNat_ofNat_of_lt' (Nat.lt_of_le_of_lt fits bound.toNat_lt)

/-! ## Single requests -/

theorem settled_of_failed {kind : SumUp} {reply : Reply} {answer : Answer}
    (returns : kind.Returns reply answer) (failed : answer.code ≠ 0) (cmd : Command)
    (resultBufs : List (List UInt8)) :
    settled cmd resultBufs reply = .err (adsError cmd.action answer.code) := by
  rcases returns with ⟨code, same⟩ | ⟨noCode, rest, payload, -⟩
  · rw [settled.eq_def, if_pos code, same]
  · have long : ¬(u32Bytes answer.code ++ rest).length < 4 := by simp
    rw [settled.eq_def, if_neg (not_not.mpr noCode), payload, if_neg long,
      leU32_u32Bytes_append, if_pos failed]

/-- A successful read fills its two buffers with the length and the data. -/
theorem settled_of_read {kind : SumUp} {reply : Reply} {answer : Answer}
    (reads : kind ≠ .write) (returns : kind.Returns reply answer) (succeeded : answer.code = 0)
    (cmd : Command) (rbuf : List UInt8) :
    settled cmd [u32Bytes 0, rbuf] reply =
      .ok ⟨4 + answer.data.length,
        [u32Bytes (UInt32.ofNat answer.data.length), overlay answer.data rbuf]⟩ := by
  rcases returns with ⟨code, same⟩ | ⟨noCode, rest, payload, returned⟩
  · exact absurd (same ▸ succeeded) code
  · have dataBytes : rest = u32Bytes (UInt32.ofNat answer.data.length) ++ answer.data := by
      rw [returned succeeded]
      cases kind with
      | write => exact absurd rfl reads
      | readEx => rfl
      | readWrite => rfl
    have long : ¬(u32Bytes answer.code ++ rest).length < 4 := by simp
    have enough : ¬(u32Bytes answer.code ++ rest).length < (u32Bytes 0).length + 4 := by
      simp only [dataBytes, List.length_append, length_u32Bytes]
      omega
    have buffers : scatter [u32Bytes 0, rbuf] rest =
        [u32Bytes (UInt32.ofNat answer.data.length), overlay answer.data rbuf] := by
      have first := @scatter_append_flatten _ [u32Bytes 0]
        [u32Bytes (UInt32.ofNat answer.data.length)] (by simp) [rbuf] answer.data
      simpa [dataBytes] using first
    rw [settled.eq_def, if_neg (not_not.mpr noCode), payload, if_neg long,
      leU32_u32Bytes_append, if_neg (not_not.mpr succeeded)]
    dsimp only
    rw [if_neg enough, List.drop_left' (length_u32Bytes _), buffers]
    simp [dataBytes]

theorem settled_of_write {reply : Reply} {answer : Answer}
    (returns : SumUp.write.Returns reply answer) (succeeded : answer.code = 0) (cmd : Command) :
    settled cmd [] reply = .ok ⟨0, []⟩ := by
  rcases returns with ⟨code, same⟩ | ⟨noCode, rest, payload, -⟩
  · exact absurd (same ▸ succeeded) code
  · have long : ¬(u32Bytes answer.code ++ rest).length < 4 := by simp
    rw [settled.eq_def, if_neg (not_not.mpr noCode), payload, if_neg long,
      leU32_u32Bytes_append, if_neg (not_not.mpr succeeded)]

section Run

variable {S : Type} {server : Server S} {device : Device} {link : Link S} {middle : S}
  {reply : Reply} {answer : Answer}

/-- What a read leaves its caller: the number of bytes, and the buffer. -/
def Answer.readBack (answer : Answer) (action : String) (rbuf : List UInt8) :
    Outcome Error (Nat × List UInt8) :=
  if answer.code ≠ 0 then .err (adsError action answer.code)
  else .ok (answer.data.length, overlay answer.data rbuf)

/-- The exchange that both kinds of read make. -/
theorem communicate_read {kind : SumUp} {cmd : Command} {payloadBufs : List (List UInt8)}
    {rbuf : List UInt8} {bound : UInt32}
    (short : amsHeaderSize + payloadBufs.flatten.length < 2 ^ 32)
    (handled : server.handle link.server cmd payloadBufs.flatten = (middle, reply))
    (reads : kind ≠ .write) (returns : kind.Returns reply answer)
    (fits : answer.data.length ≤ bound.toNat) :
    (communicate server device cmd payloadBufs [u32Bytes 0, rbuf] >>= fun received =>
        pure ((leU32 (received.bufs.getD 0 [])).toNat, received.bufs.getD 1 [])) link =
      (answer.readBack cmd.action rbuf, link.exchanged middle cmd payloadBufs.flatten) := by
  have ran := @communicate_run _ server device cmd payloadBufs [u32Bytes 0, rbuf] link middle
    reply short handled
  unfold Answer.readBack
  split
  · rename_i failed
    rw [settled_of_failed returns failed] at ran
    exact Operation.bind_run_err ran
  · rename_i noCode
    rw [settled_of_read reads returns (not_not.mp noCode)] at ran
    rw [Operation.bind_run_ok ran]
    have length := leU32_u32Bytes_append (UInt32.ofNat answer.data.length) []
    rw [List.append_nil] at length
    simp [length, toNat_ofNat_length fits]

/-- The caller keeps the bytes that the read returned. -/
theorem keep_readBack {operation : Operation S (Nat × List UInt8)} {after : Link S}
    {action : String} {rbuf : List UInt8} (fits : answer.data.length ≤ rbuf.length)
    (ran : operation link = (answer.readBack action rbuf, after)) :
    (operation >>= fun (count, data) =>
        Operation.ofOutcome (if count ≤ data.length then .ok (data.take count) else .panic))
      link = (answer.outcome action, after) := by
  unfold Answer.readBack at ran
  unfold Answer.outcome
  split at ran
  · rename_i failed
    rw [if_pos failed]
    exact Operation.bind_run_err ran
  · rename_i noCode
    have whole : (overlay answer.data rbuf).take answer.data.length = answer.data := by
      rw [take_overlay (Nat.le_refl _) fits, List.take_length]
    rw [if_neg noCode, Operation.bind_run_ok ran]
    dsimp only
    rw [Operation.ofOutcome_run, if_pos (by rw [length_overlay]; exact fits), whole]

theorem ReadRequest.item_head (request : ReadRequest) :
    SumUp.readEx.head request.item = request.req.asBytes :=
  rfl

theorem WriteRequest.item_head (request : WriteRequest) :
    SumUp.write.head request.item = request.req.asBytes := by
  rw [SumUp.head, WriteRequest.item, ← request.sized]

theorem WriteReadRequest.item_head (request : WriteReadRequest) :
    SumUp.readWrite.head request.item = request.req.asBytes := by
  rw [SumUp.head, WriteReadRequest.item, ← request.writeSized]

theorem ReadRequest.fits_item (request : ReadRequest) : SumUp.readEx.Fits request.item :=
  rfl

theorem WriteRequest.fits_item {request : WriteRequest} (size : request.wbuf.length < 2 ^ 32) :
    SumUp.write.Fits request.item :=
  ⟨rfl, size⟩

theorem WriteReadRequest.fits_item {request : WriteReadRequest}
    (size : request.wbuf.length < 2 ^ 32) : SumUp.readWrite.Fits request.item :=
  size

/-- What the requests send are the headers of their items, which have no data. -/
theorem ReadRequest.flatten_sent (requests : List ReadRequest) :
    (requests.map (·.req.asBytes)).flatten =
      (requests.map ReadRequest.item).flatMap SumUp.readEx.head ++
        (requests.map ReadRequest.item).flatMap (·.writeData) := by
  have noData : (requests.map ReadRequest.item).flatMap (·.writeData) = [] := by
    simp [ReadRequest.item]
  rw [noData, List.append_nil, List.flatMap_map]
  rfl

/-- What the requests send are the headers of their items, and then their data. -/
theorem WriteRequest.flatten_sent (requests : List WriteRequest) :
    (requests.map (·.req.asBytes) ++ requests.map (·.wbuf)).flatten =
      (requests.map WriteRequest.item).flatMap SumUp.write.head ++
        (requests.map WriteRequest.item).flatMap (·.writeData) := by
  rw [List.flatten_append, List.flatMap_map, List.flatMap_map]
  simp only [WriteRequest.item_head]
  rfl

/-- The same with combined writes and reads. -/
theorem WriteReadRequest.flatten_sent (requests : List WriteReadRequest) :
    (requests.map (·.req.asBytes) ++ requests.map (·.wbuf)).flatten =
      (requests.map WriteReadRequest.item).flatMap SumUp.readWrite.head ++
        (requests.map WriteReadRequest.item).flatMap (·.writeData) := by
  rw [List.flatten_append, List.flatMap_map, List.flatMap_map]
  simp only [WriteReadRequest.item_head]
  rfl

/-- A buffer whose length fits its field is announced at that length. -/
theorem ReadRequest.item_readLength {request : ReadRequest}
    (size : request.rbuf.length < 2 ^ 32) :
    request.item.readLength.toNat = request.rbuf.length := by
  rw [item, request.sized]
  exact UInt32.toNat_ofNat_of_lt' size

/-- The same with a combined write and read. -/
theorem WriteReadRequest.item_readLength {request : WriteReadRequest}
    (size : request.rbuf.length < 2 ^ 32) :
    request.item.readLength.toNat = request.rbuf.length := by
  rw [item, request.readSized]
  exact UInt32.toNat_ofNat_of_lt' size

/-- A single read returns what its answer says. -/
theorem ReadRequest.issue_run {request : ReadRequest} (size : request.rbuf.length < 2 ^ 32)
    (handled : server.handle link.server .read (SumUp.readEx.singlePayload request.item) =
      (middle, reply))
    (returns : SumUp.readEx.Returns reply answer)
    (fits : answer.data.length ≤ request.item.readLength.toNat) :
    request.issue server device link =
      (answer.outcome "read data",
        link.exchanged middle .read (SumUp.readEx.singlePayload request.item)) := by
  have sent : SumUp.readEx.singlePayload request.item = [request.req.asBytes].flatten := by
    rw [SumUp.singlePayload, ReadRequest.item_head]
    rfl
  have room : answer.data.length ≤ request.rbuf.length := by
    rwa [ReadRequest.item_readLength size] at fits
  have length : tryInto request.rbuf.length = .ok request.req.length :=
    tryInto_eq_ok_iff.mpr ⟨size, request.sized⟩
  rw [sent] at handled ⊢
  apply keep_readBack room
  rw [read, length]
  exact communicate_read (by simp [amsHeaderSize]) handled (by decide) returns fits

/-- A single combined write and read returns what its answer says. -/
theorem WriteReadRequest.issue_run {request : WriteReadRequest}
    (size : request.rbuf.length < 2 ^ 32) (short : 48 + request.wbuf.length < 2 ^ 32)
    (handled : server.handle link.server .readWrite
      (SumUp.readWrite.singlePayload request.item) = (middle, reply))
    (returns : SumUp.readWrite.Returns reply answer)
    (fits : answer.data.length ≤ request.item.readLength.toNat) :
    request.issue server device link =
      (answer.outcome "write and read data",
        link.exchanged middle .readWrite (SumUp.readWrite.singlePayload request.item)) := by
  have sent : SumUp.readWrite.singlePayload request.item =
      [request.req.asBytes, request.wbuf].flatten := by
    rw [SumUp.singlePayload, WriteReadRequest.item_head]
    simp [WriteReadRequest.item]
  have room : answer.data.length ≤ request.rbuf.length := by
    rwa [WriteReadRequest.item_readLength size] at fits
  have readLength : tryInto request.rbuf.length = .ok request.req.readLength :=
    tryInto_eq_ok_iff.mpr ⟨size, request.readSized⟩
  have writeLength : tryInto request.wbuf.length = .ok request.req.writeLength :=
    tryInto_eq_ok_iff.mpr ⟨by omega, request.writeSized⟩
  rw [sent] at handled ⊢
  apply keep_readBack room
  rw [writeRead, readLength, writeLength]
  refine communicate_read ?_ handled (by decide) returns fits
  simp only [amsHeaderSize, List.flatten_cons, List.flatten_nil, List.length_append,
    IndexLengthRW.length_asBytes, List.length_nil]
  omega

/-- A single write reports what its answer says. -/
theorem WriteRequest.issue_run {request : WriteRequest}
    (short : 44 + request.wbuf.length < 2 ^ 32)
    (handled : server.handle link.server .write (SumUp.write.singlePayload request.item) =
      (middle, reply))
    (returns : SumUp.write.Returns reply answer) :
    request.issue server device link =
      (answer.status "write data",
        link.exchanged middle .write (SumUp.write.singlePayload request.item)) := by
  have sent : SumUp.write.singlePayload request.item =
      [request.req.asBytes, request.wbuf].flatten := by
    rw [SumUp.singlePayload, WriteRequest.item_head]
    simp [WriteRequest.item]
  have length : tryInto request.wbuf.length = .ok request.req.length :=
    tryInto_eq_ok_iff.mpr ⟨by omega, request.sized⟩
  have frame : amsHeaderSize + [request.req.asBytes, request.wbuf].flatten.length < 2 ^ 32 := by
    simp only [amsHeaderSize, List.flatten_cons, List.flatten_nil, List.length_append,
      IndexLength.length_asBytes, List.length_nil]
    omega
  rw [sent] at handled ⊢
  have ran := @communicate_run _ server device .write _ [] link middle reply frame handled
  rw [WriteRequest.issue, write, length, Operation.bind_run_ok (Operation.ofOutcome_run _ link)]
  unfold Answer.status
  split
  · rename_i failed
    rw [settled_of_failed returns failed] at ran
    exact Operation.bind_run_err ran
  · rename_i noCode
    rw [settled_of_write returns (not_not.mp noCode)] at ran
    exact Operation.bind_run_ok ran

/-- Single requests issued one by one return what their answers say, and show the
server one item each. -/
theorem inSequence_run {R α : Type} {kind : SumUp} {issue : R → Operation S α}
    {item : R → Item} {value : Answer → Outcome Error α} {requests : List R}
    (single : ∀ request ∈ requests, ∀ (link : Link S) middle reply answer,
      server.handle link.server kind.command (kind.singlePayload (item request)) =
          (middle, reply) →
        kind.Returns reply answer → answer.data.length ≤ (item request).readLength.toNat →
          issue request link = (value answer,
            link.exchanged middle kind.command (kind.singlePayload (item request))))
    {answers : List Answer} {last : S} {link : Link S}
    (ordered : server.AnswersInOrder kind link.server (requests.map item) answers last) :
    (inSequence issue requests link).1 = answers.map value ∧
      (inSequence issue requests link).2.server = last ∧
      (inSequence issue requests link).2.seen = link.seen ++
        (requests.map item).map fun item => (kind.command, kind.singlePayload item) := by
  induction requests generalizing link answers with
  | nil =>
      cases ordered
      simp [inSequence]
  | cons request requests ih =>
      rw [List.map_cons] at ordered
      cases ordered with
      | cons handled returns fits carried others =>
          rcases List.forall_mem_cons.mp single with ⟨first, later⟩
          have ran := first link _ _ _ handled returns fits
          rcases @ih later _ (link.exchanged _ kind.command (kind.singlePayload (item request)))
            others with ⟨outcomes, state, seen⟩
          rw [inSequence, ran]
          refine ⟨?_, state, ?_⟩
          · rw [List.map_cons, ← outcomes]
          · rw [seen, Link.exchanged]
            simp

/-! ## The sum-up request -/

/-- A sum-up request that succeeds was short enough for its length fields, and was
answered with a result of zero. -/
theorem sumUp_eq_ok {indexGroup : UInt32} {nreq rlen wlen : Nat}
    {wBuffers rBuffers bufs : List (List UInt8)} {after : Link S}
    (ran : sumUp server device indexGroup nreq rlen wlen wBuffers rBuffers link =
      (.ok bufs, after)) :
    let payload := IndexLengthRW.asBytes ⟨indexGroup, UInt32.ofNat nreq, UInt32.ofNat rlen,
      UInt32.ofNat wlen⟩ ++ wBuffers.flatten
    rlen < 2 ^ 32 ∧ wlen < 2 ^ 32 ∧ amsHeaderSize + payload.length < 2 ^ 32 ∧
      ∃ state reply, server.handle link.server .readWrite payload = (state, reply) ∧
        reply.errorCode = 0 ∧ leU32 reply.payload = 0 ∧
        bufs = scatter rBuffers (reply.payload.drop 8) ∧
        after = link.exchanged state .readWrite payload := by
  intro payload
  rw [sumUp] at ran
  rcases Operation.bind_run_eq_ok_iff.mp ran with ⟨readLength, _, readRan, ran⟩
  rw [Operation.ofOutcome_run, Prod.mk.injEq] at readRan
  rcases readRan with ⟨readFits, rfl⟩
  rcases tryInto_eq_ok_iff.mp readFits with ⟨readBound, rfl⟩
  rcases Operation.bind_run_eq_ok_iff.mp ran with ⟨writeLength, _, writeRan, ran⟩
  rw [Operation.ofOutcome_run, Prod.mk.injEq] at writeRan
  rcases writeRan with ⟨writeFits, rfl⟩
  rcases tryInto_eq_ok_iff.mp writeFits with ⟨writeBound, rfl⟩
  rcases Operation.bind_run_eq_ok_iff.mp ran with ⟨received, _, exchanged, ran⟩
  rw [Operation.pure_run, Prod.mk.injEq, Outcome.ok.injEq] at ran
  rcases ran with ⟨rfl, rfl⟩
  rcases communicate_eq_ok exchanged with ⟨short, state, reply, handled, accepted, rfl⟩
  rcases settled_cons_eq_ok_iff.mp accepted with ⟨code, result, -, rfl⟩
  refine ⟨readBound, writeBound, short, state, reply, handled, code, result, ?_, rfl⟩
  rw [scatter_cons, List.drop_drop, length_u32Bytes]
  rfl

/-- Each buffer of a request that is sent is short enough to be sent alone. -/
theorem length_lt_of_sent {header : IndexLengthRW} {wBuffers : List (List UInt8)}
    (short : amsHeaderSize + (header.asBytes ++ wBuffers.flatten).length < 2 ^ 32) :
    ∀ buf ∈ wBuffers, 48 + buf.length < 2 ^ 32 := by
  intro buf member
  have le : buf.length ≤ wBuffers.flatten.length :=
    (List.sublist_flatten_of_mem member).length_le
  rw [List.length_append, IndexLengthRW.length_asBytes, amsHeaderSize] at short
  omega

/-- A server that serves sum-ups finds the items in the request, and scatters its
answers over the buffers. -/
theorem sumUp_served {kind : SumUp} {items : List Item} {rlen wlen : Nat}
    {wBuffers rBuffers bufs : List (List UInt8)} {after : Link S}
    (serves : server.ServesSumUp kind)
    (sent : wBuffers.flatten = items.flatMap kind.head ++ items.flatMap (·.writeData))
    (count : items.length < 2 ^ 32) (fits : ∀ item ∈ items, kind.Fits item)
    (ran : sumUp server device kind.indexGroup items.length rlen wlen wBuffers rBuffers link =
      (.ok bufs, after)) :
    (∃ answers, server.AnswersInOrder kind link.server items answers after.server ∧
        bufs = scatter rBuffers (kind.content answers)) ∧
      ∃ payload, after.seen = link.seen ++ [(.readWrite, payload)] ∧
        kind.items payload = some items := by
  rcases sumUp_eq_ok ran with ⟨-, -, -, state, reply, handled, code, result, rfl, rfl⟩
  rw [sent] at handled ⊢
  have found := SumUp.items_payload (UInt32.ofNat rlen) (UInt32.ofNat wlen) count fits
  constructor
  · rcases serves _ _ _ _ _ found handled code result with ⟨answers, ordered, layout⟩
    refine ⟨answers, ordered, ?_⟩
    rw [layout, SumUp.replyPayload, ← List.append_assoc, List.drop_left' (by simp)]
  · exact ⟨_, rfl, found⟩

/-- Each answer fits its item, and its block carries its data. -/
theorem Server.AnswersInOrder.carried {kind : SumUp} {state last : S} {items : List Item}
    {answers : List Answer} (ordered : server.AnswersInOrder kind state items answers last) :
    List.Forall₂ (fun item answer => answer.data.length ≤ item.readLength.toNat ∧
      kind.Carries item answer) items answers := by
  induction ordered with
  | nil => exact .nil
  | cons handled returns fits carried others ih => exact .cons ⟨fits, carried⟩ ih

/-- A sum-up request agrees with the single requests when both report what the answers
say. -/
theorem agrees_of_answers {R α : Type} {kind : SumUp} {issue : R → Operation S α}
    {item : R → Item} {value whole : Answer → Outcome Error α} {requests : List R}
    {after : Link S} {results : List (Outcome Error α)} {answers : List Answer}
    (single : ∀ request ∈ requests, ∀ (link : Link S) middle reply answer,
      server.handle link.server kind.command (kind.singlePayload (item request)) =
          (middle, reply) →
        kind.Returns reply answer → answer.data.length ≤ (item request).readLength.toNat →
          issue request link = (value answer,
            link.exchanged middle kind.command (kind.singlePayload (item request))))
    (ordered : server.AnswersInOrder kind link.server (requests.map item) answers after.server)
    (seen : ∃ payload, after.seen = link.seen ++ [(.readWrite, payload)] ∧
      kind.items payload = some (requests.map item))
    (reported : results = answers.map whole)
    (same : ∀ answer, SameResult (whole answer) (value answer)) :
    Agrees kind (requests.map item) link after results (inSequence issue requests link) := by
  rcases inSequence_run single ordered with ⟨outcomes, state, seenSingly⟩
  constructor
  · rw [reported, outcomes, List.forall₂_map_left_iff, List.forall₂_map_right_iff]
    exact List.forall₂_same.mpr fun answer _ => same answer
  · exact state.symm
  · exact seen
  · exact seenSingly

/-- The buffers for the results receive the result of each item. -/
theorem scatter_results {kind : SumUp} {size : Nat} {resBufs more : List (List UInt8)}
    {answers : List Answer} (count : resBufs.length = answers.length)
    (bufSize : ∀ buf ∈ resBufs, buf.length = size)
    (resultSize : ∀ answer, (kind.result answer).length = size) :
    scatter (resBufs ++ more) (kind.content answers) =
      answers.map kind.result ++ scatter more (answers.flatMap (·.block)) := by
  have sizes : resBufs.map List.length = (answers.map kind.result).map List.length := by
    have results : (answers.map kind.result).map List.length = answers.map fun _ => size := by
      rw [List.map_map]
      exact List.map_congr_left fun answer _ => resultSize answer
    rw [List.map_congr_left bufSize, results, List.map_const', List.map_const', count]
  exact scatter_append_flatten sizes more _

theorem member_lt_of_sum_lt {R : Type} {f : R → Nat} {requests : List R} {bound : Nat}
    (total : (requests.map f).sum < bound) : ∀ request ∈ requests, f request < bound :=
  fun _ member => Nat.lt_of_le_of_lt (List.le_sum_of_mem (List.mem_map_of_mem member)) total

theorem count_lt_of_sum_lt {R : Type} {f : R → Nat} {requests : List R} {bound : Nat}
    (total : (requests.map f).sum < bound) (positive : ∀ request, 1 ≤ f request) :
    requests.length < bound := by
  have each : ∀ size ∈ requests.map f, 1 ≤ size := by
    rintro size member
    rcases List.mem_map.mp member with ⟨request, -, rfl⟩
    exact positive request
  have count := List.length_le_sum_of_one_le _ each
  rw [List.length_map] at count
  omega

theorem map_eq_map_of_forall₂ {R R' β : Type} {related : R → R' → Prop} {f : R → β}
    {g : R' → β} {first : List R} {second : List R'} (pairs : List.Forall₂ related first second)
    (agree : ∀ left right, related left right → f left = g right) : first.map f = second.map g := by
  rw [← List.forall₂_eq_eq_eq, List.forall₂_map_left_iff, List.forall₂_map_right_iff]
  exact pairs.imp agree

theorem forall_right_of_forall₂ {R R' : Type} {related : R → R' → Prop} {holds : R' → Prop}
    {first : List R} {second : List R'} (pairs : List.Forall₂ related first second)
    (implies : ∀ left right, related left right → holds right) :
    ∀ right ∈ second, holds right := by
  induction pairs with
  | nil => simp
  | cons here _ ih => exact List.forall_mem_cons.mpr ⟨implies _ _ here, ih⟩

/-- What a request holds whose buffer starts with the data of its answer. -/
theorem returnedData_eq_outcome {answer : Answer} {rbuf : List UInt8} {action : String}
    (bound : answer.data.length < 2 ^ 32) (fits : answer.data.length ≤ rbuf.length)
    (front : rbuf.take answer.data.length = answer.data) :
    returnedData action answer.resultLength rbuf = answer.outcome action := by
  unfold Answer.outcome
  split
  · rename_i failed
    exact returnedData_of_ne_zero failed action rbuf
  · rename_i noCode
    exact returnedData_of_eq_zero (not_not.mp noCode) (UInt32.toNat_ofNat_of_lt' bound) fits front
      action

/-! ## Reads -/

/-- The requests of a sum-up read hold what the answers say. -/
theorem map_data_fill {requests : List ReadRequest} {answers : List Answer}
    (carried : List.Forall₂ (fun request answer => answer.data.length ≤ request.rbuf.length ∧
      request.rbuf.length < 2 ^ 32 ∧ answer.data <+: answer.block ∧
      answer.block.length = request.rbuf.length) requests answers) :
    (List.zipWith3 ReadRequest.fill requests (answers.map SumUp.readEx.result)
        (answers.map (·.block))).map ReadRequest.data =
      answers.map (·.outcome "multi-read data") := by
  induction carried with
  | nil => rfl
  | @cons request answer requests answers here others ih =>
      rcases here with ⟨fits, bound, front, size⟩
      have first : (request.fill (SumUp.readEx.result answer) answer.block).data =
          answer.outcome "multi-read data" := by
        have res : (request.fill (SumUp.readEx.result answer) answer.block).res =
            answer.resultLength := ResultLength.ofBytes_asBytes _
        rw [ReadRequest.data, ReadRequest.rbuf_fill _ size, res]
        exact returnedData_eq_outcome (Nat.lt_of_le_of_lt fits bound) (size.symm ▸ fits)
          (List.prefix_iff_eq_take.mp front).symm
      rw [List.map_cons, List.map_cons, List.zipWith3, List.map_cons, List.map_cons, first, ih]

theorem readMulti_agrees (serves : server.ServesSumUp .readEx)
    {requests filled : List ReadRequest} {after : Link S}
    (ran : readMulti server device requests link = (.ok filled, after)) :
    Agrees .readEx (requests.map ReadRequest.item) link after (filled.map ReadRequest.data)
      (inSequence (ReadRequest.issue server device) requests link) := by
  rw [readMulti] at ran
  rcases Operation.bind_run_eq_ok_iff.mp ran with ⟨bufs, _, exchanged, ran⟩
  rw [Operation.pure_run, Prod.mk.injEq, Outcome.ok.injEq] at ran
  rcases ran with ⟨rfl, rfl⟩
  rcases sumUp_eq_ok exchanged with ⟨readBound, writeBound, -⟩
  have sizes : ∀ request ∈ requests, request.rbuf.length < 2 ^ 32 := by
    intro request member
    have each := member_lt_of_sum_lt readBound request member
    omega
  have number : (requests.map ReadRequest.item).length = requests.length := List.length_map _
  have count : (requests.map ReadRequest.item).length < 2 ^ 32 := by
    rw [number]
    simp only [indexLengthSize] at writeBound
    omega
  have fits : ∀ item ∈ requests.map ReadRequest.item, SumUp.readEx.Fits item :=
    List.forall_mem_map.mpr fun request _ => request.fits_item
  rw [← number] at exchanged
  rcases @sumUp_served _ server device link .readEx _ _ _ _ _ _ _ serves
    (ReadRequest.flatten_sent requests) count fits exchanged with ⟨⟨answers, ordered, rfl⟩, seen⟩
  have carried : List.Forall₂ (fun request answer =>
      answer.data.length ≤ request.rbuf.length ∧ request.rbuf.length < 2 ^ 32 ∧
        answer.data <+: answer.block ∧ answer.block.length = request.rbuf.length)
      requests answers := by
    have perItem := List.forall₂_map_left_iff.mp ordered.carried
    apply ((List.forall₂_and_left _ _).mpr ⟨sizes, perItem⟩).imp
    rintro request answer ⟨size, fit, front, padded⟩
    rw [ReadRequest.item_readLength size] at fit padded
    exact ⟨fit, size, front, padded⟩
  have blocks : scatter (requests.map (·.rbuf)) (answers.flatMap (·.block)) =
      answers.map (·.block) := by
    have blockSizes : (requests.map (·.rbuf)).map List.length =
        (answers.map (·.block)).map List.length := by
      rw [List.map_map, List.map_map]
      exact map_eq_map_of_forall₂ carried fun request answer here => here.2.2.2.symm
    have filled := scatter_append_flatten blockSizes [] []
    simpa [List.flatMap_def] using filled
  have layout := @scatter_results .readEx 8 (requests.map (·.res.asBytes))
    (requests.map (·.rbuf)) answers (by simpa using carried.length_eq) (by simp)
    (fun answer => ResultLength.length_asBytes _)
  rw [layout, blocks, List.take_left' (by simp [carried.length_eq]),
    List.drop_left' (by simp [carried.length_eq]), map_data_fill carried]
  exact agrees_of_answers
    (fun request member link middle reply answer handled returns fit =>
      request.issue_run (sizes request member) handled returns fit)
    ordered seen rfl (fun answer => sameResult_outcome answer _ _)

/-! ## Writes -/

/-- The requests of a sum-up write hold what the answers say. -/
theorem map_ensure_fill {requests : List WriteRequest} {answers : List Answer}
    (count : requests.length = answers.length) :
    (List.zipWith WriteRequest.fill requests (answers.map SumUp.write.result)).map
        WriteRequest.ensure =
      answers.map (·.status "multi-write data") := by
  induction requests generalizing answers with
  | nil =>
      cases answers with
      | nil => rfl
      | cons answer answers => cases count
  | cons request requests ih =>
      cases answers with
      | nil => cases count
      | cons answer answers =>
          have first : (request.fill (SumUp.write.result answer)).ensure =
              answer.status "multi-write data" := by
            have code := leU32_u32Bytes_append answer.code []
            rw [List.append_nil] at code
            rw [WriteRequest.ensure, WriteRequest.fill, SumUp.result, Answer.status, code]
          rw [List.map_cons, List.zipWith_cons_cons, List.map_cons, first,
            ih (Nat.succ.inj count), List.map_cons]

theorem writeMulti_agrees (serves : server.ServesSumUp .write)
    {requests filled : List WriteRequest} {after : Link S}
    (ran : writeMulti server device requests link = (.ok filled, after)) :
    Agrees .write (requests.map WriteRequest.item) link after (filled.map WriteRequest.ensure)
      (inSequence (WriteRequest.issue server device) requests link) := by
  rw [writeMulti] at ran
  rcases Operation.bind_run_eq_ok_iff.mp ran with ⟨bufs, _, exchanged, ran⟩
  rw [Operation.pure_run, Prod.mk.injEq, Outcome.ok.injEq] at ran
  rcases ran with ⟨rfl, rfl⟩
  rcases sumUp_eq_ok exchanged with ⟨-, writeBound, short, -⟩
  have sizes : ∀ request ∈ requests, 44 + request.wbuf.length < 2 ^ 32 := by
    intro request member
    have size := length_lt_of_sent short request.wbuf
      (List.mem_append_right _ (List.mem_map_of_mem member))
    omega
  have number : (requests.map WriteRequest.item).length = requests.length := List.length_map _
  have count : (requests.map WriteRequest.item).length < 2 ^ 32 := by
    rw [number]
    exact count_lt_of_sum_lt writeBound fun request => by simp [indexLengthSize]; omega
  have fits : ∀ item ∈ requests.map WriteRequest.item, SumUp.write.Fits item := by
    refine List.forall_mem_map.mpr fun request member => ?_
    have size := sizes request member
    exact request.fits_item (by omega)
  rw [← number] at exchanged
  rcases @sumUp_served _ server device link .write _ _ _ _ _ _ _ serves
    (WriteRequest.flatten_sent requests) count fits exchanged with ⟨⟨answers, ordered, rfl⟩, seen⟩
  have answered := ordered.carried.length_eq
  rw [number] at answered
  have layout := @scatter_results .write 4 (requests.map fun request => u32Bytes request.res)
    [] answers (by simpa using answered) (by simp) (fun answer => length_u32Bytes _)
  rw [List.append_nil, scatter_nil, List.append_nil] at layout
  rw [layout, map_ensure_fill answered]
  exact agrees_of_answers
    (fun request member link middle reply answer handled returns _ =>
      request.issue_run (sizes request member) handled returns)
    ordered seen rfl (fun answer => sameResult_status answer _ _)

/-! ## Combined writes and reads -/

/-- The results and buffers of the requests are those of the reply. -/
theorem map_zipWith3_fill {requests : List WriteReadRequest} {results chunks : List (List UInt8)}
    (count : requests.length = results.length)
    (sizes : requests.map (fun request => request.rbuf.length) = chunks.map List.length) :
    (List.zipWith3 WriteReadRequest.fill requests results chunks).map (·.res) =
        results.map ResultLength.ofBytes ∧
      readBufs (List.zipWith3 WriteReadRequest.fill requests results chunks) = chunks := by
  induction requests generalizing results chunks with
  | nil =>
      cases results with
      | cons result results => cases count
      | nil =>
          cases chunks with
          | cons chunk chunks => cases sizes
          | nil => exact ⟨rfl, rfl⟩
  | cons request requests ih =>
      cases results with
      | nil => cases count
      | cons result results =>
          cases chunks with
          | nil => cases sizes
          | cons chunk chunks =>
              rw [List.map_cons, List.map_cons, List.cons.injEq] at sizes
              rcases ih (Nat.succ.inj count) sizes.2 with ⟨others, bufs⟩
              have rbuf : (request.fill result chunk).rbuf = chunk :=
                WriteReadRequest.rbuf_fillBuf sizes.1.symm
              rw [readBufs] at bufs
              rw [List.zipWith3, readBufs, List.map_cons, List.map_cons, List.map_cons, others,
                bufs, rbuf]
              exact ⟨rfl, rfl⟩

/-- Requests with the results of the answers and their data in front hold what the
answers say. -/
theorem map_data_of_fronts {answers : List Answer} {requests : List WriteReadRequest}
    (results : requests.map (·.res) = answers.map Answer.resultLength)
    (bounds : ∀ answer ∈ answers, answer.data.length < 2 ^ 32)
    (fronts : List.Forall₂ (fun data request => data.length ≤ request.rbuf.length ∧
      request.rbuf.take data.length = data) (answers.map Answer.data) requests) :
    requests.map WriteReadRequest.data = answers.map (·.outcome "multi-read/write data") := by
  induction answers generalizing requests with
  | nil =>
      cases fronts
      rfl
  | cons answer answers ih =>
      rcases List.forall_mem_cons.mp bounds with ⟨bound, otherBounds⟩
      cases fronts with
      | cons front others =>
          rw [List.map_cons, List.map_cons, List.cons.injEq] at results
          rw [List.map_cons, List.map_cons, ih results.2 otherBounds others,
            WriteReadRequest.data, results.1, returnedData_eq_outcome bound front.1 front.2]

/-- The data of the answers lies packed in the reply, and is unpacked into the
requests. -/
theorem fixup_fill {requests : List WriteReadRequest} {answers : List Answer}
    (carried : List.Forall₂ (fun request answer => request.rbuf.length < 2 ^ 32 ∧
      answer.data.length ≤ request.rbuf.length) requests answers) :
    ∃ fixed, fixupWriteReadReturnBuffers (List.zipWith3 WriteReadRequest.fill requests
        (answers.map SumUp.readWrite.result)
        (scatter (requests.map (·.rbuf)) (answers.map Answer.data).flatten)) = .ok fixed ∧
      fixed.map WriteReadRequest.data = answers.map (·.outcome "multi-read/write data") := by
  let datas := answers.map Answer.data
  let chunks := scatter (requests.map (·.rbuf)) datas.flatten
  have bounds : ∀ answer ∈ answers, answer.data.length < 2 ^ 32 :=
    forall_right_of_forall₂ carried fun _ _ here => Nat.lt_of_le_of_lt here.2 here.1
  have chunkSizes : requests.map (fun request => request.rbuf.length) =
      chunks.map List.length := by
    rw [map_length_scatter, List.map_map]
    rfl
  have count : requests.length = (answers.map SumUp.readWrite.result).length := by
    rw [List.length_map, carried.length_eq]
  rcases map_zipWith3_fill count chunkSizes with ⟨results, bufs⟩
  have decoded : (answers.map SumUp.readWrite.result).map ResultLength.ofBytes =
      answers.map Answer.resultLength := by
    rw [List.map_map]
    exact List.map_congr_left fun answer _ => ResultLength.ofBytes_asBytes _
  rw [decoded] at results
  let filled := List.zipWith3 WriteReadRequest.fill requests
    (answers.map SumUp.readWrite.result) chunks
  have lengths : filled.map (fun request => request.res.length.toNat) =
      datas.map List.length := by
    have announced : answers.map (fun answer => answer.resultLength.length.toNat) =
        answers.map (fun answer => answer.data.length) :=
      List.map_congr_left fun answer member => UInt32.toNat_ofNat_of_lt' (bounds answer member)
    have viaResults := congrArg (List.map fun res : ResultLength => res.length.toNat) results
    rw [List.map_map, List.map_map] at viaResults
    rw [List.map_map]
    exact viaResults.trans announced
  have bufSizes : filled.map (fun request => request.rbuf.length) =
      requests.map (fun request => request.rbuf.length) := by
    have viaBufs := congrArg (List.map List.length) bufs
    rw [readBufs, List.map_map] at viaBufs
    exact viaBufs.trans chunkSizes.symm
  have lessEqual : List.Forall₂ (· ≤ ·) (datas.map List.length)
      (requests.map fun request => request.rbuf.length) := by
    rw [List.map_map, List.forall₂_map_left_iff, List.forall₂_map_right_iff]
    exact List.Forall₂.flip (carried.imp fun request answer here => here.2)
  have fits : ∀ request ∈ filled, request.res.length.toNat ≤ request.rbuf.length := by
    rw [← lengths, ← bufSizes, List.forall₂_map_left_iff, List.forall₂_map_right_iff] at lessEqual
    exact List.forall₂_same.mp lessEqual
  have room : datas.flatten.length ≤ (requests.map (·.rbuf)).flatten.length := by
    have total := lessEqual.sum_le_sum
    simpa only [List.length_flatten, List.map_map, Function.comp_def] using total
  have packed : (readBufs filled).flatten =
      datas.flatten ++ (requests.map (·.rbuf)).flatten.drop datas.flatten.length := by
    rw [bufs, flatten_scatter, overlay, List.take_of_length_le room]
  rcases fixupWriteReadReturnBuffers_packed lengths fits packed with ⟨fixed, ran, same, fronts⟩
  exact ⟨fixed, ran, map_data_of_fronts (same.trans results) bounds fronts⟩

theorem writeReadMulti_agrees (serves : server.ServesSumUp .readWrite)
    {requests filled : List WriteReadRequest} {after : Link S}
    (ran : writeReadMulti server device requests link = (.ok filled, after)) :
    Agrees .readWrite (requests.map WriteReadRequest.item) link after
      (filled.map WriteReadRequest.data)
      (inSequence (WriteReadRequest.issue server device) requests link) := by
  rw [writeReadMulti] at ran
  rcases Operation.bind_run_eq_ok_iff.mp ran with ⟨bufs, _, exchanged, ran⟩
  rw [Operation.ofOutcome_run, Prod.mk.injEq] at ran
  rcases ran with ⟨fixedOk, rfl⟩
  rcases sumUp_eq_ok exchanged with ⟨readBound, writeBound, short, -⟩
  have readSizes : ∀ request ∈ requests, request.rbuf.length < 2 ^ 32 := by
    intro request member
    have each := member_lt_of_sum_lt readBound request member
    omega
  have writeSizes : ∀ request ∈ requests, 48 + request.wbuf.length < 2 ^ 32 :=
    fun request member => length_lt_of_sent short request.wbuf
      (List.mem_append_right _ (List.mem_map_of_mem member))
  have number : (requests.map WriteReadRequest.item).length = requests.length :=
    List.length_map _
  have count : (requests.map WriteReadRequest.item).length < 2 ^ 32 := by
    rw [number]
    exact count_lt_of_sum_lt writeBound fun request => by simp [indexLengthRWSize]; omega
  have fits : ∀ item ∈ requests.map WriteReadRequest.item, SumUp.readWrite.Fits item := by
    refine List.forall_mem_map.mpr fun request member => ?_
    have size := writeSizes request member
    exact request.fits_item (by omega)
  rw [← number] at exchanged
  rcases @sumUp_served _ server device link .readWrite _ _ _ _ _ _ _ serves
    (WriteReadRequest.flatten_sent requests) count fits exchanged with
    ⟨⟨answers, ordered, rfl⟩, seen⟩
  have perRequest := List.forall₂_map_left_iff.mp ordered.carried
  have carried : List.Forall₂ (fun request answer => request.rbuf.length < 2 ^ 32 ∧
      answer.data.length ≤ request.rbuf.length) requests answers := by
    apply ((List.forall₂_and_left _ _).mpr ⟨readSizes, perRequest⟩).imp
    rintro request answer ⟨size, fit, -⟩
    rw [WriteReadRequest.item_readLength size] at fit
    exact ⟨size, fit⟩
  have blocks : answers.flatMap (·.block) = (answers.map Answer.data).flatten := by
    have same : answers.map (·.block) = answers.map Answer.data :=
      List.map_congr_left (forall_right_of_forall₂ perRequest fun _ _ here => here.2)
    rw [List.flatMap_def, same]
  have layout := @scatter_results .readWrite 8 (requests.map (·.res.asBytes))
    (requests.map (·.rbuf)) answers (by simpa using carried.length_eq) (by simp)
    (fun answer => ResultLength.length_asBytes _)
  rcases fixup_fill carried with ⟨fixed, unpacked, reported⟩
  rw [layout, blocks, List.take_left' (by simp [carried.length_eq]),
    List.drop_left' (by simp [carried.length_eq]), unpacked, Outcome.ok.injEq] at fixedOk
  rw [← fixedOk]
  exact agrees_of_answers
    (fun request member link middle reply answer handled returns fit =>
      request.issue_run (readSizes request member) (writeSizes request member) handled returns fit)
    ordered seen reported (fun answer => sameResult_outcome answer _ _)

end Run

/-- On every server that handles the items of its sum-up requests in order, exactly as
the single requests, a sum-up request that succeeds agrees with issuing its requests
one by one. -/
theorem sumUp_agrees {S : Type} {server : Server S} (serves : ∀ kind, server.ServesSumUp kind)
    (device : Device) (link : Link S) :
    (∀ requests filled after,
      readMulti server device requests link = (.ok filled, after) →
        Agrees .readEx (requests.map ReadRequest.item) link after
          (filled.map ReadRequest.data)
          (inSequence (ReadRequest.issue server device) requests link)) ∧
    (∀ requests filled after,
      writeMulti server device requests link = (.ok filled, after) →
        Agrees .write (requests.map WriteRequest.item) link after
          (filled.map WriteRequest.ensure)
          (inSequence (WriteRequest.issue server device) requests link)) ∧
    (∀ requests filled after,
      writeReadMulti server device requests link = (.ok filled, after) →
        Agrees .readWrite (requests.map WriteReadRequest.item) link after
          (filled.map WriteReadRequest.data)
          (inSequence (WriteReadRequest.issue server device) requests link)) :=
  ⟨fun _ _ _ => readMulti_agrees (serves .readEx),
    fun _ _ _ => writeMulti_agrees (serves .write),
    fun _ _ _ => writeReadMulti_agrees (serves .readWrite)⟩

/-- A server with a small memory behind one index group, which returns what was stored
before the write. -/
def memoryHandler : ItemHandler (List UInt8) := fun memory kind item =>
  let offset := item.indexOffset.toNat
  if item.indexGroup ≠ 0x4020 then (memory, 0x702, [])
  else if memory.length < offset + item.writeData.length then (memory, 0x703, [])
  else
    let written := paste memory offset item.writeData
    match kind with
    | .write => (written, 0, [])
    | _ => (written, 0, memory.drop offset)

/-- A run whose outcome is computed to be a result. -/
theorem Operation.exists_ran {S α β : Type} {operation : Operation S α} {link : Link S}
    {f : α → β} {value : β} (computed : f <$> (operation link).1 = .ok value) :
    ∃ result after, operation link = (.ok result, after) ∧ f result = value := by
  rcases ran : operation link with ⟨outcome, after⟩
  rw [ran] at computed
  obtain ⟨result, rfl, same⟩ := Outcome.map_eq_ok_iff.mp computed
  exact ⟨result, after, rfl, same⟩

/-- A read that ends early, a failed one and an empty one before another read; a write, a
failed one and another over the same bytes; and short reads after writes. -/
theorem memory_sumUp_agrees :
    let device : Device := ⟨⟨.localId, 800⟩, ⟨.localId, 851⟩⟩
    let link : Link (List UInt8) := ⟨1, [1, 2, 3, 4, 5, 6], []⟩
    let reads : List ReadRequest :=
      [.new 0x4020 4 [9, 9, 9, 9], .new 0x7689 0 [7], .new 0x4020 1 [], .new 0x4020 0 [8, 8]]
    let writes : List WriteRequest :=
      [.new 0x4020 2 [7, 7], .new 0x4020 5 [1, 2], .new 0x4020 3 [8]]
    let requests : List WriteReadRequest :=
      [.new 0x4020 2 [9, 9] [0, 0, 0, 0, 0, 0], .new 0x7689 0 [1] [7, 7, 7], .new 0x4020 5 [] [],
        .new 0x4020 3 [8] [0, 0, 0, 0]]
    (∃ filled after,
      readMulti memoryHandler.server device reads link = (.ok filled, after) ∧
        filled.map ReadRequest.data =
          [.ok [5, 6], .err (adsError "multi-read data" 0x702), .ok [], .ok [1, 2]] ∧
        Agrees .readEx (reads.map ReadRequest.item) link after (filled.map ReadRequest.data)
          (inSequence (ReadRequest.issue memoryHandler.server device) reads link)) ∧
    (∃ filled after,
      writeMulti memoryHandler.server device writes link = (.ok filled, after) ∧
        filled.map WriteRequest.ensure =
          [.ok (), .err (adsError "multi-write data" 0x703), .ok ()] ∧
        Agrees .write (writes.map WriteRequest.item) link after (filled.map WriteRequest.ensure)
          (inSequence (WriteRequest.issue memoryHandler.server device) writes link)) ∧
    ∃ filled after,
      writeReadMulti memoryHandler.server device requests link = (.ok filled, after) ∧
        filled.map WriteReadRequest.data =
          [.ok [3, 4, 5, 6], .err (adsError "multi-read/write data" 0x702), .ok [],
            .ok [9, 5, 6]] ∧
        Agrees .readWrite (requests.map WriteReadRequest.item) link after
          (filled.map WriteReadRequest.data)
          (inSequence (WriteReadRequest.issue memoryHandler.server device) requests link) := by
  intro device link reads writes requests
  obtain ⟨allReads, allWrites, all⟩ :=
    sumUp_agrees memoryHandler.server_servesSumUp device link
  refine ⟨?_, ?_, ?_⟩
  · have computed : List.map ReadRequest.data <$>
        (readMulti memoryHandler.server device reads link).1 =
          .ok [.ok [5, 6], .err (adsError "multi-read data" 0x702), .ok [], .ok [1, 2]] := by
      decide +kernel
    obtain ⟨filled, after, ran, reported⟩ := Operation.exists_ran computed
    exact ⟨filled, after, ran, reported, allReads reads filled after ran⟩
  · have computed : List.map WriteRequest.ensure <$>
        (writeMulti memoryHandler.server device writes link).1 =
          .ok [.ok (), .err (adsError "multi-write data" 0x703), .ok ()] := by
      decide +kernel
    obtain ⟨filled, after, ran, reported⟩ := Operation.exists_ran computed
    exact ⟨filled, after, ran, reported, allWrites writes filled after ran⟩
  · have computed : List.map WriteReadRequest.data <$>
        (writeReadMulti memoryHandler.server device requests link).1 =
          .ok [.ok [3, 4, 5, 6], .err (adsError "multi-read/write data" 0x702), .ok [],
            .ok [9, 5, 6]] := by decide +kernel
    obtain ⟨filled, after, ran, reported⟩ := Operation.exists_ran computed
    exact ⟨filled, after, ran, reported, all requests filled after ran⟩

end Ads.Client
