import Ads.Client.Outgoing
import Ads.Client.Refusals
import Ads.Client.SumUpCorrectness

/-!
# Lengths on the wire

A sum-up request either goes out with every length and count as it is, or is refused
before anything is registered or written.
-/

namespace Ads.Client

open Ads.Bytes Ads.Control Ads.Transition

/-! ## Requests that are too long -/

/-- The request does not fit the length field of its header. -/
def Request.Overlong (request : Request) : Prop :=
  ¬amsHeaderSize + (request.payloadBufs.map List.length).sum < 2 ^ 32

namespace World

variable {world after : World}

/-- The call has returned the overflow. It has no entry in the pending map, and no step
registers it or writes for it. -/
structure Refused (world : World) (id : CallId) : Prop where
  returned : ∃ call, world.calls[id]? = some call ∧ call.stage = .done (.err .overflow)
  unregistered : ∀ invokeId, world.pending.lookup invokeId ≠ some id
  neverRegisters : world.insert id = none
  neverWrites : ∀ failure, world.write id failure = none

/-- What a write of the call adds to the bytes sent is the frame, or the front of it if the
write fails. -/
def SendsFrame (world : World) (id : CallId) (frame : List UInt8) : Prop :=
  (∀ after, world.write id none = some after → after.sent = world.sent ++ frame) ∧
    ∀ count kind after, world.write id (some (count, kind)) = some after →
      after.sent = world.sent ++ frame.take count

/-- No call with a request that is too long is under way. -/
def RefusesOverlong (world : World) : Prop :=
  ∀ (id : CallId) (call : Call), world.calls[id]? = some call → call.request.Overlong →
    call.stage = .done (.err .overflow) ∧
      ∀ invokeId, world.pending.lookup invokeId ≠ some id

/-- A call that has returned is not registered again. -/
theorem insert_eq_none {id : CallId} {call : Call} (found : world.calls[id]? = some call)
    (returned : call.stage.isDone = true) : world.insert id = none := by
  cases step : world.insert id with
  | none => rfl
  | some after =>
      obtain ⟨state, _, isCall, numbered, -⟩ := insert_eq_some step
      cases found.symm.trans isCall
      rw [numbered] at returned
      cases returned

/-- A call that has returned writes no more. -/
theorem write_eq_none {id : CallId} {call : Call} (found : world.calls[id]? = some call)
    (returned : call.stage.isDone = true) (failure : Option (Nat × IoErrorKind)) :
    world.write id failure = none := by
  cases step : world.write id failure with
  | none => rfl
  | some after =>
      obtain ⟨state, _, isCall, registered, -⟩ := write_eq_some step
      cases found.symm.trans isCall
      rw [registered] at returned
      cases returned

theorem assembleRequest_of_overlong {source : AmsAddr} {request : Request} {invokeId : UInt32}
    (long : request.Overlong) : assembleRequest source request invokeId = .error .overflow :=
  if_neg long

theorem Consistent.refusesOverlong_step (consistent : world.Consistent) {label : Label}
    (step : world.step label = some after) (refuses : world.RefusesOverlong) :
    after.RefusesOverlong := by
  intro id new isNew long
  rcases consistent.step_call step isNew with ⟨old, found, stepped⟩ | ⟨last, ⟨request, rfl⟩, -⟩
  · rw [stepped.request] at long
    obtain ⟨returned, unregistered⟩ := refuses id old found long
    have isDone : old.stage.isDone = true := by
      rw [returned]
      rfl
    constructor
    · rw [stepped.stage_of_isDone isDone, returned]
    · intro invokeId entry
      rcases entry_of_step step entry with kept | rfl
      · exact unregistered invokeId kept
      · cases step.symm.trans (insert_eq_none found isDone)
  · cases step
    constructor
    · rw [World.start, last, List.getElem?_concat_length] at isNew
      cases isNew
      rw [assembleRequest_of_overlong long]
    · intro invokeId entry
      rcases consistent.entries invokeId id entry with ⟨call, found, -⟩
      rw [last, List.getElem?_eq_none (Nat.le_refl _)] at found
      cases found

/-- In every state, a call whose request is too long is refused. -/
theorem refused_of_overlong {source : AmsAddr} {readTimeout : Bool} {labels : List Label}
    (run : Run World.step (.initial source readTimeout) labels world) {id : CallId} {call : Call}
    (found : world.calls[id]? = some call) (long : call.request.Overlong) :
    world.Refused id := by
  have invariant : world.Consistent ∧ world.RefusesOverlong := by
    refine @Run.invariant _ _ World.step _ world labels
      (fun world => world.Consistent ∧ world.RefusesOverlong) run
      ⟨.initial source readTimeout, fun id call found => by cases found⟩ ?_
    rintro before label after ⟨consistent, refuses⟩ step
    exact ⟨consistent.step step, consistent.refusesOverlong_step step refuses⟩
  obtain ⟨returned, unregistered⟩ := invariant.2 id call found long
  have isDone : call.stage.isDone = true := by
    rw [returned]
    rfl
  exact ⟨⟨call, found, returned⟩, unregistered, insert_eq_none found isDone,
    write_eq_none found isDone⟩

/-- In every state, a call writes the frame of its request. -/
theorem sendsFrame_of_assembled {source : AmsAddr} {readTimeout : Bool} {labels : List Label}
    (run : Run World.step (.initial source readTimeout) labels world) {id : CallId} {call : Call}
    (found : world.calls[id]? = some call) {frame : List UInt8}
    (assembled : assembleRequest source call.request call.invokeId = .ok frame) :
    world.SendsFrame id frame := by
  have invariant : world.Consistent ∧ world.Assembled ∧ world.source = source := by
    refine @Run.invariant _ _ World.step _ world labels
      (fun world => world.Consistent ∧ world.Assembled ∧ world.source = source) run
      ⟨.initial source readTimeout, (Sender.Framed.initial source readTimeout).assembled, rfl⟩ ?_
    rintro before label after ⟨consistent, assembled, same⟩ step
    exact ⟨consistent.step step, consistent.assembled_step step assembled,
      (step_frames step).source.trans same⟩
  have own : ∀ requestBuf, call.stage = .registered requestBuf → requestBuf = frame := by
    intro requestBuf registered
    have whole := invariant.2.1 id call requestBuf found (by rw [registered]; rfl)
    rw [whole.bytes, invariant.2.2, (wholeFrame_of_assembled assembled).bytes]
  constructor
  · intro after step
    obtain ⟨state, requestBuf, isCall, registered, written⟩ := write_eq_some step
    cases found.symm.trans isCall
    rcases written with ⟨-, -, rfl⟩ | ⟨_, _, failed, -⟩
    · rw [own requestBuf registered]
    · cases failed
  · intro count kind after step
    obtain ⟨state, requestBuf, isCall, registered, written⟩ := write_eq_some step
    cases found.symm.trans isCall
    rcases written with ⟨failed, -⟩ | ⟨_, _, failed, rfl⟩
    · cases failed
    · cases failed
      rw [own requestBuf registered]

end World

/-! ## Exact frames -/

namespace SumUp

/-- The bytes of the header of one item. -/
def headSize : SumUp → Nat
  | readWrite => indexLengthRWSize
  | _ => indexLengthSize

/-- The bytes of all items, their headers and the data to write. -/
def writeSize (kind : SumUp) (sizes : List (Nat × List UInt8)) : Nat :=
  (sizes.map fun size => kind.headSize + size.2.length).sum

/-- The payload of a sum-up request in which every length and count is exact. Its items,
with the data to write split by their own lengths, have the given sizes to read and the
given data. -/
structure ExactPayload (kind : SumUp) (sizes : List (Nat × List UInt8)) (readSize : Nat)
    (payload : List UInt8) : Prop where
  count : (leU32 (payload.drop 4)).toNat = sizes.length
  readLength : (leU32 (payload.drop 8)).toNat = readSize
  writeLength : (leU32 (payload.drop 12)).toNat + indexLengthRWSize = payload.length
  items : ∃ items, kind.items payload = some items ∧
    items.map (fun item => (item.readLength.toNat, item.writeData)) = sizes

/-- The frame of a sum-up request in which every length and count is exact. -/
structure ExactFrame (kind : SumUp) (sizes : List (Nat × List UInt8)) (readSize : Nat)
    (frame : List UInt8) : Prop where
  header : ∃ header, AdsHeader.readFromBytes (frame.take adsHeaderSize) = some header ∧
    header.length.toNat + amsTcpHeaderSize = frame.length ∧
    header.dataLength.toNat + adsHeaderSize = frame.length
  payload : kind.ExactPayload sizes readSize (frame.drop adsHeaderSize)

end SumUp

/-- The second word of the header and what is behind it. -/
theorem IndexLengthRW.drop_four (record : IndexLengthRW) (rest : List UInt8) :
    (record.asBytes ++ rest).drop 4 =
      u32Bytes record.indexOffset ++
        (u32Bytes record.readLength ++ (u32Bytes record.writeLength ++ rest)) := by
  simp only [IndexLengthRW.asBytes, List.append_assoc]
  exact List.drop_left' (length_u32Bytes record.indexGroup)

theorem IndexLengthRW.drop_eight (record : IndexLengthRW) (rest : List UInt8) :
    (record.asBytes ++ rest).drop 8 =
      u32Bytes record.readLength ++ (u32Bytes record.writeLength ++ rest) := by
  have further := @List.drop_drop _ 4 4 (record.asBytes ++ rest)
  rw [← further, drop_four]
  exact List.drop_left' (length_u32Bytes record.indexOffset)

theorem IndexLengthRW.drop_twelve (record : IndexLengthRW) (rest : List UInt8) :
    (record.asBytes ++ rest).drop 12 = u32Bytes record.writeLength ++ rest := by
  have further := @List.drop_drop _ 4 8 (record.asBytes ++ rest)
  rw [← further, drop_eight]
  exact List.drop_left' (length_u32Bytes record.readLength)

/-- A payload is exact when its three lengths fit their words. -/
theorem SumUp.exactPayload {kind : SumUp} {items : List Item} {rlen wlen : Nat}
    (reads : rlen < 2 ^ 32) (writes : wlen < 2 ^ 32) (count : items.length < 2 ^ 32)
    (fits : ∀ item ∈ items, kind.Fits item)
    (size : (items.flatMap kind.head ++ items.flatMap (·.writeData)).length = wlen) :
    kind.ExactPayload (items.map fun item => (item.readLength.toNat, item.writeData)) rlen
      (kind.payload (UInt32.ofNat rlen) (UInt32.ofNat wlen) items) where
  count := by
    rw [payload, IndexLengthRW.drop_four, leU32_u32Bytes_append,
      UInt32.toNat_ofNat_of_lt' count, List.length_map]
  readLength := by
    rw [payload, IndexLengthRW.drop_eight, leU32_u32Bytes_append,
      UInt32.toNat_ofNat_of_lt' reads]
  writeLength := by
    rw [payload, IndexLengthRW.drop_twelve, leU32_u32Bytes_append,
      UInt32.toNat_ofNat_of_lt' writes, List.length_append, IndexLengthRW.length_asBytes, size]
    exact Nat.add_comm _ _
  items := ⟨items, items_payload _ _ count fits, rfl⟩

/-- The frame around an exact payload is exact. -/
theorem SumUp.exactFrame {kind : SumUp} {sizes : List (Nat × List UInt8)} {readSize : Nat}
    {source : AmsAddr} {request : Request} {invokeId : UInt32} {frame : List UInt8}
    (exact : kind.ExactPayload sizes readSize request.payloadBufs.flatten)
    (assembled : assembleRequest source request invokeId = .ok frame) :
    kind.ExactFrame sizes readSize frame := by
  have whole := wholeFrame_of_assembled assembled
  have size : (requestHeader source request invokeId).asBytes.length = adsHeaderSize :=
    AdsHeader.length_asBytes _
  have length : frame.length = adsHeaderSize + request.payloadBufs.flatten.length := by
    rw [whole.bytes, List.length_append, size]
  constructor
  · refine ⟨requestHeader source request invokeId, ?_, ?_, ?_⟩
    · rw [whole.bytes, List.take_left' size, AdsHeader.readFromBytes_asBytes]
    · rw [whole.length, whole.dataLength, length]
      simp only [adsHeaderSize]
      omega
    · rw [whole.dataLength, length]
      exact Nat.add_comm _ _
  · rw [whole.bytes, List.drop_left' size]
    exact exact

/-- A call whose payload is exact, where it is short enough to be sent, is too long and has
been refused, or it writes one exact frame. -/
theorem SumUp.refused_or_sends {kind : SumUp} {sizes : List (Nat × List UInt8)}
    {readSize : Nat} {source : AmsAddr} {readTimeout : Bool} {labels : List Label} {world : World}
    (run : Run World.step (.initial source readTimeout) labels world) {id : CallId} {call : Call}
    (found : world.calls[id]? = some call)
    (exact : amsHeaderSize + call.request.payloadBufs.flatten.length < 2 ^ 32 →
      kind.ExactPayload sizes readSize call.request.payloadBufs.flatten) :
    call.request.Overlong ∧ world.Refused id ∨
      ∃ frame, assembleRequest source call.request call.invokeId = .ok frame ∧
        kind.ExactFrame sizes readSize frame ∧ world.SendsFrame id frame := by
  by_cases short : amsHeaderSize + (call.request.payloadBufs.map List.length).sum < 2 ^ 32
  · have assembled : assembleRequest source call.request call.invokeId = .ok _ := if_pos short
    rw [← List.length_flatten] at short
    exact Or.inr ⟨_, assembled, exactFrame (exact short) assembled,
      World.sendsFrame_of_assembled run found assembled⟩
  · exact Or.inl ⟨short, World.refused_of_overlong run found short⟩

/-! ## Calls -/

/-- A sum-up call refuses its requests at once, as one of its two lengths exceeds its field,
or it executes one command. In every state that a client can reach, a call of that command has
been refused, as its frame would be too long, or what it writes is one exact frame. -/
inductive SumUp.Exact {S α : Type} (server : Server S) (device : Device) (kind : SumUp)
    (sizes : List (Nat × List UInt8)) (readSize : Nat) (operation : Operation S α) : Prop
  | refused (exceeds : 2 ^ 32 ≤ readSize ∨ 2 ^ 32 ≤ kind.writeSize sizes)
      (refuses : ∀ link, operation link = (.err .overflow, link))
  | communicates (request : Request) (finish : Received → Outcome Error α)
      (target : request.target = device.addr)
      (executes : operation =
        communicate server device request.cmd request.payloadBufs request.resultBufs >>=
          fun received => Operation.ofOutcome (finish received))
      (calls : ∀ readTimeout labels world,
        Run World.step (.initial device.source readTimeout) labels world →
          ∀ (id : CallId) (call : Call), world.calls[id]? = some call →
            call.request = request →
              2 ^ 32 ≤ amsHeaderSize + (indexLengthRWSize + kind.writeSize sizes) ∧
                  world.Refused id ∨
                ∃ frame, assembleRequest device.source request call.invokeId = .ok frame ∧
                  kind.ExactFrame sizes readSize frame ∧ world.SendsFrame id frame)

section SumUp

variable {S α : Type} {server : Server S} {device : Device}

/-- What is computed from the outcome of a computation on a result is computed from the
result. -/
theorem Operation.bind_bind_ofOutcome {β γ : Type} (operation : Operation S α) (f : α → β)
    (next : β → Outcome Error γ) :
    ((operation >>= fun value => ofOutcome (.ok (f value))) >>= fun value =>
        ofOutcome (next value)) =
      operation >>= fun value => ofOutcome (next (f value)) := by
  funext link
  rcases ran : operation link with ⟨outcome, after⟩
  cases outcome with
  | ok value =>
      have first : (operation >>= fun value => (ofOutcome (.ok (f value)) : Operation S β)) link =
          (.ok (f value), after) := bind_run_ok ran
      rw [bind_run_ok first, bind_run_ok ran]
  | err error => rw [bind_run_err (bind_run_err ran), bind_run_err ran]
  | panic => rw [bind_run_panic (bind_run_panic ran), bind_run_panic ran]

/-- A call over a sum-up request is exact if its sums, where they fit their fields, bound
every number that is cut off. -/
theorem SumUp.exact_sumUp {kind : SumUp} {items : List Item} {rlen wlen : Nat}
    {sizes : List (Nat × List UInt8)} {wBuffers rBuffers : List (List UInt8)}
    (written : kind.writeSize sizes = wlen)
    (sent : wBuffers.flatten = items.flatMap kind.head ++ items.flatMap (·.writeData))
    (size : wBuffers.flatten.length = wlen)
    (bounded : Sends rlen wlen → items.length < 2 ^ 32 ∧ (∀ item ∈ items, kind.Fits item) ∧
      items.map (fun item => (item.readLength.toNat, item.writeData)) = sizes)
    (next : List (List UInt8) → Outcome Error α) :
    kind.Exact server device sizes rlen
      (sumUp server device kind.indexGroup items.length rlen wlen wBuffers rBuffers >>=
        fun bufs => Operation.ofOutcome (next bufs)) := by
  subst written
  by_cases reads : rlen < 2 ^ 32
  swap
  · apply Exact.refused (Or.inl (Nat.le_of_not_lt reads))
    intro link
    rw [sumUp, tryInto_of_not_lt reads]
    rfl
  by_cases writes : kind.writeSize sizes < 2 ^ 32
  swap
  · apply Exact.refused (Or.inr (Nat.le_of_not_lt writes))
    intro link
    rw [sumUp, tryInto_of_lt reads, tryInto_of_not_lt writes]
    rfl
  let header : IndexLengthRW :=
    ⟨kind.indexGroup, UInt32.ofNat items.length, UInt32.ofNat rlen,
      UInt32.ofNat (kind.writeSize sizes)⟩
  apply Exact.communicates
    ⟨.readWrite, device.addr, header.asBytes :: wBuffers, u32Bytes 0 :: rBuffers⟩
    (fun received => next received.bufs.tail) rfl
  · rw [sumUp, tryInto_of_lt reads, tryInto_of_lt writes]
    exact Operation.bind_bind_ofOutcome _ (fun received : Received => received.bufs.tail) next
  · intro readTimeout labels world run id call found same
    have length : call.request.payloadBufs.flatten.length =
        indexLengthRWSize + kind.writeSize sizes := by
      rw [same, List.flatten_cons, List.length_append, IndexLengthRW.length_asBytes, size]
      rfl
    have exact : amsHeaderSize + call.request.payloadBufs.flatten.length < 2 ^ 32 →
        kind.ExactPayload sizes rlen call.request.payloadBufs.flatten := by
      rw [length, same, List.flatten_cons]
      intro short
      obtain ⟨count, fits, sizesSame⟩ := bounded ⟨reads, short⟩
      have payload := exactPayload reads writes count fits (by rw [← sent, size])
      rwa [sizesSame, SumUp.payload, ← sent] at payload
    rw [← same]
    rcases SumUp.refused_or_sends run found exact with ⟨long, refused⟩ | sends
    · rw [Request.Overlong, ← List.length_flatten, length] at long
      exact Or.inl ⟨Nat.le_of_not_lt long, refused⟩
    · exact Or.inr sends

theorem readMulti_exact (requests : List ReadRequest) :
    SumUp.readEx.Exact server device (requests.map fun r => (r.rbuf.length, []))
      (readLength requests) (readMulti server device requests) := by
  have number : (requests.map ReadRequest.item).length = requests.length := List.length_map _
  have written : SumUp.readEx.writeSize (requests.map fun r => (r.rbuf.length, [])) =
      indexLengthSize * requests.length := by
    rw [SumUp.writeSize, List.map_map]
    exact (congrArg List.sum List.map_const').trans
      (List.sum_replicate_nat.trans (Nat.mul_comm _ _))
  rw [readMulti, ← number]
  apply SumUp.exact_sumUp (number ▸ written) (ReadRequest.flatten_sent requests)
    (number ▸ ReadRequest.length_sent requests)
  rintro ⟨reads, short⟩
  refine ⟨?_, List.forall_mem_map.mpr fun request _ => request.fits_item, ?_⟩
  · simp only [indexLengthSize] at short
    omega
  · rw [List.map_map]
    apply List.map_congr_left
    intro request member
    have bound := member_lt_of_sum_lt reads request member
    have fits : request.rbuf.length < 2 ^ 32 := by omega
    exact congrArg (·, []) (ReadRequest.item_readLength fits)

theorem writeMulti_exact (requests : List WriteRequest) :
    SumUp.write.Exact server device (requests.map fun r => (0, r.wbuf)) (4 * requests.length)
      (writeMulti server device requests) := by
  have number : (requests.map WriteRequest.item).length = requests.length := List.length_map _
  have written : SumUp.write.writeSize (requests.map fun r => (0, r.wbuf)) =
      writeLength requests := by
    rw [SumUp.writeSize, List.map_map]
    rfl
  rw [writeMulti, ← number]
  apply SumUp.exact_sumUp written (WriteRequest.flatten_sent requests)
    (WriteRequest.length_sent requests)
  rintro ⟨reads, short⟩
  have writes : writeLength requests < 2 ^ 32 := by omega
  refine ⟨by omega, List.forall_mem_map.mpr fun request member => ?_, ?_⟩
  · have bound := member_lt_of_sum_lt writes request member
    exact request.fits_item (by omega)
  · rw [List.map_map]
    exact List.map_congr_left fun request _ => rfl

theorem writeReadMulti_exact (requests : List WriteReadRequest) :
    SumUp.readWrite.Exact server device (requests.map fun r => (r.rbuf.length, r.wbuf))
      (writeReadReadLength requests) (writeReadMulti server device requests) := by
  have number : (requests.map WriteReadRequest.item).length = requests.length :=
    List.length_map _
  have written :
      SumUp.readWrite.writeSize (requests.map fun r => (r.rbuf.length, r.wbuf)) =
        writeReadWriteLength requests := by
    rw [SumUp.writeSize, List.map_map]
    rfl
  rw [writeReadMulti, ← number]
  apply SumUp.exact_sumUp written (WriteReadRequest.flatten_sent requests)
    (WriteReadRequest.length_sent requests)
  rintro ⟨reads, short⟩
  have writes : writeReadWriteLength requests < 2 ^ 32 := by omega
  refine ⟨?_, List.forall_mem_map.mpr fun request member => ?_, ?_⟩
  · rw [number]
    exact count_lt_of_sum_lt writes fun request => by simp [indexLengthRWSize]; omega
  · have bound := member_lt_of_sum_lt writes request member
    exact request.fits_item (by omega)
  · rw [List.map_map]
    apply List.map_congr_left
    intro request member
    have bound := member_lt_of_sum_lt reads request member
    have fits : request.rbuf.length < 2 ^ 32 := by omega
    exact congrArg (·, request.wbuf) (WriteReadRequest.item_readLength fits)

end SumUp

/-- For all requests: a sum-up read, write, or write and read is refused, or goes out in a
frame whose every length and count is that of its buffers. -/
theorem sumUp_lengths_exact {S : Type} (server : Server S) (device : Device) :
    (∀ requests : List ReadRequest,
      SumUp.readEx.Exact server device (requests.map fun r => (r.rbuf.length, []))
        (requests.map fun r => resultLengthSize + r.rbuf.length).sum
        (readMulti server device requests)) ∧
    (∀ requests : List WriteRequest,
      SumUp.write.Exact server device (requests.map fun r => (0, r.wbuf))
        (4 * requests.length) (writeMulti server device requests)) ∧
    (∀ requests : List WriteReadRequest,
      SumUp.readWrite.Exact server device (requests.map fun r => (r.rbuf.length, r.wbuf))
        (requests.map fun r => resultLengthSize + r.rbuf.length).sum
        (writeReadMulti server device requests)) :=
  ⟨readMulti_exact, writeMulti_exact, writeReadMulti_exact⟩

/-- Two writes go out in one frame. -/
theorem twoWrites_sent :
    let device : Device := ⟨⟨.localId, 800⟩, ⟨.localId, 851⟩⟩
    let writes : List WriteRequest := [.new 0x4020 2 [7, 7], .new 0x4020 5 []]
    ∃ (request : Request) (finish : Received → Outcome Error (List WriteRequest)) (world : World),
      writeMulti memoryHandler.server device writes =
          (communicate memoryHandler.server device request.cmd request.payloadBufs
              request.resultBufs >>= fun received => Operation.ofOutcome (finish received)) ∧
        Run World.step (.initial device.source false) [.start request, .insert 0, .write 0 none]
          world ∧
        world.written = [0] ∧ SumUp.write.ExactFrame [(0, [7, 7]), (0, [])] 8 world.sent := by
  intro device writes
  rcases (sumUp_lengths_exact memoryHandler.server device).2.1 writes with
    ⟨exceeds, -⟩ | ⟨request, finish, -, executes, calls⟩
  · exact absurd exceeds (by decide)
  · have started : Run World.step (.initial device.source false) [.start request]
        ((World.initial device.source false).start request) := .of_execute rfl
    rcases calls false _ _ started 0 _ rfl rfl with ⟨long, -⟩ | ⟨frame, assembled, exact, -⟩
    · exact absurd long (by decide)
    · have executed : ∃ world, execute World.step (.initial device.source false)
          [.start request, .insert 0, .write 0 none] = some world ∧ world.written = [0] ∧
            world.sent = frame := by
        change ∃ world, execute World.step ((World.initial device.source false).start request)
          [.insert 0, .write 0 none] = some world ∧ _
        have assembled' : assembleRequest (World.initial device.source false).source request
            (World.initial device.source false).invokeId = .ok frame := assembled
        rw [World.start, assembled']
        exact ⟨_, rfl, rfl, rfl⟩
      obtain ⟨world, executed, written, sent⟩ := executed
      exact ⟨request, finish, world, executes, .of_execute executed, written, sent ▸ exact⟩

end Ads.Client
