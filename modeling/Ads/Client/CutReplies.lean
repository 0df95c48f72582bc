import Ads.Bytes.Window
import Ads.Client.Notifications
import Ads.Client.Reads

/-!
# Sum-up replies that are cut short

What the items of a sum-up request report when the reply may end anywhere, and
when a success that they report was received.
-/

namespace Ads.Client

open Ads.Bytes Ads.Control

namespace Reply

/-- The word at a position behind the length field, with zeros for the bytes that did not
come. -/
def word (reply : Reply) (position : Nat) : UInt32 :=
  leU32 (reply.bytes.drop position)

/-- The record of an item came whole, with a result word of zero. -/
def Succeeded (reply : Reply) (size index : Nat) : Prop :=
  size * (index + 1) ≤ reply.bytes.length ∧ reply.word (size * index) = 0

/-- Of the first `count` records, none that is cut has nothing but zeros in what came of its
result word. -/
def Uncut (reply : Reply) (size count : Nat) : Prop :=
  ∀ index < count, reply.word (size * index) = 0 → size * (index + 1) ≤ reply.bytes.length

/-- How many bytes the record of an item announces. -/
def itemLength (reply : Reply) (index : Nat) : Nat :=
  (reply.word (8 * index + 4)).toNat

/-- The reply has a run of bytes. -/
def Carries (reply : Reply) (position count : Nat) : Prop :=
  count = 0 ∨ position + count ≤ reply.bytes.length

end Reply

variable {reply : Reply} {device : Device} {link : Link Unit}

/-- A sum-up request whose lengths fit their fields. -/
def Sends (rlen wlen : Nat) : Prop :=
  rlen < 2 ^ 32 ∧ amsHeaderSize + (indexLengthRWSize + wlen) < 2 ^ 32

/-- What a sum-up request makes of the reply. -/
theorem sumUp_answering_iff {α : Type} {indexGroup : UInt32} {nreq rlen wlen : Nat}
    {wBuffers rBuffers : List (List UInt8)} (size : wBuffers.flatten.length = wlen)
    {next : List (List UInt8) → Outcome Error α} {result : α} :
    (∃ last, (sumUp (.answering reply) device indexGroup nreq rlen wlen wBuffers rBuffers >>=
        fun bufs => Operation.ofOutcome (next bufs)) link = (.ok result, last)) ↔
      Sends rlen wlen ∧ reply.Accepted ∧ next (scatter rBuffers reply.bytes) = .ok result := by
  have total : ∀ header : IndexLengthRW, (header.asBytes :: wBuffers).flatten.length =
      indexLengthRWSize + wlen := by
    intro header
    rw [List.flatten_cons, List.length_append, size]
    simp [indexLengthRWSize]
  constructor
  · rintro ⟨last, ran⟩
    rcases Operation.bind_run_eq_ok_iff.mp ran with ⟨bufs, _, summed, rest⟩
    rw [sumUp] at summed
    rcases Operation.ofOutcome_bind_run_eq_ok_iff.mp summed with ⟨readLength, reads, others⟩
    rcases Operation.ofOutcome_bind_run_eq_ok_iff.mp others with ⟨writeLength, -, others⟩
    rcases Operation.bind_run_eq_ok_iff.mp others with ⟨received, _, exchanged, filled⟩
    rcases communicate_answering_iff.mp ⟨_, exchanged⟩ with ⟨short, accepted, rfl⟩
    cases filled
    rw [total] at short
    exact ⟨⟨(tryInto_eq_ok_iff.mp reads).1, short⟩, accepted, congrArg Prod.fst rest⟩
  · rintro ⟨⟨reads, short⟩, accepted, rest⟩
    have writes : wlen < 2 ^ 32 := by omega
    rcases (@communicate_answering_iff reply device link .readWrite
      (IndexLengthRW.asBytes ⟨indexGroup, UInt32.ofNat nreq, UInt32.ofNat rlen,
        UInt32.ofNat wlen⟩ :: wBuffers) rBuffers _).mpr
      ⟨by rw [total]; exact short, accepted, rfl⟩ with ⟨last, exchanged⟩
    refine ⟨last, Operation.bind_run_eq_ok_iff.mpr ⟨_, last, ?_, congrArg (·, last) rest⟩⟩
    refine Operation.ofOutcome_bind_run_eq_ok_iff.mpr
      ⟨_, tryInto_eq_ok_iff.mpr ⟨reads, rfl⟩, ?_⟩
    refine Operation.ofOutcome_bind_run_eq_ok_iff.mpr
      ⟨_, tryInto_eq_ok_iff.mpr ⟨writes, rfl⟩, ?_⟩
    exact Operation.bind_run_eq_ok_iff.mpr ⟨_, last, exchanged, rfl⟩

/-- What holds of every result that a call returns holds of the one result that an accepted
reply has. -/
theorem forall_answered_iff {α : Type} {operation : Operation Unit α} {sends : Prop} {made : α}
    (answering : ∀ result, (∃ last, operation link = (.ok result, last)) ↔
      sends ∧ reply.Accepted ∧ made = result) {Good : α → Prop} :
    (∀ result last, operation link = (.ok result, last) → Good result) ↔
      (sends → reply.Accepted → Good made) := by
  constructor
  · intro good sent accepted
    rcases (answering made).mpr ⟨sent, accepted, rfl⟩ with ⟨last, ran⟩
    exact good made last ran
  · intro good result last ran
    rcases (answering result).mp ⟨last, ran⟩ with ⟨sent, accepted, rfl⟩
    exact good sent accepted

/-! ## The results of the items -/

/-- The results take up the reply record by record. -/
theorem scatter_uniform {size : Nat} {results : List (List UInt8)} {index : Nat}
    {buf : List UInt8} (uniform : ∀ buf ∈ results, buf.length = size)
    (found : results[index]? = some buf) :
    (scatter results reply.bytes)[index]? =
      some (overlay (reply.bytes.drop (size * index)) buf) := by
  have within : index ≤ results.length := (List.getElem?_eq_some_iff.mp found).1.le
  rw [getElem?_scatter, found, ← offset_of_uniform uniform within]
  rfl

/-- Where an item succeeds by its result word, all successes were received exactly when no
record is cut behind zeros. -/
theorem Reply.successes_iff {R : Type} {Success : R → Prop} {size : Nat} {filled : List R}
    (codes : ∀ (index : Nat) (request : R), filled[index]? = some request →
      (Success request ↔ reply.word (size * index) = 0)) :
    (∀ (index : Nat) (request : R), filled[index]? = some request → Success request →
        reply.Succeeded size index) ↔ reply.Uncut size filled.length := by
  constructor
  · intro received index bound zero
    have found := List.getElem?_eq_getElem bound
    exact (received index _ found ((codes index _ found).mpr zero)).1
  · intro uncut index request found success
    have zero := (codes index request found).mp success
    exact ⟨uncut index (List.getElem?_eq_some_iff.mp found).1 zero, zero⟩

/-- Requests that are filled from a row of results, one each. -/
theorem getElem?_zipWith_scatter {R : Type} {fill : R → List UInt8 → R} {res : R → List UInt8}
    {size : Nat} {requests : List R} (uniform : ∀ request, (res request).length = size)
    {index : Nat} {request : R} (found : requests[index]? = some request) :
    (List.zipWith fill requests (scatter (requests.map res) reply.bytes))[index]? =
      some (fill request (overlay (reply.bytes.drop (size * index)) (res request))) := by
  have sizes : ∀ buf ∈ requests.map res, buf.length = size := by
    intro buf member
    rcases List.mem_map.mp member with ⟨other, -, rfl⟩
    exact uniform other
  have isRes : (requests.map res)[index]? = some (res request) := by
    rw [List.getElem?_map, found, Option.map_some]
  rw [List.getElem?_zipWith, found, scatter_uniform sizes isRes]

/-- The same, from the filled request. -/
theorem exists_of_zipWith_scatter {R : Type} {fill : R → List UInt8 → R}
    {res : R → List UInt8} {size : Nat} {requests : List R}
    (uniform : ∀ request, (res request).length = size) {index : Nat} {filled : R}
    (found : (List.zipWith fill requests (scatter (requests.map res) reply.bytes))[index]? =
      some filled) :
    ∃ request, requests[index]? = some request ∧
      filled = fill request (overlay (reply.bytes.drop (size * index)) (res request)) := by
  have bound := (List.getElem?_eq_some_iff.mp found).1
  rw [List.length_zipWith] at bound
  have isRequest := List.getElem?_eq_getElem (Nat.lt_of_lt_of_le bound (Nat.min_le_left _ _))
  refine ⟨_, isRequest, ?_⟩
  rw [getElem?_zipWith_scatter uniform isRequest] at found
  exact (Option.some.inj found).symm

theorem length_zipWith_scatter {R : Type} (fill : R → List UInt8 → R) (res : R → List UInt8)
    (requests : List R) :
    (List.zipWith fill requests (scatter (requests.map res) reply.bytes)).length =
      requests.length := by
  simp

/-- Items whose result is one word succeed by that word. -/
theorem resultWord_eq_zero_iff {R : Type} {fill : R → List UInt8 → R} {res : R → UInt32}
    {Success : R → Prop} (byWord : ∀ request, Success request ↔ res request = 0)
    (res_fill : ∀ request bytes, res (fill request bytes) = leU32 bytes) {requests : List R}
    (fresh : ∀ request ∈ requests, res request = 0) (index : Nat) (filled : R)
    (found : (List.zipWith fill requests
      (scatter (requests.map fun r => u32Bytes (res r)) reply.bytes))[index]? = some filled) :
    Success filled ↔ reply.word (4 * index) = 0 := by
  rcases exists_of_zipWith_scatter (fun r => length_u32Bytes (res r)) found with
    ⟨request, isRequest, rfl⟩
  rw [byWord, res_fill, fresh request (List.mem_of_getElem? isRequest), leU32_overlay_zeros]
  rfl

/-! ## Writes -/

theorem WriteRequest.ensure_eq_ok_iff {request : WriteRequest} :
    request.ensure = .ok () ↔ request.res = 0 := by
  unfold ensure
  split
  · rename_i failed
    simp [failed]
  · rename_i succeeded
    simp [not_not.mp succeeded]

/-- The data that the items of a sum-up write send. -/
def writeLength (requests : List WriteRequest) : Nat :=
  (requests.map fun r => indexLengthSize + r.wbuf.length).sum

theorem WriteRequest.length_sent (requests : List WriteRequest) :
    (requests.map (·.req.asBytes) ++ requests.map (·.wbuf)).flatten.length =
      writeLength requests := by
  rw [length_flatten_headers_bodies fun r : WriteRequest => IndexLength.length_asBytes r.req]
  rfl

theorem writeMulti_answering_iff {requests filled : List WriteRequest} :
    (∃ last, writeMulti (.answering reply) device requests link = (.ok filled, last)) ↔
      Sends (4 * requests.length) (writeLength requests) ∧ reply.Accepted ∧
        List.zipWith WriteRequest.fill requests
          (scatter (requests.map fun r => u32Bytes r.res) reply.bytes) = filled := by
  rw [← Outcome.ok.injEq]
  exact sumUp_answering_iff (WriteRequest.length_sent requests)

theorem writeMulti_success_iff {requests : List WriteRequest}
    (fresh : ∀ request ∈ requests, request.res = 0) :
    (∀ filled last, writeMulti (.answering reply) device requests link = (.ok filled, last) →
        ∀ (index : Nat) (request : WriteRequest), filled[index]? = some request →
          request.ensure = .ok () → reply.Succeeded 4 index) ↔
      (Sends (4 * requests.length) (writeLength requests) → reply.Accepted →
        reply.Uncut 4 requests.length) := by
  have codes := @resultWord_eq_zero_iff reply _ WriteRequest.fill (·.res) _
    (fun _ => WriteRequest.ensure_eq_ok_iff) (fun _ _ => rfl) requests fresh
  have whole := Reply.successes_iff codes
  rw [length_zipWith_scatter] at whole
  rw [← whole]
  exact forall_answered_iff fun _ => writeMulti_answering_iff

/-! ## Notifications -/

theorem AddNotifRequest.handle_eq_ok_iff {Id : Type} {request : AddNotifRequest Id}
    {handle : UInt32} :
    request.handle = .ok handle ↔ request.res.result = 0 ∧ request.res.length = handle := by
  unfold AddNotifRequest.handle
  split
  · rename_i failed
    simp [failed]
  · rename_i succeeded
    simp [not_not.mp succeeded]

theorem DelNotifRequest.ensure_eq_ok_iff {request : DelNotifRequest} :
    request.ensure = .ok () ↔ request.res = 0 := by
  unfold ensure
  split
  · rename_i failed
    simp [failed]
  · rename_i succeeded
    simp [not_not.mp succeeded]

theorem AddNotifRequest.length_sent {Id : Type} (requests : List (AddNotifRequest Id)) :
    (requests.map (·.req.asBytes)).flatten.length = addNotifSize * requests.length := by
  rw [length_flatten_map_of_uniform fun r : AddNotifRequest Id => AddNotif.length_asBytes r.req]
  rfl

theorem addNotificationMulti_answering_iff {Id : Type} {requests : List (AddNotifRequest Id)}
    {notifHandles : NotifHandles} {result : List (AddNotifRequest Id) × NotifHandles} :
    (∃ last, addNotificationMulti (.answering reply) device requests notifHandles link =
        (.ok result, last)) ↔
      Sends (resultLengthSize * requests.length) (addNotifSize * requests.length) ∧
        reply.Accepted ∧
        let filled := List.zipWith AddNotifRequest.fill requests
          (scatter (requests.map (·.res.asBytes)) reply.bytes)
        (filled, insertHandles device.addr notifHandles filled) = result := by
  rw [← Outcome.ok.injEq]
  exact sumUp_answering_iff (AddNotifRequest.length_sent requests)

theorem deleteNotificationMulti_answering_iff {requests : List DelNotifRequest}
    {notifHandles : NotifHandles} {result : List DelNotifRequest × NotifHandles} :
    (∃ last, deleteNotificationMulti (.answering reply) device requests notifHandles link =
        (.ok result, last)) ↔
      Sends (4 * requests.length) (4 * requests.length) ∧ reply.Accepted ∧
        let filled := List.zipWith DelNotifRequest.fill requests
          (scatter (requests.map fun r => u32Bytes r.res) reply.bytes)
        (filled, removeHandles device.addr notifHandles filled) = result := by
  have size : (requests.map fun r => u32Bytes r.req).flatten.length = 4 * requests.length :=
    length_flatten_map_of_uniform (fun r => length_u32Bytes r.req) requests
  rw [← Outcome.ok.injEq]
  exact sumUp_answering_iff size

/-- Handles are reported and added as the reply says exactly when no record is cut behind
zeros. -/
theorem addNotificationMulti_success_iff {Id : Type} {requests : List (AddNotifRequest Id)}
    (fresh : ∀ request ∈ requests, request.res = .newZeroed) (notifHandles : NotifHandles) :
    (∀ filled handles last, addNotificationMulti (.answering reply) device requests notifHandles
        link = (.ok (filled, handles), last) →
        (∀ (index : Nat) (request : AddNotifRequest Id), filled[index]? = some request →
          (∃ handle, request.handle = .ok handle) → reply.Succeeded 8 index) ∧
        ∀ entry ∈ handles, entry ∈ notifHandles ∨ ∃ index < requests.length,
          reply.Succeeded 8 index ∧ entry = (device.addr, reply.word (8 * index + 4))) ↔
      (Sends (resultLengthSize * requests.length) (addNotifSize * requests.length) →
        reply.Accepted → reply.Uncut 8 requests.length) := by
  have results : ∀ (index : Nat) (filled : AddNotifRequest Id),
      (List.zipWith AddNotifRequest.fill requests
        (scatter (requests.map (·.res.asBytes)) reply.bytes))[index]? = some filled →
        filled.res = ⟨reply.word (8 * index), reply.word (8 * index + 4)⟩ := by
    intro index filled found
    rcases exists_of_zipWith_scatter
      (fun r : AddNotifRequest Id => ResultLength.length_asBytes r.res) found with
      ⟨request, isRequest, rfl⟩
    rw [AddNotifRequest.fill, fresh request (List.mem_of_getElem? isRequest)]
    dsimp only
    rw [ResultLength.ofBytes_overlay_zeros, List.drop_drop]
    rfl
  have codes : ∀ (index : Nat) (filled : AddNotifRequest Id),
      (List.zipWith AddNotifRequest.fill requests
        (scatter (requests.map (·.res.asBytes)) reply.bytes))[index]? = some filled →
        ((∃ handle, filled.handle = .ok handle) ↔ reply.word (8 * index) = 0) := by
    intro index filled found
    simp only [AddNotifRequest.handle_eq_ok_iff, results index filled found,
      exists_and_left, exists_eq', and_true]
  have whole := Reply.successes_iff codes
  rw [length_zipWith_scatter] at whole
  constructor
  · intro received sends accepted
    rcases (@addNotificationMulti_answering_iff reply device link Id requests notifHandles
      _).mpr ⟨sends, accepted, rfl⟩ with ⟨last, ran⟩
    exact whole.mp (received _ _ last ran).1
  · intro uncut filled handles last ran
    rcases addNotificationMulti_answering_iff.mp ⟨last, ran⟩ with ⟨sends, accepted, same⟩
    cases same
    have successes := whole.mpr (uncut sends accepted)
    refine ⟨successes, ?_⟩
    intro entry member
    rcases mem_insertHandles_iff.mp member with old | ⟨request, isFilled, handle, returned, rfl⟩
    · exact .inl old
    · rcases List.mem_iff_getElem?.mp isFilled with ⟨index, found⟩
      have bound := (List.getElem?_eq_some_iff.mp found).1
      rw [length_zipWith_scatter] at bound
      refine .inr ⟨index, bound, successes index request found ⟨handle, returned⟩, ?_⟩
      rw [← (AddNotifRequest.handle_eq_ok_iff.mp returned).2, results index request found]

/-- Handles are removed as the reply says exactly when no record is cut behind zeros. -/
theorem deleteNotificationMulti_success_iff {requests : List DelNotifRequest}
    (fresh : ∀ request ∈ requests, request.res = 0) (notifHandles : NotifHandles) :
    (∀ filled handles last, deleteNotificationMulti (.answering reply) device requests
        notifHandles link = (.ok (filled, handles), last) →
        (∀ (index : Nat) (request : DelNotifRequest), filled[index]? = some request →
          request.ensure = .ok () → reply.Succeeded 4 index) ∧
        ∀ entry ∈ notifHandles, entry ∈ handles ∨ ∃ (index : Nat) (request : DelNotifRequest),
          requests[index]? = some request ∧ reply.Succeeded 4 index ∧
            entry = (device.addr, request.req)) ↔
      (Sends (4 * requests.length) (4 * requests.length) → reply.Accepted →
        reply.Uncut 4 requests.length) := by
  have codes := @resultWord_eq_zero_iff reply _ DelNotifRequest.fill (·.res) _
    (fun _ => DelNotifRequest.ensure_eq_ok_iff) (fun _ _ => rfl) requests fresh
  have whole := Reply.successes_iff codes
  rw [length_zipWith_scatter] at whole
  constructor
  · intro received sends accepted
    rcases (@deleteNotificationMulti_answering_iff reply device link requests notifHandles
      _).mpr ⟨sends, accepted, rfl⟩ with ⟨last, ran⟩
    exact whole.mp (received _ _ last ran).1
  · intro uncut filled handles last ran
    rcases deleteNotificationMulti_answering_iff.mp ⟨last, ran⟩ with ⟨sends, accepted, same⟩
    cases same
    have successes := whole.mpr (uncut sends accepted)
    refine ⟨successes, ?_⟩
    intro entry member
    by_cases kept : entry ∈ removeHandles device.addr notifHandles
        (List.zipWith DelNotifRequest.fill requests
          (scatter (requests.map fun r => u32Bytes r.res) reply.bytes))
    · exact .inl kept
    · have removed : ∃ request ∈ List.zipWith DelNotifRequest.fill requests
          (scatter (requests.map fun r => u32Bytes r.res) reply.bytes),
          request.ensure = .ok () ∧ entry = (device.addr, request.req) := by
        by_contra none
        apply kept
        refine mem_removeHandles_iff.mpr ⟨member, ?_⟩
        intro request isFilled ensured equal
        exact none ⟨request, isFilled, ensured, equal⟩
      rcases removed with ⟨filled, isFilled, ensured, rfl⟩
      rcases List.mem_iff_getElem?.mp isFilled with ⟨index, found⟩
      rcases exists_of_zipWith_scatter (fun r : DelNotifRequest => length_u32Bytes r.res)
        found with ⟨request, isRequest, same⟩
      refine .inr ⟨index, request, isRequest, successes index filled found ensured, ?_⟩
      rw [same]
      rfl

/-! ## Reads -/

theorem getElem?_zipWith3 {α β γ δ : Type} {f : α → β → γ → δ} {as : List α} {bs : List β}
    {cs : List γ} {index : Nat} {a : α} {b : β} {c : γ} (first : as[index]? = some a)
    (second : bs[index]? = some b) (third : cs[index]? = some c) :
    (List.zipWith3 f as bs cs)[index]? = some (f a b c) := by
  induction as generalizing bs cs index with
  | nil => cases first
  | cons head as ih =>
      cases bs with
      | nil => cases second
      | cons middle bs =>
          cases cs with
          | nil => cases third
          | cons last cs =>
              cases index with
              | zero =>
                  cases first
                  cases second
                  cases third
                  rfl
              | succ index => exact ih first second third

theorem length_zipWith3_le {α β γ δ : Type} (f : α → β → γ → δ) (as : List α) (bs : List β)
    (cs : List γ) : (List.zipWith3 f as bs cs).length ≤ as.length := by
  induction as generalizing bs cs with
  | nil => exact Nat.le_refl 0
  | cons head as ih =>
      cases bs with
      | nil => exact Nat.zero_le _
      | cons middle bs =>
          cases cs with
          | nil => exact Nat.zero_le _
          | cons last cs => exact Nat.succ_le_succ (ih bs cs)

section Filled

variable {R : Type} {fill : R → List UInt8 → List UInt8 → R} {res rbuf : R → List UInt8}

/-- What a row of results and a row of buffers behind it make of a list of requests. -/
def fillRequests (fill : R → List UInt8 → List UInt8 → R) (res rbuf : R → List UInt8)
    (requests : List R) (bytes : List UInt8) : List R :=
  let bufs := scatter (requests.map res ++ requests.map rbuf) bytes
  List.zipWith3 fill requests (bufs.take requests.length) (bufs.drop requests.length)

theorem scatter_results_bufs {requests : List R}
    (uniform : ∀ request, (res request).length = 8) (bytes : List UInt8) :
    scatter (requests.map res ++ requests.map rbuf) bytes =
      scatter (requests.map res) bytes ++
        scatter (requests.map rbuf) (bytes.drop (8 * requests.length)) := by
  have sizes : ∀ buf ∈ requests.map res, buf.length = 8 := by
    intro buf member
    rcases List.mem_map.mp member with ⟨request, -, rfl⟩
    exact uniform request
  have whole := offset_of_uniform sizes (Nat.le_refl _)
  rw [offset, List.take_length, List.length_map] at whole
  rw [scatter_append, whole]

theorem getElem?_fillRequests {requests : List R}
    (uniform : ∀ request, (res request).length = 8) {index : Nat} {request : R}
    (found : requests[index]? = some request) :
    (fillRequests fill res rbuf requests reply.bytes)[index]? =
      some (fill request (overlay (reply.bytes.drop (8 * index)) (res request))
        (overlay (reply.bytes.drop (8 * requests.length + offset (requests.map rbuf) index))
          (rbuf request))) := by
  have sizes : ∀ buf ∈ requests.map res, buf.length = 8 := by
    intro buf member
    rcases List.mem_map.mp member with ⟨other, -, rfl⟩
    exact uniform other
  have isRes : (requests.map res)[index]? = some (res request) := by
    rw [List.getElem?_map, found, Option.map_some]
  have isBuf : (requests.map rbuf)[index]? = some (rbuf request) := by
    rw [List.getElem?_map, found, Option.map_some]
  have count : (scatter (requests.map res) reply.bytes).length = requests.length := by simp
  rw [fillRequests, scatter_results_bufs uniform, List.take_left' count, List.drop_left' count]
  apply getElem?_zipWith3 found (scatter_uniform sizes isRes)
  rw [getElem?_scatter, isBuf, Option.map_some, List.drop_drop]
  rfl

theorem length_fillRequests {requests : List R}
    (uniform : ∀ request, (res request).length = 8) :
    (fillRequests fill res rbuf requests reply.bytes).length = requests.length := by
  apply Nat.le_antisymm (length_zipWith3_le _ _ _ _)
  by_contra short
  have isRequest := List.getElem?_eq_getElem (Nat.lt_of_not_le short)
  have isFilled : (fillRequests fill res rbuf requests reply.bytes)[
      (fillRequests fill res rbuf requests reply.bytes).length]? = some _ :=
    getElem?_fillRequests uniform isRequest
  rw [List.getElem?_eq_none (Nat.le_refl _)] at isFilled
  cases isFilled

theorem exists_of_fillRequests {requests : List R}
    (uniform : ∀ request, (res request).length = 8) {index : Nat} {filled : R}
    (found : (fillRequests fill res rbuf requests reply.bytes)[index]? = some filled) :
    ∃ request, requests[index]? = some request ∧
      filled = fill request (overlay (reply.bytes.drop (8 * index)) (res request))
        (overlay (reply.bytes.drop (8 * requests.length + offset (requests.map rbuf) index))
          (rbuf request)) := by
  have bound : index < requests.length :=
    Nat.lt_of_lt_of_le (List.getElem?_eq_some_iff.mp found).1 (length_zipWith3_le _ _ _ _)
  have isRequest := List.getElem?_eq_getElem bound
  refine ⟨_, isRequest, ?_⟩
  rw [getElem?_fillRequests uniform isRequest] at found
  exact (Option.some.inj found).symm

end Filled

namespace Reply

/-- The data are the bytes of the reply at the given place. -/
def Returned (reply : Reply) (position count : Nat) (data : List UInt8) : Prop :=
  data.length = count ∧ data = window reply.bytes position count

/-- What the front of a buffer shows of the reply. -/
theorem returned_iff {position start count : Nat} {buf : List UInt8}
    (fits : start + count ≤ buf.length) :
    reply.Returned (position + start) count
        (window (overlay (reply.bytes.drop position) buf) start count) ↔
      reply.Carries (position + start) count := by
  have length : (window (overlay (reply.bytes.drop position) buf) start count).length = count :=
    length_window (by rw [length_overlay]; exact fits)
  have shifted : window reply.bytes (position + start) count =
      window (reply.bytes.drop position) start count := by
    rw [window, window, List.drop_drop]
  rw [Returned, shifted, window_overlay_eq_iff fits, List.length_drop, Carries]
  constructor
  · rintro ⟨-, within⟩
    omega
  · intro within
    exact ⟨length, by omega⟩

end Reply

/-- The sizes of the results and buffers of a sum-up read. -/
def readLength (requests : List ReadRequest) : Nat :=
  (requests.map fun r => resultLengthSize + r.rbuf.length).sum

theorem ReadRequest.length_sent (requests : List ReadRequest) :
    (requests.map (·.req.asBytes)).flatten.length = indexLengthSize * requests.length := by
  rw [length_flatten_map_of_uniform fun r : ReadRequest => IndexLength.length_asBytes r.req]
  rfl

theorem readMulti_answering_iff {requests filled : List ReadRequest} :
    (∃ last, readMulti (.answering reply) device requests link = (.ok filled, last)) ↔
      Sends (readLength requests) (indexLengthSize * requests.length) ∧ reply.Accepted ∧
        fillRequests ReadRequest.fill (·.res.asBytes) (·.rbuf) requests reply.bytes =
          filled := by
  rw [← Outcome.ok.injEq]
  exact sumUp_answering_iff (ReadRequest.length_sent requests)

/-- Where the data of an item of a sum-up read is, with all items at full length. -/
def readPosition (requests : List ReadRequest) (index : Nat) : Nat :=
  8 * requests.length + offset (requests.map (·.rbuf)) index

theorem readMulti_success_iff {requests : List ReadRequest}
    (fresh : ∀ request ∈ requests, request.res = .newZeroed) :
    (∀ filled last, readMulti (.answering reply) device requests link = (.ok filled, last) →
        ∀ (index : Nat) (request : ReadRequest), filled[index]? = some request →
          ∀ data, request.data = .ok data → reply.Succeeded 8 index ∧
            reply.Returned (readPosition requests index) (reply.itemLength index) data) ↔
      (Sends (readLength requests) (indexLengthSize * requests.length) → reply.Accepted →
        ∀ (index : Nat) (request : ReadRequest), requests[index]? = some request →
          reply.word (8 * index) = 0 → reply.itemLength index ≤ request.rbuf.length →
            8 * (index + 1) ≤ reply.bytes.length ∧
              reply.Carries (readPosition requests index) (reply.itemLength index)) := by
  have uniform : ∀ request : ReadRequest, request.res.asBytes.length = 8 :=
    fun request => ResultLength.length_asBytes request.res
  have dataOf : ∀ (index : Nat) (request : ReadRequest) (data : List UInt8),
      requests[index]? = some request →
        ((request.fill (overlay (reply.bytes.drop (8 * index)) request.res.asBytes)
          (overlay (reply.bytes.drop (readPosition requests index)) request.rbuf)).data =
            .ok data ↔ reply.word (8 * index) = 0 ∧
              reply.itemLength index ≤ request.rbuf.length ∧
              data = window (overlay (reply.bytes.drop (readPosition requests index))
                request.rbuf) 0 (reply.itemLength index)) := by
    intro index request data found
    rw [ReadRequest.data, returnedData_eq_ok_iff,
      ReadRequest.rbuf_fill _ (length_overlay _ _), length_overlay, ReadRequest.fill,
      fresh request (List.mem_of_getElem? found)]
    dsimp only
    rw [ResultLength.ofBytes_overlay_zeros, List.drop_drop]
    rfl
  constructor
  · intro received sends accepted index request found zero fits
    rcases (@readMulti_answering_iff reply device link requests _).mpr
      ⟨sends, accepted, rfl⟩ with ⟨last, ran⟩
    rcases received _ last ran index _ (getElem?_fillRequests uniform found) _
      ((dataOf index request _ found).mpr ⟨zero, fits, rfl⟩) with ⟨succeeded, returned⟩
    have carried := (@Reply.returned_iff reply (readPosition requests index) 0 _ request.rbuf
      (by omega)).mp returned
    exact ⟨succeeded.1, carried⟩
  · intro uncut filled last ran index request found data returned
    rcases readMulti_answering_iff.mp ⟨last, ran⟩ with ⟨sends, accepted, rfl⟩
    rcases exists_of_fillRequests uniform found with ⟨old, isOld, rfl⟩
    rcases (dataOf index old data isOld).mp returned with ⟨zero, fits, rfl⟩
    rcases uncut sends accepted index old isOld zero fits with ⟨whole, carried⟩
    refine ⟨⟨whole, zero⟩, ?_⟩
    exact (@Reply.returned_iff reply (readPosition requests index) 0 _ old.rbuf
      (by omega)).mpr carried

/-! ## Combined writes and reads -/

/-- The sizes of the results and buffers of a sum-up write and read. -/
def writeReadReadLength (requests : List WriteReadRequest) : Nat :=
  (requests.map fun r => resultLengthSize + r.rbuf.length).sum

/-- What the items of a sum-up write and read send. -/
def writeReadWriteLength (requests : List WriteReadRequest) : Nat :=
  (requests.map fun r => indexLengthRWSize + r.wbuf.length).sum

theorem WriteReadRequest.length_sent (requests : List WriteReadRequest) :
    (requests.map (·.req.asBytes) ++ requests.map (·.wbuf)).flatten.length =
      writeReadWriteLength requests := by
  rw [length_flatten_headers_bodies fun r : WriteReadRequest =>
    IndexLengthRW.length_asBytes r.req]
  rfl

theorem writeReadMulti_answering_iff {requests fixed : List WriteReadRequest} :
    (∃ last, writeReadMulti (.answering reply) device requests link = (.ok fixed, last)) ↔
      Sends (writeReadReadLength requests) (writeReadWriteLength requests) ∧ reply.Accepted ∧
        fixupWriteReadReturnBuffers (fillRequests WriteReadRequest.fill (·.res.asBytes)
          (·.rbuf) requests reply.bytes) = .ok fixed := by
  exact sumUp_answering_iff (WriteReadRequest.length_sent requests)

/-- Where the data of an item of a sum-up write and read is, with all items before it at
the lengths that they announce. -/
def writeReadPosition (reply : Reply) (requests : List WriteReadRequest) (index : Nat) : Nat :=
  8 * requests.length + ((List.range index).map reply.itemLength).sum

section Filled

variable {requests : List WriteReadRequest}
    (fresh : ∀ request ∈ requests, request.res = .newZeroed)

include fresh in
/-- The results and the buffers before they are moved. -/
theorem writeRead_filled {index : Nat} {filled : WriteReadRequest}
    (found : (fillRequests WriteReadRequest.fill (·.res.asBytes) (·.rbuf) requests
      reply.bytes)[index]? = some filled) :
    ∃ request, requests[index]? = some request ∧
      filled.res = ⟨reply.word (8 * index), reply.word (8 * index + 4)⟩ ∧
      filled.rbuf.length = request.rbuf.length := by
  rcases exists_of_fillRequests (fun r : WriteReadRequest => ResultLength.length_asBytes r.res)
    found with ⟨request, isRequest, rfl⟩
  refine ⟨request, isRequest, ?_, length_overlay _ _⟩
  rw [WriteReadRequest.fill, fresh request (List.mem_of_getElem? isRequest)]
  dsimp only
  rw [ResultLength.ofBytes_overlay_zeros, List.drop_drop]
  rfl

/-- The buffers, read through, are the data over what they held. -/
theorem flatten_writeRead_filled :
    (readBufs (fillRequests WriteReadRequest.fill (·.res.asBytes) (·.rbuf) requests
      reply.bytes)).flatten =
        overlay (reply.bytes.drop (8 * requests.length)) (readBufs requests).flatten := by
  have uniform : ∀ request : WriteReadRequest, request.res.asBytes.length = 8 :=
    fun request => ResultLength.length_asBytes request.res
  rw [← flatten_scatter]
  apply congrArg List.flatten
  apply List.ext_getElem?
  intro index
  rw [getElem?_scatter, List.drop_drop, readBufs, readBufs, List.getElem?_map,
    List.getElem?_map]
  cases found : requests[index]? with
  | none =>
      have short : (fillRequests WriteReadRequest.fill (·.res.asBytes) (·.rbuf) requests
          reply.bytes)[index]? = none := by
        apply List.getElem?_eq_none
        exact (length_zipWith3_le _ _ _ _).trans (List.getElem?_eq_none_iff.mp found)
      rw [short]
      rfl
  | some request =>
      rw [getElem?_fillRequests uniform found]
      exact congrArg some (WriteReadRequest.rbuf_fillBuf (length_overlay _ _))

include fresh in
/-- The data before an item is as long as the records before it announce. -/
theorem actualOffset_writeRead_filled {index : Nat} (within : index ≤ requests.length) :
    actualOffset (fillRequests WriteReadRequest.fill (·.res.asBytes) (·.rbuf) requests
      reply.bytes) index = ((List.range index).map reply.itemLength).sum := by
  induction index with
  | zero => rfl
  | succ index ih =>
      have isFilled := @getElem?_fillRequests reply _ WriteReadRequest.fill (·.res.asBytes)
        (·.rbuf) requests (fun r => ResultLength.length_asBytes r.res) index _
        (List.getElem?_eq_getElem within)
      rcases writeRead_filled fresh isFilled with ⟨_, _, result, -⟩
      rw [actualOffset_succ isFilled, ih (Nat.le_of_succ_le within), result,
        List.range_succ, List.map_append, List.sum_append, List.map_singleton,
        List.sum_singleton]
      rfl

include fresh in
/-- What the items return when no announced length exceeds its buffer. -/
theorem writeRead_fixed (fits : ∀ (index : Nat) (request : WriteReadRequest),
      requests[index]? = some request → reply.itemLength index ≤ request.rbuf.length) :
    ∃ fixed, fixupWriteReadReturnBuffers (fillRequests WriteReadRequest.fill (·.res.asBytes)
        (·.rbuf) requests reply.bytes) = .ok fixed ∧ fixed.length = requests.length ∧
      ∀ (index : Nat) (request : WriteReadRequest), fixed[index]? = some request →
        let start := ((List.range index).map reply.itemLength).sum
        start + reply.itemLength index ≤ (readBufs requests).flatten.length ∧
        ∀ data, request.data = .ok data ↔ reply.word (8 * index) = 0 ∧
          data = window (overlay (reply.bytes.drop (8 * requests.length))
            (readBufs requests).flatten) start (reply.itemLength index) := by
  have uniform : ∀ request : WriteReadRequest, request.res.asBytes.length = 8 :=
    fun request => ResultLength.length_asBytes request.res
  have filledFits : ∀ request ∈ fillRequests WriteReadRequest.fill (·.res.asBytes) (·.rbuf)
      requests reply.bytes, request.res.length.toNat ≤ request.rbuf.length := by
    intro filled member
    rcases List.mem_iff_getElem?.mp member with ⟨index, found⟩
    rcases writeRead_filled fresh found with ⟨request, isRequest, result, size⟩
    rw [result, size]
    exact fits index request isRequest
  have count := @length_fillRequests reply _ WriteReadRequest.fill (·.res.asBytes) (·.rbuf)
    requests uniform
  rcases fixupWriteReadReturnBuffers_each filledFits with ⟨fixed, ran, fixedCount, own⟩
  refine ⟨fixed, ran, fixedCount.trans count, ?_⟩
  intro index request found start
  have bound := (List.getElem?_eq_some_iff.mp found).1
  have isFilled := List.getElem?_eq_getElem (fixedCount ▸ bound)
  rcases writeRead_filled fresh isFilled with ⟨old, isOld, result, size⟩
  rcases own index _ isFilled with ⟨other, same, otherResult, otherSize, front⟩
  cases found.symm.trans same
  have within : index ≤ requests.length := (List.getElem?_eq_some_iff.mp isOld).1.le
  have begins : actualOffset _ index = start := actualOffset_writeRead_filled fresh within
  have before := actualOffset_le filledFits (count ▸ within)
  have ends := offset_add_length_le (readBufs_getElem? isFilled)
  have total := congrArg List.length (@flatten_writeRead_filled reply requests)
  rw [length_overlay] at total
  rw [begins] at before front
  rw [result, flatten_writeRead_filled] at front
  have fit := fits index old isOld
  constructor
  · omega
  · intro data
    rw [WriteReadRequest.data, returnedData_eq_ok_iff, otherResult, otherSize, result, size]
    constructor
    · rintro ⟨zero, -, rfl⟩
      exact ⟨zero, front⟩
    · rintro ⟨zero, rfl⟩
      exact ⟨zero, fit, front.symm⟩

include fresh in
theorem writeReadMulti_success_iff :
    (∀ fixed last, writeReadMulti (.answering reply) device requests link = (.ok fixed, last) →
        ∀ (index : Nat) (request : WriteReadRequest), fixed[index]? = some request →
          ∀ data, request.data = .ok data → reply.Succeeded 8 index ∧
            reply.Returned (writeReadPosition reply requests index) (reply.itemLength index)
              data) ↔
      (Sends (writeReadReadLength requests) (writeReadWriteLength requests) → reply.Accepted →
        (∀ (index : Nat) (request : WriteReadRequest), requests[index]? = some request →
          reply.itemLength index ≤ request.rbuf.length) →
        ∀ index < requests.length, reply.word (8 * index) = 0 →
          8 * (index + 1) ≤ reply.bytes.length ∧
            reply.Carries (writeReadPosition reply requests index) (reply.itemLength index)) := by
  constructor
  · intro received sends accepted fits index bound zero
    rcases writeRead_fixed fresh fits with ⟨fixed, ran, count, each⟩
    rcases (@writeReadMulti_answering_iff reply device link requests _).mpr
      ⟨sends, accepted, ran⟩ with ⟨last, whole⟩
    have found := List.getElem?_eq_getElem (count.symm ▸ bound)
    rcases each index _ found with ⟨inside, dataOf⟩
    rcases received fixed last whole index _ found _ ((dataOf _).mpr ⟨zero, rfl⟩) with
      ⟨succeeded, returned⟩
    exact ⟨succeeded.1, (Reply.returned_iff inside).mp returned⟩
  · intro uncut fixed last ran index request found data returned
    rcases writeReadMulti_answering_iff.mp ⟨last, ran⟩ with ⟨sends, accepted, moved⟩
    have fits : ∀ (index : Nat) (request : WriteReadRequest), requests[index]? = some request →
        reply.itemLength index ≤ request.rbuf.length := by
      intro index request isRequest
      have isFilled := @getElem?_fillRequests reply _ WriteReadRequest.fill (·.res.asBytes)
        (·.rbuf) requests (fun r => ResultLength.length_asBytes r.res) _ _ isRequest
      rcases writeRead_filled fresh isFilled with ⟨old, isOld, result, size⟩
      cases isRequest.symm.trans isOld
      have fit := fits_of_fixup moved _ (List.mem_of_getElem? isFilled)
      rw [result, size] at fit
      exact fit
    rcases writeRead_fixed fresh fits with ⟨others, alsoMoved, count, each⟩
    cases moved.symm.trans alsoMoved
    rcases each index request found with ⟨inside, dataOf⟩
    rcases (dataOf data).mp returned with ⟨zero, rfl⟩
    have bound := (List.getElem?_eq_some_iff.mp found).1
    rcases uncut sends accepted fits index (count ▸ bound) zero with ⟨whole, carried⟩
    exact ⟨⟨whole, zero⟩, (Reply.returned_iff inside).mpr carried⟩

end Filled

/-! ## All sum-up requests -/

/-- For every reply to fresh requests: whatever success the items of a sum-up request report
was received, with all data that they return, and the set of handles follows received
successes only, exactly when the reply does not end in a place where zeros for the bytes
that did not come pass for a success. -/
theorem sumUp_successes_iff {Id : Type} (reply : Reply) (device : Device) (link : Link Unit)
    (notifHandles : NotifHandles) (reads : List ReadRequest) (writes : List WriteRequest)
    (writeReads : List WriteReadRequest) (adds : List (AddNotifRequest Id))
    (deletes : List DelNotifRequest) (freshReads : ∀ request ∈ reads, request.res = .newZeroed)
    (freshWrites : ∀ request ∈ writes, request.res = 0)
    (freshWriteReads : ∀ request ∈ writeReads, request.res = .newZeroed)
    (freshAdds : ∀ request ∈ adds, request.res = .newZeroed)
    (freshDeletes : ∀ request ∈ deletes, request.res = 0) :
    let server := Server.answering reply
    ((∀ filled last, readMulti server device reads link = (.ok filled, last) →
        ∀ (index : Nat) (request : ReadRequest), filled[index]? = some request →
          ∀ data, request.data = .ok data → reply.Succeeded 8 index ∧
            reply.Returned (readPosition reads index) (reply.itemLength index) data) ↔
      (Sends (readLength reads) (indexLengthSize * reads.length) → reply.Accepted →
        ∀ (index : Nat) (request : ReadRequest), reads[index]? = some request →
          reply.word (8 * index) = 0 → reply.itemLength index ≤ request.rbuf.length →
            8 * (index + 1) ≤ reply.bytes.length ∧
              reply.Carries (readPosition reads index) (reply.itemLength index))) ∧
    ((∀ filled last, writeMulti server device writes link = (.ok filled, last) →
        ∀ (index : Nat) (request : WriteRequest), filled[index]? = some request →
          request.ensure = .ok () → reply.Succeeded 4 index) ↔
      (Sends (4 * writes.length) (writeLength writes) → reply.Accepted →
        reply.Uncut 4 writes.length)) ∧
    ((∀ fixed last, writeReadMulti server device writeReads link = (.ok fixed, last) →
        ∀ (index : Nat) (request : WriteReadRequest), fixed[index]? = some request →
          ∀ data, request.data = .ok data → reply.Succeeded 8 index ∧
            reply.Returned (writeReadPosition reply writeReads index) (reply.itemLength index)
              data) ↔
      (Sends (writeReadReadLength writeReads) (writeReadWriteLength writeReads) →
        reply.Accepted →
        (∀ (index : Nat) (request : WriteReadRequest), writeReads[index]? = some request →
          reply.itemLength index ≤ request.rbuf.length) →
        ∀ index < writeReads.length, reply.word (8 * index) = 0 →
          8 * (index + 1) ≤ reply.bytes.length ∧
            reply.Carries (writeReadPosition reply writeReads index)
              (reply.itemLength index))) ∧
    ((∀ filled handles last, addNotificationMulti server device adds notifHandles link =
          (.ok (filled, handles), last) →
        (∀ (index : Nat) (request : AddNotifRequest Id), filled[index]? = some request →
          (∃ handle, request.handle = .ok handle) → reply.Succeeded 8 index) ∧
        ∀ entry ∈ handles, entry ∈ notifHandles ∨ ∃ index < adds.length,
          reply.Succeeded 8 index ∧ entry = (device.addr, reply.word (8 * index + 4))) ↔
      (Sends (resultLengthSize * adds.length) (addNotifSize * adds.length) →
        reply.Accepted → reply.Uncut 8 adds.length)) ∧
    ((∀ filled handles last, deleteNotificationMulti server device deletes notifHandles link =
          (.ok (filled, handles), last) →
        (∀ (index : Nat) (request : DelNotifRequest), filled[index]? = some request →
          request.ensure = .ok () → reply.Succeeded 4 index) ∧
        ∀ entry ∈ notifHandles, entry ∈ handles ∨ ∃ (index : Nat) (request : DelNotifRequest),
          deletes[index]? = some request ∧ reply.Succeeded 4 index ∧
            entry = (device.addr, request.req)) ↔
      (Sends (4 * deletes.length) (4 * deletes.length) → reply.Accepted →
        reply.Uncut 4 deletes.length)) := by
  intro server
  exact ⟨readMulti_success_iff freshReads, writeMulti_success_iff freshWrites,
    writeReadMulti_success_iff freshWriteReads,
    addNotificationMulti_success_iff freshAdds notifHandles,
    deleteNotificationMulti_success_iff freshDeletes notifHandles⟩

/-- A reply with a length field and the given bytes behind it. -/
def replyOf (bytes : List UInt8) : Reply where
  errorCode := 0
  payload := u32Bytes 0 ++ (u32Bytes 0 ++ bytes)

/-- A reply that has both result words of two writes reports no success that it does not
have. -/
theorem wholeReply_successes :
    ∃ filled last, writeMulti (.answering (replyOf [0, 0, 0, 0, 6, 7, 0, 0]))
        ⟨⟨.localId, 1⟩, ⟨.localId, 851⟩⟩ [.new 1 2 [3], .new 4 5 [6]] ⟨1, (), []⟩ =
          (.ok filled, last) ∧
        ∀ (index : Nat) (request : WriteRequest), filled[index]? = some request →
          request.ensure = .ok () →
            (replyOf [0, 0, 0, 0, 6, 7, 0, 0]).Succeeded 4 index := by
  have whole := sumUp_successes_iff (replyOf [0, 0, 0, 0, 6, 7, 0, 0])
    ⟨⟨.localId, 1⟩, ⟨.localId, 851⟩⟩ ⟨1, (), []⟩ ∅ [.new 1 2 [3]]
    [.new 1 2 [3], .new 4 5 [6]] [.new 1 2 [3] [4]]
    [.new 1 2 ⟨4, .serverCycle, ⟨0, 0⟩, ⟨1, 0⟩⟩] [.new 9] (by simp [ReadRequest.new])
    (by simp [WriteRequest.new]) (by simp [WriteReadRequest.new])
    (by simp [AddNotifRequest.new]) (by simp [DelNotifRequest.new])
  refine ⟨_, _, rfl, whole.2.1.mpr ?_ _ _ rfl⟩
  intro _ _ index bound _
  match index, bound with
  | 0, _ => decide
  | 1, _ => decide

/-- A reply that ends before the results makes a write succeed, and adds a handle. -/
theorem emptyReply_succeeds :
    ¬ (∀ filled last, writeMulti (.answering (replyOf [])) ⟨⟨.localId, 1⟩, ⟨.localId, 851⟩⟩
        [.new 1 2 [3]] ⟨1, (), []⟩ = (.ok filled, last) →
          ∀ (index : Nat) (request : WriteRequest), filled[index]? = some request →
            request.ensure = .ok () → (replyOf []).Succeeded 4 index) ∧
      Prod.snd <$> (addNotificationMulti (.answering (replyOf []))
          ⟨⟨.localId, 1⟩, ⟨.localId, 851⟩⟩ [.new 1 2 ⟨4, .serverCycle, ⟨0, 0⟩, ⟨1, 0⟩⟩] ∅
          ⟨1, (), []⟩).1 = .ok {(⟨.localId, 851⟩, 0)} := by
  constructor
  · intro received
    have uncut := (writeMulti_success_iff (by simp [WriteRequest.new])).mp received
      ⟨by decide, by decide⟩ ⟨rfl, by decide, by decide⟩ 0 (by decide) (by decide)
    exact absurd uncut (by decide)
  · decide +kernel

end Ads.Client
