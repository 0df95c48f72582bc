import Ads.Client.Refusals

/-!
# Adding notifications singly and in batches

Both ways to add a notification send the same record.  The single one checks that its
numbers fit their fields, the batched one cuts them off.
-/

namespace Ads.Client

open Ads.Bytes Ads.Control

/-- The numbers of the attributes fit their fields. -/
structure Attributes.Fit (attributes : Attributes) : Prop where
  length : attributes.length < 2 ^ 32
  maxDelay : attributes.maxDelay.asMillis < 2 ^ 32
  cycleTime : attributes.cycleTime.asMillis < 2 ^ 32

/-- A batch sends at its place what the single operation sends, and is refused if that is
refused for an overflow. -/
structure AddsAlike {S α β : Type} (single : Operation S α) (batch : Operation S β)
    (index : Nat) (link : Link S) : Prop where
  record : ∀ record payload, single.Sent link .addNotification record →
    batch.Sent link .readWrite payload →
      window payload (indexLengthRWSize + addNotifSize * index) addNotifSize = record
  refused : (single link).1 = .err .overflow → batch.Refuses link

variable {S Id : Type} {server : Server S} {device : Device} {link : Link S}
  {notifHandles : NotifHandles} {indexGroup indexOffset : UInt32} {attributes : Attributes}

/-- No reply makes a command overflow. -/
theorem settled_ne_overflow (cmd : Command) (resultBufs : List (List UInt8)) (reply : Reply) :
    settled cmd resultBufs reply ≠ .err .overflow := by
  intro overflow
  unfold settled at overflow
  split at overflow
  · cases overflow
  · split at overflow
    · cases overflow
    · split at overflow
      · cases overflow
      · split at overflow
        · cases overflow
        · split at overflow
          · cases overflow
          · cases overflow

/-! ## The single operation -/

/-- The record that is sent, its numbers cut off at their fields. -/
def addNotif (indexGroup indexOffset : UInt32) (attributes : Attributes) : AddNotif :=
  (AddNotifRequest.new indexGroup indexOffset attributes).req

/-- The single operation with numbers that fit is one exchange. -/
theorem addNotification_of_fit (fit : attributes.Fit) :
    addNotification server device indexGroup indexOffset attributes notifHandles =
      communicate server device .addNotification
          [(addNotif indexGroup indexOffset attributes).asBytes] [u32Bytes 0] >>=
        fun received => Operation.ofOutcome
          (.ok (leU32 (received.bufs.getD 0 []),
            insert (device.addr, leU32 (received.bufs.getD 0 [])) notifHandles)) := by
  rw [addNotification, tryInto_of_lt fit.length, tryInto_of_lt fit.maxDelay,
    tryInto_of_lt fit.cycleTime]
  rfl

theorem short_addNotif (record : AddNotif) :
    amsHeaderSize + [record.asBytes].flatten.length < 2 ^ 32 := by
  rw [List.flatten_singleton, AddNotif.length_asBytes]
  decide

theorem addNotification_sent (fit : attributes.Fit) :
    (addNotification server device indexGroup indexOffset attributes notifHandles).Sent link
      .addNotification (addNotif indexGroup indexOffset attributes).asBytes := by
  have sent := @communicate_sent S server device link .addNotification
    [(addNotif indexGroup indexOffset attributes).asBytes] [u32Bytes 0] (short_addNotif _)
  rw [List.flatten_singleton] at sent
  rw [addNotification_of_fit fit]
  exact sent.bind_ofOutcome _

/-- With numbers that fit, nothing overflows. -/
theorem addNotification_ne_overflow (fit : attributes.Fit) :
    (addNotification server device indexGroup indexOffset attributes notifHandles link).1 ≠
      .err .overflow := by
  intro overflow
  rw [addNotification_of_fit fit] at overflow
  rcases handled : server.handle link.server .addNotification
    [(addNotif indexGroup indexOffset attributes).asBytes].flatten with ⟨state, reply⟩
  have ran := @communicate_run _ server device .addNotification _ [u32Bytes 0] link state reply
    (short_addNotif _) handled
  cases done : settled .addNotification [u32Bytes 0] reply with
  | ok received =>
      rw [done] at ran
      rw [Operation.bind_run_ok ran] at overflow
      cases overflow
  | err error =>
      rw [done] at ran
      rw [Operation.bind_run_err ran] at overflow
      cases overflow
      exact settled_ne_overflow _ _ _ done
  | panic =>
      rw [done] at ran
      rw [Operation.bind_run_panic ran] at overflow
      cases overflow

/-- With a number that does not fit, the operation is refused. -/
theorem addNotification_refuses (long : ¬attributes.Fit) :
    (addNotification server device indexGroup indexOffset attributes notifHandles).Refuses
      link := by
  rw [addNotification]
  by_cases length : attributes.length < 2 ^ 32
  swap
  · exact Operation.refuses_of_overflow (tryInto_of_not_lt length) _ link
  rw [tryInto_of_lt length, Operation.ofOutcome_ok_bind]
  by_cases maxDelay : attributes.maxDelay.asMillis < 2 ^ 32
  swap
  · exact Operation.refuses_of_overflow (tryInto_of_not_lt maxDelay) _ link
  rw [tryInto_of_lt maxDelay, Operation.ofOutcome_ok_bind]
  by_cases cycleTime : attributes.cycleTime.asMillis < 2 ^ 32
  · exact absurd ⟨length, maxDelay, cycleTime⟩ long
  · exact Operation.refuses_of_overflow (tryInto_of_not_lt cycleTime) _ link

/-! ## The batch -/

section Batch

variable {requests : List (AddNotifRequest Id)}

/-- A batch that is short enough sends all its records behind the header. -/
theorem addNotificationMulti_sent
    (sends : Sends (resultLengthSize * requests.length) (addNotifSize * requests.length)) :
    ∃ header : IndexLengthRW,
      (addNotificationMulti server device requests notifHandles).Sent link .readWrite
        (header.asBytes ++ (requests.map (·.req.asBytes)).flatten) :=
  ⟨_, (sumUp_sent (AddNotifRequest.length_sent requests) sends).bind_ofOutcome fun bufs =>
    let filled := List.zipWith AddNotifRequest.fill requests bufs
    .ok (filled, insertHandles device.addr notifHandles filled)⟩

theorem addNotificationMulti_refuses
    (long : ¬Sends (resultLengthSize * requests.length) (addNotifSize * requests.length)) :
    (addNotificationMulti server device requests notifHandles).Refuses link :=
  (sumUp_refuses (AddNotifRequest.length_sent requests) long).bind _

/-- The record of a request in its batch. -/
theorem window_addNotifs {index : Nat} {request : AddNotifRequest Id}
    (found : requests[index]? = some request) (header : IndexLengthRW) :
    window (header.asBytes ++ (requests.map (·.req.asBytes)).flatten)
      (indexLengthRWSize + addNotifSize * index) addNotifSize = request.req.asBytes := by
  have uniform : ∀ buf ∈ requests.map (·.req.asBytes), buf.length = addNotifSize := by
    intro buf member
    rcases List.mem_map.mp member with ⟨other, -, rfl⟩
    exact AddNotif.length_asBytes other.req
  have bound : index ≤ (requests.map (·.req.asBytes)).length := by
    rw [List.length_map]
    exact (List.getElem?_eq_some_iff.mp found).1.le
  have isRecord : (requests.map (·.req.asBytes))[index]? = some request.req.asBytes := by
    rw [List.getElem?_map, found, Option.map_some]
  have size : request.req.asBytes.length = addNotifSize := AddNotif.length_asBytes request.req
  have own := @window_flatten _ _ index 0 addNotifSize _ isRecord (by omega)
  rw [offset_of_uniform uniform bound, Nat.add_zero, window_zero,
    List.take_of_length_le size.le] at own
  have front : header.asBytes.length = indexLengthRWSize := IndexLengthRW.length_asBytes header
  rw [← own, window, window, ← List.drop_drop, List.drop_left' front]

end Batch

/-! ## Both -/

/-- A batch that is sent does not refuse what the single operation refuses. -/
theorem not_addsAlike_of_long {requests : List (AddNotifRequest Id)} {index : Nat}
    (sends : Sends (resultLengthSize * requests.length) (addNotifSize * requests.length))
    (long : ¬attributes.Fit) :
    ¬AddsAlike (addNotification server device indexGroup indexOffset attributes notifHandles)
      (addNotificationMulti server device requests notifHandles) index link := by
  intro alike
  rcases @addNotificationMulti_sent S Id server device link notifHandles requests sends with
    ⟨header, sent⟩
  exact sent.not_refuses (alike.refused (addNotification_refuses long).1)

/-- For every server, and every batch that has a request with the given attributes: the batch
sends the record that the single operation sends, and is refused where that is, exactly when
the attributes fit their fields or the whole batch is too long to be sent. -/
theorem addNotification_alike_iff (server : Server S) (device : Device) (link : Link S)
    (notifHandles : NotifHandles) (indexGroup indexOffset : UInt32) (attributes : Attributes)
    (requests : List (AddNotifRequest Id)) (index : Nat) (request : AddNotifRequest Id)
    (found : requests[index]? = some request)
    (made : request.req = (AddNotifRequest.new indexGroup indexOffset attributes).req) :
    AddsAlike (addNotification server device indexGroup indexOffset attributes notifHandles)
        (addNotificationMulti server device requests notifHandles) index link ↔
      (Sends (resultLengthSize * requests.length) (addNotifSize * requests.length) →
        attributes.Fit) := by
  constructor
  · intro alike sends
    by_contra long
    exact not_addsAlike_of_long sends long alike
  · intro fits
    constructor
    · intro record payload single batch
      have fit : attributes.Fit := by
        by_contra long
        exact single.not_refuses (addNotification_refuses long)
      have sends : Sends (resultLengthSize * requests.length)
          (addNotifSize * requests.length) := by
        by_contra long
        exact batch.not_refuses (addNotificationMulti_refuses long)
      rcases @addNotificationMulti_sent S Id server device link notifHandles requests sends with
        ⟨header, sent⟩
      rw [batch.unique sent, window_addNotifs found, made]
      exact (addNotification_sent fit).unique single
    · intro overflow
      apply addNotificationMulti_refuses
      intro sends
      exact addNotification_ne_overflow (fits sends) overflow

/-- A server that returns a handle. -/
def handing : Server Unit :=
  .answering ⟨0, [0, 0, 0, 0, 9, 0, 0, 0, 0, 0, 0, 0, 7, 0, 0, 0]⟩

/-- The second of two requests, with attributes that fit. -/
theorem addNotification_alike_sample :
    let attributes : Attributes := ⟨4, .serverOnChange, ⟨0, 0⟩, ⟨1, 500000000⟩⟩
    AddsAlike
      (addNotification handing ⟨⟨.localId, 1⟩, ⟨.localId, 851⟩⟩ 0x4020 8 attributes ∅)
      (addNotificationMulti handing ⟨⟨.localId, 1⟩, ⟨.localId, 851⟩⟩
        [.new 0x4020 0 ⟨2, .serverCycle, ⟨0, 0⟩, ⟨1, 0⟩⟩, .new 0x4020 8 attributes] ∅)
      1 ⟨1, (), []⟩ := by
  intro attributes
  apply (addNotification_alike_iff _ _ _ _ 0x4020 8 attributes _ 1 _ rfl rfl).mpr
  intro _
  exact ⟨by decide, by decide, by decide⟩

/-- For a length of 2^32 + 4, or a cycle time of 2^32 milliseconds, the single operation is
refused, and the batch sends a record with a length of four, or a cycle time of zero. -/
theorem addNotificationMulti_truncates :
    let device : Device := ⟨⟨.localId, 1⟩, ⟨.localId, 851⟩⟩
    let long : Attributes := ⟨2 ^ 32 + 4, .serverOnChange, ⟨0, 0⟩, ⟨1, 0⟩⟩
    let slow : Attributes := ⟨4, .serverOnChange, ⟨0, 0⟩, ⟨4294967, 296000000⟩⟩
    (¬AddsAlike (addNotification handing device 1 2 long ∅)
        (addNotificationMulti handing device [.new 1 2 long] ∅) 0 ⟨1, (), []⟩ ∧
      ¬AddsAlike (addNotification handing device 1 2 slow ∅)
        (addNotificationMulti handing device [.new 1 2 slow] ∅) 0 ⟨1, (), []⟩) ∧
    (addNotif 1 2 long).length = 4 ∧ (addNotif 1 2 slow).cycleTime = 0 := by
  intro device long slow
  refine ⟨⟨?_, ?_⟩, by decide, by decide⟩
  · apply not_addsAlike_of_long ⟨by decide, by decide⟩
    intro fit
    exact absurd fit.length (by decide)
  · apply not_addsAlike_of_long ⟨by decide, by decide⟩
    intro fit
    exact absurd fit.cycleTime (by decide)

end Ads.Client
