import Ads.Client.Duration
import Ads.Client.Multi
import Mathlib.Data.Finset.Basic

/-!
# Adding and deleting notifications

The four operations on notification handles, single and sum-up, with the set of
active handles that the client keeps for its end.
-/

namespace Ads.Client

open Ads.Bytes Ads.Control

/-- When notifications should be generated. -/
inductive TransmissionMode
  | noTrans
  | serverCycle
  | serverOnChange
  deriving DecidableEq, Repr

/-- The mode's number on the wire. -/
def TransmissionMode.toU32 : TransmissionMode → UInt32
  | noTrans => 0
  | serverCycle => 3
  | serverOnChange => 4

/-- Attributes for creating a notification. -/
structure Attributes where
  length : Nat
  transMode : TransmissionMode
  maxDelay : Duration
  cycleTime : Duration
  deriving DecidableEq

/-- What the client asks the server to notify it of. -/
structure AddNotif where
  indexGroup : UInt32
  indexOffset : UInt32
  length : UInt32
  transMode : UInt32
  maxDelay : UInt32
  cycleTime : UInt32
  deriving DecidableEq

/-- The record's bytes on the wire, with the 16 reserved bytes behind its fields. -/
def AddNotif.asBytes (record : AddNotif) : List UInt8 :=
  u32Bytes record.indexGroup ++ u32Bytes record.indexOffset ++ u32Bytes record.length ++
    u32Bytes record.transMode ++ u32Bytes record.maxDelay ++ u32Bytes record.cycleTime ++
      List.replicate 16 0

/-- Size of an `AddNotif`. -/
def addNotifSize : Nat := 40

@[simp]
theorem AddNotif.length_asBytes (record : AddNotif) : record.asBytes.length = 40 := by
  simp [AddNotif.asBytes]

/-- A single request of `addNotificationMulti`, with an identifier of the caller. -/
structure AddNotifRequest (Id : Type) where
  req : AddNotif
  /-- The length of the result is the handle. -/
  res : ResultLength
  id : Id

namespace AddNotifRequest

variable {Id : Type}

/-- Create the request with given index group, index offset and notification
attributes. -/
def new (indexGroup indexOffset : UInt32) (attributes : Attributes) : AddNotifRequest Unit where
  req := {
    indexGroup
    indexOffset
    length := UInt32.ofNat attributes.length
    transMode := attributes.transMode.toU32
    maxDelay := UInt32.ofNat attributes.maxDelay.asMillis
    cycleTime := UInt32.ofNat attributes.cycleTime.asMillis }
  res := .newZeroed
  id := ()

/-- Attach an identifier. -/
def withId {NewId : Type} (request : AddNotifRequest Id) (id : NewId) :
    AddNotifRequest NewId where
  req := request.req
  res := request.res
  id := id

/-- Get the returned notification handle. -/
def handle (request : AddNotifRequest Id) : Outcome Error UInt32 :=
  if request.res.result ≠ 0 then
    .err (adsError "multi-read/write data" request.res.result)
  else .ok request.res.length

/-- The request after its result has been written to. -/
def fill (request : AddNotifRequest Id) (res : List UInt8) : AddNotifRequest Id :=
  { request with res := .ofBytes res }

end AddNotifRequest

/-- A single request of `deleteNotificationMulti`. -/
structure DelNotifRequest where
  req : UInt32
  res : UInt32

namespace DelNotifRequest

/-- Create the request with given handle. -/
def new (handle : UInt32) : DelNotifRequest where
  req := handle
  res := 0

/-- Verify that the handle was successfully deleted. -/
def ensure (request : DelNotifRequest) : Outcome Error Unit :=
  if request.res ≠ 0 then .err (adsError "multi-read/write data" request.res) else .ok ()

/-- The request after its result has been written to. -/
def fill (request : DelNotifRequest) (res : List UInt8) : DelNotifRequest :=
  { request with res := leU32 res }

end DelNotifRequest

/-- The active notification handles, with the addresses of their devices. -/
abbrev NotifHandles : Type := Finset (AmsAddr × UInt32)

/-- The index group of adding several notifications in one request. -/
def sumupAdddevnote : UInt32 := 0xF085

/-- The index group of deleting several notifications in one request. -/
def sumupDeldevnote : UInt32 := 0xF086

section Operations

variable {S : Type} (server : Server S) (device : Device)

/-- Add a notification handle for some index group and offset. -/
def addNotification (indexGroup indexOffset : UInt32) (attributes : Attributes)
    (notifHandles : NotifHandles) : Operation S (UInt32 × NotifHandles) := do
  let length ← Operation.ofOutcome (tryInto attributes.length)
  let maxDelay ← Operation.ofOutcome (tryInto attributes.maxDelay.asMillis)
  let cycleTime ← Operation.ofOutcome (tryInto attributes.cycleTime.asMillis)
  let data : AddNotif :=
    { indexGroup, indexOffset, length, transMode := attributes.transMode.toU32, maxDelay,
      cycleTime }
  let received ← communicate server device .addNotification [data.asBytes] [u32Bytes 0]
  let handle := leU32 (received.bufs.getD 0 [])
  pure (handle, insert (device.addr, handle) notifHandles)

/-- The handles after those of the requests that succeeded have been added. -/
def insertHandles {Id : Type} (addr : AmsAddr) (notifHandles : NotifHandles) :
    List (AddNotifRequest Id) → NotifHandles
  | [] => notifHandles
  | request :: requests =>
      match request.handle with
      | .ok handle => insertHandles addr (insert (addr, handle) notifHandles) requests
      | _ => insertHandles addr notifHandles requests

/-- Add multiple notification handles. -/
def addNotificationMulti {Id : Type} (requests : List (AddNotifRequest Id))
    (notifHandles : NotifHandles) :
    Operation S (List (AddNotifRequest Id) × NotifHandles) := do
  let nreq := requests.length
  let rlen := resultLengthSize * nreq
  let wlen := addNotifSize * nreq
  let bufs ← sumUp server device sumupAdddevnote nreq rlen wlen
    (requests.map (·.req.asBytes)) (requests.map (·.res.asBytes))
  let requests := List.zipWith AddNotifRequest.fill requests bufs
  pure (requests, insertHandles device.addr notifHandles requests)

/-- Delete a notification with given handle. -/
def deleteNotification (handle : UInt32) (notifHandles : NotifHandles) :
    Operation S NotifHandles := do
  let _ ← communicate server device .deleteNotification [u32Bytes handle] []
  pure (notifHandles.erase (device.addr, handle))

/-- The handles after those of the requests that succeeded have been removed. -/
def removeHandles (addr : AmsAddr) (notifHandles : NotifHandles) :
    List DelNotifRequest → NotifHandles
  | [] => notifHandles
  | request :: requests =>
      match request.ensure with
      | .ok () => removeHandles addr (notifHandles.erase (addr, request.req)) requests
      | _ => removeHandles addr notifHandles requests

/-- Delete multiple notification handles. -/
def deleteNotificationMulti (requests : List DelNotifRequest) (notifHandles : NotifHandles) :
    Operation S (List DelNotifRequest × NotifHandles) := do
  let nreq := requests.length
  let rlen := 4 * nreq
  let wlen := 4 * nreq
  let bufs ← sumUp server device sumupDeldevnote nreq rlen wlen
    (requests.map fun r => u32Bytes r.req) (requests.map fun r => u32Bytes r.res)
  let requests := List.zipWith DelNotifRequest.fill requests bufs
  pure (requests, removeHandles device.addr notifHandles requests)

end Operations

/-! ## The set of handles -/

/-- What is added is a handle that one of the requests returned. -/
theorem mem_insertHandles_iff {Id : Type} {addr : AmsAddr} {notifHandles : NotifHandles}
    {requests : List (AddNotifRequest Id)} {entry : AmsAddr × UInt32} :
    entry ∈ insertHandles addr notifHandles requests ↔
      entry ∈ notifHandles ∨ ∃ request ∈ requests, ∃ handle, request.handle = .ok handle ∧
        entry = (addr, handle) := by
  induction requests generalizing notifHandles with
  | nil => simp [insertHandles]
  | cons request requests ih =>
      rw [insertHandles]
      cases returned : request.handle with
      | ok handle =>
          simp only [ih, Finset.mem_insert, List.mem_cons, exists_eq_or_imp, returned,
            Outcome.ok.injEq, exists_eq_left']
          tauto
      | err error => simp [ih, returned]
      | panic => simp [ih, returned]

/-- What is removed is a handle whose request succeeded. -/
theorem mem_removeHandles_iff {addr : AmsAddr} {notifHandles : NotifHandles}
    {requests : List DelNotifRequest} {entry : AmsAddr × UInt32} :
    entry ∈ removeHandles addr notifHandles requests ↔
      entry ∈ notifHandles ∧ ∀ request ∈ requests, request.ensure = .ok () →
        entry ≠ (addr, request.req) := by
  induction requests generalizing notifHandles with
  | nil => simp [removeHandles]
  | cons request requests ih =>
      rw [removeHandles]
      cases ensured : request.ensure with
      | ok done =>
          simp only [ih, Finset.mem_erase, List.forall_mem_cons, ensured, true_implies]
          tauto
      | err error => simp [ih, ensured]
      | panic => simp [ih, ensured]

end Ads.Client
