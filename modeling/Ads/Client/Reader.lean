import Ads.Notif.Core
import Mathlib.Data.List.AList

/-!
# The reader thread

One turn of the loop of `reader_work`: it receives a frame from the socket,
inspects its header, and then either hands a reply to the caller registered
under its invoke id, hands a notification on, or skips the frame.

The socket is the list of bytes that have arrived and not been consumed.  A read
that needs more of them blocks while the connection is open, and fails with the
socket's error when it is not.  A blocked turn is retried from its first byte
once more bytes are there, which is what resuming the blocked read amounts to.
-/

namespace Ads.Client

open Ads.Bytes Ads.Bytes.Reader Ads.Control Ads.Notif

/-- A `communicate` call, as the holder of the receiving half of its oneshot
channel. -/
abbrev CallId := Nat

/-- The pending map: each invoke id with the sending half of the channel of the
call that registered it. -/
abbrev PendingMap := AList fun _ : UInt32 => CallId

/-- Why a socket read does not return its bytes. -/
inductive Halt
  | blocked
  | failed (error : Error)
  deriving DecidableEq

/-- The end of the received bytes: the connection is open (`none`) or its reads
fail with an error. -/
def halt (socketEnd : Option IoErrorKind) (context : String) : Halt :=
  match socketEnd with
  | none => .blocked
  | some kind => .failed (.io context kind)

/-- A received frame: the raw header bytes, the decoded header and the payload. -/
structure Packet where
  headerBuf : List UInt8
  header : AdsHeader
  payload : List UInt8

/-- Receive one frame.  Frames too short for an AMS header are discarded. -/
def receive (socketEnd : Option IoErrorKind) : Reader Halt (Option Packet) := do
  let tcpHeader ← take (halt socketEnd "receiving AMS/TCP header") 6
  let packetLen := leU32 (tcpHeader.drop 2)
  if packetLen.toNat ≤ 31 then do
    let _discard ← take (halt socketEnd "discarding bad data") packetLen.toNat
    pure none
  else do
    let amsHeader ← take (halt socketEnd "receiving AMS header") 32
    match AdsHeader.readFromBytes (tcpHeader ++ amsHeader) with
    | none => fail (.failed (.io "decoding AMS header" .invalidData))
    | some header => do
        let payload ← take (halt socketEnd "receiving Ads data payload")
          header.dataLength.toNat
        pure (some ⟨tcpHeader ++ amsHeader, header, payload⟩)

/-- Unsigned subtraction, which panics below zero. -/
def checkedSub (minuend subtrahend : UInt32) : Outcome Error UInt32 :=
  if subtrahend ≤ minuend then .ok (minuend - subtrahend) else .panic

/-- Read a 32-bit word off a slice, which panics on a slice shorter than that. -/
def checkedU32 (bytes : List UInt8) : Outcome Error UInt32 :=
  if 4 ≤ bytes.length then .ok (leU32 bytes) else .panic

/-- The reserved field of frames that only concern the router. -/
def IsRouterCmd (amsCmd : UInt16) : Prop :=
  amsCmd = 1 ∨ (4096 ≤ amsCmd ∧ amsCmd ≤ 4098)

instance (amsCmd : UInt16) : Decidable (IsRouterCmd amsCmd) :=
  inferInstanceAs (Decidable (_ ∨ _))

/-- What the loop makes of a received frame. -/
inductive Verdict
  | skip
  | reply
  | notify (notification : Notification)

/-- The checks made on a notification frame. -/
def inspectNotification (packet : Packet) : Outcome Error Verdict := do
  let notifPayloadLen ← checkedU32 packet.payload
  if packet.header.stateFlags ≠ 4 ∨ packet.header.errorCode ≠ 0 then
    .ok .skip
  else do
    let bodyLen ← checkedSub packet.header.dataLength 4
    if notifPayloadLen ≠ bodyLen ∨ notifPayloadLen < 4 then
      .ok .skip
    else
      match Notification.new (packet.headerBuf ++ packet.payload) with
      | .ok notification => .ok (.notify notification)
      | .err _ => .ok .skip
      | .panic => .panic

/-- The checks made on a received frame, in the order of the source: the router
commands leave the turn before the two lengths are compared. -/
def inspect (source : AmsAddr) (packet : Packet) : Outcome Error Verdict :=
  let reserved := leU16 packet.headerBuf
  let packetLen := leU32 (packet.headerBuf.drop 2)
  if IsRouterCmd reserved then
    .ok .skip
  else if reserved ≠ 0 then
    .err (.reply "interpreting received AMS packet" "invalid packet" reserved.toUInt32)
  else do
    let expected ← checkedSub packetLen 32
    if packet.header.dataLength ≠ expected then
      .err (.reply "interpreting received AMS packet"
        "AMS/TCP header and AMS header contain inconsistent data" 0)
    else if packet.header.dest ≠ source then
      .ok .skip
    else if packet.header.command ≠ Command.notification.toU16 then
      .ok .reply
    else
      inspectNotification packet

/-- Take the entry of a reply's invoke id off the pending map and send the reply
to its caller, which fails when the caller has dropped its receiver. -/
def settle (pending : PendingMap) (receiving : CallId → Bool) (header : AdsHeader) :
    PendingMap × Except Error CallId :=
  match pending.lookup header.invokeId with
  | some call =>
      (pending.erase header.invokeId,
        if receiving call then .ok call
        else .error (.ioSync "settling pending request"
          "channel closed, couldn't dispatch response" header.invokeId))
  | none =>
      (pending, .error (.reply "settling pending request"
        "invalid invoke id received from server, aborting connection" header.invokeId))

/-- What a turn sends, besides changing the pending map. -/
inductive Effect
  | nothing
  | replied (call : CallId) (header : AdsHeader) (payload : List UInt8)
  | notified (notification : Notification)

/-- The end of a turn of the loop. -/
inductive Turn
  /-- The turn waits for bytes that have not arrived. -/
  | blocked
  /-- The loop goes on with the bytes that are left. -/
  | continued (rest : List UInt8) (pending : PendingMap) (effect : Effect)
  /-- `reader_work` returns an error. -/
  | returned (error : Error) (pending : PendingMap)
  /-- The thread panics. -/
  | panicked

/-- One turn of the loop of `reader_work`. -/
def readerTurn (source : AmsAddr) (pending : PendingMap) (receiving : CallId → Bool)
    (socketEnd : Option IoErrorKind) (stream : List UInt8) : Turn :=
  match receive socketEnd stream with
  | .err .blocked => .blocked
  | .err (.failed error) => .returned error pending
  | .panic => .panicked
  | .ok (none, rest) => .continued rest pending .nothing
  | .ok (some packet, rest) =>
      match inspect source packet with
      | .err error => .returned error pending
      | .panic => .panicked
      | .ok .skip => .continued rest pending .nothing
      | .ok (.notify notification) => .continued rest pending (.notified notification)
      | .ok .reply =>
          match settle pending receiving packet.header with
          | (pending, .ok call) =>
              .continued rest pending (.replied call packet.header packet.payload)
          | (pending, .error error) => .returned error pending

/-- The loop can complete `n` turns and then has `rest` before it.  Each turn may
find any pending map and any set of waiting callers, as other threads leave
them. -/
inductive Continues (source : AmsAddr) (stream : List UInt8) : Nat → List UInt8 → Prop
  | start : Continues source stream 0 stream
  | turn {n : Nat} {middle rest : List UInt8} {pending after : PendingMap}
      {receiving : CallId → Bool} {socketEnd : Option IoErrorKind} {effect : Effect} :
      Continues source stream n middle →
      readerTurn source pending receiving socketEnd middle = .continued rest after effect →
      Continues source stream (n + 1) rest

/-- How the thread can end: with the clean-up that fails all pending requests,
or unwinding past it. -/
inductive ThreadEnd
  | cleanedUp (error : Error)
  | unwound

/-- The thread's ends on a stream.  The clean-up stands behind the call of
`reader_work`, so that an error returned from it reaches the clean-up and a
panic in it does not. -/
inductive Ends (source : AmsAddr) (stream : List UInt8) : ThreadEnd → Prop
  | returned {n : Nat} {rest : List UInt8} {pending after : PendingMap}
      {receiving : CallId → Bool} {socketEnd : Option IoErrorKind} {error : Error} :
      Continues source stream n rest →
      readerTurn source pending receiving socketEnd rest = .returned error after →
      Ends source stream (.cleanedUp error)
  | panicked {n : Nat} {rest : List UInt8} {pending : PendingMap}
      {receiving : CallId → Bool} {socketEnd : Option IoErrorKind} :
      Continues source stream n rest →
      readerTurn source pending receiving socketEnd rest = .panicked →
      Ends source stream .unwound

/-! ## What a turn can do -/

/-- A turn that goes on leaves the pending map alone, except that a reply takes
the entry of its invoke id, whose caller is waiting. -/
theorem readerTurn_continued {source : AmsAddr} {pending after : PendingMap}
    {receiving : CallId → Bool} {socketEnd : Option IoErrorKind}
    {stream rest : List UInt8} {effect : Effect}
    (turn : readerTurn source pending receiving socketEnd stream =
      .continued rest after effect) :
    (effect = .nothing ∧ after = pending) ∨
      (∃ notification, effect = .notified notification ∧ after = pending) ∨
      ∃ call header payload, effect = .replied call header payload ∧
        pending.lookup header.invokeId = some call ∧ receiving call = true ∧
        after = pending.erase header.invokeId := by
  unfold readerTurn at turn
  split at turn <;> try contradiction
  · cases turn
    exact .inl ⟨rfl, rfl⟩
  · split at turn <;> try contradiction
    · cases turn
      exact .inl ⟨rfl, rfl⟩
    · cases turn
      exact .inr (.inl ⟨_, rfl, rfl⟩)
    · split at turn <;> try contradiction
      rename_i packet _ _ _ call settled
      cases turn
      unfold settle at settled
      split at settled
      · rename_i found lookup
        split at settled
        · rename_i waiting
          cases settled
          exact .inr (.inr ⟨_, _, _, rfl, lookup, waiting, rfl⟩)
        · cases settled
      · cases settled

/-- A turn that ends the loop leaves the pending map alone, except that it may
have taken an entry whose caller had dropped its receiver. -/
theorem readerTurn_returned {source : AmsAddr} {pending after : PendingMap}
    {receiving : CallId → Bool} {socketEnd : Option IoErrorKind}
    {stream : List UInt8} {error : Error}
    (turn : readerTurn source pending receiving socketEnd stream = .returned error after) :
    after = pending ∨ ∃ id call, pending.lookup id = some call ∧
      receiving call = false ∧ after = pending.erase id := by
  unfold readerTurn at turn
  split at turn <;> try contradiction
  · cases turn
    exact .inl rfl
  · split at turn <;> try contradiction
    · cases turn
      exact .inl rfl
    · split at turn <;> try contradiction
      rename_i packet _ _ _ failed settled
      cases turn
      unfold settle at settled
      split at settled
      · rename_i found lookup
        split at settled
        · cases settled
        · rename_i dropped
          cases settled
          exact .inr ⟨_, _, lookup, by simpa using dropped, rfl⟩
      · cases settled
        exact .inl rfl

/-! ## Receiving a frame -/

theorem receive_short {tcp content rest : List UInt8} {length : UInt32} {amsCmd : UInt16}
    (socketEnd : Option IoErrorKind) (header : tcp = u16Bytes amsCmd ++ u32Bytes length)
    (size : content.length = length.toNat) (short : length.toNat ≤ 31) :
    receive socketEnd (tcp ++ (content ++ rest)) = .ok (none, rest) := by
  have tcpReads : Reads (take (halt socketEnd "receiving AMS/TCP header") 6) tcp tcp := by
    have taken := reads_take (halt socketEnd "receiving AMS/TCP header") tcp
    rwa [show tcp.length = 6 by simp [header]] at taken
  have packetLen : leU32 (tcp.drop 2) = length := by
    rw [header, List.drop_left' (length_u16Bytes amsCmd)]
    simpa using leU32_u32Bytes_append length []
  have contentReads := reads_take (halt socketEnd "discarding bad data") content
  rw [size] at contentReads
  rw [receive, bind_run_ok (tcpReads _)]
  simp only [packetLen, short, if_true]
  rw [bind_run_ok (contentReads rest), pure_run]

/-- What `receive` does once both headers have arrived: the payload it takes is
as long as the AMS header says, whatever the AMS/TCP header says. -/
theorem receive_long {header : AdsHeader} (socketEnd : Option IoErrorKind)
    (rest : List UInt8) (long : 32 ≤ header.length.toNat) :
    receive socketEnd (header.asBytes ++ rest) =
      if header.dataLength.toNat ≤ rest.length then
        .ok (some ⟨header.asBytes, header, rest.take header.dataLength.toNat⟩,
          rest.drop header.dataLength.toNat)
      else .err (halt socketEnd "receiving Ads data payload") := by
  have tcpReads : Reads (take (halt socketEnd "receiving AMS/TCP header") 6)
      (u16Bytes header.amsCmd ++ u32Bytes header.length)
      (u16Bytes header.amsCmd ++ u32Bytes header.length) := by
    have taken := reads_take (halt socketEnd "receiving AMS/TCP header")
      (u16Bytes header.amsCmd ++ u32Bytes header.length)
    simpa using taken
  have amsReads : Reads (take (halt socketEnd "receiving AMS header") 32)
      header.amsBytes header.amsBytes := by
    have taken := reads_take (halt socketEnd "receiving AMS header") header.amsBytes
    rwa [header.length_amsBytes] at taken
  have packetLen :
      leU32 ((u16Bytes header.amsCmd ++ u32Bytes header.length).drop 2) = header.length := by
    rw [List.drop_left' (length_u16Bytes header.amsCmd)]
    simpa using leU32_u32Bytes_append header.length []
  have notShort : ¬ header.length.toNat ≤ 31 := by omega
  have decoded : AdsHeader.readFromBytes
      (u16Bytes header.amsCmd ++ u32Bytes header.length ++ header.amsBytes) = some header :=
    header.readFromBytes_asBytes
  rw [AdsHeader.asBytes, List.append_assoc, receive, bind_run_ok (tcpReads _)]
  simp only [packetLen, notShort, if_false]
  rw [bind_run_ok (amsReads rest)]
  simp only [decoded, bind_run, Reader.take]
  split <;> rfl

/-- Receiving a frame returns or reports an error. -/
theorem receive_neverPanics (socketEnd : Option IoErrorKind) :
    NeverPanics (receive socketEnd) := by
  refine (neverPanics_take _ _).bind fun tcpHeader => ?_
  dsimp only
  split
  · exact (neverPanics_take _ _).bind fun _ => NeverPanics.pure _
  · refine (neverPanics_take _ _).bind fun amsHeader => ?_
    split
    · exact fun _ => Outcome.err_ne_panic _
    · exact (neverPanics_take _ _).bind fun _ => NeverPanics.pure _

end Ads.Client
