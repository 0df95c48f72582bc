import Ads.Client.Duration
import Ads.Client.WireServer
import Mathlib.Data.Finset.Basic

/-!
# The life of a connection

How a client finds its source address when it connects, and what it leaves behind when it is
dropped.  A router on the other end reads one stream of bytes: the message that opens a port,
the requests of all calls, and, if the connection is still there, the message that closes the port.
-/

namespace Ads.Client

open Ads.Bytes Ads.Control Ads.Transition

/-! ## Connecting -/

/-- Holds the different timeouts that will be used by the client. -/
structure Timeouts where
  connect : Option Duration
  read : Option Duration
  write : Option Duration

/-- All values are identical. -/
def Timeouts.new (duration : Duration) : Timeouts :=
  ⟨some duration, some duration, some duration⟩

/-- No timeouts are specified. -/
def Timeouts.none : Timeouts :=
  ⟨.none, .none, .none⟩

/-- Specifies the source AMS address to use. -/
inductive Source
  | auto
  | addr (id : AmsAddr)
  | request

/-- An IP address. -/
inductive IpAddr
  | v4 (a b c d : UInt8)
  | v6 (octets : List UInt8)

/-- What the system returns to the calls that open a connection. -/
structure Host (SocketAddr : Type) where
  toSocketAddrs : Except IoErrorKind (List SocketAddr)
  connectTimeout : SocketAddr → Duration → Except IoErrorKind Unit
  connect : SocketAddr → Except IoErrorKind Unit
  setNodelay : Except IoErrorKind Unit
  setWriteTimeout : Option Duration → Except IoErrorKind Unit
  setReadTimeout : Option Duration → Except IoErrorKind Unit
  localAddr : Except IoErrorKind IpAddr
  writeAll : List UInt8 → Except IoErrorKind Unit
  readExact : Except IoErrorKind { reply : List UInt8 // reply.length = 14 }

/-- An I/O error with its context. -/
def ctx {α : Type} (result : Except IoErrorKind α) (context : String) : Outcome Error α :=
  match result with
  | .ok value => .ok value
  | .error kind => .err (.io context kind)

/-- A client that has connected, with the bytes that it has written so far. -/
structure Connection where
  source : AmsAddr
  sourcePortOpened : Bool
  readTimeout : Option Duration
  opening : List UInt8

/-- The port of an address that is made up. -/
def autoPort : UInt16 := 58913

/-- The message that asks for a port. -/
def requestPortMsg : List UInt8 :=
  [0, 16, 2, 0, 0, 0, 0, 0]

namespace Connection

variable {SocketAddr : Type}

/-- The source address, whether its port was opened for it, and the bytes that were written to
get it. -/
def resolve (host : Host SocketAddr) :
    Source → Outcome Error (AmsAddr × Bool × List UInt8)
  | .addr id => pure (id, false, [])
  | .auto => do
      let myAddr ← ctx host.localAddr "getting local socket address"
      match myAddr with
      | .v4 a b c d => pure (⟨.new a b c d 1 1, autoPort⟩, false, [])
      | .v6 _ => pure (⟨.new 127 0 0 1 1 1, autoPort⟩, false, [])
  | .request => do
      ctx (host.writeAll requestPortMsg) "requesting port from router"
      let reply ← ctx host.readExact "requesting port from router"
      if reply.1.take 6 ≠ [0, 16, 8, 0, 0, 0] then
        .err (.reply "requesting port" "unexpected reply header" 0)
      else
        match AmsNetId.fromSlice ((reply.1.take 12).drop 6) with
        | some netid => pure (⟨netid, leU16 (reply.1.drop 12)⟩, true, requestPortMsg)
        | none => .panic

/-- Open a new connection to an ADS server. -/
def new (host : Host SocketAddr) (timeouts : Timeouts) (source : Source) :
    Outcome Error Connection := do
  let addrs ← ctx host.toSocketAddrs "converting address to SocketAddr"
  match addrs with
  | [] => .err (.other "no destination address could be resolved")
  | addr :: _ =>
      match timeouts.connect with
      | some timeout =>
          ctx (host.connectTimeout addr timeout)
            "establishing connetion to remote ADS router (with timeout)"
      | none => ctx (host.connect addr) "establishing connection to remote ADS router"
      ctx host.setNodelay "setting client socket NODELAY"
      ctx (host.setWriteTimeout timeouts.write) "setting client socket write timeout"
      ctx (host.setReadTimeout timeouts.read) "setting client socket read timeout"
      let (source, sourcePortOpened, opening) ← resolve host source
      pure { source, sourcePortOpened, readTimeout := timeouts.read, opening }

/-- The local NetID is mapped to the client's own. -/
def device (connection : Connection) (addr : AmsAddr) : Device where
  source := connection.source
  addr := if addr.netid = .localId then ⟨connection.source.netid, addr.port⟩ else addr

/-- The message that removes the port from the router. -/
def closePortMsg (connection : Connection) : List UInt8 :=
  [1, 0, 2, 0, 0, 0] ++ u16Bytes connection.source.port

/-- What a client writes when it is dropped: it removes its port from the router, if it has
opened one.  That the write fails behind some of its bytes is ignored; to a socket that is shut
down nothing is written. -/
def closing (connection : Connection) (socketOpen : Bool) (failure : Option Nat) : List UInt8 :=
  if connection.sourcePortOpened && socketOpen then
    failure.elim connection.closePortMsg (connection.closePortMsg.take ·)
  else []

/-- Whether the message that closes the port was written whole. -/
def closed (connection : Connection) (socketOpen : Bool) (failure : Option Nat) : Bool :=
  connection.sourcePortOpened && socketOpen && failure.all (8 ≤ ·)

/-- The state before the first call. -/
def sender (connection : Connection) : Sender :=
  .initial connection.source connection.readTimeout.isSome

end Connection

/-! ## The router -/

/-- A router: its address, its open ports, and the requests that it has passed on. -/
structure Router where
  netid : AmsNetId
  ports : Finset UInt16
  passed : List Frame

/-- Which port is opened next: one that is not open, if there is any left. -/
structure PortPolicy where
  next : Finset UInt16 → Option UInt16
  fresh : ∀ ports port, next ports = some port → port ∉ ports

namespace Router

/-- What the router answers when it has opened a port. -/
def answer (router : Router) (port : UInt16) : List UInt8 :=
  [0, 16, 8, 0, 0, 0] ++ router.netid.octets ++ u16Bytes port

/-- The router takes a frame: it opens a port, closes one, or passes on a request that comes
from an open port. -/
def take (policy : PortPolicy) (router : Router) (frame : Frame) : Router :=
  if frame.amsCmd = 0x1000 then
    match policy.next router.ports with
    | some port => { router with ports := insert port router.ports }
    | none => router
  else if frame.amsCmd = 1 then
    { router with ports := router.ports.erase (leU16 frame.content) }
  else
    match frame.header with
    | some header =>
        if header.srcNetid = router.netid ∧ header.srcPort ∈ router.ports then
          { router with passed := router.passed ++ [frame] }
        else router
    | none => router

/-- The router takes one frame after the other. -/
def takeAll (policy : PortPolicy) (router : Router) (frames : List Frame) : Router :=
  frames.foldl (take policy) router

end Router

/-! ## Frames -/

/-- What follows a frame tells nothing about where it ends. -/
theorem Frame.bytes_append_inj {first second : Frame} {rest others : List UInt8}
    (same : first.bytes ++ rest = second.bytes ++ others) : first = second ∧ rest = others := by
  have amsCmd : first.amsCmd = second.amsCmd := by
    have words := congrArg leU16 same
    rwa [bytes, bytes, List.append_assoc, List.append_assoc, List.append_assoc,
      List.append_assoc, leU16_u16Bytes_append, leU16_u16Bytes_append] at words
  have length : first.length = second.length := by
    have words := congrArg (fun stream => leU32 (List.drop 2 stream)) same
    rwa [bytes, bytes, List.append_assoc, List.append_assoc, List.append_assoc,
      List.append_assoc, List.drop_left' (length_u16Bytes _),
      List.drop_left' (length_u16Bytes _), leU32_u32Bytes_append,
      leU32_u32Bytes_append] at words
  rw [bytes, bytes, amsCmd, length, List.append_assoc, List.append_assoc _ second.content] at same
  have sizes : first.content.length = second.content.length := by
    rw [← first.toNat_length, length, second.toNat_length]
  obtain ⟨content, behind⟩ := List.append_inj (List.append_cancel_left same) sizes
  refine ⟨?_, behind⟩
  obtain ⟨_, _, _⟩ := first
  obtain ⟨_, _, _⟩ := second
  cases amsCmd
  cases content
  rfl

theorem Frame.bytes_ne_nil (frame : Frame) : frame.bytes ≠ [] := by
  apply List.ne_nil_of_length_pos
  rw [bytes, List.length_append, List.length_append, length_u16Bytes]
  omega

/-- No frame is whole in front of these bytes. -/
def NoFrame (rest : List UInt8) : Prop :=
  ∀ frame : Frame, ¬frame.bytes <+: rest

theorem noFrame_nil : NoFrame [] :=
  fun frame isPrefix => frame.bytes_ne_nil (List.prefix_nil.mp isPrefix)

/-- A frame that breaks off has no frame in front. -/
theorem noFrame_take {frame : Frame} {count : Nat} (short : count < frame.bytes.length) :
    NoFrame (frame.bytes.take count) := by
  rintro other ⟨behind, same⟩
  have whole : other.bytes ++ (behind ++ frame.bytes.drop count) = frame.bytes ++ [] := by
    rw [← List.append_assoc, same, List.take_append_drop, List.append_nil]
  obtain ⟨-, nothing⟩ := Frame.bytes_append_inj whole
  have ends := List.drop_eq_nil_iff.mp (List.append_eq_nil_iff.mp nothing).2
  exact Nat.not_le_of_lt short ends

/-- A stream is split in one way into frames and bytes that have no frame in front. -/
theorem wire_append_inj {first second : List Frame} {rest others : List UInt8}
    (none : NoFrame rest) (noneElse : NoFrame others)
    (same : wire first ++ rest = wire second ++ others) : first = second ∧ rest = others := by
  induction first generalizing second with
  | nil =>
      cases second with
      | nil => exact ⟨rfl, same⟩
      | cons frame frames =>
          rw [wire_nil, List.nil_append, wire_cons, List.append_assoc] at same
          exact absurd ⟨_, same.symm⟩ (none frame)
  | cons frame frames ih =>
      rw [wire_cons, List.append_assoc] at same
      cases second with
      | nil => exact absurd ⟨_, same⟩ (noneElse frame)
      | cons other others =>
          rw [wire_cons, List.append_assoc] at same
          obtain ⟨rfl, behind⟩ := Frame.bytes_append_inj same
          obtain ⟨rfl, rest⟩ := ih behind
          exact ⟨rfl, rest⟩

/-- The frame of a request as the router reads it. -/
def Frame.Requests (frame : Frame) (source : AmsAddr) (request : Request)
    (invokeId : UInt32) : Prop :=
  frame.amsCmd = 0 ∧ frame.header = some (requestHeader source request invokeId) ∧
    frame.payload = request.payloadBufs.flatten

/-- What is assembled is a frame. -/
theorem WholeFrame.exists_frame {source : AmsAddr} {request : Request} {invokeId : UInt32}
    {bytes : List UInt8} (whole : WholeFrame source request invokeId bytes) :
    ∃ frame : Frame, frame.bytes = bytes ∧ frame.Requests source request invokeId := by
  have length := whole.length
  rw [whole.dataLength] at length
  have bound : 32 + request.payloadBufs.flatten.length < 2 ^ 32 := by
    rw [← show _ = 32 + _ from length]
    exact UInt32.toNat_lt _
  have header := @Payload.header_frame ⟨request.payloadBufs.flatten, bound⟩
    (requestHeader source request invokeId) rfl
    (by rw [requestHeader, ← List.length_flatten]; rfl)
  have payload := Payload.payload_frame ⟨request.payloadBufs.flatten, bound⟩
    (requestHeader source request invokeId)
  refine ⟨_, ?_, rfl, header, payload⟩
  rw [(Frame.bytes_of_header header).1, payload, whole.bytes]

/-- The frame that opens a port. -/
def openFrame : Frame :=
  ⟨0x1000, u16Bytes 0, by decide⟩

/-- The frame that closes a port. -/
def closeFrame (port : UInt16) : Frame :=
  ⟨1, u16Bytes port, by rw [length_u16Bytes]; decide⟩

theorem bytes_openFrame : openFrame.bytes = requestPortMsg := by
  decide

theorem bytes_closeFrame (port : UInt16) :
    (closeFrame port).bytes = [1, 0, 2, 0, 0, 0] ++ u16Bytes port := by
  have head : u16Bytes 1 ++ u32Bytes 2 = [1, 0, 2, 0, 0, 0] := by decide
  rw [Frame.bytes, Frame.length, closeFrame]
  dsimp only
  rw [length_u16Bytes, ← head]
  rfl

/-! ## What the client has sent -/

namespace World

variable {world after : World} {label : Label}

/-- The bytes sent are the frames of the calls `ids`, each once, which have nothing more to
send; all calls whose write went through are among them, in the order of their writes. -/
structure Posted (world : World) (ids : List CallId) (frames : List (List UInt8)) : Prop where
  each : List.Forall₂ world.Sends ids frames
  sent : world.sent = frames.flatten
  once : ids.Nodup
  written : world.written.Sublist ids
  spent : ∀ id ∈ ids, ∀ call, world.calls[id]? = some call → call.stage.outgoing = none

/-- A call that has nothing to send gets nothing to send. -/
theorem Consistent.spent_step (consistent : world.Consistent)
    (step : world.step label = some after) {id : CallId} {old new : Call}
    (found : world.calls[id]? = some old) (isNew : after.calls[id]? = some new)
    (spent : old.stage.outgoing = none) : new.stage.outgoing = none := by
  obtain ⟨_, same, stepped⟩ := consistent.persists step (step_frames step).length found
  cases isNew.symm.trans same
  cases waits : new.stage.outgoing with
  | none => rfl
  | some requestBuf =>
      rw [stepped.outgoing waits] at spent
      cases spent

/-- Only a write adds to the calls that have written. -/
theorem written_of_step (assembled : world.Assembled)
    (step : world.step label = some after) (quiet : ∀ id failure, label ≠ .write id failure) :
    after.written = world.written := by
  rcases outgoing_of_step step fun id count kind same => absurd same (quiet id _) with
    ⟨written, -⟩ | ⟨id, call, requestBuf, found, registered, -, sent⟩
  · exact written
  · -- the bytes of the frame would have been sent
    have whole := assembled id call requestBuf found (by rw [registered]; rfl)
    rw [sent_of_step step quiet] at sent
    have size := congrArg List.length sent
    rw [List.length_append, whole.bytes, List.length_append, AdsHeader.length_asBytes] at size
    omega

namespace Posted

variable {ids : List CallId} {frames : List (List UInt8)}

/-- What was sent stays sent in a step that sends nothing. -/
theorem still (posted : world.Posted ids frames) (consistent : world.Consistent)
    (step : world.step label = some after) (sent : after.sent = world.sent)
    (written : after.written = world.written) : after.Posted ids frames where
  each := posted.each.imp fun _ _ sends => consistent.sends_step step sends
  sent := by rw [sent, posted.sent]
  once := posted.once
  written := by
    rw [written]
    exact posted.written
  spent := by
    intro id member new isNew
    obtain ⟨place, isId⟩ := List.mem_iff_getElem?.mp member
    obtain ⟨below, same⟩ := List.getElem?_eq_some_iff.mp isId
    have ⟨call, found, _⟩ := posted.each.get below (posted.each.length_eq ▸ below)
    rw [List.get_eq_getElem, same] at found
    exact consistent.spent_step step found isNew (posted.spent id member call found)

/-- A call that still waited to send has sent its frame. -/
theorem add (posted : world.Posted ids frames) (consistent : world.Consistent)
    (assembled : world.Assembled) {id : CallId} {failure : Option (Nat × IoErrorKind)}
    {call : Call} {requestBuf : List UInt8} {stage : Stage}
    (step : world.step (.write id failure) = some after)
    (found : world.calls[id]? = some call) (waits : call.stage.outgoing = some requestBuf)
    (calls : after.calls = world.calls.modify id (.proceed stage))
    (ends : stage.outgoing = none) (sent : after.sent = world.sent ++ requestBuf)
    (written : after.written.Sublist (ids ++ [id])) :
    after.Posted (ids ++ [id]) (frames ++ [requestBuf]) where
  each := by
    have sends : world.Sends id requestBuf :=
      ⟨call, found, assembled id call requestBuf found waits⟩
    exact List.rel_append
      (posted.each.imp fun _ _ sends => consistent.sends_step step sends)
      (.cons (consistent.sends_step step sends) .nil)
  sent := by rw [sent, posted.sent, List.flatten_append, List.flatten_singleton]
  once := by
    refine posted.once.append (List.nodup_singleton _) fun other old same => ?_
    rw [List.mem_singleton.mp same] at old
    rw [posted.spent id old call found] at waits
    cases waits
  written := written
  spent := by
    intro other member new isNew
    rw [calls, List.getElem?_modify] at isNew
    obtain ⟨old, isOld, rfl⟩ := Option.map_eq_some_iff.mp isNew
    by_cases same : id = other
    · rw [if_pos same]
      exact ends
    · rw [if_neg same]
      rcases List.mem_append.mp member with known | last
      · exact posted.spent other known old isOld
      · exact absurd (List.mem_singleton.mp last).symm same

end Posted

end World

namespace Sender

variable {sender next : Sender}

/-- The invariant of a sender until a write stops inside its frame. -/
structure Posted (sender : Sender) : Prop where
  consistent : sender.world.Consistent
  assembled : sender.world.Assembled
  frames : sender.torn = false → ∃ ids frames, sender.world.Posted ids frames

theorem Posted.initial (source : AmsAddr) (readTimeout : Bool) :
    (Sender.initial source readTimeout).Posted where
  consistent := .initial source readTimeout
  assembled := (Framed.initial source readTimeout).assembled
  frames _ := ⟨[], [], {
    each := .nil
    sent := rfl
    once := .nil
    written := .slnil
    spent := by simp }⟩

/-- A write that goes through sends the frame of its call, and so does one that fails behind
its last byte. -/
theorem Posted.write {id : CallId} {failure : Option (Nat × IoErrorKind)}
    (posted : sender.Posted) (step : sender.step (.write id failure) = some next)
    (whole : next.torn = false) : ∃ ids frames, next.world.Posted ids frames := by
  obtain ⟨taken, torn⟩ := step_eq_some step
  rw [whole] at torn
  obtain ⟨clean, inside⟩ := Bool.or_eq_false_iff.mp torn.symm
  obtain ⟨ids, frames, sent⟩ := posted.frames clean
  obtain ⟨call, requestBuf, found, registered, written⟩ := World.write_eq_some taken
  have waits : call.stage.outgoing = some requestBuf := by
    rw [registered]
    rfl
  rcases written with ⟨rfl, -, after⟩ | ⟨count, kind, rfl, after⟩
  · have calls : next.world.calls = sender.world.calls.modify id (.proceed .waiting) := by
      rw [after]
      rfl
    refine ⟨_, _, sent.add posted.consistent posted.assembled taken found waits calls rfl ?_ ?_⟩
    · rw [after]
    · rw [after]
      exact sent.written.append (List.Sublist.refl [id])
  · rw [World.stopsInside, found, Option.bind_some, waits] at inside
    have grown : next.world.sent = sender.world.sent ++ requestBuf.take count := by rw [after]
    have same : next.world.written = sender.world.written := by
      rw [after]
      rfl
    rcases Nat.eq_zero_or_pos count with rfl | some
    · rw [List.take_zero, List.append_nil] at grown
      exact ⟨ids, frames, sent.still posted.consistent taken grown same⟩
    · have long : requestBuf.length ≤ count := by
        have outside : ¬count < requestBuf.length := by simpa [some] using inside
        exact Nat.le_of_not_lt outside
      rw [List.take_of_length_le long] at grown
      have calls : next.world.calls = sender.world.calls.modify id (.proceed (.done (.err
          (.io "dispatching assembled command payload" kind)))) := by
        rw [after]
        rfl
      refine ⟨_, _, sent.add posted.consistent posted.assembled taken found waits calls rfl
        grown ?_⟩
      rw [same]
      exact sent.written.trans (List.sublist_append_left ids [id])

theorem Posted.step {label : Label} (posted : sender.Posted)
    (step : sender.step label = some next) : next.Posted := by
  obtain ⟨taken, torn⟩ := step_eq_some step
  refine ⟨posted.consistent.step taken,
    posted.consistent.assembled_step taken posted.assembled, fun whole => ?_⟩
  by_cases writes : ∃ id failure, label = .write id failure
  · obtain ⟨id, failure, rfl⟩ := writes
    exact posted.write step whole
  · have quiet : ∀ id failure, label ≠ .write id failure :=
      fun id failure same => writes ⟨id, failure, same⟩
    rw [whole] at torn
    obtain ⟨ids, frames, sent⟩ := posted.frames (Bool.or_eq_false_iff.mp torn.symm).1
    exact ⟨ids, frames, sent.still posted.consistent taken (World.sent_of_step taken quiet)
      (World.written_of_step posted.assembled taken quiet)⟩

end Sender

/-! ## The whole stream -/

namespace Connection

variable {SocketAddr : Type} {connection : Connection}

/-- A port that the client asked for is the one in the router's answer. -/
theorem resolve_request_eq_ok {host : Host SocketAddr} {source : AmsAddr} {opened : Bool}
    {opening : List UInt8} (resolved : resolve host .request = .ok (source, opened, opening)) :
    opened = true ∧ opening = requestPortMsg ∧ ∃ reply, host.readExact = .ok reply ∧
      reply.1 = [0, 16, 8, 0, 0, 0] ++ source.netid.octets ++ u16Bytes source.port := by
  rw [resolve, Outcome.bind_eq_ok_iff] at resolved
  obtain ⟨-, -, resolved⟩ := resolved
  obtain ⟨⟨reply, size⟩, read, resolved⟩ := Outcome.bind_eq_ok_iff.mp resolved
  obtain ⟨head, resolved⟩ := Outcome.ite_err_eq_ok_iff.mp resolved
  rw [not_not] at head
  have six : ((reply.take 12).drop 6).length = 6 := by
    rw [List.length_drop, List.length_take, size]
    rfl
  have two : (reply.drop 12).length = 2 := by rw [List.length_drop, size]
  rw [AmsNetId.fromSlice, dif_pos six] at resolved
  cases resolved
  refine ⟨rfl, rfl, ⟨reply, size⟩, ?_, ?_⟩
  · cases answered : host.readExact with
    | ok value =>
        rw [answered] at read
        cases read
        rfl
    | error kind =>
        rw [answered] at read
        cases read
  · have front : reply.take 6 = (reply.take 12).take 6 := by rw [List.take_take]; rfl
    change reply = _ ++ (reply.take 12).drop 6 ++ u16Bytes (leU16 (reply.drop 12))
    rw [leU16, List.take_of_length_le two.le, u16Bytes_leValue two, ← head, front,
      List.take_append_drop, List.take_append_drop]

/-- What a client that has connected knows of how it got its source address. -/
theorem new_eq_ok {host : Host SocketAddr} {timeouts : Timeouts} {source : Source}
    (opened : new host timeouts source = .ok connection) :
    resolve host source =
        .ok (connection.source, connection.sourcePortOpened, connection.opening) ∧
      connection.readTimeout = timeouts.read := by
  rw [new] at opened
  obtain ⟨addrs, -, opened⟩ := Outcome.bind_eq_ok_iff.mp opened
  cases addrs with
  | nil => cases opened
  | cons addr addrs =>
      dsimp only at opened
      have reached : ∃ result : Outcome Error Unit, (result >>= fun _ =>
          ctx host.setNodelay "setting client socket NODELAY" >>= fun _ =>
          ctx (host.setWriteTimeout timeouts.write) "setting client socket write timeout" >>=
            fun _ =>
          ctx (host.setReadTimeout timeouts.read) "setting client socket read timeout" >>=
            fun _ =>
          resolve host source >>= fun (source, sourcePortOpened, opening) =>
            pure { source, sourcePortOpened, readTimeout := timeouts.read, opening }) =
          .ok connection := by
        cases connects : timeouts.connect with
        | some timeout =>
            rw [connects] at opened
            exact ⟨_, opened⟩
        | none =>
            rw [connects] at opened
            exact ⟨_, opened⟩
      obtain ⟨_, opened⟩ := reached
      obtain ⟨-, -, opened⟩ := Outcome.bind_eq_ok_iff.mp opened
      obtain ⟨-, -, opened⟩ := Outcome.bind_eq_ok_iff.mp opened
      obtain ⟨-, -, opened⟩ := Outcome.bind_eq_ok_iff.mp opened
      obtain ⟨-, -, opened⟩ := Outcome.bind_eq_ok_iff.mp opened
      obtain ⟨⟨source, sourcePortOpened, opening⟩, resolved, made⟩ :=
        Outcome.bind_eq_ok_iff.mp opened
      cases made
      exact ⟨resolved, rfl⟩

/-- Something is written for a source address exactly if its port is opened. -/
theorem resolve_opening {host : Host SocketAddr} {source : Source} {id : AmsAddr} {opened : Bool}
    {opening : List UInt8} (resolved : resolve host source = .ok (id, opened, opening)) :
    opening = if opened then requestPortMsg else [] := by
  cases source with
  | addr own =>
      cases resolved
      rfl
  | auto =>
      obtain ⟨myAddr, -, resolved⟩ := Outcome.bind_eq_ok_iff.mp resolved
      cases myAddr with
      | v4 a b c d =>
          cases resolved
          rfl
      | v6 octets =>
          cases resolved
          rfl
  | request =>
      obtain ⟨rfl, rfl, -⟩ := resolve_request_eq_ok resolved
      rfl

/-- The whole frames of everything that a client writes, from when it connects to when it is
dropped. -/
def framesAround (connection : Connection) (requests : List Frame) (closed : Bool) :
    List Frame :=
  (if connection.sourcePortOpened then openFrame :: requests else requests) ++
    if closed then [closeFrame connection.source.port] else []

theorem closing_of_closed {socketOpen : Bool} {failure : Option Nat}
    (closes : connection.closed socketOpen failure = true) :
    connection.closing socketOpen failure = (closeFrame connection.source.port).bytes := by
  obtain ⟨present, whole⟩ := Bool.and_eq_true_iff.mp closes
  rw [closing, present, if_pos rfl, bytes_closeFrame]
  cases failure with
  | none => rfl
  | some count => exact List.take_of_length_le (of_decide_eq_true whole)

/-- What is written when the port is not closed has no frame in front. -/
theorem noFrame_closing {socketOpen : Bool} {failure : Option Nat}
    (stays : connection.closed socketOpen failure = false) :
    NoFrame (connection.closing socketOpen failure) := by
  rw [closing]
  rcases Bool.and_eq_false_iff.mp stays with absent | short
  · rw [absent, if_neg Bool.false_ne_true]
    exact noFrame_nil
  · split
    · cases failure with
      | none => cases short
      | some count =>
          have size : (closeFrame connection.source.port).bytes.length = 8 := by
            rw [bytes_closeFrame, List.length_append, length_u16Bytes]
            rfl
          have few := Nat.lt_of_not_le (of_decide_eq_false short)
          rw [Option.elim_some, closePortMsg, ← bytes_closeFrame]
          exact noFrame_take (size ▸ few)
    · exact noFrame_nil

/-- The stream is the whole frames and what was written of a close message that broke off. -/
theorem wire_framesAround {host : Host SocketAddr} {timeouts : Timeouts} {source : Source}
    (opened : new host timeouts source = .ok connection) (requests : List Frame)
    (socketOpen : Bool) (failure : Option Nat) :
    wire (connection.framesAround requests (connection.closed socketOpen failure)) ++
        (if connection.closed socketOpen failure then []
          else connection.closing socketOpen failure) =
      connection.opening ++ wire requests ++ connection.closing socketOpen failure := by
  have front : wire (if connection.sourcePortOpened then openFrame :: requests else requests) =
      connection.opening ++ wire requests := by
    rw [resolve_opening (new_eq_ok opened).1]
    cases connection.sourcePortOpened with
    | true => rw [if_pos rfl, if_pos rfl, wire_cons, bytes_openFrame]
    | false => rw [if_neg Bool.false_ne_true, if_neg Bool.false_ne_true, List.nil_append]
  rw [framesAround, wire_append, front, List.append_assoc]
  congr 1
  cases closes : connection.closed socketOpen failure with
  | true => rw [if_pos rfl, if_pos rfl, wire_cons, wire_nil, closing_of_closed closes,
      List.append_nil, List.append_nil]
  | false => rw [if_neg Bool.false_ne_true, if_neg Bool.false_ne_true, wire_nil, List.nil_append]

/-- The stream is split into whole frames and a rest in one way. -/
theorem split_iff {host : Host SocketAddr} {timeouts : Timeouts} {source : Source}
    (opened : new host timeouts source = .ok connection) {requests frames : List Frame}
    {socketOpen : Bool} {failure : Option Nat} {rest : List UInt8} :
    wire frames ++ rest =
          connection.opening ++ wire requests ++ connection.closing socketOpen failure ∧
        NoFrame rest ↔
      frames = connection.framesAround requests (connection.closed socketOpen failure) ∧
        rest = if connection.closed socketOpen failure then []
          else connection.closing socketOpen failure := by
  have none : NoFrame (if connection.closed socketOpen failure then []
      else connection.closing socketOpen failure) := by
    cases closes : connection.closed socketOpen failure with
    | true => exact noFrame_nil
    | false => exact noFrame_closing closes
  rw [← wire_framesAround opened]
  constructor
  · rintro ⟨same, noneElse⟩
    exact wire_append_inj noneElse none same
  · rintro ⟨rfl, rfl⟩
    exact ⟨rfl, none⟩

end Connection

namespace Router

variable {policy : PortPolicy} {router : Router}

theorem take_openFrame {port : UInt16} (isNext : policy.next router.ports = some port) :
    router.take policy openFrame = { router with ports := insert port router.ports } := by
  have opens : openFrame.amsCmd = 0x1000 := rfl
  rw [take, if_pos opens, isNext]

theorem take_closeFrame (port : UInt16) :
    router.take policy (closeFrame port) =
      { router with ports := router.ports.erase port } := by
  have content : leU16 (closeFrame port).content = port := by
    have word := leU16_u16Bytes_append port []
    rwa [List.append_nil] at word
  have closes : (closeFrame port).amsCmd = 1 := rfl
  rw [take, closes, if_neg (by decide), if_pos rfl, content]

/-- A request from an open port is passed on. -/
theorem take_request {frame : Frame} {source : AmsAddr} {request : Request}
    {invokeId : UInt32} (isRequest : frame.Requests source request invokeId)
    (own : source.netid = router.netid) (isOpen : source.port ∈ router.ports) :
    router.take policy frame = { router with passed := router.passed ++ [frame] } := by
  obtain ⟨amsCmd, header, -⟩ := isRequest
  rw [take, amsCmd, if_neg (by decide), if_neg (by decide), header]
  exact if_pos ⟨own, isOpen⟩

/-- All requests from an open port are passed on. -/
theorem takeAll_requests {requests : List Frame} {source : AmsAddr}
    (all : ∀ frame ∈ requests, ∃ request invokeId, frame.Requests source request invokeId)
    (own : source.netid = router.netid) (isOpen : source.port ∈ router.ports) :
    router.takeAll policy requests = { router with passed := router.passed ++ requests } := by
  induction requests generalizing router with
  | nil => rw [takeAll, List.foldl_nil, List.append_nil]
  | cons frame frames ih =>
      obtain ⟨⟨request, invokeId, isRequest⟩, others⟩ := List.forall_mem_cons.mp all
      rw [takeAll, List.foldl_cons, take_request isRequest own isOpen]
      refine (@ih { router with passed := router.passed ++ [frame] } others own isOpen).trans ?_
      rw [List.append_assoc, List.singleton_append]

/-- A client that opens a port and sends requests from it has all of them passed on. -/
theorem takeAll_opened {requests : List Frame} {port : UInt16}
    (isNext : policy.next router.ports = some port)
    (all : ∀ frame ∈ requests, ∃ request invokeId,
      frame.Requests ⟨router.netid, port⟩ request invokeId) :
    router.takeAll policy (openFrame :: requests) =
      { router with
        ports := insert port router.ports
        passed := router.passed ++ requests } := by
  rw [takeAll, List.foldl_cons, take_openFrame isNext]
  exact @takeAll_requests policy { router with ports := insert port router.ports }
    requests ⟨router.netid, port⟩ all rfl (Finset.mem_insert_self port router.ports)

/-- If it also closes the port, the router has the ports open that it had before; otherwise
the port stays open. -/
theorem takeAll_around {requests : List Frame} {port : UInt16} {closed : Bool}
    (isNext : policy.next router.ports = some port)
    (all : ∀ frame ∈ requests, ∃ request invokeId,
      frame.Requests ⟨router.netid, port⟩ request invokeId) :
    router.takeAll policy
        (openFrame :: requests ++ if closed then [closeFrame port] else []) =
      { router with
        ports := if closed then router.ports else insert port router.ports
        passed := router.passed ++ requests } := by
  have first := takeAll_opened isNext all
  cases closed with
  | true =>
      rw [takeAll] at first
      rw [if_pos rfl, if_pos rfl, takeAll, List.foldl_append, first]
      rw [List.foldl_cons, List.foldl_nil, take_closeFrame]
      dsimp only
      rw [Finset.erase_insert (policy.fresh router.ports port isNext)]
  | false =>
      rw [if_neg Bool.false_ne_true, if_neg Bool.false_ne_true, List.append_nil]
      exact first

/-- The address in an answer is the one that the router has made up. -/
theorem eq_of_answer {source : AmsAddr} {port : UInt16}
    (same : [0, 16, 8, 0, 0, 0] ++ source.netid.octets ++ u16Bytes source.port =
      router.answer port) : source = ⟨router.netid, port⟩ := by
  rw [answer, List.append_assoc, List.append_assoc] at same
  obtain ⟨octets, word⟩ := List.append_inj (List.append_cancel_left same)
    (by rw [source.netid.size, router.netid.size])
  have ports := congrArg leU16 word
  have netids := AmsNetId.fromSlice_octets source.netid
  rw [octets, AmsNetId.fromSlice_octets] at netids
  rw [← List.append_nil (u16Bytes source.port), ← List.append_nil (u16Bytes port),
    leU16_u16Bytes_append, leU16_u16Bytes_append] at ports
  cases source
  cases netids
  cases ports
  rfl

end Router

/-- The client keeps its source address. -/
theorem Sender.source_of_run {sender last : Sender} {labels : List Label}
    (run : Run Sender.step sender labels last) : last.world.source = sender.world.source :=
  @Run.invariant _ _ _ _ _ _ (fun reached => reached.world.source = sender.world.source) run rfl
    fun _ _ _ same step => (World.step_frames (Sender.step_eq_some step).1).source.trans same

/-- The frames of a client's requests, in the order in which they were sent. -/
theorem Sender.Posted.requests {sender : Sender} (posted : sender.Posted)
    (whole : sender.torn = false) : ∃ ids requests,
      List.Forall₂ (fun id (frame : Frame) => ∃ call, sender.world.calls[id]? = some call ∧
        frame.Requests sender.world.source call.request call.invokeId) ids requests ∧
      ids.Nodup ∧ sender.world.written.Sublist ids ∧ wire requests = sender.world.sent := by
  obtain ⟨ids, frames, sent⟩ := posted.frames whole
  suffices made : ∃ requests, List.Forall₂ (fun id (frame : Frame) =>
      ∃ call, sender.world.calls[id]? = some call ∧
        frame.Requests sender.world.source call.request call.invokeId) ids requests ∧
      wire requests = frames.flatten by
    obtain ⟨requests, each, same⟩ := made
    exact ⟨ids, requests, each, sent.once, sent.written, same.trans sent.sent.symm⟩
  have each := sent.each
  clear sent
  induction each with
  | nil => exact ⟨[], .nil, rfl⟩
  | cons sends _ ih =>
      obtain ⟨call, found, isWhole⟩ := sends
      obtain ⟨frame, bytes, isRequest⟩ := isWhole.exists_frame
      obtain ⟨requests, others, same⟩ := ih
      refine ⟨frame :: requests, .cons ⟨call, found, isRequest⟩ others, ?_⟩
      rw [wire_cons, same, bytes, List.flatten_cons]

/-- Everything that a client writes while it lives is split into frames in one way: the
message that opens its port, if it asked for one, the frames of its calls' requests, each once,
and the message that closes the same port, if the socket is not shut down and the write goes
through; nothing but a part of that message is left over.  The router that opened the port
passes on all of the requests.  In the end it has the ports open that it had before if the
close message was written, and one more if not. -/
theorem connection_served {SocketAddr : Type} {host : Host SocketAddr} {timeouts : Timeouts}
    {source : Source} {connection : Connection}
    (opened : Connection.new host timeouts source = .ok connection) {labels : List Label}
    {last : Sender} (run : Run Sender.step connection.sender labels last)
    (whole : last.torn = false) :
    ∃ ids requests,
      List.Forall₂ (fun id (frame : Frame) => ∃ call, last.world.calls[id]? = some call ∧
        frame.Requests connection.source call.request call.invokeId) ids requests ∧
      ids.Nodup ∧ last.world.written.Sublist ids ∧
      ∀ failure : Option Nat,
        let closed := connection.closed last.world.socketOpen failure
        let closing := connection.closing last.world.socketOpen failure
        (∀ frames rest,
          wire frames ++ rest = connection.opening ++ last.world.sent ++ closing ∧
              NoFrame rest ↔
            frames = connection.framesAround requests closed ∧
              rest = if closed then [] else closing) ∧
        (source = .request → ∀ (policy : PortPolicy) (router : Router) (port : UInt16),
          policy.next router.ports = some port →
          (∀ reply, host.readExact = .ok reply → reply.1 = router.answer port) →
          router.takeAll policy (connection.framesAround requests closed) =
            { router with
              ports := if closed then router.ports else insert port router.ports
              passed := router.passed ++ requests }) := by
  have posted : last.Posted := run.invariant (.initial connection.source _)
    fun _ _ _ posted step => posted.step step
  obtain ⟨ids, requests, each, once, written, sent⟩ := posted.requests whole
  have isSource : last.world.source = connection.source := Sender.source_of_run run
  rw [isSource] at each
  refine ⟨ids, requests, each, once, written, fun failure => ⟨fun frames rest => ?_, ?_⟩⟩
  · rw [← sent]
    exact Connection.split_iff opened
  · rintro rfl policy router port isNext answered
    have resolved := (Connection.new_eq_ok opened).1
    obtain ⟨isOpened, -, reply, read, same⟩ := Connection.resolve_request_eq_ok resolved
    have own := Router.eq_of_answer (same.symm.trans (answered reply read))
    rw [Connection.framesAround, if_pos isOpened, own]
    apply Router.takeAll_around isNext
    intro frame member
    obtain ⟨place, isFrame⟩ := List.mem_iff_getElem?.mp member
    obtain ⟨below, found⟩ := List.getElem?_eq_some_iff.mp isFrame
    have ⟨call, _, isRequest⟩ := each.get (each.length_eq.symm ▸ below) below
    rw [List.get_eq_getElem, found, own] at isRequest
    exact ⟨call.request, call.invokeId, isRequest⟩

/-- A router that opens one port. -/
def onePort : PortPolicy where
  next ports := if 0x8001 ∈ ports then none else some 0x8001
  fresh ports port opened := by
    split at opened
    · cases opened
    · cases opened
      assumption

/-- The router before the client connects. -/
def portRouter : Router :=
  ⟨.new 192 168 0 1 1 1, ∅, []⟩

/-- A host on which everything goes well. -/
def portHost : Host Unit where
  toSocketAddrs := .ok [()]
  connectTimeout _ _ := .ok ()
  connect _ := .ok ()
  setNodelay := .ok ()
  setWriteTimeout _ := .ok ()
  setReadTimeout _ := .ok ()
  localAddr := .ok (.v6 [])
  writeAll _ := .ok ()
  readExact := .ok ⟨portRouter.answer 0x8001, by decide⟩

/-- Two calls, of which the second is written first and the first fails before its first
byte. -/
def portCalls : List Label :=
  [.start countRead, .insert 0, .start countRead, .insert 1, .write 1 none,
    .write 0 (some (0, .timedOut))]

theorem portCalls_served :
    ∃ connection last, Connection.new portHost .none .request = .ok connection ∧
      Run Sender.step connection.sender portCalls last ∧
      ∃ requests,
        (wire (openFrame :: requests ++ [closeFrame 0x8001]) =
            connection.opening ++ last.world.sent ++
              connection.closing last.world.socketOpen none ∧
          portRouter.takeAll onePort (openFrame :: requests ++ [closeFrame 0x8001]) =
            { portRouter with passed := requests }) ∧
        wire (openFrame :: requests) ++ [1, 0, 2] =
            connection.opening ++ last.world.sent ++
              connection.closing last.world.socketOpen (some 3) ∧
          portRouter.takeAll onePort (openFrame :: requests) =
            { portRouter with ports := {0x8001}, passed := requests } := by
  have computed : (execute Sender.step (.initial ⟨.new 192 168 0 1 1 1, 0x8001⟩ false)
      portCalls).map (fun sender => (sender.torn, sender.world.socketOpen)) =
        some (false, true) := by decide +kernel
  obtain ⟨last, executed, same⟩ := Option.map_eq_some_iff.mp computed
  obtain ⟨whole, isOpen⟩ := Prod.mk.inj same
  have run : Run Sender.step _ _ _ := .of_execute executed
  obtain ⟨ids, requests, -, -, -, ends⟩ :=
    @connection_served Unit portHost .none .request
      ⟨⟨.new 192 168 0 1 1 1, 0x8001⟩, true, none, requestPortMsg⟩ rfl portCalls last run whole
  have answered : ∀ reply, portHost.readExact = .ok reply → reply.1 = portRouter.answer 0x8001 := by
    intro reply read
    cases read
    rfl
  rw [isOpen] at ends
  obtain ⟨frames, router⟩ := ends none
  obtain ⟨cut, kept⟩ := ends (some 3)
  refine ⟨_, last, rfl, run, requests, ⟨?_, ?_⟩, ?_, ?_⟩
  · rw [isOpen, ← List.append_nil (wire _)]
    exact ((frames (openFrame :: requests ++ [closeFrame 0x8001]) []).mpr ⟨rfl, rfl⟩).1
  · exact router rfl onePort portRouter 0x8001 rfl answered
  · rw [isOpen]
    exact ((cut (openFrame :: requests) [1, 0, 2]).mpr ⟨(List.append_nil _).symm, rfl⟩).1
  · rw [← List.append_nil (openFrame :: requests)]
    exact kept rfl onePort portRouter 0x8001 rfl answered

end Ads.Client
