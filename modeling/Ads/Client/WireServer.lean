import Ads.Client.Linear

/-!
# A peer that reads the bytes

A peer that takes requests off the stream of bytes that the client has sent, and answers
each before it takes the next.  It knows nothing of the client's calls: which request
comes next, and what to put on a reply, it reads from the bytes.
-/

namespace Ads.Client

open Ads.Bytes Ads.Control Ads.Transition

/-! ## The server -/

/-- The data of a frame, which leaves room for the header in the length field. -/
structure Payload where
  bytes : List UInt8
  bound : 32 + bytes.length < 2 ^ 32

/-- What a server does with the command number and the data of a request to one of its
addresses, and the notification that it has to send before the reply.  It may also stop
for good. -/
structure ByteServer (S : Type) where
  handle : S → AmsAddr → UInt16 → List UInt8 → Option (S × Payload × UInt32)
  notification : S → Option { payload : Payload // 4 ≤ payload.bytes.length }

/-- The header of the reply to a request. -/
def ByteServer.replyHeader (header : AdsHeader) (size : Nat) (error : UInt32) : AdsHeader where
  amsCmd := 0
  length := UInt32.ofNat (32 + size)
  destNetid := header.srcNetid
  destPort := header.srcPort
  srcNetid := header.destNetid
  srcPort := header.destPort
  command := header.command
  stateFlags := header.stateFlags ||| 1
  dataLength := UInt32.ofNat size
  errorCode := error
  invokeId := header.invokeId

/-- The header of a notification, which goes where the reply goes. -/
def ByteServer.notificationHeader (header : AdsHeader) (size : Nat) : AdsHeader where
  amsCmd := 0
  length := UInt32.ofNat (32 + size)
  destNetid := header.srcNetid
  destPort := header.srcPort
  srcNetid := header.destNetid
  srcPort := header.destPort
  command := Command.notification.toU16
  stateFlags := 4
  dataLength := UInt32.ofNat size
  errorCode := 0
  invokeId := 0

/-- The frame of a header and its data. -/
def Payload.frame (payload : Payload) (header : AdsHeader) : Frame where
  amsCmd := 0
  content := header.amsBytes ++ payload.bytes
  bound := by
    rw [List.length_append, AdsHeader.length_amsBytes]
    exact payload.bound

namespace ByteServer

variable {S : Type}

/-- The notification that is sent for a request, if there is one. -/
def notes (server : ByteServer S) (state : S) (header : AdsHeader) : List Frame :=
  match server.notification state with
  | some data => [data.1.frame (notificationHeader header data.1.bytes.length)]
  | none => []

/-- The frames that are sent for a request: the notification and the reply. -/
def frames (server : ByteServer S) (state : S) (header : AdsHeader) (reply : Payload)
    (error : UInt32) : List Frame :=
  server.notes state header ++ [reply.frame (replyHeader header reply.bytes.length error)]

/-- Take a request off the input, once it is there in full: the state afterwards, the
frames that are sent, and the number of bytes that were read. -/
def serve (server : ByteServer S) (state : S) (input : List UInt8) :
    Option (S × List Frame × Nat) := do
  let header ← AdsHeader.readFromBytes (input.take adsHeaderSize)
  let size := header.dataLength.toNat
  if adsHeaderSize + size ≤ input.length then
    let data := (input.drop adsHeaderSize).take size
    let (after, reply, error) ← server.handle state header.dest header.command data
    some (after, server.frames after header reply error, adsHeaderSize + size)
  else none

/-- The server as a peer that is handed the requests themselves. -/
def devices (server : ByteServer S) : Devices S := fun target =>
  { handle := fun state cmd payload =>
      match server.handle state target cmd.toU16 payload with
      | some (after, reply, error) => (after, ⟨error, reply.bytes⟩)
      | none => (state, ⟨0, []⟩) }

/-- What is read off an input that starts with a whole request. -/
theorem serve_whole {server : ByteServer S} {state : S} {source : AmsAddr} {request : Request}
    {invokeId : UInt32} {frame rest : List UInt8}
    (whole : WholeFrame source request invokeId frame) :
    server.serve state (frame ++ rest) =
      (server.handle state request.target request.cmd.toU16 request.payloadBufs.flatten).map
        fun (after, reply, error) =>
          (after, server.frames after (requestHeader source request invokeId) reply error,
            frame.length) := by
  have size : (requestHeader source request invokeId).dataLength.toNat =
      request.payloadBufs.flatten.length := whole.dataLength
  have asBytes : (frame ++ rest).take adsHeaderSize =
      (requestHeader source request invokeId).asBytes := by
    rw [whole.bytes, List.append_assoc]
    exact List.take_left' (AdsHeader.length_asBytes _)
  have data : ((frame ++ rest).drop adsHeaderSize).take request.payloadBufs.flatten.length =
      request.payloadBufs.flatten := by
    have behind : (frame ++ rest).drop adsHeaderSize = request.payloadBufs.flatten ++ rest := by
      rw [whole.bytes, List.append_assoc]
      exact List.drop_left' (AdsHeader.length_asBytes _)
    rw [behind, List.take_left]
  have length : frame.length = adsHeaderSize + request.payloadBufs.flatten.length := by
    rw [whole.bytes, List.length_append, AdsHeader.length_asBytes]
    rfl
  have long : adsHeaderSize + request.payloadBufs.flatten.length ≤ (frame ++ rest).length := by
    rw [List.length_append, length]
    exact Nat.le_add_right _ _
  rw [serve, asBytes, AdsHeader.readFromBytes_asBytes]
  simp only [Option.bind_eq_bind, Option.bind_some, size, if_pos long, data, length]
  change (server.handle state request.target request.cmd.toU16 _).bind _ = _
  cases server.handle state request.target request.cmd.toU16 request.payloadBufs.flatten <;> rfl

theorem serve_nil (server : ByteServer S) (state : S) : server.serve state [] = none := by
  rfl

end ByteServer

/-! ## The client and its bytes -/

/-- A client, its server, and the number of bytes that the server has read. -/
structure Wire (S : Type) where
  world : World
  state : S
  taken : Nat

namespace Wire

variable {S : Type}

/-- The state before the first call. -/
def initial (source : AmsAddr) (readTimeout : Bool) (state : S) : Wire S :=
  ⟨.initial source readTimeout, state, 0⟩

/-- A step of the client, or a request that is served. -/
inductive Act
  | client (label : Label)
  | serve

/-- The client takes the steps it takes on its own.  It sends no notifications, starts
again with no invoke id, and its writes stop before their first byte or not at all. -/
def Allows (wire : Wire S) : Label → Prop
  | .arrive _ => False
  | .start request => request.cmd ≠ .notification ∧ wire.world.calls.length < 2 ^ 32
  | .write _ (some (count, _)) => count = 0
  | _ => True

instance (wire : Wire S) (label : Label) : Decidable (wire.Allows label) :=
  match label with
  | .arrive _ => inferInstanceAs (Decidable False)
  | .start _ => inferInstanceAs (Decidable (_ ∧ _))
  | .write _ (some (count, _)) => inferInstanceAs (Decidable (count = 0))
  | .write _ none | .insert _ | .receive _ | .timeout _ | .discard _ | .turn _ | .shutdown
  | .drain => inferInstanceAs (Decidable True)

/-- One step. -/
def step (server : ByteServer S) (wire : Wire S) : Act → Option (Wire S)
  | .client label =>
      if wire.Allows label then
        (wire.world.step label).map fun world => { wire with world }
      else none
  | .serve =>
      (server.serve wire.state (wire.world.sent.drop wire.taken)).map
        fun (state, frames, count) =>
          { world := { wire.world with
              incoming := wire.world.incoming ++ Client.wire frames }
            state
            taken := wire.taken + count }

end Wire

/-! ## What has been sent -/

namespace World

variable {world after : World} {label : Label}

/-- The whole frame of the request of a call. -/
def Sends (world : World) (id : CallId) (frame : List UInt8) : Prop :=
  ∃ call, world.calls[id]? = some call ∧
    WholeFrame world.source call.request call.invokeId frame

theorem Consistent.sends_step (consistent : world.Consistent)
    (step : world.step label = some after) {id : CallId} {frame : List UInt8}
    (sends : world.Sends id frame) : after.Sends id frame := by
  have frames := step_frames step
  obtain ⟨call, found, whole⟩ := sends
  obtain ⟨new, isNew, stepped⟩ := consistent.persists step frames.length found
  refine ⟨new, isNew, ?_⟩
  rw [frames.source, stepped.request, stepped.invokeId]
  exact whole

/-- Unless it stops inside its frame, a write alone sends bytes, and sends the frame of its
call. -/
theorem outgoing_of_step (step : world.step label = some after)
    (whole : ∀ id count kind, label = .write id (some (count, kind)) → count = 0) :
    (after.written = world.written ∧ after.sent = world.sent) ∨
      ∃ (id : CallId) (call : Call) (requestBuf : List UInt8),
        world.calls[id]? = some call ∧ call.stage = .registered requestBuf ∧
        after.written = world.written ++ [id] ∧ after.sent = world.sent ++ requestBuf := by
  by_cases writes : ∃ id failure, label = .write id failure
  · obtain ⟨id, failure, rfl⟩ := writes
    obtain ⟨call, requestBuf, found, registered, ⟨rfl, -, rfl⟩ | ⟨count, kind, rfl, rfl⟩⟩ :=
      write_eq_some step
    · exact .inr ⟨id, call, requestBuf, found, registered, rfl, rfl⟩
    · have nothing := whole id count kind rfl
      subst nothing
      exact .inl ⟨rfl, List.append_nil _⟩
  · have quiet : ∀ id failure, label ≠ .write id failure :=
      fun id failure equal => writes ⟨id, failure, equal⟩
    refine .inl ⟨?_, sent_of_step step quiet⟩
    cases label with
    | start request => cases step; rfl
    | insert call =>
        obtain ⟨_, _, _, _, rfl⟩ := insert_eq_some step
        rfl
    | write call failure => exact absurd rfl (quiet call failure)
    | receive call => obtain ⟨_, _, _, ⟨_, _, rfl⟩ | ⟨_, rfl⟩⟩ := receive_eq_some step <;> rfl
    | timeout call => obtain ⟨_, _, _, _, _, rfl⟩ := timeout_eq_some step; rfl
    | discard call => obtain ⟨_, _, _, _, rfl⟩ := discard_eq_some step; rfl
    | arrive bytes => cases step; rfl
    | turn socketEnd =>
        obtain ⟨-, ⟨_, rfl⟩ | ⟨_, _, rfl⟩ | ⟨_, _, _, _, _, _, rfl⟩ | ⟨_, _, _, rfl⟩ | rfl⟩ :=
          turn_eq_some step <;> rfl
    | shutdown => obtain ⟨_, _, rfl⟩ := shutdown_eq_some step; rfl
    | drain => obtain ⟨_, _, rfl⟩ := drain_eq_some step; rfl

/-- A call whose frame waits to be written is not among those that were written. -/
theorem Consistent.not_written_of_registered (consistent : world.Consistent) {id : CallId}
    {call : Call} {requestBuf : List UInt8} (found : world.calls[id]? = some call)
    (registered : call.stage = .registered requestBuf) : id ∉ world.written := by
  have fits := (consistent.calls id call found).stage
  rw [registered] at fits
  exact fits.1

end World

/-! ## Frames of the server -/

namespace Payload

theorem payload_frame (payload : Payload) (header : AdsHeader) :
    (payload.frame header).payload = payload.bytes := by
  rw [Frame.payload, frame, List.drop_left' (AdsHeader.length_amsBytes _)]

/-- The header of a frame is the one that it was made with, if that has its length. -/
theorem header_frame (payload : Payload) {header : AdsHeader} (command : header.amsCmd = 0)
    (length : header.length = UInt32.ofNat (32 + payload.bytes.length)) :
    (payload.frame header).header = some header := by
  have size : (payload.frame header).content.length = 32 + payload.bytes.length := by
    rw [frame, List.length_append, AdsHeader.length_amsBytes]
  have long : 32 ≤ (payload.frame header).content.length := by
    rw [size]
    exact Nat.le_add_right _ _
  have bytes : (payload.frame header).bytes = header.asBytes ++ payload.bytes := by
    rw [Frame.bytes, Frame.length, size, AdsHeader.asBytes, command, length,
      List.append_assoc _ _ payload.bytes]
    rfl
  rw [Frame.header, if_pos long, bytes, List.take_left' (AdsHeader.length_asBytes _),
    AdsHeader.readFromBytes_asBytes]

end Payload

/-- A notification is well formed, and no reply. -/
theorem ByteServer.notes_proper {S : Type} {server : ByteServer S} {state : S}
    {header : AdsHeader} (source : AmsAddr) {frame : Frame}
    (member : frame ∈ server.notes state header) :
    frame.WellFormed source ∧ frame.reply source = none := by
  unfold notes at member
  split at member
  · rename_i data _
    rw [List.mem_singleton.mp member]
    have found : (data.1.frame (notificationHeader header data.1.bytes.length)).header =
        some (notificationHeader header data.1.bytes.length) :=
      data.1.header_frame rfl rfl
    have size : (notificationHeader header data.1.bytes.length).dataLength.toNat =
        data.1.bytes.length :=
      UInt32.toNat_ofNat_of_lt' (Nat.lt_of_le_of_lt (Nat.le_add_left _ _) data.1.bound)
    constructor
    · refine .inr ⟨_, found, ?_, List.mem_cons_self, fun _ _ _ => ?_⟩
      · rw [size]
        exact List.length_append.trans (congrArg (· + _) (AdsHeader.length_amsBytes _))
      · rw [data.1.payload_frame]
        exact data.2
    · rw [Frame.reply, found]
      exact if_neg fun isReply => isReply.2.2 rfl
  · cases member

/-- The reply to the request of a call is the one that the call waits for. -/
theorem ByteServer.reply_eq_replyFrame (source : AmsAddr) (call : Call) (reply : Payload)
    (error : UInt32) :
    reply.frame (replyHeader (requestHeader source call.request call.invokeId)
        reply.bytes.length error) =
      replyFrame source call error reply.bytes reply.bound := by
  have flags : (4 : UInt16) ||| 1 = 5 := by decide
  have header : replyHeader (requestHeader source call.request call.invokeId)
      reply.bytes.length error = Client.replyHeader source call error reply.bytes.length := by
    rw [replyHeader, Client.replyHeader, ← flags]
    rfl
  rw [header]
  rfl

/-! ## Steps of a session and of its peer -/

namespace Session

variable {session : Session}

theorem step_note {frame : Frame} (wellFormed : frame.WellFormed session.world.source)
    (noReply : frame.reply session.world.source = none) :
    session.step (.note frame) = some (session.send ⟨none, frame⟩) :=
  if_pos ⟨wellFormed, noReply⟩

theorem step_answer {id : CallId} {call : Call} {errorCode : UInt32} {payload : List UInt8}
    (found : session.world.calls[id]? = some call) (bound : 32 + payload.length < 2 ^ 32)
    (isWritten : id ∈ session.world.written) (unanswered : id ∉ session.answered)
    (isRequest : call.request.cmd ≠ .notification) :
    session.step (.answer id errorCode payload) =
      some { session.send
               ⟨some id, replyFrame session.world.source call errorCode payload bound⟩ with
             answered := session.answered ++ [id] } := by
  simp only [step, found]
  rw [dif_pos bound, if_pos ⟨isWritten, unanswered, isRequest⟩]

end Session

/-- With fewer calls than invoke ids, the next invoke id is free. -/
theorem World.Consistent.free {session : Session} (consistent : session.world.Consistent)
    (few : session.world.calls.length < 2 ^ 32) : session.Free := by
  rintro ⟨call, id⟩ member same
  have found := List.mk_mem_zipIdx_iff_getElem?.mp member
  have below := (List.getElem?_eq_some_iff.mp found).1
  rw [consistent.numbers id call found, consistent.counter] at same
  have words := congrArg UInt32.toNat same
  rw [UInt32.toNat_ofNat', UInt32.toNat_ofNat'] at words
  omega

namespace Service

variable {S : Type} {devices : Devices S} {service : Service S}

theorem step_handle {id : CallId} {call : Call} {state : S} {reply : Reply}
    (found : service.session.world.calls[id]? = some call)
    (isWritten : id ∈ service.session.world.written) (isNew : id ∉ service.order)
    (handled : (devices call.request.target).handle service.state call.request.cmd
      call.request.payloadBufs.flatten = (state, reply)) :
    service.step devices (.handle id) = some { service with
      state
      handled := service.handled ++ [⟨id, call.request, reply⟩] } := by
  obtain ⟨request, invokeId, stage, channel⟩ := call
  simp only [step, found, handled]
  exact if_pos ⟨isWritten, isNew⟩

theorem step_client {label : Label} {after : World} (allowed : service.session.Allows label)
    (stepped : service.session.world.step label = some after) :
    service.step devices (.client label) = some { service with
      session := { service.session with
        world := after
        queue := service.session.queue.drop (after.turns - service.session.world.turns) } } := by
  rw [step, Session.step, if_pos allowed, stepped]
  rfl

theorem step_reply {place : Nat} {entry : Handled} {session : Session}
    (isEntry : service.handled[place]? = some entry)
    (answers : service.session.step
      (.answer entry.call entry.reply.errorCode entry.reply.payload) = some session) :
    service.step devices (.reply place) = some { service with session } := by
  simp only [step, isEntry, answers]
  rfl

/-- Frames that are no replies are sent one after the other. -/
theorem run_notes {frames : List Frame}
    (proper : ∀ frame ∈ frames, frame.WellFormed service.session.world.source ∧
      frame.reply service.session.world.source = none) :
    ∃ acts next, Run (step devices) service acts next ∧ next.state = service.state ∧
      next.handled = service.handled ∧ next.session.answered = service.session.answered ∧
      next.session.world = { service.session.world with
        incoming := service.session.world.incoming ++ Client.wire frames } := by
  induction frames generalizing service with
  | nil =>
      refine ⟨[], service, .nil, rfl, rfl, rfl, ?_⟩
      rw [wire_nil, List.append_nil]
  | cons frame frames ih =>
      obtain ⟨⟨wellFormed, noReply⟩, others⟩ := List.forall_mem_cons.mp proper
      have sent : service.step devices (.note frame) =
          some { service with session := service.session.send ⟨none, frame⟩ } := by
        rw [step, Session.step_note wellFormed noReply]
        rfl
      obtain ⟨acts, next, run, state, handled, answered, world⟩ :=
        @ih { service with session := service.session.send ⟨none, frame⟩ } others
      refine ⟨_, next, (Run.one sent).trans run, state, handled, answered, ?_⟩
      rw [world, wire_cons, ← List.append_assoc]
      rfl

end Service

/-! ## The bytes and the requests -/

/-- A client with its server of bytes stands as it does with a peer that is handed the
requests. -/
structure Wire.Matches {S : Type} (server : ByteServer S) (state : S) (wire : Wire S)
    (service : Service S) : Prop where
  consistent : service.Consistent server.devices state
  world : service.session.world = wire.world
  state : service.state = wire.state
  /-- The bytes that were sent are the frames of the written requests, and the server has
  read those of the requests that it has handled. -/
  frames : ∃ frames, List.Forall₂ wire.world.Sends wire.world.written frames ∧
    wire.world.sent = frames.flatten ∧
    wire.taken = (frames.take service.order.length).flatten.length
  once : wire.world.written.Nodup
  order : service.order <+: wire.world.written
  answered : service.session.answered = service.order
  requests : ∀ (id : CallId) (call : Call), wire.world.calls[id]? = some call →
    call.request.cmd ≠ .notification

namespace Wire.Matches

variable {S : Type} {server : ByteServer S} {state : S} {wire : Wire S} {service : Service S}

theorem initial (server : ByteServer S) (source : AmsAddr) (readTimeout : Bool) (state : S) :
    (Wire.initial source readTimeout state).Matches server state
      (Service.initial source readTimeout state) where
  consistent := .initial server.devices source readTimeout state
  world := rfl
  state := rfl
  frames := ⟨[], .nil, rfl, rfl⟩
  once := List.nodup_nil
  order := List.nil_prefix
  answered := rfl
  requests := fun _ _ found => by cases found

theorem world_consistent (isMatch : wire.Matches server state service) :
    wire.world.Consistent :=
  isMatch.world ▸ isMatch.consistent.session.world

theorem assembled (isMatch : wire.Matches server state service) : wire.world.Assembled :=
  isMatch.world ▸ isMatch.consistent.assembled

/-- What the session's client does, the client does on its own. -/
theorem allows {label : Label} (isMatch : wire.Matches server state service)
    (allowed : wire.Allows label) : service.session.Allows label := by
  cases label with
  | arrive bytes => exact allowed
  | start request =>
      have few : service.session.world.calls.length < 2 ^ 32 := by
        rw [isMatch.world]
        exact allowed.2
      exact isMatch.consistent.session.world.free few
  | insert | write | receive | timeout | discard | turn | shutdown | drain => trivial

theorem whole_of_allows {label : Label} (allowed : wire.Allows label) :
    ∀ id count kind, label = .write id (some (count, kind)) → count = 0 := by
  rintro id count kind rfl
  exact allowed

/-- The frames that were sent after a step of the client. -/
theorem frames_step {label : Label} {after : World} (isMatch : wire.Matches server state service)
    (allowed : wire.Allows label) (stepped : wire.world.step label = some after) :
    (∃ frames, List.Forall₂ after.Sends after.written frames ∧ after.sent = frames.flatten ∧
        wire.taken = (frames.take service.order.length).flatten.length) ∧
      after.written.Nodup ∧ service.order <+: after.written := by
  have consistent := isMatch.world_consistent
  obtain ⟨frames, each, sent, taken⟩ := isMatch.frames
  have kept : List.Forall₂ after.Sends wire.world.written frames :=
    each.imp fun _ _ => consistent.sends_step stepped
  rcases World.outgoing_of_step stepped (whole_of_allows allowed) with
    ⟨written, same⟩ | ⟨id, call, requestBuf, found, registered, written, grown⟩
  · rw [written, same]
    exact ⟨⟨frames, kept, sent, taken⟩, isMatch.once, isMatch.order⟩
  · have isNew := consistent.not_written_of_registered found registered
    have sends : wire.world.Sends id requestBuf :=
      ⟨call, found, isMatch.assembled id call requestBuf found (by rw [registered]; rfl)⟩
    have within : service.order.length ≤ frames.length :=
      each.length_eq ▸ isMatch.order.length_le
    rw [written, grown]
    refine ⟨⟨frames ++ [requestBuf], ?_, ?_, ?_⟩, ?_, ?_⟩
    · exact List.rel_append kept (.cons (consistent.sends_step stepped sends) .nil)
    · rw [List.flatten_append, sent, List.flatten_singleton]
    · rw [List.take_append_of_le_length within, taken]
    · refine isMatch.once.append (List.nodup_singleton _) fun other old same => ?_
      rw [List.mem_singleton.mp same] at old
      exact isNew old
    · exact isMatch.order.trans (List.prefix_append _ _)

/-- No call sends a notification after a step of the client. -/
theorem requests_step {label : Label} {after : World}
    (isMatch : wire.Matches server state service) (allowed : wire.Allows label)
    (stepped : wire.world.step label = some after) {id : CallId} {new : Call}
    (isNew : after.calls[id]? = some new) : new.request.cmd ≠ .notification := by
  rcases isMatch.world_consistent.step_call stepped isNew with
    ⟨old, found, life⟩ | ⟨last, ⟨request, rfl⟩, -⟩
  · rw [life.request]
    exact isMatch.requests id old found
  · cases stepped
    rw [World.start, last, List.getElem?_concat_length] at isNew
    cases isNew
    exact allowed.1

/-- A step of the client is one of the session. -/
theorem client {label : Label} {after : World} (isMatch : wire.Matches server state service)
    (allowed : wire.Allows label) (stepped : wire.world.step label = some after) :
    ∃ next, service.step server.devices (.client label) = some next ∧
      Matches server state { wire with world := after } next := by
  have stepped' : service.session.world.step label = some after := by
    rw [isMatch.world]
    exact stepped
  have taken : service.step server.devices (.client label) = _ :=
    Service.step_client (isMatch.allows allowed) stepped'
  obtain ⟨frames, once, order⟩ := isMatch.frames_step allowed stepped
  exact ⟨_, taken, {
    consistent := isMatch.consistent.step taken
    world := rfl
    state := isMatch.state
    frames := frames
    once := once
    order := order
    answered := isMatch.answered
    requests := fun _ _ found => isMatch.requests_step allowed stepped found }⟩

/-- The next request that the server reads is the first of the written ones that it has not
handled. -/
theorem next_of_serve {after : S} {frames : List Frame} {count : Nat}
    (isMatch : wire.Matches server state service)
    (served : server.serve wire.state (wire.world.sent.drop wire.taken) =
      some (after, frames, count)) :
    ∃ (id : CallId) (call : Call) (reply : Payload) (error : UInt32),
      wire.world.calls[id]? = some call ∧ service.order ++ [id] <+: wire.world.written ∧
      server.handle wire.state call.request.target call.request.cmd.toU16
        call.request.payloadBufs.flatten = some (after, reply, error) ∧
      frames = server.frames after
        (requestHeader wire.world.source call.request call.invokeId) reply error ∧
      ∃ whole, List.Forall₂ wire.world.Sends wire.world.written whole ∧
        wire.world.sent = whole.flatten ∧
        wire.taken + count = (whole.take (service.order.length + 1)).flatten.length := by
  obtain ⟨whole, each, sent, taken⟩ := isMatch.frames
  obtain ⟨others, written⟩ := isMatch.order
  have unread : wire.world.sent.drop wire.taken =
      (whole.drop service.order.length).flatten := by
    rw [sent, taken]
    conv => lhs; rw [← List.take_append_drop service.order.length whole, List.flatten_append]
    rw [List.take_append_drop, List.drop_left]
  have ahead := List.forall₂_drop service.order.length each
  rw [← written, List.drop_left] at ahead
  rw [unread] at served
  cases others with
  | nil =>
      rw [List.forall₂_nil_left_iff.mp ahead] at served
      cases (server.serve_nil wire.state).symm.trans served
  | cons id others =>
      obtain ⟨frame, rest, ⟨call, found, isWhole⟩, -, behind⟩ :=
        List.forall₂_cons_left_iff.mp ahead
      rw [behind, List.flatten_cons, ByteServer.serve_whole isWhole] at served
      obtain ⟨⟨reached, reply, error⟩, handled, same⟩ := Option.map_eq_some_iff.mp served
      cases same
      refine ⟨id, call, reply, error, found, ⟨others, ?_⟩, handled, rfl, whole, each, sent, ?_⟩
      · rw [List.append_assoc, List.singleton_append, written]
      · rw [List.take_add, behind, List.take_one, List.head?_cons, Option.toList_some,
          List.flatten_append, List.length_append, taken, List.flatten_singleton]

/-- Serving a request is handling it and sending its reply, behind the notification if
there is one. -/
theorem serve {next : Wire S} (isMatch : wire.Matches server state service)
    (served : wire.step server .serve = some next) :
    ∃ acts reached, Run (Service.step server.devices) service acts reached ∧
      Matches server state next reached := by
  obtain ⟨⟨after, frames, count⟩, took, rfl⟩ := Option.map_eq_some_iff.mp served
  obtain ⟨id, call, reply, error, found, order, handled, rfl, whole⟩ :=
    isMatch.next_of_serve took
  have isWritten : id ∈ wire.world.written :=
    order.subset (List.mem_append_right _ List.mem_cons_self)
  have isNew : id ∉ service.order := by
    have once := isMatch.once.sublist order.sublist
    exact fun old => (List.nodup_append.mp once).2.2 id old id List.mem_cons_self rfl
  -- the request is handled
  have handles : service.step server.devices (.handle id) = some { service with
      state := after
      handled := service.handled ++ [⟨id, call.request, ⟨error, reply.bytes⟩⟩] } := by
    apply Service.step_handle (isMatch.world ▸ found) (isMatch.world ▸ isWritten) isNew
    rw [isMatch.state]
    simp only [ByteServer.devices, handled]
  -- the notification is sent
  obtain ⟨acts, noted, notes, notedState, notedHandled, notedAnswered, notedWorld⟩ :=
    @Service.run_notes S server.devices { service with
      state := after
      handled := service.handled ++ [⟨id, call.request, ⟨error, reply.bytes⟩⟩] }
      (server.notes after (requestHeader wire.world.source call.request call.invokeId))
      fun _ member => ByteServer.notes_proper _ member
  dsimp only at notedState notedHandled notedAnswered notedWorld
  rw [isMatch.world] at notedWorld
  -- the reply is sent
  have place : noted.handled[service.handled.length]? =
      some ⟨id, call.request, ⟨error, reply.bytes⟩⟩ := by
    rw [notedHandled]
    exact List.getElem?_concat_length
  have answers := @Session.step_answer noted.session id call error reply.bytes
    (by rw [notedWorld]; exact found) reply.bound
    (by rw [notedWorld]; exact isWritten)
    (by rw [notedAnswered, isMatch.answered]; exact isNew)
    (isMatch.requests id call found)
  have replies := @Service.step_reply S server.devices noted _ _ _ place answers
  have run := ((Run.one handles).trans notes).snoc replies
  refine ⟨_, _, run, ?_⟩
  have consistent := run.invariant isMatch.consistent
    fun _ _ _ consistent step => Service.Consistent.step consistent step
  have incoming : wire.world.incoming ++ Client.wire (server.notes after
        (requestHeader wire.world.source call.request call.invokeId)) ++
      (replyFrame wire.world.source call error reply.bytes reply.bound).bytes =
        wire.world.incoming ++ Client.wire (server.frames after
          (requestHeader wire.world.source call.request call.invokeId) reply error) := by
    rw [ByteServer.frames, wire_append, wire_cons, wire_nil, List.append_nil,
      List.append_assoc, ByteServer.reply_eq_replyFrame]
  exact {
    consistent := consistent
    world := by
      change ({ noted.session.world with
        incoming := noted.session.world.incoming ++ (replyFrame noted.session.world.source call
          error reply.bytes reply.bound).bytes } : World) = { wire.world with
        incoming := wire.world.incoming ++ Client.wire (server.frames after
          (requestHeader wire.world.source call.request call.invokeId) reply error) }
      rw [notedWorld, ← incoming]
    state := notedState
    frames := by
      have length : (noted.handled.map Handled.call).length = service.order.length + 1 := by
        rw [notedHandled, List.length_map, List.length_append, Service.order, List.length_map]
        rfl
      obtain ⟨frames, each, sent, taken⟩ := whole
      refine ⟨frames, each, sent, ?_⟩
      change wire.taken + count = (frames.take (noted.handled.map Handled.call).length).flatten.length
      rw [length, taken]
    once := isMatch.once
    order := by
      change noted.handled.map Handled.call <+: wire.world.written
      rw [notedHandled, List.map_append]
      exact order
    answered := by
      change noted.session.answered ++ [id] = noted.handled.map Handled.call
      rw [notedAnswered, notedHandled, List.map_append, isMatch.answered]
      rfl
    requests := isMatch.requests }

theorem step {act : Wire.Act} {next : Wire S} (isMatch : wire.Matches server state service)
    (taken : wire.step server act = some next) :
    ∃ acts reached, Run (Service.step server.devices) service acts reached ∧
      Matches server state next reached := by
  cases act with
  | client label =>
      simp only [Wire.step] at taken
      split at taken
      · rename_i allowed
        obtain ⟨after, stepped, rfl⟩ := Option.map_eq_some_iff.mp taken
        obtain ⟨reached, step, matched⟩ := isMatch.client allowed stepped
        exact ⟨_, reached, .one step, matched⟩
      · cases taken
  | serve => exact isMatch.serve taken

/-- Once all bytes are read, all requests are handled. -/
theorem order_eq (isMatch : wire.Matches server state service)
    (all : wire.taken = wire.world.sent.length) : service.order = wire.world.written := by
  obtain ⟨others, written⟩ := isMatch.order
  obtain ⟨frames, each, sent, taken⟩ := isMatch.frames
  have ahead := List.forall₂_drop service.order.length each
  rw [← written, List.drop_left] at ahead
  cases others with
  | nil => rw [← written, List.append_nil]
  | cons id others =>
      -- a request that is not handled has bytes that are not read
      obtain ⟨frame, rest, ⟨call, -, isWhole⟩, -, behind⟩ :=
        List.forall₂_cons_left_iff.mp ahead
      have lengths := congrArg (fun frames : List (List UInt8) => frames.flatten.length)
        (List.take_append_drop service.order.length frames)
      rw [behind] at lengths
      simp only [List.flatten_append, List.length_append, List.flatten_cons, isWhole.bytes,
        AdsHeader.length_asBytes] at lengths
      rw [taken, sent] at all
      omega

end Wire.Matches

/-- The bytes refine the requests.  A client and a server that reads the requests off the
bytes and writes its answers as bytes reach nothing that the client does not reach with a
peer that is handed each request itself, in the order in which they were written, and
whose replies find their calls. -/
theorem wire_refines {S : Type} {server : ByteServer S} {source : AmsAddr} {readTimeout : Bool}
    {state : S} {acts : List Wire.Act} {wire : Wire S}
    (run : Run (Wire.step server) (.initial source readTimeout state) acts wire) :
    ∃ acts service,
      Run (Service.step server.devices) (.initial source readTimeout state) acts service ∧
      service.session.world = wire.world ∧ service.state = wire.state ∧
      service.order <+: wire.world.written ∧
      (wire.taken = wire.world.sent.length → service.order = wire.world.written) := by
  obtain ⟨acts, service, reached, isMatch⟩ :=
    run.simulate_matched (.initial server source readTimeout state)
      fun _ _ _ _ isMatch taken => Wire.Matches.step isMatch taken
  exact ⟨acts, service, reached, isMatch.world, isMatch.state, isMatch.order, isMatch.order_eq⟩

/-- A server that counts its requests, and sends an empty notification before each
reply. -/
def countingServer : ByteServer Nat where
  handle count _ _ _ :=
    some (count + 1, ⟨u32Bytes 0 ++ u32Bytes (UInt32.ofNat (count + 1)), by simp⟩, 0)
  notification _ := some ⟨⟨u32Bytes 4 ++ u32Bytes 0, by simp⟩, by simp⟩

/-- Two calls, of which the second is written and served first. -/
def servedReads : List Wire.Act :=
  [.client (.start countRead), .client (.insert 0), .client (.start countRead),
    .client (.insert 1), .client (.write 1 none), .client (.write 0 none), .serve, .serve,
    .client (.turn none), .client (.turn none), .client (.turn none), .client (.turn none),
    .client (.receive 0), .client (.receive 1)]

theorem servedReads_refined :
    ∃ wire, execute (Wire.step countingServer) (.initial ⟨.localId, 1⟩ false 0) servedReads =
        some wire ∧
      (wire.world.calls.map fun call => call.stage.isDone) = [true, true] ∧
      wire.world.notifications.length = 2 ∧
      ∃ acts service, Run (Service.step countingServer.devices)
          (.initial ⟨.localId, 1⟩ false 0) acts service ∧
        service.session.world = wire.world ∧ service.state = 2 ∧ service.order = [1, 0] := by
  have computed : (execute (Wire.step countingServer) (.initial ⟨.localId, 1⟩ false 0)
      servedReads).map (fun wire => (wire.world.calls.map fun call => call.stage.isDone,
        wire.world.notifications.length, wire.state, wire.world.written,
        decide (wire.taken = wire.world.sent.length))) = some ([true, true], 2, 2, [1, 0], true) := by
    decide +kernel
  obtain ⟨wire, executed, same⟩ := Option.map_eq_some_iff.mp computed
  simp only [Prod.mk.injEq] at same
  obtain ⟨returned, notified, count, written, whole⟩ := same
  obtain ⟨acts, service, reached, world, state, -, all⟩ := wire_refines (.of_execute executed)
  refine ⟨wire, executed, returned, notified, acts, service, reached, world, ?_, ?_⟩
  · rw [state, count]
  · rw [all (of_decide_eq_true whole), written]

end Ads.Client
