import Ads.Client.Demux
import Ads.Client.Lifecycle

/-!
# A client and its peer

The client together with a peer that answers each request at most once, with a
well-formed reply, as late and in whatever order it likes, and otherwise sends
well-formed frames that are no replies.
-/

namespace Ads.Client

open Ads.Bytes Ads.Control Ads.Notif Ads.Transition

/-- A frame that the reader has yet to read, with the call it answers. -/
structure Flight where
  answers : Option CallId
  frame : Frame

/-- A client and what its peer has sent. -/
structure Session where
  world : World
  /-- The frames behind the unread bytes. -/
  queue : List Flight
  answered : List CallId

/-- The header of a reply to a call. -/
def replyHeader (source : AmsAddr) (call : Call) (errorCode : UInt32) (size : Nat) :
    AdsHeader where
  amsCmd := 0
  length := UInt32.ofNat (32 + size)
  destNetid := source.netid
  destPort := source.port
  srcNetid := call.request.target.netid
  srcPort := call.request.target.port
  command := call.request.cmd.toU16
  stateFlags := 5
  dataLength := UInt32.ofNat size
  errorCode := errorCode
  invokeId := call.invokeId

/-- The frame of a reply to a call. -/
def replyFrame (source : AmsAddr) (call : Call) (errorCode : UInt32) (payload : List UInt8)
    (bound : 32 + payload.length < 2 ^ 32) : Frame where
  amsCmd := 0
  content := (replyHeader source call errorCode payload.length).amsBytes ++ payload
  bound := by
    rw [List.length_append, AdsHeader.length_amsBytes]
    exact bound

instance (source : AmsAddr) (frame : Frame) : Decidable (frame.WellFormed source) :=
  match found : frame.header with
  | some header =>
      decidable_of_iff (frame.content.length < 32 ∨
        (frame.content.length = 32 + header.dataLength.toNat ∧
          frame.amsCmd ∈ [0, 1, 0x1000, 0x1001, 0x1002] ∧
          (frame.amsCmd = 0 → header.dest = source →
            header.command = Command.notification.toU16 → 4 ≤ frame.payload.length)))
        (by simp [Frame.WellFormed, found])
  | none =>
      decidable_of_iff (frame.content.length < 32) (by simp [Frame.WellFormed, found])

namespace Session

/-- The state before the first call. -/
def initial (source : AmsAddr) (readTimeout : Bool) : Session :=
  ⟨.initial source readTimeout, [], []⟩

/-- The calls whose replies are on their way. -/
def onTheWay (session : Session) : List CallId :=
  session.queue.filterMap Flight.answers

theorem mem_onTheWay_of_next {session : Session} {id : CallId} {frame : Frame}
    {rest : List Flight} (next : session.queue = ⟨some id, frame⟩ :: rest) :
    id ∈ session.onTheWay := by
  rw [onTheWay, next]
  exact List.mem_cons_self

/-- A request is alive until its call has returned and its reply, if the peer owes
one, has been read. -/
def Live (session : Session) (id : CallId) (call : Call) : Prop :=
  call.stage.isDone = false ∨
    id ∈ session.world.written ∧ (id ∉ session.answered ∨ id ∈ session.onTheWay)

instance (session : Session) (id : CallId) (call : Call) : Decidable (session.Live id call) :=
  inferInstanceAs (Decidable (_ ∨ _))

/-- No live request has the invoke id that the next call will take. -/
def Free (session : Session) : Prop :=
  ∀ entry ∈ session.world.calls.zipIdx, entry.1.invokeId = session.world.invokeId →
    ¬ session.Live entry.2 entry.1

instance (session : Session) : Decidable session.Free :=
  inferInstanceAs (Decidable (∀ _ ∈ _, _))

/-- A step of the client, or what the peer sends. -/
inductive Move
  | client (label : Label)
  | answer (id : CallId) (errorCode : UInt32) (payload : List UInt8)
  | note (frame : Frame)

/-- The client takes the steps it takes on its own, and starts a request when its
invoke id is free. -/
def Allows (session : Session) : Label → Prop
  | .arrive _ => False
  | .start _ => session.Free
  | _ => True

instance (session : Session) (label : Label) : Decidable (session.Allows label) :=
  match label with
  | .arrive _ => inferInstanceAs (Decidable False)
  | .start _ => inferInstanceAs (Decidable session.Free)
  | .insert _ | .write _ _ | .receive _ | .timeout _ | .discard _ | .turn _ | .shutdown
  | .drain => inferInstanceAs (Decidable True)

/-- A frame arrives from the peer. -/
def send (session : Session) (flight : Flight) : Session :=
  { session with
    world := { session.world with incoming := session.world.incoming ++ flight.frame.bytes }
    queue := session.queue ++ [flight] }

/-- One step of the session. -/
def step (session : Session) : Move → Option Session
  | .client label =>
      if session.Allows label then
        (session.world.step label).map fun world =>
          { session with
            world
            queue := session.queue.drop (world.turns - session.world.turns) }
      else none
  | .answer id errorCode payload =>
      match session.world.calls[id]? with
      | some call =>
          if bound : 32 + payload.length < 2 ^ 32 then
            if id ∈ session.world.written ∧ id ∉ session.answered ∧
                call.request.cmd ≠ .notification then
              some { session.send
                       ⟨some id, replyFrame session.world.source call errorCode payload bound⟩ with
                     answered := session.answered ++ [id] }
            else none
          else none
      | none => none
  | .note frame =>
      if frame.WellFormed session.world.source ∧
          frame.reply session.world.source = none then
        some (session.send ⟨none, frame⟩)
      else none

/-- What a move of the client does. -/
theorem step_client_eq_some {session next : Session} {label : Label}
    (step : session.step (.client label) = some next) :
    session.Allows label ∧ ∃ after, session.world.step label = some after ∧
      next = { session with
        world := after
        queue := session.queue.drop (after.turns - session.world.turns) } := by
  simp only [Session.step] at step
  split at step
  · rename_i allowed
    obtain ⟨after, stepped, rfl⟩ := Option.map_eq_some_iff.mp step
    exact ⟨allowed, after, stepped, rfl⟩
  · cases step

/-- A move of the peer is the arrival of a frame. -/
theorem step_peer_eq_some {session next : Session} {move : Move}
    (step : session.step move = some next) (peer : ∀ label, move ≠ .client label) :
    ∃ bytes, next.world = { session.world with
      incoming := session.world.incoming ++ bytes } := by
  cases move with
  | client label => exact absurd rfl (peer label)
  | answer id errorCode payload =>
      simp only [Session.step] at step
      split at step
      · split at step
        · split at step
          · cases step
            exact ⟨_, rfl⟩
          · cases step
        · cases step
      · cases step
  | note frame =>
      simp only [Session.step] at step
      split at step
      · cases step
        exact ⟨_, rfl⟩
      · cases step

/-- A session is a run of its client. -/
theorem world_run {source : AmsAddr} {readTimeout : Bool} {moves : List Move}
    {session : Session} (run : Run step (initial source readTimeout) moves session) :
    ∃ labels, Run World.step (.initial source readTimeout) labels session.world := by
  refine run.simulate Session.world fun state move after taken => ?_
  by_cases client : ∃ label, move = .client label
  · obtain ⟨label, rfl⟩ := client
    obtain ⟨-, world, stepped, rfl⟩ := step_client_eq_some taken
    exact ⟨[label], .one stepped⟩
  · have peer : ∀ label, move ≠ .client label := fun label equal => client ⟨label, equal⟩
    obtain ⟨bytes, same⟩ := step_peer_eq_some taken peer
    exact ⟨[.arrive bytes], .one (by rw [same]; rfl)⟩

end Session

/-! ## Replies -/

section Replies

variable {source : AmsAddr} {call : Call} {errorCode : UInt32} {payload : List UInt8}
  (bound : 32 + payload.length < 2 ^ 32)

theorem length_content_replyFrame :
    (replyFrame source call errorCode payload bound).content.length = 32 + payload.length := by
  rw [replyFrame, List.length_append, AdsHeader.length_amsBytes]

theorem header_replyFrame :
    (replyFrame source call errorCode payload bound).header =
      some (replyHeader source call errorCode payload.length) := by
  have long : 32 ≤ (replyFrame source call errorCode payload bound).content.length := by
    rw [length_content_replyFrame bound]
    exact Nat.le_add_right _ _
  have bytes : (replyFrame source call errorCode payload bound).bytes =
      (replyHeader source call errorCode payload.length).asBytes ++ payload := by
    rw [Frame.bytes, Frame.length, length_content_replyFrame, AdsHeader.asBytes,
      List.append_assoc _ _ payload]
    rfl
  rw [Frame.header, if_pos long, bytes, List.take_left' (AdsHeader.length_asBytes _),
    AdsHeader.readFromBytes_asBytes]

theorem reply_replyFrame (isRequest : call.request.cmd ≠ .notification) :
    (replyFrame source call errorCode payload bound).reply source =
      some (replyHeader source call errorCode payload.length) := by
  have notNotification :
      (replyHeader source call errorCode payload.length).command ≠
        Command.notification.toU16 :=
    fun same => isRequest (Command.toU16_injective same)
  rw [Frame.reply, header_replyFrame]
  exact if_pos ⟨rfl, rfl, notNotification⟩

theorem wellFormed_replyFrame (isRequest : call.request.cmd ≠ .notification) :
    (replyFrame source call errorCode payload bound).WellFormed source := by
  refine .inr ⟨_, header_replyFrame bound, ?_, by simp [replyFrame], fun _ _ same => ?_⟩
  · rw [length_content_replyFrame, replyHeader,
      UInt32.toNat_ofNat_of_lt' (Nat.lt_of_le_of_lt (Nat.le_add_left _ _) bound)]
  · exact absurd (Command.toU16_injective same) isRequest

end Replies

/-! ## The invariant of a session -/

/-- A frame of the queue is a reply to the call it answers, or no reply. -/
def Flight.Proper (session : Session) (flight : Flight) : Prop :=
  flight.frame.WellFormed session.world.source ∧
    match flight.answers with
    | some id => ∃ (call : Call) (header : AdsHeader), session.world.calls[id]? = some call ∧
        flight.frame.reply session.world.source = some header ∧
        header.invokeId = call.invokeId
    | none => flight.frame.reply session.world.source = none

/-- How a call stands while the reader runs: it gives up or fails only because it
timed out, could not write, was too long, or by its own reply. -/
def Stage.Own (world : World) (id : CallId) (call : Call) : Stage → Prop
  | givingUp error => error = timeoutError
  | done result =>
      (id ∉ world.written ∧
        (result = .err .overflow ∨ ∃ kind, result = .err (writeError kind))) ∨
      (id ∈ world.written ∧ (result = .err timeoutError ∨ ∃ header payload,
        call.channel = .taken (.ok (header, payload)) ∧
          result = settleReply call.request call.invokeId header payload))
  | _ => True

namespace Session

/-- What holds while the reader runs. -/
structure Orderly (session : Session) : Prop where
  stream : session.world.incoming = wire (session.queue.map Flight.frame)
  undelivered : ∀ id ∈ session.onTheWay, session.world.deliveriesTo id = []
  delivered : ∀ delivery ∈ session.world.deliveries, delivery.call ∈ session.answered
  connected : ∀ (id : CallId) (call : Call), session.world.calls[id]? = some call →
    call.channel = .disconnected → call.stage.isDone = true
  own : ∀ (id : CallId) (call : Call), session.world.calls[id]? = some call →
    call.stage.Own session.world id call

/-- A call that waits has its channel open. -/
theorem Orderly.connected_of_waiting {session : Session} (orderly : session.Orderly)
    {id : CallId} {call : Call} (found : session.world.calls[id]? = some call)
    (waits : call.stage = .waiting) : call.channel ≠ .disconnected := by
  intro gone
  have isDone := orderly.connected id call found gone
  rw [waits] at isDone
  cases isDone

/-- The invariant of a session. -/
structure Consistent (session : Session) : Prop where
  world : session.world.Consistent
  flights : ∀ flight ∈ session.queue, flight.Proper session
  once : session.onTheWay.Nodup
  answered : ∀ id ∈ session.onTheWay, id ∈ session.answered
  written : ∀ id ∈ session.answered, id ∈ session.world.written
  /-- Requests that are alive have invoke ids of their own. -/
  distinct : ∀ (first second : CallId) (call other : Call),
    session.world.calls[first]? = some call → session.world.calls[second]? = some other →
    session.Live first call → session.Live second other → call.invokeId = other.invokeId →
    first = second
  orderly : session.world.reader = .running → session.Orderly

namespace Consistent

variable {session : Session}

theorem initial (source : AmsAddr) (readTimeout : Bool) :
    (Session.initial source readTimeout).Consistent where
  world := .initial source readTimeout
  flights := by simp [Session.initial]
  once := by simp [Session.initial, onTheWay]
  answered := by simp [Session.initial, onTheWay]
  written := by simp [Session.initial]
  distinct := by simp [Session.initial, World.initial]
  orderly := fun _ => {
    stream := rfl
    undelivered := by simp [Session.initial, onTheWay]
    delivered := by simp [Session.initial, World.initial]
    connected := by simp [Session.initial, World.initial]
    own := by simp [Session.initial, World.initial] }

/-- A call that has not returned, with its reply on its way, is in the pending
map. -/
theorem registered (consistent : session.Consistent)
    (running : session.world.reader = .running) {id : CallId} {call : Call}
    (found : session.world.calls[id]? = some call) (waiting : id ∈ session.onTheWay)
    (active : call.stage.isDone = false) : session.world.Registered id call := by
  have orderly := consistent.orderly running
  have state := consistent.world.calls id call found
  have isWritten := consistent.written id (consistent.answered id waiting)
  have silent := state.history
  rw [orderly.undelivered id waiting] at silent
  have empty : call.channel = .empty := by
    cases channel : call.channel with
    | empty => rfl
    | full message => simp [channel, Channel.messages] at silent
    | taken message => simp [channel, Channel.messages] at silent
    | disconnected => simp [orderly.connected id call found channel] at active
  have fits := state.stage
  cases stage : call.stage with
  | numbered requestBuf =>
      rw [stage] at fits
      exact absurd isWritten fits.2.1
  | registered requestBuf =>
      rw [stage] at fits
      exact absurd isWritten fits.1
  | waiting =>
      rw [stage] at fits
      exact (fits.2.2 empty).1
  | givingUp error =>
      rw [stage] at fits
      exact (fits.2 empty).1
  | done result => simp [stage, Stage.isDone] at active

/-- The frame that the reader meets next is proper. -/
theorem proper_of_next (consistent : session.Consistent) {flight : Flight}
    {rest : List Flight} (next : session.queue = flight :: rest) : flight.Proper session := by
  apply consistent.flights
  rw [next]
  exact List.mem_cons_self

/-! ## The reader's turn -/

section Turn

variable (consistent : session.Consistent) (running : session.world.reader = .running)
  (socketEnd : Option IoErrorKind)

include consistent running

/-- With nothing to read the reader waits. -/
theorem turn_of_nil (nothing : session.queue = []) : session.world.turn none = none := by
  have stream := (consistent.orderly running).stream
  rw [nothing] at stream
  rw [World.turn, if_pos running, stream]
  rfl

/-- With nothing to read and an error on its socket the reader ends. -/
theorem turn_of_nil_failed (nothing : session.queue = []) (kind : IoErrorKind) :
    session.world.turn (some kind) = some { session.world with
      reader := .returned (.io "receiving AMS/TCP header" kind) } := by
  have stream := (consistent.orderly running).stream
  rw [nothing] at stream
  have turned : readerTurn session.world.source session.world.pending session.world.receiving
      (some kind) session.world.incoming =
        .returned (.io "receiving AMS/TCP header" kind) session.world.pending := by
    rw [stream]
    rfl
  rw [World.turn, if_pos running, turned]

/-- A frame that is no reply takes the reader to the next frame. -/
theorem turn_of_note {frame : Frame} {rest : List Flight}
    (next : session.queue = ⟨none, frame⟩ :: rest) :
    ∃ notifications, session.world.turn socketEnd = some { session.world with
      incoming := wire (rest.map Flight.frame)
      turns := session.world.turns + 1
      notifications } := by
  have stream := (consistent.orderly running).stream
  rw [next, List.map_cons, wire_cons] at stream
  obtain ⟨wellFormed, noReply⟩ := consistent.proper_of_next next
  rw [World.turn, if_pos running, stream, readerTurn_no_reply _ wellFormed noReply]
  cases frame.notification session.world.source with
  | some notification => exact ⟨_, rfl⟩
  | none => exact ⟨_, rfl⟩

/-- The reply to a call that has not returned is handed to it, as it is. -/
theorem turn_of_reply {id : CallId} {frame : Frame} {rest : List Flight} {call : Call}
    {header : AdsHeader} (next : session.queue = ⟨some id, frame⟩ :: rest)
    (found : session.world.calls[id]? = some call) (active : call.stage.isDone = false)
    (isReply : frame.reply session.world.source = some header) :
    header.invokeId = call.invokeId ∧
      session.world.turn socketEnd = some { session.world.apply
          (.replied id header frame.payload) with
        incoming := wire (rest.map Flight.frame)
        pending := session.world.pending.erase header.invokeId
        turns := session.world.turns + 1 } := by
  have orderly := consistent.orderly running
  have stream := orderly.stream
  rw [next, List.map_cons, wire_cons] at stream
  obtain ⟨wellFormed, _, header', found', isReply', same⟩ := consistent.proper_of_next next
  cases found.symm.trans found'
  cases isReply.symm.trans isReply'
  have waiting := mem_onTheWay_of_next next
  have registered := consistent.registered running found waiting active
  have receiving : session.world.receiving id = true := by
    rw [World.receiving_of_found found, active]
    rfl
  rw [World.Registered, ← same] at registered
  refine ⟨same, ?_⟩
  rw [World.turn, if_pos running, stream,
    readerTurn_reply _ wellFormed isReply registered receiving]

/-- The reply to a call that has not returned is handed to it. -/
theorem turn_of_answer {id : CallId} {frame : Frame} {rest : List Flight} {call : Call}
    (next : session.queue = ⟨some id, frame⟩ :: rest)
    (found : session.world.calls[id]? = some call) (active : call.stage.isDone = false) :
    ∃ header, header.invokeId = call.invokeId ∧
      session.world.turn socketEnd = some { session.world.apply
          (.replied id header frame.payload) with
        incoming := wire (rest.map Flight.frame)
        pending := session.world.pending.erase header.invokeId
        turns := session.world.turns + 1 } := by
  obtain ⟨-, _, header, -, isReply, -⟩ := consistent.proper_of_next next
  exact ⟨header, consistent.turn_of_reply running socketEnd next found active isReply⟩

/-- The reply to a call that has returned ends the reader. -/
theorem turn_of_late {id : CallId} {frame : Frame} {rest : List Flight} {call : Call}
    (next : session.queue = ⟨some id, frame⟩ :: rest)
    (found : session.world.calls[id]? = some call) (isDone : call.stage.isDone = true) :
    ∃ error pending, session.world.turn socketEnd = some { session.world with
      reader := .returned error
      pending } := by
  have stream := (consistent.orderly running).stream
  rw [next, List.map_cons, wire_cons] at stream
  obtain ⟨wellFormed, _, header, found', isReply, same⟩ := consistent.proper_of_next next
  cases found.symm.trans found'
  have waiting := mem_onTheWay_of_next next
  have isWritten := consistent.written id (consistent.answered id waiting)
  have failed : ∃ pending error,
      settle session.world.pending session.world.receiving header = (pending, .error error) := by
    unfold settle
    cases entry : session.world.pending.lookup header.invokeId with
    | none => exact ⟨_, _, rfl⟩
    | some other =>
        obtain ⟨state, isOther, shared⟩ := consistent.world.entries _ _ entry
        have dropped : session.world.receiving other = false := by
          rw [World.receiving_of_found isOther]
          by_contra receiving
          have active : state.stage.isDone = false := by simpa using receiving
          -- a live call with the invoke id of one whose reply is on its way
          have same := consistent.distinct other id state call isOther found (.inl active)
            (.inr ⟨isWritten, .inr waiting⟩) (shared.trans same)
          subst same
          cases found.symm.trans isOther
          rw [isDone] at active
          cases active
        simp only [dropped]
        exact ⟨_, _, rfl⟩
  obtain ⟨pending, error, settled⟩ := failed
  have turned : readerTurn session.world.source session.world.pending session.world.receiving
      socketEnd session.world.incoming = .returned error pending := by
    rw [stream, readerTurn_of_reply _ wellFormed isReply, settled]
  exact ⟨error, pending, by rw [World.turn, if_pos running, turned]⟩

end Turn

end Consistent

end Session

end Ads.Client
