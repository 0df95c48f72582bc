import Ads.Client.Device
import Ads.Client.Outgoing
import Ads.Client.SessionInvariant

/-!
# A peer that keeps a state

A session whose peer handles the requests that it has received one at a time,
over a state of its own, and sends each reply at most once, as late and in
whatever order it likes.
-/

namespace Ads.Client

open Ads.Bytes Ads.Control Ads.Transition

/-- The devices behind a peer: a server for each address, all over one state. -/
abbrev Devices (S : Type) : Type :=
  AmsAddr → Server S

/-- A request that the peer has handled, with its reply. -/
structure Handled where
  call : CallId
  request : Request
  reply : Reply

/-- What the reply means to the caller. -/
def Handled.outcome (entry : Handled) : Outcome Error Received :=
  settled entry.request.cmd entry.request.resultBufs entry.reply

/-- A frame's header and payload mean the same to the caller as the reply. -/
def Handled.AnsweredBy (entry : Handled) (header : AdsHeader) (payload : List UInt8) : Prop :=
  settleReply entry.request (UInt32.ofNat (1 + entry.call)) header payload = entry.outcome

/-- A session, the state of its peer, and the requests that the peer has handled,
in that order. -/
structure Service (S : Type) where
  session : Session
  state : S
  handled : List Handled

namespace Service

variable {S : Type}

/-- The state before the first call. -/
def initial (source : AmsAddr) (readTimeout : Bool) (state : S) : Service S :=
  ⟨.initial source readTimeout, state, []⟩

/-- The calls whose requests were handled, in that order. -/
def order (service : Service S) : List CallId :=
  service.handled.map Handled.call

/-- The requests that were handled, in that order. -/
def requests (service : Service S) : List Request :=
  service.handled.map Handled.request

/-- A step of the client, or what the peer does. -/
inductive Act
  | client (label : Label)
  /-- A request that was written is handled. -/
  | handle (id : CallId)
  /-- The reply to a handled request is sent. -/
  | reply (place : Nat)
  /-- A frame is sent that is no reply. -/
  | note (frame : Frame)

/-- One step of the service. -/
def step (devices : Devices S) (service : Service S) : Act → Option (Service S)
  | .client label =>
      (service.session.step (.client label)).map fun session => { service with session }
  | .handle id =>
      match service.session.world.calls[id]? with
      | some { request, .. } =>
          if id ∈ service.session.world.written ∧ id ∉ service.order then
            let (state, reply) :=
              (devices request.target).handle service.state request.cmd request.payloadBufs.flatten
            some { service with state, handled := service.handled ++ [⟨id, request, reply⟩] }
          else none
      | none => none
  | .reply place =>
      match service.handled[place]? with
      | some entry =>
          (service.session.step
            (.answer entry.call entry.reply.errorCode entry.reply.payload)).map
              fun session => { service with session }
      | none => none
  | .note frame =>
      (service.session.step (.note frame)).map fun session => { service with session }

/-- What a step does: a move of the session, of which an answer carries the reply to a
handled request, or the handling of a request. -/
theorem step_eq_some {devices : Devices S} {service next : Service S} {act : Act}
    (step : service.step devices act = some next) :
    (∃ move session, service.session.step move = some session ∧
      next = { service with session } ∧
      ∀ id errorCode payload, move = .answer id errorCode payload →
        ∃ entry ∈ service.handled, entry.call = id ∧ entry.reply = ⟨errorCode, payload⟩) ∨
    ∃ (id : CallId) (call : Call) (state : S) (reply : Reply),
      service.session.world.calls[id]? = some call ∧ id ∈ service.session.world.written ∧
      id ∉ service.order ∧
      (devices call.request.target).handle service.state call.request.cmd
        call.request.payloadBufs.flatten = (state, reply) ∧
      next = { service with
        state
        handled := service.handled ++ [⟨id, call.request, reply⟩] } := by
  cases act with
  | client label =>
      obtain ⟨session, moved, rfl⟩ := Option.map_eq_some_iff.mp step
      exact .inl ⟨_, session, moved, rfl, fun _ _ _ equal => by cases equal⟩
  | handle id =>
      simp only [Service.step] at step
      split at step
      · rename_i found
        split at step
        · rename_i due
          cases step
          exact .inr ⟨id, _, _, _, found, due.1, due.2, rfl, rfl⟩
        · cases step
      · cases step
  | reply place =>
      simp only [Service.step] at step
      split at step
      · rename_i entry found
        obtain ⟨session, moved, rfl⟩ := Option.map_eq_some_iff.mp step
        refine .inl ⟨_, session, moved, rfl, ?_⟩
        rintro id errorCode payload equal
        cases equal
        exact ⟨entry, List.mem_of_getElem? found, rfl, rfl⟩
      · cases step
  | note frame =>
      obtain ⟨session, moved, rfl⟩ := Option.map_eq_some_iff.mp step
      exact .inl ⟨_, session, moved, rfl, fun _ _ _ equal => by cases equal⟩

/-- The session of a service is a run of a session. -/
theorem session_run {devices : Devices S} {source : AmsAddr} {readTimeout : Bool} {state : S}
    {acts : List Act} {service : Service S}
    (run : Run (step devices) (initial source readTimeout state) acts service) :
    ∃ moves, Run Session.step (.initial source readTimeout) moves service.session := by
  refine run.simulate Service.session fun before act after taken => ?_
  rcases step_eq_some taken with ⟨move, session, moved, rfl, -⟩ | ⟨_, _, _, _, -, -, -, -, rfl⟩
  · exact ⟨[move], .one moved⟩
  · exact ⟨[], .nil⟩

/-- What has been handled stays handled. -/
theorem handled_of_run {devices : Devices S} {first last : Service S} {acts : List Act}
    (run : Run (step devices) first acts last) : first.handled <+: last.handled := by
  refine @Run.invariant _ _ (step devices) first last acts
    (fun service => first.handled <+: service.handled) run (List.prefix_refl _)
    fun service act next prior taken => ?_
  rcases step_eq_some taken with ⟨_, _, _, rfl, -⟩ | ⟨_, _, _, _, -, -, -, -, rfl⟩
  · exact prior
  · exact prior.trans (List.prefix_append _ _)

end Service

/-! ## Replies that were taken -/

/-- The call has taken a reply off its channel. -/
def Call.Replied (call : Call) : Prop :=
  ∃ reply, call.channel = .taken (.ok reply)

/-- A call that has taken a reply has returned what it means. -/
def World.RepliesTaken (world : World) : Prop :=
  ∀ (id : CallId) (call : Call) (header : AdsHeader) (payload : List UInt8),
    world.calls[id]? = some call → call.channel = .taken (.ok (header, payload)) →
      call.stage = .done (settleReply call.request call.invokeId header payload)

namespace World

variable {world after : World} {label : Label}

theorem Consistent.repliesTaken_step (consistent : world.Consistent)
    (step : world.step label = some after) (taken : world.RepliesTaken) :
    after.RepliesTaken := by
  intro id new header payload isNew channel
  rcases consistent.step_call step isNew with ⟨old, found, stepped⟩ | ⟨-, -, -, empty, -⟩
  · cases stepped with
    | still => exact taken id _ header payload found channel
    | inserted at_ => cases at_.symm.trans (taken id old header payload found channel)
    | written at_ => cases at_.symm.trans (taken id old header payload found channel)
    | unwritten _ _ at_ => cases at_.symm.trans (taken id old header payload found channel)
    | received => cases channel; rfl
    | hungUp at_ => cases at_.symm.trans (taken id old header payload found channel)
    | timedOut at_ => cases at_.symm.trans (taken id old header payload found channel)
    | discarded at_ same =>
        rcases same with same | same
        · cases at_.symm.trans (taken id old header payload found (same.symm.trans channel))
        · cases same.symm.trans channel
    | displaced => cases channel
    | delivered => cases channel
  · rw [empty] at channel
    cases channel

/-- Replies are delivered by the reader's turns alone. -/
theorem reply_of_step (step : world.step label = some after)
    (quiet : ∀ socketEnd, label ≠ .turn socketEnd) {delivery : Delivery}
    (member : delivery ∈ after.deliveries) {reply : AdsHeader × List UInt8}
    (isReply : delivery.message = .ok reply) : delivery ∈ world.deliveries := by
  by_cases drains : label = .drain
  · subst drains
    obtain ⟨error, -, rfl⟩ := drain_eq_some step
    rcases List.mem_append.mp member with old | isNew
    · exact old
    · obtain ⟨call, -, rfl⟩ := List.mem_map.mp isNew
      cases isReply
  · have same : after.deliveries = world.deliveries := by
      cases label with
      | start request => cases step; rfl
      | insert call => obtain ⟨_, _, _, _, rfl⟩ := insert_eq_some step; rfl
      | write call failure =>
          obtain ⟨_, _, _, _, ⟨-, -, rfl⟩ | ⟨_, _, -, rfl⟩⟩ := write_eq_some step <;> rfl
      | receive call => obtain ⟨_, _, _, ⟨_, _, rfl⟩ | ⟨_, rfl⟩⟩ := receive_eq_some step <;> rfl
      | timeout call => obtain ⟨_, _, _, _, _, rfl⟩ := timeout_eq_some step; rfl
      | discard call => obtain ⟨_, _, _, _, rfl⟩ := discard_eq_some step; rfl
      | arrive bytes => cases step; rfl
      | turn socketEnd => exact absurd rfl (quiet socketEnd)
      | shutdown => obtain ⟨_, _, rfl⟩ := shutdown_eq_some step; rfl
      | drain => exact absurd rfl drains
    rwa [same] at member

/-- A request that was written was short enough for its header. -/
def WrittenShort (world : World) : Prop :=
  ∀ (id : CallId) (call : Call), world.calls[id]? = some call → id ∈ world.written →
    amsHeaderSize + call.request.payloadBufs.flatten.length < 2 ^ 32

theorem Consistent.writtenShort_step (consistent : world.Consistent)
    (assembled : world.Assembled) (step : world.step label = some after)
    (short : world.WrittenShort) : after.WrittenShort := by
  intro id new isNew isWritten
  rcases consistent.step_call step isNew with ⟨old, found, stepped⟩ | ⟨last, ⟨request, rfl⟩, -⟩
  · rw [stepped.request]
    rcases ((step_frames step).written id).mp isWritten with before | rfl
    · exact short id old found before
    · have writes : world.write id none = some after := step
      obtain ⟨state, requestBuf, isCall, registered, -⟩ := write_eq_some writes
      cases found.symm.trans isCall
      have whole := assembled id old requestBuf found (by rw [registered]; rfl)
      have length := whole.length
      rw [whole.dataLength] at length
      rw [← length]
      exact UInt32.toNat_lt _
  · rw [last] at isWritten
    exact absurd isWritten (consistent.not_written_of_start step)

end World

/-- What the reader hands over in a turn of a session: nothing, or the reply that comes
next. -/
theorem Session.Consistent.deliveries_of_turn {session : Session} {after : World}
    (consistent : session.Consistent) {socketEnd : Option IoErrorKind}
    (turned : session.world.turn socketEnd = some after) :
    after.deliveries = session.world.deliveries ∨
      ∃ id frame rest header, session.queue = ⟨some id, frame⟩ :: rest ∧
        frame.reply session.world.source = some header ∧
        after.deliveries = session.world.deliveries ++
          [⟨id, .ok (header, frame.payload), some session.world.turns⟩] := by
  have running := (World.turn_eq_some turned).1
  cases next : session.queue with
  | nil =>
      cases socketEnd with
      | none =>
          rw [consistent.turn_of_nil running next] at turned
          cases turned
      | some kind =>
          rw [consistent.turn_of_nil_failed running next kind] at turned
          cases turned
          exact .inl rfl
  | cons flight rest =>
      obtain ⟨answers, frame⟩ := flight
      cases answers with
      | none =>
          obtain ⟨notifications, went⟩ := consistent.turn_of_note running socketEnd next
          cases went.symm.trans turned
          exact .inl rfl
      | some id =>
          obtain ⟨-, call, header, found, isReply, -⟩ := consistent.proper_of_next next
          cases isDone : call.stage.isDone with
          | true =>
              obtain ⟨error, pending, went⟩ :=
                consistent.turn_of_late running socketEnd next found isDone
              cases went.symm.trans turned
              exact .inl rfl
          | false =>
              have went := (consistent.turn_of_reply running socketEnd next found isDone isReply).2
              cases went.symm.trans turned
              exact .inr ⟨id, frame, rest, header, rfl, isReply, rfl⟩

end Ads.Client
