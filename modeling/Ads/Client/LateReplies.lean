import Ads.Client.SessionInvariant

/-!
# Late replies

What a reply does that arrives after its call has timed out: until the call has
returned it is handed to the call like any other; afterwards its invoke id is
unknown to the reader, which aborts the connection.
-/

namespace Ads.Client

open Ads.Bytes Ads.Control Ads.Transition

namespace Session

/-- The next frame is the reply to a call that has returned. -/
def Late (session : Session) : Prop :=
  ∃ id frame rest, ∃ call : Call, session.queue = ⟨some id, frame⟩ :: rest ∧
    session.world.calls[id]? = some call ∧ call.stage.isDone = true

namespace Consistent

variable {session : Session}

/-- A call that has returned before its reply was read has timed out. -/
theorem timedOut_of_onTheWay (consistent : session.Consistent)
    (running : session.world.reader = .running) {id : CallId} {call : Call}
    (member : id ∈ session.onTheWay) (found : session.world.calls[id]? = some call)
    (isDone : call.stage.isDone = true) : call.stage = .done (.err timeoutError) := by
  have orderly := consistent.orderly running
  have isWritten := consistent.written id (consistent.answered id member)
  have history := (consistent.world.calls id call found).history
  rw [orderly.undelivered id member] at history
  have own := orderly.own id call found
  cases stage : call.stage with
  | done result =>
      rw [stage] at own
      rcases own with ⟨unwritten, -⟩ | ⟨-, rfl | ⟨header, payload, taken, -⟩⟩
      · exact absurd isWritten unwritten
      · rfl
      · simp [taken, Channel.messages] at history
  | numbered => simp [stage, Stage.isDone] at isDone
  | registered => simp [stage, Stage.isDone] at isDone
  | waiting => simp [stage, Stage.isDone] at isDone
  | givingUp => simp [stage, Stage.isDone] at isDone

/-- A turn on a frame ends the reader if the frame is a late reply, and otherwise
goes past it, handing a reply to its call. -/
theorem turn_on_frame (consistent : session.Consistent)
    (running : session.world.reader = .running) (socketEnd : Option IoErrorKind)
    {flight : Flight} {rest : List Flight} (next : session.queue = flight :: rest) :
    ∃ after, session.step (.client (.turn socketEnd)) = some after ∧
      (session.Late → ∃ error, after.world.reader = .returned error) ∧
      (¬ session.Late → after.world.reader = .running ∧ after.queue = rest ∧
        ∀ id, flight.answers = some id → ∃ header frame,
          ⟨id, .ok (header, flight.frame.payload), some frame⟩ ∈ after.world.deliveries) := by
  have stepped : ∀ after, session.world.turn socketEnd = some after →
      session.step (.client (.turn socketEnd)) = some { session with
        world := after
        queue := session.queue.drop (after.turns - session.world.turns) } := by
    intro after turned
    have allowed : session.Allows (.turn socketEnd) := trivial
    rw [Session.step, if_pos allowed, World.step, turned]
    rfl
  obtain ⟨answers, frame⟩ := flight
  cases answers with
  | none =>
      have punctual : ¬ session.Late := by
        rintro ⟨_, _, _, _, late, -⟩
        rw [next] at late
        cases late
      obtain ⟨notifications, turned⟩ := consistent.turn_of_note running socketEnd next
      refine ⟨_, stepped _ turned, fun late => absurd late punctual, fun _ => ⟨running, ?_, ?_⟩⟩
      · rw [next, Nat.add_sub_cancel_left]
        rfl
      · intro id answers
        cases answers
  | some id =>
      obtain ⟨-, call, -, found, -⟩ := consistent.proper_of_next next
      cases isDone : call.stage.isDone with
      | true =>
          have late : session.Late := ⟨id, frame, rest, call, next, found, isDone⟩
          obtain ⟨error, pending, turned⟩ :=
            consistent.turn_of_late running socketEnd next found isDone
          exact ⟨_, stepped _ turned, fun _ => ⟨error, rfl⟩, fun punctual => absurd late punctual⟩
      | false =>
          have punctual : ¬ session.Late := by
            rintro ⟨_, _, _, _, late, found', isDone'⟩
            rw [next] at late
            cases late
            cases found.symm.trans found'
            rw [isDone] at isDone'
            cases isDone'
          obtain ⟨header, -, turned⟩ :=
            consistent.turn_of_answer running socketEnd next found isDone
          refine ⟨_, stepped _ turned, fun late => absurd late punctual,
            fun _ => ⟨running, ?_, ?_⟩⟩
          · have turns : session.world.turns + 1 - session.world.turns = 1 :=
              Nat.add_sub_cancel_left _ _
            rw [next, turns]
            rfl
          · intro other answers
            cases answers
            exact ⟨header, session.world.turns, List.mem_append_right _ List.mem_cons_self⟩

end Consistent

end Session

/-- Against a peer that answers each request at most once, while the reader runs:
a turn on a frame ends the reader exactly if the frame is the reply to a call that
has returned, and otherwise goes past it and hands a reply to its call; a call that
has returned before its reply was read has timed out; and calls give up or fail
only because they time out themselves, cannot send their request, or by their own
reply. -/
theorem late_replies {source : AmsAddr} {readTimeout : Bool} {moves : List Session.Move}
    {session : Session} (run : Run Session.step (.initial source readTimeout) moves session)
    (running : session.world.reader = .running) :
    (∀ socketEnd flight rest, session.queue = flight :: rest →
      ∃ after, session.step (.client (.turn socketEnd)) = some after ∧
        (session.Late → ∃ error, after.world.reader = .returned error) ∧
        (¬ session.Late → after.world.reader = .running ∧ after.queue = rest ∧
          ∀ id, flight.answers = some id → ∃ header frame,
            ⟨id, .ok (header, flight.frame.payload), some frame⟩ ∈ after.world.deliveries)) ∧
    (∀ id ∈ session.onTheWay, ∀ call : Call, session.world.calls[id]? = some call →
      call.stage.isDone = true → call.stage = .done (.err timeoutError)) ∧
    ∀ (id : CallId) (call : Call), session.world.calls[id]? = some call →
      (∀ error, call.stage = .givingUp error → error = timeoutError) ∧
      ∀ error, call.stage = .done (.err error) →
        error = timeoutError ∨ error = .overflow ∨ (∃ kind, error = writeError kind) ∨
        ∃ header payload, call.channel = .taken (.ok (header, payload)) ∧
          settleReply call.request call.invokeId header payload = .err error := by
  have consistent := Session.consistent_of_run run
  refine ⟨fun socketEnd _ _ next => consistent.turn_on_frame running socketEnd next,
    fun id member call found isDone =>
      consistent.timedOut_of_onTheWay running member found isDone, fun id call found => ?_⟩
  have own := (consistent.orderly running).own id call found
  constructor
  · intro error givingUp
    rw [givingUp] at own
    exact own
  · intro error failed
    rw [failed] at own
    rcases own with
      ⟨-, overflow | ⟨kind, unwritten⟩⟩ | ⟨-, timedOut | ⟨header, payload, taken, same⟩⟩
    · exact .inr (.inl (Outcome.err.inj overflow))
    · exact .inr (.inr (.inl ⟨kind, Outcome.err.inj unwritten⟩))
    · exact .inl (Outcome.err.inj timedOut)
    · exact .inr (.inr (.inr ⟨header, payload, taken, same.symm⟩))

/-! ## A reply that comes too late -/

/-- A write request without data. -/
def plainWrite : Request :=
  ⟨.write, ⟨.new 2 2 2 2 2 2, 851⟩, [], []⟩

/-- The first call times out and returns, the second waits, and the reply to the
first arrives. -/
def overdue : List Session.Move :=
  [.client (.start plainWrite), .client (.insert 0), .client (.write 0 none),
    .client (.timeout 0), .client (.discard 0),
    .client (.start plainWrite), .client (.insert 1), .client (.write 1 none),
    .answer 0 0 [0, 0, 0, 0]]

/-- The reader takes the reply, ends, and fails the second call. -/
def aborted : List Session.Move :=
  overdue ++ [.client (.turn none), .client .shutdown, .client .drain,
    .client (.receive 1), .client (.discard 1)]

/-- Before the reader takes the reply, the first call has failed by its own
time-out. -/
theorem overdue_timedOut :
    ∃ session, execute Session.step (.initial ⟨.localId, 1⟩ true) overdue = some session ∧
      ∃ call, session.world.calls[0]? = some call ∧ call.stage = .done (.err timeoutError) := by
  have run : Run Session.step (.initial ⟨.localId, 1⟩ true) overdue _ := .of_execute rfl
  have late := late_replies run rfl
  exact ⟨_, rfl, _, rfl, late.2.1 0 (by decide) _ rfl rfl⟩

/-- The late reply ends the connection, and a call that has not timed out, whose
request was written and which got no reply, fails with it. -/
theorem late_reply_aborts :
    (¬ ∀ source moves session, Run Session.step (.initial source true) moves session →
      (∀ kind, .client (.turn (some kind)) ∉ moves) → session.world.reader = .running) ∧
    ¬ ∀ source moves session, Run Session.step (.initial source true) moves session →
      (∀ kind, .client (.turn (some kind)) ∉ moves) →
      ∀ (id : CallId) (call : Call) error, session.world.calls[id]? = some call →
        call.stage = .done (.err error) → .client (.timeout id) ∈ moves ∨
        (∃ failure, .client (.write id (some failure)) ∈ moves) ∨
        ∃ reply, call.channel = .taken (.ok reply) := by
  have run : Run Session.step (.initial ⟨.localId, 1⟩ true) aborted _ := .of_execute rfl
  have intact : ∀ kind, Session.Move.client (.turn (some kind)) ∉ aborted := by
    simp [aborted, overdue]
  constructor
  · intro claim
    cases claim _ _ _ run intact
  · intro claim
    rcases claim _ _ _ run intact 1 _ _ rfl rfl with timedOut | ⟨failure, failed⟩ | ⟨reply, taken⟩
    · simp [aborted, overdue] at timedOut
    · simp [aborted, overdue] at failed
    · cases taken

end Ads.Client
