import Ads.Client.Session

/-!
# The invariant of a session

Every step of the client and of its peer keeps requests and replies in step with
each other.
-/

namespace Ads.Client

open Ads.Bytes Ads.Control Ads.Notif Ads.Transition

/-- A call stands as it did while its stage and any reply it has taken stay. -/
theorem Stage.Own.mono {world after : World} {id : CallId} {old new : Call} {stage : Stage}
    (own : stage.Own world id old) (written : id ∈ after.written ↔ id ∈ world.written)
    (request : new.request = old.request) (invokeId : new.invokeId = old.invokeId)
    (taken : ∀ message, old.channel = .taken message → new.channel = .taken message) :
    stage.Own after id new := by
  cases stage with
  | numbered requestBuf => trivial
  | registered requestBuf => trivial
  | waiting => trivial
  | givingUp error => exact own
  | done result =>
      rcases own with ⟨unwritten, result⟩ | ⟨isWritten, timedOut | ⟨header, payload, was, result⟩⟩
      · exact .inl ⟨fun member => unwritten (written.mp member), result⟩
      · exact .inr ⟨written.mpr isWritten, .inl timedOut⟩
      · refine .inr ⟨written.mpr isWritten, .inr ⟨header, payload, taken _ was, ?_⟩⟩
        rw [request, invokeId]
        exact result

namespace Session.Consistent

variable {session : Session} {after : World} {label : Label} {id : CallId} {new : Call}

/-! ## One call -/

/-- While the reader runs, only a call that has returned can find its channel
closed. -/
theorem connected_step (consistent : session.Consistent)
    (running : session.world.reader = .running)
    (step : session.world.step label = some after) (found : after.calls[id]? = some new)
    (gone : new.channel = .disconnected) : new.stage.isDone = true := by
  have orderly := consistent.orderly running
  rcases consistent.world.step_call step found with
    ⟨old, isOld, stepped⟩ | ⟨-, -, -, empty, -⟩
  · have before := orderly.connected id old isOld
    cases stepped with
    | still => exact before gone
    | inserted at_ =>
        have isDone := before gone
        simp [at_, Stage.isDone] at isDone
    | written at_ =>
        have isDone := before gone
        simp [at_, Stage.isDone] at isDone
    | unwritten => rfl
    | received => cases gone
    | hungUp waits channel => exact absurd channel (orderly.connected_of_waiting isOld waits)
    | timedOut _ channel => simp [Call.proceed, channel] at gone
    | discarded => rfl
    | displaced _ registered distinct isOther active same =>
        by_contra notDone
        have alive : old.stage.isDone = false := by simpa using notDone
        exact distinct (consistent.distinct _ _ _ _ isOther isOld (.inl active) (.inl alive) same)
    | delivered => cases gone
  · simp [empty] at gone

/-- While the reader runs, no call fails because of another. -/
theorem own_step (consistent : session.Consistent)
    (running : session.world.reader = .running)
    (step : session.world.step label = some after) (found : after.calls[id]? = some new) :
    new.stage.Own after id new := by
  have orderly := consistent.orderly running
  have frames := World.step_frames step
  rcases consistent.world.step_call step found with
    ⟨old, isOld, stepped⟩ | ⟨last, ⟨request, rfl⟩, -, -, stage⟩
  · have before := orderly.own id old isOld
    have state := consistent.world.calls id old isOld
    have fits := state.stage
    have stays : label ≠ .write id none → (id ∈ after.written ↔ id ∈ session.world.written) :=
      fun other => (frames.written id).trans (or_iff_left other)
    cases stepped with
    | still _ notWritten =>
        exact before.mono (stays (notWritten none)) rfl rfl (fun _ same => same)
    | inserted => trivial
    | written => trivial
    | unwritten count kind at_ =>
        rw [at_] at fits
        refine .inl ⟨fun member => fits.1 ((stays ?_).mp member), .inr ⟨kind, rfl⟩⟩
        exact fun equal => by cases equal
    | @received message at_ full =>
        rw [at_] at fits
        cases message with
        | ok reply =>
            refine .inr ⟨(stays (fun equal => by cases equal)).mpr fits.1, .inr ?_⟩
            exact ⟨reply.1, reply.2, rfl, rfl⟩
        | error error =>
            cases running.symm.trans (state.drained_of_full full)
    | hungUp waits channel => exact absurd channel (orderly.connected_of_waiting isOld waits)
    | timedOut => rfl
    | discarded at_ =>
        rw [at_] at fits before
        have timedOut : _ = timeoutError := before
        rw [timedOut]
        exact .inr ⟨(stays (fun equal => by cases equal)).mpr fits.1, .inl rfl⟩
    | displaced acts registered =>
        have empty := state.registered registered
        refine before.mono (stays fun equal => ?_) rfl rfl fun message taken => ?_
        · subst equal
          rcases acts with equal | equal <;> cases equal
        · simp [empty] at taken
    | delivered acts registered active =>
        have empty := state.registered registered
        refine before.mono (stays fun equal => ?_) rfl rfl fun message taken => ?_
        · subst equal
          rcases acts with equal | ⟨_, equal⟩ <;> cases equal
        · simp [empty] at taken
  · rcases stage with ⟨requestBuf, numbered⟩ | failed
    · rw [numbered]
      trivial
    · rw [failed, last]
      exact .inl ⟨consistent.world.not_written_of_start step, .inl rfl⟩

/-! ## One step of the client -/

/-- A request that is alive after a step of the client was alive before. -/
theorem live_of_step {next : Session} {old : Call}
    (step : session.world.step label = some next.world)
    (stepped : Call.Step session.world id old label new)
    (answered : next.answered = session.answered)
    (onTheWay : ∀ id ∈ next.onTheWay, id ∈ session.onTheWay) (live : next.Live id new) :
    session.Live id old := by
  have frames := World.step_frames step
  by_cases isDone : old.stage.isDone = true
  · rcases live with active | ⟨isWritten, owed⟩
    · rw [stepped.stage_of_isDone isDone, isDone] at active
      cases active
    · refine .inr ⟨?_, owed.imp (fun missing => by rwa [answered] at missing) (onTheWay id)⟩
      rcases (frames.written id).mp isWritten with old | writes
      · exact old
      · subst writes
        cases stepped with
        | still _ notWritten => exact absurd rfl (notWritten none)
        | written at_ => simp [at_, Stage.isDone] at isDone
        | displaced acts => rcases acts with equal | equal <;> cases equal
        | delivered acts => rcases acts with equal | ⟨_, equal⟩ <;> cases equal
  · exact .inl (by simpa using isDone)

theorem free_start (free : session.Free) {old : Call}
    (found : session.world.calls[id]? = some old)
    (same : old.invokeId = session.world.invokeId) : ¬ session.Live id old :=
  free (old, id) (List.mk_mem_zipIdx_iff_getElem?.mpr found) same

/-- The frames that are still on their way are proper after a step of the client. -/
theorem proper_of_step {next : Session} {flight : Flight} (consistent : session.Consistent)
    (step : session.world.step label = some next.world) (old : flight ∈ session.queue) :
    flight.Proper next := by
  have frames := World.step_frames step
  obtain ⟨wellFormed, proper⟩ := consistent.flights flight old
  rw [Flight.Proper, frames.source]
  constructor
  · exact wellFormed
  · cases answers : flight.answers with
    | none =>
        rw [answers] at proper
        exact proper
    | some id =>
        rw [answers] at proper
        obtain ⟨call, header, found, isReply, same⟩ := proper
        obtain ⟨new, isNew, stepped⟩ := consistent.world.persists step frames.length found
        exact ⟨new, header, isNew, isReply, same.trans stepped.invokeId.symm⟩

/-- Live requests have invoke ids of their own after a step of the client. -/
theorem distinct_of_step {next : Session} (consistent : session.Consistent)
    (allowed : session.Allows label) (step : session.world.step label = some next.world)
    (answered : next.answered = session.answered)
    (onTheWay : ∀ id ∈ next.onTheWay, id ∈ session.onTheWay) {first second : CallId}
    {call other : Call} (found : next.world.calls[first]? = some call)
    (found' : next.world.calls[second]? = some other) (live : next.Live first call)
    (live' : next.Live second other) (same : call.invokeId = other.invokeId) :
    first = second := by
  rcases consistent.world.step_call step found with
    ⟨old, isOld, stepped⟩ | ⟨last, ⟨request, rfl⟩, fresh, -⟩
  · have before := live_of_step step stepped answered onTheWay live
    rcases consistent.world.step_call step found' with
      ⟨old', isOld', stepped'⟩ | ⟨last, ⟨request, rfl⟩, fresh, -⟩
    · have before' := live_of_step step stepped' answered onTheWay live'
      apply consistent.distinct _ _ _ _ isOld isOld' before before'
      rw [← stepped.invokeId, ← stepped'.invokeId, same]
    · apply absurd before
      apply free_start allowed isOld
      rw [← stepped.invokeId, same, fresh]
  · rcases consistent.world.step_call step found' with
      ⟨old', isOld', stepped'⟩ | ⟨last', -⟩
    · apply absurd (live_of_step step stepped' answered onTheWay live')
      apply free_start allowed isOld'
      rw [← stepped'.invokeId, ← same, fresh]
    · rw [last, last']

/-- What is left to check of a step of the client: that the reader's part holds. -/
theorem of_step {next : Session} (consistent : session.Consistent)
    (allowed : session.Allows label) (step : session.world.step label = some next.world)
    (answered : next.answered = session.answered)
    (queue : ∃ read, session.queue = read ++ next.queue)
    (orderly : next.world.reader = .running → next.Orderly) : next.Consistent := by
  obtain ⟨read, queue⟩ := queue
  have onTheWay : session.onTheWay = read.filterMap Flight.answers ++ next.onTheWay := by
    rw [Session.onTheWay, queue, List.filterMap_append]
    rfl
  have stillOnTheWay : ∀ id ∈ next.onTheWay, id ∈ session.onTheWay := by
    intro id member
    rw [onTheWay]
    exact List.mem_append_right _ member
  exact {
    world := consistent.world.step step
    flights := by
      intro flight member
      apply consistent.proper_of_step step
      rw [queue]
      exact List.mem_append_right _ member
    once := by
      have once := consistent.once
      rw [onTheWay] at once
      exact once.of_append_right
    answered := by
      intro id member
      rw [answered]
      exact consistent.answered id (stillOnTheWay id member)
    written := by
      intro id member
      rw [answered] at member
      exact ((World.step_frames step).written id).mpr (.inl (consistent.written id member))
    distinct := by
      intro first second call other found found' live live' same
      exact consistent.distinct_of_step allowed step answered stillOnTheWay found found' live
        live' same
    orderly := orderly }

/-- A step that neither the reader's loop nor the peer takes. -/
theorem quiet_step (consistent : session.Consistent) (allowed : session.Allows label)
    (step : session.world.step label = some after)
    (quiet : ∀ socketEnd, label ≠ .turn socketEnd) :
    Session.Consistent { session with world := after } := by
  have frames := World.step_frames step
  refine consistent.of_step allowed step rfl ⟨[], rfl⟩ fun running => ?_
  have wasRunning := frames.running running
  have orderly := consistent.orderly wasRunning
  have noArrival : ∀ bytes, label ≠ .arrive bytes := by
    rintro bytes rfl
    exact allowed
  have deliveries := frames.deliveries quiet running
  exact {
    stream := (frames.incoming quiet noArrival).trans orderly.stream
    undelivered := by
      intro id member
      have silent := orderly.undelivered id member
      rwa [World.deliveriesTo, ← deliveries] at silent
    delivered := by
      rw [deliveries]
      exact orderly.delivered
    connected := fun id call found => consistent.connected_step wasRunning step found
    own := fun id call found => consistent.own_step wasRunning step found }

theorem onTheWay_cons {flight : Flight} {rest : List Flight}
    (next : session.queue = flight :: rest) :
    session.onTheWay = flight.answers.toList ++ rest.filterMap Flight.answers := by
  rw [Session.onTheWay, next, List.filterMap_cons]
  cases flight.answers <;> rfl

/-- A frame has been read, and its reply, if it is one, was handed to its call. -/
theorem orderly_of_read {flight : Flight} {rest : List Flight} {given : List Delivery}
    (consistent : session.Consistent) (running : session.world.reader = .running)
    (next : session.queue = flight :: rest)
    (stream : after.incoming = wire (rest.map Flight.frame))
    (deliveries : after.deliveries = session.world.deliveries ++ given)
    (own : ∀ delivery ∈ given, flight.answers = some delivery.call)
    (calls : ∀ (id : CallId) (call : Call), after.calls[id]? = some call →
      (call.channel = .disconnected → call.stage.isDone = true) ∧ call.stage.Own after id call) :
    Session.Orderly { session with world := after, queue := rest } := by
  have orderly := consistent.orderly running
  have onTheWay := onTheWay_cons next
  have once := consistent.once
  rw [onTheWay] at once
  exact {
    stream := stream
    undelivered := by
      intro id member
      have silent := orderly.undelivered id (by
        rw [onTheWay]
        exact List.mem_append_right _ member)
      have none : given.filter (·.call = id) = [] := by
        rw [List.filter_eq_nil_iff]
        intro delivery isGiven same
        rw [decide_eq_true_eq] at same
        have isRead : id ∈ flight.answers.toList := by
          rw [own delivery isGiven, same]
          exact List.mem_singleton_self _
        exact (List.nodup_append.mp once).2.2 id isRead id member rfl
      rw [World.deliveriesTo] at silent ⊢
      rw [deliveries, List.filter_append, none, List.append_nil, silent]
    delivered := by
      intro delivery isDelivery
      rw [deliveries] at isDelivery
      rcases List.mem_append.mp isDelivery with old | isGiven
      · exact orderly.delivered delivery old
      · apply consistent.answered
        rw [onTheWay, own delivery isGiven]
        exact List.mem_cons_self
    connected := fun id call found => (calls id call found).1
    own := fun id call found => (calls id call found).2 }

/-- The reader's turn takes the first frame off the queue, if it goes on. -/
theorem turn_step {socketEnd : Option IoErrorKind} (consistent : session.Consistent)
    (step : session.world.step (.turn socketEnd) = some after) :
    Session.Consistent { session with
      world := after
      queue := session.queue.drop (after.turns - session.world.turns) } := by
  have taken : session.world.turn socketEnd = some after := step
  have running := (World.turn_eq_some taken).1
  have allowed : session.Allows (.turn socketEnd) := trivial
  have calls : ∀ (id : CallId) (call : Call), after.calls[id]? = some call →
      (call.channel = .disconnected → call.stage.isDone = true) ∧
        call.stage.Own after id call :=
    fun id call found =>
      ⟨consistent.connected_step running step found, consistent.own_step running step found⟩
  refine consistent.of_step allowed step rfl
    ⟨_, (List.take_append_drop (after.turns - session.world.turns) session.queue).symm⟩
    fun stillRunning => ?_
  cases next : session.queue with
  | nil =>
      cases socketEnd with
      | none =>
          rw [consistent.turn_of_nil running next] at taken
          cases taken
      | some kind =>
          rw [consistent.turn_of_nil_failed running next kind] at taken
          cases taken
          cases stillRunning
  | cons flight rest =>
      obtain ⟨answers, frame⟩ := flight
      cases answers with
      | none =>
          obtain ⟨notifications, turned⟩ := consistent.turn_of_note running socketEnd next
          have same := Option.some.inj (turned.symm.trans taken)
          have turns : after.turns = session.world.turns + 1 := by rw [← same]
          have deliveries : after.deliveries = session.world.deliveries ++ [] := by
            rw [← same, List.append_nil]
          rw [turns, Nat.add_sub_cancel_left, List.drop_one, List.tail_cons]
          apply consistent.orderly_of_read running next _ deliveries _ calls
          · rw [← same]
          · simp
      | some id =>
          obtain ⟨-, call, -, found, -⟩ := consistent.proper_of_next next
          cases isDone : call.stage.isDone with
          | true =>
              obtain ⟨error, pending, turned⟩ :=
                consistent.turn_of_late running socketEnd next found isDone
              rw [turned] at taken
              cases taken
              cases stillRunning
          | false =>
              obtain ⟨header, -, turned⟩ :=
                consistent.turn_of_answer running socketEnd next found isDone
              have same := Option.some.inj (turned.symm.trans taken)
              have turns : after.turns = session.world.turns + 1 := by rw [← same]
              have deliveries : after.deliveries = session.world.deliveries ++
                  [⟨id, .ok (header, frame.payload), some session.world.turns⟩] := by
                rw [← same]
                rfl
              rw [turns, Nat.add_sub_cancel_left, List.drop_one, List.tail_cons]
              apply consistent.orderly_of_read running next _ deliveries _ calls
              · rw [← same]
              · intro delivery isGiven
                rw [List.mem_singleton.mp isGiven]

/-- A step of the client. -/
theorem client_step {next : Session} (consistent : session.Consistent)
    (step : session.step (.client label) = some next) : next.Consistent := by
  obtain ⟨allowed, after, stepped, rfl⟩ := Session.step_client_eq_some step
  by_cases loud : ∃ socketEnd, label = .turn socketEnd
  · obtain ⟨socketEnd, rfl⟩ := loud
    exact consistent.turn_step stepped
  · have quiet : ∀ socketEnd, label ≠ .turn socketEnd :=
      fun socketEnd equal => loud ⟨socketEnd, equal⟩
    rw [(World.step_frames stepped).turns quiet, Nat.sub_self, List.drop_zero]
    exact consistent.quiet_step allowed stepped quiet

/-! ## What the peer sends -/

theorem onTheWay_send (flight : Flight) :
    (session.send flight).onTheWay = session.onTheWay ++ flight.answers.toList := by
  rw [Session.send, Session.onTheWay, List.filterMap_append, Session.onTheWay]
  cases answers : flight.answers <;> simp [answers]

/-- A request that is alive after the peer has sent a frame was alive before. -/
theorem live_of_send {flight : Flight} {answered : List CallId} {call : Call}
    (unanswered : ∀ id, flight.answers = some id → id ∉ session.answered)
    (grown : answered = session.answered ++ flight.answers.toList)
    (live : Session.Live { session.send flight with answered } id call) :
    session.Live id call := by
  rcases live with active | ⟨isWritten, owed⟩
  · exact .inl active
  · refine .inr ⟨isWritten, ?_⟩
    rcases owed with missing | member
    · left
      intro old
      apply missing
      rw [grown]
      exact List.mem_append_left _ old
    · have isOnTheWay : id ∈ session.onTheWay ++ flight.answers.toList :=
        onTheWay_send flight ▸ member
      rcases List.mem_append.mp isOnTheWay with old | isNew
      · exact .inr old
      · exact .inl (unanswered id (Option.mem_toList.mp isNew))

/-- A frame joins the stream, and its reply has not been delivered yet. -/
theorem orderly_send {flight : Flight} {answered : List CallId} (orderly : session.Orderly)
    (unanswered : ∀ id, flight.answers = some id → id ∉ session.answered)
    (grown : answered = session.answered ++ flight.answers.toList) :
    Session.Orderly { session.send flight with answered } where
  stream := by
    change session.world.incoming ++ flight.frame.bytes =
      wire ((session.queue ++ [flight]).map Flight.frame)
    rw [List.map_append, wire_append, orderly.stream]
    simp
  undelivered := by
    intro id member
    have isOnTheWay : id ∈ session.onTheWay ++ flight.answers.toList :=
      onTheWay_send flight ▸ member
    rcases List.mem_append.mp isOnTheWay with old | isNew
    · exact orderly.undelivered id old
    · change (session.world.deliveries.filter (·.call = id)).map Delivery.message = []
      rw [List.map_eq_nil_iff, List.filter_eq_nil_iff]
      intro delivery isDelivery same
      rw [decide_eq_true_eq] at same
      apply unanswered id (Option.mem_toList.mp isNew)
      rw [← same]
      exact orderly.delivered delivery isDelivery
  delivered := by
    intro delivery isDelivery
    rw [grown]
    exact List.mem_append_left _ (orderly.delivered delivery isDelivery)
  connected := orderly.connected
  own := fun id call found =>
    (orderly.own id call found).mono Iff.rfl rfl rfl (fun _ same => same)

/-- A frame that the peer sends, with the calls it has answered afterwards. -/
theorem send {flight : Flight} {answered : List CallId} (consistent : session.Consistent)
    (proper : flight.Proper session)
    (fresh : ∀ id, flight.answers = some id → id ∈ session.world.written ∧
      id ∉ session.answered)
    (grown : answered = session.answered ++ flight.answers.toList) :
    Session.Consistent { session.send flight with answered } := by
  have unanswered : ∀ id, flight.answers = some id → id ∉ session.answered :=
    fun id isNew => (fresh id isNew).2
  exact {
    world := consistent.world.arrive flight.frame.bytes
    flights := by
      intro other member
      rcases List.mem_append.mp member with old | isNew
      · exact consistent.flights other old
      · rw [List.mem_singleton.mp isNew]
        exact proper
    once := by
      change (session.send flight).onTheWay.Nodup
      rw [onTheWay_send]
      refine consistent.once.append ?_ fun id old isNew => ?_
      · cases flight.answers <;> simp
      · exact unanswered id (Option.mem_toList.mp isNew) (consistent.answered id old)
    answered := by
      intro id member
      have isOnTheWay : id ∈ session.onTheWay ++ flight.answers.toList :=
        onTheWay_send flight ▸ member
      rw [grown]
      rcases List.mem_append.mp isOnTheWay with old | isNew
      · exact List.mem_append_left _ (consistent.answered id old)
      · exact List.mem_append_right _ isNew
    written := by
      intro id member
      rw [grown] at member
      rcases List.mem_append.mp member with old | isNew
      · exact consistent.written id old
      · exact (fresh id (Option.mem_toList.mp isNew)).1
    distinct := by
      intro first second call other found found' live live'
      apply consistent.distinct first second call other found found'
      · exact live_of_send unanswered grown live
      · exact live_of_send unanswered grown live'
    orderly := fun running => orderly_send (consistent.orderly running) unanswered grown }

/-- Every step keeps the invariant of the session. -/
theorem step {move : Move} {next : Session} (consistent : session.Consistent)
    (step : session.step move = some next) : next.Consistent := by
  cases move with
  | client label => exact consistent.client_step step
  | answer id errorCode payload =>
      simp only [Session.step] at step
      split at step
      · rename_i call found
        split at step
        · rename_i bound
          split at step
          · rename_i owed
            obtain ⟨written, unanswered, isRequest⟩ := owed
            cases step
            refine consistent.send ?_ ?_ rfl
            · exact ⟨wellFormed_replyFrame bound isRequest, call, _, found,
                reply_replyFrame bound isRequest, rfl⟩
            · intro other same
              cases same
              exact ⟨written, unanswered⟩
          · cases step
        · cases step
      · cases step
  | note frame =>
      simp only [Session.step] at step
      split at step
      · rename_i condition
        cases step
        exact consistent.send condition (by simp) (List.append_nil _).symm
      · cases step

end Session.Consistent

/-- The invariant holds in every reachable state of a session. -/
theorem Session.consistent_of_run {source : AmsAddr} {readTimeout : Bool}
    {moves : List Session.Move} {session : Session}
    (run : Run Session.step (.initial source readTimeout) moves session) :
    session.Consistent :=
  run.invariant (.initial source readTimeout) fun _ _ _ consistent step => consistent.step step

end Ads.Client
