import Ads.Client.Service

/-!
# Concurrent calls, one after the other

Whatever the order of the steps of the calls, the reader and the peer: the calls that
took a reply have returned what they would have returned if the requests had been
issued alone, one after the other, in the order in which the peer handled them.  That
order contradicts no call that had returned before another was started.
-/

namespace Ads.Client

open Ads.Bytes Ads.Control Ads.Transition

/-! ## Requests one after the other -/

/-- A request, issued alone. -/
def issue {S : Type} (devices : Devices S) (source : AmsAddr) (request : Request) :
    Operation S Received :=
  communicate (devices request.target) ⟨source, request.target⟩ request.cmd request.payloadBufs
    request.resultBufs

section InSequence

variable {S R α : Type} {issue : R → Operation S α}

/-- One request more. -/
theorem inSequence_concat {requests : List R} {request : R} {link middle last : Link S}
    {outcomes : List (Outcome Error α)} {outcome : Outcome Error α}
    (first : inSequence issue requests link = (outcomes, middle))
    (ran : issue request middle = (outcome, last)) :
    inSequence issue (requests ++ [request]) link = (outcomes ++ [outcome], last) := by
  induction requests generalizing link outcomes with
  | nil =>
      cases first
      rw [List.nil_append, inSequence, ran]
      rfl
  | cons head requests ih =>
      rcases started : issue head link with ⟨headOutcome, after⟩
      rcases rest : inSequence issue requests after with ⟨restOutcomes, reached⟩
      rw [inSequence, started] at first
      simp only [rest, Prod.mk.injEq] at first
      obtain ⟨rfl, rfl⟩ := first
      rw [List.cons_append, inSequence, started]
      simp only [ih rest, List.cons_append]

end InSequence

/-! ## Moves of a session -/

namespace Session

variable {session next : Session} {move : Move}

/-- A move of a session is a step of its client, or an arrival. -/
theorem world_step (step : session.step move = some next) :
    ∃ label, session.world.step label = some next.world ∧
      ∀ socketEnd, label = .turn socketEnd → move = .client (.turn socketEnd) := by
  by_cases client : ∃ label, move = .client label
  · obtain ⟨label, rfl⟩ := client
    obtain ⟨-, after, stepped, rfl⟩ := step_client_eq_some step
    exact ⟨label, stepped, fun socketEnd equal => by rw [equal]⟩
  · have peer : ∀ label, move ≠ .client label := fun label equal => client ⟨label, equal⟩
    obtain ⟨bytes, same⟩ := step_peer_eq_some step peer
    exact ⟨.arrive bytes, by rw [same]; rfl, fun _ equal => by cases equal⟩

/-- A frame that is on its way was so before, or is no reply, or is the answer that the
peer has just sent. -/
theorem queue_of_step (step : session.step move = some next) {flight : Flight}
    (member : flight ∈ next.queue) :
    flight ∈ session.queue ∨ flight.answers = none ∨
      ∃ (id : CallId) (errorCode : UInt32) (payload : List UInt8) (call : Call)
        (bound : 32 + payload.length < 2 ^ 32), move = .answer id errorCode payload ∧
        session.world.calls[id]? = some call ∧ call.request.cmd ≠ .notification ∧
        flight = ⟨some id, replyFrame session.world.source call errorCode payload bound⟩ := by
  cases move with
  | client label =>
      obtain ⟨-, after, -, rfl⟩ := step_client_eq_some step
      exact .inl (List.mem_of_mem_drop member)
  | answer id errorCode payload =>
      simp only [Session.step] at step
      split at step
      · rename_i call found
        split at step
        · rename_i bound
          split at step
          · rename_i due
            cases step
            rcases List.mem_append.mp member with old | isNew
            · exact .inl old
            · rw [List.mem_singleton.mp isNew]
              exact .inr (.inr ⟨id, errorCode, payload, call, bound, rfl, found, due.2.2, rfl⟩)
          · cases step
        · cases step
      · cases step
  | note frame =>
      simp only [Session.step] at step
      split at step
      · cases step
        rcases List.mem_append.mp member with old | isNew
        · exact .inl old
        · rw [List.mem_singleton.mp isNew]
          exact .inr (.inl rfl)
      · cases step

end Session

/-- The frame of a reply means to its call what the reply means. -/
theorem Handled.answeredBy_replyFrame {entry : Handled} {source : AmsAddr} {call : Call}
    {header : AdsHeader} (request : call.request = entry.request)
    (number : call.invokeId = UInt32.ofNat (1 + entry.call))
    (isRequest : call.request.cmd ≠ .notification)
    (bound : 32 + entry.reply.payload.length < 2 ^ 32)
    (isReply : (replyFrame source call entry.reply.errorCode entry.reply.payload bound).reply
      source = some header) :
    entry.AnsweredBy header
      (replyFrame source call entry.reply.errorCode entry.reply.payload bound).payload := by
  rw [reply_replyFrame bound isRequest] at isReply
  cases isReply
  have payload : (replyFrame source call entry.reply.errorCode entry.reply.payload bound).payload =
      entry.reply.payload := by
    rw [Frame.payload, replyFrame, List.drop_left' (AdsHeader.length_amsBytes _)]
  have header : replyHeader source call entry.reply.errorCode entry.reply.payload.length =
      answerHeader source entry.request (UInt32.ofNat (1 + entry.call)) entry.reply := by
    rw [replyHeader, answerHeader, request, number]
    rfl
  rw [AnsweredBy, payload, header, settleReply_answerHeader]
  rfl

namespace Service

variable {S : Type}

/-! ## The invariant -/

/-- What holds in every state of a service that has started in a given state. -/
structure Consistent (devices : Devices S) (state : S) (service : Service S) : Prop where
  session : service.session.Consistent
  assembled : service.session.world.Assembled
  short : service.session.world.WrittenShort
  taken : service.session.world.RepliesTaken
  once : service.order.Nodup
  received : ∀ entry ∈ service.handled, entry.call ∈ service.session.world.written ∧
    ∃ call, service.session.world.calls[entry.call]? = some call ∧ call.request = entry.request
  /-- The requests that were handled, issued alone, lead to the state of the peer. -/
  replayed : ∃ last, inSequence (issue devices service.session.world.source) service.requests
      ⟨1, state, []⟩ = (service.handled.map Handled.outcome, last) ∧
    last.server = service.state
  flights : ∀ flight ∈ service.session.queue, ∀ id header, flight.answers = some id →
    flight.frame.reply service.session.world.source = some header →
      ∃ entry ∈ service.handled, entry.call = id ∧ entry.AnsweredBy header flight.frame.payload
  delivered : ∀ delivery ∈ service.session.world.deliveries, ∀ header payload,
    delivery.message = .ok (header, payload) →
      ∃ entry ∈ service.handled, entry.call = delivery.call ∧ entry.AnsweredBy header payload

namespace Consistent

variable {devices : Devices S} {state : S} {service : Service S}

theorem initial (devices : Devices S) (source : AmsAddr) (readTimeout : Bool) (state : S) :
    Consistent devices state (.initial source readTimeout state) where
  session := .initial source readTimeout
  assembled := fun _ _ _ found => by cases found
  short := fun _ _ found => by cases found
  taken := fun _ _ _ _ found => by cases found
  once := List.nodup_nil
  received := fun _ member => by cases member
  replayed := ⟨_, rfl, rfl⟩
  flights := fun _ member => by cases member
  delivered := fun _ member => by cases member

/-- A request that has been handled is still the request of its call after a step. -/
theorem received_step {after : World} {label : Label} (consistent : service.Consistent devices state)
    (stepped : service.session.world.step label = some after) {entry : Handled}
    (member : entry ∈ service.handled) : entry.call ∈ after.written ∧
      ∃ call, after.calls[entry.call]? = some call ∧ call.request = entry.request := by
  have frames := World.step_frames stepped
  obtain ⟨isWritten, call, found, same⟩ := consistent.received entry member
  obtain ⟨new, isNew, life⟩ := consistent.session.world.persists stepped frames.length found
  exact ⟨(frames.written _).mpr (.inl isWritten), new, isNew, life.request.trans same⟩

/-- A reply that the peer sends is the one to a request it has handled. -/
theorem flights_move {session : Session} {move : Session.Move}
    (consistent : service.Consistent devices state)
    (moved : service.session.step move = some session)
    (replies : ∀ id errorCode payload, move = .answer id errorCode payload →
      ∃ entry ∈ service.handled, entry.call = id ∧ entry.reply = ⟨errorCode, payload⟩)
    {flight : Flight} (member : flight ∈ session.queue) {id : CallId} {header : AdsHeader}
    (answers : flight.answers = some id)
    (isReply : flight.frame.reply service.session.world.source = some header) :
    ∃ entry ∈ service.handled, entry.call = id ∧
      entry.AnsweredBy header flight.frame.payload := by
  rcases Session.queue_of_step moved member with old | noReply |
    ⟨id', errorCode, payload, call, bound, rfl, found, isRequest, rfl⟩
  · exact consistent.flights flight old id header answers isReply
  · cases noReply.symm.trans answers
  · cases answers
    obtain ⟨entry, isHandled, rfl, reply⟩ := replies _ _ _ rfl
    obtain ⟨-, call', found', request⟩ := consistent.received entry isHandled
    cases found.symm.trans found'
    have number := consistent.session.world.numbers _ _ found
    obtain ⟨entryCall, entryRequest, entryReply⟩ := entry
    cases reply
    exact ⟨_, isHandled, rfl,
      Handled.answeredBy_replyFrame request number isRequest bound isReply⟩

/-- What is delivered to a call is the reply to its own request, which was handled. -/
theorem delivered_move {session : Session} {move : Session.Move}
    (consistent : service.Consistent devices state)
    (moved : service.session.step move = some session) {delivery : Delivery}
    (member : delivery ∈ session.world.deliveries) {header : AdsHeader} {payload : List UInt8}
    (isReply : delivery.message = .ok (header, payload)) :
    ∃ entry ∈ service.handled, entry.call = delivery.call ∧
      entry.AnsweredBy header payload := by
  obtain ⟨label, stepped, reads⟩ := Session.world_step moved
  by_cases turns : ∃ socketEnd, label = .turn socketEnd
  · obtain ⟨socketEnd, rfl⟩ := turns
    rcases consistent.session.deliveries_of_turn stepped with
      same | ⟨id, frame, rest, found, next, isReply', grown⟩
    · rw [same] at member
      exact consistent.delivered delivery member header payload isReply
    · rw [grown] at member
      rcases List.mem_append.mp member with old | isNew
      · exact consistent.delivered delivery old header payload isReply
      · rw [List.mem_singleton.mp isNew] at isReply ⊢
        cases isReply
        apply consistent.flights ⟨some id, frame⟩ _ id _ rfl isReply'
        rw [next]
        exact List.mem_cons_self
  · have quiet : ∀ socketEnd, label ≠ .turn socketEnd :=
      fun socketEnd equal => turns ⟨socketEnd, equal⟩
    have old := World.reply_of_step stepped quiet member isReply
    exact consistent.delivered delivery old header payload isReply

/-- A move of the session. -/
theorem move {session : Session} {move : Session.Move}
    (consistent : service.Consistent devices state)
    (moved : service.session.step move = some session)
    (replies : ∀ id errorCode payload, move = .answer id errorCode payload →
      ∃ entry ∈ service.handled, entry.call = id ∧ entry.reply = ⟨errorCode, payload⟩) :
    Consistent devices state { service with session } := by
  obtain ⟨label, stepped, -⟩ := Session.world_step moved
  have source := (World.step_frames stepped).source
  have world := consistent.session.world
  exact {
    session := consistent.session.step moved
    assembled := world.assembled_step stepped consistent.assembled
    short := world.writtenShort_step consistent.assembled stepped consistent.short
    taken := world.repliesTaken_step stepped consistent.taken
    once := consistent.once
    received := fun entry member => consistent.received_step stepped member
    replayed := by
      rw [source]
      exact consistent.replayed
    flights := by
      intro flight member id header answers isReply
      rw [source] at isReply
      exact consistent.flights_move moved replies member answers isReply
    delivered := fun delivery member header payload isReply =>
      consistent.delivered_move moved member isReply }

/-- A request is handled. -/
theorem handle {id : CallId} {call : Call} {after : S} {reply : Reply}
    (consistent : service.Consistent devices state)
    (found : service.session.world.calls[id]? = some call)
    (isWritten : id ∈ service.session.world.written) (isNew : id ∉ service.order)
    (handled : (devices call.request.target).handle service.state call.request.cmd
      call.request.payloadBufs.flatten = (after, reply)) :
    Consistent devices state { service with
      state := after
      handled := service.handled ++ [⟨id, call.request, reply⟩] } where
  session := consistent.session
  assembled := consistent.assembled
  short := consistent.short
  taken := consistent.taken
  once := by
    rw [order, List.map_append]
    refine consistent.once.append (List.nodup_singleton _) fun other old same => ?_
    rw [List.mem_singleton.mp same] at old
    exact isNew old
  received := by
    intro entry member
    rcases List.mem_append.mp member with old | isLast
    · exact consistent.received entry old
    · rw [List.mem_singleton.mp isLast]
      exact ⟨isWritten, call, found, rfl⟩
  replayed := by
    obtain ⟨last, ran, server⟩ := consistent.replayed
    rw [← server] at handled
    have exchanged : issue devices service.session.world.source call.request last =
        (settled call.request.cmd call.request.resultBufs reply,
          last.exchanged after call.request.cmd call.request.payloadBufs.flatten) :=
      communicate_run (consistent.short id call found isWritten) handled
    refine ⟨last.exchanged after call.request.cmd call.request.payloadBufs.flatten, ?_, rfl⟩
    rw [requests, List.map_append, List.map_append]
    exact inSequence_concat ran exchanged
  flights := by
    intro flight member id header answers isReply
    obtain ⟨entry, old, same⟩ := consistent.flights flight member id header answers isReply
    exact ⟨entry, List.mem_append_left _ old, same⟩
  delivered := by
    intro delivery member header payload isReply
    obtain ⟨entry, old, same⟩ := consistent.delivered delivery member header payload isReply
    exact ⟨entry, List.mem_append_left _ old, same⟩

theorem step {act : Act} {next : Service S} (consistent : service.Consistent devices state)
    (step : service.step devices act = some next) : next.Consistent devices state := by
  rcases step_eq_some step with ⟨move, session, moved, rfl, replies⟩ |
    ⟨id, call, after, reply, found, isWritten, isNew, handled, rfl⟩
  · exact consistent.move moved replies
  · exact consistent.handle found isWritten isNew handled

theorem of_run {source : AmsAddr} {readTimeout : Bool} {acts : List Act}
    (run : Run (Service.step devices) (Service.initial source readTimeout state) acts service) :
    service.Consistent devices state :=
  run.invariant (.initial devices source readTimeout state)
    fun _ _ _ consistent step => consistent.step step

/-- A call that took a reply returned the outcome of its own request, which was
handled. -/
theorem outcome_of_replied (consistent : service.Consistent devices state) {id : CallId}
    {call : Call} (found : service.session.world.calls[id]? = some call)
    (replied : call.Replied) :
    ∃ entry ∈ service.handled, entry.call = id ∧ call.stage = .done entry.outcome := by
  obtain ⟨⟨header, payload⟩, channel⟩ := replied
  have history := (consistent.session.world.calls id call found).history
  rw [channel] at history
  have sent : .ok (header, payload) ∈ service.session.world.deliveriesTo id := by
    rw [history]
    exact List.mem_singleton_self _
  obtain ⟨delivery, member, isReply⟩ := List.mem_map.mp sent
  obtain ⟨isDelivery, same⟩ := List.mem_filter.mp member
  rw [decide_eq_true_eq] at same
  obtain ⟨entry, isHandled, isCall, answered⟩ :=
    consistent.delivered delivery isDelivery header payload isReply
  have own := isCall.trans same
  obtain ⟨-, call', found', request⟩ := consistent.received entry isHandled
  rw [own] at found'
  cases found.symm.trans found'
  have number := consistent.session.world.numbers id call found
  refine ⟨entry, isHandled, own, ?_⟩
  rw [Handled.AnsweredBy, own, ← number, ← request] at answered
  rw [← answered]
  exact consistent.taken id call header payload found channel

/-- A call that succeeded took a reply. -/
theorem replied_of_ok (consistent : service.Consistent devices state) {id : CallId}
    {call : Call} {received : Received}
    (found : service.session.world.calls[id]? = some call)
    (succeeded : call.stage = .done (.ok received)) : call.Replied := by
  have fits := (consistent.session.world.calls id call found).stage
  rw [succeeded] at fits
  obtain ⟨header, payload, channel, -⟩ := fits.2 received rfl
  exact ⟨_, channel⟩

end Consistent

end Service

/-! ## The order -/

/-- The places of two entries, of which only the first is in the front of a list. -/
theorem place_lt_of_prefix {α : Type} {front whole : List α} (isFront : front <+: whole)
    (once : whole.Nodup) {first second : α} (before : first ∈ front) (after : second ∉ front)
    {i j : Nat} (isFirst : whole[i]? = some first) (isSecond : whole[j]? = some second) :
    i < j := by
  obtain ⟨rest, rfl⟩ := isFront
  obtain ⟨k, inFront⟩ := List.mem_iff_getElem?.mp before
  have below := (List.getElem?_eq_some_iff.mp inFront).1
  have here : (front ++ rest)[k]? = some first := by
    rw [List.getElem?_append_left below, inFront]
  have same : i = k := by
    have inRange := (List.getElem?_eq_some_iff.mp isFirst).1
    exact (List.getElem?_inj inRange once).mp (isFirst.trans here.symm)
  have beyond : front.length ≤ j := by
    by_contra inside
    rw [List.getElem?_append_left (Nat.lt_of_not_le inside)] at isSecond
    exact after (List.mem_of_getElem? isSecond)
  rw [same]
  exact Nat.lt_of_lt_of_le below beyond

/-- What the calls of a service come to, seen from the requests that its peer has
handled. -/
structure Linearized {S : Type} (devices : Devices S) (source : AmsAddr) (state : S)
    (service : Service S) : Prop where
  /-- No request is handled twice, and none that was not written. -/
  once : service.order.Nodup
  written : ∀ id ∈ service.order, id ∈ service.session.world.written
  requests : ∀ (place : Nat) (id : CallId) (call : Call), service.order[place]? = some id →
    service.session.world.calls[id]? = some call → service.requests[place]? = some call.request
  /-- Issued alone in that order, the requests lead to the state of the peer, and have the
  outcomes that the calls returned. -/
  outcomes : ∃ (outcomes : List (Outcome Error Received)) (last : Link S),
    inSequence (issue devices source) service.requests ⟨1, state, []⟩ = (outcomes, last) ∧
      last.server = service.state ∧
      ∀ (id : CallId) (call : Call), service.session.world.calls[id]? = some call →
        call.Replied → ∃ (place : Nat) (outcome : Outcome Error Received),
          service.order[place]? = some id ∧ outcomes[place]? = some outcome ∧
            call.stage = .done outcome
  succeeded : ∀ (id : CallId) (call : Call) received,
    service.session.world.calls[id]? = some call → call.stage = .done (.ok received) →
      call.Replied

theorem Service.Consistent.linearized {S : Type} {devices : Devices S} {state : S}
    {service : Service S} (consistent : service.Consistent devices state) :
    Linearized devices service.session.world.source state service where
  once := consistent.once
  written := by
    intro id member
    obtain ⟨entry, isHandled, rfl⟩ := List.mem_map.mp member
    exact (consistent.received entry isHandled).1
  requests := by
    intro place id call isPlace found
    rw [Service.order, List.getElem?_map, Option.map_eq_some_iff] at isPlace
    obtain ⟨entry, isEntry, rfl⟩ := isPlace
    obtain ⟨-, call', found', request⟩ :=
      consistent.received entry (List.mem_of_getElem? isEntry)
    cases found.symm.trans found'
    rw [Service.requests, List.getElem?_map, isEntry, request]
    rfl
  outcomes := by
    obtain ⟨last, ran, server⟩ := consistent.replayed
    refine ⟨_, last, ran, server, fun id call found replied => ?_⟩
    obtain ⟨entry, isHandled, own, returned⟩ := consistent.outcome_of_replied found replied
    obtain ⟨place, isEntry⟩ := List.mem_iff_getElem?.mp isHandled
    refine ⟨place, entry.outcome, ?_, ?_, returned⟩
    · rw [Service.order, List.getElem?_map, isEntry, ← own]
      rfl
    · rw [List.getElem?_map, isEntry]
      rfl
  succeeded := fun _ _ _ found succeeded => consistent.replied_of_ok found succeeded

/-- Concurrent calls are linearizable.  Against a peer that handles written requests one
at a time and answers them in any order, with any well-formed frames in between that are no
replies, and as long as calls start under free invoke ids, the calls that took a reply
returned what the requests return that are issued alone in the order in which they were
handled; and a call that took its reply before another was started comes before it in
that order. -/
theorem linearizable {S : Type} {devices : Devices S} {source : AmsAddr} {readTimeout : Bool}
    {state : S} {acts : List Service.Act} {service : Service S}
    (run : Run (Service.step devices) (.initial source readTimeout state) acts service) :
    Linearized devices source state service ∧
      ∀ prior later middle, acts = prior ++ later →
        Run (Service.step devices) (.initial source readTimeout state) prior middle →
        ∀ (first second : CallId) (call : Call), middle.session.world.calls[first]? = some call →
          call.Replied → middle.session.world.calls.length ≤ second →
          ∀ i j : Nat, service.order[i]? = some first → service.order[j]? = some second →
            i < j := by
  have consistent := Service.Consistent.of_run run
  constructor
  · have same : service.session.world.source = source := by
      refine @Run.invariant _ _ (Service.step devices) _ service acts
        (fun service => service.session.world.source = source) run rfl ?_
      intro before act after same taken
      rcases Service.step_eq_some taken with ⟨move, session, moved, rfl, -⟩ |
        ⟨_, _, _, _, -, -, -, -, rfl⟩
      · obtain ⟨label, stepped, -⟩ := Session.world_step moved
        exact (World.step_frames stepped).source.trans same
      · exact same
    have linearized := consistent.linearized
    rwa [same] at linearized
  · intro prior later middle equal first id other call found replied fresh i j isFirst isSecond
    subst equal
    obtain ⟨reached, run', rest⟩ := run.split
    cases first.deterministic run'
    have before := Service.Consistent.of_run first
    have isFront : middle.order <+: service.order := (Service.handled_of_run rest).map _
    apply place_lt_of_prefix isFront consistent.once _ _ isFirst isSecond
    · obtain ⟨entry, isHandled, rfl, -⟩ := before.outcome_of_replied found replied
      exact List.mem_map_of_mem isHandled
    · intro member
      obtain ⟨entry, isHandled, rfl⟩ := List.mem_map.mp member
      obtain ⟨-, call', found', -⟩ := before.received entry isHandled
      have below := (List.getElem?_eq_some_iff.mp found').1
      exact Nat.lt_irrefl _ (Nat.lt_of_lt_of_le below fresh)

/-- A device that counts the requests it handles, and returns the count. -/
def counter : Server Nat where
  handle count _ _ :=
    (count + 1, ⟨0, u32Bytes 0 ++ u32Bytes (UInt32.ofNat (count + 1))⟩)

/-- A read of four bytes. -/
def countRead : Request :=
  ⟨.read, ⟨.new 2 2 2 2 2 2, 851⟩, [], [[0, 0, 0, 0]]⟩

/-- The second of two calls is handled first, and answered last. -/
def overtaking : List Service.Act :=
  [.client (.start countRead), .client (.insert 0), .client (.write 0 none),
    .client (.start countRead), .client (.insert 1), .client (.write 1 none),
    .handle 1, .handle 0, .reply 1, .reply 0, .client (.turn none), .client (.turn none),
    .client (.receive 0), .client (.receive 1)]

theorem overtaking_linearized :
    ∃ service, execute (Service.step fun _ => counter) (.initial ⟨.localId, 1⟩ true 0)
        overtaking = some service ∧
      service.order = [1, 0] ∧
      (∃ call, service.session.world.calls[0]? = some call ∧
        call.stage = .done (.ok ⟨4, [[2, 0, 0, 0]]⟩)) ∧
      Linearized (fun _ => counter) ⟨.localId, 1⟩ 0 service := by
  have run : Run (Service.step fun _ => counter) (.initial ⟨.localId, 1⟩ true 0) overtaking _ :=
    .of_execute rfl
  exact ⟨_, rfl, rfl, ⟨_, rfl, rfl⟩, (linearizable run).1⟩

end Ads.Client
