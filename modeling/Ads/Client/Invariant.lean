import Ads.Client.Steps

/-!
# The invariant of concurrent calls

Which entry, channel, stage and history of a call can stand together, whatever
the order of the threads' steps.
-/

namespace Ads.Client

open Ads.Control Ads.Notif Ads.Transition

/-! ## The invariant -/

/-- The messages sent into the channel of a call, from the history. -/
def World.deliveriesTo (world : World) (id : CallId) : List Message :=
  (world.deliveries.filter (·.call = id)).map Delivery.message

/-- Another call has the same invoke id. -/
def World.Reused (world : World) (id : CallId) (invokeId : UInt32) : Prop :=
  ∃ other state, other ≠ id ∧ world.calls[other]? = some state ∧ state.invokeId = invokeId

/-- The call's sender is in the pending map. -/
def World.Registered (world : World) (id : CallId) (call : Call) : Prop :=
  world.pending.lookup call.invokeId = some id

/-- The reader has not failed the pending requests yet. -/
def World.NotDrained (world : World) : Prop :=
  ∀ error, world.reader ≠ .drained error

/-- What holds of a call at each of its stages. -/
def Stage.Fits (world : World) (id : CallId) (call : Call) : Stage → Prop
  | numbered _ => call.channel = .empty ∧ id ∉ world.written ∧ ¬ world.Registered id call
  | registered _ => id ∉ world.written ∧ (∀ message, call.channel ≠ .taken message) ∧
      (call.channel = .empty → world.Registered id call)
  | waiting => id ∈ world.written ∧ (∀ message, call.channel ≠ .taken message) ∧
      (call.channel = .empty → world.Registered id call ∧ world.NotDrained)
  | givingUp _ => id ∈ world.written ∧
      (call.channel = .empty → world.Registered id call ∧ world.NotDrained)
  | done result => (world.Registered id call → id ∉ world.written) ∧
      ∀ received, result = .ok received → ∃ header payload,
        call.channel = .taken (.ok (header, payload)) ∧
          settleReply call.request call.invokeId header payload = .ok received

/-- What can stand together in the state of one call. -/
structure Call.Consistent (world : World) (id : CallId) (call : Call) : Prop where
  stage : call.stage.Fits world id call
  /-- A sender in the map has not sent. -/
  registered : world.Registered id call → call.channel = .empty
  disconnected : call.channel = .disconnected →
    call.stage.isDone = true ∨ world.Reused id call.invokeId
  reply : ∀ header payload, .ok (header, payload) ∈ call.channel.messages →
    header.invokeId = call.invokeId
  failure : ∀ error, .error error ∈ call.channel.messages → world.reader = .drained error
  history : world.deliveriesTo id = call.channel.messages

/-- The invariant of the client. -/
structure World.Consistent (world : World) : Prop where
  counter : world.invokeId = UInt32.ofNat (1 + world.calls.length)
  numbers : ∀ (id : CallId) (call : Call), world.calls[id]? = some call →
    call.invokeId = UInt32.ofNat (1 + id)
  entries : ∀ invokeId id, world.pending.lookup invokeId = some id →
    ∃ call, world.calls[id]? = some call ∧ call.invokeId = invokeId
  calls : ∀ (id : CallId) (call : Call), world.calls[id]? = some call →
    call.Consistent world id
  written : ∀ id ∈ world.written, id < world.calls.length
  deliveries : ∀ delivery ∈ world.deliveries, delivery.call < world.calls.length
  /-- Only the reader's error comes from no frame. -/
  origin : ∀ delivery ∈ world.deliveries, delivery.frame = none →
    ∃ error, delivery.message = .error error
  socket : world.socketOpen = true ↔
    ∀ error, world.reader ≠ .shutDown error ∧ world.reader ≠ .drained error
  frames : ∀ frame ∈ world.deliveries.filterMap Delivery.frame, frame < world.turns
  framesOnce : (world.deliveries.filterMap Delivery.frame).Nodup

namespace Call.Consistent

/-- A call stays consistent while nothing that concerns it changes. -/
theorem frame {world after : World} {id : CallId} {call : Call}
    (consistent : call.Consistent world id)
    (registered : after.Registered id call ↔ world.Registered id call)
    (written : id ∈ after.written ↔ id ∈ world.written)
    (reader : after.reader = world.reader)
    (reused : world.Reused id call.invokeId → after.Reused id call.invokeId)
    (history : after.deliveriesTo id = world.deliveriesTo id) :
    call.Consistent after id where
  stage := by
    have fits := consistent.stage
    cases at_ : call.stage <;> rw [at_] at fits <;>
      simpa only [Stage.Fits, registered, written, World.NotDrained, reader] using fits
  registered := by simpa only [registered] using consistent.registered
  disconnected := fun gone => (consistent.disconnected gone).imp_right reused
  reply := consistent.reply
  failure := by simpa only [reader] using consistent.failure
  history := history.trans consistent.history

/-- An error that waits in a call's channel is the one of the clean-up. -/
theorem drained_of_full {world : World} {id : CallId} {call : Call} {error : Error}
    (consistent : call.Consistent world id) (full : call.channel = .full (.error error)) :
    world.reader = .drained error := by
  apply consistent.failure
  rw [full]
  exact List.mem_singleton_self _

end Call.Consistent

namespace World

/-- What the map still has after an entry is taken off was there before, under another
invoke id. -/
theorem lookup_of_erase {pending : PendingMap} {gone invokeId : UInt32} {id : CallId}
    (entry : (pending.erase gone).lookup invokeId = some id) :
    invokeId ≠ gone ∧ pending.lookup invokeId = some id := by
  by_cases same : invokeId = gone
  · rw [same, AList.lookup_erase] at entry
    cases entry
  · exact ⟨same, AList.lookup_erase_ne same ▸ entry⟩

/-- Each call changes on its own, and keeps its invoke id. -/
structure Rewrites (world after : World) (change : CallId → Call → Call) : Prop where
  calls : ∀ id : CallId, after.calls[id]? = (world.calls[id]?).map (change id)
  length : after.calls.length = world.calls.length
  invokeId : ∀ id call, (change id call).invokeId = call.invokeId
  counter : after.invokeId = world.invokeId

variable {world after : World} {change : CallId → Call → Call}

/-- A step that changes one call. -/
theorem rewrites_modifyCall {call : CallId} {edit : Call → Call}
    (calls : after.calls = (world.modifyCall call edit).calls)
    (counter : after.invokeId = world.invokeId)
    (keeps : ∀ state : Call, (edit state).invokeId = state.invokeId) :
    world.Rewrites after fun id state => if id = call then edit state else state where
  calls := by
    intro id
    rw [calls, getElem?_modifyCall]
    simp only [eq_comm]
  length := by rw [calls, length_modifyCall]
  invokeId := by
    intro id state
    split
    · exact keeps state
    · rfl
  counter := counter

/-- A step that changes one call after dropping the sender under an invoke id. -/
theorem rewrites_dropSender {call : CallId} {invokeId : UInt32} {edit : Call → Call}
    (calls : after.calls = ((world.dropSender invokeId).modifyCall call edit).calls)
    (counter : after.invokeId = world.invokeId)
    (keeps : ∀ state : Call, (edit state).invokeId = state.invokeId) :
    world.Rewrites after fun id state =>
      if id = call then edit (if world.pending.lookup invokeId = some id then
        state.disconnect else state)
      else if world.pending.lookup invokeId = some id then state.disconnect else state where
  calls := by
    intro id
    rw [calls, getElem?_modifyCall, getElem?_dropSender, Option.map_map]
    simp only [Function.comp_def, eq_comm]
  length := by rw [calls, length_modifyCall, length_dropSender]
  invokeId := by
    intro id state
    split
    · rw [keeps]
      split
      · exact state.invokeId_disconnect
      · rfl
    · split
      · exact state.invokeId_disconnect
      · rfl
  counter := counter

theorem Rewrites.reused (rewrites : world.Rewrites after change) {id : CallId}
    {invokeId : UInt32} (reused : world.Reused id invokeId) : after.Reused id invokeId := by
  obtain ⟨other, state, distinct, found, same⟩ := reused
  refine ⟨other, change other state, distinct, ?_, ?_⟩
  · rw [rewrites.calls, found, Option.map_some]
  · rw [rewrites.invokeId, same]

namespace Consistent

theorem initial (source : AmsAddr) (readTimeout : Bool) :
    (World.initial source readTimeout).Consistent where
  counter := rfl
  numbers := by simp [World.initial]
  entries := by simp [World.initial]
  calls := by simp [World.initial]
  written := by simp [World.initial]
  deliveries := by simp [World.initial]
  origin := by simp [World.initial]
  socket := by simp [World.initial]
  frames := by simp [World.initial]
  framesOnce := by simp [World.initial]

/-- What is left to check of a step that changes each call on its own. -/
theorem rewrite (consistent : world.Consistent) (rewrites : world.Rewrites after change)
    (calls : ∀ (id : CallId) (call : Call), world.calls[id]? = some call →
      (change id call).Consistent after id)
    (entries : ∀ invokeId id, after.pending.lookup invokeId = some id →
      ∃ call, world.calls[id]? = some call ∧ call.invokeId = invokeId)
    (written : ∀ id ∈ after.written, id < world.calls.length)
    (deliveries : ∀ delivery ∈ after.deliveries, delivery.call < world.calls.length)
    (origin : ∀ delivery ∈ after.deliveries, delivery.frame = none →
      ∃ error, delivery.message = .error error)
    (socket : after.socketOpen = true ↔
      ∀ error, after.reader ≠ .shutDown error ∧ after.reader ≠ .drained error)
    (frames : ∀ frame ∈ after.deliveries.filterMap Delivery.frame, frame < after.turns)
    (framesOnce : (after.deliveries.filterMap Delivery.frame).Nodup) : after.Consistent where
  counter := by rw [rewrites.counter, rewrites.length, consistent.counter]
  numbers := by
    intro id call found
    rw [rewrites.calls, Option.map_eq_some_iff] at found
    obtain ⟨old, found, rfl⟩ := found
    rw [rewrites.invokeId, consistent.numbers id old found]
  entries := by
    intro invokeId id registered
    obtain ⟨call, found, same⟩ := entries invokeId id registered
    refine ⟨change id call, ?_, by rw [rewrites.invokeId, same]⟩
    rw [rewrites.calls, found, Option.map_some]
  calls := by
    intro id call found
    rw [rewrites.calls, Option.map_eq_some_iff] at found
    obtain ⟨old, found, rfl⟩ := found
    exact calls id old found
  written := by rwa [rewrites.length]
  deliveries := by rwa [rewrites.length]
  origin := origin
  socket := socket
  frames := frames
  framesOnce := framesOnce

end Consistent

end World

/-! ## Each step keeps the invariant -/

namespace Call.Consistent

variable {world after : World} {id : CallId} {call : Call}

/-- A registered call that loses its sender finds its channel closed. -/
theorem disconnect_eq (consistent : call.Consistent world id)
    (registered : world.Registered id call) :
    call.disconnect = { call with channel := .disconnected } := by
  rw [disconnect, consistent.registered registered]

/-- A call whose sender is dropped from the map. -/
theorem displace (consistent : call.Consistent world id) (was : world.Registered id call)
    (gone : ¬ after.Registered id call) (written : id ∈ after.written ↔ id ∈ world.written)
    (reused : call.stage.isDone = true ∨ after.Reused id call.invokeId)
    (history : after.deliveriesTo id = world.deliveriesTo id) :
    call.disconnect.Consistent after id := by
  have empty := consistent.registered was
  have fits := consistent.stage
  have silent := consistent.history
  rw [empty] at silent
  rw [consistent.disconnect_eq was]
  exact {
    stage := by
      cases at_ : call.stage <;> rw [at_] at fits <;>
        simp_all [Stage.Fits, World.Registered]
    registered := fun inMap => absurd inMap gone
    disconnected := fun _ => reused
    reply := by simp [Channel.messages]
    failure := by simp [Channel.messages]
    history := history.trans silent }

/-- A call whose sender is taken off the map and sends it a message. -/
theorem deliver {message : Message} (consistent : call.Consistent world id)
    (was : world.Registered id call) (active : call.stage.isDone = false)
    (gone : ¬ after.Registered id call) (written : id ∈ after.written ↔ id ∈ world.written)
    (reply : ∀ header payload, message = .ok (header, payload) →
      header.invokeId = call.invokeId)
    (failure : ∀ error, message = .error error → after.reader = .drained error)
    (history : after.deliveriesTo id = world.deliveriesTo id ++ [message]) :
    (call.deliver message).Consistent after id := by
  have fits := consistent.stage
  exact {
    stage := by
      rw [Call.deliver]
      cases at_ : call.stage with
      | numbered requestBuf =>
          rw [at_] at fits
          exact absurd was fits.2.2
      | registered requestBuf =>
          rw [at_] at fits
          exact ⟨fun member => fits.1 (written.mp member), by simp, by simp⟩
      | waiting =>
          rw [at_] at fits
          exact ⟨written.mpr fits.1, by simp, by simp⟩
      | givingUp error =>
          rw [at_] at fits
          exact ⟨written.mpr fits.1, by simp⟩
      | done result => simp [at_, Stage.isDone] at active
    registered := fun inMap => absurd inMap gone
    disconnected := by simp [Call.deliver]
    reply := by
      intro header payload member
      exact reply header payload (List.mem_singleton.mp member).symm
    failure := by
      intro error member
      exact failure error (List.mem_singleton.mp member).symm
    history := by
      rw [history, consistent.history, consistent.registered was]
      rfl }

/-- A call that moves on to a stage that fits it, with nothing else changed that
concerns it. -/
theorem proceed {stage : Stage} (consistent : call.Consistent world id)
    (fits : stage.Fits after id (call.proceed stage))
    (pending : after.pending = world.pending) (reader : after.reader = world.reader)
    (deliveries : after.deliveries = world.deliveries)
    (finished : call.stage.isDone = true → stage.isDone = true)
    (reused : world.Reused id call.invokeId → after.Reused id call.invokeId) :
    (call.proceed stage).Consistent after id where
  stage := fits
  registered := by
    rw [World.Registered, pending]
    exact consistent.registered
  disconnected := fun gone => (consistent.disconnected gone).imp finished reused
  reply := consistent.reply
  failure := by
    rw [reader]
    exact consistent.failure
  history := by
    rw [World.deliveriesTo, deliveries]
    exact consistent.history

/-- A call that keeps its entry in the map, if it had one and has not returned. -/
theorem prune (consistent : call.Consistent world id)
    (entry : after.Registered id call → world.Registered id call)
    (kept : world.Registered id call → call.stage.isDone = false →
      after.Registered id call ∧ after.NotDrained)
    (written : after.written = world.written) (notDrained : world.NotDrained)
    (reused : world.Reused id call.invokeId → after.Reused id call.invokeId)
    (history : after.deliveriesTo id = world.deliveriesTo id) : call.Consistent after id where
  stage := by
    have fits := consistent.stage
    cases at_ : call.stage with
    | numbered requestBuf =>
        rw [at_] at fits
        rw [Stage.Fits, written]
        exact ⟨fits.1, fits.2.1, fun inMap => fits.2.2 (entry inMap)⟩
    | registered requestBuf =>
        rw [at_] at fits kept
        rw [Stage.Fits, written]
        exact ⟨fits.1, fits.2.1, fun empty => (kept (fits.2.2 empty) rfl).1⟩
    | waiting =>
        rw [at_] at fits kept
        rw [Stage.Fits, written]
        exact ⟨fits.1, fits.2.1, fun empty => kept (fits.2.2 empty).1 rfl⟩
    | givingUp error =>
        rw [at_] at fits kept
        rw [Stage.Fits, written]
        exact ⟨fits.1, fun empty => kept (fits.2 empty).1 rfl⟩
    | done result =>
        rw [at_] at fits
        rw [Stage.Fits, written]
        exact ⟨fun inMap => fits.1 (entry inMap), fits.2⟩
  registered := fun inMap => consistent.registered (entry inMap)
  disconnected := fun gone => (consistent.disconnected gone).imp_right reused
  reply := consistent.reply
  failure := fun error sent => absurd (consistent.failure error sent) (notDrained error)
  history := history.trans consistent.history

end Call.Consistent

namespace World.Consistent

variable {world after : World} {call : CallId} {state : Call} {revise : Call → Call}

/-- A step that changes one call and leaves the map alone. -/
theorem edit (consistent : world.Consistent) (found : world.calls[call]? = some state)
    (calls : after.calls = (world.modifyCall call revise).calls)
    (counter : after.invokeId = world.invokeId)
    (keeps : ∀ state : Call, (revise state).invokeId = state.invokeId)
    (pending : after.pending = world.pending) (reader : after.reader = world.reader)
    (socket : after.socketOpen = world.socketOpen) (turns : after.turns = world.turns)
    (deliveries : after.deliveries = world.deliveries)
    (written : ∀ id, id ∈ after.written → id ∈ world.written ∨ id = call)
    (kept : ∀ id, id ∈ world.written → id ∈ after.written)
    (self : (∀ id invokeId, world.Reused id invokeId → after.Reused id invokeId) →
      (revise state).Consistent after call) : after.Consistent := by
  have rewrites := World.rewrites_modifyCall calls counter keeps
  refine consistent.rewrite rewrites ?calls ?entries ?written ?deliveries ?origin ?socket
    ?frames ?framesOnce
  case calls =>
    intro id old isOld
    have consistentOld := consistent.calls id old isOld
    by_cases same : id = call
    · subst same
      cases found.symm.trans isOld
      rw [if_pos rfl]
      exact self fun _ _ => rewrites.reused
    · rw [if_neg same]
      refine consistentOld.frame (by rw [Registered, pending, Registered])
        ⟨fun member => ?_, kept id⟩ reader rewrites.reused
        (by rw [deliveriesTo, deliveries, deliveriesTo])
      exact (written id member).resolve_right same
  case entries =>
    rw [pending]
    exact consistent.entries
  case written =>
    intro id member
    rcases written id member with old | rfl
    · exact consistent.written id old
    · exact (List.getElem?_eq_some_iff.mp found).1
  case deliveries =>
    rw [deliveries]
    exact consistent.deliveries
  case origin =>
    rw [deliveries]
    exact consistent.origin
  case socket =>
    rw [socket, reader]
    exact consistent.socket
  case frames =>
    rw [deliveries, turns]
    exact consistent.frames
  case framesOnce =>
    rw [deliveries]
    exact consistent.framesOnce

/-- A step that changes one call, and takes the sender under its invoke id off
the map, with or without its own in return. -/
theorem replaceSender {pending : PendingMap} (consistent : world.Consistent)
    (found : world.calls[call]? = some state)
    (keeps : ∀ state : Call, (revise state).invokeId = state.invokeId)
    (elsewhere : ∀ invokeId, invokeId ≠ state.invokeId →
      pending.lookup invokeId = world.pending.lookup invokeId)
    (here : ∀ id, pending.lookup state.invokeId = some id → id = call)
    (self : (revise (if world.pending.lookup state.invokeId = some call then state.disconnect
      else state)).Consistent
        { (world.dropSender state.invokeId).modifyCall call revise with pending } call) :
    World.Consistent { (world.dropSender state.invokeId).modifyCall call revise with pending } := by
  have rewrites : world.Rewrites
      { (world.dropSender state.invokeId).modifyCall call revise with pending } _ :=
    World.rewrites_dropSender rfl rfl keeps
  refine consistent.rewrite rewrites ?calls ?entries consistent.written consistent.deliveries
    consistent.origin consistent.socket consistent.frames consistent.framesOnce
  case calls =>
    intro id old isOld
    have consistentOld := consistent.calls id old isOld
    by_cases same : id = call
    · subst same
      cases found.symm.trans isOld
      rwa [if_pos rfl]
    · rw [if_neg same]
      by_cases displaced : world.pending.lookup state.invokeId = some id
      · rw [if_pos displaced]
        obtain ⟨_, isOld', shared⟩ := consistent.entries _ _ displaced
        cases isOld.symm.trans isOld'
        refine consistentOld.displace (by rwa [Registered, shared]) ?_ Iff.rfl (.inr ?_) rfl
        · rw [Registered, shared]
          exact fun registered => same (here id registered)
        · exact rewrites.reused ⟨call, state, fun equal => same equal.symm, found, shared.symm⟩
      · rw [if_neg displaced]
        refine consistentOld.frame ?_ Iff.rfl rfl rewrites.reused rfl
        unfold Registered
        by_cases shared : old.invokeId = state.invokeId
        · rw [shared]
          exact iff_of_false (fun registered => same (here id registered)) displaced
        · exact iff_of_eq (congrArg (· = some id) (elsewhere _ shared))
  case entries =>
    intro invokeId id registered
    by_cases shared : invokeId = state.invokeId
    · subst shared
      cases here id registered
      exact ⟨state, found, rfl⟩
    · rw [elsewhere invokeId shared] at registered
      exact consistent.entries _ _ registered

theorem insert (consistent : world.Consistent) (step : world.insert call = some after) :
    after.Consistent := by
  obtain ⟨state, requestBuf, found, numbered, rfl⟩ := World.insert_eq_some step
  have before := consistent.calls call state found
  have fits := before.stage
  rw [numbered] at fits
  obtain ⟨empty, unwritten, absent⟩ := fits
  refine consistent.replaceSender found (fun _ => rfl)
    (fun _ other => AList.lookup_insert_ne other) (fun id registered => ?_) ?self
  case self =>
    have notInMap : ¬ world.pending.lookup state.invokeId = some call := absent
    rw [if_neg notInMap]
    exact {
      stage := ⟨unwritten, by simp [Call.proceed, empty], fun _ => AList.lookup_insert _⟩
      registered := fun _ => empty
      disconnected := by simp [Call.proceed, empty]
      reply := before.reply
      failure := before.failure
      history := before.history }
  · rw [AList.lookup_insert] at registered
    exact (Option.some.inj registered).symm

theorem write {failure : Option (Nat × IoErrorKind)} (consistent : world.Consistent)
    (step : world.write call failure = some after) : after.Consistent := by
  obtain ⟨state, requestBuf, found, registered, written⟩ := World.write_eq_some step
  have before := consistent.calls call state found
  have fits := before.stage
  rw [registered] at fits
  obtain ⟨unwritten, untaken, inMap⟩ := fits
  rcases written with ⟨-, isOpen, rfl⟩ | ⟨count, kind, -, rfl⟩
  · refine consistent.edit found rfl rfl (fun _ => rfl) rfl rfl rfl rfl rfl
      (fun id member => by simpa using member)
      (fun id member => List.mem_append_left _ member)
      fun reused => before.proceed ?_ rfl rfl rfl (by simp [registered, Stage.isDone])
        (reused _ _)
    refine ⟨List.mem_append_right _ List.mem_cons_self, untaken, fun empty => ?_⟩
    exact ⟨inMap empty, fun error => (consistent.socket.mp isOpen error).2⟩
  · exact consistent.edit found rfl rfl (fun _ => rfl) rfl rfl rfl rfl rfl
      (fun id member => .inl member) (fun id member => member)
      fun reused => before.proceed ⟨fun _ => unwritten, by simp⟩ rfl rfl rfl (fun _ => rfl)
        (reused _ _)

theorem receive (consistent : world.Consistent) (step : world.receive call = some after) :
    after.Consistent := by
  obtain ⟨state, found, waiting, received⟩ := World.receive_eq_some step
  have before := consistent.calls call state found
  have fits := before.stage
  rw [waiting] at fits
  obtain ⟨written, -, inMap⟩ := fits
  rcases received with ⟨message, full, rfl⟩ | ⟨gone, rfl⟩
  · refine consistent.edit found rfl rfl (fun _ => rfl) rfl rfl rfl rfl rfl
      (fun id member => .inl member) (fun id member => member) fun reused => ?_
    have messages : (state.take message).channel.messages = state.channel.messages := by
      rw [full]
      rfl
    have unregistered : ¬ world.Registered call state := fun registered => by
      have empty := before.registered registered
      simp [full] at empty
    exact {
      stage := by
        cases message with
        | error error => exact ⟨written, by simp [Call.take]⟩
        | ok frame =>
            refine ⟨fun registered => absurd registered unregistered, fun received isOk => ?_⟩
            exact ⟨frame.1, frame.2, rfl, isOk⟩
      registered := fun registered => absurd registered unregistered
      disconnected := by simp [Call.take]
      reply := by
        rw [messages]
        exact before.reply
      failure := by
        rw [messages]
        exact before.failure
      history := before.history.trans messages.symm }
  · exact consistent.edit found rfl rfl (fun _ => rfl) rfl rfl rfl rfl rfl
      (fun id member => .inl member) (fun id member => member)
      fun reused => before.proceed ⟨written, inMap⟩ rfl rfl rfl
        (by simp [waiting, Stage.isDone]) (reused _ _)

theorem timeout (consistent : world.Consistent) (step : world.timeout call = some after) :
    after.Consistent := by
  obtain ⟨state, found, waiting, -, -, rfl⟩ := World.timeout_eq_some step
  have before := consistent.calls call state found
  have fits := before.stage
  rw [waiting] at fits
  obtain ⟨written, -, inMap⟩ := fits
  exact consistent.edit found rfl rfl (fun _ => rfl) rfl rfl rfl rfl rfl
    (fun id member => .inl member) (fun id member => member)
    fun reused => before.proceed ⟨written, inMap⟩ rfl rfl rfl
      (by simp [waiting, Stage.isDone]) (reused _ _)

theorem discard (consistent : world.Consistent) (step : world.discard call = some after) :
    after.Consistent := by
  obtain ⟨state, error, found, givingUp, rfl⟩ := World.discard_eq_some step
  have before := consistent.calls call state found
  have gone : ∀ id, (world.pending.erase state.invokeId).lookup state.invokeId ≠ some id :=
    fun id entry => (lookup_of_erase entry).1 rfl
  refine consistent.replaceSender found (fun _ => rfl)
    (fun _ other => AList.lookup_erase_ne other)
    (fun id entry => absurd entry (gone id)) ?self
  case self =>
    by_cases registered : world.pending.lookup state.invokeId = some call
    · have empty := before.registered registered
      have silent := before.history
      rw [empty] at silent
      rw [if_pos registered, before.disconnect_eq registered]
      exact {
        stage := ⟨fun inMap => absurd inMap (gone call), by simp⟩
        registered := fun inMap => absurd inMap (gone call)
        disconnected := fun _ => .inl rfl
        reply := by simp [Call.proceed, Channel.messages]
        failure := by simp [Call.proceed, Channel.messages]
        history := silent }
    · rw [if_neg registered]
      exact {
        stage := ⟨fun inMap => absurd inMap (gone call), by simp⟩
        registered := fun inMap => absurd inMap (gone call)
        disconnected := fun _ => .inl rfl
        reply := before.reply
        failure := before.failure
        history := before.history }

/-- A step of the reader that neither sends a message nor changes a call. -/
theorem idle {pending : PendingMap} {reader : ReaderStage} {socketOpen : Bool}
    {incoming : List UInt8} {turns : Nat} {notifications : List Notification}
    (consistent : world.Consistent)
    (entries : ∀ invokeId id, pending.lookup invokeId = some id →
      world.pending.lookup invokeId = some id)
    (kept : ∀ invokeId id, world.pending.lookup invokeId = some id →
      world.receiving id = true → pending.lookup invokeId = some id)
    (notDrained : world.NotDrained) (notDrained' : ∀ error, reader ≠ .drained error)
    (socket : socketOpen = true ↔
      ∀ error, reader ≠ .shutDown error ∧ reader ≠ .drained error)
    (later : world.turns ≤ turns) :
    World.Consistent { world with
      pending, reader, socketOpen, incoming, turns, notifications } where
  counter := consistent.counter
  numbers := consistent.numbers
  entries := fun invokeId id registered => consistent.entries _ _ (entries _ _ registered)
  calls := by
    intro id call found
    refine (consistent.calls id call found).prune (fun inMap => entries _ _ inMap)
      (fun registered active => ⟨kept _ _ registered ?_, notDrained'⟩) rfl notDrained
      (fun reused => reused) rfl
    rw [@receiving_of_found world id call found, active]
    rfl
  written := consistent.written
  deliveries := consistent.deliveries
  origin := consistent.origin
  socket := socket
  frames := fun frame member => (consistent.frames frame member).trans_le later
  framesOnce := consistent.framesOnce

theorem shutdown (consistent : world.Consistent) (step : world.shutdown = some after) :
    after.Consistent := by
  obtain ⟨error, returned, rfl⟩ := World.shutdown_eq_some step
  exact consistent.idle (fun _ _ registered => registered) (fun _ _ registered _ => registered)
    (by simp [NotDrained, returned]) (by simp) (by simp) le_rfl

/-- A reply is handed to the call that is registered for it. -/
theorem deliver {header : AdsHeader} {payload rest : List UInt8} (consistent : world.Consistent)
    (registered : world.pending.lookup header.invokeId = some call)
    (receiving : world.receiving call = true) :
    World.Consistent { world.apply (.replied call header payload) with
      incoming := rest
      pending := world.pending.erase header.invokeId
      turns := world.turns + 1 } := by
  obtain ⟨state, found, same⟩ := consistent.entries _ _ registered
  have before := consistent.calls call state found
  have inMap : world.Registered call state := by rwa [Registered, same]
  have active : state.stage.isDone = false := by
    simpa [receiving_of_found found] using receiving
  have gone : ∀ id, (world.pending.erase header.invokeId).lookup state.invokeId ≠ some id :=
    fun id entry => (lookup_of_erase entry).1 same
  have rewrites : world.Rewrites
      { world.apply (.replied call header payload) with
        incoming := rest
        pending := world.pending.erase header.invokeId
        turns := world.turns + 1 } _ :=
    World.rewrites_modifyCall rfl rfl (fun _ => rfl)
  refine consistent.rewrite rewrites ?calls ?entries consistent.written ?deliveries ?origin
    consistent.socket ?frames ?framesOnce
  case calls =>
    intro id old isOld
    have consistentOld := consistent.calls id old isOld
    by_cases self : id = call
    · subst self
      cases found.symm.trans isOld
      rw [if_pos rfl]
      refine before.deliver inMap active (gone _) Iff.rfl ?_ (by simp) ?_
      · intro header' payload' equal
        cases equal
        exact same.symm
      · simp [deliveriesTo, World.apply]
    · rw [if_neg self]
      refine consistentOld.frame ?_ Iff.rfl rfl rewrites.reused ?_
      · unfold Registered
        refine ⟨fun entry => (lookup_of_erase entry).2, fun entry => ?_⟩
        have distinct : old.invokeId ≠ header.invokeId := by
          rintro shared
          rw [shared, registered] at entry
          exact self (Option.some.inj entry).symm
        rwa [AList.lookup_erase_ne distinct]
      · simp [deliveriesTo, World.apply, Ne.symm self]
  case entries =>
    intro invokeId id entry
    exact consistent.entries _ _ (lookup_of_erase entry).2
  case deliveries =>
    intro delivery member
    rcases List.mem_append.mp member with old | new
    · exact consistent.deliveries delivery old
    · rw [List.mem_singleton.mp new]
      exact (List.getElem?_eq_some_iff.mp found).1
  case origin =>
    intro delivery member unframed
    rcases List.mem_append.mp member with old | new
    · exact consistent.origin delivery old unframed
    · rw [List.mem_singleton.mp new] at unframed
      cases unframed
  case frames =>
    intro frame member
    rw [World.apply, List.filterMap_append, List.mem_append] at member
    rcases member with old | new
    · exact Nat.lt_succ_of_lt (consistent.frames frame old)
    · rw [List.mem_singleton.mp new]
      exact Nat.lt_succ_self _
  case framesOnce =>
    rw [World.apply, List.filterMap_append]
    refine consistent.framesOnce.append (List.nodup_singleton _) fun frame old new => ?_
    rw [List.mem_singleton.mp new] at old
    exact Nat.lt_irrefl _ (consistent.frames _ old)

theorem nodup_waiters (consistent : world.Consistent) : world.waiters.Nodup := by
  refine List.Nodup.filter _ (List.Nodup.map_on ?_ world.pending.nodupKeys.nodup)
  rintro ⟨first, id⟩ isFirst ⟨second, _⟩ isSecond rfl
  obtain ⟨call, found, sameFirst⟩ :=
    consistent.entries first id (AList.mem_lookup_iff.mpr isFirst)
  obtain ⟨call', found', sameSecond⟩ :=
    consistent.entries second id (AList.mem_lookup_iff.mpr isSecond)
  cases found.symm.trans found'
  rw [← sameFirst, ← sameSecond]

/-- A call in the pending map is known, and registered there. -/
theorem exists_of_mem_waiters (consistent : world.Consistent) (member : call ∈ world.waiters) :
    world.receiving call = true ∧
      ∃ state, world.calls[call]? = some state ∧ world.Registered call state := by
  obtain ⟨inMap, receiving⟩ := List.mem_filter.mp member
  obtain ⟨⟨invokeId, id⟩, entry, rfl⟩ := List.mem_map.mp inMap
  have registered := AList.mem_lookup_iff.mpr entry
  obtain ⟨state, found, same⟩ := consistent.entries invokeId id registered
  exact ⟨receiving, state, found, by rwa [Registered, same]⟩

/-- The drain reaches exactly the calls that are registered and have not
returned. -/
theorem mem_waiters_iff (consistent : world.Consistent) (found : world.calls[call]? = some state) :
    call ∈ world.waiters ↔ world.Registered call state ∧ state.stage.isDone = false := by
  constructor
  · intro member
    obtain ⟨receiving, _, found', registered⟩ := consistent.exists_of_mem_waiters member
    cases found.symm.trans found'
    exact ⟨registered, by simpa [receiving_of_found found] using receiving⟩
  · rintro ⟨registered, active⟩
    refine List.mem_filter.mpr ⟨List.mem_map.mpr ⟨⟨state.invokeId, call⟩, ?_, rfl⟩, ?_⟩
    · exact AList.mem_lookup_iff.mp registered
    · rw [receiving_of_found found, active]
      rfl

/-- The drain sends each waiter the error once. -/
theorem messages_to_waiters (consistent : world.Consistent) (error : Error) (id : CallId) :
    ((world.waiters.map fun call => (⟨call, .error error, none⟩ : Delivery)).filter
        (·.call = id)).map Delivery.message =
      if id ∈ world.waiters then [.error error] else [] := by
  have once : world.waiters.filter (fun call => decide (call = id)) =
      if id ∈ world.waiters then [id] else [] := by
    rw [List.filter_eq, consistent.nodup_waiters.count]
    split <;> rfl
  rw [List.filter_map, Function.comp_def, once]
  split <;> rfl

theorem drain (consistent : world.Consistent) (step : world.drain = some after) :
    after.Consistent := by
  obtain ⟨error, isShutDown, rfl⟩ := World.drain_eq_some step
  have rewrites : world.Rewrites
      { world with
        reader := .drained error
        calls := world.calls.mapIdx fun call state =>
          if call ∈ world.waiters then state.deliver (.error error) else state
        pending := ∅
        deliveries := world.deliveries ++
          world.waiters.map fun call => ⟨call, .error error, none⟩ }
      fun id state => if id ∈ world.waiters then state.deliver (.error error) else state := {
    calls := fun id => by simp
    length := by simp
    invokeId := by
      intro id state
      split <;> rfl
    counter := rfl }
  have unframed : (world.waiters.map fun call =>
      (⟨call, .error error, none⟩ : Delivery)).filterMap Delivery.frame = [] := by
    simp [List.filterMap_map]
  refine consistent.rewrite rewrites ?calls ?entries consistent.written ?deliveries ?origin
    ?socket ?frames ?framesOnce
  case calls =>
    intro id call found
    have before := consistent.calls id call found
    have isWaiter := consistent.mem_waiters_iff found
    have sentTo := consistent.messages_to_waiters error id
    by_cases member : id ∈ world.waiters
    · rw [if_pos member] at sentTo ⊢
      obtain ⟨registered, active⟩ := isWaiter.mp member
      refine before.deliver registered active (by simp [Registered]) Iff.rfl (by simp)
        (by simp) ?_
      rw [deliveriesTo, List.filter_append, List.map_append, sentTo]
      rfl
    · rw [if_neg member] at sentTo ⊢
      refine before.prune (by simp [Registered])
        (fun registered active => absurd (isWaiter.mpr ⟨registered, active⟩) member) rfl
        (by simp [NotDrained, isShutDown]) rewrites.reused ?_
      rw [deliveriesTo, List.filter_append, List.map_append, sentTo, List.append_nil]
      rfl
  case entries => simp
  case deliveries =>
    intro delivery member
    rcases List.mem_append.mp member with old | new
    · exact consistent.deliveries delivery old
    · obtain ⟨call, waiter, rfl⟩ := List.mem_map.mp new
      obtain ⟨-, _, found, -⟩ := consistent.exists_of_mem_waiters waiter
      exact (List.getElem?_eq_some_iff.mp found).1
  case origin =>
    intro delivery member unframed
    rcases List.mem_append.mp member with old | new
    · exact consistent.origin delivery old unframed
    · obtain ⟨call, -, rfl⟩ := List.mem_map.mp new
      exact ⟨error, rfl⟩
  case socket =>
    refine iff_of_false (fun isOpen => ?_) (fun none => (none error).2 rfl)
    exact (consistent.socket.mp isOpen error).1 isShutDown
  case frames =>
    rw [List.filterMap_append, unframed, List.append_nil]
    exact consistent.frames
  case framesOnce =>
    rw [List.filterMap_append, unframed, List.append_nil]
    exact consistent.framesOnce

theorem turn {socketEnd : Option IoErrorKind} (consistent : world.Consistent)
    (step : world.turn socketEnd = some after) : after.Consistent := by
  obtain ⟨running, turned⟩ := World.turn_eq_some step
  have notDrained : world.NotDrained := by simp [NotDrained, running]
  have isOpen : world.socketOpen = true := consistent.socket.mpr (by simp [running])
  rcases turned with ⟨rest, rfl⟩ | ⟨rest, notification, rfl⟩ |
    ⟨rest, call, header, payload, registered, receiving, rfl⟩ |
    ⟨error, pending, erased, rfl⟩ | rfl
  · exact consistent.idle (fun _ _ registered => registered)
      (fun _ _ registered _ => registered) notDrained notDrained consistent.socket
      (Nat.le_succ _)
  · exact consistent.idle (fun _ _ registered => registered)
      (fun _ _ registered _ => registered) notDrained notDrained consistent.socket
      (Nat.le_succ _)
  · exact consistent.deliver registered receiving
  · rcases erased with rfl | ⟨gone, call, registered, dropped, rfl⟩
    · exact consistent.idle (fun _ _ registered => registered)
        (fun _ _ registered _ => registered) notDrained (by simp) (by simp [isOpen]) le_rfl
    · refine consistent.idle (fun _ _ entry => (lookup_of_erase entry).2)
        (fun invokeId id entry receiving => ?_) notDrained (by simp) (by simp [isOpen]) le_rfl
      · by_cases same : invokeId = gone
        · rw [same, registered] at entry
          cases entry
          rw [dropped] at receiving
          cases receiving
        · rwa [AList.lookup_erase_ne same]
  · exact consistent.idle (fun _ _ registered => registered)
      (fun _ _ registered _ => registered) notDrained (by simp) (by simp [isOpen]) le_rfl

/-- The calls after a new one starts: the old ones, and the new one under the next
invoke id, which is numbered or has returned at once. -/
theorem found_start {request : Request} {id : CallId} {call : Call}
    (found : (world.start request).calls[id]? = some call) :
    world.calls[id]? = some call ∨ (id = world.calls.length ∧
      call.invokeId = world.invokeId ∧ call.channel = .empty ∧
      ((∃ requestBuf, call.stage = .numbered requestBuf) ∨
        call.stage = .done (.err .overflow))) := by
  rw [World.start] at found
  rcases Nat.lt_or_ge id world.calls.length with below | above
  · rw [List.getElem?_append_left below] at found
    exact .inl found
  · rw [List.getElem?_append_right above, List.getElem?_singleton] at found
    split at found
    · rename_i last
      cases found
      refine .inr ⟨Nat.le_antisymm (Nat.sub_eq_zero_iff_le.mp last) above, rfl, rfl, ?_⟩
      cases assembled : assembleRequest world.source request world.invokeId with
      | ok requestBuf => exact .inl ⟨requestBuf, rfl⟩
      | error error =>
          rw [assembleRequest_eq_error assembled]
          exact .inr rfl
    · cases found

/-- A call that has just started is consistent. -/
theorem fresh (consistent : world.Consistent) (request : Request) {call : Call}
    (empty : call.channel = .empty)
    (stage : (∃ requestBuf, call.stage = .numbered requestBuf) ∨
      call.stage = .done (.err .overflow)) :
    call.Consistent (world.start request) world.calls.length := by
  have unregistered : ¬ (world.start request).Registered world.calls.length call := by
    intro registered
    obtain ⟨_, known, -⟩ := consistent.entries _ _ registered
    rw [List.getElem?_eq_none_iff.mpr le_rfl] at known
    cases known
  have unwritten : world.calls.length ∉ world.written :=
    fun member => Nat.lt_irrefl _ (consistent.written _ member)
  have undelivered : world.deliveriesTo world.calls.length = [] := by
    rw [deliveriesTo, List.map_eq_nil_iff, List.filter_eq_nil_iff]
    intro delivery member
    simpa using (consistent.deliveries delivery member).ne
  exact {
    stage := by
      rcases stage with ⟨requestBuf, numbered⟩ | failed
      · rw [numbered]
        exact ⟨empty, unwritten, unregistered⟩
      · rw [failed]
        exact ⟨fun _ => unwritten, by simp⟩
    registered := fun registered => absurd registered unregistered
    disconnected := by simp [empty]
    reply := by simp [empty, Channel.messages]
    failure := by simp [empty, Channel.messages]
    history := by
      rw [empty]
      exact undelivered }

theorem start (consistent : world.Consistent) (request : Request) :
    (world.start request).Consistent := by
  have old : ∀ {id : CallId} {call : Call}, world.calls[id]? = some call →
      (world.start request).calls[id]? = some call := by
    intro id call found
    rw [World.start, List.getElem?_append_left (List.getElem?_eq_some_iff.mp found).1, found]
  have length : (world.start request).calls.length = world.calls.length + 1 := by
    rw [World.start, List.length_append, List.length_singleton]
  exact {
    counter := by
      rw [length, ← Nat.add_assoc, UInt32.ofNat_add, ← consistent.counter]
      rfl
    numbers := by
      intro id call found
      rcases found_start found with known | ⟨rfl, same, -, -⟩
      · exact consistent.numbers id call known
      · rw [same, consistent.counter]
    entries := fun invokeId id registered =>
      (consistent.entries invokeId id registered).imp fun _ known => ⟨old known.1, known.2⟩
    calls := by
      intro id call found
      rcases found_start found with known | ⟨rfl, -, empty, stage⟩
      · refine (consistent.calls id call known).frame Iff.rfl Iff.rfl rfl ?_ rfl
        rintro ⟨other, state, distinct, found, same⟩
        exact ⟨other, state, distinct, old found, same⟩
      · exact consistent.fresh request empty stage
    written := fun id member => by
      rw [length]
      exact Nat.lt_succ_of_lt (consistent.written id member)
    deliveries := fun delivery member => by
      rw [length]
      exact Nat.lt_succ_of_lt (consistent.deliveries delivery member)
    origin := consistent.origin
    socket := consistent.socket
    frames := consistent.frames
    framesOnce := consistent.framesOnce }

/-- Bytes that arrive concern no call. -/
theorem arrive (consistent : world.Consistent) (bytes : List UInt8) :
    World.Consistent { world with incoming := world.incoming ++ bytes } where
  counter := consistent.counter
  numbers := consistent.numbers
  entries := consistent.entries
  calls := fun id call found =>
    (consistent.calls id call found).frame Iff.rfl Iff.rfl rfl (fun reused => reused) rfl
  written := consistent.written
  deliveries := consistent.deliveries
  origin := consistent.origin
  socket := consistent.socket
  frames := consistent.frames
  framesOnce := consistent.framesOnce

/-- Every step keeps the invariant. -/
theorem step {label : Label} (consistent : world.Consistent)
    (step : world.step label = some after) : after.Consistent := by
  cases label with
  | start request =>
      cases step
      exact consistent.start request
  | insert call => exact consistent.insert step
  | write call failure => exact consistent.write step
  | receive call => exact consistent.receive step
  | timeout call => exact consistent.timeout step
  | discard call => exact consistent.discard step
  | arrive bytes =>
      cases step
      exact consistent.arrive bytes
  | turn socketEnd => exact consistent.turn step
  | shutdown => exact consistent.shutdown step
  | drain => exact consistent.drain step

end World.Consistent

/-- The invariant holds in every reachable state. -/
theorem World.consistent_of_run {source : AmsAddr} {readTimeout : Bool} {labels : List Label}
    {world : World} (run : Run World.step (.initial source readTimeout) labels world) :
    world.Consistent :=
  run.invariant (.initial source readTimeout) fun _ _ _ consistent step => consistent.step step

end Ads.Client
