import Ads.Client.Invariant

/-!
# The life of a call

What a step of the client can do to one call, among all those in progress.
-/

namespace Ads.Client

open Ads.Control Ads.Transition

/-- The error of a call that has waited too long. -/
def timeoutError : Error :=
  .io "waiting for response to dispatched request" .timedOut

/-- The error of a call whose sender is gone. -/
def closedError (invokeId : UInt32) : Error :=
  .ioSync "waiting for response to dispatched request" "response channel was closed" invokeId

/-- The error of a call that could not write its request. -/
def writeError (kind : IoErrorKind) : Error :=
  .io "dispatching assembled command payload" kind

/-- The steps that a call can see: its own, those that take its sender off the
map, and all others. -/
inductive Call.Step (world : World) (id : CallId) (old : Call) : Label → Call → Prop
  | still (label : Label) : (∀ failure, label ≠ .write id failure) → Step world id old label old
  | inserted {requestBuf : List UInt8} : old.stage = .numbered requestBuf →
      Step world id old (.insert id) (old.proceed (.registered requestBuf))
  | written {requestBuf : List UInt8} : old.stage = .registered requestBuf →
      Step world id old (.write id none) (old.proceed .waiting)
  | unwritten {requestBuf : List UInt8} (count : Nat) (kind : IoErrorKind) :
      old.stage = .registered requestBuf →
      Step world id old (.write id (some (count, kind)))
        (old.proceed (.done (.err (writeError kind))))
  | received {message : Message} : old.stage = .waiting → old.channel = .full message →
      Step world id old (.receive id) (old.take message)
  | hungUp : old.stage = .waiting → old.channel = .disconnected →
      Step world id old (.receive id) (old.proceed (.givingUp (closedError old.invokeId)))
  | timedOut : old.stage = .waiting → old.channel = .empty →
      Step world id old (.timeout id) (old.proceed (.givingUp timeoutError))
  | discarded {error : Error} {channel : Channel} : old.stage = .givingUp error →
      (channel = old.channel ∨ channel = .disconnected) →
      Step world id old (.discard id)
        { old with channel, stage := .done (.err error) }
  | displaced {label : Label} {other : CallId} {state : Call} :
      (label = .insert other ∨ label = .discard other) → world.Registered id old →
      other ≠ id → world.calls[other]? = some state → state.stage.isDone = false →
      state.invokeId = old.invokeId →
      Step world id old label { old with channel := .disconnected }
  | delivered {label : Label} {message : Message} :
      (label = .drain ∨ ∃ socketEnd, label = .turn socketEnd) → world.Registered id old →
      old.stage.isDone = false → Step world id old label (old.deliver message)

namespace Call.Step

variable {world : World} {id : CallId} {old new : Call} {label : Label}

theorem invokeId (step : Call.Step world id old label new) : new.invokeId = old.invokeId := by
  cases step <;> rfl

theorem request (step : Call.Step world id old label new) : new.request = old.request := by
  cases step <;> rfl

/-- A call that has returned stays as it is. -/
theorem stage_of_isDone (step : Call.Step world id old label new)
    (isDone : old.stage.isDone = true) : new.stage = old.stage := by
  cases step with
  | still => rfl
  | displaced => rfl
  | delivered => rfl
  | inserted at_ => simp [at_, Stage.isDone] at isDone
  | written at_ => simp [at_, Stage.isDone] at isDone
  | unwritten _ _ at_ => simp [at_, Stage.isDone] at isDone
  | received at_ => simp [at_, Stage.isDone] at isDone
  | hungUp at_ => simp [at_, Stage.isDone] at isDone
  | timedOut at_ => simp [at_, Stage.isDone] at isDone
  | discarded at_ => simp [at_, Stage.isDone] at isDone

end Call.Step

namespace World

variable {world after : World}

/-- A call after one call has changed. -/
theorem found_modifyCall {actor id : CallId} {change : Call → Call} {new : Call}
    (found : (world.modifyCall actor change).calls[id]? = some new) :
    (id ≠ actor ∧ world.calls[id]? = some new) ∨
      (id = actor ∧ ∃ old, world.calls[id]? = some old ∧ new = change old) := by
  rw [getElem?_modifyCall, Option.map_eq_some_iff] at found
  obtain ⟨old, found, changed⟩ := found
  by_cases self : actor = id
  · rw [if_pos self] at changed
    exact .inr ⟨self.symm, old, found, changed.symm⟩
  · rw [if_neg self] at changed
    subst changed
    exact .inl ⟨Ne.symm self, found⟩

/-- A step that changes one call, as a call sees it. -/
theorem step_modifyCall {label : Label} {actor id : CallId} {state new : Call}
    {change : Call → Call} (isActor : world.calls[actor]? = some state)
    (others : id ≠ actor → ∀ failure, label ≠ .write id failure)
    (own : Call.Step world actor state label (change state))
    (found : (world.modifyCall actor change).calls[id]? = some new) :
    ∃ old, world.calls[id]? = some old ∧ Call.Step world id old label new := by
  rcases found_modifyCall found with ⟨distinct, isOld⟩ | ⟨rfl, old, isOld, rfl⟩
  · exact ⟨new, isOld, .still label (others distinct)⟩
  · cases isActor.symm.trans isOld
    exact ⟨state, isOld, own⟩

/-- Dropping the sender under an invoke id, as a call sees it. -/
theorem Consistent.step_dropSender (consistent : world.Consistent) {label : Label}
    {actor id : CallId} {state old : Call} {stage : Stage}
    (acts : label = .insert actor ∨ label = .discard actor)
    (isActor : world.calls[actor]? = some state) (active : state.stage.isDone = false)
    (found : world.calls[id]? = some old) (distinct : id ≠ actor) {new : Call}
    (change : (((world.dropSender state.invokeId).modifyCall actor (.proceed stage)).calls[id]?) =
      some new) : Call.Step world id old label new := by
  rw [getElem?_modifyCall, getElem?_dropSender, found] at change
  simp only [Option.map_some, Ne.symm distinct, if_false, Option.some.injEq] at change
  have consistentOld := consistent.calls id old found
  split at change
  · rename_i dropped
    obtain ⟨_, found', same⟩ := consistent.entries _ _ dropped
    cases found.symm.trans found'
    have registered : world.Registered id old := by rwa [Registered, same]
    rw [consistentOld.disconnect_eq registered] at change
    subst change
    exact .displaced acts registered distinct.symm isActor active same.symm
  · subst change
    refine .still label fun failure equal => ?_
    rcases acts with rfl | rfl <;> cases equal

theorem exists_of_modifyCall_dropSender {invokeId : UInt32} {actor id : CallId}
    {change : Call → Call} {new : Call}
    (found : ((world.dropSender invokeId).modifyCall actor change).calls[id]? = some new) :
    ∃ old, world.calls[id]? = some old := by
  rw [getElem?_modifyCall, getElem?_dropSender, Option.map_map, Option.map_eq_some_iff] at found
  exact found.imp fun _ known => known.1

/-- A step of one call that drops the sender under its invoke id, as a call sees it. -/
theorem Consistent.step_dropped (consistent : world.Consistent) {label : Label}
    {actor id : CallId} {state new : Call} {stage : Stage}
    (acts : label = .insert actor ∨ label = .discard actor)
    (isActor : world.calls[actor]? = some state) (active : state.stage.isDone = false)
    (own : ∀ dropped, (world.dropSender state.invokeId).calls[actor]? = some dropped →
      Call.Step world actor state label (dropped.proceed stage))
    (found : ((world.dropSender state.invokeId).modifyCall actor (.proceed stage)).calls[id]? =
      some new) :
    ∃ old, world.calls[id]? = some old ∧ Call.Step world id old label new := by
  rcases found_modifyCall found with ⟨distinct, -⟩ | ⟨rfl, dropped, isDropped, rfl⟩
  · obtain ⟨old, isOld⟩ := exists_of_modifyCall_dropSender found
    exact ⟨old, isOld, consistent.step_dropSender acts isActor active isOld distinct found⟩
  · exact ⟨state, isActor, own dropped isDropped⟩

/-- A registration, as a call sees it. -/
theorem Consistent.step_insert (consistent : world.Consistent) {actor id : CallId} {new : Call}
    (step : world.insert actor = some after) (found : after.calls[id]? = some new) :
    ∃ old, world.calls[id]? = some old ∧ Call.Step world id old (.insert actor) new := by
  obtain ⟨state, requestBuf, isActor, numbered, rfl⟩ := insert_eq_some step
  have active : state.stage.isDone = false := by
    rw [numbered]
    rfl
  have fits := (consistent.calls actor state isActor).stage
  rw [numbered] at fits
  apply consistent.step_dropped (.inl rfl) isActor active _ found
  intro dropped isDropped
  have unregistered : world.pending.lookup state.invokeId ≠ some actor := fits.2.2
  rw [getElem?_dropSender, isActor, Option.map_some, if_neg unregistered] at isDropped
  cases isDropped
  exact .inserted numbered

/-- A discarded entry, as a call sees it. -/
theorem Consistent.step_discard (consistent : world.Consistent) {actor id : CallId} {new : Call}
    (step : world.discard actor = some after) (found : after.calls[id]? = some new) :
    ∃ old, world.calls[id]? = some old ∧ Call.Step world id old (.discard actor) new := by
  obtain ⟨state, error, isActor, givingUp, rfl⟩ := discard_eq_some step
  have active : state.stage.isDone = false := by
    rw [givingUp]
    rfl
  apply consistent.step_dropped (.inr rfl) isActor active _ found
  intro dropped isDropped
  rw [getElem?_dropSender, isActor, Option.map_some] at isDropped
  split at isDropped
  · rename_i registered
    cases isDropped
    rw [(consistent.calls actor state isActor).disconnect_eq registered]
    exact .discarded givingUp (.inr rfl)
  · cases isDropped
    exact .discarded givingUp (.inl rfl)

/-- A turn of the reader, as a call sees it. -/
theorem Consistent.step_turn (consistent : world.Consistent) {socketEnd : Option IoErrorKind}
    {id : CallId} {new : Call} (step : world.turn socketEnd = some after)
    (found : after.calls[id]? = some new) :
    ∃ old, world.calls[id]? = some old ∧ Call.Step world id old (.turn socketEnd) new := by
  obtain ⟨-, ⟨_, rfl⟩ | ⟨_, _, rfl⟩ |
    ⟨rest, call, header, payload, registered, receiving, rfl⟩ | ⟨_, _, -, rfl⟩ | rfl⟩ :=
      turn_eq_some step
  · exact ⟨new, found, .still _ (fun _ equal => by cases equal)⟩
  · exact ⟨new, found, .still _ (fun _ equal => by cases equal)⟩
  · obtain ⟨state, isCall, same⟩ := consistent.entries _ _ registered
    have inMap : world.Registered call state := by rwa [Registered, same]
    have active : state.stage.isDone = false := by
      simpa [receiving_of_found isCall] using receiving
    exact step_modifyCall isCall (fun _ _ equal => by cases equal)
      (.delivered (.inr ⟨socketEnd, rfl⟩) inMap active) found
  · exact ⟨new, found, .still _ (fun _ equal => by cases equal)⟩
  · exact ⟨new, found, .still _ (fun _ equal => by cases equal)⟩

/-- The end of all pending requests, as a call sees it. -/
theorem Consistent.step_drain (consistent : world.Consistent) {id : CallId} {new : Call}
    (step : world.drain = some after) (found : after.calls[id]? = some new) :
    ∃ old, world.calls[id]? = some old ∧ Call.Step world id old .drain new := by
  obtain ⟨error, -, rfl⟩ := drain_eq_some step
  rw [List.getElem?_mapIdx, Option.map_eq_some_iff] at found
  obtain ⟨old, isOld, changed⟩ := found
  refine ⟨old, isOld, ?_⟩
  split at changed
  · rename_i waiter
    subst changed
    obtain ⟨registered, active⟩ := (consistent.mem_waiters_iff isOld).mp waiter
    exact .delivered (.inl rfl) registered active
  · subst changed
    exact .still _ (fun _ equal => by cases equal)

/-- A step is, for every call, a step of its life, or its start. -/
theorem Consistent.step_call (consistent : world.Consistent) {label : Label}
    (step : world.step label = some after) {id : CallId} {new : Call}
    (found : after.calls[id]? = some new) :
    (∃ old, world.calls[id]? = some old ∧ Call.Step world id old label new) ∨
    (id = world.calls.length ∧ (∃ request, label = .start request) ∧
      new.invokeId = world.invokeId ∧ new.channel = .empty ∧
      ((∃ requestBuf, new.stage = .numbered requestBuf) ∨ new.stage = .done (.err .overflow))) := by
  cases label with
  | start request =>
      cases step
      rcases Consistent.found_start found with known | ⟨last, fresh⟩
      · exact .inl ⟨new, known, .still _ (fun _ equal => by cases equal)⟩
      · exact .inr ⟨last, ⟨request, rfl⟩, fresh⟩
  | insert actor => exact .inl (consistent.step_insert step found)
  | write actor failure =>
      obtain ⟨state, requestBuf, isActor, registered, written⟩ := write_eq_some step
      have others : id ≠ actor → ∀ other, Label.write actor failure ≠ .write id other := by
        rintro distinct other equal
        cases equal
        exact distinct rfl
      rcases written with ⟨rfl, -, rfl⟩ | ⟨count, kind, rfl, rfl⟩
      · exact .inl (step_modifyCall isActor others (.written registered) found)
      · exact .inl (step_modifyCall isActor others (.unwritten count kind registered) found)
  | receive actor =>
      obtain ⟨state, isActor, waiting, received⟩ := receive_eq_some step
      rcases received with ⟨message, full, rfl⟩ | ⟨gone, rfl⟩
      · exact .inl (step_modifyCall isActor (fun _ _ equal => by cases equal)
          (.received waiting full) found)
      · exact .inl (step_modifyCall isActor (fun _ _ equal => by cases equal)
          (.hungUp waiting gone) found)
  | timeout actor =>
      obtain ⟨state, isActor, waiting, empty, -, rfl⟩ := timeout_eq_some step
      exact .inl (step_modifyCall isActor (fun _ _ equal => by cases equal)
        (.timedOut waiting empty) found)
  | discard actor => exact .inl (consistent.step_discard step found)
  | arrive bytes =>
      cases step
      exact .inl ⟨new, found, .still _ (fun _ equal => by cases equal)⟩
  | turn socketEnd => exact .inl (consistent.step_turn step found)
  | shutdown =>
      obtain ⟨_, _, rfl⟩ := shutdown_eq_some step
      exact .inl ⟨new, found, .still _ (fun _ equal => by cases equal)⟩
  | drain => exact .inl (consistent.step_drain step found)

/-- A call is there after every step, under the same invoke id. -/
theorem Consistent.persists (consistent : world.Consistent) {label : Label}
    (step : world.step label = some after)
    (length : world.calls.length ≤ after.calls.length) {id : CallId} {old : Call}
    (found : world.calls[id]? = some old) :
    ∃ new, after.calls[id]? = some new ∧ Call.Step world id old label new := by
  have below := (List.getElem?_eq_some_iff.mp found).1
  have isNew := List.getElem?_eq_getElem (Nat.lt_of_lt_of_le below length)
  rcases consistent.step_call step isNew with ⟨_, found', stepped⟩ | ⟨last, -⟩
  · cases found.symm.trans found'
    exact ⟨_, isNew, stepped⟩
  · exact absurd below (by rw [last]; exact Nat.lt_irrefl _)

/-- What a step leaves alone: the address, the calls' number but for a new one, the
written requests but for the one it writes; and, unless the reader acts, its place
in the stream and the history. -/
structure Frames (world after : World) (label : Label) : Prop where
  source : after.source = world.source
  length : world.calls.length ≤ after.calls.length
  written : ∀ id, id ∈ after.written ↔ id ∈ world.written ∨ label = .write id none
  running : after.reader = .running → world.reader = .running
  still : (∀ socketEnd, label ≠ .turn socketEnd) → world.reader = .running →
    after.reader = .running
  turns : (∀ socketEnd, label ≠ .turn socketEnd) → after.turns = world.turns
  incoming : (∀ socketEnd, label ≠ .turn socketEnd) → (∀ bytes, label ≠ .arrive bytes) →
    after.incoming = world.incoming
  deliveries : (∀ socketEnd, label ≠ .turn socketEnd) → after.reader = .running →
    after.deliveries = world.deliveries

/-- A step outside the reader's loop on the bytes that are there. -/
theorem Frames.of_still {label : Label} (source : after.source = world.source)
    (length : world.calls.length ≤ after.calls.length)
    (written : ∀ id, id ∈ after.written ↔ id ∈ world.written ∨ label = .write id none)
    (reader : after.reader = world.reader) (turns : after.turns = world.turns)
    (incoming : (∀ bytes, label ≠ .arrive bytes) → after.incoming = world.incoming)
    (deliveries : after.deliveries = world.deliveries) : world.Frames after label where
  source := source
  length := length
  written := written
  running := fun running => reader ▸ running
  still := fun _ running => reader.trans running
  turns := fun _ => turns
  incoming := fun _ => incoming
  deliveries := fun _ _ => deliveries

/-- A turn of the reader. -/
theorem Frames.of_turn {socketEnd : Option IoErrorKind} (running : world.reader = .running)
    (source : after.source = world.source) (length : world.calls.length ≤ after.calls.length)
    (written : after.written = world.written) : world.Frames after (.turn socketEnd) where
  source := source
  length := length
  written := by simp [written]
  running := fun _ => running
  still := fun quiet => absurd rfl (quiet socketEnd)
  turns := fun quiet => absurd rfl (quiet socketEnd)
  incoming := fun quiet => absurd rfl (quiet socketEnd)
  deliveries := fun quiet => absurd rfl (quiet socketEnd)

theorem step_frames {label : Label} (step : world.step label = some after) :
    world.Frames after label := by
  cases label with
  | start request =>
      cases step
      exact .of_still rfl (by simp [World.start]) (by simp [World.start]) rfl rfl
        (fun _ => rfl) rfl
  | insert call =>
      obtain ⟨_, _, _, _, rfl⟩ := insert_eq_some step
      exact .of_still rfl (by simp) (by simp [modifyCall, dropSender]) rfl rfl (fun _ => rfl) rfl
  | write call failure =>
      obtain ⟨_, _, _, _, ⟨rfl, -, rfl⟩ | ⟨_, _, rfl, rfl⟩⟩ := write_eq_some step
      · exact .of_still rfl (by simp) (by simp [eq_comm]) rfl rfl (fun _ => rfl) rfl
      · exact .of_still rfl (by simp) (by simp [modifyCall]) rfl rfl (fun _ => rfl) rfl
  | receive call =>
      obtain ⟨_, _, _, ⟨_, _, rfl⟩ | ⟨_, rfl⟩⟩ := receive_eq_some step
      · exact .of_still rfl (by simp) (by simp [modifyCall]) rfl rfl (fun _ => rfl) rfl
      · exact .of_still rfl (by simp) (by simp [modifyCall]) rfl rfl (fun _ => rfl) rfl
  | timeout call =>
      obtain ⟨_, _, _, _, _, rfl⟩ := timeout_eq_some step
      exact .of_still rfl (by simp) (by simp [modifyCall]) rfl rfl (fun _ => rfl) rfl
  | discard call =>
      obtain ⟨_, _, _, _, rfl⟩ := discard_eq_some step
      exact .of_still rfl (by simp) (by simp [modifyCall, dropSender]) rfl rfl (fun _ => rfl) rfl
  | arrive bytes =>
      cases step
      exact .of_still rfl le_rfl (by simp) rfl rfl (fun quiet => absurd rfl (quiet bytes)) rfl
  | turn socketEnd =>
      obtain ⟨running, turned⟩ := turn_eq_some step
      rcases turned with ⟨_, rfl⟩ | ⟨_, _, rfl⟩ | ⟨_, _, _, _, -, -, rfl⟩ | ⟨_, _, -, rfl⟩ | rfl
      · exact .of_turn running rfl le_rfl rfl
      · exact .of_turn running rfl le_rfl rfl
      · exact .of_turn running rfl (by simp [apply]) rfl
      · exact .of_turn running rfl le_rfl rfl
      · exact .of_turn running rfl le_rfl rfl
  | shutdown =>
      obtain ⟨_, returned, rfl⟩ := shutdown_eq_some step
      exact ⟨rfl, le_rfl, by simp, fun running => (by cases running),
        fun _ running => (by simp [returned] at running), fun _ => rfl, fun _ _ => rfl,
        fun _ _ => rfl⟩
  | drain =>
      obtain ⟨_, isShutDown, rfl⟩ := drain_eq_some step
      exact ⟨rfl, by simp, by simp, fun running => (by cases running),
        fun _ running => (by simp [isShutDown] at running), fun _ => rfl, fun _ _ => rfl,
        fun _ running => (by cases running)⟩

/-- A call that starts has not been written. -/
theorem Consistent.not_written_of_start {request : Request} (consistent : world.Consistent)
    (step : world.step (.start request) = some after) : world.calls.length ∉ after.written := by
  intro member
  rcases ((step_frames step).written _).mp member with old | writes
  · exact Nat.lt_irrefl _ (consistent.written _ old)
  · cases writes

end World

end Ads.Client
