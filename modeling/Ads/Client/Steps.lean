import Ads.Client.World

/-!
# What each step does

For every step of the client, its guard and the state it leads to, and how the
changes reach a single call.
-/

namespace Ads.Client

open Ads.Control Ads.Notif

namespace World

/-! ## Guards and results -/

section Inversion

variable {world after : World} {call : CallId}

theorem insert_eq_some (step : world.insert call = some after) :
    ∃ state requestBuf, world.calls[call]? = some state ∧
      state.stage = .numbered requestBuf ∧
      after = { (world.dropSender state.invokeId).modifyCall call
                  (.proceed (.registered requestBuf)) with
                pending := world.pending.insert state.invokeId call } := by
  unfold insert at step
  split at step
  · rename_i found
    exact ⟨_, _, found, rfl, (Option.some.inj step).symm⟩
  · cases step

theorem write_eq_some {failure : Option (Nat × IoErrorKind)}
    (step : world.write call failure = some after) :
    ∃ state requestBuf, world.calls[call]? = some state ∧
      state.stage = .registered requestBuf ∧
      ((failure = none ∧ world.socketOpen = true ∧
        after = { world.modifyCall call (.proceed .waiting) with
                  sent := world.sent ++ requestBuf
                  written := world.written ++ [call] }) ∨
      ∃ count kind, failure = some (count, kind) ∧
        after = { world.modifyCall call (.proceed
                    (.done (.err (.io "dispatching assembled command payload" kind)))) with
                  sent := world.sent ++ requestBuf.take count }) := by
  unfold write at step
  split at step
  · rename_i found
    split at step
    · split at step
      · rename_i isOpen
        exact ⟨_, _, found, rfl, .inl ⟨rfl, isOpen, (Option.some.inj step).symm⟩⟩
      · cases step
    · rename_i count kind
      exact ⟨_, _, found, rfl, .inr ⟨count, kind, rfl, (Option.some.inj step).symm⟩⟩
  · cases step

theorem receive_eq_some (step : world.receive call = some after) :
    ∃ state, world.calls[call]? = some state ∧ state.stage = .waiting ∧
      ((∃ message, state.channel = .full message ∧
        after = world.modifyCall call (.take message)) ∨
      (state.channel = .disconnected ∧
        after = world.modifyCall call (.proceed (.givingUp
          (.ioSync "waiting for response to dispatched request"
            "response channel was closed" state.invokeId))))) := by
  unfold receive at step
  split at step
  · rename_i message found
    exact ⟨_, found, rfl, .inl ⟨message, rfl, (Option.some.inj step).symm⟩⟩
  · rename_i found
    exact ⟨_, found, rfl, .inr ⟨rfl, (Option.some.inj step).symm⟩⟩
  · cases step

theorem timeout_eq_some (step : world.timeout call = some after) :
    ∃ state, world.calls[call]? = some state ∧ state.stage = .waiting ∧
      state.channel = .empty ∧ world.readTimeout = true ∧
      after = world.modifyCall call (.proceed (.givingUp
        (.io "waiting for response to dispatched request" .timedOut))) := by
  unfold timeout at step
  split at step
  · rename_i found
    split at step
    · rename_i timed
      exact ⟨_, found, rfl, rfl, timed, (Option.some.inj step).symm⟩
    · cases step
  · cases step

theorem discard_eq_some (step : world.discard call = some after) :
    ∃ state error, world.calls[call]? = some state ∧ state.stage = .givingUp error ∧
      after = { (world.dropSender state.invokeId).modifyCall call
                  (.proceed (.done (.err error))) with
                pending := world.pending.erase state.invokeId } := by
  unfold discard at step
  split at step
  · rename_i found
    exact ⟨_, _, found, rfl, (Option.some.inj step).symm⟩
  · cases step

theorem shutdown_eq_some (step : world.shutdown = some after) :
    ∃ error, world.reader = .returned error ∧
      after = { world with reader := .shutDown error, socketOpen := false } := by
  unfold shutdown at step
  split at step
  · rename_i error returned
    exact ⟨error, returned, (Option.some.inj step).symm⟩
  · cases step

theorem drain_eq_some (step : world.drain = some after) :
    ∃ error, world.reader = .shutDown error ∧
      after = { world with
        reader := .drained error
        calls := world.calls.mapIdx fun call state =>
          if call ∈ world.waiters then state.deliver (.error error) else state
        pending := ∅
        deliveries := world.deliveries ++
          world.waiters.map fun call => ⟨call, .error error, none⟩ } := by
  unfold drain at step
  split at step
  · rename_i error isShutDown
    exact ⟨error, isShutDown, (Option.some.inj step).symm⟩
  · cases step

/-- A turn skips a frame, hands a notification on, hands a reply to the waiting
call registered for it, or ends the loop; in the last case it may have taken the
entry of a call that has returned. -/
theorem turn_eq_some {socketEnd : Option IoErrorKind}
    (step : world.turn socketEnd = some after) :
    world.reader = .running ∧
      ((∃ rest, after = { world with incoming := rest, turns := world.turns + 1 }) ∨
      (∃ rest notification, after = { world with
          incoming := rest
          turns := world.turns + 1
          notifications := world.notifications ++ [notification] }) ∨
      (∃ rest call header payload, world.pending.lookup header.invokeId = some call ∧
        world.receiving call = true ∧
        after = { world.apply (.replied call header payload) with
                  incoming := rest
                  pending := world.pending.erase header.invokeId
                  turns := world.turns + 1 }) ∨
      (∃ error pending, (pending = world.pending ∨ ∃ id call,
          world.pending.lookup id = some call ∧ world.receiving call = false ∧
          pending = world.pending.erase id) ∧
        after = { world with reader := .returned error, pending }) ∨
      after = { world with reader := .panicked }) := by
  unfold turn at step
  split at step
  · rename_i running
    refine ⟨running, ?_⟩
    split at step
    · cases step
    · rename_i rest pending effect turned
      cases step
      rcases readerTurn_continued turned with ⟨rfl, rfl⟩ | ⟨notification, rfl, rfl⟩ |
        ⟨call, header, payload, rfl, registered, waiting, rfl⟩
      · exact .inl ⟨rest, rfl⟩
      · exact .inr (.inl ⟨rest, notification, rfl⟩)
      · exact .inr (.inr (.inl ⟨rest, call, header, payload, registered, waiting, rfl⟩))
    · rename_i error pending turned
      exact .inr (.inr (.inr (.inl
        ⟨error, pending, readerTurn_returned turned, (Option.some.inj step).symm⟩)))
    · exact .inr (.inr (.inr (.inr (Option.some.inj step).symm)))
  · cases step

end Inversion

/-! ## Changed calls -/

theorem receiving_of_found {world : World} {id : CallId} {call : Call}
    (found : world.calls[id]? = some call) : world.receiving id = !call.stage.isDone := by
  rw [receiving, found]

@[simp]
theorem getElem?_modifyCall (world : World) (call other : CallId) (change : Call → Call) :
    (world.modifyCall call change).calls[other]? =
      (world.calls[other]?).map fun state => if call = other then change state else state := by
  simp [modifyCall, List.getElem?_modify]

@[simp]
theorem length_modifyCall (world : World) (call : CallId) (change : Call → Call) :
    (world.modifyCall call change).calls.length = world.calls.length := by
  simp [modifyCall]

theorem getElem?_dropSender (world : World) (invokeId : UInt32) (other : CallId) :
    (world.dropSender invokeId).calls[other]? =
      (world.calls[other]?).map fun state =>
        if world.pending.lookup invokeId = some other then state.disconnect else state := by
  cases registered : world.pending.lookup invokeId with
  | none => simp [dropSender, registered]
  | some call => simp [dropSender, registered, List.getElem?_modify]

@[simp]
theorem length_dropSender (world : World) (invokeId : UInt32) :
    (world.dropSender invokeId).calls.length = world.calls.length := by
  cases registered : world.pending.lookup invokeId <;> simp [dropSender, registered]

end World

theorem Call.invokeId_disconnect (call : Call) : call.disconnect.invokeId = call.invokeId := by
  unfold disconnect
  split <;> rfl

end Ads.Client
