import Ads.Client.Invariant

/-!
# The end of the reader

After the reader has shut the socket down and failed the pending requests, no
call is left waiting, whatever it was doing meanwhile, and no later call starts
to.
-/

namespace Ads.Client

open Ads.Control Ads.Transition

namespace World

variable {world after : World}

/-- What a call that waits for a reply finds in its channel: its reply, the
reader's error, or, if its invoke id was used again, no sender. -/
def Answered (world : World) (error : Error) (id : CallId) (call : Call) : Prop :=
  (∃ header payload, call.channel = .full (.ok (header, payload)) ∧
    header.invokeId = call.invokeId) ∨
  call.channel = .full (.error error) ∨
  (call.channel = .disconnected ∧ world.Reused id call.invokeId)

/-- No step follows the clean-up in the reader's thread. -/
theorem step_drained {error : Error} {label : Label} (cleaned : world.reader = .drained error)
    (step : world.step label = some after) : after.reader = .drained error := by
  cases label with
  | start request =>
      cases step
      exact cleaned
  | insert call =>
      obtain ⟨_, _, _, _, rfl⟩ := insert_eq_some step
      exact cleaned
  | write call failure =>
      obtain ⟨_, _, _, _, ⟨-, -, rfl⟩ | ⟨_, _, -, rfl⟩⟩ := write_eq_some step
      · exact cleaned
      · exact cleaned
  | receive call =>
      obtain ⟨_, _, _, ⟨_, _, rfl⟩ | ⟨_, rfl⟩⟩ := receive_eq_some step
      · exact cleaned
      · exact cleaned
  | timeout call =>
      obtain ⟨_, _, _, _, _, rfl⟩ := timeout_eq_some step
      exact cleaned
  | discard call =>
      obtain ⟨_, _, _, _, rfl⟩ := discard_eq_some step
      exact cleaned
  | arrive bytes =>
      cases step
      exact cleaned
  | turn socketEnd =>
      obtain ⟨running, -⟩ := turn_eq_some step
      simp [running] at cleaned
  | shutdown =>
      obtain ⟨_, returned, -⟩ := shutdown_eq_some step
      simp [returned] at cleaned
  | drain =>
      obtain ⟨_, isShutDown, -⟩ := drain_eq_some step
      simp [isShutDown] at cleaned

namespace Consistent

/-- A waiting call has its answer once the clean-up is done. -/
theorem answered (consistent : world.Consistent) {error : Error} {id : CallId} {call : Call}
    (cleaned : world.reader = .drained error) (found : world.calls[id]? = some call)
    (waiting : call.stage = .waiting) : world.Answered error id call := by
  have state := consistent.calls id call found
  have fits := state.stage
  rw [waiting] at fits
  obtain ⟨-, untaken, inMap⟩ := fits
  cases channel : call.channel with
  | empty => exact absurd cleaned ((inMap channel).2 error)
  | taken message => exact absurd channel (untaken message)
  | disconnected =>
      refine .inr (.inr ⟨channel, ?_⟩)
      rcases state.disconnected channel with isDone | reused
      · simp [waiting, Stage.isDone] at isDone
      · exact reused
  | full message =>
      cases message with
      | ok frame =>
          refine .inl ⟨frame.1, frame.2, channel, state.reply frame.1 frame.2 ?_⟩
          rw [channel]
          exact List.mem_singleton_self _
      | error failure =>
          have same := state.failure failure (by
            rw [channel]
            exact List.mem_singleton_self _)
          rw [cleaned] at same
          cases same
          exact .inr (.inl channel)

end Consistent

/-- A waiting call with an answer can take its next step. -/
theorem Answered.receives {error : Error} {id : CallId} {call : Call}
    (answered : world.Answered error id call) (found : world.calls[id]? = some call)
    (waiting : call.stage = .waiting) : ∃ after, world.step (.receive id) = some after := by
  obtain ⟨request, invokeId, stage, channel⟩ := call
  cases waiting
  rcases answered with ⟨header, payload, full, -⟩ | full | ⟨gone, -⟩
  · cases full
    exact ⟨_, by rw [World.step, receive, found]⟩
  · cases full
    exact ⟨_, by rw [World.step, receive, found]⟩
  · cases gone
    exact ⟨_, by rw [World.step, receive, found]⟩

/-- Once the clean-up is done, a write makes its call return the socket's error. -/
theorem Consistent.write_fails (consistent : world.Consistent) {error : Error} {id : CallId}
    {failure : Option (Nat × IoErrorKind)} (cleaned : world.reader = .drained error)
    (step : world.step (.write id failure) = some after) :
    ∃ kind call, after.calls[id]? = some call ∧
      call.stage = .done (.err (.io "dispatching assembled command payload" kind)) := by
  obtain ⟨call, requestBuf, found, -, ⟨-, isOpen, -⟩ | ⟨count, kind, -, rfl⟩⟩ :=
    write_eq_some step
  · exact absurd cleaned (consistent.socket.mp isOpen error).2
  · refine ⟨kind, call.proceed _, ?_, rfl⟩
    simp [found]

end World

/-- In every state from the end of the clean-up on, every call that has written
its request and waits has its reply or the reader's error in its channel, or a
closed channel if its invoke id was used again, so that it can go on; and every
write fails. -/
theorem no_caller_stranded {source : AmsAddr} {readTimeout : Bool}
    {labels later : List Label} {cleaned world : World} {error : Error}
    (run : Run World.step (.initial source readTimeout) labels cleaned)
    (finished : cleaned.reader = .drained error)
    (onward : Run World.step cleaned later world) :
    (∀ (id : CallId) (call : Call), world.calls[id]? = some call → call.stage = .waiting →
      world.Answered error id call ∧ ∃ after, world.step (.receive id) = some after) ∧
    ∀ id failure after, world.step (.write id failure) = some after →
      ∃ kind call, after.calls[id]? = some call ∧
        call.stage = .done (.err (.io "dispatching assembled command payload" kind)) := by
  have consistent := World.consistent_of_run (run.trans onward)
  have still : world.reader = .drained error :=
    onward.invariant finished fun _ _ _ cleaned step => World.step_drained cleaned step
  constructor
  · intro id call found waiting
    have answered := consistent.answered still found waiting
    exact ⟨answered, answered.receives found waiting⟩
  · intro id failure after step
    exact consistent.write_fails still step

/-- Two calls: the first is waiting and the second is about to write when the
connection breaks. -/
def brokenConnection : List Label :=
  [.start ⟨.write, ⟨.localId, 851⟩, [], []⟩, .start ⟨.read, ⟨.localId, 851⟩, [], []⟩,
    .insert 0, .insert 1, .write 0 none, .turn (some .connectionReset), .shutdown, .drain]

/-- The first call has the reader's error, and the write of the second fails. -/
theorem brokenConnection_unblocks :
    ∃ world, execute World.step (.initial ⟨.localId, 1⟩ false) brokenConnection = some world ∧
      (∃ after, world.step (.receive 0) = some after) ∧
      ∃ after, world.step (.write 1 (some (0, .brokenPipe))) = some after ∧
        ∃ kind call, after.calls[1]? = some call ∧
          call.stage = .done (.err (.io "dispatching assembled command payload" kind)) := by
  have run : Run World.step (.initial ⟨.localId, 1⟩ false) brokenConnection _ :=
    .of_execute rfl
  have unblocked := no_caller_stranded run
    (rfl : _ = ReaderStage.drained (.io "receiving AMS/TCP header" .connectionReset)) .nil
  exact ⟨_, rfl, (unblocked.1 0 _ rfl rfl).2, _, rfl, unblocked.2 1 (some (0, .brokenPipe)) _ rfl⟩

end Ads.Client
