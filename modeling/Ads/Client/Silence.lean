import Ads.Client.LateReplies

/-!
# Silence on the connection

A session with a clock.  The read timeout is an option of the socket, so that it
holds for the reader's clone of it: a read that finds nothing for that long fails,
and the reader takes every failed read for the end of the connection.

The reader works without delay, so that the time a read has waited is the time
since the last frame arrived.
-/

namespace Ads.Client

open Ads.Control Ads.Transition

/-- A session, and the time since the last frame arrived. -/
structure Clocked where
  session : Session
  silence : Nat

namespace Clocked

/-- A new connection. -/
def initial (source : AmsAddr) : Clocked :=
  ⟨.initial source true, 0⟩

/-- Time passes, the reader's read times out, or the client or its peer does
something. -/
inductive Tick
  | pass (duration : Nat)
  | expire (kind : IoErrorKind)
  | move (move : Session.Move)

/-- The peer keeps the connection open and answers in time: the socket fails for no
other reason than its timeout, and no wait for a reply times out. -/
def Timely : Session.Move → Prop
  | .client (.turn (some _)) => False
  | .client (.timeout _) => False
  | _ => True

instance (move : Session.Move) : Decidable (Timely move) :=
  match move with
  | .client (.turn (some _)) | .client (.timeout _) => inferInstanceAs (Decidable False)
  | .client (.turn none) | .client (.start _) | .client (.insert _) | .client (.write _ _)
  | .client (.receive _) | .client (.discard _) | .client (.arrive _) | .client .shutdown
  | .client .drain | .answer _ _ _ | .note _ => inferInstanceAs (Decidable True)

/-- Whether a frame arrives. -/
def arrives : Session.Move → Bool
  | .client _ => false
  | .answer _ _ _ => true
  | .note _ => true

/-- One step.  A read returns as soon as it has waited for the read timeout: time
does not pass beyond it while the reader waits. -/
def step (readTimeout : Nat) (clocked : Clocked) : Tick → Option Clocked
  | .pass duration =>
      if (clocked.session.world.turn none).isNone = true ∧
          (clocked.session.world.reader = .running →
            clocked.silence + duration ≤ readTimeout) then
        some { clocked with silence := clocked.silence + duration }
      else none
  | .expire kind =>
      if (clocked.session.world.turn none).isNone = true ∧ readTimeout ≤ clocked.silence ∧
          (kind = .wouldBlock ∨ kind = .timedOut) then
        (clocked.session.step (.client (.turn (some kind)))).map fun session =>
          { clocked with session }
      else none
  | .move move =>
      if Timely move then
        (clocked.session.step move).map fun session =>
          ⟨session, if arrives move then 0 else clocked.silence⟩
      else none

/-- What a tick does to the session. -/
theorem step_eq_some {readTimeout : Nat} {clocked after : Clocked} {tick : Tick}
    (step : clocked.step readTimeout tick = some after) :
    after.session = clocked.session ∨
    (readTimeout ≤ after.silence ∧ ∃ kind,
      clocked.session.step (.client (.turn (some kind))) = some after.session) ∨
    ∃ move, Timely move ∧ clocked.session.step move = some after.session := by
  cases tick with
  | pass duration =>
      simp only [Clocked.step] at step
      split at step
      · cases step
        exact .inl rfl
      · cases step
  | expire kind =>
      simp only [Clocked.step] at step
      split at step
      · rename_i expired
        obtain ⟨session, moved, rfl⟩ := Option.map_eq_some_iff.mp step
        exact .inr (.inl ⟨expired.2.1, kind, moved⟩)
      · cases step
  | move move =>
      simp only [Clocked.step] at step
      split at step
      · rename_i timely
        obtain ⟨session, moved, rfl⟩ := Option.map_eq_some_iff.mp step
        exact .inr (.inr ⟨move, timely, moved⟩)
      · cases step

end Clocked

/-! ## Calls that are answered in time -/

/-- No call has given up, and those that wrote their request return only with a
message. -/
def Session.Prompt (session : Session) : Prop :=
  ∀ (id : CallId) (call : Call), session.world.calls[id]? = some call →
    (∀ error, call.stage ≠ .givingUp error) ∧
    (call.stage.isDone = true → id ∈ session.world.written →
      ∃ message, call.channel = .taken message)

namespace Session.Consistent

variable {session next : Session} {label : Label}

/-- A step other than a time-out keeps the calls prompt while the reader runs. -/
theorem prompt_step (consistent : session.Consistent)
    (running : session.world.reader = .running) (prompt : session.Prompt)
    (step : session.world.step label = some next.world)
    (inTime : ∀ id, label ≠ .timeout id) : next.Prompt := by
  intro id new found
  have orderly := consistent.orderly running
  have frames := World.step_frames step
  rcases consistent.world.step_call step found with
    ⟨old, isOld, stepped⟩ | ⟨rfl, ⟨request, rfl⟩, -, -, stage⟩
  · obtain ⟨patient, answered⟩ := prompt id old isOld
    have state := consistent.world.calls id old isOld
    cases stepped with
    | still _ notWritten =>
        refine ⟨patient, fun isDone isWritten => answered isDone ?_⟩
        exact ((frames.written id).mp isWritten).resolve_right (notWritten none)
    | inserted => exact ⟨fun _ equal => (by cases equal), fun isDone => (by cases isDone)⟩
    | written => exact ⟨fun _ equal => (by cases equal), fun isDone => (by cases isDone)⟩
    | unwritten count kind at_ =>
        refine ⟨fun _ equal => (by cases equal), fun _ isWritten => ?_⟩
        have fits := state.stage
        rw [at_] at fits
        rcases (frames.written id).mp isWritten with old | equal
        · exact absurd old fits.1
        · cases equal
    | @received message at_ full =>
        cases message with
        | ok reply => exact ⟨fun _ equal => (by cases equal), fun _ _ => ⟨_, rfl⟩⟩
        | error error =>
            cases running.symm.trans (state.drained_of_full full)
    | hungUp waits channel => exact absurd channel (orderly.connected_of_waiting isOld waits)
    | timedOut => exact absurd rfl (inTime id)
    | discarded at_ => exact absurd at_ (patient _)
    | displaced acts registered =>
        refine ⟨patient, fun isDone isWritten => ?_⟩
        have stays : id ∈ session.world.written := by
          refine ((frames.written id).mp isWritten).resolve_right fun equal => ?_
          rcases acts with other | other <;> rw [other] at equal <;> cases equal
        obtain ⟨message, taken⟩ := answered isDone stays
        simp [state.registered registered] at taken
    | delivered acts registered active =>
        refine ⟨patient, fun isDone => ?_⟩
        rw [show (old.deliver _).stage = old.stage from rfl, active] at isDone
        cases isDone
  · have fresh := consistent.world.not_written_of_start step
    refine ⟨fun error equal => ?_, fun _ isWritten => absurd isWritten fresh⟩
    rcases stage with ⟨requestBuf, numbered⟩ | failed
    · rw [numbered] at equal
      cases equal
    · rw [failed] at equal
      cases equal

/-- Prompt calls are there when their replies are read. -/
theorem not_late (consistent : session.Consistent) (running : session.world.reader = .running)
    (prompt : session.Prompt) : ¬ session.Late := by
  rintro ⟨id, frame, rest, call, next, found, isDone⟩
  have member := mem_onTheWay_of_next next
  obtain ⟨message, taken⟩ := (prompt id call found).2 isDone
    (consistent.written id (consistent.answered id member))
  have history := (consistent.world.calls id call found).history
  rw [(consistent.orderly running).undelivered id member, taken] at history
  cases history

end Session.Consistent

/-! ## The reader outlives every silence shorter than the timeout -/

namespace Clocked

/-- What holds while no silence has reached the read timeout. -/
structure Alive (clocked : Clocked) : Prop where
  consistent : clocked.session.Consistent
  running : clocked.session.world.reader = .running
  prompt : clocked.session.Prompt

namespace Alive

variable {clocked after : Clocked} {readTimeout : Nat}

theorem initial (source : AmsAddr) : (Clocked.initial source).Alive where
  consistent := .initial source true
  running := rfl
  prompt := by simp [Session.Prompt, Clocked.initial, Session.initial, World.initial]

/-- The client and a timely peer keep the reader alive. -/
theorem move {move : Session.Move} {next : Session} (alive : clocked.Alive)
    (timely : Timely move) (step : clocked.session.step move = some next) (silence : Nat) :
    Clocked.Alive ⟨next, silence⟩ := by
  have consistent := alive.consistent.step step
  by_cases client : ∃ label, move = .client label
  · obtain ⟨label, rfl⟩ := client
    obtain ⟨allowed, world, stepped, rfl⟩ := Session.step_client_eq_some step
    have inTime : ∀ id, label ≠ .timeout id := by
      rintro id rfl
      exact timely
    refine ⟨consistent, ?_,
      alive.consistent.prompt_step alive.running alive.prompt stepped inTime⟩
    by_cases loud : ∃ socketEnd, label = .turn socketEnd
    · obtain ⟨socketEnd, rfl⟩ := loud
      cases next : clocked.session.queue with
      | nil =>
          cases socketEnd with
          | none =>
              have waits := alive.consistent.turn_of_nil alive.running next
              rw [World.step, waits] at stepped
              cases stepped
          | some kind => exact absurd timely not_false
      | cons flight rest =>
          obtain ⟨after, moved, -, punctual⟩ :=
            alive.consistent.turn_on_frame alive.running socketEnd next
          rw [step] at moved
          cases moved
          exact (punctual (alive.consistent.not_late alive.running alive.prompt)).1
    · exact (World.step_frames stepped).still (fun socketEnd equal => loud ⟨socketEnd, equal⟩)
        alive.running
  · have peer : ∀ label, move ≠ .client label := fun label equal => client ⟨label, equal⟩
    obtain ⟨bytes, same⟩ := Session.step_peer_eq_some step peer
    refine ⟨consistent, ?_, ?_⟩
    · change next.world.reader = .running
      rw [same]
      exact alive.running
    · change next.Prompt
      rw [Session.Prompt, same]
      exact alive.prompt

/-- A step that keeps the silence below the read timeout keeps the reader alive. -/
theorem step {tick : Tick} (alive : clocked.Alive)
    (step : restrict (Clocked.step readTimeout) (·.silence < readTimeout) clocked tick =
      some after) : after.Alive := by
  obtain ⟨stepped, below⟩ := restrict_eq_some_iff.mp step
  rcases step_eq_some stepped with same | ⟨expired, -⟩ | ⟨move, timely, moved⟩
  · constructor
    · rw [same]
      exact alive.consistent
    · rw [same]
      exact alive.running
    · rw [same]
      exact alive.prompt
  · exact absurd below (Nat.not_lt_of_le expired)
  · exact alive.move timely moved after.silence

end Alive

/-- Clocked sessions keep the invariant of sessions. -/
theorem consistent_of_run {source : AmsAddr} {readTimeout : Nat} {ticks : List Tick}
    {clocked : Clocked} (run : Run (Clocked.step readTimeout) (.initial source) ticks clocked) :
    clocked.session.Consistent := by
  induction run with
  | nil => exact .initial source true
  | snoc _ step consistent =>
      rcases step_eq_some step with same | ⟨-, kind, moved⟩ | ⟨move, -, moved⟩
      · rw [same]
        exact consistent
      · exact consistent.step moved
      · exact consistent.step moved

end Clocked

/-- While every silence stays below the read timeout, the reader runs, the socket
is open, requests can be written, and each reply is handed to its call.  Once the
reader has waited for the read timeout with nothing to read, its read fails and it
ends, before any more time passes. -/
theorem survives_silence (source : AmsAddr) (readTimeout : Nat) :
    (∀ ticks clocked,
      Run (restrict (Clocked.step readTimeout) (·.silence < readTimeout))
        (.initial source) ticks clocked →
      clocked.session.world.reader = .running ∧ clocked.session.world.socketOpen = true ∧
      (∀ (id : CallId) (call : Call) requestBuf, clocked.session.world.calls[id]? = some call →
        call.stage = .registered requestBuf →
        (Clocked.step readTimeout clocked (.move (.client (.write id none)))).isSome) ∧
      ∀ flight rest, clocked.session.queue = flight :: rest → ∃ after,
        Clocked.step readTimeout clocked (.move (.client (.turn none))) = some after ∧
          after.session.world.reader = .running ∧ after.session.queue = rest ∧
          ∀ id, flight.answers = some id → ∃ header frame,
            ⟨id, .ok (header, flight.frame.payload), some frame⟩ ∈
              after.session.world.deliveries) ∧
    ∀ ticks clocked, Run (Clocked.step readTimeout) (.initial source) ticks clocked →
      clocked.session.world.reader = .running → clocked.session.queue = [] →
      readTimeout ≤ clocked.silence →
      (∃ after error, Clocked.step readTimeout clocked (.expire .wouldBlock) = some after ∧
        after.session.world.reader = .returned error) ∧
      ∀ duration, 0 < duration → Clocked.step readTimeout clocked (.pass duration) = none := by
  constructor
  · intro ticks clocked run
    have alive : clocked.Alive :=
      run.invariant (.initial source) fun _ _ _ alive step => alive.step step
    have isOpen : clocked.session.world.socketOpen = true :=
      alive.consistent.world.socket.mpr (by simp [alive.running])
    refine ⟨alive.running, isOpen, ?_, ?_⟩
    · intro id call requestBuf found registered
      obtain ⟨request, invokeId, stage, channel⟩ := call
      cases registered
      have timely : Clocked.Timely (.client (.write id none)) := trivial
      have allowed : clocked.session.Allows (.write id none) := trivial
      rw [Clocked.step, if_pos timely, Session.step, if_pos allowed, World.step, World.write,
        found]
      simp [isOpen]
    · intro flight rest next
      obtain ⟨after, moved, -, punctual⟩ :=
        alive.consistent.turn_on_frame alive.running none next
      obtain ⟨running, queue, handed⟩ :=
        punctual (alive.consistent.not_late alive.running alive.prompt)
      have timely : Clocked.Timely (.client (.turn none)) := trivial
      refine ⟨⟨after, clocked.silence⟩, ?_, running, queue, handed⟩
      rw [Clocked.step, if_pos timely, moved]
      rfl
  · intro ticks clocked run running nothing silent
    have consistent := Clocked.consistent_of_run run
    have waits := consistent.turn_of_nil running nothing
    have failed := consistent.turn_of_nil_failed running nothing .wouldBlock
    constructor
    · have allowed : clocked.session.Allows (.turn (some .wouldBlock)) := trivial
      have expired : (clocked.session.world.turn none).isNone = true ∧
          readTimeout ≤ clocked.silence ∧
          (IoErrorKind.wouldBlock = .wouldBlock ∨ IoErrorKind.wouldBlock = .timedOut) :=
        ⟨Option.isNone_iff_eq_none.mpr waits, silent, .inl rfl⟩
      rw [Clocked.step, if_pos expired, Session.step, if_pos allowed, World.step, failed]
      exact ⟨_, _, rfl, rfl⟩
    · intro duration positive
      rw [Clocked.step, if_neg]
      rintro ⟨-, within⟩
      have := within running
      omega

/-! ## An idle connection -/

/-- A request and its reply, after a silence of 4 with a read timeout of 5. -/
def shortSilence : List Clocked.Tick :=
  [.pass 4, .move (.client (.start plainWrite)), .move (.client (.insert 0)),
    .move (.client (.write 0 none)), .move (.answer 0 0 [0, 0, 0, 0])]

/-- The reply is handed to its call. -/
theorem shortSilence_survived :
    ∃ clocked, execute (Clocked.step 5) (.initial ⟨.localId, 1⟩) shortSilence = some clocked ∧
      clocked.session.world.reader = .running ∧
      ∃ after, Clocked.step 5 clocked (.move (.client (.turn none))) = some after ∧
        ∃ header frame, ⟨0, .ok (header, [0, 0, 0, 0]), some frame⟩ ∈
          after.session.world.deliveries := by
  have run : Run (restrict (Clocked.step 5) (·.silence < 5)) (.initial ⟨.localId, 1⟩)
      shortSilence _ := .of_execute rfl
  obtain ⟨running, -, -, turns⟩ := (survives_silence ⟨.localId, 1⟩ 5).1 _ _ run
  obtain ⟨after, turned, -, -, handed⟩ := turns _ _ rfl
  exact ⟨_, rfl, running, after, turned, handed 0 rfl⟩

/-- Nothing is sent for the read timeout of 5; then a call sends its request, and
the reader's read fails. -/
def longSilence : List Clocked.Tick :=
  [.pass 5, .move (.client (.start plainWrite)), .move (.client (.insert 0)),
    .move (.client (.write 0 none)), .expire .wouldBlock, .move (.client .shutdown),
    .move (.client .drain)]

/-- An idle connection is shut down by the client. -/
theorem idle_connection_ends :
    ¬ ∀ source readTimeout ticks clocked, 0 < readTimeout →
      Run (Clocked.step readTimeout) (.initial source) ticks clocked →
      clocked.session.world.reader = .running ∧ clocked.session.world.socketOpen = true := by
  intro claim
  have run : Run (Clocked.step 5) (.initial ⟨.localId, 1⟩) longSilence _ := .of_execute rfl
  cases (claim _ _ _ _ (by decide) run).2

end Ads.Client
