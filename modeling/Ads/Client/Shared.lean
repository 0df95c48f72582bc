import Ads.Client.AdsDevice
import Ads.Client.WireServer

/-!
# A device that is used by many

Threads that use devices over one client at the same time.  Each action of a thread is
one request, and what the thread gets is made of the reply.  So the threads find the
devices that they would find if they took turns.
-/

namespace Ads.Client

open Ads.Bytes Ads.Control Ads.Transition

/-! ## Actions as requests -/

namespace DeviceAction

/-- The request of an action, whose lengths have to fit their fields. -/
def request (target : AmsAddr) : DeviceAction → Outcome Error Request
  | .getInfo => .ok ⟨.devInfo, target, [], [List.replicate 20 0]⟩
  | .getState => .ok ⟨.readState, target, [], [List.replicate 4 0]⟩
  | .writeControl adsState devState =>
      .ok ⟨.writeControl, target, [writeControlPayload adsState devState], []⟩
  | .read indexGroup indexOffset data | .readExact indexGroup indexOffset data => do
      let length ← tryInto data.length
      let header : IndexLength := { indexGroup, indexOffset, length }
      pure ⟨.read, target, [header.asBytes], [u32Bytes 0, data]⟩
  | .write indexGroup indexOffset data => do
      let length ← tryInto data.length
      let header : IndexLength := { indexGroup, indexOffset, length }
      pure ⟨.write, target, [header.asBytes, data], []⟩
  | .writeRead indexGroup indexOffset writeData readData
  | .writeReadExact indexGroup indexOffset writeData readData => do
      let readLength ← tryInto readData.length
      let writeLength ← tryInto writeData.length
      let header : IndexLengthRW := { indexGroup, indexOffset, readLength, writeLength }
      pure ⟨.readWrite, target, [header.asBytes, writeData], [u32Bytes 0, readData]⟩
  | .addNotification indexGroup indexOffset attributes => do
      let length ← tryInto attributes.length
      let maxDelay ← tryInto attributes.maxDelay.asMillis
      let cycleTime ← tryInto attributes.cycleTime.asMillis
      let data : AddNotif :=
        { indexGroup, indexOffset, length, transMode := attributes.transMode.toU32, maxDelay,
          cycleTime }
      pure ⟨.addNotification, target, [data.asBytes], [u32Bytes 0]⟩
  | .deleteNotification handle =>
      .ok ⟨.deleteNotification, target, [u32Bytes handle], []⟩

/-- A request is for the device that it is made for. -/
theorem target_of_request {target : AmsAddr} {action : DeviceAction} {request : Request}
    (requested : action.request target = .ok request) : request.target = target := by
  cases action with
  | getInfo | getState | writeControl | deleteNotification =>
      cases requested
      rfl
  | read | readExact | write =>
      obtain ⟨_, -, made⟩ := Outcome.bind_eq_ok_iff.mp requested
      cases made
      rfl
  | writeRead | writeReadExact =>
      obtain ⟨_, -, rest⟩ := Outcome.bind_eq_ok_iff.mp requested
      obtain ⟨_, -, made⟩ := Outcome.bind_eq_ok_iff.mp rest
      cases made
      rfl
  | addNotification =>
      obtain ⟨_, -, rest⟩ := Outcome.bind_eq_ok_iff.mp requested
      obtain ⟨_, -, rest⟩ := Outcome.bind_eq_ok_iff.mp rest
      obtain ⟨_, -, made⟩ := Outcome.bind_eq_ok_iff.mp rest
      cases made
      rfl

/-- The description that the reply to `get_info` has brought. -/
def infoOf (received : Received) : DeviceInfo :=
  let data := received.bufs.getD 0 []
  let name := ((data.drop 4).takeWhile fun ch => ch != 0).map fun ch => Char.ofNat ch.toNat
  { major := data.getD 0 0
    minor := data.getD 1 0
    version := leU16 (data.drop 2)
    name := String.ofList name }

/-- The length and the buffer that the reply to a read has brought. -/
def readOf (received : Received) : Nat × List UInt8 :=
  ((leU32 (received.bufs.getD 0 [])).toNat, received.bufs.getD 1 [])

/-- What the caller is given, from what has come of the request. -/
def conclude (outcome : Outcome Error Received) : DeviceAction → DeviceResult
  | .getInfo => .info (infoOf <$> outcome)
  | .getState => .state (outcome >>= fun received =>
      let state := received.bufs.getD 0 []
      stateOutcome (leU16 state, leU16 (state.drop 2)))
  | .writeControl _ _ | .write _ _ _ | .deleteNotification _ =>
      .done ((fun _ => ()) <$> outcome)
  | .read _ _ _ | .writeRead _ _ _ _ => .read (readOf <$> outcome)
  | .readExact _ _ _ => .exact (readOf <$> outcome >>= fun result =>
      ensureExact "read data" result.1 result.2)
  | .writeReadExact _ _ _ _ => .exact (readOf <$> outcome >>= fun result =>
      ensureExact "write/read data" result.1 result.2)
  | .addNotification _ _ _ =>
      .handle ((fun received => leU32 (received.bufs.getD 0 [])) <$> outcome)

end DeviceAction

/-- What is made of the value of an operation is made of its outcome. -/
theorem Operation.bind_ofOutcome_run {S α β : Type} {first : Operation S α}
    {next : α → Outcome Error β} {link after : Link S} {outcome : Outcome Error α}
    (ran : first link = (outcome, after)) :
    (first >>= fun value => Operation.ofOutcome (next value)) link =
      (outcome >>= next, after) := by
  cases outcome with
  | ok value => exact Operation.bind_run_ok ran
  | err error => exact Operation.bind_run_err ran
  | panic => exact Operation.bind_run_panic ran

/-- A request with a length field is refused because of the field, or of what comes after it. -/
theorem tryInto_bind_eq_err {α : Type} {value : Nat} {next : UInt32 → Outcome Error α}
    {error : Error} (refused : tryInto value >>= next = .err error) :
    tryInto value = .err error ∨ ∃ word, tryInto value = .ok word ∧ next word = .err error := by
  cases fits : tryInto value with
  | ok word =>
      rw [fits] at refused
      exact .inr ⟨word, rfl, refused⟩
  | err other =>
      rw [fits] at refused
      cases refused
      exact .inl rfl
  | panic =>
      rw [fits] at refused
      cases refused

namespace Program

variable {S : Type} {server : Server S} {device : Device} {program : Program S}
  {action : DeviceAction} {request : Request} {outcome : Outcome Error Received}
  {after : Link S}

theorem perform_of_run {α : Type} {operation : Operation S α} {outcome : Outcome Error α}
    {result : Outcome Error α → DeviceResult}
    (ran : operation program.link = (outcome, after)) :
    program.perform result operation = (result outcome, ⟨program.notifHandles, after⟩) := by
  rw [perform, ran]

theorem performTracked_of_run {α : Type}
    {operation : NotifHandles → Operation S (α × NotifHandles)}
    {result : Outcome Error α → DeviceResult} {next : Received → α}
    {track : Received → NotifHandles}
    (ran : operation program.notifHandles program.link =
      (outcome >>= fun received => .ok (next received, track received), after)) :
    ∃ notifHandles, program.performTracked result operation =
      (result (next <$> outcome), ⟨notifHandles, after⟩) := by
  rw [performTracked, ran]
  cases outcome with
  | ok received => exact ⟨track received, rfl⟩
  | err error => exact ⟨program.notifHandles, rfl⟩
  | panic => exact ⟨program.notifHandles, rfl⟩

theorem read_of_exchange {indexGroup indexOffset length : UInt32} {data : List UInt8}
    (fits : tryInto data.length = .ok length)
    (exchanged : communicate server device .read
      [IndexLength.asBytes ⟨indexGroup, indexOffset, length⟩] [u32Bytes 0, data] program.link =
        (outcome, after)) :
    read server device indexGroup indexOffset data program.link =
      (DeviceAction.readOf <$> outcome, after) := by
  rw [Client.read, fits]
  exact @Operation.bind_ofOutcome_run _ _ _ _
    (fun received => .ok (DeviceAction.readOf received)) _ _ _ exchanged

theorem writeRead_of_exchange {indexGroup indexOffset readLength writeLength : UInt32}
    {writeData readData : List UInt8} (readFits : tryInto readData.length = .ok readLength)
    (writeFits : tryInto writeData.length = .ok writeLength)
    (exchanged : communicate server device .readWrite
      [IndexLengthRW.asBytes ⟨indexGroup, indexOffset, readLength, writeLength⟩, writeData]
      [u32Bytes 0, readData] program.link = (outcome, after)) :
    writeRead server device indexGroup indexOffset writeData readData program.link =
      (DeviceAction.readOf <$> outcome, after) := by
  rw [Client.writeRead, readFits, writeFits]
  exact @Operation.bind_ofOutcome_run _ _ _ _
    (fun received => .ok (DeviceAction.readOf received)) _ _ _ exchanged

/-- An action is its request, and what is made of the reply. -/
theorem step_requested (requested : action.request device.addr = .ok request)
    (exchanged : communicate server ⟨device.source, request.target⟩ request.cmd
      request.payloadBufs request.resultBufs program.link = (outcome, after)) :
    ∃ notifHandles, program.step server device action =
      (action.conclude outcome, ⟨notifHandles, after⟩) := by
  cases action with
  | getInfo =>
      cases requested
      have ran : getInfo server device program.link =
          (outcome >>= fun received => .ok (DeviceAction.infoOf received), after) :=
        Operation.bind_ofOutcome_run exchanged
      exact ⟨_, perform_of_run ran⟩
  | getState =>
      cases requested
      have ran : getState server device program.link = (outcome >>= fun received =>
          stateOutcome (leU16 (received.bufs.getD 0 []),
            leU16 ((received.bufs.getD 0 []).drop 2)), after) :=
        Operation.bind_ofOutcome_run exchanged
      exact ⟨_, perform_of_run ran⟩
  | writeControl adsState devState =>
      cases requested
      have ran : writeControl server device adsState devState program.link =
          (outcome >>= fun _ => .ok (), after) :=
        Operation.bind_ofOutcome_run exchanged
      exact ⟨_, perform_of_run ran⟩
  | read indexGroup indexOffset data =>
      obtain ⟨length, fits, made⟩ := Outcome.bind_eq_ok_iff.mp requested
      cases made
      exact ⟨_, perform_of_run (read_of_exchange fits exchanged)⟩
  | readExact indexGroup indexOffset data =>
      obtain ⟨length, fits, made⟩ := Outcome.bind_eq_ok_iff.mp requested
      cases made
      have ensured : readExact server device indexGroup indexOffset data program.link =
          (DeviceAction.readOf <$> outcome >>= fun result =>
            ensureExact "read data" result.1 result.2, after) :=
        ensured_run (read_of_exchange fits exchanged)
      exact ⟨_, perform_of_run ensured⟩
  | write indexGroup indexOffset data =>
      obtain ⟨length, fits, made⟩ := Outcome.bind_eq_ok_iff.mp requested
      cases made
      have ran : write server device indexGroup indexOffset data program.link =
          (outcome >>= fun _ => .ok (), after) := by
        rw [Client.write, fits]
        exact Operation.bind_ofOutcome_run exchanged
      exact ⟨_, perform_of_run ran⟩
  | writeRead indexGroup indexOffset writeData readData =>
      obtain ⟨readLength, readFits, rest⟩ := Outcome.bind_eq_ok_iff.mp requested
      obtain ⟨writeLength, writeFits, made⟩ := Outcome.bind_eq_ok_iff.mp rest
      cases made
      exact ⟨_, perform_of_run (writeRead_of_exchange readFits writeFits exchanged)⟩
  | writeReadExact indexGroup indexOffset writeData readData =>
      obtain ⟨readLength, readFits, rest⟩ := Outcome.bind_eq_ok_iff.mp requested
      obtain ⟨writeLength, writeFits, made⟩ := Outcome.bind_eq_ok_iff.mp rest
      cases made
      have ensured : writeReadExact server device indexGroup indexOffset writeData readData
          program.link = (DeviceAction.readOf <$> outcome >>= fun result =>
            ensureExact "write/read data" result.1 result.2, after) :=
        ensured_run (writeRead_of_exchange readFits writeFits exchanged)
      exact ⟨_, perform_of_run ensured⟩
  | addNotification indexGroup indexOffset attributes =>
      obtain ⟨length, fits, rest⟩ := Outcome.bind_eq_ok_iff.mp requested
      obtain ⟨maxDelay, delayFits, rest⟩ := Outcome.bind_eq_ok_iff.mp rest
      obtain ⟨cycleTime, cycleFits, made⟩ := Outcome.bind_eq_ok_iff.mp rest
      cases made
      have ran : addNotification server device indexGroup indexOffset attributes
          program.notifHandles program.link = (outcome >>= fun received =>
            .ok (leU32 (received.bufs.getD 0 []),
              insert (device.addr, leU32 (received.bufs.getD 0 [])) program.notifHandles),
            after) := by
        rw [Client.addNotification, fits, delayFits, cycleFits]
        exact Operation.bind_ofOutcome_run exchanged
      exact performTracked_of_run ran
  | deleteNotification handle =>
      cases requested
      have deleted : deleteNotification server device handle program.notifHandles program.link =
          (outcome >>= fun _ => .ok (program.notifHandles.erase (device.addr, handle)), after) :=
        Operation.bind_ofOutcome_run exchanged
      have ran : (deleteNotification server device handle program.notifHandles >>=
          fun notifHandles => pure ((), notifHandles)) program.link =
            (outcome >>= fun _ =>
              .ok ((), program.notifHandles.erase (device.addr, handle)), after) := by
        cases outcome with
        | ok received => exact Operation.bind_run_ok deleted
        | err error => exact Operation.bind_run_err deleted
        | panic => exact Operation.bind_run_panic deleted
      exact @performTracked_of_run _ program outcome after _
        (fun notifHandles => deleteNotification server device handle notifHandles >>=
          fun notifHandles => pure ((), notifHandles))
        .done (fun _ => ()) (fun _ => program.notifHandles.erase (device.addr, handle)) ran

/-- An action without a request is refused, and leaves everything as it is. -/
theorem step_refused {error : Error} (refused : action.request device.addr = .err error) :
    program.step server device action = (action.conclude (.err error), program) := by
  cases action with
  | getInfo | getState | writeControl | deleteNotification => cases refused
  | read indexGroup indexOffset data | readExact indexGroup indexOffset data =>
      rcases tryInto_bind_eq_err refused with long | ⟨_, _, made⟩
      · rw [step, perform]
        simp only [readExact, Client.read, long]
        rfl
      · cases made
  | write indexGroup indexOffset data =>
      rcases tryInto_bind_eq_err refused with long | ⟨_, _, made⟩
      · rw [step, perform, Client.write, long]
        rfl
      · cases made
  | writeRead indexGroup indexOffset writeData readData
  | writeReadExact indexGroup indexOffset writeData readData =>
      rcases tryInto_bind_eq_err refused with long | ⟨_, fits, refused⟩
      · rw [step, perform]
        simp only [writeReadExact, Client.writeRead, long]
        rfl
      · rcases tryInto_bind_eq_err refused with long | ⟨_, _, made⟩
        · rw [step, perform]
          simp only [writeReadExact, Client.writeRead, fits, long]
          rfl
        · cases made
  | addNotification indexGroup indexOffset attributes =>
      rcases tryInto_bind_eq_err refused with long | ⟨_, fits, refused⟩
      · rw [step, performTracked, Client.addNotification, long]
        rfl
      · rcases tryInto_bind_eq_err refused with long | ⟨_, delayFits, refused⟩
        · rw [step, performTracked, Client.addNotification, fits, long]
          rfl
        · rcases tryInto_bind_eq_err refused with long | ⟨_, _, made⟩
          · rw [step, performTracked, Client.addNotification, fits, delayFits, long]
            rfl
          · cases made

end Program

/-! ## Devices that take turns -/

section Turns

variable {S : Type} (ads : AmsAddr → AdsDevice S)

/-- Each device takes the action that is addressed to it. -/
def turn (devices : DeviceState S) (wanted : AmsAddr × DeviceAction) :
    Option (DeviceResult × DeviceState S) :=
  some ((ads wanted.1).step wanted.1 devices wanted.2)

variable {ads} {server : AmsAddr → Server S} {source : AmsAddr}

/-- The request of an action, issued alone, brings what the device gives. -/
theorem step_of_issue (serves : ∀ addr, (ads addr).ServedBy (server addr)) {target : AmsAddr}
    {action : DeviceAction} {request : Request} (requested : action.request target = .ok request)
    {link after : Link S} {outcome : Outcome Error Received}
    (issued : issue server source request link = (outcome, after))
    (notifHandles : NotifHandles) :
    ∃ kept, (ads target).step target ⟨notifHandles, link.server⟩ action =
      (action.conclude outcome, ⟨kept, after.server⟩) := by
  obtain rfl := DeviceAction.target_of_request requested
  obtain ⟨kept, ran⟩ := @Program.step_requested _ (server request.target)
    ⟨source, request.target⟩ ⟨notifHandles, link⟩ action request outcome after requested issued
  have same := Program.step_view (serves request.target) ⟨source, request.target⟩
    ⟨notifHandles, link⟩ action
  rw [ran] at same
  exact ⟨kept, same.symm⟩

/-- The requests of actions, issued one after the other, bring what the devices give that take
turns. -/
theorem transduce_of_inSequence (serves : ∀ addr, (ads addr).ServedBy (server addr))
    {wanted : List (AmsAddr × DeviceAction)} {requests : List Request}
    (each : List.Forall₂ (fun wanted request => wanted.2.request wanted.1 = .ok request)
      wanted requests)
    {link last : Link S} {outcomes : List (Outcome Error Received)}
    (ran : inSequence (issue server source) requests link = (outcomes, last))
    (notifHandles : NotifHandles) :
    ∃ kept, transduce (turn ads) ⟨notifHandles, link.server⟩ wanted =
      some (List.zipWith (fun wanted outcome => wanted.2.conclude outcome) wanted outcomes,
        ⟨kept, last.server⟩) := by
  induction each generalizing link notifHandles outcomes with
  | nil =>
      cases ran
      exact ⟨notifHandles, rfl⟩
  | @cons wanted request others requests first _ ih =>
      rcases issued : issue server source request link with ⟨outcome, after⟩
      rcases rest : inSequence (issue server source) requests after with ⟨outcomes', reached⟩
      rw [inSequence, issued] at ran
      simp only [rest, Prod.mk.injEq] at ran
      obtain ⟨rfl, rfl⟩ := ran
      obtain ⟨kept, stepped⟩ := step_of_issue serves first issued notifHandles
      obtain ⟨final, turns⟩ := ih rest kept
      refine ⟨final, ?_⟩
      rw [transduce, turn, stepped, Option.bind_some, turns]
      rfl

end Turns

/-! ## Devices over bytes -/

/-- The command of a number. -/
def Command.ofU16 (number : UInt16) : Option Command :=
  [.devInfo, .read, .write, .readWrite, .readState, .writeControl, .addNotification,
    .deleteNotification, .notification].find? fun cmd => cmd.toU16 = number

theorem Command.ofU16_toU16 (cmd : Command) : ofU16 cmd.toU16 = some cmd := by
  cases cmd <;> rfl

section Bytes

variable {S : Type}

/-- All replies of the device fit a frame. -/
def AdsDevice.RepliesFit (ads : AdsDevice S) : Prop :=
  ∀ state cmd payload, 32 + (ads.server.handle state cmd payload).2.payload.length < 2 ^ 32

/-- The server of bytes that devices make.  It stops at a reply that does not fit a frame. -/
def byteServer (ads : AmsAddr → AdsDevice S) : ByteServer S where
  handle state target number payload :=
    match Command.ofU16 number with
    | some cmd =>
        let (after, reply) := (ads target).server.handle state cmd payload
        if bound : 32 + reply.payload.length < 2 ^ 32 then
          some (after, ⟨reply.payload, bound⟩, reply.errorCode)
        else none
    | none => none
  notification _ := none

theorem servedBy_byteServer {ads : AmsAddr → AdsDevice S} (fits : ∀ addr, (ads addr).RepliesFit)
    (addr : AmsAddr) : (ads addr).ServedBy ((byteServer ads).devices addr) := by
  have handles : ((byteServer ads).devices addr).handle = (ads addr).server.handle := by
    funext state cmd payload
    have bound := fits addr state cmd payload
    simp only [ByteServer.devices, byteServer, Command.ofU16_toU16, dif_pos bound]
  have same : (byteServer ads).devices addr = (ads addr).server := congrArg Server.mk handles
  rw [same]
  exact (ads addr).servedBy_server

end Bytes

/-! ## Steps over the bytes -/

section Steps

variable {S : Type} {server : ByteServer S} {wire next : Wire S} {act : Wire.Act}

/-- A step is an allowed one of the client, or leaves its calls alone. -/
theorem Wire.step_eq_some (step : wire.step server act = some next) :
    (∃ label, act = .client label ∧ wire.Allows label ∧
        wire.world.step label = some next.world) ∨
      (act = .serve ∧ next.world.calls = wire.world.calls ∧
        next.world.written = wire.world.written) := by
  cases act with
  | client label =>
      simp only [Wire.step] at step
      split at step
      · rename_i allowed
        obtain ⟨after, stepped, rfl⟩ := Option.map_eq_some_iff.mp step
        exact .inl ⟨label, rfl, allowed, stepped⟩
      · cases step
  | serve =>
      obtain ⟨served, -, rfl⟩ := Option.map_eq_some_iff.mp step
      exact .inr ⟨rfl, rfl, rfl⟩

theorem Wire.length_of_step (step : wire.step server act = some next) :
    wire.world.calls.length ≤ next.world.calls.length := by
  rcases step_eq_some step with ⟨label, -, -, stepped⟩ | ⟨-, calls, -⟩
  · exact (World.step_frames stepped).length
  · rw [calls]

theorem Wire.length_of_start {request : Request}
    (step : wire.step server (.client (.start request)) = some next) :
    next.world.calls.length = wire.world.calls.length + 1 := by
  rcases step_eq_some step with ⟨label, equal, -, stepped⟩ | ⟨equal, -, -⟩
  · cases equal
    have started : wire.world.start request = next.world := Option.some.inj stepped
    rw [← started, World.start, List.length_append]
    rfl
  · cases equal

/-- A call keeps its request, unless it is the one that starts. -/
theorem Wire.call_of_step (consistent : wire.world.Consistent)
    (step : wire.step server act = some next) {id : CallId} {new : Call}
    (found : next.world.calls[id]? = some new) :
    (∃ old, wire.world.calls[id]? = some old ∧ new.request = old.request) ∨
      (id = wire.world.calls.length ∧ act = .client (.start new.request)) := by
  rcases step_eq_some step with ⟨label, rfl, -, stepped⟩ | ⟨-, calls, -⟩
  · rcases consistent.step_call stepped found with
      ⟨old, found', life⟩ | ⟨rfl, ⟨request, rfl⟩, -⟩
    · exact .inl ⟨old, found', life.request⟩
    · have started : wire.world.start request = next.world := Option.some.inj stepped
      rw [← started, World.start, List.getElem?_concat_length] at found
      cases found
      exact .inr ⟨rfl, rfl⟩
  · rw [calls] at found
    exact .inl ⟨new, found, rfl⟩

/-- What has been written stays written, in its order. -/
theorem Wire.written_of_step (step : wire.step server act = some next) :
    wire.world.written <+: next.world.written := by
  rcases step_eq_some step with ⟨label, rfl, allowed, stepped⟩ | ⟨-, -, written⟩
  · rcases World.outgoing_of_step stepped (Wire.Matches.whole_of_allows allowed) with
      ⟨written, -⟩ | ⟨_, _, _, -, -, written, -⟩
    · rw [written]
    · rw [written]
      exact List.prefix_append _ _
  · rw [written]

end Steps

/-! ## Threads -/

/-- A client over its bytes, and the actions that its calls are about, each with the device
that is to take it. -/
structure Shared (S : Type) where
  wire : Wire S
  actions : List (AmsAddr × DeviceAction)

namespace Shared

variable {S : Type}

/-- The state before the first action. -/
def initial (source : AmsAddr) (readTimeout : Bool) (state : S) : Shared S :=
  ⟨.initial source readTimeout state, []⟩

/-- A thread begins an action, a call or the reader goes on, or a request is served. -/
inductive Act
  | begin (target : AmsAddr) (action : DeviceAction)
  | goOn (label : Label)
  | serve

/-- One step. -/
def step (server : ByteServer S) (shared : Shared S) : Act → Option (Shared S)
  | .begin target action =>
      match action.request target with
      | .ok request =>
          (shared.wire.step server (.client (.start request))).map fun wire =>
            ⟨wire, shared.actions ++ [(target, action)]⟩
      | .err _ | .panic => none
  | .goOn (.start _) => none
  | .goOn label =>
      (shared.wire.step server (.client label)).map fun wire => { shared with wire }
  | .serve => (shared.wire.step server .serve).map fun wire => { shared with wire }

/-- What a thread has been given for its action, once its call has returned. -/
def result (shared : Shared S) (id : CallId) : Option DeviceResult :=
  match shared.wire.world.calls[id]?, shared.actions[id]? with
  | some { stage := .done outcome, .. }, some (_, action) => some (action.conclude outcome)
  | _, _ => none

theorem result_of_done {shared : Shared S} {id : CallId} {call : Call}
    {wanted : AmsAddr × DeviceAction} {outcome : Outcome Error Received}
    (found : shared.wire.world.calls[id]? = some call)
    (isWanted : shared.actions[id]? = some wanted) (returned : call.stage = .done outcome) :
    shared.result id = some (wanted.2.conclude outcome) := by
  obtain ⟨request, invokeId, stage, channel⟩ := call
  cases returned
  rw [result, found, isWanted]

/-- A step is one of the client or its server, which begins an action or not. -/
theorem step_eq_some {server : ByteServer S} {shared next : Shared S} {act : Act}
    (step : shared.step server act = some next) :
    ∃ wireAct, shared.wire.step server wireAct = some next.wire ∧
      ((∃ target action request, wireAct = .client (.start request) ∧
          action.request target = .ok request ∧
          next.actions = shared.actions ++ [(target, action)]) ∨
        ((∀ request, wireAct ≠ .client (.start request)) ∧ next.actions = shared.actions)) := by
  cases act with
  | begin target action =>
      simp only [Shared.step] at step
      split at step
      · rename_i request requested
        obtain ⟨wire, stepped, rfl⟩ := Option.map_eq_some_iff.mp step
        exact ⟨_, stepped, .inl ⟨target, action, request, rfl, requested, rfl⟩⟩
      · cases step
      · cases step
  | goOn label =>
      cases label with
      | start | arrive => cases step
      | insert | write | receive | timeout | discard | turn | shutdown | drain =>
          obtain ⟨wire, stepped, rfl⟩ := Option.map_eq_some_iff.mp step
          exact ⟨_, stepped, .inr ⟨fun _ => nofun, rfl⟩⟩
  | serve =>
      obtain ⟨wire, stepped, rfl⟩ := Option.map_eq_some_iff.mp step
      exact ⟨_, stepped, .inr ⟨fun _ => nofun, rfl⟩⟩

/-- The request of each call is the one of its action. -/
structure Consistent (server : ByteServer S) (state : S) (shared : Shared S) : Prop where
  isMatch : ∃ service, shared.wire.Matches server state service
  count : shared.actions.length ≤ shared.wire.world.calls.length
  known : ∀ (id : CallId) (call : Call), shared.wire.world.calls[id]? = some call →
    ∃ wanted, shared.actions[id]? = some wanted ∧ wanted.2.request wanted.1 = .ok call.request

namespace Consistent

variable {server : ByteServer S} {state : S} {shared next : Shared S}

theorem initial (server : ByteServer S) (source : AmsAddr) (readTimeout : Bool) (state : S) :
    (Shared.initial source readTimeout state).Consistent server state where
  isMatch := ⟨_, .initial server source readTimeout state⟩
  count := le_rfl
  known := fun _ _ found => by cases found

theorem step {act : Act} (consistent : shared.Consistent server state)
    (step : shared.step server act = some next) : next.Consistent server state := by
  obtain ⟨service, isMatch⟩ := consistent.isMatch
  obtain ⟨wireAct, stepped, begins⟩ := step_eq_some step
  obtain ⟨_, reached, -, matched⟩ := isMatch.step stepped
  have calls {id : CallId} {new : Call} (found : next.wire.world.calls[id]? = some new) :=
    Wire.call_of_step isMatch.world_consistent stepped found
  have length := Wire.length_of_step stepped
  rcases begins with ⟨target, action, request, rfl, requested, grown⟩ | ⟨quiet, same⟩
  · have paired : shared.actions.length = shared.wire.world.calls.length := by
      refine Nat.le_antisymm consistent.count (Nat.le_of_not_lt fun fewer => ?_)
      obtain ⟨wanted, isLast, -⟩ :=
        consistent.known shared.actions.length _ (List.getElem?_eq_getElem fewer)
      exact Nat.lt_irrefl _ (List.getElem?_eq_some_iff.mp isLast).1
    refine ⟨⟨reached, matched⟩, ?_, fun id new found => ?_⟩
    · rw [grown, List.length_append, paired, Wire.length_of_start stepped]
      exact le_rfl
    · rw [grown]
      rcases calls found with ⟨old, found', same⟩ | ⟨rfl, starts⟩
      · obtain ⟨wanted, isWanted, known⟩ := consistent.known id old found'
        refine ⟨wanted, ?_, same ▸ known⟩
        rw [List.getElem?_append_left (List.getElem?_eq_some_iff.mp isWanted).1, isWanted]
      · cases starts
        refine ⟨(target, action), ?_, requested⟩
        rw [← paired, List.getElem?_concat_length]
  · refine ⟨⟨reached, matched⟩, same ▸ consistent.count.trans length, fun id new found => ?_⟩
    rw [same]
    rcases calls found with ⟨old, found', kept⟩ | ⟨-, starts⟩
    · rw [kept]
      exact consistent.known id old found'
    · exact absurd starts (quiet _)

theorem of_run {source : AmsAddr} {readTimeout : Bool} {acts : List Act}
    (run : Run (Shared.step server) (.initial source readTimeout state) acts shared) :
    shared.Consistent server state :=
  run.invariant (.initial server source readTimeout state)
    fun _ _ _ consistent step => consistent.step step

end Consistent

/-- What has been written stays written, in its order. -/
theorem written_of_run {server : ByteServer S} {first last : Shared S} {acts : List Act}
    (run : Run (step server) first acts last) :
    first.wire.world.written <+: last.wire.world.written := by
  refine @Run.invariant _ _ (step server) first last acts
    (fun shared => first.wire.world.written <+: shared.wire.world.written) run
    (List.prefix_refl _) fun shared act next prior taken => ?_
  obtain ⟨_, stepped, -⟩ := step_eq_some taken
  exact prior.trans (Wire.written_of_step stepped)

end Shared

/-- What the threads have been given is what the devices give that take the actions of some of
the calls, one after the other. -/
structure TakesTurns {S : Type} (ads : AmsAddr → AdsDevice S) (state : S) (shared : Shared S)
    (order : List CallId) : Prop where
  once : order.Nodup
  /-- The order is the one in which the requests were written. -/
  written : order <+: shared.wire.world.written
  whole : shared.wire.taken = shared.wire.world.sent.length →
    order = shared.wire.world.written
  results : ∃ wanted results last,
    order.map (shared.actions[·]?) = wanted.map some ∧
      transduce (turn ads) ⟨∅, state⟩ wanted = some (results, last) ∧
      last.state = shared.wire.state ∧
      ∀ (id : CallId) (call : Call), shared.wire.world.calls[id]? = some call → call.Replied →
        ∃ (place : Nat) (result : DeviceResult), order[place]? = some id ∧
          results[place]? = some result ∧ shared.result id = some result
  succeeded : ∀ (id : CallId) (call : Call) received,
    shared.wire.world.calls[id]? = some call → call.stage = .done (.ok received) → call.Replied

/-- The actions of requests that were handled. -/
theorem exists_wanted {actions : List (AmsAddr × DeviceAction)} {handled : List Handled}
    (each : ∀ entry ∈ handled, ∃ wanted, actions[entry.call]? = some wanted ∧
      wanted.2.request wanted.1 = .ok entry.request) :
    ∃ wanted, (handled.map Handled.call).map (actions[·]?) = wanted.map some ∧
      List.Forall₂ (fun wanted request => wanted.2.request wanted.1 = .ok request) wanted
        (handled.map Handled.request) := by
  induction handled with
  | nil => exact ⟨[], rfl, .nil⟩
  | cons entry handled ih =>
      obtain ⟨⟨first, isFirst, fits⟩, others⟩ := List.forall_mem_cons.mp each
      obtain ⟨wanted, same, rest⟩ := ih others
      refine ⟨first :: wanted, ?_, .cons fits rest⟩
      rw [List.map_cons, List.map_cons, List.map_cons, isFirst, same]

/-- The action at the place of its call. -/
theorem wanted_at {actions wanted : List (AmsAddr × DeviceAction)} {order : List CallId}
    (isOrder : order.map (actions[·]?) = wanted.map some) {place : Nat} {id : CallId}
    {action : AmsAddr × DeviceAction} (isPlace : order[place]? = some id)
    (isAction : actions[id]? = some action) : wanted[place]? = some action := by
  have entries := congrArg (fun entries => entries[place]?) isOrder
  rw [List.getElem?_map, List.getElem?_map, isPlace, Option.map_some, isAction] at entries
  obtain ⟨found, isFound, same⟩ := Option.map_eq_some_iff.mp entries.symm
  rw [isFound, Option.some.inj same]

namespace Shared.Consistent

variable {S : Type} {server : ByteServer S} {ads : AmsAddr → AdsDevice S} {state : S}
  {shared : Shared S}

theorem takesTurns (serves : ∀ addr, (ads addr).ServedBy (server.devices addr))
    (consistent : shared.Consistent server state) :
    ∃ order, TakesTurns ads state shared order := by
  obtain ⟨service, isMatch⟩ := consistent.isMatch
  have linearized := isMatch.consistent.linearized
  obtain ⟨outcomes, last, ran, reached, replies⟩ := linearized.outcomes
  have each : ∀ entry ∈ service.handled, ∃ wanted, shared.actions[entry.call]? = some wanted ∧
      wanted.2.request wanted.1 = .ok entry.request := by
    intro entry member
    obtain ⟨-, call, found, same⟩ := isMatch.consistent.received entry member
    obtain ⟨wanted, isWanted, requested⟩ :=
      consistent.known entry.call call (isMatch.world ▸ found)
    rw [same] at requested
    exact ⟨wanted, isWanted, requested⟩
  obtain ⟨wanted, isOrder, requests⟩ := exists_wanted each
  obtain ⟨kept, turns⟩ :=
    @transduce_of_inSequence _ ads server.devices _ serves _ _ requests _ _ _ ran ∅
  refine ⟨service.order, {
    once := isMatch.consistent.once
    written := isMatch.order
    whole := isMatch.order_eq
    results := ⟨wanted, _, _, isOrder, turns, reached.trans isMatch.state, ?_⟩
    succeeded := fun id call received found => linearized.succeeded id call received
      (isMatch.world ▸ found) }⟩
  intro id call found replied
  obtain ⟨place, outcome, isPlace, isOutcome, returned⟩ :=
    replies id call (isMatch.world ▸ found) replied
  obtain ⟨action, isAction, -⟩ := consistent.known id call found
  have here := wanted_at isOrder isPlace isAction
  refine ⟨place, action.2.conclude outcome, isPlace, ?_, ?_⟩
  · rw [List.getElem?_zipWith, here, isOutcome]
  · exact Shared.result_of_done found isAction returned

/-- A call that took a reply was written. -/
theorem written_of_replied (consistent : shared.Consistent server state) {id : CallId}
    {call : Call} (found : shared.wire.world.calls[id]? = some call) (replied : call.Replied) :
    id ∈ shared.wire.world.written := by
  obtain ⟨service, isMatch⟩ := consistent.isMatch
  obtain ⟨entry, isHandled, rfl, -⟩ :=
    isMatch.consistent.outcome_of_replied (isMatch.world ▸ found) replied
  exact isMatch.world ▸ (isMatch.consistent.received entry isHandled).1

end Shared.Consistent

/-- Devices that are used by many threads at once are as if the threads took turns.  Over the
bytes of a server that answers as the devices do, in whatever order fewer than `2 ^ 32` calls,
whose writes send all or nothing, and the reader go on: each action whose call took a reply
has got what the devices give when they take the actions of the handled calls one after the
other, in an order that puts no action behind one that was begun after it had got its result.
An action that makes no request is refused by its device in any state. -/
theorem sharedDevices_takeTurns {S : Type} {server : ByteServer S}
    {ads : AmsAddr → AdsDevice S}
    (serves : ∀ addr, (ads addr).ServedBy (server.devices addr)) {source : AmsAddr}
    {readTimeout : Bool} {state : S} {acts : List Shared.Act} {shared : Shared S}
    (run : Run (Shared.step server) (.initial source readTimeout state) acts shared) :
    (∃ order, TakesTurns ads state shared order ∧
      ∀ prior later middle, acts = prior ++ later →
        Run (Shared.step server) (.initial source readTimeout state) prior middle →
        ∀ (first second : CallId) (call : Call),
          middle.wire.world.calls[first]? = some call → call.Replied →
          middle.wire.world.calls.length ≤ second →
          ∀ i j : Nat, order[i]? = some first → order[j]? = some second → i < j) ∧
    ∀ target action error, action.request target = .err error → ∀ devices,
      (ads target).step target devices action = (action.conclude (.err error), devices) := by
  constructor
  · obtain ⟨order, takesTurns⟩ := (Shared.Consistent.of_run run).takesTurns serves
    refine ⟨order, takesTurns, ?_⟩
    intro prior later middle equal begun first second call found replied fresh i j isFirst isSecond
    subst equal
    obtain ⟨reached, again, rest⟩ := run.split
    cases begun.deterministic again
    have consistent := Shared.Consistent.of_run begun
    obtain ⟨_, isMatch⟩ := consistent.isMatch
    obtain ⟨_, isLast⟩ := (Shared.Consistent.of_run run).isMatch
    obtain ⟨others, written⟩ := takesTurns.written
    have places : ∀ (place : Nat) (id : CallId), order[place]? = some id →
        shared.wire.world.written[place]? = some id := by
      intro place id isPlace
      rw [← written, List.getElem?_append_left (List.getElem?_eq_some_iff.mp isPlace).1, isPlace]
    apply place_lt_of_prefix (Shared.written_of_run rest) isLast.once
      (consistent.written_of_replied found replied) _ (places i first isFirst)
      (places j second isSecond)
    intro member
    exact Nat.lt_irrefl _ (Nat.lt_of_lt_of_le (isMatch.world_consistent.written _ member) fresh)
  · intro target action error refused devices
    have same := Program.step_view (serves target) ⟨source, target⟩
      ⟨devices.notifHandles, ⟨1, devices.state, []⟩⟩ action
    rw [Program.step_refused refused] at same
    exact same.symm

/-- A device that keeps four bytes in a word. -/
def oneWord : AdsDevice UInt32 where
  devInfo word :=
    (word, .ok
      { major := 7, minor := 1, version := 4024, name := [], name_clean := List.not_mem_nil,
        name_short := Nat.zero_le _ })
  readState word := (word, .ok (5, 0))
  writeControl word _ _ := (word, .error .notPermitted)
  read word _ _ count := (word, .ok ⟨(u32Bytes word).take count, List.length_take_le _ _⟩)
  write word _ _ data :=
    if data.length = 4 then (leU32 data, .ok ()) else (word, .error .notPermitted)
  readWrite word _ _ _ _ := (word, .error .invalidGroup)
  addNotification word _ := (word, .error .notPermitted)
  deleteNotification word _ := (word, .error .notFound)

theorem oneWord_repliesFit : oneWord.RepliesFit := by
  intro word cmd payload
  cases cmd with
  | read =>
      change 32 + (u32Bytes 0 ++ (u32Bytes _ ++ (u32Bytes word).take _)).length < 2 ^ 32
      simp only [List.length_append, length_u32Bytes, List.length_take]
      omega
  | write =>
      simp only [AdsDevice.server, oneWord]
      split <;> simp [Except.map, Response.plainReply, Reply.plain, Reply.refusing]
  | writeControl =>
      simp only [AdsDevice.server, oneWord]
      split <;> simp [Except.map, Response.plainReply, Reply.refusing]
  | devInfo | readState =>
      simp only [AdsDevice.server, oneWord]
      decide
  | readWrite | addNotification | deleteNotification | notification =>
      simp [AdsDevice.server, oneWord, Except.map, Response.plainReply, Response.reply,
        Reply.refusing]

/-- Two threads, of which the second is served first. -/
def twoThreads : List Shared.Act :=
  [.begin ⟨.localId, 851⟩ (.readExact 0 0 [9, 9, 9, 9]),
    .begin ⟨.localId, 851⟩ (.write 0 0 [1, 2, 3, 4]), .goOn (.insert 0), .goOn (.insert 1),
    .goOn (.write 1 none), .goOn (.write 0 none), .serve, .serve, .goOn (.turn none),
    .goOn (.turn none), .goOn (.receive 0), .goOn (.receive 1)]

theorem twoThreads_takeTurns :
    ∃ shared, execute (Shared.step (byteServer fun _ => oneWord))
        (.initial ⟨.localId, 1⟩ false 0) twoThreads = some shared ∧
      shared.result 0 = some (.exact (.ok [1, 2, 3, 4])) ∧
      shared.result 1 = some (.done (.ok ())) ∧
      ∃ order, TakesTurns (fun _ => oneWord) 0 shared order ∧ order = [1, 0] := by
  have computed : (execute (Shared.step (byteServer fun _ => oneWord))
      (.initial ⟨.localId, 1⟩ false 0) twoThreads).map (fun shared => (shared.result 0,
        shared.result 1, shared.wire.world.written,
        decide (shared.wire.taken = shared.wire.world.sent.length))) =
      some (some (.exact (.ok [1, 2, 3, 4])), some (.done (.ok ())), [1, 0], true) := by
    decide +kernel
  obtain ⟨shared, executed, same⟩ := Option.map_eq_some_iff.mp computed
  simp only [Prod.mk.injEq] at same
  obtain ⟨readBack, isDone, written, whole⟩ := same
  obtain ⟨⟨order, takesTurns, -⟩, -⟩ := sharedDevices_takeTurns
    (servedBy_byteServer fun _ => oneWord_repliesFit) (.of_execute executed)
  refine ⟨shared, executed, readBack, isDone, order, takesTurns, ?_⟩
  rw [takesTurns.whole (of_decide_eq_true whole), written]

end Ads.Client
