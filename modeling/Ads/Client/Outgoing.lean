import Ads.Client.Leftovers

/-!
# Requests on the wire

What the socket has been sent, over writes that may stop anywhere: whole request
frames, as long as nothing follows a frame that was not written to its end.
-/

namespace Ads.Client

open Ads.Control Ads.Transition

/-- The whole frame of a request, consistent in itself. -/
structure WholeFrame (source : AmsAddr) (request : Request) (invokeId : UInt32)
    (frame : List UInt8) : Prop where
  bytes : frame =
    (requestHeader source request invokeId).asBytes ++ request.payloadBufs.flatten
  length : (requestHeader source request invokeId).length.toNat =
    amsHeaderSize + (requestHeader source request invokeId).dataLength.toNat
  dataLength : (requestHeader source request invokeId).dataLength.toNat =
    request.payloadBufs.flatten.length

/-- What is assembled without an error is a whole frame. -/
theorem wholeFrame_of_assembled {source : AmsAddr} {request : Request} {invokeId : UInt32}
    {frame : List UInt8} (assembled : assembleRequest source request invokeId = .ok frame) :
    WholeFrame source request invokeId frame := by
  unfold assembleRequest at assembled
  dsimp only at assembled
  split at assembled
  · rename_i fits
    cases assembled
    have lower : (request.payloadBufs.map List.length).sum < 2 ^ 32 :=
      Nat.lt_of_le_of_lt (Nat.le_add_left _ _) fits
    have data : (requestHeader source request invokeId).dataLength.toNat =
        (request.payloadBufs.map List.length).sum := UInt32.toNat_ofNat_of_lt' lower
    have whole : (requestHeader source request invokeId).length.toNat =
        amsHeaderSize + (request.payloadBufs.map List.length).sum :=
      UInt32.toNat_ofNat_of_lt' fits
    exact ⟨rfl, by rw [whole, data], by rw [data, List.length_flatten]⟩
  · cases assembled

/-- The request of a call, assembled and not yet written. -/
def Stage.outgoing : Stage → Option (List UInt8)
  | numbered requestBuf => some requestBuf
  | registered requestBuf => some requestBuf
  | _ => none

namespace World

variable {world after : World}

/-- The frame is that of one of the calls. -/
def Requests (world : World) (frame : List UInt8) : Prop :=
  ∃ (id : CallId) (call : Call), world.calls[id]? = some call ∧
    WholeFrame world.source call.request call.invokeId frame

/-- Whether the step is a write that stops inside its frame. -/
def stopsInside (world : World) : Label → Bool
  | .write id (some (count, _)) =>
      match (world.calls[id]?).bind fun call => call.stage.outgoing with
      | some requestBuf => 0 < count && count < requestBuf.length
      | none => false
  | _ => false

end World

/-- A client, and whether a write of it has stopped inside its frame, which is history
that no step reads. -/
structure Sender where
  world : World
  torn : Bool

namespace Sender

/-- The state before the first call. -/
def initial (source : AmsAddr) (readTimeout : Bool) : Sender :=
  ⟨.initial source readTimeout, false⟩

/-- One step of the client. -/
def step (sender : Sender) (label : Label) : Option Sender :=
  (sender.world.step label).map fun after =>
    ⟨after, sender.torn || sender.world.stopsInside label⟩

/-- After a write that stopped inside its frame, every other write fails before its
first byte. -/
def Quiet (sender : Sender) : Label → Prop
  | .write _ none => sender.torn = false
  | .write _ (some (count, _)) => sender.torn = true → count = 0
  | _ => True

theorem step_eq_some {sender next : Sender} {label : Label}
    (step : sender.step label = some next) :
    sender.world.step label = some next.world ∧
      next.torn = (sender.torn || sender.world.stopsInside label) := by
  rcases Option.map_eq_some_iff.mp step with ⟨after, taken, rfl⟩
  exact ⟨taken, rfl⟩

end Sender

/-! ## Frames of the calls -/

namespace World

variable {world after : World}

/-- A call keeps its request in every step. -/
theorem Consistent.requests_step (consistent : world.Consistent) {label : Label}
    (step : world.step label = some after) {frame : List UInt8}
    (frames : world.Requests frame) : after.Requests frame := by
  have framed := step_frames step
  rcases frames with ⟨id, call, found, whole⟩
  rcases consistent.persists step framed.length found with ⟨new, isNew, stepped⟩
  refine ⟨id, new, isNew, ?_⟩
  rw [framed.source, stepped.request, stepped.invokeId]
  exact whole

/-- What waits to be written is the whole frame of its call. -/
def Assembled (world : World) : Prop :=
  ∀ (id : CallId) (call : Call) (requestBuf : List UInt8), world.calls[id]? = some call →
    call.stage.outgoing = some requestBuf →
      WholeFrame world.source call.request call.invokeId requestBuf

end World

/-- No step but the start assembles a request. -/
theorem Call.Step.outgoing {world : World} {id : CallId} {old new : Call} {label : Label}
    {requestBuf : List UInt8} (step : Call.Step world id old label new)
    (waits : new.stage.outgoing = some requestBuf) :
    old.stage.outgoing = some requestBuf := by
  cases step with
  | still => exact waits
  | inserted numbered =>
      rw [numbered]
      exact waits
  | written => cases waits
  | unwritten => cases waits
  | @received message =>
      cases message with
      | ok frame => cases waits
      | error error => cases waits
  | hungUp => cases waits
  | timedOut => cases waits
  | discarded => cases waits
  | displaced => exact waits
  | delivered => exact waits

namespace World

variable {world after : World}

theorem Consistent.assembled_step (consistent : world.Consistent) {label : Label}
    (step : world.step label = some after) (assembled : world.Assembled) :
    after.Assembled := by
  intro id new requestBuf isNew waits
  rcases consistent.step_call step isNew with ⟨old, found, stepped⟩ | ⟨last, ⟨request, rfl⟩, -⟩
  · rw [(step_frames step).source, stepped.request, stepped.invokeId]
    exact assembled id old requestBuf found (stepped.outgoing waits)
  · cases step
    rw [World.start, last, List.getElem?_concat_length] at isNew
    cases isNew
    apply wholeFrame_of_assembled
    dsimp only at waits ⊢
    cases made : assembleRequest world.source request world.invokeId with
    | ok frame =>
        rw [made] at waits
        cases waits
        exact made
    | error error =>
        rw [made] at waits
        cases waits

/-- Only a write sends bytes. -/
theorem sent_of_step {label : Label} (step : world.step label = some after)
    (quiet : ∀ id failure, label ≠ .write id failure) : after.sent = world.sent := by
  cases label with
  | start request =>
      cases step
      rfl
  | insert call =>
      obtain ⟨_, _, _, _, rfl⟩ := insert_eq_some step
      rfl
  | write call failure => exact absurd rfl (quiet call failure)
  | receive call =>
      obtain ⟨_, _, _, ⟨_, _, rfl⟩ | ⟨_, rfl⟩⟩ := receive_eq_some step
      · rfl
      · rfl
  | timeout call =>
      obtain ⟨_, _, _, _, _, rfl⟩ := timeout_eq_some step
      rfl
  | discard call =>
      obtain ⟨_, _, _, _, rfl⟩ := discard_eq_some step
      rfl
  | arrive bytes =>
      cases step
      rfl
  | turn socketEnd =>
      obtain ⟨-, ⟨_, rfl⟩ | ⟨_, _, rfl⟩ | ⟨_, _, _, _, _, _, rfl⟩ | ⟨_, _, _, rfl⟩ | rfl⟩ :=
        turn_eq_some step
      · rfl
      · rfl
      · rfl
      · rfl
      · rfl
  | shutdown =>
      obtain ⟨_, _, rfl⟩ := shutdown_eq_some step
      rfl
  | drain =>
      obtain ⟨_, _, rfl⟩ := drain_eq_some step
      rfl

end World

/-! ## The stream -/

namespace Sender

variable {sender next : Sender}

/-- The bytes are whole frames, and the front of one more if they are torn. -/
def Stream (isFrame : List UInt8 → Prop) (torn : Bool) (bytes : List UInt8) : Prop :=
  ∃ (frames : List (List UInt8)) (rest : List UInt8), bytes = frames.flatten ++ rest ∧
    (∀ frame ∈ frames, isFrame frame) ∧
    if torn then
      rest ≠ [] ∧ ∃ frame, isFrame frame ∧ rest <+: frame ∧ rest.length < frame.length
    else rest = []

/-- The invariant of the sender. -/
structure Framed (sender : Sender) : Prop where
  consistent : sender.world.Consistent
  assembled : sender.world.Assembled
  stream : Stream sender.world.Requests sender.torn sender.world.sent

theorem Framed.initial (source : AmsAddr) (readTimeout : Bool) :
    (Sender.initial source readTimeout).Framed where
  consistent := .initial source readTimeout
  assembled := by
    intro id call requestBuf found
    cases found
  stream := ⟨[], [], rfl, by simp, rfl⟩

theorem Stream.mono {isFrame isOther : List UInt8 → Prop} {torn : Bool} {bytes : List UInt8}
    (stream : Stream isFrame torn bytes) (kept : ∀ frame, isFrame frame → isOther frame) :
    Stream isOther torn bytes := by
  rcases stream with ⟨frames, rest, sent, whole, last⟩
  refine ⟨frames, rest, sent, fun frame member => kept frame (whole frame member), ?_⟩
  cases torn with
  | false => exact last
  | true =>
      rcases last with ⟨some, frame, isRequest, front, short⟩
      exact ⟨some, frame, kept frame isRequest, front, short⟩

/-- A whole frame follows whole frames. -/
theorem Stream.append {isFrame : List UInt8 → Prop} {bytes frame : List UInt8}
    (stream : Stream isFrame false bytes) (added : isFrame frame) :
    Stream isFrame false (bytes ++ frame) := by
  rcases stream with ⟨frames, rest, rfl, whole, last⟩
  cases last
  refine ⟨frames ++ [frame], [], by simp, ?_, rfl⟩
  intro other member
  rcases List.mem_append.mp member with old | new
  · exact whole other old
  · cases List.mem_singleton.mp new
    exact added

/-- The front of a frame follows whole frames. -/
theorem Stream.append_front {isFrame : List UInt8 → Prop} {bytes frame : List UInt8}
    {count : Nat} (stream : Stream isFrame false bytes) (added : isFrame frame)
    (some : 0 < count) (inside : count < frame.length) :
    Stream isFrame true (bytes ++ frame.take count) := by
  rcases stream with ⟨frames, rest, rfl, whole, last⟩
  cases last
  have size : (frame.take count).length = count := List.length_take_of_le inside.le
  refine ⟨frames, frame.take count, by rw [List.append_nil], whole, ?_, frame, added,
    List.take_prefix count frame, ?_⟩
  · apply List.ne_nil_of_length_pos
    rw [size]
    exact some
  · rw [size]
    exact inside

/-- What a write does to the stream. -/
theorem Framed.write {id : CallId} {failure : Option (Nat × IoErrorKind)}
    (framed : sender.Framed) (quiet : sender.Quiet (.write id failure))
    (step : sender.step (.write id failure) = some next) :
    Stream sender.world.Requests next.torn next.world.sent := by
  have stream := framed.stream
  rcases step_eq_some step with ⟨taken, torn⟩
  obtain ⟨call, requestBuf, found, registered, written⟩ := World.write_eq_some taken
  have outgoing : call.stage.outgoing = some requestBuf := by
    rw [registered]
    rfl
  have isRequest : sender.world.Requests requestBuf :=
    ⟨id, call, found, framed.assembled id call requestBuf found outgoing⟩
  rcases written with ⟨rfl, -, after⟩ | ⟨count, kind, rfl, after⟩
  · have clean : sender.torn = false := quiet
    rw [clean] at stream torn
    rw [torn, after]
    exact stream.append isRequest
  · have stops : sender.world.stopsInside (.write id (some (count, kind))) =
        (decide (0 < count) && decide (count < requestBuf.length)) := by
      rw [World.stopsInside, found, Option.bind_some, outgoing]
    have grown : next.world.sent = sender.world.sent ++ requestBuf.take count := by rw [after]
    rw [stops] at torn
    cases isTorn : sender.torn with
    | true =>
        have nothing : count = 0 := quiet isTorn
        rw [isTorn] at stream torn
        rw [torn, grown, nothing, List.take_zero, List.append_nil]
        exact stream
    | false =>
        rw [isTorn, Bool.false_or] at torn
        rw [isTorn] at stream
        rw [torn, grown]
        rcases Nat.eq_zero_or_pos count with rfl | some
        · rw [List.take_zero, List.append_nil]
          exact stream
        · by_cases inside : count < requestBuf.length
          · rw [decide_eq_true some, decide_eq_true inside]
            exact stream.append_front isRequest some inside
          · rw [decide_eq_false inside, Bool.and_false,
              List.take_of_length_le (Nat.le_of_not_lt inside)]
            exact stream.append isRequest

theorem Framed.step {label : Label} (framed : sender.Framed) (quiet : sender.Quiet label)
    (step : sender.step label = some next) : next.Framed := by
  rcases step_eq_some step with ⟨taken, torn⟩
  have kept : ∀ frame, sender.world.Requests frame → next.world.Requests frame :=
    fun _ => framed.consistent.requests_step taken
  have stream : Stream sender.world.Requests next.torn next.world.sent := by
    cases label with
    | write id failure => exact framed.write quiet step
    | _ =>
        rw [World.sent_of_step taken (fun _ _ equal => by cases equal), torn]
        simpa [World.stopsInside] using framed.stream
  exact {
    consistent := framed.consistent.step taken
    assembled := framed.consistent.assembled_step taken framed.assembled
    stream := stream.mono kept }

/-- After a write that stopped inside its frame, nothing more is sent. -/
theorem sent_of_torn {label : Label} (torn : sender.torn = true) (quiet : sender.Quiet label)
    (step : sender.step label = some next) :
    next.torn = true ∧ next.world.sent = sender.world.sent := by
  rcases step_eq_some step with ⟨taken, still⟩
  rw [torn, Bool.true_or] at still
  refine ⟨still, ?_⟩
  cases label with
  | write id failure =>
      obtain ⟨_, _, _, _, ⟨rfl, -, -⟩ | ⟨count, _, rfl, after⟩⟩ := World.write_eq_some taken
      · have clean : sender.torn = false := quiet
        rw [torn] at clean
        cases clean
      · have nothing : count = 0 := quiet torn
        rw [after, nothing, List.take_zero, List.append_nil]
  | _ => exact World.sent_of_step taken fun _ _ equal => by cases equal

end Sender

/-- If, after a write that stopped inside its frame, every other write fails before its
first byte, then in every state the bytes sent are whole frames of requests, followed by
nothing, or by the front of one more frame, and then by nothing ever after. -/
theorem requests_whole {source : AmsAddr} {readTimeout : Bool} {labels : List Label}
    {last : Sender} (run : Run Sender.step (.initial source readTimeout) labels last)
    (quiet : AllSteps Sender.step (.initial source readTimeout) labels Sender.Quiet) :
    AllStates Sender.step (.initial source readTimeout) labels fun sender =>
      ∃ (frames : List (List UInt8)) (rest : List UInt8),
        sender.world.sent = frames.flatten ++ rest ∧
        (∀ frame ∈ frames, sender.world.Requests frame) ∧
        (rest = [] ∨ (∃ frame, sender.world.Requests frame ∧ rest <+: frame ∧
          rest.length < frame.length) ∧ last.world.sent = sender.world.sent) := by
  intro prior later sender split first
  subst split
  have framed : sender.Framed :=
    first.invariant_allSteps (Run.allSteps_of_append_left quiet)
      (Sender.Framed.initial source readTimeout) fun _ _ _ framed quiet step =>
        framed.step quiet step
  rcases framed.stream with ⟨frames, rest, sent, whole, ends⟩
  refine ⟨frames, rest, sent, whole, ?_⟩
  by_cases torn : sender.torn = true
  · rw [if_pos torn] at ends
    refine .inr ⟨ends.2, ?_⟩
    rcases run.split with ⟨middle, reached, rest⟩
    cases reached.deterministic first
    have still : last.torn = true ∧ last.world.sent = sender.world.sent := by
      refine @Run.invariant_allSteps _ _ Sender.step sender last later
        (fun next => next.torn = true ∧ next.world.sent = sender.world.sent) Sender.Quiet
        rest (Run.allSteps_of_append first quiet) ⟨torn, rfl⟩ ?_
      rintro before label after ⟨torn, same⟩ quiet step
      rcases Sender.sent_of_torn torn quiet step with ⟨torn, unchanged⟩
      exact ⟨torn, unchanged.trans same⟩
    exact still.2
  · rw [if_neg torn] at ends
    exact .inl ends

/-- Every run of the client has its history. -/
theorem exists_sender_run {source : AmsAddr} {readTimeout : Bool} {labels : List Label}
    {world : World} (run : Run World.step (.initial source readTimeout) labels world) :
    ∃ torn, Run Sender.step (.initial source readTimeout) labels ⟨world, torn⟩ := by
  induction run with
  | nil => exact ⟨false, .nil⟩
  | @snoc labels label middle after _ taken ih =>
      rcases ih with ⟨torn, run⟩
      refine ⟨torn || middle.stopsInside label, run.snoc ?_⟩
      rw [Sender.step, taken]
      rfl

/-- Three calls: one request is written, the next stops after two bytes, and the last
fails. -/
def lastWrite : List Label :=
  [.start plainRead, .start plainRead, .start plainRead, .insert 0, .insert 1, .insert 2,
    .write 1 none, .write 0 (some (2, .timedOut)), .write 2 (some (0, .timedOut))]

/-- The bytes sent are one frame and the front of another. -/
theorem lastWrite_whole :
    ∃ last, execute Sender.step (.initial ⟨.localId, 1⟩ true) lastWrite = some last ∧
      last.world.sent.length = 40 ∧ ∃ (frames : List (List UInt8)) (rest : List UInt8),
        last.world.sent = frames.flatten ++ rest ∧
        ∀ frame ∈ frames, last.world.Requests frame := by
  have run : Run Sender.step (.initial ⟨.localId, 1⟩ true) lastWrite _ := .of_execute rfl
  have quiet : AllSteps Sender.step (.initial ⟨.localId, 1⟩ true) lastWrite Sender.Quiet := by
    refine Run.allSteps_cons trivial rfl ?_
    refine Run.allSteps_cons trivial rfl ?_
    refine Run.allSteps_cons trivial rfl ?_
    refine Run.allSteps_cons trivial rfl ?_
    refine Run.allSteps_cons trivial rfl ?_
    refine Run.allSteps_cons trivial rfl ?_
    refine Run.allSteps_cons rfl rfl ?_
    refine Run.allSteps_cons (fun torn => by cases torn) rfl ?_
    exact Run.allSteps_cons (fun _ => rfl) rfl Run.allSteps_nil
  rcases requests_whole run quiet lastWrite [] _ rfl run with ⟨frames, rest, sent, whole, -⟩
  exact ⟨_, rfl, rfl, frames, rest, sent, whole⟩

/-- Two calls; the write of the first stops after one byte. -/
def tornWrite : List Label :=
  [.start plainRead, .start plainRead, .insert 0, .insert 1, .write 0 (some (1, .timedOut)),
    .write 1 none]

theorem World.plainRead_of_requests {world : World} {frame : List UInt8}
    (source : world.source = ⟨.localId, 1⟩)
    (calls : ∀ call ∈ world.calls, call.request = plainRead ∧
      (call.invokeId = 1 ∨ call.invokeId = 2))
    (isRequest : world.Requests frame) : frame.length = 38 ∧ frame[2]? = some 32 := by
  rcases isRequest with ⟨id, call, found, whole⟩
  rcases calls call (List.mem_of_getElem? found) with ⟨request, number | number⟩
  · rw [whole.bytes, source, request, number]
    decide +kernel
  · rw [whole.bytes, source, request, number]
    decide +kernel

/-- The request of the second goes into the frame of the first. -/
theorem tornWrite_mixes :
    ∃ last, execute World.step (.initial ⟨.localId, 1⟩ true) tornWrite = some last ∧
      ¬ ∃ (frames : List (List UInt8)) (rest : List UInt8),
        last.sent = frames.flatten ++ rest ∧ (∀ frame ∈ frames, last.Requests frame) ∧
        (rest = [] ∨ ∃ frame, last.Requests frame ∧ rest <+: frame) := by
  have computed : (execute World.step (.initial ⟨.localId, 1⟩ true) tornWrite).map
      (fun last => (last.source, last.calls.map fun call => (call.request, call.invokeId),
        last.sent.length, last.sent[2]?)) =
      some (⟨.localId, 1⟩, [(plainRead, 1), (plainRead, 2)], 39, some 0) := rfl
  rcases Option.map_eq_some_iff.mp computed with ⟨last, ran, facts⟩
  simp only [Prod.mk.injEq] at facts
  rcases facts with ⟨source, known, size, third⟩
  refine ⟨last, ran, ?_⟩
  rintro ⟨frames, rest, sent, whole, ends⟩
  have calls : ∀ call ∈ last.calls, call.request = plainRead ∧
      (call.invokeId = 1 ∨ call.invokeId = 2) := by
    intro call member
    have pair : (call.request, call.invokeId) ∈ [(plainRead, (1 : UInt32)), (plainRead, 2)] :=
      known ▸ List.mem_map_of_mem member
    rcases List.mem_pair.mp pair with equal | equal
    · exact ⟨congrArg Prod.fst equal, .inl (congrArg Prod.snd equal)⟩
    · exact ⟨congrArg Prod.fst equal, .inr (congrArg Prod.snd equal)⟩
  cases frames with
  | nil =>
      rw [List.flatten_nil, List.nil_append] at sent
      rw [sent] at size
      rcases ends with rfl | ⟨frame, isRequest, front⟩
      · cases size
      · have le := front.length_le
        have length := (World.plainRead_of_requests source calls isRequest).1
        omega
  | cons frame frames =>
      rcases World.plainRead_of_requests source calls (whole frame List.mem_cons_self) with
        ⟨length, other⟩
      rw [sent, List.flatten_cons, List.append_assoc,
        List.getElem?_append_left (by omega), other] at third
      cases third

end Ads.Client
