import Ads.Client.Framing

/-!
# Demultiplexing a stream of frames

A frame-level description of what the reader owes to each frame, and the proof
that the reader, working on the bytes, does exactly that: replies go to the
callers registered for them, notifications to the channel in stream order, and
every other frame is skipped.
-/

namespace Ads.Client

open Ads.Bytes Ads.Control Ads.Notif

namespace Frame

/-- The header of a reply frame for the client. -/
def reply (source : AmsAddr) (frame : Frame) : Option AdsHeader :=
  match frame.header with
  | some header =>
      if frame.amsCmd = 0 ∧ header.dest = source ∧
          header.command ≠ Command.notification.toU16 then
        some header
      else none
  | none => none

/-- The notification that a frame carries for the client: state flags 4, no
error, an inner length of at least 4 that matches the payload, and a body that
parses. -/
def notification (source : AmsAddr) (frame : Frame) : Option Notification :=
  match frame.header with
  | some header =>
      if frame.amsCmd = 0 ∧ header.dest = source ∧
          header.command = Command.notification.toU16 ∧
          header.stateFlags = 4 ∧ header.errorCode = 0 ∧
          (leU32 frame.payload).toNat + 4 = frame.payload.length ∧
          4 ≤ (leU32 frame.payload).toNat then
        match Notification.new frame.bytes with
        | .ok notification => some notification
        | _ => none
      else none
  | none => none

/-- The frames of a sane peer: too short for a header, or with consistent
lengths and a known reserved field, notifications for the client being at least
as long as their inner length word. -/
def WellFormed (source : AmsAddr) (frame : Frame) : Prop :=
  frame.content.length < 32 ∨
    ∃ header, frame.header = some header ∧
      frame.content.length = 32 + header.dataLength.toNat ∧
      frame.amsCmd ∈ [0, 1, 0x1000, 0x1001, 0x1002] ∧
      (frame.amsCmd = 0 → header.dest = source →
        header.command = Command.notification.toU16 → 4 ≤ frame.payload.length)

end Frame

/-- One frame of the stream, with what the other threads do to the shared state
before the reader's turn on it: how they change the pending map, and which
callers still hold their receiver. -/
structure Moment where
  change : PendingMap → PendingMap
  receiving : CallId → Bool
  frame : Frame

/-- Every reply frame finds its invoke id pending, with the caller waiting. -/
def Served (source : AmsAddr) : List Moment → PendingMap → Prop
  | [], _ => True
  | moment :: moments, pending =>
      match moment.frame.reply source with
      | some header =>
          (∃ call, (moment.change pending).lookup header.invokeId = some call ∧
            moment.receiving call = true) ∧
          Served source moments ((moment.change pending).erase header.invokeId)
      | none => Served source moments (moment.change pending)

/-- The pending map after the stream: it lost the ids of the reply frames. -/
def pendingAfter (source : AmsAddr) : List Moment → PendingMap → PendingMap
  | [], pending => pending
  | moment :: moments, pending =>
      match moment.frame.reply source with
      | some header => pendingAfter source moments
          ((moment.change pending).erase header.invokeId)
      | none => pendingAfter source moments (moment.change pending)

/-- A reply handed to a caller. -/
structure Handover where
  call : CallId
  header : AdsHeader
  payload : List UInt8
  deriving DecidableEq

/-- The replies owed: each reply frame, with its payload bytes, to the caller
registered for its invoke id at that moment. -/
def owedReplies (source : AmsAddr) : List Moment → PendingMap → List Handover
  | [], _ => []
  | moment :: moments, pending =>
      match moment.frame.reply source with
      | some header =>
          (((moment.change pending).lookup header.invokeId).toList.map fun call =>
            ⟨call, header, moment.frame.payload⟩) ++
          owedReplies source moments ((moment.change pending).erase header.invokeId)
      | none => owedReplies source moments (moment.change pending)

/-- The notifications owed: those carried by the frames, in stream order. -/
def owedNotifications (source : AmsAddr) (moments : List Moment) : List Notification :=
  moments.filterMap fun moment => moment.frame.notification source

/-- The reader between two turns: the unread bytes, the pending map, and what it
has handed out. -/
structure Progress where
  rest : List UInt8
  pending : PendingMap
  replies : List Handover
  notifications : List Notification

/-- Record what a turn has sent. -/
def Progress.after (progress : Progress) (rest : List UInt8) (pending : PendingMap) :
    Effect → Progress
  | .nothing => { progress with rest, pending }
  | .replied call header payload =>
      { progress with rest, pending, replies := progress.replies ++ [⟨call, header, payload⟩] }
  | .notified notification =>
      { progress with rest, pending, notifications := progress.notifications ++ [notification] }

/-- Run the loop over a sequence of moments: before each turn the other threads
act.  The run has no result when the loop ends or panics. -/
def readerRun (source : AmsAddr) : List Moment → Progress → Option Progress
  | [], progress => some progress
  | moment :: moments, progress =>
      match readerTurn source (moment.change progress.pending) moment.receiving none
          progress.rest with
      | .continued rest pending effect =>
          readerRun source moments (progress.after rest pending effect)
      | .blocked => some progress
      | .returned _ _ => none
      | .panicked => none

/-! ## A turn on a well-formed frame -/

/-- A notification frame for the client is handed on exactly when its body
qualifies, and skipped otherwise. -/
theorem inspectNotification_eq {source : AmsAddr} {frame : Frame} {header : AdsHeader}
    (found : frame.header = some header) (command : frame.amsCmd = 0)
    (dest : header.dest = source)
    (isNotification : header.command = Command.notification.toU16)
    (size : header.dataLength.toNat = frame.payload.length)
    (long : 4 ≤ frame.payload.length) :
    inspectNotification ⟨header.asBytes, header, frame.payload⟩ =
      .ok (match frame.notification source with
        | some notification => .notify notification
        | none => .skip) := by
  obtain ⟨split, -, -⟩ := Frame.bytes_of_header found
  have below : (4 : UInt32) ≤ header.dataLength := by
    rw [UInt32.le_iff_toNat_le, size]
    exact long
  have inner : (leU32 frame.payload ≠ header.dataLength - 4 ∨ leU32 frame.payload < 4) ↔
      ¬ ((leU32 frame.payload).toNat + 4 = frame.payload.length ∧
        4 ≤ (leU32 frame.payload).toNat) := by
    rw [ne_eq, ← UInt32.toNat_inj, UInt32.toNat_sub_of_le _ _ below, UInt32.lt_iff_toNat_lt, size]
    have : (4 : UInt32).toNat = 4 := rfl
    omega
  by_cases flags : header.stateFlags = 4 ∧ header.errorCode = 0
  · obtain ⟨stateFlags, errorCode⟩ := flags
    by_cases qualifies : (leU32 frame.payload).toNat + 4 = frame.payload.length ∧
        4 ≤ (leU32 frame.payload).toNat
    · have kept : ¬ (leU32 frame.payload ≠ header.dataLength - 4 ∨
          leU32 frame.payload < 4) := by
        rw [inner]
        exact not_not.mpr qualifies
      have condition : frame.amsCmd = 0 ∧ header.dest = source ∧
          header.command = Command.notification.toU16 ∧ header.stateFlags = 4 ∧
          header.errorCode = 0 ∧ (leU32 frame.payload).toNat + 4 = frame.payload.length ∧
          4 ≤ (leU32 frame.payload).toNat :=
        ⟨command, dest, isNotification, stateFlags, errorCode, qualifies⟩
      simp only [inspectNotification, checkedU32, long, if_true, Outcome.ok_bind, stateFlags,
        errorCode, ne_eq, not_true, or_self, if_false, checkedSub, below]
      rw [if_neg kept, ← split, Frame.notification, found]
      simp only [condition, if_true, and_self]
      cases parsed : Notification.new frame.bytes with
      | ok notification => simp
      | err error => simp
      | panic => exact absurd parsed (Notification.new_ne_panic _)
    · have dropped := inner.mpr qualifies
      simp only [inspectNotification, checkedU32, long, if_true, Outcome.ok_bind, stateFlags,
        errorCode, ne_eq, not_true, or_self, if_false, checkedSub, below]
      rw [if_pos dropped, Frame.notification, found]
      simp [qualifies]
  · have flagged : header.stateFlags ≠ 4 ∨ header.errorCode ≠ 0 := by
      rw [ne_eq, ne_eq, ← not_and_or]
      exact flags
    simp only [inspectNotification, checkedU32, long, if_true, Outcome.ok_bind]
    rw [if_pos flagged, Frame.notification, found]
    have condition : ¬ (frame.amsCmd = 0 ∧ header.dest = source ∧
        header.command = Command.notification.toU16 ∧ header.stateFlags = 4 ∧
        header.errorCode = 0 ∧ (leU32 frame.payload).toNat + 4 = frame.payload.length ∧
        4 ≤ (leU32 frame.payload).toNat) := fun all => flags ⟨all.2.2.2.1, all.2.2.2.2.1⟩
    simp only [condition, if_false]

/-- What a turn on a frame with consistent lengths does after receiving it. -/
theorem readerTurn_of_header {source : AmsAddr} {pending : PendingMap}
    {receiving : CallId → Bool} {socketEnd : Option IoErrorKind} {frame : Frame}
    {header : AdsHeader} (rest : List UInt8) (found : frame.header = some header)
    (size : header.dataLength.toNat = frame.payload.length) :
    readerTurn source pending receiving socketEnd (frame.bytes ++ rest) =
      match inspect source ⟨header.asBytes, header, frame.payload⟩ with
      | .err error => .returned error pending
      | .panic => .panicked
      | .ok .skip => .continued rest pending .nothing
      | .ok (.notify notification) => .continued rest pending (.notified notification)
      | .ok .reply =>
          match settle pending receiving header with
          | (pending, .ok call) => .continued rest pending (.replied call header frame.payload)
          | (pending, .error error) => .returned error pending := by
  obtain ⟨split, -, length⟩ := Frame.bytes_of_header found
  have long : 32 ≤ header.length.toNat := by omega
  have enough : header.dataLength.toNat ≤ (frame.payload ++ rest).length := by
    rw [size, List.length_append]
    exact Nat.le_add_right _ _
  apply Eq.trans
  · rw [readerTurn, split, List.append_assoc, receive_long socketEnd _ long, if_pos enough,
      size, List.take_left, List.drop_left]
  · rfl

/-- A frame is not both a reply and a notification. -/
theorem Frame.notification_of_reply {source : AmsAddr} {frame : Frame} {header : AdsHeader}
    (isReply : frame.reply source = some header) : frame.notification source = none := by
  unfold Frame.reply at isReply
  cases found : frame.header with
  | none => simp [found] at isReply
  | some header =>
      simp only [found] at isReply
      split at isReply
      · rename_i condition
        simp [Frame.notification, found, condition.2.2]
      · cases isReply

/-- The turn on a well-formed frame that is no reply consumes it, leaves the
pending map alone, and hands on the notification that the frame carries. -/
theorem readerTurn_no_reply {source : AmsAddr} {pending : PendingMap}
    {receiving : CallId → Bool} {socketEnd : Option IoErrorKind} {frame : Frame}
    (rest : List UInt8) (wellFormed : frame.WellFormed source)
    (noReply : frame.reply source = none) :
    readerTurn source pending receiving socketEnd (frame.bytes ++ rest) =
      .continued rest pending (match frame.notification source with
        | some notification => .notified notification
        | none => .nothing) := by
  rcases wellFormed with short | ⟨header, found, size, known, long⟩
  · have noHeader : frame.header = none := by
      rw [Frame.header, if_neg (Nat.not_le_of_lt short)]
    rw [readerTurn_short rest short, Frame.notification, noHeader]
  · obtain ⟨-, amsCmd, length⟩ := Frame.bytes_of_header found
    have payloadSize : header.dataLength.toNat = frame.payload.length := by
      rw [Frame.payload, List.length_drop]
      omega
    have minimum : 32 ≤ header.length.toNat := by omega
    rw [readerTurn_of_header rest found payloadSize, inspect_asBytes source header _ minimum,
      amsCmd]
    by_cases command : frame.amsCmd = 0
    · have notRouter : ¬ IsRouterCmd 0 := by decide
      have consistent : header.dataLength.toNat + 32 = header.length.toNat := by omega
      simp only [command, notRouter, consistent, ne_eq, not_true_eq_false, if_false]
      by_cases dest : header.dest = source
      · have isNotification : header.command = Command.notification.toU16 := by
          by_contra other
          simp [Frame.reply, found, command, dest, other] at noReply
        have verdict := inspectNotification_eq found command dest isNotification payloadSize
          (long command dest isNotification)
        simp only [dest, isNotification, not_true_eq_false, if_false, verdict]
        cases frame.notification source <;> rfl
      · have none : frame.notification source = none := by
          simp [Frame.notification, found, dest]
        simp only [dest, not_false_eq_true, if_true, none]
    · have router : IsRouterCmd frame.amsCmd := by
        simp only [List.mem_cons, List.not_mem_nil, or_false] at known
        rcases known with zero | known | known | known | known
        · exact absurd zero command
        all_goals rw [known]; decide
      have none : frame.notification source = none := by
        simp [Frame.notification, found, command]
      rw [if_pos router, none]

/-- The turn on a well-formed reply frame settles the request. -/
theorem readerTurn_of_reply {source : AmsAddr} {pending : PendingMap}
    {receiving : CallId → Bool} {socketEnd : Option IoErrorKind} {frame : Frame}
    {header : AdsHeader} (rest : List UInt8) (wellFormed : frame.WellFormed source)
    (isReply : frame.reply source = some header) :
    readerTurn source pending receiving socketEnd (frame.bytes ++ rest) =
      match settle pending receiving header with
      | (pending, .ok call) => .continued rest pending (.replied call header frame.payload)
      | (pending, .error error) => .returned error pending := by
  unfold Frame.reply at isReply
  split at isReply
  · rename_i header found
    split at isReply
    · rename_i condition
      cases isReply
      obtain ⟨command, dest, notNotification⟩ := condition
      have long : 32 ≤ frame.content.length :=
        frame.isSome_header_iff.mp (by rw [found]; rfl)
      rcases wellFormed with short | ⟨header, found', size, -, -⟩
      · omega
      · rw [found] at found'
        cases found'
        obtain ⟨-, amsCmd, length⟩ := Frame.bytes_of_header found
        have payloadSize : header.dataLength.toNat = frame.payload.length := by
          rw [Frame.payload, List.length_drop]
          omega
        have notRouter : ¬ IsRouterCmd 0 := by decide
        have consistent : header.dataLength.toNat + 32 = header.length.toNat := by omega
        rw [readerTurn_of_header rest found payloadSize,
          inspect_asBytes source header _ (by omega), amsCmd]
        simp only [command, dest, consistent, notNotification, notRouter, ne_eq,
          not_true_eq_false, not_false_eq_true, if_true, if_false]
    · cases isReply
  · cases isReply

/-- The turn on a well-formed reply frame whose caller is waiting consumes the
frame, takes the entry of its invoke id and hands the payload to that caller. -/
theorem readerTurn_reply {source : AmsAddr} {pending : PendingMap}
    {receiving : CallId → Bool} {socketEnd : Option IoErrorKind} {frame : Frame}
    {header : AdsHeader} {call : CallId} (rest : List UInt8)
    (wellFormed : frame.WellFormed source) (isReply : frame.reply source = some header)
    (registered : pending.lookup header.invokeId = some call)
    (waiting : receiving call = true) :
    readerTurn source pending receiving socketEnd (frame.bytes ++ rest) =
      .continued rest (pending.erase header.invokeId)
        (.replied call header frame.payload) := by
  rw [readerTurn_of_reply rest wellFormed isReply]
  simp only [settle, registered, waiting, if_true]

/-! ## A run over well-formed frames -/

/-- What the reader has handed out after a stream of moments. -/
def Progress.served (source : AmsAddr) (moments : List Moment) (progress : Progress) :
    Progress where
  rest := []
  pending := pendingAfter source moments progress.pending
  replies := progress.replies ++ owedReplies source moments progress.pending
  notifications := progress.notifications ++ owedNotifications source moments

theorem readerRun_eq_served {source : AmsAddr} {moments : List Moment} {progress : Progress}
    (wellFormed : ∀ moment ∈ moments, moment.frame.WellFormed source)
    (served : Served source moments progress.pending)
    (unread : progress.rest = wire (moments.map Moment.frame)) :
    readerRun source moments progress = some (progress.served source moments) := by
  induction moments generalizing progress with
  | nil =>
      obtain ⟨rest, pending, replies, notifications⟩ := progress
      cases unread
      simp [readerRun, Progress.served, pendingAfter, owedReplies, owedNotifications]
  | cons moment moments ih =>
      have first := wellFormed moment List.mem_cons_self
      have later : ∀ moment ∈ moments, moment.frame.WellFormed source :=
        fun moment member => wellFormed moment (List.mem_cons_of_mem _ member)
      rw [List.map_cons, wire_cons] at unread
      cases isReply : moment.frame.reply source with
      | none =>
          simp only [Served, isReply] at served
          rw [readerRun, unread, readerTurn_no_reply _ first isReply]
          cases carried : moment.frame.notification source with
          | none =>
              dsimp only [Progress.after]
              rw [ih later served rfl]
              simp [Progress.served, pendingAfter, owedReplies, owedNotifications, isReply,
                carried]
          | some notification =>
              dsimp only [Progress.after]
              rw [ih later served rfl]
              simp [Progress.served, pendingAfter, owedReplies, owedNotifications, isReply,
                carried]
      | some header =>
          simp only [Served, isReply] at served
          obtain ⟨⟨call, registered, waiting⟩, served⟩ := served
          have noNotification := Frame.notification_of_reply isReply
          rw [readerRun, unread, readerTurn_reply _ first isReply registered waiting]
          dsimp only [Progress.after]
          rw [ih later served rfl]
          simp [Progress.served, pendingAfter, owedReplies, owedNotifications, isReply,
            registered, noNotification]

/-- The replies owed are the reply frames of the stream, each once. -/
theorem owedReplies_packets {source : AmsAddr} {moments : List Moment} {pending : PendingMap}
    (served : Served source moments pending) :
    (owedReplies source moments pending).map
        (fun handover => (handover.header, handover.payload)) =
      moments.filterMap fun moment =>
        (moment.frame.reply source).map (·, moment.frame.payload) := by
  induction moments generalizing pending with
  | nil => rfl
  | cons moment moments ih =>
      cases isReply : moment.frame.reply source with
      | none =>
          simp only [Served, isReply] at served
          simp [owedReplies, isReply, ih served]
      | some header =>
          simp only [Served, isReply] at served
          obtain ⟨⟨call, registered, -⟩, served⟩ := served
          simp [owedReplies, isReply, registered, ih served]

/-- A map that only the reader changes loses exactly the ids of the replies. -/
theorem lookup_pendingAfter {source : AmsAddr} {moments : List Moment} {pending : PendingMap}
    (undisturbed : ∀ moment ∈ moments, moment.change = id) (invokeId : UInt32) :
    (pendingAfter source moments pending).lookup invokeId =
      if ∃ moment ∈ moments, ∃ header, moment.frame.reply source = some header ∧
          header.invokeId = invokeId then none
      else pending.lookup invokeId := by
  induction moments generalizing pending with
  | nil => simp [pendingAfter]
  | cons moment moments ih =>
      have still := undisturbed moment List.mem_cons_self
      have later : ∀ moment ∈ moments, moment.change = id :=
        fun moment member => undisturbed moment (List.mem_cons_of_mem _ member)
      cases isReply : moment.frame.reply source with
      | none => simp [pendingAfter, isReply, still, ih later]
      | some header =>
          by_cases same : header.invokeId = invokeId
          · subst same
            simp [pendingAfter, isReply, still, ih later]
          · have other : invokeId ≠ header.invokeId := fun equal => same equal.symm
            simp [pendingAfter, isReply, still, ih later, same, AList.lookup_erase_ne other]

/-- After a stream of well-formed frames whose replies find their callers waiting,
the reader waits for the next frame, having handed each reply to its caller and
each qualifying notification to the channel, once and in stream order; the
pending map has lost the ids of the replies. -/
theorem reader_demultiplexes {source : AmsAddr} {moments : List Moment} {pending : PendingMap}
    (wellFormed : ∀ moment ∈ moments, moment.frame.WellFormed source)
    (served : Served source moments pending) :
    readerRun source moments ⟨wire (moments.map Moment.frame), pending, [], []⟩ =
        some ⟨[], pendingAfter source moments pending, owedReplies source moments pending,
          owedNotifications source moments⟩ ∧
      (∀ pending receiving, readerTurn source pending receiving none [] = .blocked) ∧
      (owedReplies source moments pending).map
          (fun handover => (handover.header, handover.payload)) =
        (moments.filterMap fun moment =>
          (moment.frame.reply source).map (·, moment.frame.payload)) ∧
      ((∀ moment ∈ moments, moment.change = id) → ∀ invokeId,
        (pendingAfter source moments pending).lookup invokeId =
          if ∃ moment ∈ moments, ∃ header, moment.frame.reply source = some header ∧
              header.invokeId = invokeId then none
          else pending.lookup invokeId) :=
  ⟨readerRun_eq_served wellFormed served rfl, fun _ _ => rfl, owedReplies_packets served,
    lookup_pendingAfter⟩

/-- The header of a reply to the write request with invoke id 1. -/
def writeReply : AdsHeader :=
  { emptyNotification with
    length := 36, command := 3, stateFlags := 5, dataLength := 4, invokeId := 1 }

/-- A notification of one stamp with one sample of a byte. -/
def sampleNote : Frame :=
  ⟨0, AdsHeader.amsBytes { emptyNotification with length := 61, dataLength := 29 } ++
    [25, 0, 0, 0, 1, 0, 0, 0, 2, 0, 0, 0, 0, 0, 0, 0, 1, 0, 0, 0, 3, 0, 0, 0, 1, 0, 0, 0, 9],
    by decide⟩

/-- A port note that is too short for a header, during which call 7 registers
itself, a notification, and the reply to that call. -/
def noteAndReply : List Moment :=
  [⟨fun pending => pending.insert 1 7, fun _ => true, ⟨0x1000, [0, 0], by decide⟩⟩,
    ⟨id, fun _ => true, sampleNote⟩,
    ⟨id, fun _ => true, ⟨0, writeReply.amsBytes ++ [0, 0, 0, 0], by decide⟩⟩]

/-- The notification goes to the channel, the reply reaches call 7, and the reader waits for
more. -/
theorem noteAndReply_demultiplexed :
    readerRun writeReply.dest noteAndReply
        ⟨wire (noteAndReply.map Moment.frame), ∅, [], []⟩ =
      some ⟨[], pendingAfter writeReply.dest noteAndReply ∅,
        owedReplies writeReply.dest noteAndReply ∅,
        owedNotifications writeReply.dest noteAndReply⟩ ∧
    owedReplies writeReply.dest noteAndReply ∅ = [⟨7, writeReply, [0, 0, 0, 0]⟩] ∧
    (owedNotifications writeReply.dest noteAndReply).map Notification.data =
      [sampleNote.bytes] := by
  have wellFormed : ∀ moment ∈ noteAndReply, moment.frame.WellFormed writeReply.dest := by
    intro moment member
    simp only [noteAndReply, List.mem_cons, List.not_mem_nil, or_false] at member
    rcases member with rfl | rfl | rfl
    · exact .inl (by decide)
    · exact .inr ⟨{ emptyNotification with length := 61, dataLength := 29 }, rfl, rfl, by decide,
        fun _ _ _ => by decide⟩
    · exact .inr ⟨writeReply, rfl, rfl, by decide, by decide⟩
  have served : Served writeReply.dest noteAndReply ∅ := ⟨⟨7, rfl, rfl⟩, trivial⟩
  have notified : (owedNotifications writeReply.dest noteAndReply).map Notification.data =
      [sampleNote.bytes] := by decide +kernel
  exact ⟨(reader_demultiplexes wellFormed served).1, rfl, notified⟩

end Ads.Client
