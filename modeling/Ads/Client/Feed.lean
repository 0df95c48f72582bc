import Ads.Client.WireServer
import Ads.Notif.Correctness

/-!
# From a device to the consumers of its notifications

A device sends notifications to a client among the replies to its calls and any other
traffic.  The reader puts them into the client's channel, and consumers on clones of the
channel take them out.  At every moment of every run, what has been sent is what was
taken, what waits in the channel, and what is still on its way, in this order.
-/

namespace Ads.Client

open Ads.Bytes Ads.Control Ads.Notif Ads.Transition

/-! ## Publications -/

/-- What a device publishes: a body that leaves room for its length and the header in the
length field of a frame. -/
structure Publication where
  device : AmsAddr
  body : WireBody
  bound : 36 + body.bytes.length < 2 ^ 32

namespace Publication

/-- The data of the frame: the body behind its length. -/
def payload (publication : Publication) : Payload where
  bytes := u32Bytes (UInt32.ofNat publication.body.bytes.length) ++ publication.body.bytes
  bound := by
    have fits := publication.bound
    rw [List.length_append, length_u32Bytes]
    omega

/-- The header of the frame. -/
def header (source : AmsAddr) (publication : Publication) : AdsHeader where
  amsCmd := 0
  length := UInt32.ofNat (32 + publication.payload.bytes.length)
  destNetid := source.netid
  destPort := source.port
  srcNetid := publication.device.netid
  srcPort := publication.device.port
  command := Command.notification.toU16
  stateFlags := 4
  dataLength := UInt32.ofNat publication.payload.bytes.length
  errorCode := 0
  invokeId := 0

/-- The frame that the device sends to the client. -/
def frame (source : AmsAddr) (publication : Publication) : Frame :=
  publication.payload.frame (publication.header source)

end Publication

/-- A loop over the samples of the notification sees exactly these. -/
def Shows (notification : Notification) (samples : List Sample) : Prop :=
  ∃ iter, notification.samples = .ok iter ∧ Yields iter samples

/-- Data with a body behind its header is a notification that shows its samples. -/
theorem exists_notification {data : List UInt8} {body : WireBody}
    (encoded : data.drop 42 = body.bytes) :
    ∃ notification, Notification.new data = .ok notification ∧ Shows notification body.yielded := by
  have scanned : scan (data.drop (adsHeaderSize + 4)) = .ok (body.count, []) :=
    scan_eq_ok_iff.mpr ⟨body, encoded, rfl⟩
  have long : adsHeaderSize + 8 ≤ data.length := by
    have size := congrArg List.length encoded
    rw [List.length_drop, WireBody.bytes, List.length_append, length_u32Bytes] at size
    rw [adsHeaderSize, amsTcpHeaderSize, amsHeaderSize]
    omega
  exact ⟨⟨data, body.count, scanned⟩, Notification.new_eq_ok_iff.mpr ⟨long, rfl⟩,
    Notification.samples_yield _ body encoded⟩

namespace Publication

variable (source : AmsAddr) (publication : Publication)

theorem length_payload :
    publication.payload.bytes.length = publication.body.bytes.length + 4 := by
  rw [payload, List.length_append, length_u32Bytes, Nat.add_comm]

theorem header_frame :
    (publication.frame source).header = some (publication.header source) :=
  publication.payload.header_frame rfl rfl

theorem payload_frame : (publication.frame source).payload = publication.payload.bytes :=
  publication.payload.payload_frame _

/-- Behind the header and the length of the body is the body. -/
theorem drop_bytes_frame :
    (publication.frame source).bytes.drop 42 = publication.body.bytes := by
  obtain ⟨split, -, -⟩ := Frame.bytes_of_header (publication.header_frame source)
  have front : ((publication.header source).asBytes ++
      u32Bytes (UInt32.ofNat publication.body.bytes.length)).length = 42 := by
    rw [List.length_append, AdsHeader.length_asBytes, length_u32Bytes]
  rw [split, payload_frame, payload, ← List.append_assoc]
  exact List.drop_left' front

/-- The frame carries a notification that shows the samples of the body. -/
theorem notification_frame :
    ∃ notification, (publication.frame source).notification source = some notification ∧
      Shows notification publication.body.yielded := by
  obtain ⟨notification, accepted, shows⟩ :=
    exists_notification (publication.drop_bytes_frame source)
  have fits := publication.bound
  have word : leU32 (publication.frame source).payload =
      UInt32.ofNat publication.body.bytes.length := by
    rw [payload_frame, payload, leU32_u32Bytes_append]
  have small : publication.body.bytes.length < 2 ^ 32 := by omega
  have number : (leU32 (publication.frame source).payload).toNat =
      publication.body.bytes.length := by
    rw [word, UInt32.toNat_ofNat_of_lt' small]
  have inner : (leU32 (publication.frame source).payload).toNat + 4 =
      (publication.frame source).payload.length := by
    rw [number, payload_frame, length_payload]
  have least : 4 ≤ (leU32 (publication.frame source).payload).toNat := by
    rw [number, WireBody.bytes, List.length_append, length_u32Bytes]
    exact Nat.le_add_right _ _
  refine ⟨notification, ?_, shows⟩
  rw [Frame.notification, header_frame]
  dsimp only
  rw [if_pos ⟨rfl, rfl, rfl, rfl, rfl, inner, least⟩, accepted]

end Publication

/-! ## What is on its way -/

/-- The notifications in a row of frames. -/
def carried (source : AmsAddr) (flights : List Flight) : List Notification :=
  flights.filterMap fun flight => flight.frame.notification source

theorem carried_cons (source : AmsAddr) (flight : Flight) (flights : List Flight) :
    carried source (flight :: flights) =
      (flight.frame.notification source).toList ++ carried source flights := by
  rw [carried, List.filterMap_cons]
  cases flight.frame.notification source <;> rfl

theorem carried_append_singleton (source : AmsAddr) (flights : List Flight) (flight : Flight) :
    carried source (flights ++ [flight]) =
      carried source flights ++ (flight.frame.notification source).toList := by
  rw [carried, List.filterMap_append, ← carried, ← carried, carried_cons, carried, carried,
    List.filterMap_nil, List.append_nil]

namespace Session

/-- The notifications that the reader has yet to read. -/
def coming (session : Session) : List Notification :=
  carried session.world.source session.queue

/-- The notifications that the peer sends in a move. -/
def Move.notifications (source : AmsAddr) : Move → List Notification
  | .client _ => []
  | .answer _ _ _ => []
  | .note frame => (frame.notification source).toList

/-- All notifications that have been sent and not lost: those in the channel, which keeps
a history, and those on their way. -/
def notified (session : Session) : List Notification :=
  session.world.notifications ++ session.coming

end Session

/-- Only the reader's turn puts notifications into the channel. -/
theorem World.notifications_of_step {world after : World} {label : Label}
    (step : world.step label = some after) (quiet : ∀ socketEnd, label ≠ .turn socketEnd) :
    after.notifications = world.notifications := by
  cases label with
  | start request => cases step; rfl
  | insert call =>
      obtain ⟨_, _, _, _, rfl⟩ := insert_eq_some step
      rfl
  | write call failure =>
      obtain ⟨_, _, _, _, ⟨_, _, rfl⟩ | ⟨_, _, _, rfl⟩⟩ := write_eq_some step <;> rfl
  | receive call => obtain ⟨_, _, _, ⟨_, _, rfl⟩ | ⟨_, rfl⟩⟩ := receive_eq_some step <;> rfl
  | timeout call => obtain ⟨_, _, _, _, _, rfl⟩ := timeout_eq_some step; rfl
  | discard call => obtain ⟨_, _, _, _, rfl⟩ := discard_eq_some step; rfl
  | arrive bytes => cases step; rfl
  | turn socketEnd => exact absurd rfl (quiet socketEnd)
  | shutdown => obtain ⟨_, _, rfl⟩ := shutdown_eq_some step; rfl
  | drain => obtain ⟨_, _, rfl⟩ := drain_eq_some step; rfl

namespace Session.Consistent

variable {session next : Session}

/-- A frame that is no reply is read, and its notification put into the channel. -/
theorem notifications_of_note (consistent : session.Consistent)
    (running : session.world.reader = .running) {socketEnd : Option IoErrorKind} {frame : Frame}
    {rest : List Flight} (next : session.queue = ⟨none, frame⟩ :: rest) :
    session.world.turn socketEnd = some { session.world with
      incoming := wire (rest.map Flight.frame)
      turns := session.world.turns + 1
      notifications := session.world.notifications ++
        (frame.notification session.world.source).toList } := by
  have stream := (consistent.orderly running).stream
  rw [next, List.map_cons, wire_cons] at stream
  obtain ⟨wellFormed, noReply⟩ := consistent.proper_of_next next
  rw [World.turn, if_pos running, stream, readerTurn_no_reply _ wellFormed noReply]
  cases frame.notification session.world.source with
  | some notification => rfl
  | none => rw [Option.toList_none, List.append_nil]; rfl

/-- The reader's turn takes a notification from the way into the channel. -/
theorem notified_of_turn (consistent : session.Consistent) {socketEnd : Option IoErrorKind}
    {after : World} (step : session.world.turn socketEnd = some after) :
    Session.notified { session with
      world := after
      queue := session.queue.drop (after.turns - session.world.turns) } = session.notified := by
  have running := (World.turn_eq_some step).1
  rw [notified, notified, coming, coming]
  cases next : session.queue with
  | nil =>
      cases socketEnd with
      | none =>
          rw [consistent.turn_of_nil running next] at step
          cases step
      | some kind =>
          rw [consistent.turn_of_nil_failed running next kind] at step
          cases step
          rw [List.drop_nil]
  | cons flight rest =>
      obtain ⟨answers, frame⟩ := flight
      cases answers with
      | none =>
          rw [consistent.notifications_of_note running next] at step
          cases step
          dsimp only
          rw [Nat.add_sub_cancel_left, List.drop_one, List.tail_cons, carried_cons,
            List.append_assoc]
      | some id =>
          obtain ⟨-, call, header, found, isReply, -⟩ := consistent.proper_of_next next
          have none : frame.notification session.world.source = none :=
            Frame.notification_of_reply isReply
          cases isDone : call.stage.isDone with
          | true =>
              obtain ⟨error, pending, turned⟩ :=
                consistent.turn_of_late running socketEnd next found isDone
              rw [turned] at step
              cases step
              rw [Nat.sub_self, List.drop_zero]
          | false =>
              obtain ⟨_, -, turned⟩ :=
                consistent.turn_of_answer running socketEnd next found isDone
              rw [turned] at step
              cases step
              dsimp only
              rw [Nat.add_sub_cancel_left, List.drop_one, List.tail_cons, carried_cons, none]
              rfl

/-- A step of the session sends the notifications of its move, and loses none. -/
theorem notified_step (consistent : session.Consistent) {move : Move}
    (step : session.step move = some next) :
    next.world.source = session.world.source ∧
      next.notified = session.notified ++ move.notifications session.world.source := by
  cases move with
  | client label =>
      obtain ⟨allowed, after, stepped, rfl⟩ := step_client_eq_some step
      have frames := World.step_frames stepped
      refine ⟨frames.source, ?_⟩
      rw [Move.notifications, List.append_nil]
      by_cases loud : ∃ socketEnd, label = .turn socketEnd
      · obtain ⟨socketEnd, rfl⟩ := loud
        exact consistent.notified_of_turn stepped
      · have quiet : ∀ socketEnd, label ≠ .turn socketEnd :=
          fun socketEnd equal => loud ⟨socketEnd, equal⟩
        rw [frames.turns quiet, Nat.sub_self, List.drop_zero, notified, notified, coming, coming]
        dsimp only
        rw [World.notifications_of_step stepped quiet, frames.source]
  | answer id errorCode payload =>
      simp only [Session.step] at step
      split at step
      · rename_i call found
        split at step
        · rename_i bound
          split at step
          · rename_i owed
            cases step
            have none : (replyFrame session.world.source call errorCode payload bound).notification
                session.world.source = none :=
              Frame.notification_of_reply (reply_replyFrame bound owed.2.2)
            have kept := carried_append_singleton session.world.source session.queue
              ⟨some id, replyFrame session.world.source call errorCode payload bound⟩
            rw [none, Option.toList_none, List.append_nil] at kept
            refine ⟨rfl, ?_⟩
            rw [Move.notifications, List.append_nil]
            exact congrArg (session.world.notifications ++ ·) kept
          · cases step
        · cases step
      · cases step
  | note frame =>
      simp only [Session.step] at step
      split at step
      · cases step
        refine ⟨rfl, ?_⟩
        rw [Move.notifications, notified, notified, List.append_assoc]
        exact congrArg (session.world.notifications ++ ·) (carried_append_singleton _ _ _)
      · cases step

end Session.Consistent

/-- The channel's history only grows. -/
theorem Session.notifications_isPrefix {session next : Session} {move : Session.Move}
    (step : session.step move = some next) :
    session.world.notifications <+: next.world.notifications := by
  by_cases client : ∃ label, move = .client label
  · obtain ⟨label, rfl⟩ := client
    obtain ⟨-, after, stepped, rfl⟩ := step_client_eq_some step
    by_cases loud : ∃ socketEnd, label = .turn socketEnd
    · obtain ⟨socketEnd, rfl⟩ := loud
      obtain ⟨-, ⟨_, rfl⟩ | ⟨_, notification, rfl⟩ | ⟨_, _, _, _, _, _, rfl⟩ | ⟨_, _, _, rfl⟩ |
        rfl⟩ := World.turn_eq_some stepped
      · exact List.prefix_rfl
      · exact List.prefix_append _ _
      · exact List.prefix_rfl
      · exact List.prefix_rfl
      · exact List.prefix_rfl
    · have quiet : ∀ socketEnd, label ≠ .turn socketEnd :=
        fun socketEnd equal => loud ⟨socketEnd, equal⟩
      have kept := World.notifications_of_step stepped quiet
      exact ⟨[], (List.append_nil _).trans kept.symm⟩
  · obtain ⟨bytes, same⟩ := step_peer_eq_some step fun label equal => client ⟨label, equal⟩
    have kept := congrArg World.notifications same
    exact ⟨[], (List.append_nil _).trans kept.symm⟩

/-! ## Consumers -/

/-- A session, and the notifications that were taken off the channel, each with the
consumer that took it. -/
structure Feed where
  session : Session
  taken : List (Nat × Notification)

namespace Feed

/-- The state before the first call. -/
def initial (source : AmsAddr) (readTimeout : Bool) : Feed :=
  ⟨.initial source readTimeout, []⟩

/-- The notifications that wait in the channel. -/
def waiting (feed : Feed) : List Notification :=
  feed.session.world.notifications.drop feed.taken.length

/-- A move of the client or its peer, of which a frame that is no publication carries no
notification; a publication that is sent; or a notification that a consumer takes. -/
inductive Move
  | other (move : Session.Move)
  | publish (publication : Publication)
  | take (consumer : Nat)

/-- One step.  A consumer of an empty channel waits. -/
def step (feed : Feed) : Move → Option Feed
  | .other move =>
      if move.notifications feed.session.world.source = [] then
        (feed.session.step move).map fun session => { feed with session }
      else none
  | .publish publication =>
      (feed.session.step (.note (publication.frame feed.session.world.source))).map
        fun session => { feed with session }
  | .take consumer =>
      feed.waiting.head?.map fun notification =>
        { feed with taken := feed.taken ++ [(consumer, notification)] }

/-- The publication that a move sends. -/
def Move.publication : Move → Option Publication
  | .publish publication => some publication
  | .other _ => none
  | .take _ => none

/-- What a consumer has taken. -/
def takenBy (feed : Feed) (consumer : Nat) : List Notification :=
  (feed.taken.filter fun taken => taken.1 == consumer).map Prod.snd

/-- These are the notifications of these publications, one by one. -/
def Showing (notifications : List Notification) (publications : List Publication) : Prop :=
  List.Forall₂ (fun notification publication =>
    Shows notification publication.body.yielded) notifications publications

theorem Showing.append {first second : List Notification} {left right : List Publication}
    (firstShowing : Showing first left) (secondShowing : Showing second right) :
    Showing (first ++ second) (left ++ right) :=
  List.rel_append firstShowing secondShowing

theorem Showing.split {first second : List Notification} {publications : List Publication}
    (showing : Showing (first ++ second) publications) :
    ∃ left right, publications = left ++ right ∧ Showing first left ∧ Showing second right := by
  induction first generalizing publications with
  | nil => exact ⟨[], publications, rfl, .nil, showing⟩
  | cons notification first ih =>
      cases showing with
      | cons shows rest =>
          obtain ⟨left, right, rfl, firstShowing, secondShowing⟩ := ih rest
          exact ⟨_ :: left, right, rfl, .cons shows firstShowing, secondShowing⟩

theorem Showing.sublist {some all : List Notification} {publications : List Publication}
    (sublist : some.Sublist all) (showing : Showing all publications) :
    ∃ part, part.Sublist publications ∧ Showing some part := by
  induction sublist generalizing publications with
  | slnil => exact ⟨[], publications.nil_sublist, .nil⟩
  | cons notification _ ih =>
      cases showing with
      | cons shows rest =>
          obtain ⟨part, sublist, showing⟩ := ih rest
          exact ⟨part, sublist.cons _, showing⟩
  | cons_cons notification _ ih =>
      cases showing with
      | cons shows rest =>
          obtain ⟨part, sublist, showing⟩ := ih rest
          exact ⟨_ :: part, sublist.cons_cons _, .cons shows showing⟩

/-- What was published is in the channel's history or on its way, and the consumers have
taken the front of the history. -/
structure Conserves (published : List Publication) (feed : Feed) : Prop where
  consistent : feed.session.Consistent
  notified : Showing feed.session.notified published
  taken : feed.taken.map Prod.snd <+: feed.session.world.notifications

theorem Conserves.initial (source : AmsAddr) (readTimeout : Bool) :
    Conserves [] (initial source readTimeout) where
  consistent := .initial source readTimeout
  notified := .nil
  taken := List.prefix_rfl

namespace Conserves

variable {published : List Publication} {feed : Feed}

/-- A move of the session, with the publications that it sends. -/
theorem session_step {move : Session.Move} {session : Session} {sent : List Publication}
    (conserves : Conserves published feed) (step : feed.session.step move = some session)
    (showing : Showing (move.notifications feed.session.world.source) sent) :
    Conserves (published ++ sent) { feed with session } where
  consistent := conserves.consistent.step step
  notified := by
    rw [(conserves.consistent.notified_step step).2]
    exact conserves.notified.append showing
  taken := conserves.taken.trans (Session.notifications_isPrefix step)

theorem waiting_eq (conserves : Conserves published feed) :
    feed.session.world.notifications = feed.taken.map Prod.snd ++ feed.waiting := by
  obtain ⟨rest, same⟩ := conserves.taken
  rw [Feed.waiting, ← same, List.drop_left' (List.length_map _)]

theorem take_step {consumer : Nat} {notification : Notification}
    (conserves : Conserves published feed) (next : feed.waiting.head? = some notification) :
    Conserves published { feed with taken := feed.taken ++ [(consumer, notification)] } where
  consistent := conserves.consistent
  notified := conserves.notified
  taken := by
    obtain ⟨rest, more⟩ := List.head?_eq_some_iff.mp next
    rw [conserves.waiting_eq, more, List.map_append]
    exact ⟨rest, by rw [List.append_assoc]; rfl⟩

/-- Every step conserves what was published. -/
theorem step {move : Move} {after : Feed} (conserves : Conserves published feed)
    (step : feed.step move = some after) :
    Conserves (published ++ move.publication.toList) after := by
  cases move with
  | other move =>
      simp only [Feed.step] at step
      split at step
      · rename_i silent
        obtain ⟨session, stepped, rfl⟩ := Option.map_eq_some_iff.mp step
        exact conserves.session_step stepped (silent ▸ .nil)
      · cases step
  | publish publication =>
      obtain ⟨session, stepped, rfl⟩ := Option.map_eq_some_iff.mp step
      obtain ⟨notification, carries, shows⟩ :=
        publication.notification_frame feed.session.world.source
      apply conserves.session_step stepped
      rw [Session.Move.notifications, carries]
      exact .cons shows .nil
  | take consumer =>
      obtain ⟨notification, next, rfl⟩ := Option.map_eq_some_iff.mp step
      rw [Move.publication, Option.toList_none, List.append_nil]
      exact conserves.take_step next

end Conserves

end Feed

/-- In every state that a client whose calls start under free invoke ids, its peer and any
consumers reach, what was published is what was taken, what waits in the channel and what
is on its way, in this order: each notification once, and showing exactly the samples of its
publication.  Every consumer takes a part of it in the order of publication. -/
theorem publications_conserved {source : AmsAddr} {readTimeout : Bool} {moves : List Feed.Move}
    {feed : Feed} (run : Run Feed.step (.initial source readTimeout) moves feed) :
    ∃ taken waiting coming : List Publication,
      moves.filterMap Feed.Move.publication = taken ++ waiting ++ coming ∧
      Feed.Showing (feed.taken.map Prod.snd) taken ∧
      Feed.Showing feed.waiting waiting ∧
      Feed.Showing feed.session.coming coming ∧
      ∀ consumer, ∃ part : List Publication,
        part.Sublist taken ∧ Feed.Showing (feed.takenBy consumer) part := by
  have conserves : Feed.Conserves (moves.filterMap Feed.Move.publication) feed := by
    refine @Run.invariant_labels _ _ Feed.step (.initial source readTimeout) feed moves
      (fun moves feed => Feed.Conserves (moves.filterMap Feed.Move.publication) feed)
      (fun _ => True) run (fun _ _ => trivial) (.initial source readTimeout) ?_
    intro moves feed move after conserves _ step
    rw [List.filterMap_append]
    have single : [move].filterMap Feed.Move.publication = move.publication.toList := by
      rw [List.filterMap_cons]
      cases move.publication <;> rfl
    rw [single]
    exact conserves.step step
  have notified := conserves.notified
  rw [Session.notified, conserves.waiting_eq] at notified
  obtain ⟨channel, coming, whole, inChannel, onTheWay⟩ := notified.split
  obtain ⟨taken, waiting, rfl, isTaken, waits⟩ := inChannel.split
  refine ⟨taken, waiting, coming, whole, isTaken, waits, onTheWay, fun consumer => ?_⟩
  exact isTaken.sublist (List.filter_sublist.map Prod.snd)

/-- Two samples of one stamp. -/
def bothSamples : Publication where
  device := ⟨.localId, 851⟩
  body := ⟨[⟨1000, [⟨5, [1, 2], by simp⟩, ⟨6, [], by simp⟩], by simp⟩], by simp⟩
  bound := by simp [WireBody.bytes, WireStamp.bytes, WireSample.bytes]

/-- Two stamps, of which one has no sample. -/
def lateSample : Publication where
  device := ⟨.localId, 851⟩
  body := ⟨[⟨2000, [], by simp⟩, ⟨3000, [⟨5, [3], by simp⟩], by simp⟩], by simp⟩
  bound := by simp [WireBody.bytes, WireStamp.bytes, WireSample.bytes]

/-- A call during three publications, of which the consumers take two. -/
def sharedFeed : List Feed.Move :=
  [.other (.client (.start countRead)), .other (.client (.insert 0)), .publish bothSamples,
    .other (.client (.write 0 none)), .other (.answer 0 0 (u32Bytes 0 ++ u32Bytes 0)),
    .publish lateSample, .other (.client (.turn none)), .other (.client (.turn none)), .take 1,
    .other (.client (.turn none)), .other (.client (.receive 0)), .take 2, .publish bothSamples]

theorem sharedFeed_conserved :
    ∃ feed, execute Feed.step (.initial ⟨.localId, 1⟩ false) sharedFeed = some feed ∧
      feed.taken.map Prod.fst = [1, 2] ∧
      ∃ taken waiting coming : List Publication,
        [bothSamples, lateSample, bothSamples] = taken ++ waiting ++ coming ∧
        Feed.Showing (feed.taken.map Prod.snd) taken ∧
        Feed.Showing feed.waiting waiting ∧
        Feed.Showing feed.session.coming coming ∧
        ∀ consumer, ∃ part : List Publication,
          part.Sublist taken ∧ Feed.Showing (feed.takenBy consumer) part := by
  have computed : (execute Feed.step (.initial ⟨.localId, 1⟩ false) sharedFeed).map
      (fun feed => feed.taken.map Prod.fst) = some [1, 2] := by
    decide +kernel
  obtain ⟨feed, executed, consumers⟩ := Option.map_eq_some_iff.mp computed
  exact ⟨feed, executed, consumers, publications_conserved (.of_execute executed)⟩

end Ads.Client
