import Ads.Client.Reader
import Ads.Notif.Correctness

/-!
# Frames on the reader's stream

The AMS/TCP frame as the peer writes it, the exact inputs on which a turn of the
reader panics, and the exact streams on which the reader stays in frame.
-/

namespace Ads.Client

open Ads.Bytes Ads.Bytes.Reader Ads.Control Ads.Notif

/-- An AMS/TCP frame: the reserved field, a length, and that many bytes. -/
structure Frame where
  amsCmd : UInt16
  content : List UInt8
  bound : content.length < 2 ^ 32

namespace Frame

/-- The length field. -/
def length (frame : Frame) : UInt32 :=
  UInt32.ofNat frame.content.length

@[simp]
theorem toNat_length (frame : Frame) : frame.length.toNat = frame.content.length :=
  UInt32.toNat_ofNat_of_lt' frame.bound

/-- The frame on the wire. -/
def bytes (frame : Frame) : List UInt8 :=
  u16Bytes frame.amsCmd ++ u32Bytes frame.length ++ frame.content

/-- The frame's header, when its content is long enough for an AMS header. -/
def header (frame : Frame) : Option AdsHeader :=
  if 32 ≤ frame.content.length then AdsHeader.readFromBytes (frame.bytes.take 38) else none

/-- What follows the AMS header. -/
def payload (frame : Frame) : List UInt8 :=
  frame.content.drop 32

end Frame

/-- A sequence of frames on the wire. -/
def wire (frames : List Frame) : List UInt8 :=
  frames.flatMap Frame.bytes

@[simp]
theorem wire_nil : wire [] = [] :=
  rfl

@[simp]
theorem wire_cons (frame : Frame) (frames : List Frame) :
    wire (frame :: frames) = frame.bytes ++ wire frames :=
  rfl

theorem wire_append (first second : List Frame) :
    wire (first ++ second) = wire first ++ wire second :=
  List.flatMap_append

namespace AdsHeader

@[simp]
theorem leU16_asBytes_append (header : AdsHeader) (rest : List UInt8) :
    leU16 (header.asBytes ++ rest) = header.amsCmd := by
  simp [asBytes, List.append_assoc]

@[simp]
theorem leU32_drop_asBytes_append (header : AdsHeader) (rest : List UInt8) :
    leU32 ((header.asBytes ++ rest).drop 2) = header.length := by
  rw [asBytes, List.append_assoc, List.append_assoc,
    List.drop_left' (length_u16Bytes header.amsCmd), leU32_u32Bytes_append]

@[simp]
theorem leU16_asBytes (header : AdsHeader) : leU16 header.asBytes = header.amsCmd := by
  simpa using header.leU16_asBytes_append []

@[simp]
theorem leU32_drop_asBytes (header : AdsHeader) :
    leU32 (header.asBytes.drop 2) = header.length := by
  simpa using header.leU32_drop_asBytes_append []

end AdsHeader

namespace Frame

theorem isSome_header_iff (frame : Frame) :
    frame.header.isSome ↔ 32 ≤ frame.content.length := by
  constructor
  · intro some
    by_contra short
    simp [header, short] at some
  · intro long
    have size : (frame.bytes.take 38).length = 38 := by
      simp only [List.length_take, bytes, List.length_append, length_u16Bytes,
        length_u32Bytes]
      omega
    obtain ⟨header, asBytes⟩ := AdsHeader.exists_asBytes_eq size
    rw [Frame.header, if_pos long,
      (AdsHeader.readFromBytes_eq_some_iff size).mpr asBytes]
    rfl

/-- A frame with a header is that header followed by the payload. -/
theorem bytes_of_header {frame : Frame} {header : AdsHeader}
    (found : frame.header = some header) :
    frame.bytes = header.asBytes ++ frame.payload ∧ header.amsCmd = frame.amsCmd ∧
      header.length.toNat = 32 + frame.payload.length := by
  have long : 32 ≤ frame.content.length :=
    frame.isSome_header_iff.mp (by rw [found]; rfl)
  have size : (frame.bytes.take 38).length = 38 := by
    simp only [List.length_take, bytes, List.length_append, length_u16Bytes, length_u32Bytes]
    omega
  rw [Frame.header, if_pos long] at found
  have asBytes := (AdsHeader.readFromBytes_eq_some_iff size).mp found
  have tail : frame.bytes.drop 38 = frame.payload := by
    rw [show 38 = 6 + 32 from rfl, ← List.drop_drop, bytes, List.drop_left' (by simp), payload]
  have split : frame.bytes = header.asBytes ++ frame.payload := by
    rw [asBytes, ← tail, List.take_append_drop]
  have amsCmd : header.amsCmd = frame.amsCmd := by
    rw [← header.leU16_asBytes_append frame.payload, ← split, bytes, List.append_assoc,
      leU16_u16Bytes_append]
  have length : header.length = frame.length := by
    rw [← header.leU32_drop_asBytes_append frame.payload, ← split, bytes, List.append_assoc,
      List.drop_left' (length_u16Bytes _), leU32_u32Bytes_append]
  refine ⟨split, amsCmd, ?_⟩
  rw [length, frame.toNat_length, payload, List.length_drop]
  omega

end Frame

/-! ## A turn on a frame -/

/-- A frame without a header is skipped, whatever its reserved field. -/
theorem readerTurn_short {source : AmsAddr} {pending : PendingMap}
    {receiving : CallId → Bool} {socketEnd : Option IoErrorKind} {frame : Frame}
    (rest : List UInt8) (short : frame.content.length < 32) :
    readerTurn source pending receiving socketEnd (frame.bytes ++ rest) =
      .continued rest pending .nothing := by
  have fits : frame.length.toNat ≤ 31 := by
    rw [frame.toNat_length]
    omega
  have received : receive socketEnd (u16Bytes frame.amsCmd ++ u32Bytes frame.length ++
      (frame.content ++ rest)) = .ok (none, rest) :=
    receive_short socketEnd rfl frame.toNat_length.symm fits
  rw [readerTurn, Frame.bytes, List.append_assoc, received]

/-- The verdict on a packet, with the comparisons read off its header. -/
theorem inspect_asBytes (source : AmsAddr) (header : AdsHeader) (payload : List UInt8)
    (long : 32 ≤ header.length.toNat) :
    inspect source ⟨header.asBytes, header, payload⟩ =
      if IsRouterCmd header.amsCmd then .ok .skip
      else if header.amsCmd ≠ 0 then
        .err (.reply "interpreting received AMS packet" "invalid packet"
          header.amsCmd.toUInt32)
      else if header.dataLength.toNat + 32 ≠ header.length.toNat then
        .err (.reply "interpreting received AMS packet"
          "AMS/TCP header and AMS header contain inconsistent data" 0)
      else if header.dest ≠ source then .ok .skip
      else if header.command ≠ Command.notification.toU16 then .ok .reply
      else inspectNotification ⟨header.asBytes, header, payload⟩ := by
  have below : (32 : UInt32) ≤ header.length := by
    rw [UInt32.le_iff_toNat_le]
    exact long
  have compare : header.dataLength ≠ header.length - 32 ↔
      header.dataLength.toNat + 32 ≠ header.length.toNat := by
    rw [ne_eq, ne_eq, ← UInt32.toNat_inj, UInt32.toNat_sub_of_le _ _ below]
    have : (32 : UInt32).toNat = 32 := rfl
    omega
  simp only [inspect, header.leU16_asBytes, header.leU32_drop_asBytes,
    checkedSub, below, if_true, Outcome.ok_bind, compare]

/-- What a successful receive of a frame with a header has consumed. -/
theorem receive_eq_some {socketEnd : Option IoErrorKind} {stream rest : List UInt8}
    {packet : Packet} (received : receive socketEnd stream = .ok (some packet, rest)) :
    32 ≤ packet.header.length.toNat ∧ packet.headerBuf = packet.header.asBytes ∧
      packet.payload.length = packet.header.dataLength.toNat ∧
      stream = packet.header.asBytes ++ (packet.payload ++ rest) := by
  rw [receive, bind_run_eq_ok_iff] at received
  obtain ⟨tcpHeader, afterTcp, tookTcp, received⟩ := received
  obtain ⟨tcpSize, rfl⟩ := take_eq_ok_iff.mp tookTcp
  split at received
  · rw [bind_run_eq_ok_iff] at received
    obtain ⟨_, _, _, done⟩ := received
    cases done
  · rename_i notShort
    rw [bind_run_eq_ok_iff] at received
    obtain ⟨amsHeader, afterAms, tookAms, received⟩ := received
    obtain ⟨amsSize, rfl⟩ := take_eq_ok_iff.mp tookAms
    cases decoded : AdsHeader.readFromBytes (tcpHeader ++ amsHeader) with
    | none =>
      rw [decoded] at received
      cases received
    | some header =>
      rw [decoded] at received
      simp only [bind_run_eq_ok_iff] at received
      obtain ⟨payload, afterPayload, tookPayload, done⟩ := received
      obtain ⟨payloadSize, rfl⟩ := take_eq_ok_iff.mp tookPayload
      cases done
      have asBytes := (AdsHeader.readFromBytes_eq_some_iff
        (by simp [tcpSize, amsSize])).mp decoded
      have lengthField : leU32 (tcpHeader.drop 2) = header.length := by
        rw [← header.leU32_drop_asBytes, asBytes, leU32, leU32,
          List.drop_append_of_le_length (by omega),
          List.take_append_of_le_length (by simp [tcpSize])]
      rw [lengthField] at notShort
      refine ⟨Nat.lt_of_not_le notShort, asBytes.symm, payloadSize, ?_⟩
      rw [asBytes, List.append_assoc]

/-! ## Panics -/

/-- The stream starts with a complete notification frame for the client whose
payload is too short for the inner length word. -/
def ShortNotification (source : AmsAddr) (stream : List UInt8) : Prop :=
  ∃ (header : AdsHeader) (payload rest : List UInt8),
    stream = header.asBytes ++ (payload ++ rest) ∧ header.amsCmd = 0 ∧
      header.length.toNat = 32 + payload.length ∧
      header.dataLength.toNat = payload.length ∧ header.dest = source ∧
      header.command = Command.notification.toU16 ∧ payload.length < 4

/-- Inspecting a notification panics exactly when its payload does not hold the
inner length word. -/
theorem inspectNotification_eq_panic_iff {packet : Packet}
    (size : packet.payload.length = packet.header.dataLength.toNat) :
    inspectNotification packet = .panic ↔ packet.payload.length < 4 := by
  unfold inspectNotification checkedU32
  by_cases enough : 4 ≤ packet.payload.length
  · have below : (4 : UInt32) ≤ packet.header.dataLength := by
      rw [UInt32.le_iff_toNat_le, ← size]
      exact enough
    simp only [enough, if_true, Outcome.ok_bind, checkedSub, below]
    refine ⟨fun panicked => ?_, fun short => by omega⟩
    split at panicked
    · cases panicked
    · split at panicked
      · cases panicked
      · split at panicked
        · cases panicked
        · cases panicked
        · exact absurd ‹Notification.new _ = .panic› (Notification.new_ne_panic _)
  · simp only [enough, if_false, Outcome.panic_bind, true_iff]
    omega

/-- A turn panics on precisely the streams that start with a short notification
for the client. -/
theorem readerTurn_eq_panicked_iff {source : AmsAddr} {pending : PendingMap}
    {receiving : CallId → Bool} {socketEnd : Option IoErrorKind} {stream : List UInt8} :
    readerTurn source pending receiving socketEnd stream = .panicked ↔
      ShortNotification source stream := by
  constructor
  · intro panicked
    unfold readerTurn at panicked
    split at panicked
    · cases panicked
    · cases panicked
    · rename_i panicked'
      exact absurd panicked' (receive_neverPanics socketEnd stream)
    · cases panicked
    · rename_i packet rest received
      obtain ⟨long, headerBuf, size, rfl⟩ := receive_eq_some received
      have verdict : inspect source packet = .panic := by
        split at panicked
        · cases panicked
        · assumption
        · cases panicked
        · cases panicked
        · split at panicked <;> cases panicked
      obtain ⟨buffer, header, payload⟩ := packet
      dsimp only at long headerBuf size
      subst headerBuf
      rw [inspect_asBytes source header payload long] at verdict
      split at verdict
      · cases verdict
      split at verdict
      · cases verdict
      split at verdict
      · cases verdict
      split at verdict
      · cases verdict
      split at verdict
      · cases verdict
      rename_i _ command lengths dest notification
      have short := (inspectNotification_eq_panic_iff size).mp verdict
      exact ⟨header, payload, rest, rfl, by simpa using command, by
        simp only [ne_eq, Decidable.not_not] at lengths size
        omega, size.symm, by simpa using dest, by simpa using notification, short⟩
  · rintro ⟨header, payload, rest, rfl, amsCmd, length, dataLength, dest, command, short⟩
    have long : 32 ≤ header.length.toNat := by omega
    have received := receive_long socketEnd (payload ++ rest) long
    have panicked : inspectNotification ⟨header.asBytes, header, payload⟩ = .panic :=
      (inspectNotification_eq_panic_iff dataLength.symm).mpr short
    have verdict : inspect source ⟨header.asBytes, header, payload⟩ = .panic := by
      rw [inspect_asBytes source header payload long, amsCmd,
        if_neg (by decide), if_neg (by decide), if_neg (by omega), if_neg (by simp [dest]),
        if_neg (by simp [command]), panicked]
    simp [readerTurn, received, dataLength, verdict]

/-- No turn panics and every end of the thread passes through the clean-up
exactly when no turn of the loop starts at a short notification for the client. -/
theorem reader_neverPanics_iff (source : AmsAddr) (stream : List UInt8) :
    ((∀ n rest pending receiving socketEnd, Continues source stream n rest →
        readerTurn source pending receiving socketEnd rest ≠ .panicked) ∧
      ∀ finish, Ends source stream finish → ∃ error, finish = .cleanedUp error) ↔
    ∀ n rest, Continues source stream n rest → ¬ ShortNotification source rest := by
  constructor
  · rintro ⟨safe, -⟩ n rest continues short
    exact safe n rest ∅ (fun _ => false) none continues (readerTurn_eq_panicked_iff.mpr short)
  · intro condition
    refine ⟨fun n rest pending receiving socketEnd continues panicked =>
      condition n rest continues (readerTurn_eq_panicked_iff.mp panicked), ?_⟩
    intro finish ends
    cases ends with
    | @returned _ _ _ _ _ _ error _ _ => exact ⟨error, rfl⟩
    | panicked continues panicked =>
        exact absurd (readerTurn_eq_panicked_iff.mp panicked) (condition _ _ continues)

/-- A notification for `1.1.1.1.1.1:1` with an empty payload. -/
def emptyNotification : AdsHeader where
  amsCmd := 0
  length := 32
  destNetid := .new 1 1 1 1 1 1
  destPort := 1
  srcNetid := .new 2 2 2 2 2 2
  srcPort := 851
  command := 8
  stateFlags := 4
  dataLength := 0
  errorCode := 0
  invokeId := 0

/-- One header from the peer makes the reader panic. -/
theorem readerTurn_panics :
    ¬ ∀ source pending receiving socketEnd stream,
      readerTurn source pending receiving socketEnd stream ≠ .panicked := by
  intro claim
  exact claim emptyNotification.dest ∅ (fun _ => false) none emptyNotification.asBytes rfl

/-! ## Staying in frame -/

/-- A router frame whose AMS header announces another payload length than the
frame has, with that many bytes to follow. -/
def Frame.Misleads (frame : Frame) (rest : List UInt8) : Prop :=
  ∃ header, frame.header = some header ∧ IsRouterCmd frame.amsCmd ∧
    header.dataLength.toNat ≠ frame.payload.length ∧
    header.dataLength.toNat ≤ frame.payload.length + rest.length

/-- Only router frames pass the checks with lengths that disagree. -/
theorem inspect_eq_ok {source : AmsAddr} {header : AdsHeader} {payload : List UInt8}
    {verdict : Verdict} (long : 32 ≤ header.length.toNat)
    (checked : inspect source ⟨header.asBytes, header, payload⟩ = .ok verdict) :
    IsRouterCmd header.amsCmd ∨
      header.dataLength.toNat + 32 = header.length.toNat := by
  rw [inspect_asBytes source header payload long] at checked
  by_cases router : IsRouterCmd header.amsCmd
  · exact .inl router
  · rw [if_neg router] at checked
    rcases Outcome.ite_err_eq_ok_iff.mp checked with ⟨-, checked⟩
    rcases Outcome.ite_err_eq_ok_iff.mp checked with ⟨lengths, -⟩
    exact .inr (not_not.mp lengths)

/-- A turn that goes on after a frame with a header has taken as many payload
bytes as the AMS header announces; only for router frames may these be other
than the frame's own. -/
theorem readerTurn_frame_continued {source : AmsAddr} {pending after : PendingMap}
    {receiving : CallId → Bool} {socketEnd : Option IoErrorKind} {frame : Frame}
    {header : AdsHeader} {tail rest : List UInt8} {effect : Effect}
    (found : frame.header = some header)
    (turn : readerTurn source pending receiving socketEnd (frame.bytes ++ tail) =
      .continued rest after effect) :
    header.dataLength.toNat ≤ frame.payload.length + tail.length ∧
      rest = (frame.payload ++ tail).drop header.dataLength.toNat ∧
      (IsRouterCmd frame.amsCmd ∨ header.dataLength.toNat = frame.payload.length) := by
  obtain ⟨split, amsCmd, length⟩ := Frame.bytes_of_header found
  have long : 32 ≤ header.length.toNat := by omega
  rw [readerTurn, split, List.append_assoc, receive_long socketEnd _ long,
    List.length_append] at turn
  by_cases enough : header.dataLength.toNat ≤ frame.payload.length + tail.length
  · simp only [enough, if_true] at turn
    cases checked : inspect source ⟨header.asBytes, header,
        (frame.payload ++ tail).take header.dataLength.toNat⟩ with
    | err error => simp [checked] at turn
    | panic => simp [checked] at turn
    | ok verdict =>
        have kind := inspect_eq_ok long checked
        rw [amsCmd] at kind
        refine ⟨enough, ?_, kind.imp_right fun lengths => by omega⟩
        rw [checked] at turn
        cases verdict with
        | skip => exact (Turn.continued.inj turn).1.symm
        | notify _ => exact (Turn.continued.inj turn).1.symm
        | reply =>
            dsimp only at turn
            split at turn
            · exact (Turn.continued.inj turn).1.symm
            · contradiction
  · simp only [enough, if_false] at turn
    cases socketEnd <;> simp [halt] at turn

/-- A misleading frame takes the reader out of frame. -/
theorem Frame.Misleads.turn {source : AmsAddr} {frame : Frame} {tail : List UInt8}
    (misleads : frame.Misleads tail) :
    ∃ rest, rest ≠ tail ∧
      readerTurn source ∅ (fun _ => false) none (frame.bytes ++ tail) =
        .continued rest ∅ .nothing := by
  obtain ⟨header, found, router, differs, enough⟩ := misleads
  obtain ⟨split, amsCmd, length⟩ := Frame.bytes_of_header found
  have long : 32 ≤ header.length.toNat := by omega
  refine ⟨(frame.payload ++ tail).drop header.dataLength.toNat, ?_, ?_⟩
  · intro same
    have sizes := congrArg List.length same
    simp only [List.length_drop, List.length_append] at sizes
    omega
  · rw [readerTurn, split, List.append_assoc, receive_long none _ long, List.length_append,
      if_pos enough]
    simp only [inspect_asBytes source header _ long, amsCmd, router, if_true]

/-- A turn that goes on after a frame that does not mislead has consumed exactly
that frame. -/
theorem readerTurn_in_frame {source : AmsAddr} {pending after : PendingMap}
    {receiving : CallId → Bool} {socketEnd : Option IoErrorKind} {frame : Frame}
    {tail rest : List UInt8} {effect : Effect} (honest : ¬ frame.Misleads tail)
    (turn : readerTurn source pending receiving socketEnd (frame.bytes ++ tail) =
      .continued rest after effect) : rest = tail := by
  cases found : frame.header with
  | none =>
      have short : frame.content.length < 32 := by
        by_contra long
        have some := frame.isSome_header_iff.mpr (Nat.le_of_not_lt long)
        rw [found] at some
        contradiction
      rw [readerTurn_short tail short] at turn
      exact (Turn.continued.inj turn).1.symm
  | some header =>
      obtain ⟨enough, rfl, kind⟩ := readerTurn_frame_continued found turn
      have same : header.dataLength.toNat = frame.payload.length := by
        rcases kind with router | same
        · by_contra differs
          exact honest ⟨header, found, router, differs, enough⟩
        · exact same
      rw [same, List.drop_left]

/-- A turn needs bytes to go on. -/
theorem readerTurn_nil {source : AmsAddr} {pending after : PendingMap}
    {receiving : CallId → Bool} {socketEnd : Option IoErrorKind} {rest : List UInt8}
    {effect : Effect} :
    readerTurn source pending receiving socketEnd [] ≠ .continued rest after effect := by
  intro turn
  cases socketEnd <;> cases turn

/-- Every turn that goes on leaves the reader at the start of the next frame
exactly when no frame that the loop reaches in frame misleads it. -/
theorem stays_in_frame_iff (source : AmsAddr) (frames : List Frame) :
    (∀ n rest, Continues source (wire frames) n rest → rest = wire (frames.drop n)) ↔
      ∀ n frame later, frames.drop n = frame :: later →
        Continues source (wire frames) n (wire (frame :: later)) →
          ¬ frame.Misleads (wire later) := by
  constructor
  · intro inFrame n frame later dropped reached misleads
    obtain ⟨rest, differs, turn⟩ := @Frame.Misleads.turn source frame (wire later) misleads
    have next := inFrame (n + 1) rest (reached.turn turn)
    rw [← List.drop_drop, dropped] at next
    exact differs next
  · intro condition n rest continues
    induction continues with
    | start => rfl
    | @turn n middle rest _ _ _ _ _ reached turn ih =>
        subst ih
        cases dropped : frames.drop n with
        | nil =>
            rw [dropped] at turn
            exact absurd turn readerTurn_nil
        | cons frame later =>
            rw [dropped] at turn reached
            have next := readerTurn_in_frame (condition n frame later dropped reached) turn
            rw [next, ← List.drop_drop, dropped, List.drop_one, List.tail_cons]

/-- A port-close frame of 33 bytes whose AMS header announces no payload. -/
def paddedPortClose : Frame :=
  ⟨1, List.replicate 33 0, by decide⟩

/-- The reader goes on after this frame with its last byte still unread. -/
theorem leaves_frame :
    ¬ ∀ source frames n rest, Continues source (wire frames) n rest →
      rest = wire (frames.drop n) := by
  intro claim
  have turn : readerTurn emptyNotification.dest ∅ (fun _ => false) none
      (wire [paddedPortClose]) = .continued [0] ∅ .nothing := rfl
  have inFrame := claim _ [paddedPortClose] 1 [0] (Continues.start.turn turn)
  contradiction

end Ads.Client
