import Ads.Client.Device

/-!
# Reads and what they report

The operations that are built on `read` and `write_read`, and when the length and
the bytes that they report are those of the reply.
-/

namespace Ads.Client

open Ads.Bytes Ads.Control

section Operations

variable {S : Type} (server : Server S) (device : Device)

/-- Check that the returned data has the size of the buffer. -/
def ensureExact (context : String) (len : Nat) (data : List UInt8) :
    Outcome Error (List UInt8) :=
  if len ≠ data.length then
    .err (.reply context "got less data than expected" (UInt32.ofNat len))
  else .ok data

/-- Read some data at a given index group and offset, ensuring that the returned data
has exactly the size of the passed buffer. -/
def readExact (indexGroup indexOffset : UInt32) (data : List UInt8) :
    Operation S (List UInt8) := do
  let (len, data) ← read server device indexGroup indexOffset data
  Operation.ofOutcome (ensureExact "read data" len data)

/-- Like `writeRead`, but ensure the returned data length matches the output buffer. -/
def writeReadExact (indexGroup indexOffset : UInt32) (writeData readData : List UInt8) :
    Operation S (List UInt8) := do
  let (len, readData) ← writeRead server device indexGroup indexOffset writeData readData
  Operation.ofOutcome (ensureExact "write/read data" len readData)

/-- A type whose values are runs of bytes of one size, with a default value. -/
structure ByteValue (T : Type) where
  default : T
  size : Nat
  asBytes : T → List UInt8
  /-- The value whose bytes have been written to. -/
  ofBytes : List UInt8 → T
  length_asBytes : ∀ value, (asBytes value).length = size
  asBytes_ofBytes : ∀ bytes, bytes.length = size → asBytes (ofBytes bytes) = bytes

/-- Read data of given type. -/
def readValue {T : Type} (type : ByteValue T) (indexGroup indexOffset : UInt32) :
    Operation S T := do
  let buf ← readExact server device indexGroup indexOffset (type.asBytes type.default)
  pure (type.ofBytes buf)

/-- The index group of the values of variables, by their handles. -/
def rwSymvalByhandle : UInt32 := 0xF005

/-- A handle to a variable within the device. -/
structure Handle where
  device : Device
  handle : UInt32

/-- Read data from the variable. -/
def Handle.read (handle : Handle) (buf : List UInt8) : Operation S (List UInt8) :=
  readExact server handle.device rwSymvalByhandle handle.handle buf

/-- The index group that reads from files. -/
def fileRead : UInt32 := 122

/-- A file opened within the PLC. -/
structure File where
  device : Device
  handle : UInt32

/-- The I/O errors that operations on files return: a kind alone, or with a text. -/
inductive IoError
  | ofKind (kind : IoErrorKind)
  | new (kind : IoErrorKind) (text : String)
  deriving DecidableEq, Repr

/-- Map an error to an I/O error. -/
def mapError : Error → IoError
  | .io _ kind => .ofKind kind
  | .ads action description code =>
      if code = 0x704 then .ofKind .invalidInput
      else if code = 0x70C then .ofKind .notFound
      else .new .other (Error.text (.ads action description code))
  | error => .new .other error.text

/-- Read from the file. -/
def File.read (file : File) (data : List UInt8) (link : Link S) :
    Outcome IoError (Nat × List UInt8) × Link S :=
  match writeRead server file.device fileRead file.handle [] data link with
  | (.ok result, after) => (.ok result, after)
  | (.err error, after) => (.err (mapError error), after)
  | (.panic, after) => (.panic, after)

end Operations

/-! ## What a reply says -/

/-- The server that gives the same reply to everything. -/
def Server.answering (reply : Reply) : Server Unit where
  handle state _ _ := (state, reply)

namespace Reply

/-- The reply reports success, and has its result word and its length word. -/
def Accepted (reply : Reply) : Prop :=
  reply.errorCode = 0 ∧ leU32 reply.payload = 0 ∧ 8 ≤ reply.payload.length

/-- The number of bytes that the reply says it returns. -/
def announced (reply : Reply) : Nat :=
  (leU32 (reply.payload.drop 4)).toNat

/-- The bytes after the length field. -/
def bytes (reply : Reply) : List UInt8 :=
  reply.payload.drop 8

end Reply

variable {reply : Reply} {device : Device} {link : Link Unit}

/-- What an exchange leaves in the caller's buffers, of which the first is for the length. -/
theorem settled_eq_ok_iff {cmd : Command} {others : List (List UInt8)}
    {received : Received} :
    settled cmd (u32Bytes 0 :: others) reply = .ok received ↔ reply.Accepted ∧
      received = ⟨(reply.payload.drop 4).length,
        (reply.payload.drop 4).take 4 :: scatter others reply.bytes⟩ := by
  have size : (u32Bytes 0).length = 4 := length_u32Bytes 0
  have front (enough : 8 ≤ reply.payload.length) :
      overlay (reply.payload.drop 4) (u32Bytes 0) = (reply.payload.drop 4).take 4 := by
    have full : (u32Bytes 0).length ≤ (reply.payload.drop 4).length := by
      rw [size, List.length_drop]
      omega
    rw [overlay, List.drop_eq_nil_of_le full, List.append_nil, size]
  rw [settled_cons_eq_ok_iff, Reply.Accepted, scatter_cons, size, List.drop_drop, Reply.bytes,
    and_assoc, and_assoc]
  apply and_congr_right'
  apply and_congr_right'
  apply and_congr_right
  intro enough
  rw [front enough]

theorem communicate_answering_iff {cmd : Command} {payloadBufs others : List (List UInt8)}
    {received : Received} :
    (∃ last, communicate (.answering reply) device cmd payloadBufs (u32Bytes 0 :: others)
        link = (.ok received, last)) ↔
      amsHeaderSize + payloadBufs.flatten.length < 2 ^ 32 ∧ reply.Accepted ∧
        received = ⟨(reply.payload.drop 4).length,
          (reply.payload.drop 4).take 4 :: scatter others reply.bytes⟩ := by
  rw [← @settled_eq_ok_iff reply cmd others received]
  constructor
  · rintro ⟨last, ran⟩
    rcases communicate_eq_ok ran with ⟨short, state, answer, handled, accepted, -⟩
    cases handled
    exact ⟨short, accepted⟩
  · rintro ⟨short, accepted⟩
    exact ⟨_, (communicate_run short rfl).trans (congrArg (·, _) accepted)⟩

/-- What the caller of `read` or `write_read` gets from an accepted reply: the announced
length, and the bytes that came, over the old contents of its buffer. -/
def Reply.Fills (reply : Reply) (data : List UInt8) (n : Nat) (after : List UInt8) : Prop :=
  reply.Accepted ∧ n = reply.announced ∧ after = overlay reply.bytes data

theorem read_answering_iff {indexGroup indexOffset : UInt32} {data after : List UInt8}
    {n : Nat} :
    (∃ last, read (.answering reply) device indexGroup indexOffset data link =
        (.ok (n, after), last)) ↔ data.length < 2 ^ 32 ∧ reply.Fills data n after := by
  have word : leU32 ((reply.payload.drop 4).take 4) = leU32 (reply.payload.drop 4) := by
    rw [leU32, leU32, List.take_take, Nat.min_self]
  constructor
  · rintro ⟨last, ran⟩
    rw [read] at ran
    rcases Operation.ofOutcome_bind_run_eq_ok_iff.mp ran with ⟨length, fits, rest⟩
    rcases Operation.bind_run_eq_ok_iff.mp rest with ⟨received, _, exchanged, result⟩
    rcases communicate_answering_iff.mp ⟨_, exchanged⟩ with ⟨-, accepted, rfl⟩
    cases result
    exact ⟨(tryInto_eq_ok_iff.mp fits).1, accepted, congrArg UInt32.toNat word, rfl⟩
  · rintro ⟨fits, accepted, rfl, rfl⟩
    have short : amsHeaderSize + [(IndexLength.asBytes
        ⟨indexGroup, indexOffset, UInt32.ofNat data.length⟩)].flatten.length < 2 ^ 32 := by
      simp [amsHeaderSize]
    rcases (@communicate_answering_iff reply device link .read _ [data] _).mpr
      ⟨short, accepted, rfl⟩ with ⟨last, exchanged⟩
    refine ⟨last, Operation.ofOutcome_bind_run_eq_ok_iff.mpr
      ⟨_, tryInto_eq_ok_iff.mpr ⟨fits, rfl⟩, ?_⟩⟩
    refine Operation.bind_run_eq_ok_iff.mpr ⟨_, last, exchanged, ?_⟩
    rw [Reply.announced, ← word]
    rfl

/-- The request for a `write_read` has a length that fits its field. -/
def Sendable (writeData : List UInt8) : Prop :=
  amsHeaderSize + (indexLengthRWSize + writeData.length) < 2 ^ 32

theorem writeRead_answering_iff {indexGroup indexOffset : UInt32}
    {writeData data after : List UInt8} {n : Nat} :
    (∃ last, writeRead (.answering reply) device indexGroup indexOffset writeData data link =
        (.ok (n, after), last)) ↔
      data.length < 2 ^ 32 ∧ Sendable writeData ∧ reply.Fills data n after := by
  have word : leU32 ((reply.payload.drop 4).take 4) = leU32 (reply.payload.drop 4) := by
    rw [leU32, leU32, List.take_take, Nat.min_self]
  have size : ∀ header : IndexLengthRW, [header.asBytes, writeData].flatten.length =
      indexLengthRWSize + writeData.length := by
    intro header
    simp [indexLengthRWSize]
  constructor
  · rintro ⟨last, ran⟩
    rw [writeRead] at ran
    rcases Operation.ofOutcome_bind_run_eq_ok_iff.mp ran with ⟨readLength, fits, rest⟩
    rcases Operation.ofOutcome_bind_run_eq_ok_iff.mp rest with ⟨writeLength, -, rest⟩
    rcases Operation.bind_run_eq_ok_iff.mp rest with ⟨received, _, exchanged, result⟩
    rcases communicate_answering_iff.mp ⟨_, exchanged⟩ with ⟨short, accepted, rfl⟩
    cases result
    rw [size] at short
    exact ⟨(tryInto_eq_ok_iff.mp fits).1, short, accepted, congrArg UInt32.toNat word, rfl⟩
  · rintro ⟨fits, short, accepted, rfl, rfl⟩
    have writeFits : writeData.length < 2 ^ 32 := by
      rw [Sendable] at short
      omega
    have sent : amsHeaderSize + [IndexLengthRW.asBytes ⟨indexGroup, indexOffset,
        UInt32.ofNat data.length, UInt32.ofNat writeData.length⟩, writeData].flatten.length <
          2 ^ 32 := by
      rw [size]
      exact short
    rcases (@communicate_answering_iff reply device link .readWrite _ [data] _).mpr
      ⟨sent, accepted, rfl⟩ with ⟨last, exchanged⟩
    refine ⟨last, Operation.ofOutcome_bind_run_eq_ok_iff.mpr
      ⟨_, tryInto_eq_ok_iff.mpr ⟨fits, rfl⟩, ?_⟩⟩
    refine Operation.ofOutcome_bind_run_eq_ok_iff.mpr
      ⟨_, tryInto_eq_ok_iff.mpr ⟨writeFits, rfl⟩, ?_⟩
    refine Operation.bind_run_eq_ok_iff.mpr ⟨_, last, exchanged, ?_⟩
    rw [Reply.announced, ← word]
    rfl

/-! ## When a reply panics -/

/-- A reply that reports success has no result word. -/
def Reply.Short (reply : Reply) : Prop :=
  reply.errorCode = 0 ∧ reply.payload.length < 4

theorem settled_eq_panic_iff {cmd : Command} {resultBufs : List (List UInt8)} :
    settled cmd resultBufs reply = .panic ↔ reply.Short := by
  unfold settled Reply.Short
  by_cases code : reply.errorCode = 0
  swap
  · simp [code]
  by_cases short : reply.payload.length < 4
  · simp [code, short]
  by_cases result : leU32 reply.payload = 0
  swap
  · simp [code, short, result]
  cases resultBufs with
  | nil => simp [code, short, result]
  | cons first others =>
      simp only [code, short, result, ne_eq, not_true, if_false, and_false, iff_false]
      split <;> simp

theorem communicate_answering_panics_iff {cmd : Command}
    {payloadBufs resultBufs : List (List UInt8)} :
    (∃ last, communicate (.answering reply) device cmd payloadBufs resultBufs link =
        (.panic, last)) ↔
      amsHeaderSize + payloadBufs.flatten.length < 2 ^ 32 ∧ reply.Short := by
  rw [← @settled_eq_panic_iff reply cmd resultBufs]
  by_cases short : amsHeaderSize + payloadBufs.flatten.length < 2 ^ 32
  · constructor
    · rintro ⟨last, ran⟩
      rw [communicate_run short rfl] at ran
      exact ⟨short, congrArg Prod.fst ran⟩
    · rintro ⟨-, settled⟩
      exact ⟨_, (communicate_run short rfl).trans (congrArg (·, _) settled)⟩
  · constructor
    · rintro ⟨last, ran⟩
      rw [communicate_refused short] at ran
      cases ran
    · rintro ⟨sent, -⟩
      exact absurd sent short

theorem tryInto_ne_panic (value : Nat) : tryInto value ≠ .panic := by
  unfold tryInto
  split
  · exact Outcome.ok_ne_panic _
  · exact Outcome.err_ne_panic _

theorem writeRead_answering_panics_iff {indexGroup indexOffset : UInt32}
    {writeData data : List UInt8} :
    (∃ last, writeRead (.answering reply) device indexGroup indexOffset writeData data link =
        (.panic, last)) ↔
      data.length < 2 ^ 32 ∧ Sendable writeData ∧ reply.Short := by
  have size : ∀ header : IndexLengthRW, [header.asBytes, writeData].flatten.length =
      indexLengthRWSize + writeData.length := by
    intro header
    simp [indexLengthRWSize]
  rw [writeRead, Operation.ofOutcome_bind_run_panics_iff]
  constructor
  · rintro (overflow | ⟨readLength, fits, rest⟩)
    · exact absurd overflow (tryInto_ne_panic _)
    rcases Operation.ofOutcome_bind_run_panics_iff.mp rest with overflow | ⟨writeLength, -, rest⟩
    · exact absurd overflow (tryInto_ne_panic _)
    rcases Operation.bind_run_panics_iff.mp rest with exchanged | ⟨received, after, last, -, done⟩
    · obtain ⟨sent, short⟩ := communicate_answering_panics_iff.mp exchanged
      rw [size] at sent
      exact ⟨(tryInto_eq_ok_iff.mp fits).1, sent, short⟩
    · cases done
  · rintro ⟨fits, sendable, short⟩
    have writeFits : writeData.length < 2 ^ 32 := by
      rw [Sendable] at sendable
      omega
    have exchanged : ∃ last, communicate (.answering reply) device .readWrite
        [IndexLengthRW.asBytes ⟨indexGroup, indexOffset, UInt32.ofNat data.length,
          UInt32.ofNat writeData.length⟩, writeData] [u32Bytes 0, data] link = (.panic, last) := by
      apply communicate_answering_panics_iff.mpr
      rw [size]
      exact ⟨sendable, short⟩
    refine Or.inr ⟨_, tryInto_eq_ok_iff.mpr ⟨fits, rfl⟩, ?_⟩
    refine Operation.ofOutcome_bind_run_panics_iff.mpr
      (Or.inr ⟨_, tryInto_eq_ok_iff.mpr ⟨writeFits, rfl⟩, ?_⟩)
    exact Operation.bind_run_panics_iff.mpr (Or.inl exchanged)

theorem ensureExact_eq_ok_iff {context : String} {len : Nat} {data result : List UInt8} :
    ensureExact context len data = .ok result ↔ len = data.length ∧ result = data := by
  unfold ensureExact
  split
  · rename_i other
    simp [other]
  · rename_i same
    simp [not_not.mp same, eq_comm]

/-- An exact operation returns what the other one returns with the whole length. -/
theorem ensured_run_iff {S : Type} {operation : Operation S (Nat × List UInt8)}
    {context : String} {link : Link S} {after : List UInt8} :
    (∃ last, (operation >>= fun result =>
        Operation.ofOutcome (ensureExact context result.1 result.2)) link =
          (.ok after, last)) ↔
      ∃ last, operation link = (.ok (after.length, after), last) := by
  constructor
  · rintro ⟨last, ran⟩
    rcases Operation.bind_run_eq_ok_iff.mp ran with ⟨⟨n, filled⟩, middle, first, rest⟩
    rcases ensureExact_eq_ok_iff.mp (congrArg Prod.fst rest) with ⟨exact, rfl⟩
    exact ⟨middle, exact ▸ first⟩
  · rintro ⟨last, first⟩
    refine ⟨last, Operation.bind_run_eq_ok_iff.mpr ⟨_, last, first, ?_⟩⟩
    exact congrArg (·, last) (ensureExact_eq_ok_iff.mpr ⟨rfl, rfl⟩)

theorem Reply.Fills.length_eq {data after : List UInt8} {n : Nat}
    (fills : reply.Fills data n after) : after.length = data.length := by
  rcases fills with ⟨-, -, rfl⟩
  exact length_overlay _ _

theorem Reply.fills_length_iff {data after : List UInt8} :
    reply.Fills data after.length after ↔ reply.Fills data data.length after := by
  constructor
  · intro fills
    exact fills.length_eq ▸ fills
  · intro fills
    rw [fills.length_eq]
    exact fills

theorem readExact_answering_iff {indexGroup indexOffset : UInt32} {data after : List UInt8} :
    (∃ last, readExact (.answering reply) device indexGroup indexOffset data link =
        (.ok after, last)) ↔ data.length < 2 ^ 32 ∧ reply.Fills data data.length after := by
  rw [← Reply.fills_length_iff, ← read_answering_iff]
  exact ensured_run_iff

theorem writeReadExact_answering_iff {indexGroup indexOffset : UInt32}
    {writeData data after : List UInt8} :
    (∃ last, writeReadExact (.answering reply) device indexGroup indexOffset writeData data
        link = (.ok after, last)) ↔
      data.length < 2 ^ 32 ∧ Sendable writeData ∧ reply.Fills data data.length after := by
  rw [← Reply.fills_length_iff, ← writeRead_answering_iff]
  exact ensured_run_iff

/-! ## When a reply is reported as it is -/

namespace Reply

/-- The caller gets no more bytes than its buffer holds, and exactly those that the reply
returns, with the rest of its buffer left alone. -/
def Reports (reply : Reply) (data : List UInt8) (n : Nat) (after : List UInt8) : Prop :=
  n ≤ data.length ∧ after.take n = reply.bytes.take n ∧ after.drop n = data.drop n

/-- The announced bytes fit the buffer and have come, and bytes beyond them that reach the
buffer are no news to it. -/
def Sound (reply : Reply) (data : List UInt8) : Prop :=
  reply.announced ≤ data.length ∧ reply.announced ≤ reply.bytes.length ∧
    (reply.bytes.take data.length).drop reply.announced =
      (data.take reply.bytes.length).drop reply.announced

theorem reports_iff {data : List UInt8} :
    reply.Reports data reply.announced (overlay reply.bytes data) ↔ reply.Sound data := by
  constructor
  · rintro ⟨fits, front, back⟩
    have within := (take_overlay_eq_iff fits).mp front
    exact ⟨fits, within, (drop_overlay_eq_iff fits within).mp back⟩
  · rintro ⟨fits, within, back⟩
    exact ⟨fits, (take_overlay_eq_iff fits).mpr within, (drop_overlay_eq_iff fits within).mpr back⟩

/-- If as many bytes are announced as the buffer holds, they have come. -/
def Complete (reply : Reply) (size : Nat) : Prop :=
  reply.announced = size → size ≤ reply.bytes.length

end Reply

variable {indexGroup indexOffset : UInt32} {writeData data : List UInt8}

theorem read_reports_iff :
    (∀ n after last, read (.answering reply) device indexGroup indexOffset data link =
        (.ok (n, after), last) → reply.Reports data n after) ↔
      (data.length < 2 ^ 32 → reply.Accepted → reply.Sound data) := by
  constructor
  · intro reports fits accepted
    rcases (@read_answering_iff reply device link indexGroup indexOffset data _ _).mpr
      ⟨fits, accepted, rfl, rfl⟩ with ⟨last, ran⟩
    exact Reply.reports_iff.mp (reports _ _ last ran)
  · intro sound n after last ran
    rcases read_answering_iff.mp ⟨last, ran⟩ with ⟨fits, accepted, rfl, rfl⟩
    exact Reply.reports_iff.mpr (sound fits accepted)

theorem writeRead_reports_iff :
    (∀ n after last, writeRead (.answering reply) device indexGroup indexOffset writeData data
        link = (.ok (n, after), last) → reply.Reports data n after) ↔
      (data.length < 2 ^ 32 → Sendable writeData → reply.Accepted → reply.Sound data) := by
  constructor
  · intro reports fits short accepted
    rcases (@writeRead_answering_iff reply device link indexGroup indexOffset writeData data
      _ _).mpr ⟨fits, short, accepted, rfl, rfl⟩ with ⟨last, ran⟩
    exact Reply.reports_iff.mp (reports _ _ last ran)
  · intro sound n after last ran
    rcases writeRead_answering_iff.mp ⟨last, ran⟩ with ⟨fits, short, accepted, rfl, rfl⟩
    exact Reply.reports_iff.mpr (sound fits short accepted)

theorem readExact_complete_iff :
    (∀ after last, readExact (.answering reply) device indexGroup indexOffset data link =
        (.ok after, last) → after = reply.bytes.take data.length) ↔
      (data.length < 2 ^ 32 → reply.Accepted → reply.Complete data.length) := by
  constructor
  · intro exact fits accepted announced
    rcases (@readExact_answering_iff reply device link indexGroup indexOffset data _).mpr
      ⟨fits, accepted, announced.symm, rfl⟩ with ⟨last, ran⟩
    exact overlay_eq_take_iff.mp (exact _ last ran)
  · intro complete after last ran
    rcases readExact_answering_iff.mp ⟨last, ran⟩ with ⟨fits, accepted, announced, rfl⟩
    exact overlay_eq_take_iff.mpr (complete fits accepted announced.symm)

theorem writeReadExact_complete_iff :
    (∀ after last, writeReadExact (.answering reply) device indexGroup indexOffset writeData
        data link = (.ok after, last) → after = reply.bytes.take data.length) ↔
      (data.length < 2 ^ 32 → Sendable writeData → reply.Accepted →
        reply.Complete data.length) := by
  constructor
  · intro exact fits short accepted announced
    rcases (@writeReadExact_answering_iff reply device link indexGroup indexOffset writeData
      data _).mpr ⟨fits, short, accepted, announced.symm, rfl⟩ with ⟨last, ran⟩
    exact overlay_eq_take_iff.mp (exact _ last ran)
  · intro complete after last ran
    rcases writeReadExact_answering_iff.mp ⟨last, ran⟩ with ⟨fits, short, accepted, announced, rfl⟩
    exact overlay_eq_take_iff.mpr (complete fits short accepted announced.symm)

/-- A value is the bytes that are read exactly. -/
theorem readValue_eq_ok {T : Type} {type : ByteValue T} {value : T} {last : Link Unit}
    (ran : readValue (.answering reply) device type indexGroup indexOffset link =
      (.ok value, last)) :
    readExact (.answering reply) device indexGroup indexOffset (type.asBytes type.default)
      link = (.ok (type.asBytes value), last) := by
  rw [readValue] at ran
  rcases Operation.bind_run_eq_ok_iff.mp ran with ⟨bytes, _, exact, result⟩
  cases result
  rcases readExact_answering_iff.mp ⟨_, exact⟩ with ⟨-, fills⟩
  rw [type.asBytes_ofBytes bytes (fills.length_eq.trans (type.length_asBytes _))]
  exact exact

theorem readValue_complete_iff {T : Type} (type : ByteValue T) :
    (∀ value last, readValue (.answering reply) device type indexGroup indexOffset link =
        (.ok value, last) → type.asBytes value = reply.bytes.take type.size) ↔
      (type.size < 2 ^ 32 → reply.Accepted → reply.Complete type.size) := by
  rw [← type.length_asBytes type.default,
    ← @readExact_complete_iff reply device link indexGroup indexOffset]
  constructor
  · intro whole after last exact
    rcases readExact_answering_iff.mp ⟨_, exact⟩ with ⟨-, fills⟩
    have ran : readValue (.answering reply) device type indexGroup indexOffset link =
        (.ok (type.ofBytes after), last) :=
      Operation.bind_run_eq_ok_iff.mpr ⟨after, last, exact, rfl⟩
    rw [← whole _ last ran,
      type.asBytes_ofBytes after (fills.length_eq.trans (type.length_asBytes _))]
  · intro whole value last ran
    exact whole _ last (readValue_eq_ok ran)

theorem File.read_eq_ok_iff {S : Type} {server : Server S} {file : File} {link last : Link S}
    {n : Nat} {after : List UInt8} :
    file.read server data link = (.ok (n, after), last) ↔
      writeRead server file.device fileRead file.handle [] data link =
        (.ok (n, after), last) := by
  unfold File.read
  rcases writeRead server file.device fileRead file.handle [] data link with ⟨outcome, state⟩
  cases outcome with
  | ok result => simp
  | err error => simp
  | panic => simp

theorem sendable_nil : Sendable [] := by
  simp [Sendable, amsHeaderSize, indexLengthRWSize]

theorem File.read_bounded_iff {file : File} :
    (∀ n after last, file.read (.answering reply) data link = (.ok (n, after), last) →
        n ≤ data.length) ↔
      (data.length < 2 ^ 32 → reply.Accepted → reply.announced ≤ data.length) := by
  constructor
  · intro bounded fits accepted
    rcases (@writeRead_answering_iff reply file.device link fileRead file.handle [] data
      _ _).mpr ⟨fits, sendable_nil, accepted, rfl, rfl⟩ with ⟨last, ran⟩
    exact bounded _ _ last (File.read_eq_ok_iff.mpr ran)
  · intro bounded n after last ran
    rcases writeRead_answering_iff.mp ⟨last, File.read_eq_ok_iff.mp ran⟩ with
      ⟨fits, -, accepted, rfl, -⟩
    exact bounded fits accepted

/-- For every reply and every buffer: `read` and `write_read` report what they received
exactly when an accepted reply announces no more than came and than the buffer holds, and
nothing beyond it changes the buffer; the exact reads, of bytes or of a value, return
bytes of the reply only exactly when a reply that announces the size of the buffer has
that many bytes; and a file reads no more than the buffer holds exactly when no more is
announced. -/
theorem reads_received_iff (device : Device) (link : Link Unit) (reply : Reply)
    (indexGroup indexOffset : UInt32) (writeData data : List UInt8) {T : Type}
    (type : ByteValue T) (handle : Handle) (file : File) :
    let server := Server.answering reply
    ((∀ n after last, read server device indexGroup indexOffset data link =
          (.ok (n, after), last) → reply.Reports data n after) ↔
        (data.length < 2 ^ 32 → reply.Accepted → reply.Sound data)) ∧
      ((∀ n after last, writeRead server device indexGroup indexOffset writeData data link =
          (.ok (n, after), last) → reply.Reports data n after) ↔
        (data.length < 2 ^ 32 → Sendable writeData → reply.Accepted → reply.Sound data)) ∧
      ((∀ after last, readExact server device indexGroup indexOffset data link =
          (.ok after, last) → after = reply.bytes.take data.length) ↔
        (data.length < 2 ^ 32 → reply.Accepted → reply.Complete data.length)) ∧
      ((∀ after last, writeReadExact server device indexGroup indexOffset writeData data link =
          (.ok after, last) → after = reply.bytes.take data.length) ↔
        (data.length < 2 ^ 32 → Sendable writeData → reply.Accepted →
          reply.Complete data.length)) ∧
      ((∀ value last, readValue server device type indexGroup indexOffset link =
          (.ok value, last) → type.asBytes value = reply.bytes.take type.size) ↔
        (type.size < 2 ^ 32 → reply.Accepted → reply.Complete type.size)) ∧
      ((∀ after last, handle.read server data link = (.ok after, last) →
          after = reply.bytes.take data.length) ↔
        (data.length < 2 ^ 32 → reply.Accepted → reply.Complete data.length)) ∧
      ((∀ n after last, file.read server data link = (.ok (n, after), last) →
          n ≤ data.length) ↔
        (data.length < 2 ^ 32 → reply.Accepted → reply.announced ≤ data.length)) := by
  intro server
  exact ⟨read_reports_iff, writeRead_reports_iff, readExact_complete_iff,
    writeReadExact_complete_iff, readValue_complete_iff type, readExact_complete_iff,
    File.read_bounded_iff⟩

/-- A reply that announces eight bytes and has two. -/
def boastfulReply (announced : UInt32) : Reply where
  errorCode := 0
  payload := u32Bytes 0 ++ (u32Bytes announced ++ [1, 2])

/-- It makes a read report more bytes than its buffer holds, and an exact read report
success with bytes of its own buffer. -/
theorem boastfulReply_reported :
    let device : Device := ⟨⟨.localId, 1⟩, ⟨.localId, 851⟩⟩
    (read (.answering (boastfulReply 8)) device 0 0 [7, 7, 7, 7] ⟨1, (), []⟩).1 =
        .ok (8, [1, 2, 7, 7]) ∧
      (readExact (.answering (boastfulReply 4)) device 0 0 [7, 7, 7, 7] ⟨1, (), []⟩).1 =
        .ok [1, 2, 7, 7] ∧
      ¬ (∀ n after last, read (.answering (boastfulReply 8)) device 0 0 [7, 7, 7, 7]
          ⟨1, (), []⟩ = (.ok (n, after), last) →
            (boastfulReply 8).Reports [7, 7, 7, 7] n after) := by
  intro device
  have reported : (read (.answering (boastfulReply 8)) device 0 0 [7, 7, 7, 7]
      ⟨1, (), []⟩).1 = .ok (8, [1, 2, 7, 7]) := by
    decide +kernel
  refine ⟨reported, by decide +kernel, ?_⟩
  intro reports
  rcases ran : read (.answering (boastfulReply 8)) device 0 0 [7, 7, 7, 7] ⟨1, (), []⟩ with
    ⟨outcome, last⟩
  rw [ran] at reported
  cases reported
  have short := (reports 8 [1, 2, 7, 7] last ran).1
  simp at short

end Ads.Client
