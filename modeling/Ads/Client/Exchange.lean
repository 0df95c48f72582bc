import Ads.Client.Reads

/-!
# Operations on any server

What `read`, `write` and `write_read`, and the operations on top of them, do with the
reply of a server in any state: one lemma for each, which the clients of the operations
use instead of the operations' bodies.
-/

namespace Ads.Client

open Ads.Bytes Ads.Control

/-! ## Payloads -/

/-- The payload of a `read`. -/
def readPayload (indexGroup indexOffset : UInt32) (length : Nat) : List UInt8 :=
  IndexLength.asBytes ⟨indexGroup, indexOffset, UInt32.ofNat length⟩

/-- The payload of a `write`. -/
def writePayload (indexGroup indexOffset : UInt32) (data : List UInt8) : List UInt8 :=
  IndexLength.asBytes ⟨indexGroup, indexOffset, UInt32.ofNat data.length⟩ ++ data

/-- The payload of a `write_read` for a number of bytes. -/
def writeReadPayload (indexGroup indexOffset : UInt32) (writeData : List UInt8)
    (readLength : Nat) : List UInt8 :=
  IndexLengthRW.asBytes ⟨indexGroup, indexOffset, UInt32.ofNat readLength,
    UInt32.ofNat writeData.length⟩ ++ writeData

section Fields

variable (indexGroup indexOffset : UInt32) (writeData : List UInt8) (readLength : Nat)

theorem group_writeReadPayload :
    leU32 (writeReadPayload indexGroup indexOffset writeData readLength) = indexGroup := by
  rw [writeReadPayload, IndexLengthRW.asBytes, List.append_assoc, List.append_assoc,
    List.append_assoc, leU32_u32Bytes_append]

theorem offset_writeReadPayload :
    leU32 ((writeReadPayload indexGroup indexOffset writeData readLength).drop 4) =
      indexOffset := by
  rw [writeReadPayload, IndexLengthRW.asBytes, List.append_assoc, List.append_assoc,
    List.append_assoc, List.drop_left' (length_u32Bytes _), leU32_u32Bytes_append]

theorem readLength_writeReadPayload :
    leU32 ((writeReadPayload indexGroup indexOffset writeData readLength).drop 8) =
      UInt32.ofNat readLength := by
  rw [show 8 = 4 + 4 from rfl, ← List.drop_drop, writeReadPayload, IndexLengthRW.asBytes,
    List.append_assoc, List.append_assoc, List.append_assoc,
    List.drop_left' (length_u32Bytes _), List.drop_left' (length_u32Bytes _),
    leU32_u32Bytes_append]

theorem data_writeReadPayload :
    (writeReadPayload indexGroup indexOffset writeData readLength).drop 16 = writeData :=
  List.drop_left' (IndexLengthRW.length_asBytes _)

theorem group_readPayload : leU32 (readPayload indexGroup indexOffset readLength) = indexGroup := by
  rw [readPayload, IndexLength.asBytes, List.append_assoc, leU32_u32Bytes_append]

theorem offset_readPayload :
    leU32 ((readPayload indexGroup indexOffset readLength).drop 4) = indexOffset := by
  rw [readPayload, IndexLength.asBytes, List.append_assoc, List.drop_left' (length_u32Bytes _),
    leU32_u32Bytes_append]

theorem length_readPayload :
    leU32 ((readPayload indexGroup indexOffset readLength).drop 8) = UInt32.ofNat readLength := by
  rw [show 8 = 4 + 4 from rfl, ← List.drop_drop, readPayload, IndexLength.asBytes,
    List.append_assoc, List.drop_left' (length_u32Bytes _), List.drop_left' (length_u32Bytes _),
    ← List.append_nil (u32Bytes _), leU32_u32Bytes_append]

theorem group_writePayload : leU32 (writePayload indexGroup indexOffset writeData) = indexGroup := by
  rw [writePayload, IndexLength.asBytes, List.append_assoc, List.append_assoc,
    leU32_u32Bytes_append]

theorem offset_writePayload :
    leU32 ((writePayload indexGroup indexOffset writeData).drop 4) = indexOffset := by
  rw [writePayload, IndexLength.asBytes, List.append_assoc, List.append_assoc,
    List.drop_left' (length_u32Bytes _), leU32_u32Bytes_append]

theorem data_writePayload : (writePayload indexGroup indexOffset writeData).drop 12 = writeData :=
  List.drop_left' (IndexLength.length_asBytes _)

end Fields

/-- The request for a `write` has a length that fits its field. -/
def Writable (data : List UInt8) : Prop :=
  amsHeaderSize + (indexLengthSize + data.length) < 2 ^ 32

/-! ## Replies -/

namespace Reply

/-- The reply that returns data. -/
def returning (data : List UInt8) : Reply :=
  ⟨0, u32Bytes 0 ++ (u32Bytes (UInt32.ofNat data.length) ++ data)⟩

/-- The reply that reports success, and returns nothing. -/
def success : Reply :=
  ⟨0, u32Bytes 0⟩

/-- The reply reports an error, in its header or in its result. -/
def Fails (reply : Reply) (code : UInt32) : Prop :=
  code ≠ 0 ∧ (reply.errorCode = code ∨
    (reply.errorCode = 0 ∧ 4 ≤ reply.payload.length ∧ leU32 reply.payload = code))

/-- What the caller of `read` and `write_read` gets: the announced length, and its
buffer. -/
def filled (reply : Reply) (cmd : Command) (data : List UInt8) :
    Outcome Error (Nat × List UInt8) :=
  (fun received => ((leU32 (received.bufs.getD 0 [])).toNat, received.bufs.getD 1 [])) <$>
    settled cmd [u32Bytes 0, data] reply

/-- What the caller of the exact operations gets. -/
def filledExact (reply : Reply) (cmd : Command) (context : String) (data : List UInt8) :
    Outcome Error (List UInt8) :=
  reply.filled cmd data >>= fun result => ensureExact context result.1 result.2

variable {reply : Reply} {cmd : Command} {context : String} {data : List UInt8}
  {code : UInt32}

theorem accepted_returning (bytes : List UInt8) : (returning bytes).Accepted := by
  refine ⟨rfl, leU32_u32Bytes_append _ _, ?_⟩
  simp only [returning, List.length_append, length_u32Bytes]
  omega

theorem bytes_returning (bytes : List UInt8) : (returning bytes).bytes = bytes := by
  have front : (u32Bytes 0 ++ u32Bytes (UInt32.ofNat bytes.length)).length = 8 := by
    rw [List.length_append, length_u32Bytes, length_u32Bytes]
  rw [Reply.bytes, returning, ← List.append_assoc, List.drop_left' front]

theorem announced_returning {bytes : List UInt8} (fits : bytes.length < 2 ^ 32) :
    (returning bytes).announced = bytes.length := by
  rw [announced, returning, List.drop_left' (length_u32Bytes _), leU32_u32Bytes_append,
    UInt32.toNat_ofNat_of_lt' fits]

theorem filled_of_accepted (accepted : reply.Accepted) :
    reply.filled cmd data = .ok (reply.announced, overlay reply.bytes data) := by
  have word : leU32 ((reply.payload.drop 4).take 4) = leU32 (reply.payload.drop 4) := by
    rw [leU32, leU32, List.take_take, Nat.min_self]
  rw [filled, settled_eq_ok_iff.mpr ⟨accepted, rfl⟩, Outcome.map_ok, announced, ← word]
  rfl

theorem settled_of_fails {resultBufs : List (List UInt8)} (fails : reply.Fails code) :
    settled cmd resultBufs reply = .err (adsError cmd.action code) := by
  obtain ⟨failed, rfl | ⟨noCode, long, rfl⟩⟩ := fails
  · exact if_pos failed
  · unfold settled
    rw [if_neg (not_not.mpr noCode), if_neg (Nat.not_lt_of_le long), if_pos failed]

theorem filled_of_fails (fails : reply.Fails code) :
    reply.filled cmd data = .err (adsError cmd.action code) := by
  rw [filled, settled_of_fails fails, Outcome.map_err]

theorem filled_returning {bytes : List UInt8} (fits : bytes.length < 2 ^ 32) :
    (returning bytes).filled cmd data = .ok (bytes.length, overlay bytes data) := by
  rw [filled_of_accepted (accepted_returning bytes), announced_returning fits, bytes_returning]

end Reply

/-! ## Responses -/

/-- The code of an error. -/
abbrev Refusal : Type :=
  { code : UInt32 // code ≠ 0 }

/-- The index group is invalid. -/
def Refusal.invalidGroup : Refusal := ⟨0x702, by decide⟩

/-- Reading or writing is not permitted. -/
def Refusal.notPermitted : Refusal := ⟨0x704, by decide⟩

/-- There is no such file. -/
def Refusal.notFound : Refusal := ⟨0x70C, by decide⟩

/-- What a server has to say to a request: what it returns, or an error. -/
abbrev Response (α : Type) : Type :=
  Except Refusal α

/-- What the caller makes of a response to its command. -/
def Response.outcome {α : Type} (cmd : Command) : Response α → Outcome Error α
  | .ok value => .ok value
  | .error refusal => .err (adsError cmd.action refusal)

/-- What comes of a request, which is not sent where it does not fit its length fields. -/
def requested {S α : Type} (cmd : Command) (state : S) (fits : Prop) [Decidable fits]
    (answer : S × Response α) : Outcome Error α × S :=
  if fits then (answer.2.outcome cmd, answer.1) else (.err .overflow, state)

instance (writeData : List UInt8) : Decidable (Sendable writeData) :=
  inferInstanceAs (Decidable (_ < _))

instance (data : List UInt8) : Decidable (Writable data) :=
  inferInstanceAs (Decidable (_ < _))

/-- The reply says just that. -/
def Reply.Gives (reply : Reply) : Response (List UInt8) → Prop
  | .ok data => reply = Reply.returning data
  | .error refusal => reply.Fails refusal

/-- The reply by which a server refuses. -/
def Reply.refusing (refusal : Refusal) : Reply :=
  ⟨refusal, []⟩

/-- A reply for each response. -/
def Response.reply : Response (List UInt8) → Reply
  | .ok data => .returning data
  | .error refusal => .refusing refusal

theorem Response.reply_gives (response : Response (List UInt8)) :
    response.reply.Gives response := by
  cases response with
  | ok data => rfl
  | error refusal => exact ⟨refusal.property, .inl rfl⟩

/-- The server, in its state, gives this response to the request. -/
def Server.Answers {S : Type} (server : Server S) (state : S) (cmd : Command)
    (payload : List UInt8) (answer : S × Response (List UInt8)) : Prop :=
  ∃ reply, server.handle state cmd payload = (answer.1, reply) ∧ reply.Gives answer.2

/-- The reply that returns data without its length. -/
def Reply.plain (data : List UInt8) : Reply :=
  ⟨0, u32Bytes 0 ++ data⟩

/-- The reply says just that, where the caller knows the length. -/
def Reply.Says (reply : Reply) : Response (List UInt8) → Prop
  | .ok data => reply = Reply.plain data
  | .error refusal => reply.Fails refusal

/-- The reply for each response of known length. -/
def Response.plainReply : Response (List UInt8) → Reply
  | .ok data => .plain data
  | .error refusal => .refusing refusal

theorem Response.plainReply_said (response : Response (List UInt8)) :
    response.plainReply.Says response := by
  cases response with
  | ok data => rfl
  | error refusal => exact ⟨refusal.property, .inl rfl⟩

/-- The server, in its state, gives this response of known length to the request. -/
def Server.Says {S : Type} (server : Server S) (state : S) (cmd : Command)
    (payload : List UInt8) (answer : S × Response (List UInt8)) : Prop :=
  ∃ reply, server.handle state cmd payload = (answer.1, reply) ∧ reply.Says answer.2

section Gives

variable {reply : Reply} {response : Response (List UInt8)} {cmd : Command} {data : List UInt8}
  {context : String}

theorem Reply.Gives.filled (gives : reply.Gives response)
    (small : ∀ bytes, response = .ok bytes → bytes.length < 2 ^ 32) :
    reply.filled cmd data =
      (fun bytes => (bytes.length, overlay bytes data)) <$> response.outcome cmd := by
  cases response with
  | ok bytes =>
      cases gives
      exact filled_returning (small bytes rfl)
  | error refusal => exact filled_of_fails gives

/-- Data of the size of the buffer is what the caller of an exact operation gets. -/
theorem Reply.Gives.filledExact (gives : reply.Gives response) (fits : data.length < 2 ^ 32)
    (same : ∀ bytes, response = .ok bytes → bytes.length = data.length) :
    reply.filledExact cmd context data = response.outcome cmd := by
  have small : ∀ bytes, response = .ok bytes → bytes.length < 2 ^ 32 :=
    fun bytes given => same bytes given ▸ fits
  rw [Reply.filledExact, gives.filled small]
  cases response with
  | ok bytes =>
      change ensureExact context bytes.length (overlay bytes data) = .ok bytes
      rw [overlay_of_length_eq (same bytes rfl)]
      exact ensureExact_eq_ok_iff.mpr ⟨rfl, rfl⟩
  | error refusal => rfl

theorem Reply.settled_plain (bytes : List UInt8) :
    settled cmd [data] (Reply.plain bytes) =
      if bytes.length < data.length then
        .err (.reply cmd.action "got less data than expected" (UInt32.ofNat (bytes.length + 4)))
      else .ok ⟨bytes.length, [overlay bytes data]⟩ := by
  have size : (Reply.plain bytes).payload.length = bytes.length + 4 := by
    rw [Reply.plain, List.length_append, length_u32Bytes, Nat.add_comm]
  have code : (Reply.plain bytes).errorCode = 0 := rfl
  have word : leU32 (Reply.plain bytes).payload = 0 := leU32_u32Bytes_append _ _
  have rest : (Reply.plain bytes).payload.drop 4 = bytes := List.drop_left' (length_u32Bytes _)
  unfold settled
  rw [if_neg (not_not.mpr code), if_neg (by omega), if_neg (not_not.mpr word)]
  simp only [size, rest, scatter_cons, scatter_nil, Nat.add_lt_add_iff_right]

/-- Data of the size of the buffer is what the caller gets. -/
theorem Reply.Says.settled (said : reply.Says response)
    (same : ∀ bytes, response = .ok bytes → bytes.length = data.length) :
    settled cmd [data] reply =
      (fun bytes => ⟨bytes.length, [bytes]⟩) <$> response.outcome cmd := by
  cases response with
  | ok bytes =>
      cases said
      have whole := same bytes rfl
      rw [Reply.settled_plain, if_neg (Nat.not_lt_of_le whole.ge), overlay_of_length_eq whole]
      rfl
  | error refusal => exact Reply.settled_of_fails said

/-- The caller that expects no data gets none. -/
theorem Reply.Says.settled_nil (said : reply.Says response) :
    Client.settled cmd [] reply = (fun _ => ⟨0, []⟩) <$> response.outcome cmd := by
  cases response with
  | ok bytes =>
      cases said
      have code : (Reply.plain bytes).errorCode = 0 := rfl
      have word : leU32 (Reply.plain bytes).payload = 0 := leU32_u32Bytes_append _ _
      have size : ¬(Reply.plain bytes).payload.length < 4 := by
        rw [Reply.plain, List.length_append, length_u32Bytes]
        omega
      unfold Client.settled
      rw [if_neg (not_not.mpr code), if_neg size, if_neg (not_not.mpr word)]
      rfl
  | error refusal => exact Reply.settled_of_fails said

end Gives

/-! ## Runs -/

section Runs

variable {S : Type} {server : Server S} {device : Device} {link : Link S} {state : S}
  {reply : Reply} {indexGroup indexOffset : UInt32} {writeData data : List UInt8}

/-- A number that fits into 32 bits is passed on. -/
theorem tryInto_bind_run {α : Type} {value : Nat} {next : UInt32 → Operation S α}
    (fits : value < 2 ^ 32) :
    (Operation.ofOutcome (tryInto value) >>= next) link = next (UInt32.ofNat value) link :=
  Operation.bind_run_ok (congrArg (·, link) (if_pos fits))

theorem tryInto_bind_refused {α : Type} {value : Nat} {next : UInt32 → Operation S α}
    (long : ¬value < 2 ^ 32) :
    (Operation.ofOutcome (tryInto value) >>= next) link = (.err .overflow, link) :=
  Operation.bind_run_err (congrArg (·, link) (if_neg long))

theorem read_run (fits : data.length < 2 ^ 32)
    (handled : server.handle link.server .read (readPayload indexGroup indexOffset data.length) =
      (state, reply)) :
    read server device indexGroup indexOffset data link =
      (reply.filled .read data,
        link.exchanged state .read (readPayload indexGroup indexOffset data.length)) := by
  have payload : [readPayload indexGroup indexOffset data.length].flatten =
      readPayload indexGroup indexOffset data.length := List.flatten_singleton
  have short : amsHeaderSize + [readPayload indexGroup indexOffset data.length].flatten.length <
      2 ^ 32 := by
    rw [payload, readPayload, IndexLength.length_asBytes]
    decide
  have exchanged := @communicate_run _ _ device .read _ [u32Bytes 0, data] link state reply short
    (by rw [payload]; exact handled)
  rw [payload] at exchanged
  rw [read, tryInto_bind_run fits, Reply.filled]
  rcases outcome : settled .read [u32Bytes 0, data] reply with received | error | _
  · rw [outcome] at exchanged
    exact Operation.bind_run_ok exchanged
  · rw [outcome] at exchanged
    exact Operation.bind_run_err exchanged
  · rw [outcome] at exchanged
    exact Operation.bind_run_panic exchanged

theorem writeRead_run (fits : data.length < 2 ^ 32) (sendable : Sendable writeData)
    (handled : server.handle link.server .readWrite
      (writeReadPayload indexGroup indexOffset writeData data.length) = (state, reply)) :
    writeRead server device indexGroup indexOffset writeData data link =
      (reply.filled .readWrite data, link.exchanged state .readWrite
        (writeReadPayload indexGroup indexOffset writeData data.length)) := by
  have payload : [IndexLengthRW.asBytes ⟨indexGroup, indexOffset, UInt32.ofNat data.length,
      UInt32.ofNat writeData.length⟩, writeData].flatten =
        writeReadPayload indexGroup indexOffset writeData data.length := by
    rw [List.flatten_cons, List.flatten_singleton, writeReadPayload]
  have short : amsHeaderSize + [IndexLengthRW.asBytes ⟨indexGroup, indexOffset,
      UInt32.ofNat data.length, UInt32.ofNat writeData.length⟩, writeData].flatten.length <
        2 ^ 32 := by
    rw [payload, writeReadPayload, List.length_append, IndexLengthRW.length_asBytes]
    exact sendable
  have exchanged := @communicate_run _ _ device .readWrite _ [u32Bytes 0, data] link state reply
    short (by rw [payload]; exact handled)
  have writeFits : writeData.length < 2 ^ 32 := by
    rw [Sendable] at sendable
    omega
  rw [payload] at exchanged
  rw [writeRead, tryInto_bind_run fits, tryInto_bind_run writeFits, Reply.filled]
  rcases outcome : settled .readWrite [u32Bytes 0, data] reply with received | error | _
  · rw [outcome] at exchanged
    exact Operation.bind_run_ok exchanged
  · rw [outcome] at exchanged
    exact Operation.bind_run_err exchanged
  · rw [outcome] at exchanged
    exact Operation.bind_run_panic exchanged

/-- What does not fit its length fields is not sent. -/
theorem writeRead_refused (long : ¬(data.length < 2 ^ 32 ∧ Sendable writeData)) :
    ∃ after, writeRead server device indexGroup indexOffset writeData data link =
        (.err .overflow, after) ∧ after.server = link.server ∧ after.seen = link.seen := by
  rw [writeRead]
  by_cases fits : data.length < 2 ^ 32
  swap
  · exact ⟨link, tryInto_bind_refused fits, rfl, rfl⟩
  rw [tryInto_bind_run fits]
  by_cases writeFits : writeData.length < 2 ^ 32
  swap
  · exact ⟨link, tryInto_bind_refused writeFits, rfl, rfl⟩
  rw [tryInto_bind_run writeFits]
  have tooLong : ¬amsHeaderSize + [IndexLengthRW.asBytes ⟨indexGroup, indexOffset,
      UInt32.ofNat data.length, UInt32.ofNat writeData.length⟩, writeData].flatten.length <
        2 ^ 32 := by
    rw [List.flatten_cons, List.flatten_singleton, List.length_append,
      IndexLengthRW.length_asBytes]
    exact fun sendable => long ⟨fits, sendable⟩
  exact ⟨_, Operation.bind_run_err (communicate_refused tooLong), rfl, rfl⟩

/-- The check of an exact operation, on the outcome of the other one. -/
theorem ensured_run {operation : Operation S (Nat × List UInt8)} {context : String}
    {outcome : Outcome Error (Nat × List UInt8)} {after : Link S}
    (ran : operation link = (outcome, after)) :
    (operation >>= fun result =>
        Operation.ofOutcome (ensureExact context result.1 result.2)) link =
      (outcome >>= fun result => ensureExact context result.1 result.2, after) := by
  cases outcome with
  | ok result => exact Operation.bind_run_ok ran
  | err error => exact Operation.bind_run_err ran
  | panic => exact Operation.bind_run_panic ran

theorem readExact_run (fits : data.length < 2 ^ 32)
    (handled : server.handle link.server .read (readPayload indexGroup indexOffset data.length) =
      (state, reply)) :
    readExact server device indexGroup indexOffset data link =
      (reply.filledExact .read "read data" data,
        link.exchanged state .read (readPayload indexGroup indexOffset data.length)) :=
  ensured_run (read_run fits handled)

theorem writeReadExact_run (fits : data.length < 2 ^ 32) (sendable : Sendable writeData)
    (handled : server.handle link.server .readWrite
      (writeReadPayload indexGroup indexOffset writeData data.length) = (state, reply)) :
    writeReadExact server device indexGroup indexOffset writeData data link =
      (reply.filledExact .readWrite "write/read data" data, link.exchanged state .readWrite
        (writeReadPayload indexGroup indexOffset writeData data.length)) :=
  ensured_run (writeRead_run fits sendable handled)

/-- A response to a `read`. -/
theorem read_answered {response : Response (List UInt8)} (fits : data.length < 2 ^ 32)
    (answers : server.Answers link.server .read
      (readPayload indexGroup indexOffset data.length) (state, response))
    (small : ∀ bytes, response = .ok bytes → bytes.length < 2 ^ 32) :
    read server device indexGroup indexOffset data link =
      ((fun bytes => (bytes.length, overlay bytes data)) <$> response.outcome .read,
        link.exchanged state .read (readPayload indexGroup indexOffset data.length)) := by
  rcases answers with ⟨reply, handled, gives⟩
  rw [read_run fits handled, gives.filled small]

theorem readExact_answered {response : Response (List UInt8)} (fits : data.length < 2 ^ 32)
    (answers : server.Answers link.server .read
      (readPayload indexGroup indexOffset data.length) (state, response))
    (same : ∀ bytes, response = .ok bytes → bytes.length = data.length) :
    readExact server device indexGroup indexOffset data link =
      (response.outcome .read,
        link.exchanged state .read (readPayload indexGroup indexOffset data.length)) := by
  rcases answers with ⟨reply, handled, gives⟩
  rw [readExact_run fits handled, gives.filledExact fits same]

/-- A response to a `write_read`. -/
theorem writeRead_answered {response : Response (List UInt8)} (fits : data.length < 2 ^ 32)
    (sendable : Sendable writeData)
    (answers : server.Answers link.server .readWrite
      (writeReadPayload indexGroup indexOffset writeData data.length) (state, response))
    (small : ∀ bytes, response = .ok bytes → bytes.length < 2 ^ 32) :
    writeRead server device indexGroup indexOffset writeData data link =
      ((fun bytes => (bytes.length, overlay bytes data)) <$> response.outcome .readWrite,
        link.exchanged state .readWrite
          (writeReadPayload indexGroup indexOffset writeData data.length)) := by
  rcases answers with ⟨reply, handled, gives⟩
  rw [writeRead_run fits sendable handled, gives.filled small]

theorem writeReadExact_answered {response : Response (List UInt8)}
    (fits : data.length < 2 ^ 32) (sendable : Sendable writeData)
    (answers : server.Answers link.server .readWrite
      (writeReadPayload indexGroup indexOffset writeData data.length) (state, response))
    (same : ∀ bytes, response = .ok bytes → bytes.length = data.length) :
    writeReadExact server device indexGroup indexOffset writeData data link =
      (response.outcome .readWrite, link.exchanged state .readWrite
        (writeReadPayload indexGroup indexOffset writeData data.length)) := by
  rcases answers with ⟨reply, handled, gives⟩
  rw [writeReadExact_run fits sendable handled, gives.filledExact fits same]

theorem write_run (writable : Writable data)
    (handled : server.handle link.server .write (writePayload indexGroup indexOffset data) =
      (state, reply)) :
    write server device indexGroup indexOffset data link =
      ((fun _ => ()) <$> settled .write [] reply,
        link.exchanged state .write (writePayload indexGroup indexOffset data)) := by
  have payload : [IndexLength.asBytes ⟨indexGroup, indexOffset, UInt32.ofNat data.length⟩,
      data].flatten = writePayload indexGroup indexOffset data := by
    rw [List.flatten_cons, List.flatten_singleton, writePayload]
  have short : amsHeaderSize + [IndexLength.asBytes ⟨indexGroup, indexOffset,
      UInt32.ofNat data.length⟩, data].flatten.length < 2 ^ 32 := by
    rw [payload, writePayload, List.length_append, IndexLength.length_asBytes]
    exact writable
  have exchanged := @communicate_run _ _ device .write _ [] link state reply short
    (by rw [payload]; exact handled)
  have fits : data.length < 2 ^ 32 := by
    rw [Writable] at writable
    omega
  rw [payload] at exchanged
  rw [write, tryInto_bind_run fits]
  rcases outcome : settled .write [] reply with received | error | _
  · rw [outcome] at exchanged
    exact Operation.bind_run_ok exchanged
  · rw [outcome] at exchanged
    exact Operation.bind_run_err exchanged
  · rw [outcome] at exchanged
    exact Operation.bind_run_panic exchanged

/-- A response to a command with a buffer for all its data. -/
theorem communicate_said {cmd : Command} {payloadBufs : List (List UInt8)}
    {response : Response (List UInt8)}
    (short : amsHeaderSize + payloadBufs.flatten.length < 2 ^ 32)
    (said : server.Says link.server cmd payloadBufs.flatten (state, response))
    (same : ∀ bytes, response = .ok bytes → bytes.length = data.length) :
    communicate server device cmd payloadBufs [data] link =
      ((fun bytes => ⟨bytes.length, [bytes]⟩) <$> response.outcome cmd,
        link.exchanged state cmd payloadBufs.flatten) := by
  rcases said with ⟨reply, handled, said⟩
  rw [communicate_run short handled, said.settled same]

/-- A response to a command that returns no data. -/
theorem communicate_done {cmd : Command} {payloadBufs : List (List UInt8)}
    {response : Response (List UInt8)}
    (short : amsHeaderSize + payloadBufs.flatten.length < 2 ^ 32)
    (said : server.Says link.server cmd payloadBufs.flatten (state, response)) :
    communicate server device cmd payloadBufs [] link =
      ((fun _ => ⟨0, []⟩) <$> response.outcome cmd,
        link.exchanged state cmd payloadBufs.flatten) := by
  rcases said with ⟨reply, handled, said⟩
  rw [communicate_run short handled, said.settled_nil]

theorem write_said {response : Response (List UInt8)} (writable : Writable data)
    (said : server.Says link.server .write (writePayload indexGroup indexOffset data)
      (state, response)) :
    write server device indexGroup indexOffset data link =
      ((fun _ => ()) <$> response.outcome .write,
        link.exchanged state .write (writePayload indexGroup indexOffset data)) := by
  rcases said with ⟨reply, handled, said⟩
  rw [write_run writable handled, said.settled_nil]
  cases response <;> rfl

/-- What does not fit its length fields is not written. -/
theorem write_refused (long : ¬Writable data) :
    ∃ after, write server device indexGroup indexOffset data link = (.err .overflow, after) ∧
      after.server = link.server ∧ after.seen = link.seen := by
  rw [write]
  by_cases fits : data.length < 2 ^ 32
  swap
  · exact ⟨link, tryInto_bind_refused fits, rfl, rfl⟩
  rw [tryInto_bind_run fits]
  have tooLong : ¬amsHeaderSize + [IndexLength.asBytes ⟨indexGroup, indexOffset,
      UInt32.ofNat data.length⟩, data].flatten.length < 2 ^ 32 := by
    rw [List.flatten_cons, List.flatten_singleton, List.length_append, IndexLength.length_asBytes]
    exact long
  exact ⟨_, Operation.bind_run_err (communicate_refused tooLong), rfl, rfl⟩

/-- A buffer that does not fit its length field is not read into. -/
theorem read_refused (long : ¬data.length < 2 ^ 32) :
    read server device indexGroup indexOffset data link = (.err .overflow, link) :=
  tryInto_bind_refused long

end Runs

/-! ## What the server sees -/

section Views

variable {S : Type} {server : Server S} {device : Device} {link : Link S}
  {indexGroup indexOffset : UInt32} {writeData data : List UInt8}

/-- What an operation makes of its link, as far as its server is concerned. -/
def withServer {α : Type} (ran : α × Link S) : α × S :=
  (ran.1, ran.2.server)

theorem exists_of_withServer {α : Type} {ran : α × Link S} {answer : α × S}
    (same : withServer ran = answer) :
    ∃ after, ran = (answer.1, after) ∧ after.server = answer.2 := by
  cases same
  exact ⟨ran.2, rfl, rfl⟩

/-- What is done with the value of an operation is done with the value of its answer. -/
theorem withServer_bind {α β : Type} {operation : Operation S α} {next : α → Operation S β}
    {answer : Outcome Error α × S} {rest : α → Outcome Error β}
    (same : withServer (operation link) = answer)
    (goesOn : ∀ value after, next value after = (rest value, after)) :
    withServer ((operation >>= next) link) = (answer.1 >>= rest, answer.2) := by
  rcases exists_of_withServer same with ⟨after, ran, server⟩
  rcases answer with ⟨value | error | _, state⟩
  · rw [Operation.bind_run_ok ran, goesOn]
    exact congrArg (Prod.mk _) server
  · rw [Operation.bind_run_err ran]
    exact congrArg (Prod.mk _) server
  · rw [Operation.bind_run_panic ran]
    exact congrArg (Prod.mk _) server

/-- Bytes, no more than were asked for. -/
abbrev AtMost (count : Nat) : Type :=
  { bytes : List UInt8 // bytes.length ≤ count }

/-- The number of bytes that were read, and the buffer with them at its front. -/
def readOver (data : List UInt8) (bytes : AtMost data.length) : Nat × List UInt8 :=
  (bytes.val.length, bytes.val ++ data.drop bytes.val.length)

theorem length_of_atMost {response : Response (AtMost data.length)} (fits : data.length < 2 ^ 32) :
    ∀ bytes, response.map Subtype.val = .ok bytes → bytes.length < 2 ^ 32 := by
  intro bytes given
  cases response with
  | ok value =>
      cases given
      exact Nat.lt_of_le_of_lt value.property fits
  | error refusal => cases given

theorem map_overlay_atMost {response : Response (AtMost data.length)} {cmd : Command} :
    (fun bytes => (bytes.length, overlay bytes data)) <$>
        Response.outcome cmd (response.map Subtype.val) =
      readOver data <$> response.outcome cmd := by
  cases response with
  | ok value =>
      change Outcome.ok (value.val.length, overlay value.val data) = _
      rw [overlay, List.take_of_length_le value.property]
      rfl
  | error refusal => rfl

theorem read_view {answer : S × Response (AtMost data.length)}
    (answers : data.length < 2 ^ 32 → server.Answers link.server .read
      (readPayload indexGroup indexOffset data.length) (answer.1, answer.2.map Subtype.val)) :
    withServer (read server device indexGroup indexOffset data link) =
      (readOver data <$> (requested .read link.server (data.length < 2 ^ 32) answer).1,
        (requested .read link.server (data.length < 2 ^ 32) answer).2) := by
  rw [requested]
  by_cases fits : data.length < 2 ^ 32
  · rw [if_pos fits, read_answered fits (answers fits) (length_of_atMost fits),
      map_overlay_atMost]
    rfl
  · rw [if_neg fits, read_refused fits]
    rfl

theorem writeRead_view {answer : S × Response (AtMost data.length)}
    (answers : data.length < 2 ^ 32 → server.Answers link.server .readWrite
      (writeReadPayload indexGroup indexOffset writeData data.length)
      (answer.1, answer.2.map Subtype.val)) :
    withServer (writeRead server device indexGroup indexOffset writeData data link) =
      (readOver data <$> (requested .readWrite link.server
          (data.length < 2 ^ 32 ∧ Sendable writeData) answer).1,
        (requested .readWrite link.server (data.length < 2 ^ 32 ∧ Sendable writeData)
          answer).2) := by
  rw [requested]
  by_cases fits : data.length < 2 ^ 32 ∧ Sendable writeData
  · rw [if_pos fits, writeRead_answered fits.1 fits.2 (answers fits.1)
      (length_of_atMost fits.1), map_overlay_atMost]
    rfl
  · rw [if_neg fits]
    rcases @writeRead_refused _ server device link indexGroup indexOffset writeData data fits with
      ⟨after, ran, same, -⟩
    rw [ran, withServer, same]
    rfl

theorem write_view {answer : S × Response Unit}
    (said : server.Says link.server .write (writePayload indexGroup indexOffset data)
      (answer.1, answer.2.map fun _ => [])) :
    withServer (write server device indexGroup indexOffset data link) =
      requested .write link.server (Writable data) answer := by
  rw [requested]
  by_cases writable : Writable data
  · rw [if_pos writable, write_said writable said]
    rcases answer with ⟨state, refusal | value⟩ <;> rfl
  · rw [if_neg writable]
    rcases @write_refused _ server device link indexGroup indexOffset data writable with
      ⟨after, ran, same, -⟩
    rw [ran, withServer, same]

end Views

end Ads.Client
