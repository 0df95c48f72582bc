import Ads.Client.Notifications
import Ads.Client.State
import Ads.Transition.Transducer

/-!
# An ADS device

What a device is for: it describes itself, has a state, keeps data that is read and
written, and takes notifications.  A client over a server that answers as the device does
gives its callers what the device gives.
-/

namespace Ads.Client

open Ads.Bytes Ads.Control Ads.Transition

/-- A device over the states `S`. -/
structure AdsDevice (S : Type) where
  devInfo : S → S × Response DeviceDescription
  readState : S → S × Response (UInt16 × UInt16)
  writeControl : S → AdsState → UInt16 → S × Response Unit
  read : S → UInt32 → UInt32 → (count : Nat) → S × Response (AtMost count)
  write : S → UInt32 → UInt32 → List UInt8 → S × Response Unit
  readWrite : S → UInt32 → UInt32 → List UInt8 → (count : Nat) → S × Response (AtMost count)
  addNotification : S → AddNotif → S × Response UInt32
  deleteNotification : S → UInt32 → S × Response Unit

/-- The answer with what it returns in bytes. -/
def inBytes {S α : Type} (encode : α → List UInt8) (answer : S × Response α) :
    S × Response (List UInt8) :=
  (answer.1, answer.2.map encode)

namespace AdsDevice

variable {S : Type}

/-- The server answers as the device does. -/
structure ServedBy (ads : AdsDevice S) (server : Server S) : Prop where
  devInfo : ∀ state, server.Says state .devInfo []
    (inBytes DeviceDescription.bytes (ads.devInfo state))
  readState : ∀ state, server.Says state .readState [] (inBytes stateBytes (ads.readState state))
  writeControl : ∀ state adsState devState,
    server.Says state .writeControl (writeControlPayload adsState devState)
      (inBytes (fun _ => []) (ads.writeControl state adsState devState))
  read : ∀ state indexGroup indexOffset count, count < 2 ^ 32 →
    server.Answers state .read (readPayload indexGroup indexOffset count)
      (inBytes Subtype.val (ads.read state indexGroup indexOffset count))
  write : ∀ state indexGroup indexOffset data,
    server.Says state .write (writePayload indexGroup indexOffset data)
      (inBytes (fun _ => []) (ads.write state indexGroup indexOffset data))
  readWrite : ∀ state indexGroup indexOffset data count, count < 2 ^ 32 →
    server.Answers state .readWrite (writeReadPayload indexGroup indexOffset data count)
      (inBytes Subtype.val (ads.readWrite state indexGroup indexOffset data count))
  addNotification : ∀ state (record : AddNotif),
    server.Says state .addNotification record.asBytes
      (inBytes u32Bytes (ads.addNotification state record))
  deleteNotification : ∀ state handle,
    server.Says state .deleteNotification (u32Bytes handle)
      (inBytes (fun _ => []) (ads.deleteNotification state handle))

/-- The record that is read back from its forty bytes. -/
def notifOfBytes (bytes : List UInt8) : AddNotif where
  indexGroup := leU32 bytes
  indexOffset := leU32 (bytes.drop 4)
  length := leU32 (bytes.drop 8)
  transMode := leU32 (bytes.drop 12)
  maxDelay := leU32 (bytes.drop 16)
  cycleTime := leU32 (bytes.drop 20)

/-- The server that a device makes: it takes the arguments of each command from its payload. -/
def server (ads : AdsDevice S) : Server S where
  handle state cmd payload :=
    let indexGroup := leU32 payload
    let indexOffset := leU32 (payload.drop 4)
    let count := (leU32 (payload.drop 8)).toNat
    match cmd with
    | .devInfo =>
        ((ads.devInfo state).1,
          Response.plainReply ((ads.devInfo state).2.map DeviceDescription.bytes))
    | .readState =>
        ((ads.readState state).1, Response.plainReply ((ads.readState state).2.map stateBytes))
    | .writeControl =>
        match AdsState.tryFrom (leU16 payload) with
        | .ok adsState =>
            ((ads.writeControl state adsState (leU16 (payload.drop 2))).1,
              Response.plainReply
                ((ads.writeControl state adsState (leU16 (payload.drop 2))).2.map fun _ => []))
        | .error _ => (state, .refusing .invalidGroup)
    | .read =>
        ((ads.read state indexGroup indexOffset count).1,
          Response.reply ((ads.read state indexGroup indexOffset count).2.map Subtype.val))
    | .write =>
        ((ads.write state indexGroup indexOffset (payload.drop 12)).1,
          Response.plainReply
            ((ads.write state indexGroup indexOffset (payload.drop 12)).2.map fun _ => []))
    | .readWrite =>
        ((ads.readWrite state indexGroup indexOffset (payload.drop 16) count).1,
          Response.reply
            ((ads.readWrite state indexGroup indexOffset (payload.drop 16) count).2.map
              Subtype.val))
    | .addNotification =>
        ((ads.addNotification state (notifOfBytes payload)).1,
          Response.plainReply
            ((ads.addNotification state (notifOfBytes payload)).2.map u32Bytes))
    | .deleteNotification =>
        ((ads.deleteNotification state (leU32 payload)).1,
          Response.plainReply
            ((ads.deleteNotification state (leU32 payload)).2.map fun _ => []))
    | .notification => (state, .refusing .invalidGroup)

theorem notifOfBytes_asBytes (record : AddNotif) : notifOfBytes record.asBytes = record := by
  have fields : record.asBytes = u32Bytes record.indexGroup ++ (u32Bytes record.indexOffset ++
      (u32Bytes record.length ++ (u32Bytes record.transMode ++ (u32Bytes record.maxDelay ++
        (u32Bytes record.cycleTime ++ List.replicate 16 0))))) := by
    simp only [AddNotif.asBytes, List.append_assoc]
  have words : ∀ (word : UInt32) (rest : List UInt8), (u32Bytes word ++ rest).drop 4 = rest :=
    fun word rest => List.drop_left' (length_u32Bytes word)
  have second := words record.indexGroup
  rw [notifOfBytes, show 20 = 4 + 4 + 4 + 4 + 4 from rfl, show 16 = 4 + 4 + 4 + 4 from rfl,
    show 12 = 4 + 4 + 4 from rfl, show 8 = 4 + 4 from rfl, fields]
  simp only [← List.drop_drop, words, leU32_u32Bytes_append]

theorem servedBy_server (ads : AdsDevice S) : ads.ServedBy ads.server where
  devInfo state := ⟨_, rfl, Response.plainReply_said _⟩
  readState state := ⟨_, rfl, Response.plainReply_said _⟩
  writeControl state adsState devState := by
    have first : leU16 (writeControlPayload adsState devState) = adsState.toU16 := by
      rw [writeControlPayload, List.append_assoc, leU16_u16Bytes_append]
    have second : leU16 ((writeControlPayload adsState devState).drop 2) = devState := by
      rw [writeControlPayload, List.append_assoc, List.drop_left' (length_u16Bytes _),
        leU16_u16Bytes_append]
    refine ⟨_, ?_, Response.plainReply_said _⟩
    simp only [server, first, second, AdsState.tryFrom_toU16]
    rfl
  read state indexGroup indexOffset count fits := by
    have number : (leU32 ((readPayload indexGroup indexOffset count).drop 8)).toNat = count := by
      rw [length_readPayload, UInt32.toNat_ofNat_of_lt' fits]
    refine ⟨_, ?_, Response.reply_gives _⟩
    simp only [server, group_readPayload, offset_readPayload]
    generalize (leU32 ((readPayload indexGroup indexOffset count).drop 8)).toNat = announced
      at number ⊢
    subst number
    rfl
  write state indexGroup indexOffset data := by
    refine ⟨_, ?_, Response.plainReply_said _⟩
    simp only [server, group_writePayload, offset_writePayload, data_writePayload]
    rfl
  readWrite state indexGroup indexOffset data count fits := by
    have number : (leU32 ((writeReadPayload indexGroup indexOffset data count).drop 8)).toNat =
        count := by
      rw [readLength_writeReadPayload, UInt32.toNat_ofNat_of_lt' fits]
    refine ⟨_, ?_, Response.reply_gives _⟩
    simp only [server, group_writeReadPayload, offset_writeReadPayload, data_writeReadPayload]
    generalize (leU32 ((writeReadPayload indexGroup indexOffset data count).drop 8)).toNat =
      announced at number ⊢
    subst number
    rfl
  addNotification state record := by
    refine ⟨_, ?_, Response.plainReply_said _⟩
    simp only [server, notifOfBytes_asBytes]
    rfl
  deleteNotification state handle := by
    have word := leU32_u32Bytes_append handle []
    rw [List.append_nil] at word
    refine ⟨_, ?_, Response.plainReply_said _⟩
    simp only [server, word]
    rfl

end AdsDevice

/-! ## A program that uses a device -/

/-- What a program does with a device. -/
inductive DeviceAction
  | getInfo
  | getState
  | writeControl (adsState : AdsState) (devState : UInt16)
  | read (indexGroup indexOffset : UInt32) (data : List UInt8)
  | readExact (indexGroup indexOffset : UInt32) (data : List UInt8)
  | write (indexGroup indexOffset : UInt32) (data : List UInt8)
  | writeRead (indexGroup indexOffset : UInt32) (writeData readData : List UInt8)
  | writeReadExact (indexGroup indexOffset : UInt32) (writeData readData : List UInt8)
  | addNotification (indexGroup indexOffset : UInt32) (attributes : Attributes)
  | deleteNotification (handle : UInt32)
  deriving DecidableEq

/-- What it gets. -/
inductive DeviceResult
  | info (outcome : Outcome Error DeviceInfo)
  | state (outcome : Outcome Error (AdsState × UInt16))
  | done (outcome : Outcome Error Unit)
  | read (outcome : Outcome Error (Nat × List UInt8))
  | exact (outcome : Outcome Error (List UInt8))
  | handle (outcome : Outcome Error UInt32)
  deriving DecidableEq

/-- A client with its handles of notifications. -/
structure Program (S : Type) where
  notifHandles : NotifHandles
  link : Link S

namespace Program

variable {S : Type} (server : Server S) (device : Device)

/-- Run an operation that leaves the handles alone. -/
def perform {α : Type} (program : Program S) (result : Outcome Error α → DeviceResult)
    (operation : Operation S α) : DeviceResult × Program S :=
  let (outcome, link) := operation program.link
  (result outcome, { program with link := link })

/-- Run an operation that returns the handles along with its value. -/
def performTracked {α : Type} (program : Program S) (result : Outcome Error α → DeviceResult)
    (operation : NotifHandles → Operation S (α × NotifHandles)) : DeviceResult × Program S :=
  match operation program.notifHandles program.link with
  | (.ok (value, notifHandles), link) => (result (.ok value), ⟨notifHandles, link⟩)
  | (.err error, link) => (result (.err error), { program with link := link })
  | (.panic, link) => (result .panic, { program with link := link })

/-- Take an action. -/
def step (program : Program S) : DeviceAction → DeviceResult × Program S
  | .getInfo => program.perform .info (getInfo server device)
  | .getState => program.perform .state (getState server device)
  | .writeControl adsState devState =>
      program.perform .done (writeControl server device adsState devState)
  | .read indexGroup indexOffset data =>
      program.perform .read (read server device indexGroup indexOffset data)
  | .readExact indexGroup indexOffset data =>
      program.perform .exact (readExact server device indexGroup indexOffset data)
  | .write indexGroup indexOffset data =>
      program.perform .done (write server device indexGroup indexOffset data)
  | .writeRead indexGroup indexOffset writeData readData =>
      program.perform .read (writeRead server device indexGroup indexOffset writeData readData)
  | .writeReadExact indexGroup indexOffset writeData readData =>
      program.perform .exact
        (writeReadExact server device indexGroup indexOffset writeData readData)
  | .addNotification indexGroup indexOffset attributes =>
      program.performTracked .handle (addNotification server device indexGroup indexOffset attributes)
  | .deleteNotification handle =>
      program.performTracked .done fun notifHandles => do
        let notifHandles ← deleteNotification server device handle notifHandles
        pure ((), notifHandles)

end Program

/-! ## What the device gives the program -/

/-- A device and the handles of its notifications that the client has. -/
structure DeviceState (S : Type) where
  notifHandles : NotifHandles
  state : S

/-- The data has to fill the buffer. -/
def exactly (context : String) {count : Nat} (bytes : AtMost count) :
    Outcome Error (List UInt8) :=
  if bytes.val.length = count then .ok bytes.val
  else .err (.reply context "got less data than expected" (UInt32.ofNat bytes.val.length))

namespace AdsDevice

variable {S : Type} (ads : AdsDevice S) (addr : AmsAddr)

/-- Take what the device gives, which leaves the handles alone. -/
def perform {α : Type} (device : DeviceState S) (result : Outcome Error α → DeviceResult)
    (answer : Outcome Error α × S) : DeviceResult × DeviceState S :=
  (result answer.1, { device with state := answer.2 })

/-- Take what the device gives, and the handles with it. -/
def performTracked {α : Type} (device : DeviceState S) (result : Outcome Error α → DeviceResult) :
    Outcome Error (α × NotifHandles) × S → DeviceResult × DeviceState S
  | (.ok (value, notifHandles), state) => (result (.ok value), ⟨notifHandles, state⟩)
  | (.err error, state) => (result (.err error), { device with state := state })
  | (.panic, state) => (result .panic, { device with state := state })

/-- What comes of a command that always fits its length fields. -/
def answered {α : Type} (cmd : Command) (answer : S × Response α) : Outcome Error α × S :=
  (answer.2.outcome cmd, answer.1)

/-- The record of a notification whose attributes fit its fields. -/
def notifRecord (indexGroup indexOffset : UInt32) (attributes : Attributes) : AddNotif where
  indexGroup := indexGroup
  indexOffset := indexOffset
  length := UInt32.ofNat attributes.length
  transMode := attributes.transMode.toU32
  maxDelay := UInt32.ofNat attributes.maxDelay.asMillis
  cycleTime := UInt32.ofNat attributes.cycleTime.asMillis

/-- The attributes fit their fields. -/
def Fitting (attributes : Attributes) : Prop :=
  attributes.length < 2 ^ 32 ∧ attributes.maxDelay.asMillis < 2 ^ 32 ∧
    attributes.cycleTime.asMillis < 2 ^ 32

instance (attributes : Attributes) : Decidable (Fitting attributes) :=
  inferInstanceAs (Decidable (_ ∧ _))

/-- Take an action. -/
def step (device : DeviceState S) : DeviceAction → DeviceResult × DeviceState S
  | .getInfo =>
      let (outcome, state) := answered .devInfo (ads.devInfo device.state)
      perform device .info (DeviceDescription.info <$> outcome, state)
  | .getState =>
      let (outcome, state) := answered .readState (ads.readState device.state)
      perform device .state (outcome >>= stateOutcome, state)
  | .writeControl adsState devState =>
      perform device .done
        (answered .writeControl (ads.writeControl device.state adsState devState))
  | .read indexGroup indexOffset data =>
      let (outcome, state) := requested .read device.state (data.length < 2 ^ 32)
        (ads.read device.state indexGroup indexOffset data.length)
      perform device .read (readOver data <$> outcome, state)
  | .readExact indexGroup indexOffset data =>
      let (outcome, state) := requested .read device.state (data.length < 2 ^ 32)
        (ads.read device.state indexGroup indexOffset data.length)
      perform device .exact (outcome >>= exactly "read data", state)
  | .write indexGroup indexOffset data =>
      perform device .done (requested .write device.state (Writable data)
        (ads.write device.state indexGroup indexOffset data))
  | .writeRead indexGroup indexOffset writeData readData =>
      let (outcome, state) := requested .readWrite device.state
        (readData.length < 2 ^ 32 ∧ Sendable writeData)
        (ads.readWrite device.state indexGroup indexOffset writeData readData.length)
      perform device .read (readOver readData <$> outcome, state)
  | .writeReadExact indexGroup indexOffset writeData readData =>
      let (outcome, state) := requested .readWrite device.state
        (readData.length < 2 ^ 32 ∧ Sendable writeData)
        (ads.readWrite device.state indexGroup indexOffset writeData readData.length)
      perform device .exact (outcome >>= exactly "write/read data", state)
  | .addNotification indexGroup indexOffset attributes =>
      let (outcome, state) := requested .addNotification device.state (Fitting attributes)
        (ads.addNotification device.state (notifRecord indexGroup indexOffset attributes))
      performTracked device .handle
        ((fun handle => (handle, insert (addr, handle) device.notifHandles)) <$> outcome, state)
  | .deleteNotification handle =>
      let (outcome, state) :=
        answered .deleteNotification (ads.deleteNotification device.state handle)
      performTracked device .done
        ((fun _ => ((), device.notifHandles.erase (addr, handle))) <$> outcome, state)

end AdsDevice

/-! ## The client refines the device -/

/-- What the device knows of a program. -/
def Program.view {S : Type} (program : Program S) : DeviceState S where
  notifHandles := program.notifHandles
  state := program.link.server

section Refinement

variable {S : Type} {server : Server S} {ads : AdsDevice S} {device : Device} {link : Link S}
  {indexGroup indexOffset : UInt32} {writeData data : List UInt8}

/-- The check of an exact operation passes where the device fills the buffer. -/
theorem ensureExact_readOver {context : String} (bytes : AtMost data.length) :
    ensureExact context (readOver data bytes).1 (readOver data bytes).2 =
      exactly context bytes := by
  have size : (readOver data bytes).2.length = data.length := by
    have short := bytes.property
    rw [readOver, List.length_append, List.length_drop]
    omega
  rw [ensureExact, exactly, size, readOver]
  by_cases whole : bytes.val.length = data.length
  · rw [if_neg (not_not.mpr whole), if_pos whole, whole, List.drop_length, List.append_nil]
  · rw [if_pos whole, if_neg whole]

theorem bind_readOver {context : String} (outcome : Outcome Error (AtMost data.length)) :
    (readOver data <$> outcome >>= fun result => ensureExact context result.1 result.2) =
      outcome >>= exactly context := by
  cases outcome with
  | ok bytes => exact ensureExact_readOver bytes
  | err error => rfl
  | panic => rfl

theorem readExact_view (serves : ads.ServedBy server) :
    withServer (readExact server device indexGroup indexOffset data link) =
      ((requested .read link.server (data.length < 2 ^ 32)
          (ads.read link.server indexGroup indexOffset data.length)).1 >>= exactly "read data",
        (requested .read link.server (data.length < 2 ^ 32)
          (ads.read link.server indexGroup indexOffset data.length)).2) := by
  rw [← bind_readOver]
  exact withServer_bind (read_view (serves.read _ _ _ _)) fun _ _ => rfl

theorem writeReadExact_view (serves : ads.ServedBy server) :
    withServer (writeReadExact server device indexGroup indexOffset writeData data link) =
      ((requested .readWrite link.server (data.length < 2 ^ 32 ∧ Sendable writeData)
          (ads.readWrite link.server indexGroup indexOffset writeData data.length)).1 >>=
            exactly "write/read data",
        (requested .readWrite link.server (data.length < 2 ^ 32 ∧ Sendable writeData)
          (ads.readWrite link.server indexGroup indexOffset writeData data.length)).2) := by
  rw [← bind_readOver]
  exact withServer_bind (writeRead_view (serves.readWrite _ _ _ _ _)) fun _ _ => rfl

theorem addNotification_view (serves : ads.ServedBy server) (attributes : Attributes)
    (notifHandles : NotifHandles) :
    withServer (addNotification server device indexGroup indexOffset attributes notifHandles
        link) =
      ((fun handle => (handle, insert (device.addr, handle) notifHandles)) <$>
          (requested .addNotification link.server (AdsDevice.Fitting attributes)
            (ads.addNotification link.server
              (AdsDevice.notifRecord indexGroup indexOffset attributes))).1,
        (requested .addNotification link.server (AdsDevice.Fitting attributes)
          (ads.addNotification link.server
            (AdsDevice.notifRecord indexGroup indexOffset attributes))).2) := by
  rw [addNotification, requested]
  by_cases lengthFits : attributes.length < 2 ^ 32
  swap
  · rw [tryInto_bind_refused lengthFits, if_neg (fun fitting => lengthFits fitting.1)]
    rfl
  by_cases delayFits : attributes.maxDelay.asMillis < 2 ^ 32
  swap
  · rw [tryInto_bind_run lengthFits, tryInto_bind_refused delayFits,
      if_neg (fun fitting => delayFits fitting.2.1)]
    rfl
  by_cases cycleFits : attributes.cycleTime.asMillis < 2 ^ 32
  swap
  · rw [tryInto_bind_run lengthFits, tryInto_bind_run delayFits, tryInto_bind_refused cycleFits,
      if_neg (fun fitting => cycleFits fitting.2.2)]
    rfl
  rw [tryInto_bind_run lengthFits, tryInto_bind_run delayFits, tryInto_bind_run cycleFits,
    if_pos ⟨lengthFits, delayFits, cycleFits⟩]
  have said := serves.addNotification link.server
    (AdsDevice.notifRecord indexGroup indexOffset attributes)
  generalize record : AdsDevice.notifRecord indexGroup indexOffset attributes = wanted at said ⊢
  have payload : [wanted.asBytes].flatten = wanted.asBytes := List.flatten_singleton
  have short : amsHeaderSize + [wanted.asBytes].flatten.length < 2 ^ 32 := by
    rw [payload, AddNotif.length_asBytes]
    decide
  rw [← payload] at said
  generalize ads.addNotification link.server wanted = answer at said ⊢
  have same : ∀ bytes, answer.2.map u32Bytes = .ok bytes →
      bytes.length = (u32Bytes 0).length := by
    intro bytes given
    rcases answer with ⟨state, refusal | handle⟩
    · cases given
    · cases given
      rfl
  have exchanged := @communicate_said _ _ device _ _ _ .addNotification _ _ short said same
  subst record
  rcases answer with ⟨state, refusal | handle⟩
  · exact congrArg withServer (Operation.bind_run_err exchanged)
  · refine (congrArg withServer (Operation.bind_run_ok exchanged)).trans ?_
    have word := leU32_u32Bytes_append handle []
    rw [List.append_nil] at word
    change (Outcome.ok (leU32 (u32Bytes handle), insert (device.addr, leU32 (u32Bytes handle))
      notifHandles), state) = _
    rw [word]
    rfl

theorem deleteNotification_view (serves : ads.ServedBy server) (handle : UInt32)
    (notifHandles : NotifHandles) :
    withServer (deleteNotification server device handle notifHandles link) =
      ((fun _ => notifHandles.erase (device.addr, handle)) <$>
          (ads.deleteNotification link.server handle).2.outcome .deleteNotification,
        (ads.deleteNotification link.server handle).1) := by
  have said := serves.deleteNotification link.server handle
  have payload : [u32Bytes handle].flatten = u32Bytes handle := List.flatten_singleton
  rw [← payload] at said
  have short : amsHeaderSize + [u32Bytes handle].flatten.length < 2 ^ 32 := by
    rw [payload, length_u32Bytes]
    decide
  have exchanged := @communicate_done _ _ device _ _ .deleteNotification _ _ short said
  generalize ads.deleteNotification link.server handle = answer at exchanged ⊢
  rcases answer with ⟨state, refusal | value⟩
  · exact congrArg withServer (Operation.bind_run_err exchanged)
  · exact congrArg withServer (Operation.bind_run_ok exchanged)

end Refinement

namespace Program

variable {S : Type} {server : Server S} {ads : AdsDevice S} {program : Program S}

theorem perform_view {α : Type} {result : Outcome Error α → DeviceResult}
    {operation : Operation S α} {answer : Outcome Error α × S}
    (same : withServer (operation program.link) = answer) :
    seenThrough view (program.perform result operation) =
      AdsDevice.perform program.view result answer := by
  rw [← same]
  rfl

theorem performTracked_view {α : Type} {result : Outcome Error α → DeviceResult}
    {operation : NotifHandles → Operation S (α × NotifHandles)}
    {answer : Outcome Error (α × NotifHandles) × S}
    (same : withServer (operation program.notifHandles program.link) = answer) :
    seenThrough view (program.performTracked result operation) =
      AdsDevice.performTracked program.view result answer := by
  rcases exists_of_withServer same with ⟨after, ran, server⟩
  rw [performTracked, ran]
  rcases answer with ⟨value | error | _, state⟩
  all_goals
    cases server
    rfl

theorem step_view (serves : ads.ServedBy server) (device : Device) (program : Program S)
    (action : DeviceAction) :
    seenThrough view (program.step server device action) =
      ads.step device.addr program.view action := by
  cases action with
  | getInfo => exact perform_view (congrArg withServer (getInfo_said (serves.devInfo _)))
  | getState => exact perform_view (congrArg withServer (getState_said (serves.readState _)))
  | writeControl adsState devState =>
      have ran := @writeControl_said _ _ device _ _ _ _ _
        (serves.writeControl program.link.server adsState devState)
      refine (perform_view (congrArg withServer ran)).trans ?_
      have state : program.view.state = program.link.server := rfl
      rw [AdsDevice.step, AdsDevice.answered, state]
      rcases ads.writeControl program.link.server adsState devState with ⟨_, refusal | value⟩ <;>
        rfl
  | read indexGroup indexOffset data => exact perform_view (read_view (serves.read _ _ _ _))
  | readExact indexGroup indexOffset data => exact perform_view (readExact_view serves)
  | write indexGroup indexOffset data => exact perform_view (write_view (serves.write _ _ _ _))
  | writeRead indexGroup indexOffset writeData readData =>
      exact perform_view (writeRead_view (serves.readWrite _ _ _ _ _))
  | writeReadExact indexGroup indexOffset writeData readData =>
      exact perform_view (writeReadExact_view serves)
  | addNotification indexGroup indexOffset attributes =>
      exact performTracked_view (addNotification_view serves attributes _)
  | deleteNotification handle =>
      have ran := @withServer_bind _ _ _ _ _ (fun notifHandles => pure ((), notifHandles)) _
        (fun notifHandles => .ok ((), notifHandles))
        (@deleteNotification_view _ _ _ device program.link serves handle program.notifHandles)
        fun _ _ => rfl
      refine (performTracked_view ran).trans ?_
      have state : program.view.state = program.link.server := rfl
      rw [AdsDevice.step, AdsDevice.answered, state]
      rcases ads.deleteNotification program.link.server handle with ⟨_, refusal | value⟩ <;> rfl

end Program

/-- Whatever a program does with a device, over a server that answers as the device does: the
client gives it what the device gives, and has the handles of the notifications that were
added and not deleted. -/
theorem device_refines {S : Type} {server : Server S} {ads : AdsDevice S}
    (serves : ads.ServedBy server) (device : Device) (program : Program S)
    (actions : List DeviceAction) :
    (transduce (fun program action => some (Program.step server device program action)) program
        actions).map (seenThrough Program.view) =
      transduce (fun state action => some (ads.step device.addr state action)) program.view
        actions :=
  @transduce_view _ _ _ _ (fun program action => some (Program.step server device program action))
    (fun state action => some (ads.step device.addr state action)) Program.view
    (fun program action => congrArg some (Program.step_view serves device program action))
    program actions

/-- A device that keeps four bytes and its state, and has one notification to give. -/
def fourBytes : AdsDevice (List UInt8 × UInt16 × UInt16) where
  devInfo state :=
    (state, .ok
      { major := 7, minor := 1, version := 4024, name := [80, 76, 67], name_clean := by decide,
        name_short := by decide })
  readState state := (state, .ok state.2)
  writeControl state adsState devState := ((state.1, adsState.toU16, devState), .ok ())
  read state _ indexOffset count :=
    (state, .ok ⟨(state.1.drop indexOffset.toNat).take count, List.length_take_le _ _⟩)
  write state _ indexOffset data :=
    ((overlay data state.1, state.2), if indexOffset = 0 then .ok () else .error .notPermitted)
  readWrite state _ _ _ _ := (state, .error .invalidGroup)
  addNotification state _ := (state, .ok 132)
  deleteNotification state handle :=
    (state, if handle = 132 then .ok () else .error .notPermitted)

/-- It is written to, read, put into another state, and asked for a notification. -/
theorem fourBytes_used :
    (transduce (fun program action => some (Program.step fourBytes.server
        ⟨⟨.localId, 1⟩, ⟨.localId, 851⟩⟩ program action))
        ⟨∅, ⟨1, ([0, 0, 0, 0], 5, 0), []⟩⟩
        [.write 0 0 [1, 2], .readExact 0 0 [9, 9, 9, 9], .read 0 3 [9, 9], .readExact 0 3 [9, 9],
          .writeControl .config 42, .getState, .addNotification 0 0 ⟨4, .serverCycle, ⟨1, 0⟩, ⟨1, 0⟩⟩,
          .deleteNotification 7]).map (fun ran => ran.1) =
      some [.done (.ok ()), .exact (.ok [1, 2, 0, 0]), .read (.ok (1, [0, 9])),
        .exact (.err (.reply "read data" "got less data than expected" 1)), .done (.ok ()),
        .state (.ok (.config, 42)), .handle (.ok 132),
        .done (.err (adsError Command.deleteNotification.action 0x704))] := by
  have refined := device_refines fourBytes.servedBy_server ⟨⟨.localId, 1⟩, ⟨.localId, 851⟩⟩
    ⟨∅, ⟨1, ([0, 0, 0, 0], 5, 0), []⟩⟩
    [.write 0 0 [1, 2], .readExact 0 0 [9, 9, 9, 9], .read 0 3 [9, 9], .readExact 0 3 [9, 9],
      .writeControl .config 42, .getState, .addNotification 0 0 ⟨4, .serverCycle, ⟨1, 0⟩, ⟨1, 0⟩⟩,
      .deleteNotification 7]
  have outputs := congrArg (Option.map Prod.fst) refined
  rw [Option.map_map] at outputs
  exact outputs.trans (by decide +kernel)

end Ads.Client
