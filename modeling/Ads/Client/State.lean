import Ads.Client.Exchange
import Ads.Text.Padded

/-!
# The state of a device

The commands that ask a device what it is and what state it is in, and that set its
state.
-/

namespace Ads.Client

open Ads.Bytes Ads.Control Ads.Text

/-- The ADS state of a device. -/
inductive AdsState
  | invalid
  | idle
  | reset
  | init
  | start
  | run
  | stop
  | saveCfg
  | loadCfg
  | powerFail
  | powerGood
  | error
  | shutdown
  | suspend
  | resume
  | config
  | reconfig
  | stopping
  | incompatible
  | exception
  deriving DecidableEq, Repr

namespace AdsState

/-- The state's number on the wire. -/
def toU16 : AdsState → UInt16
  | invalid => 0
  | idle => 1
  | reset => 2
  | init => 3
  | start => 4
  | run => 5
  | stop => 6
  | saveCfg => 7
  | loadCfg => 8
  | powerFail => 9
  | powerGood => 10
  | error => 11
  | shutdown => 12
  | suspend => 13
  | resume => 14
  | config => 15
  | reconfig => 16
  | stopping => 17
  | incompatible => 18
  | exception => 19

/-- The state of a number. -/
def tryFrom (value : UInt16) : Except String AdsState :=
  if value = 0 then .ok invalid
  else if value = 1 then .ok idle
  else if value = 2 then .ok reset
  else if value = 3 then .ok init
  else if value = 4 then .ok start
  else if value = 5 then .ok run
  else if value = 6 then .ok stop
  else if value = 7 then .ok saveCfg
  else if value = 8 then .ok loadCfg
  else if value = 9 then .ok powerFail
  else if value = 10 then .ok powerGood
  else if value = 11 then .ok error
  else if value = 12 then .ok shutdown
  else if value = 13 then .ok suspend
  else if value = 14 then .ok resume
  else if value = 15 then .ok config
  else if value = 16 then .ok reconfig
  else if value = 17 then .ok stopping
  else if value = 18 then .ok incompatible
  else if value = 19 then .ok exception
  else .error "invalid state constant"

@[simp]
theorem tryFrom_toU16 (state : AdsState) : tryFrom state.toU16 = .ok state := by
  cases state <;> rfl

end AdsState

/-- Device info returned from an ADS server. -/
structure DeviceInfo where
  major : UInt8
  minor : UInt8
  version : UInt16
  name : String
  deriving DecidableEq

/-- Convert the ADS state, the first of the two words, to the enum type. -/
def stateOutcome (words : UInt16 × UInt16) : Outcome Error (AdsState × UInt16) :=
  match AdsState.tryFrom words.1 with
  | .ok adsState => .ok (adsState, words.2)
  | .error message => .err (.reply "read state" message words.1.toUInt32)

section Operations

variable {S : Type} (server : Server S) (device : Device)

/-- Read the device's name and version.  The name is null-terminated. -/
def getInfo : Operation S DeviceInfo := do
  let received ← communicate server device .devInfo [] [List.replicate 20 0]
  let data := received.bufs.getD 0 []
  let name := ((data.drop 4).takeWhile fun ch => ch != 0).map fun ch => Char.ofNat ch.toNat
  pure
    { major := data.getD 0 0
      minor := data.getD 1 0
      version := leU16 (data.drop 2)
      name := String.ofList name }

/-- Return the ADS and device state of the device. -/
def getState : Operation S (AdsState × UInt16) := do
  let received ← communicate server device .readState [] [List.replicate 4 0]
  let state := received.bufs.getD 0 []
  Operation.ofOutcome (stateOutcome (leU16 state, leU16 (state.drop 2)))

/-- The payload of a `write_control`. -/
def writeControlPayload (adsState : AdsState) (devState : UInt16) : List UInt8 :=
  u16Bytes adsState.toU16 ++ u16Bytes devState ++ u32Bytes 0

/-- Try to set the ADS and device state of the device. -/
def writeControl (adsState : AdsState) (devState : UInt16) : Operation S Unit := do
  let _ ← communicate server device .writeControl [writeControlPayload adsState devState] []
  pure ()

end Operations

/-! ## What a device says -/

/-- What a device is.  Its name has no null, and leaves room for one or not. -/
structure DeviceDescription where
  major : UInt8
  minor : UInt8
  version : UInt16
  name : List UInt8
  name_clean : 0 ∉ name
  name_short : name.length ≤ 16

namespace DeviceDescription

variable (description : DeviceDescription)

/-- The description's bytes on the wire. -/
def bytes : List UInt8 :=
  description.major :: description.minor :: (u16Bytes description.version ++
    padded 0 16 description.name)

/-- What the caller learns. -/
def info : DeviceInfo where
  major := description.major
  minor := description.minor
  version := description.version
  name := String.ofList (description.name.map fun ch => Char.ofNat ch.toNat)

theorem length_bytes : description.bytes.length = 20 := by
  have short := description.name_short
  simp only [bytes, padded, List.length_cons, List.length_append, length_u16Bytes,
    List.length_replicate]
  omega

end DeviceDescription

/-- What a device says of its state: two words. -/
def stateBytes (words : UInt16 × UInt16) : List UInt8 :=
  u16Bytes words.1 ++ u16Bytes words.2

/-- The caller finds the fields of the description where the device has put them. -/
theorem DeviceDescription.info_of_bytes (description : DeviceDescription) :
    ({ major := description.bytes.getD 0 0
       minor := description.bytes.getD 1 0
       version := leU16 (description.bytes.drop 2)
       name := String.ofList (((description.bytes.drop 4).takeWhile fun ch => ch != 0).map
        fun ch => Char.ofNat ch.toNat) } : DeviceInfo) = description.info := by
  have behind : description.bytes.drop 4 = padded 0 16 description.name :=
    List.drop_left' (length_u16Bytes _)
  have version : leU16 (description.bytes.drop 2) = description.version :=
    leU16_u16Bytes_append _ _
  rw [behind, version, takeWhile_padded description.name_clean]
  rfl

section Runs

variable {S : Type} {server : Server S} {device : Device} {link : Link S} {state : S}

theorem getInfo_said {response : Response DeviceDescription}
    (said : server.Says link.server .devInfo [] (state, response.map DeviceDescription.bytes)) :
    getInfo server device link =
      (DeviceDescription.info <$> response.outcome .devInfo,
        link.exchanged state .devInfo []) := by
  have same : ∀ bytes, response.map DeviceDescription.bytes = .ok bytes →
      bytes.length = (List.replicate 20 (0 : UInt8)).length := by
    intro bytes given
    cases response with
    | ok description =>
        cases given
        rw [description.length_bytes, List.length_replicate]
    | error refusal => cases given
  have exchanged := @communicate_said _ _ device _ _ _ .devInfo [] _ (by decide) said same
  rw [getInfo]
  cases response with
  | ok description =>
      refine (Operation.bind_run_ok exchanged).trans ?_
      exact congrArg (fun info => (Outcome.ok info, _)) description.info_of_bytes
  | error refusal => exact Operation.bind_run_err exchanged

theorem getState_said {response : Response (UInt16 × UInt16)}
    (said : server.Says link.server .readState [] (state, response.map stateBytes)) :
    getState server device link =
      (response.outcome .readState >>= stateOutcome, link.exchanged state .readState []) := by
  have same : ∀ bytes, response.map stateBytes = .ok bytes →
      bytes.length = (List.replicate 4 (0 : UInt8)).length := by
    intro bytes given
    cases response with
    | ok words =>
        cases given
        rfl
    | error refusal => cases given
  have exchanged := @communicate_said _ _ device _ _ _ .readState [] _ (by decide) said same
  rw [getState]
  cases response with
  | ok words =>
      have first : leU16 (stateBytes words) = words.1 := leU16_u16Bytes_append _ _
      have second : leU16 ((stateBytes words).drop 2) = words.2 := by
        rw [stateBytes, List.drop_left' (length_u16Bytes _), ← List.append_nil (u16Bytes words.2),
          leU16_u16Bytes_append]
      refine (Operation.bind_run_ok exchanged).trans ?_
      change (stateOutcome (leU16 (stateBytes words), leU16 ((stateBytes words).drop 2)), _) = _
      rw [first, second]
      rfl
  | error refusal => exact Operation.bind_run_err exchanged

theorem writeControl_said {adsState : AdsState} {devState : UInt16}
    {response : Response (List UInt8)}
    (said : server.Says link.server .writeControl (writeControlPayload adsState devState)
      (state, response)) :
    writeControl server device adsState devState link =
      ((fun _ => ()) <$> response.outcome .writeControl,
        link.exchanged state .writeControl (writeControlPayload adsState devState)) := by
  have payload : [writeControlPayload adsState devState].flatten =
      writeControlPayload adsState devState := List.flatten_singleton
  have short : amsHeaderSize + [writeControlPayload adsState devState].flatten.length <
      2 ^ 32 := by
    rw [payload]
    simp [writeControlPayload, amsHeaderSize]
  have exchanged := @communicate_done _ _ device _ _ _ _ response short (by rw [payload]; exact said)
  rw [payload] at exchanged
  rw [writeControl]
  cases response with
  | ok bytes => exact Operation.bind_run_ok exchanged
  | error refusal => exact Operation.bind_run_err exchanged

end Runs

end Ads.Client
