import Ads.NetId

/-!
# AMS headers

The ADS commands, the AMS/TCP and AMS header as laid out on the wire, and the
exact correspondence between headers and their 38 bytes.
-/

namespace Ads.Client

open Ads.Bytes Ads.Bytes.Reader Ads.Control

/-- An ADS protocol command. -/
inductive Command
  | devInfo
  | read
  | write
  | readWrite
  | readState
  | writeControl
  | addNotification
  | deleteNotification
  | notification
  deriving DecidableEq, Repr

namespace Command

/-- The command's number on the wire. -/
def toU16 : Command → UInt16
  | devInfo => 1
  | read => 2
  | write => 3
  | readWrite => 9
  | readState => 4
  | writeControl => 5
  | addNotification => 6
  | deleteNotification => 7
  | notification => 8

/-- What the command does, as named in errors. -/
def action : Command → String
  | devInfo => "get device info"
  | read => "read data"
  | write => "write data"
  | readWrite => "write and read data"
  | readState => "read state"
  | writeControl => "write control"
  | addNotification => "add notification"
  | deleteNotification => "delete notification"
  | notification => "notification"

theorem toU16_injective : Function.Injective toU16 := by
  intro first second equal
  cases first <;> cases second <;> first | rfl | (exact absurd equal (by decide))

end Command

/-- Size of the AMS/TCP header. -/
def amsTcpHeaderSize : Nat := 6

/-- Size of the AMS header. -/
def amsHeaderSize : Nat := 32

/-- Size of both headers. -/
def adsHeaderSize : Nat := amsTcpHeaderSize + amsHeaderSize

/-- The AMS/TCP header and the AMS header behind it. -/
structure AdsHeader where
  amsCmd : UInt16
  length : UInt32
  destNetid : AmsNetId
  destPort : UInt16
  srcNetid : AmsNetId
  srcPort : UInt16
  command : UInt16
  stateFlags : UInt16
  dataLength : UInt32
  errorCode : UInt32
  invokeId : UInt32
  deriving DecidableEq

namespace AdsHeader

/-- The 32 bytes behind the AMS/TCP header. -/
def amsBytes (header : AdsHeader) : List UInt8 :=
  header.destNetid.octets ++ u16Bytes header.destPort ++
    header.srcNetid.octets ++ u16Bytes header.srcPort ++
    u16Bytes header.command ++ u16Bytes header.stateFlags ++
    u32Bytes header.dataLength ++ u32Bytes header.errorCode ++ u32Bytes header.invokeId

/-- The header's bytes on the wire. -/
def asBytes (header : AdsHeader) : List UInt8 :=
  u16Bytes header.amsCmd ++ u32Bytes header.length ++ header.amsBytes

@[simp]
theorem length_amsBytes (header : AdsHeader) : header.amsBytes.length = 32 := by
  simp [amsBytes, header.destNetid.size, header.srcNetid.size]

@[simp]
theorem length_asBytes (header : AdsHeader) : header.asBytes.length = 38 := by
  simp [asBytes]

/-- The destination address of the frame. -/
def dest (header : AdsHeader) : AmsAddr :=
  ⟨header.destNetid, header.destPort⟩

/-- The source address of the frame. -/
def src (header : AdsHeader) : AmsAddr :=
  ⟨header.srcNetid, header.srcPort⟩

end AdsHeader

/-- Read a NetID of six octets. -/
def readNetId {ε : Type} (eof : ε) : Reader ε AmsNetId := do
  let octets ← take eof 6
  match AmsNetId.fromSlice octets with
  | some netid => pure netid
  | none => fail eof

theorem reads_netId {ε : Type} (eof : ε) (netid : AmsNetId) :
    Reads (readNetId eof) netid.octets netid := by
  have octets : Reads (take eof 6) netid.octets netid.octets := by
    have taken := reads_take eof netid.octets
    rwa [netid.size] at taken
  intro rest
  rw [readNetId, bind_run_ok (octets rest)]
  simp

/-- Read an address: a NetID and a port. -/
def readAmsAddr {ε : Type} (eof : ε) : Reader ε AmsAddr := do
  let netid ← readNetId eof
  let port ← u16 eof
  pure { netid, port }

theorem reads_amsAddr {ε : Type} (eof : ε) (addr : AmsAddr) :
    Reads (readAmsAddr eof) (addr.netid.octets ++ u16Bytes addr.port) addr :=
  (reads_netId eof _).bind (reads_u16 eof _).bind_pure

theorem exact_netId {ε : Type} (eof : ε) :
    Exact (readNetId eof) AmsNetId.octets fun _ => True := by
  intro input netid rest
  rw [readNetId, bind_run_eq_ok_iff]
  constructor
  · rintro ⟨octets, middle, taken, made⟩
    obtain ⟨size, rfl⟩ := take_eq_ok_iff.mp taken
    rw [AmsNetId.fromSlice, dif_pos size] at made
    cases made
    exact ⟨trivial, rfl⟩
  · rintro ⟨-, rfl⟩
    refine ⟨netid.octets, rest, take_eq_ok_iff.mpr ⟨netid.size, rfl⟩, ?_⟩
    rw [AmsNetId.fromSlice_octets]
    rfl

theorem neverPanics_amsAddr {ε : Type} (eof : ε) : NeverPanics (readAmsAddr eof) := by
  have netid : NeverPanics (readNetId eof) := by
    apply (neverPanics_take eof 6).bind
    intro octets
    cases AmsNetId.fromSlice octets with
    | none => exact neverPanics_fail eof
    | some netid => exact NeverPanics.pure netid
  exact netid.bind fun _ => (neverPanics_u16 eof).bind fun _ => NeverPanics.pure _

theorem exact_amsAddr {ε : Type} (eof : ε) :
    Exact (readAmsAddr eof) (fun addr => addr.netid.octets ++ u16Bytes addr.port)
      fun _ => True := by
  intro input addr rest
  constructor
  · intro ran
    obtain ⟨netid, middle, first, others⟩ := bind_run_eq_ok_iff.mp ran
    obtain ⟨port, behind, second, done⟩ := bind_run_eq_ok_iff.mp others
    obtain ⟨-, rfl⟩ := (exact_netId eof _ _ _).mp first
    obtain ⟨-, rfl⟩ := (exact_u16 eof _ _ _).mp second
    cases done
    exact ⟨trivial, (List.append_assoc ..).symm⟩
  · rintro ⟨-, rfl⟩
    exact reads_amsAddr eof addr rest

/-- Read a header field by field. -/
def readAdsHeader {ε : Type} (eof : ε) : Reader ε AdsHeader := do
  let amsCmd ← u16 eof
  let length ← u32 eof
  let destNetid ← readNetId eof
  let destPort ← u16 eof
  let srcNetid ← readNetId eof
  let srcPort ← u16 eof
  let command ← u16 eof
  let stateFlags ← u16 eof
  let dataLength ← u32 eof
  let errorCode ← u32 eof
  let invokeId ← u32 eof
  pure { amsCmd, length, destNetid, destPort, srcNetid, srcPort, command, stateFlags,
         dataLength, errorCode, invokeId }

/-- A header is read back from its own bytes. -/
theorem reads_adsHeader {ε : Type} (eof : ε) (header : AdsHeader) :
    Reads (readAdsHeader eof) header.asBytes header := by
  have fields : Reads (readAdsHeader eof)
      (u16Bytes header.amsCmd ++ (u32Bytes header.length ++ (header.destNetid.octets ++
        (u16Bytes header.destPort ++ (header.srcNetid.octets ++ (u16Bytes header.srcPort ++
          (u16Bytes header.command ++ (u16Bytes header.stateFlags ++
            (u32Bytes header.dataLength ++ (u32Bytes header.errorCode ++
              u32Bytes header.invokeId)))))))))) header :=
    (reads_u16 eof _).bind <| (reads_u32 eof _).bind <| (reads_netId eof _).bind <|
      (reads_u16 eof _).bind <| (reads_netId eof _).bind <| (reads_u16 eof _).bind <|
        (reads_u16 eof _).bind <| (reads_u16 eof _).bind <| (reads_u32 eof _).bind <|
          (reads_u32 eof _).bind <| (reads_u32 eof _).bind_pure
  simpa [AdsHeader.asBytes, AdsHeader.amsBytes, List.append_assoc] using fields

/-- Decode a header from exactly 38 bytes. -/
def AdsHeader.readFromBytes (bytes : List UInt8) : Option AdsHeader :=
  match readAdsHeader () bytes with
  | .ok (header, []) => some header
  | _ => none

@[simp]
theorem AdsHeader.readFromBytes_asBytes (header : AdsHeader) :
    AdsHeader.readFromBytes header.asBytes = some header := by
  have read := reads_adsHeader () header []
  rw [List.append_nil] at read
  rw [AdsHeader.readFromBytes, read]

private theorem exists_split {bytes : List UInt8} {first : Nat} (others : Nat)
    (size : bytes.length = first + others) :
    ∃ front back, bytes = front ++ back ∧ front.length = first ∧ back.length = others :=
  ⟨bytes.take first, bytes.drop first, (List.take_append_drop first bytes).symm,
    List.length_take_of_le (by omega), by rw [List.length_drop]; omega⟩

/-- Every 38 bytes are the bytes of some header. -/
theorem AdsHeader.exists_asBytes_eq {bytes : List UInt8} (size : bytes.length = 38) :
    ∃ header : AdsHeader, header.asBytes = bytes := by
  obtain ⟨amsCmd, bytes, rfl, cmdSize, size⟩ := exists_split 36 size
  obtain ⟨length, bytes, rfl, lengthSize, size⟩ := exists_split 32 size
  obtain ⟨destNetid, bytes, rfl, destSize, size⟩ := exists_split 26 size
  obtain ⟨destPort, bytes, rfl, destPortSize, size⟩ := exists_split 24 size
  obtain ⟨srcNetid, bytes, rfl, srcSize, size⟩ := exists_split 18 size
  obtain ⟨srcPort, bytes, rfl, srcPortSize, size⟩ := exists_split 16 size
  obtain ⟨command, bytes, rfl, commandSize, size⟩ := exists_split 14 size
  obtain ⟨stateFlags, bytes, rfl, flagsSize, size⟩ := exists_split 12 size
  obtain ⟨dataLength, bytes, rfl, dataSize, size⟩ := exists_split 8 size
  obtain ⟨errorCode, invokeId, rfl, errorSize, size⟩ := exists_split 4 size
  refine ⟨{ amsCmd := UInt16.ofNat (leValue amsCmd), length := UInt32.ofNat (leValue length),
            destNetid := ⟨destNetid, destSize⟩, destPort := UInt16.ofNat (leValue destPort),
            srcNetid := ⟨srcNetid, srcSize⟩, srcPort := UInt16.ofNat (leValue srcPort),
            command := UInt16.ofNat (leValue command),
            stateFlags := UInt16.ofNat (leValue stateFlags),
            dataLength := UInt32.ofNat (leValue dataLength),
            errorCode := UInt32.ofNat (leValue errorCode),
            invokeId := UInt32.ofNat (leValue invokeId) }, ?_⟩
  simp only [AdsHeader.asBytes, AdsHeader.amsBytes, u16Bytes_leValue cmdSize,
    u32Bytes_leValue lengthSize, u16Bytes_leValue destPortSize, u16Bytes_leValue srcPortSize,
    u16Bytes_leValue commandSize, u16Bytes_leValue flagsSize, u32Bytes_leValue dataSize,
    u32Bytes_leValue errorSize, u32Bytes_leValue size, List.append_assoc]

/-- Decoding 38 bytes always succeeds, with the header whose bytes they are. -/
theorem AdsHeader.readFromBytes_eq_some_iff {bytes : List UInt8} (size : bytes.length = 38)
    {header : AdsHeader} :
    AdsHeader.readFromBytes bytes = some header ↔ header.asBytes = bytes := by
  obtain ⟨actual, rfl⟩ := AdsHeader.exists_asBytes_eq size
  rw [AdsHeader.readFromBytes_asBytes]
  constructor
  · intro equal
    rw [Option.some.inj equal]
  · intro equal
    have decoded := congrArg AdsHeader.readFromBytes equal
    rw [readFromBytes_asBytes, readFromBytes_asBytes] at decoded
    exact decoded.symm

end Ads.Client
