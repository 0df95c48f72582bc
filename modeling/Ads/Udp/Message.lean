import Ads.Bytes.Record
import Ads.Bytes.Tagged
import Ads.Client.Header
import Ads.Errors
import Ads.Text.Utf8

/-!
# UDP messages

The Beckhoff UDP message protocol for basic operations: a header, then tagged
items.  A message is its bytes with an index of the items.  Two pieces of code
fill the index, the functions that append an item and the loop that parses a
received message.
-/

namespace Ads.Udp

open Ads.Bytes Ads.Bytes.Reader Ads.Client Ads.Control Ads.Text

/-- Magic number for the first four bytes of each UDP packet. -/
def beckhoffUdpMagic : UInt32 := 0x71146603

/-- The operation that the PLC should execute. -/
inductive ServiceId
  | identify
  | addRoute
  deriving DecidableEq, Repr

/-- The service's number on the wire. -/
def ServiceId.toU32 : ServiceId → UInt32
  | identify => 1
  | addRoute => 6

/-- Identifies a piece of information in the UDP message. -/
inductive Tag
  | status
  | password
  | tcVersion
  | osVersion
  | computerName
  | netID
  | options
  | routeName
  | userName
  | fingerprint
  deriving DecidableEq, Repr

namespace Tag

/-- The tag's number on the wire. -/
def toU16 : Tag → UInt16
  | status => 1
  | password => 2
  | tcVersion => 3
  | osVersion => 4
  | computerName => 5
  | netID => 7
  | options => 9
  | routeName => 12
  | userName => 13
  | fingerprint => 18

theorem toU16_injective : Function.Injective toU16 := by
  intro first second equal
  cases first <;> cases second <;> first | rfl | (exact absurd equal (by decide))

end Tag

/-- The 24 bytes in front of the items. -/
structure UdpHeader where
  magic : UInt32
  invokeId : UInt32
  service : UInt32
  srcNetid : AmsNetId
  srcPort : UInt16
  numItems : UInt32

namespace UdpHeader

/-- The header's bytes on the wire. -/
def asBytes (header : UdpHeader) : List UInt8 :=
  u32Bytes header.magic ++ u32Bytes header.invokeId ++ u32Bytes header.service ++
    (header.srcNetid.octets ++ u16Bytes header.srcPort) ++ u32Bytes header.numItems

@[simp]
theorem length_asBytes (header : UdpHeader) : header.asBytes.length = 24 := by
  simp [asBytes, header.srcNetid.size]

end UdpHeader

/-- A message in the UDP protocol: of every item the tag and the range of its data. -/
structure Message where
  items : List (UInt16 × Nat × Nat)
  data : List UInt8
  deriving DecidableEq

namespace Message

/-- The context of every parse error. -/
def parsing : String := "parsing UDP packet"

/-- The header of a new message. -/
def header (service : ServiceId) (source : AmsAddr) : UdpHeader where
  magic := beckhoffUdpMagic
  invokeId := 0
  service := service.toU32
  srcNetid := source.netid
  srcPort := source.port
  numItems := 0

/-- Create a new UDP message backed by a byte vector. -/
def new (service : ServiceId) (source : AmsAddr) : Message where
  items := []
  data := (header service source).asBytes

/-! ## Parsing -/

/-- Read the header and check it against the expected service.  The number of items it
announces is only asked room for. -/
def readHeader (expService : UInt32) : Reader Error UInt32 := do
  let magic ← u32 (Error.eof parsing)
  let invokeId ← u32 (Error.eof parsing)
  let repService ← u32 (Error.eof parsing)
  if magic ≠ beckhoffUdpMagic then fail (.reply parsing "invalid magic" magic)
  else if invokeId ≠ 0 then fail (.reply parsing "invalid invoke ID" invokeId)
  else if repService ≠ expService then fail (.reply parsing "invalid service ID" repService)
  else do
    let _src ← readAmsAddr (Error.eof parsing)
    u32 (Error.eof parsing)

/-- The items loop: until no tag can be read, the index entry of one item after the
other.  Every round takes four bytes at least, so that `fuel` need not exceed the length
of the input. -/
def parseItems : Nat → Nat → List UInt8 → Outcome Error (List (UInt16 × Nat × Nat))
  | 0, _, _ => .ok []
  | fuel + 1, pos, input =>
      match u16 () input with
      | .ok (tag, input) => do
          let (len, input) ← u16 (Error.eof parsing) input
          let (_data, input) ← splitAt len.toNat input
          let items ← parseItems fuel (pos + (len.toNat + 4)) input
          .ok ((tag, pos, pos + len.toNat) :: items)
      | _ => .ok []

/-- Make room for a number of index entries.  To ask for more than the allocator has room
for ends the program. -/
def reserve (room : Nat) (nitems : UInt32) : Outcome Error Unit :=
  if nitems.toNat ≤ room then .ok () else .panic

/-- Parse the bytes of a message with this service number, where the allocator has room for
`room` index entries. -/
def parseInternalWithin (room : Nat) (data : List UInt8) (expService : UInt32) :
    Outcome Error Message := do
  let (nitems, rest) ← readHeader expService data
  reserve room nitems
  let items ← parseItems rest.length 28 rest
  .ok { items, data }

/-- Parse the bytes of a message where there is room for as many index entries as a header
can announce. -/
def parseInternal (data : List UInt8) (expService : UInt32) : Outcome Error Message :=
  parseInternalWithin (2 ^ 32) data expService

/-- Parse a UDP message from a byte slice, with so much room. -/
def parseWithin (room : Nat) (data : List UInt8) (expService : ServiceId) (reply : Bool) :
    Outcome Error Message :=
  parseInternalWithin room data (expService.toU32 ||| if reply then 0x80000000 else 0)

/-- Parse a UDP message from a byte slice. -/
def parse (data : List UInt8) (expService : ServiceId) (reply : Bool) : Outcome Error Message :=
  parseInternal data (expService.toU32 ||| if reply then 0x80000000 else 0)

/-! ## Adding items -/

/-- Write the number of items into the header. -/
def writeCount (message : Message) : Outcome Error Message :=
  if 24 ≤ message.data.length then
    .ok { message with
          data := paste message.data 20 (u32Bytes (UInt32.ofNat message.items.length)) }
  else .panic

/-- Append a tag, a length and a payload, with an index entry from behind the tag to the
end. -/
def push (message : Message) (tag : Tag) (len : UInt16) (payload : List UInt8) :
    Outcome Error Message :=
  let tagged := message.data ++ u16Bytes tag.toU16
  let start := tagged.length
  let data := tagged ++ (u16Bytes len ++ payload)
  writeCount { items := message.items ++ [(tag.toU16, start, data.length)], data }

/-- Add a tag containing arbitrary bytes. -/
def addBytes (message : Message) (tag : Tag) (data : List UInt8) : Outcome Error Message :=
  message.push tag (UInt16.ofNat data.length) data

/-- Add a tag containing a string with null terminator.  The length with the terminator
is a sum with overflow checks, as in a debug build. -/
def addStr (message : Message) (tag : Tag) (data : String) : Outcome Error Message :=
  let bytes := utf8Bytes data
  if UInt16.ofNat bytes.length = 0xFFFF then .panic
  else message.push tag (UInt16.ofNat bytes.length + 1) (bytes ++ [0])

/-- Add a tag containing an u32. -/
def addU32 (message : Message) (tag : Tag) (data : UInt32) : Outcome Error Message :=
  message.push tag 4 (u32Bytes data)

/-! ## Reading items -/

/-- Apply `map` to the data of the first item with the tag. -/
def mapTag {α : Type} (message : Message) (tag : Tag)
    (map : List UInt8 → Outcome Error (Option α)) : Outcome Error (Option α) :=
  match message.items.find? fun item => item.1 == tag.toU16 with
  | some (_, i, j) => subslice message.data i j >>= map
  | none => .ok none

/-- Get the data for given tag as bytes. -/
def getBytes (message : Message) (tag : Tag) : Outcome Error (Option (List UInt8)) :=
  message.mapTag tag fun bytes => .ok (some bytes)

/-- Get the data for given tag as null-terminated string.  Data without room for the
terminator is a panic. -/
def getStr (message : Message) (tag : Tag) : Outcome Error (Option String) :=
  message.mapTag tag fun bytes =>
    if bytes.length = 0 then .panic else .ok (fromUtf8 (bytes.take (bytes.length - 1)))

/-- Get the data for given tag as a u32. -/
def getU32 (message : Message) (tag : Tag) : Outcome Error (Option UInt32) :=
  message.mapTag tag fun bytes =>
    match u32 () bytes with
    | .ok (value, _) => .ok (some value)
    | _ => .ok none

/-- Get the AMS address originating the message. -/
def getSource (message : Message) : Outcome Error AmsAddr := do
  let bytes ← subslice message.data 12 20
  runOn (expect (readAmsAddr ())) bytes

/-- Create a complete UDP packet from the message and its header. -/
def asBytes (message : Message) : List UInt8 :=
  message.data

end Message

/-! ## Building a message -/

/-- A call that adds an item, its payload as long as the length field can say. -/
inductive Call
  | addBytes (tag : Tag) (data : List UInt8) (bound : data.length ≤ 65535)
  | addStr (tag : Tag) (data : String) (bound : (utf8Bytes data).length ≤ 65534)
  | addU32 (tag : Tag) (data : UInt32)

namespace Call

/-- The tag of the added item. -/
def tag : Call → Tag
  | addBytes tag _ _ => tag
  | addStr tag _ _ => tag
  | addU32 tag _ => tag

/-- The payload of the added item. -/
def payload : Call → List UInt8
  | addBytes _ data _ => data
  | addStr _ data _ => utf8Bytes data ++ [0]
  | addU32 _ data => u32Bytes data

/-- Make the call. -/
def run : Call → Message → Outcome Error Message
  | addBytes tag data _, message => message.addBytes tag data
  | addStr tag data _, message => message.addStr tag data
  | addU32 tag data, message => message.addU32 tag data

end Call

/-- A new message with the items of these calls. -/
def build (service : ServiceId) (source : AmsAddr) (calls : List Call) : Outcome Error Message :=
  calls.foldlM (fun message call => call.run message) (Message.new service source)

end Ads.Udp
