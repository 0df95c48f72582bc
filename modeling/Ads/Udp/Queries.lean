import Ads.Udp.Getters

/-!
# Queries

A query sends one message and reads one reply: the status of a new route, the
NetID of the system, or what it says about itself.
-/

namespace Ads.Udp

open Ads.Bytes Ads.Bytes.Reader Ads.Control Ads.Text

/-- How an exchange with a server goes: a call on the socket fails, or a datagram comes
back. -/
inductive Exchange
  | bindFailed (kind : IoErrorKind)
  | sendFailed (kind : IoErrorKind)
  | timeoutFailed (kind : IoErrorKind)
  | receiveFailed (kind : IoErrorKind)
  | received (datagram : List UInt8)

/-- What is read of the reply.  The buffer takes 576 bytes of the datagram. -/
def Exchange.reply : Exchange → Outcome Error (List UInt8)
  | bindFailed kind => .err (.io "binding UDP socket" kind)
  | sendFailed kind => .err (.io "sending UDP request" kind)
  | timeoutFailed kind => .err (.io "setting UDP timeout" kind)
  | receiveFailed kind => .err (.io "receiving UDP reply" kind)
  | received datagram => .ok (datagram.take 576)

/-- Send the packet and receive a reply from the server, which is the network's answer to
the bytes that are sent. -/
def Message.sendReceive (message : Message) (network : List UInt8 → Exchange) :
    Outcome Error Message := do
  let reply ← (network message.asBytes).reply
  let service ← subslice message.data 8 12
  parseInternal reply (leU32 service ||| 0x80000000)

/-! ## Setting a route -/

/-- The message that asks for a route. -/
def routeRequest (netid : AmsNetId) (host : String) (routename username password : Option String)
    (temporary : Bool) : Outcome Error Message := do
  let packet := Message.new .addRoute ⟨netid, 0⟩
  let packet ← packet.addBytes .netID netid.octets
  let packet ← packet.addStr .computerName host
  let packet ← packet.addStr .userName (username.getD "Administrator")
  let packet ← packet.addStr .password (password.getD "1")
  let packet ← packet.addStr .routeName (routename.getD host)
  if temporary then packet.addU32 .options 1 else .ok packet

/-- The status in the reply to it. -/
def readStatus (reply : Message) : Outcome Error Unit := do
  match ← reply.getU32 .status with
  | none => .err (.reply "setting route" "no status in reply" 0)
  | some status => if status = 0 then .ok () else .err (adsError "setting route" status)

/-- Send a UDP message for setting a route. -/
def addRoute (netid : AmsNetId) (host : String) (routename username password : Option String)
    (temporary : Bool) (network : List UInt8 → Exchange) : Outcome Error Unit := do
  let packet ← routeRequest netid host routename username password temporary
  let reply ← packet.sendReceive network
  readStatus reply

/-! ## Asking the system -/

/-- The message that asks a system to identify itself. -/
def identifyRequest : Message :=
  Message.new .identify AmsAddr.default

/-- Send a UDP message for querying remote system NetID. -/
def getNetid (network : List UInt8 → Exchange) : Outcome Error AmsNetId := do
  let reply ← identifyRequest.sendReceive network
  let source ← reply.getSource
  .ok source.netid

/-- The (major, minor, build) version of TwinCAT. -/
abbrev TwincatVersion := UInt8 × UInt8 × UInt16

/-- The (name, major, minor, build, service_pack) version of the operating system. -/
abbrev OsVersion := String × UInt32 × UInt32 × UInt32 × String

/-- Information about the system running TwinCAT. -/
structure SysInfo where
  netid : AmsNetId
  hostname : String
  twincatVersion : TwincatVersion
  osVersion : OsVersion
  fingerprint : String
  deriving DecidableEq

/-- The element at an index; an index outside of the slice is a panic. -/
def element {α : Type} (slice : List α) (i : Nat) : Outcome Error α :=
  match slice[i]? with
  | some value => .ok value
  | none => .panic

/-- Parse TwinCAT version. -/
def parseTwincatVersion (tcver : List UInt8) : Outcome Error TwincatVersion :=
  if 4 ≤ tcver.length then do
    let tcbuild ← subslice tcver 2 4
    let major ← element tcver 0
    let minor ← element tcver 1
    .ok (major, minor, leU16 tcbuild)
  else .ok (0, 0, 0)

/-- The name of a platform. -/
def platformName (number : UInt32) : String :=
  if number = 0 then "TwinCAT/BSD"
  else if number = 1 then "TC/RTOS"
  else if number = 2 then "Windows NT"
  else if number = 3 then "Windows CE"
  else "Unknown platform"

/-- The words of a slice; an odd byte at its end is left over. -/
def words : List UInt8 → List UInt16
  | low :: high :: rest => leU16 [low, high] :: words rest
  | _ => []

/-- The character with a number, unless it is that of a surrogate. -/
def charFromU32 (number : Nat) : Option Char :=
  if valid : number.isValidChar then some (Char.ofNatAux number valid) else none

/-- The service pack, in bytes or in UTF-16 code units by platform. -/
def servicePack (platform : String) (bytes : List UInt8) : String :=
  if platform = "TC/RTOS" then
    String.ofList ((bytes.takeWhile (· != 0)).map fun byte => Char.ofNat byte.toNat)
  else if platform = "TwinCAT/BSD" then ""
  else String.ofList (((words bytes).takeWhile (· != 0)).filterMap fun unit =>
    charFromU32 unit.toNat)

/-- Read the structure of the OS version: its size, three numbers, the platform and the
service pack. -/
def readOsVersion : Reader Error OsVersion := do
  let _size ← expect (u32 ())
  let major ← expect (u32 ())
  let minor ← expect (u32 ())
  let build ← expect (u32 ())
  let number ← expect (u32 ())
  let bytes ← takeAll
  let platform := platformName number
  pure (platform, major, minor, build, servicePack platform bytes)

/-- Parse OS version. -/
def parseOsVersion (osver : Option (List UInt8)) : Outcome Error OsVersion :=
  match osver with
  | some bytes =>
      if 22 ≤ bytes.length then readOsVersion.runOn bytes
      else .ok ("Unknown OS info format", 0, 0, 0, "")
  | none => .ok ("No OS info", 0, 0, 0, "")

/-- What a reply says about its system. -/
def readInfo (reply : Message) : Outcome Error SysInfo := do
  let tcver ← reply.getBytes .tcVersion
  let twincatVersion ← parseTwincatVersion (tcver.getD [])
  let osver ← reply.getBytes .osVersion
  let osVersion ← parseOsVersion osver
  let source ← reply.getSource
  let hostname ← reply.getStr .computerName
  let fingerprint ← reply.getStr .fingerprint
  .ok { netid := source.netid, hostname := hostname.getD "unknown", twincatVersion, osVersion,
        fingerprint := fingerprint.getD "" }

/-- Send a UDP message for querying remote system information. -/
def getInfo (network : List UInt8 → Exchange) : Outcome Error SysInfo := do
  let reply ← identifyRequest.sendReceive network
  readInfo reply

end Ads.Udp
