import Ads.Bytes.Reader

/-!
# AMS addresses

The NetID of six octets and the address that pairs it with a port.
-/

namespace Ads

open Ads.Bytes

/-- An AMS NetID: six octets. -/
structure AmsNetId where
  octets : List UInt8
  size : octets.length = 6
  deriving DecidableEq

namespace AmsNetId

/-- Create a NetID from six bytes. -/
def new (a b c d e f : UInt8) : AmsNetId :=
  ⟨[a, b, c, d, e, f], rfl⟩

/-- The "local NetID", `127.0.0.1.1.1`. -/
def localId : AmsNetId :=
  new 127 0 0 1 1 1

/-- Create a NetID from a slice (which must have length 6). -/
def fromSlice (slice : List UInt8) : Option AmsNetId :=
  if size : slice.length = 6 then some ⟨slice, size⟩ else none

@[simp]
theorem fromSlice_octets (netid : AmsNetId) : fromSlice netid.octets = some netid := by
  simp [fromSlice, netid.size]

end AmsNetId

/-- Combination of an AMS NetID and a port. -/
structure AmsAddr where
  netid : AmsNetId
  port : UInt16
  deriving DecidableEq

/-- The address of zeros. -/
def AmsAddr.default : AmsAddr where
  netid := .new 0 0 0 0 0 0
  port := 0

end Ads
