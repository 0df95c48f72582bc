import Ads.Errors
import Ads.Client.Header

/-!
# Notification messages

A notification message is a frame whose body, from byte 42 on, is a counted list
of stamps, each a timestamp with a counted list of samples.  `Notification.new`
walks the body once to validate it; the sample iterator walks it again later,
with counters of its own and without checks.

The second half of the file states the wire layout that both walks are about.
-/

namespace Ads.Notif

open Ads.Bytes Ads.Bytes.Reader Ads.Control Ads.Client

/-- The context of every parse error. -/
def parsing : String := "parsing notification"

/-- Step over one sample: handle, length and that many bytes. -/
def scanSample : Reader Error Unit := do
  let _handle ← u32 (Error.eof parsing)
  let length ← u32 (Error.eof parsing)
  let _data ← take (Error.eof parsing) length.toNat
  pure ()

/-- Step over one stamp: timestamp, sample count and that many samples. -/
def scanStamp : Reader Error Unit := do
  let _timestamp ← u64 (Error.eof parsing)
  let nsamples ← u32 (Error.eof parsing)
  let _samples ← repeatN scanSample nsamples.toNat
  pure ()

/-- Step over the whole body and return the number of stamps. -/
def scan : Reader Error UInt32 := do
  let nstamps ← u32 (Error.eof parsing)
  let _stamps ← repeatN scanStamp nstamps.toNat
  pure nstamps

/-- A notification message from the ADS server.  Only `Notification.new` builds
one, from data whose body it has scanned to the end. -/
structure Notification where
  data : List UInt8
  nstamps : UInt32
  scanned : scan (data.drop (adsHeaderSize + 4)) = .ok (nstamps, [])
  deriving DecidableEq

/-- Parse a notification message from an ADS message. -/
def Notification.new (data : List UInt8) : Outcome Error Notification :=
  if data.length < adsHeaderSize + 8 then
    .err (Error.eof parsing)
  else
    match scanned : scan (data.drop (adsHeaderSize + 4)) with
    | .ok (nstamps, []) => .ok ⟨data, nstamps, scanned⟩
    | .ok (_, _ :: _) => .err (Error.eof parsing)
    | .err error => .err error
    | .panic => .panic

/-- A single sample in a notification message. -/
structure Sample where
  handle : UInt32
  timestamp : UInt64
  data : List UInt8
  deriving DecidableEq

/-- An iterator over all samples within a notification message. -/
structure SampleIter where
  data : List UInt8
  curTimestamp : UInt64
  stampsLeft : Nat
  samplesLeft : Nat

/-- Return an iterator over all data samples in this notification. -/
def Notification.samples (notification : Notification) : Outcome Error SampleIter :=
  if 46 ≤ notification.data.length then
    .ok { data := notification.data.drop 46
          curTimestamp := 0
          stampsLeft := notification.nstamps.toNat
          samplesLeft := 0 }
  else .panic

/-- Read one sample of the current stamp. -/
def readSample (timestamp : UInt64) : Reader Error Sample := do
  let handle ← expect (u32 ())
  let length ← expect (u32 ())
  let data ← splitAt length.toNat
  pure { handle, timestamp, data }

/-- Read the head of the next stamp. -/
def readStamp : Reader Error (UInt64 × UInt32) := do
  let timestamp ← expect (u64 ())
  let nsamples ← expect (u32 ())
  pure (timestamp, nsamples)

/-- The body of `SampleIter.next`, by recursion on the stamps that are left. -/
def nextFrom (data : List UInt8) (curTimestamp : UInt64) :
    (stampsLeft samplesLeft : Nat) → Outcome Error (Option Sample × SampleIter)
  | stampsLeft, samplesLeft + 1 => do
      let (sample, rest) ← readSample curTimestamp data
      .ok (some sample, ⟨rest, curTimestamp, stampsLeft, samplesLeft⟩)
  | stampsLeft + 1, 0 => do
      let ((timestamp, nsamples), rest) ← readStamp data
      nextFrom rest timestamp stampsLeft nsamples.toNat
  | 0, 0 => .ok (none, ⟨data, curTimestamp, 0, 0⟩)

/-- The next sample, if there is one, and the advanced iterator. -/
def SampleIter.next (iter : SampleIter) : Outcome Error (Option Sample × SampleIter) :=
  nextFrom iter.data iter.curTimestamp iter.stampsLeft iter.samplesLeft

/-- Exhausting the iterator ends after yielding exactly these samples. -/
inductive Yields : SampleIter → List Sample → Prop
  | stop {iter after : SampleIter} :
      iter.next = .ok (none, after) → Yields iter []
  | more {iter after : SampleIter} {sample : Sample} {samples : List Sample} :
      iter.next = .ok (some sample, after) → Yields after samples →
      Yields iter (sample :: samples)

/-! ## The wire layout -/

/-- A sample as it travels: the length fits its field. -/
structure WireSample where
  handle : UInt32
  data : List UInt8
  bound : data.length < 2 ^ 32

namespace WireSample

/-- The length field. -/
def length (sample : WireSample) : UInt32 :=
  UInt32.ofNat sample.data.length

@[simp]
theorem toNat_length (sample : WireSample) : sample.length.toNat = sample.data.length :=
  UInt32.toNat_ofNat_of_lt' sample.bound

/-- Handle, length and data. -/
def bytes (sample : WireSample) : List UInt8 :=
  u32Bytes sample.handle ++ (u32Bytes sample.length ++ sample.data)

/-- The sample as the iterator hands it out. -/
def stamped (sample : WireSample) (timestamp : UInt64) : Sample :=
  ⟨sample.handle, timestamp, sample.data⟩

end WireSample

/-- A stamp as it travels: the sample count fits its field. -/
structure WireStamp where
  timestamp : UInt64
  samples : List WireSample
  bound : samples.length < 2 ^ 32

namespace WireStamp

/-- The sample count field. -/
def count (stamp : WireStamp) : UInt32 :=
  UInt32.ofNat stamp.samples.length

@[simp]
theorem toNat_count (stamp : WireStamp) : stamp.count.toNat = stamp.samples.length :=
  UInt32.toNat_ofNat_of_lt' stamp.bound

/-- Timestamp, sample count and samples. -/
def bytes (stamp : WireStamp) : List UInt8 :=
  u64Bytes stamp.timestamp ++ (u32Bytes stamp.count ++ stamp.samples.flatMap WireSample.bytes)

/-- The stamp's samples, each with the stamp's timestamp. -/
def yielded (stamp : WireStamp) : List Sample :=
  stamp.samples.map fun sample => sample.stamped stamp.timestamp

end WireStamp

/-- A whole notification body: the stamp count fits its field. -/
structure WireBody where
  stamps : List WireStamp
  bound : stamps.length < 2 ^ 32

namespace WireBody

/-- The stamp count field. -/
def count (body : WireBody) : UInt32 :=
  UInt32.ofNat body.stamps.length

@[simp]
theorem toNat_count (body : WireBody) : body.count.toNat = body.stamps.length :=
  UInt32.toNat_ofNat_of_lt' body.bound

/-- Stamp count and stamps. -/
def bytes (body : WireBody) : List UInt8 :=
  u32Bytes body.count ++ body.stamps.flatMap WireStamp.bytes

/-- All samples in wire order. -/
def yielded (body : WireBody) : List Sample :=
  body.stamps.flatMap WireStamp.yielded

end WireBody

end Ads.Notif
