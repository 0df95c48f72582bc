import Ads.Client.Device
import Ads.Client.Fixup

/-!
# Sum-up requests

Many reads or writes in one request: the headers of all items first, then all
data to write; in the reply the results of all items first, then all data that
was read.
-/

namespace Ads.Client

open Ads.Bytes Ads.Control

/-- The index group of several writes in one request. -/
def sumupWrite : UInt32 := 0xF081

/-- The index group of several combined writes and reads in one request. -/
def sumupReadwrite : UInt32 := 0xF082

/-- The index group of several reads with individual results in one request. -/
def sumupReadEx : UInt32 := 0xF083

variable {S : Type} (server : Server S) (device : Device)

/-- Exchange a sum-up request of `nreq` items: its header goes before the input
buffers, and the length of the reply is received before the output buffers. -/
def sumUp (indexGroup : UInt32) (nreq rlen wlen : Nat)
    (wBuffers rBuffers : List (List UInt8)) : Operation S (List (List UInt8)) := do
  let readLength ← Operation.ofOutcome (tryInto rlen)
  let writeLength ← Operation.ofOutcome (tryInto wlen)
  let header : IndexLengthRW :=
    { indexGroup, indexOffset := UInt32.ofNat nreq, readLength, writeLength }
  let received ← communicate server device .readWrite (header.asBytes :: wBuffers)
    (u32Bytes 0 :: rBuffers)
  pure received.bufs.tail

/-- Read multiple index groups and offsets with one request. -/
def readMulti (requests : List ReadRequest) : Operation S (List ReadRequest) := do
  let nreq := requests.length
  let rlen := (requests.map fun r => resultLengthSize + r.rbuf.length).sum
  let wlen := indexLengthSize * nreq
  let bufs ← sumUp server device sumupReadEx nreq rlen wlen
    (requests.map (·.req.asBytes))
    (requests.map (·.res.asBytes) ++ requests.map (·.rbuf))
  pure (List.zipWith3 ReadRequest.fill requests (bufs.take nreq) (bufs.drop nreq))

/-- Write multiple index groups and offsets with one request. -/
def writeMulti (requests : List WriteRequest) : Operation S (List WriteRequest) := do
  let nreq := requests.length
  let rlen := 4 * nreq
  let wlen := (requests.map fun r => indexLengthSize + r.wbuf.length).sum
  let bufs ← sumUp server device sumupWrite nreq rlen wlen
    (requests.map (·.req.asBytes) ++ requests.map (·.wbuf))
    (requests.map fun r => u32Bytes r.res)
  pure (List.zipWith WriteRequest.fill requests bufs)

/-- Write and read multiple index groups and offsets with one request. -/
def writeReadMulti (requests : List WriteReadRequest) :
    Operation S (List WriteReadRequest) := do
  let nreq := requests.length
  let rlen := (requests.map fun r => resultLengthSize + r.rbuf.length).sum
  let wlen := (requests.map fun r => indexLengthRWSize + r.wbuf.length).sum
  let bufs ← sumUp server device sumupReadwrite nreq rlen wlen
    (requests.map (·.req.asBytes) ++ requests.map (·.wbuf))
    (requests.map (·.res.asBytes) ++ requests.map (·.rbuf))
  -- the reply has only the bytes that were actually read for each item
  Operation.ofOutcome (fixupWriteReadReturnBuffers
    (List.zipWith3 WriteReadRequest.fill requests (bufs.take nreq) (bufs.drop nreq)))

end Ads.Client
