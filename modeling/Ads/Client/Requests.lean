import Ads.Bytes.Scatter
import Ads.Bytes.LittleEndian
import Ads.Control.Outcome
import Ads.Errors

/-!
# Requests of a sum-up

The fixed-size records of the read and write commands, and the single requests
that a sum-up request is made of.
-/

namespace Ads.Client

open Ads.Bytes Ads.Control

/-- Where to read or write, and how many bytes. -/
structure IndexLength where
  indexGroup : UInt32
  indexOffset : UInt32
  length : UInt32
  deriving DecidableEq

/-- Where to write and read back, and how many bytes each way. -/
structure IndexLengthRW where
  indexGroup : UInt32
  indexOffset : UInt32
  readLength : UInt32
  writeLength : UInt32
  deriving DecidableEq

/-- The result of one read, and how many bytes it returned. -/
structure ResultLength where
  result : UInt32
  length : UInt32
  deriving DecidableEq

/-- The record's bytes on the wire. -/
def IndexLength.asBytes (record : IndexLength) : List UInt8 :=
  u32Bytes record.indexGroup ++ u32Bytes record.indexOffset ++ u32Bytes record.length

/-- The record's bytes on the wire. -/
def IndexLengthRW.asBytes (record : IndexLengthRW) : List UInt8 :=
  u32Bytes record.indexGroup ++ u32Bytes record.indexOffset ++
    u32Bytes record.readLength ++ u32Bytes record.writeLength

/-- The record's bytes on the wire. -/
def ResultLength.asBytes (record : ResultLength) : List UInt8 :=
  u32Bytes record.result ++ u32Bytes record.length

/-- The record that is read back from its eight bytes. -/
def ResultLength.ofBytes (bytes : List UInt8) : ResultLength where
  result := leU32 bytes
  length := leU32 (bytes.drop 4)

/-- A record of zeros. -/
def ResultLength.newZeroed : ResultLength where
  result := 0
  length := 0

/-- Size of an `IndexLength`. -/
def indexLengthSize : Nat := 12

/-- Size of an `IndexLengthRW`. -/
def indexLengthRWSize : Nat := 16

/-- Size of a `ResultLength`. -/
def resultLengthSize : Nat := 8

@[simp]
theorem IndexLength.length_asBytes (record : IndexLength) : record.asBytes.length = 12 := by
  simp [IndexLength.asBytes]

@[simp]
theorem IndexLengthRW.length_asBytes (record : IndexLengthRW) : record.asBytes.length = 16 := by
  simp [IndexLengthRW.asBytes]

@[simp]
theorem ResultLength.length_asBytes (record : ResultLength) : record.asBytes.length = 8 := by
  simp [ResultLength.asBytes]

@[simp]
theorem ResultLength.ofBytes_asBytes (record : ResultLength) :
    ResultLength.ofBytes record.asBytes = record := by
  have second : record.asBytes.drop 4 = u32Bytes record.length ++ [] := by
    rw [ResultLength.asBytes, List.drop_left' (length_u32Bytes _), List.append_nil]
  rw [ResultLength.ofBytes, second, leU32_u32Bytes_append, ResultLength.asBytes,
    leU32_u32Bytes_append]

/-- The word that is read from a fresh buffer is that of the data, with zeros for the bytes
that the data does not have. -/
theorem leU32_overlay_zeros (data : List UInt8) :
    leU32 (overlay data (u32Bytes 0)) = leU32 data := by
  have zeros : u32Bytes 0 = List.replicate 4 0 := rfl
  rw [overlay, zeros, List.length_replicate, List.drop_replicate, leU32_append_zeros,
    leU32_take data (Nat.le_refl 4)]

/-- The same for a fresh record. -/
theorem ResultLength.ofBytes_overlay_zeros (data : List UInt8) :
    ResultLength.ofBytes (overlay data newZeroed.asBytes) = ⟨leU32 data, leU32 (data.drop 4)⟩ := by
  have zeros : newZeroed.asBytes = List.replicate 8 0 := rfl
  have filled : overlay data newZeroed.asBytes =
      data.take 8 ++ List.replicate (8 - data.length) 0 := by
    rw [overlay, zeros, List.length_replicate, List.drop_replicate]
  have second : (overlay data newZeroed.asBytes).drop 4 = (data.drop 4).take 4 ++
      List.replicate (8 - data.length - (4 - (data.take 8).length)) 0 := by
    rw [filled, List.drop_append, List.drop_replicate, List.drop_take]
  rw [ResultLength.ofBytes, second, leU32_append_zeros, leU32_take _ (Nat.le_refl 4), filled,
    leU32_append_zeros, leU32_take _ (by decide)]

/-- What a caller gets from the result and length of one item: the front of its
buffer, or the error that the server reported.  The slice panics when the length
exceeds the buffer. -/
def returnedData (action : String) (res : ResultLength) (rbuf : List UInt8) :
    Outcome Error (List UInt8) :=
  if res.result ≠ 0 then .err (adsError action res.result)
  else if res.length.toNat ≤ rbuf.length then .ok (rbuf.take res.length.toNat)
  else .panic

/-- A single request of `readMulti`. -/
structure ReadRequest where
  req : IndexLength
  res : ResultLength
  rbuf : List UInt8
  /-- The request asks for as many bytes as its buffer holds. -/
  sized : req.length = UInt32.ofNat rbuf.length

namespace ReadRequest

/-- Create the request with given index group, index offset and result buffer. -/
def new (indexGroup indexOffset : UInt32) (buffer : List UInt8) : ReadRequest where
  req := ⟨indexGroup, indexOffset, UInt32.ofNat buffer.length⟩
  res := .newZeroed
  rbuf := buffer
  sized := rfl

/-- Get the actual returned data. -/
def data (request : ReadRequest) : Outcome Error (List UInt8) :=
  returnedData "multi-read data" request.res request.rbuf

/-- The request after its result and its buffer have been written to. -/
def fill (request : ReadRequest) (res rbuf : List UInt8) : ReadRequest where
  req := request.req
  res := .ofBytes res
  rbuf := overlay rbuf request.rbuf
  sized := by rw [length_overlay, request.sized]

/-- A buffer of the same size is taken over as it is. -/
theorem rbuf_fill {request : ReadRequest} {rbuf : List UInt8} (res : List UInt8)
    (same : rbuf.length = request.rbuf.length) : (request.fill res rbuf).rbuf = rbuf :=
  overlay_of_length_eq same

end ReadRequest

/-- A single request of `writeMulti`. -/
structure WriteRequest where
  req : IndexLength
  res : UInt32
  wbuf : List UInt8
  /-- The request announces as many bytes as its buffer holds. -/
  sized : req.length = UInt32.ofNat wbuf.length

namespace WriteRequest

/-- Create the request with given index group, index offset and input buffer. -/
def new (indexGroup indexOffset : UInt32) (buffer : List UInt8) : WriteRequest where
  req := ⟨indexGroup, indexOffset, UInt32.ofNat buffer.length⟩
  res := 0
  wbuf := buffer
  sized := rfl

/-- Verify that the data was successfully written. -/
def ensure (request : WriteRequest) : Outcome Error Unit :=
  if request.res ≠ 0 then .err (adsError "multi-write data" request.res) else .ok ()

/-- The request after its result has been written to. -/
def fill (request : WriteRequest) (res : List UInt8) : WriteRequest :=
  { request with res := leU32 res }

end WriteRequest

/-- A single request of `writeReadMulti`. -/
structure WriteReadRequest where
  req : IndexLengthRW
  res : ResultLength
  wbuf : List UInt8
  rbuf : List UInt8
  /-- The request asks for as many bytes as its result buffer holds. -/
  readSized : req.readLength = UInt32.ofNat rbuf.length
  /-- The request announces as many bytes as its input buffer holds. -/
  writeSized : req.writeLength = UInt32.ofNat wbuf.length

namespace WriteReadRequest

/-- Create the request with given index group, index offset and input and result
buffers. -/
def new (indexGroup indexOffset : UInt32) (writeBuffer readBuffer : List UInt8) :
    WriteReadRequest where
  req := ⟨indexGroup, indexOffset, UInt32.ofNat readBuffer.length,
    UInt32.ofNat writeBuffer.length⟩
  res := .newZeroed
  wbuf := writeBuffer
  rbuf := readBuffer
  readSized := rfl
  writeSized := rfl

/-- Get the actual returned data. -/
def data (request : WriteReadRequest) : Outcome Error (List UInt8) :=
  returnedData "multi-read/write data" request.res request.rbuf

/-- The request after its buffer has been written to. -/
def fillBuf (request : WriteReadRequest) (rbuf : List UInt8) : WriteReadRequest where
  req := request.req
  res := request.res
  wbuf := request.wbuf
  rbuf := overlay rbuf request.rbuf
  readSized := by rw [length_overlay, request.readSized]
  writeSized := request.writeSized

/-- A buffer of the same size is taken over as it is. -/
theorem rbuf_fillBuf {request : WriteReadRequest} {rbuf : List UInt8}
    (same : rbuf.length = request.rbuf.length) : (request.fillBuf rbuf).rbuf = rbuf :=
  overlay_of_length_eq same

/-- The request after its result and its buffer have been written to. -/
def fill (request : WriteReadRequest) (res rbuf : List UInt8) : WriteReadRequest :=
  { request.fillBuf rbuf with res := .ofBytes res }

end WriteReadRequest

/-! ## Data of the announced length -/

/-- A failed item reports its result code, whatever its buffer holds. -/
theorem returnedData_of_ne_zero {res : ResultLength} (failed : res.result ≠ 0)
    (action : String) (rbuf : List UInt8) :
    returnedData action res rbuf = .err (adsError action res.result) := by
  rw [returnedData, if_pos failed]

/-- A successful item returns the data that the front of its buffer holds. -/
theorem returnedData_of_eq_zero {res : ResultLength} {data rbuf : List UInt8}
    (succeeded : res.result = 0) (length : res.length.toNat = data.length)
    (fits : data.length ≤ rbuf.length) (front : rbuf.take data.length = data)
    (action : String) : returnedData action res rbuf = .ok data := by
  rw [returnedData, if_neg (not_not.mpr succeeded), length, if_pos fits, front]

theorem returnedData_eq_ok_iff {action : String} {res : ResultLength} {rbuf data : List UInt8} :
    returnedData action res rbuf = .ok data ↔
      res.result = 0 ∧ res.length.toNat ≤ rbuf.length ∧ data = rbuf.take res.length.toNat := by
  unfold returnedData
  split
  · rename_i failed
    simp [failed]
  · rename_i succeeded
    split
    · rename_i fits
      simp [not_not.mp succeeded, fits, eq_comm]
    · rename_i long
      simp [long]

end Ads.Client
