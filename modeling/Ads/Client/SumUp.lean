import Ads.Bytes.Reader
import Ads.Client.Multi

/-!
# What a server makes of a sum-up request

The items of a sum-up request as its server reads them, the layout of its reply,
and the servers that handle the items in order, each exactly as the single
request.
-/

namespace Ads.Client

open Ads.Bytes Ads.Bytes.Reader Ads.Control

/-- The kinds of sum-up request that read and write data. -/
inductive SumUp
  | readEx
  | write
  | readWrite
  deriving DecidableEq, Repr

/-- One item of a sum-up request. -/
structure Item where
  indexGroup : UInt32
  indexOffset : UInt32
  readLength : UInt32
  writeData : List UInt8
  deriving DecidableEq

/-- What the header of an item says. -/
def Item.head (item : Item) : IndexLengthRW where
  indexGroup := item.indexGroup
  indexOffset := item.indexOffset
  readLength := item.readLength
  writeLength := UInt32.ofNat item.writeData.length

/-- One item of a sum-up reply: its result code, the data that it returns, and the
block of the reply that carries the data. -/
structure Answer where
  code : UInt32
  data : List UInt8
  block : List UInt8
  deriving DecidableEq

/-- What the answer says of its result and its length. -/
def Answer.resultLength (answer : Answer) : ResultLength where
  result := answer.code
  length := UInt32.ofNat answer.data.length

namespace SumUp

/-- The index group that requests this kind. -/
def indexGroup : SumUp → UInt32
  | readEx => sumupReadEx
  | write => sumupWrite
  | readWrite => sumupReadwrite

/-- The command of a single request of this kind. -/
def command : SumUp → Command
  | readEx => .read
  | write => .write
  | readWrite => .readWrite

/-! ## Requests -/

/-- The header of one item. -/
def head : SumUp → Item → List UInt8
  | readEx, item => IndexLength.asBytes ⟨item.indexGroup, item.indexOffset, item.readLength⟩
  | write, item =>
      IndexLength.asBytes
        ⟨item.indexGroup, item.indexOffset, UInt32.ofNat item.writeData.length⟩
  | readWrite, item =>
      IndexLengthRW.asBytes
        ⟨item.indexGroup, item.indexOffset, item.readLength,
          UInt32.ofNat item.writeData.length⟩

/-- The payload of the single request for an item. -/
def singlePayload (kind : SumUp) (item : Item) : List UInt8 :=
  kind.head item ++ item.writeData

/-- The payload of the sum-up request for a list of items. -/
def payload (kind : SumUp) (readLength writeLength : UInt32) (items : List Item) :
    List UInt8 :=
  IndexLengthRW.asBytes
      ⟨kind.indexGroup, UInt32.ofNat items.length, readLength, writeLength⟩ ++
    (items.flatMap kind.head ++ items.flatMap (·.writeData))

/-- Read the header of one item.  A length that the kind does not have is zero. -/
def readHead : SumUp → Reader Unit IndexLengthRW
  | readEx => do
      let indexGroup ← u32 ()
      let indexOffset ← u32 ()
      let readLength ← u32 ()
      pure { indexGroup, indexOffset, readLength, writeLength := 0 }
  | write => do
      let indexGroup ← u32 ()
      let indexOffset ← u32 ()
      let writeLength ← u32 ()
      pure { indexGroup, indexOffset, readLength := 0, writeLength }
  | readWrite => do
      let indexGroup ← u32 ()
      let indexOffset ← u32 ()
      let readLength ← u32 ()
      let writeLength ← u32 ()
      pure { indexGroup, indexOffset, readLength, writeLength }

/-- Read the data to write behind the headers, and put the items together. -/
def readItems : List IndexLengthRW → Reader Unit (List Item)
  | [] => pure []
  | head :: heads => do
      let writeData ← take () head.writeLength.toNat
      let items ← readItems heads
      pure (⟨head.indexGroup, head.indexOffset, head.readLength, writeData⟩ :: items)

/-- Read a sum-up request of the given kind. -/
def readPayload (kind : SumUp) : Reader Unit (List Item) := do
  let indexGroup ← u32 ()
  let count ← u32 ()
  let _ ← u32 ()
  let _ ← u32 ()
  if indexGroup = kind.indexGroup then
    let heads ← repeatN kind.readHead count.toNat
    readItems heads
  else fail ()

/-- The items that a server finds in the payload of a request, if it is a sum-up
request of the given kind. -/
def items (kind : SumUp) (payload : List UInt8) : Option (List Item) :=
  match kind.readPayload payload with
  | .ok (items, []) => some items
  | _ => none

/-- The fields that the kind does not have are empty, and the data to write has a
length of 32 bits. -/
def Fits : SumUp → Item → Prop
  | readEx, item => item.writeData = []
  | write, item => item.readLength = 0 ∧ item.writeData.length < 2 ^ 32
  | readWrite, item => item.writeData.length < 2 ^ 32

/-! ## Replies -/

/-- What follows the result word in the reply to a successful single request. -/
def returned : SumUp → List UInt8 → List UInt8
  | write, _ => []
  | _, data => u32Bytes (UInt32.ofNat data.length) ++ data

/-- The reply to a single request says what the answer does: a code in the header,
or a result word and, if that is zero, the data. -/
def Returns (kind : SumUp) (reply : Reply) (answer : Answer) : Prop :=
  (reply.errorCode ≠ 0 ∧ answer.code = reply.errorCode) ∨
    (reply.errorCode = 0 ∧ ∃ rest, reply.payload = u32Bytes answer.code ++ rest ∧
      (answer.code = 0 → rest = kind.returned answer.data))

/-- The block of the sum-up reply that carries the data of an item: exactly the
returned bytes, or these padded to the requested length. -/
def Carries : SumUp → Item → Answer → Prop
  | readEx, item, answer =>
      answer.data <+: answer.block ∧ answer.block.length = item.readLength.toNat
  | write, _, answer => answer.block = []
  | readWrite, _, answer => answer.block = answer.data

/-- The result of one item in a sum-up reply. -/
def result : SumUp → Answer → List UInt8
  | write, answer => u32Bytes answer.code
  | _, answer => answer.resultLength.asBytes

/-- What follows the two words at the front of a sum-up reply: first all results,
then all blocks. -/
def content (kind : SumUp) (answers : List Answer) : List UInt8 :=
  answers.flatMap kind.result ++ answers.flatMap (·.block)

/-- The payload of a sum-up reply. -/
def replyPayload (kind : SumUp) (answers : List Answer) : List UInt8 :=
  u32Bytes 0 ++ (u32Bytes (UInt32.ofNat (kind.content answers).length) ++ kind.content answers)

/-! ## Reading a request back -/

theorem reads_readHead {kind : SumUp} {item : Item} (fits : kind.Fits item) :
    Reads kind.readHead (kind.head item) item.head := by
  cases kind with
  | readEx =>
      have noData : item.writeData = [] := fits
      have fields : Reads (readHead .readEx) (u32Bytes item.indexGroup ++
          (u32Bytes item.indexOffset ++ u32Bytes item.readLength)) item.head := by
        rw [Item.head, noData]
        exact (reads_u32 () _).bind ((reads_u32 () _).bind (reads_u32 () _).bind_pure)
      simpa [head, IndexLength.asBytes, List.append_assoc] using fields
  | write =>
      have noRead : item.readLength = 0 := fits.1
      have fields : Reads (readHead .write) (u32Bytes item.indexGroup ++
          (u32Bytes item.indexOffset ++ u32Bytes (UInt32.ofNat item.writeData.length)))
          item.head := by
        rw [Item.head, noRead]
        exact (reads_u32 () _).bind ((reads_u32 () _).bind (reads_u32 () _).bind_pure)
      simpa [head, IndexLength.asBytes, List.append_assoc] using fields
  | readWrite =>
      have fields : Reads (readHead .readWrite) (u32Bytes item.indexGroup ++
          (u32Bytes item.indexOffset ++ (u32Bytes item.readLength ++
            u32Bytes (UInt32.ofNat item.writeData.length)))) item.head :=
        (reads_u32 () _).bind ((reads_u32 () _).bind ((reads_u32 () _).bind
          (reads_u32 () _).bind_pure))
      simpa [head, IndexLengthRW.asBytes, List.append_assoc] using fields

/-- The length of the data to write fits its field. -/
theorem Fits.writeLength {kind : SumUp} {item : Item} (fits : kind.Fits item) :
    item.head.writeLength.toNat = item.writeData.length := by
  have bound : item.writeData.length < 2 ^ 32 := by
    cases kind with
    | readEx =>
        have noData : item.writeData = [] := fits
        simp [noData]
    | write => exact fits.2
    | readWrite => exact fits
  exact UInt32.toNat_ofNat_of_lt' bound

theorem reads_readItems {kind : SumUp} {items : List Item}
    (fits : ∀ item ∈ items, kind.Fits item) :
    Reads (readItems (items.map Item.head)) (items.flatMap (·.writeData)) items := by
  induction items with
  | nil => exact Reads.pure []
  | cons item items ih =>
      rcases List.forall_mem_cons.mp fits with ⟨itemFits, othersFit⟩
      have data : Reads (take () item.head.writeLength.toNat) item.writeData item.writeData := by
        rw [itemFits.writeLength]
        exact reads_take () item.writeData
      rw [List.map_cons, List.flatMap_cons]
      exact data.bind (ih othersFit).bind_pure

/-- A server finds in a sum-up request exactly the items that were put into it. -/
theorem items_payload {kind : SumUp} {items : List Item} (readLength writeLength : UInt32)
    (count : items.length < 2 ^ 32) (fits : ∀ item ∈ items, kind.Fits item) :
    kind.items (kind.payload readLength writeLength items) = some items := by
  have number : (UInt32.ofNat items.length).toNat = items.length :=
    UInt32.toNat_ofNat_of_lt' count
  have heads : Reads (repeatN kind.readHead (UInt32.ofNat items.length).toNat)
      (items.flatMap kind.head) (items.map Item.head) := by
    rw [number]
    exact reads_repeatN_map fun item member => reads_readHead (fits item member)
  have whole : Reads kind.readPayload (u32Bytes kind.indexGroup ++
      (u32Bytes (UInt32.ofNat items.length) ++ (u32Bytes readLength ++ (u32Bytes writeLength ++
        (items.flatMap kind.head ++ items.flatMap (·.writeData)))))) items := by
    apply (reads_u32 () _).bind
    apply (reads_u32 () _).bind
    apply (reads_u32 () _).bind
    apply (reads_u32 () _).bind
    rw [if_pos rfl]
    exact heads.bind (reads_readItems fits)
  have read := whole []
  rw [List.append_nil] at read
  rw [SumUp.items, payload, IndexLengthRW.asBytes, List.append_assoc, List.append_assoc,
    List.append_assoc, read]

end SumUp

/-! ## Servers -/

namespace Server

variable {S : Type}

/-- The single requests for the items, handled one after the other, are answered
so. -/
inductive AnswersInOrder (server : Server S) (kind : SumUp) :
    S → List Item → List Answer → S → Prop
  | nil (state : S) : AnswersInOrder server kind state [] [] state
  | cons {state middle last : S} {item : Item} {items : List Item} {answer : Answer}
      {answers : List Answer} {reply : Reply}
      (handled : server.handle state kind.command (kind.singlePayload item) = (middle, reply))
      (returns : kind.Returns reply answer)
      (fits : answer.data.length ≤ item.readLength.toNat)
      (carried : kind.Carries item answer)
      (others : AnswersInOrder server kind middle items answers last) :
      AnswersInOrder server kind state (item :: items) (answer :: answers) last

/-- A sum-up request that the server accepts is answered in the sum-up layout, with
its items handled in order exactly as the single requests. -/
def ServesSumUp (server : Server S) (kind : SumUp) : Prop :=
  ∀ state payload items after reply, kind.items payload = some items →
    server.handle state .readWrite payload = (after, reply) →
      reply.errorCode = 0 → leU32 reply.payload = 0 →
        ∃ answers, server.AnswersInOrder kind state items answers after ∧
          reply.payload = kind.replyPayload answers

end Server

end Ads.Client
