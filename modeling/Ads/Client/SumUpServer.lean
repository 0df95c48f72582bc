import Ads.Client.SumUp

/-!
# Servers made from the handling of single items

A server that knows how to handle one item serves single requests and sum-up
requests alike: it handles the items of a sum-up request in order, and refuses a
request whose items are sum-up requests themselves.
-/

namespace Ads.Client

open Ads.Bytes Ads.Bytes.Reader Ads.Control

namespace SumUp

instance (kind : SumUp) (item : Item) : Decidable (kind.Fits item) :=
  match kind with
  | readEx => inferInstanceAs (Decidable (item.writeData = []))
  | write => inferInstanceAs
      (Decidable (item.readLength = 0 ∧ item.writeData.length < 2 ^ 32))
  | readWrite => inferInstanceAs (Decidable (item.writeData.length < 2 ^ 32))

/-- The item of a single request. -/
def single (kind : SumUp) (payload : List UInt8) : Option Item :=
  match kind.readHead payload with
  | .ok (head, data) =>
      if data.length = head.writeLength.toNat then
        some ⟨head.indexGroup, head.indexOffset, head.readLength, data⟩
      else none
  | _ => none

/-- The kind of a sum-up request, and its items. -/
def parse (payload : List UInt8) : Option (SumUp × List Item) :=
  match readEx.items payload with
  | some items => some (.readEx, items)
  | none =>
      match write.items payload with
      | some items => some (.write, items)
      | none => (readWrite.items payload).map fun items => (.readWrite, items)

/-- An item that is not a sum-up request itself. -/
def Plain (item : Item) : Prop :=
  item.indexGroup ∉ [sumupReadEx, sumupWrite, sumupReadwrite]

instance (item : Item) : Decidable (Plain item) :=
  inferInstanceAs (Decidable (item.indexGroup ∉ [sumupReadEx, sumupWrite, sumupReadwrite]))

/-- The answer to an item, from its result code and the data that there is for it. -/
def answer (kind : SumUp) (item : Item) (code : UInt32) (available : List UInt8) : Answer :=
  let data := available.take item.readLength.toNat
  { code
    data
    block :=
      match kind with
      | readEx => data ++ List.replicate (item.readLength.toNat - data.length) 0
      | write => []
      | readWrite => data }

/-- The reply to a single request. -/
def singleReply (kind : SumUp) (answer : Answer) : Reply :=
  if answer.code ≠ 0 then ⟨answer.code, []⟩
  else ⟨0, u32Bytes 0 ++ kind.returned answer.data⟩

theorem single_singlePayload {kind : SumUp} {item : Item} (fits : kind.Fits item) :
    kind.single (kind.singlePayload item) = some item := by
  have head := reads_readHead fits item.writeData
  rw [single, singlePayload, head]
  exact if_pos fits.writeLength.symm

/-- A sum-up request begins with the index group of its kind. -/
theorem group_of_items {kind : SumUp} {payload : List UInt8} {items : List Item}
    (found : kind.items payload = some items) :
    ∃ rest, u32 () payload = .ok (kind.indexGroup, rest) := by
  unfold SumUp.items at found
  split at found
  · rename_i read
    rw [readPayload] at read
    rcases bind_run_eq_ok_iff.mp read with ⟨indexGroup, rest, group, read⟩
    rcases bind_run_eq_ok_iff.mp read with ⟨_, _, _, read⟩
    rcases bind_run_eq_ok_iff.mp read with ⟨_, _, _, read⟩
    rcases bind_run_eq_ok_iff.mp read with ⟨_, _, _, read⟩
    split at read
    · rename_i same
      exact ⟨rest, same ▸ group⟩
    · cases read
  · cases found

theorem indexGroup_injective : Function.Injective indexGroup := by
  intro first second same
  cases first <;> cases second <;> first | rfl | exact absurd same (by decide)

/-- A request is a sum-up of one kind at most. -/
theorem items_eq_none_of_ne {kind other : SumUp} {payload : List UInt8} {items : List Item}
    (found : kind.items payload = some items) (differs : other ≠ kind) :
    other.items payload = none := by
  cases otherFound : other.items payload with
  | none => rfl
  | some otherItems =>
      rcases group_of_items found with ⟨rest, group⟩
      rcases group_of_items otherFound with ⟨otherRest, otherGroup⟩
      rw [group, Outcome.ok.injEq, Prod.mk.injEq] at otherGroup
      exact absurd (indexGroup_injective otherGroup.1).symm differs

theorem parse_of_items {kind : SumUp} {payload : List UInt8} {items : List Item}
    (found : kind.items payload = some items) : parse payload = some (kind, items) := by
  cases kind with
  | readEx => rw [parse, found]
  | write => rw [parse, items_eq_none_of_ne found (by decide), found]
  | readWrite =>
      rw [parse, items_eq_none_of_ne found (by decide), items_eq_none_of_ne found (by decide),
        found]
      rfl

theorem group_of_singlePayload (item : Item) :
    ∃ rest, u32 () (readWrite.singlePayload item) = .ok (item.indexGroup, rest) := by
  rw [singlePayload, head, IndexLengthRW.asBytes, List.append_assoc, List.append_assoc,
    List.append_assoc]
  exact ⟨_, reads_u32 () item.indexGroup _⟩

/-- The single request of a plain item is no sum-up request. -/
theorem parse_singlePayload {item : Item} (plain : Plain item) :
    parse (readWrite.singlePayload item) = none := by
  have begins : ∀ kind : SumUp, kind.items (readWrite.singlePayload item) = none := by
    intro kind
    cases found : kind.items (readWrite.singlePayload item) with
    | none => rfl
    | some items =>
        rcases group_of_items found with ⟨rest, group⟩
        rcases group_of_singlePayload item with ⟨otherRest, own⟩
        rw [own, Outcome.ok.injEq, Prod.mk.injEq] at group
        have isSumUp : item.indexGroup ∈ [sumupReadEx, sumupWrite, sumupReadwrite] := by
          rw [group.1]
          cases kind <;> simp [indexGroup]
        exact absurd isSumUp plain
  rw [parse, begins, begins, begins]
  rfl

theorem returns_singleReply (kind : SumUp) (answer : Answer) :
    kind.Returns (kind.singleReply answer) answer := by
  unfold singleReply
  split
  · rename_i failed
    exact .inl ⟨failed, rfl⟩
  · rename_i noCode
    refine .inr ⟨rfl, kind.returned answer.data, ?_, fun _ => rfl⟩
    rw [not_not.mp noCode]

theorem carries_answer (kind : SumUp) (item : Item) (code : UInt32) (available : List UInt8) :
    kind.Carries item (kind.answer item code available) := by
  cases kind with
  | readEx =>
      refine ⟨List.prefix_append _ _, ?_⟩
      simp only [answer, List.length_append, List.length_replicate, List.length_take]
      omega
  | write => rfl
  | readWrite => rfl

end SumUp

variable {S : Type}

/-- How a server handles one item: its new state, the result code, and the data that
there is for it. -/
abbrev ItemHandler (S : Type) : Type :=
  S → SumUp → Item → S × UInt32 × List UInt8

namespace ItemHandler

variable (handler : ItemHandler S)

/-- Handle one item. -/
def handleOne (state : S) (kind : SumUp) (item : Item) : S × Answer :=
  let (after, code, available) := handler state kind item
  (after, kind.answer item code available)

/-- Handle items in order. -/
def handleAll (kind : SumUp) : S → List Item → S × List Answer
  | state, [] => (state, [])
  | state, item :: items =>
      let (middle, answer) := handler.handleOne state kind item
      let (after, answers) := handleAll kind middle items
      (after, answer :: answers)

/-- Serve a single request. -/
def serveSingle (kind : SumUp) (state : S) (payload : List UInt8) : S × Reply :=
  match kind.single payload with
  | some item =>
      let (after, answer) := handler.handleOne state kind item
      (after, kind.singleReply answer)
  | none => (state, ⟨0x706, []⟩)

/-- The server that handles single items so. -/
def server : Server S where
  handle state cmd payload :=
    match cmd with
    | .read => handler.serveSingle .readEx state payload
    | .write => handler.serveSingle .write state payload
    | .readWrite =>
        match SumUp.parse payload with
        | some (kind, items) =>
            if ∀ item ∈ items, SumUp.Plain item ∧ kind.Fits item then
              let (after, answers) := handler.handleAll kind state items
              (after, ⟨0, kind.replyPayload answers⟩)
            else (state, ⟨0x705, []⟩)
        | none => handler.serveSingle .readWrite state payload
    | _ => (state, ⟨0x701, []⟩)

theorem handle_singlePayload {kind : SumUp} {item : Item} (plain : SumUp.Plain item)
    (fits : kind.Fits item) (state : S) :
    handler.server.handle state kind.command (kind.singlePayload item) =
      ((handler.handleOne state kind item).1,
        kind.singleReply (handler.handleOne state kind item).2) := by
  have served : handler.serveSingle kind state (kind.singlePayload item) =
      ((handler.handleOne state kind item).1,
        kind.singleReply (handler.handleOne state kind item).2) := by
    rw [serveSingle, SumUp.single_singlePayload fits]
  cases kind with
  | readEx => exact served
  | write => exact served
  | readWrite =>
      rw [← served]
      simp only [server, SumUp.command, SumUp.parse_singlePayload plain]

theorem handleAll_answersInOrder {kind : SumUp} {items : List Item}
    (served : ∀ item ∈ items, SumUp.Plain item ∧ kind.Fits item) (state : S) :
    handler.server.AnswersInOrder kind state items (handler.handleAll kind state items).2
      (handler.handleAll kind state items).1 := by
  induction items generalizing state with
  | nil => exact .nil state
  | cons item items ih =>
      rcases List.forall_mem_cons.mp served with ⟨⟨plain, fits⟩, others⟩
      apply Server.AnswersInOrder.cons (handler.handle_singlePayload plain fits state)
      · exact SumUp.returns_singleReply _ _
      · exact List.length_take_le _ _
      · exact SumUp.carries_answer _ _ _ _
      · exact ih others _

/-- The server handles the items of every sum-up request in order. -/
theorem server_servesSumUp (kind : SumUp) : handler.server.ServesSumUp kind := by
  intro state payload items after reply found handled code result
  have reply_eq : handler.server.handle state .readWrite payload =
      if ∀ item ∈ items, SumUp.Plain item ∧ kind.Fits item then
        ((handler.handleAll kind state items).1,
          ⟨0, kind.replyPayload (handler.handleAll kind state items).2⟩)
      else (state, ⟨0x705, []⟩) := by
    simp only [server, SumUp.parse_of_items found]
  rw [reply_eq] at handled
  split at handled
  · rename_i served
    cases handled
    exact ⟨_, handler.handleAll_answersInOrder served state, rfl⟩
  · cases handled
    exact absurd code (by decide)

end ItemHandler

end Ads.Client
