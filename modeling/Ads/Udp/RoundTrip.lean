import Mathlib.Data.List.Induction
import Ads.Udp.Getters

/-!
# What was built is what is parsed

A message that was built is a header with the number of calls, then the items as
a row.  The parser takes the row apart again and finds every payload where it
lies.  The index that the builder keeps has the two bytes of the length in front
of every payload, so that a built message and its parsed copy answer differently
for every tag that was added.
-/

namespace Ads.Udp

open Ads.Bytes Ads.Bytes.Reader Ads.Client Ads.Control Ads.Text

namespace Call

theorem length_payload_lt (call : Call) : call.payload.length < 2 ^ 16 := by
  cases call with
  | addBytes tag data bound =>
      rw [payload]
      omega
  | addStr tag data bound =>
      rw [payload, List.length_append, List.length_singleton]
      omega
  | addU32 tag data => simp [payload]

/-- The item that a call adds. -/
def item (call : Call) : Tagged where
  tag := call.tag.toU16
  payload := call.payload
  bound := call.length_payload_lt

theorem item_tag_eq_iff (call : Call) (tag : Tag) :
    call.item.tag = tag.toU16 ↔ call.tag = tag :=
  Tag.toU16_injective.eq_iff

/-- Every call pushes its item. -/
theorem run_eq_push (call : Call) (message : Message) :
    call.run message = message.push call.tag call.item.length call.payload := by
  cases call with
  | addBytes tag data bound => rfl
  | addStr tag data bound =>
      have room : UInt16.ofNat (utf8Bytes data).length ≠ 0xFFFF := by
        intro full
        have number := congrArg UInt16.toNat full
        have fits : (utf8Bytes data).length < 2 ^ 16 := by omega
        rw [UInt16.toNat_ofNat_of_lt' fits] at number
        have limit : (0xFFFF : UInt16).toNat = 65535 := rfl
        omega
      have terminated : UInt16.ofNat (utf8Bytes data).length + 1 =
          UInt16.ofNat ((utf8Bytes data ++ [0]).length) := by
        rw [List.length_append, List.length_singleton, UInt16.ofNat_add]
        rfl
      rw [run, Message.addStr, if_neg room, terminated]
      rfl
  | addU32 tag data =>
      have four : (4 : UInt16) = UInt16.ofNat (u32Bytes data).length := by
        rw [length_u32Bytes]
        rfl
      rw [run, Message.addU32, four]
      rfl

end Call

/-- The row of the items that these calls add. -/
def row (calls : List Call) : List UInt8 :=
  (calls.map Call.item).flatMap Tagged.bytes

/-- The header of a message with `count` items. -/
def countedHeader (service : ServiceId) (source : AmsAddr) (count : Nat) : UdpHeader :=
  { Message.header service source with numItems := UInt32.ofNat count }

/-- Patching the count keeps the rest of the header and what comes behind it. -/
theorem paste_asBytes (header : UdpHeader) (count : UInt32) (rest : List UInt8) :
    paste (header.asBytes ++ rest) 20 (u32Bytes count) =
      { header with numItems := count }.asBytes ++ rest := by
  have front : (u32Bytes header.magic ++ u32Bytes header.invokeId ++ u32Bytes header.service ++
      (header.srcNetid.octets ++ u16Bytes header.srcPort)).length = 20 := by
    simp [header.srcNetid.size]
  rw [UdpHeader.asBytes, UdpHeader.asBytes, List.append_assoc _ _ rest,
    List.append_assoc _ (u32Bytes count) rest, ← front]
  exact paste_append (by simp) rest

/-! ## What is built -/

/-- A message with these items: the row behind a header that counts it, and an index
with the range of every item from behind its tag on. -/
def built (service : ServiceId) (source : AmsAddr) (calls : List Call) : Message where
  items := Tagged.ranges 2 24 (calls.map Call.item)
  data := (countedHeader service source calls.length).asBytes ++ row calls

theorem row_cons (call : Call) (calls : List Call) :
    row (call :: calls) = call.item.bytes ++ row calls :=
  rfl

theorem row_append (first second : List Call) :
    row (first ++ second) = row first ++ row second := by
  rw [row, List.map_append, List.flatMap_append]
  rfl

/-- One more call makes the message with one more item. -/
theorem run_built (service : ServiceId) (source : AmsAddr) (calls : List Call) (call : Call) :
    call.run (built service source calls) = .ok (built service source (calls ++ [call])) := by
  have room : 24 ≤ ((countedHeader service source calls.length).asBytes ++ (row calls ++
      call.item.bytes)).length := by
    rw [List.length_append, UdpHeader.length_asBytes]
    exact Nat.le_add_right 24 _
  have bytes : row (calls ++ [call]) = row calls ++ call.item.bytes := by
    rw [row_append]
    simp [row]
  have appended : (built service source calls).data ++ u16Bytes call.tag.toU16 ++
      (u16Bytes call.item.length ++ call.payload) =
        (countedHeader service source calls.length).asBytes ++ (row calls ++ call.item.bytes) := by
    rw [built, Tagged.bytes]
    simp only [List.append_assoc]
    rfl
  have entry : Tagged.ranges 2 24 ((calls ++ [call]).map Call.item) =
      (built service source calls).items ++ [(call.tag.toU16,
        ((built service source calls).data ++ u16Bytes call.tag.toU16).length,
        ((built service source calls).data ++ u16Bytes call.tag.toU16 ++
          (u16Bytes call.item.length ++ call.payload)).length)] := by
    rw [List.map_append, Tagged.ranges_append, appended]
    simp [built, row, Tagged.ranges, Call.item]
    omega
  rw [Call.run_eq_push, Message.push, ← entry, appended, Message.writeCount, if_pos room,
    paste_asBytes, ← bytes, built]
  simp [countedHeader]

/-- The calls build the message with their items. -/
theorem build_eq (service : ServiceId) (source : AmsAddr) (calls : List Call) :
    build service source calls = .ok (built service source calls) := by
  induction calls using List.reverseRecOn with
  | nil => simp [build, built, row, Tagged.ranges, Message.new, countedHeader]; rfl
  | append_singleton calls call ih =>
      rw [build, List.foldlM_append]
      rw [build] at ih
      rw [ih]
      simp [run_built]

/-! ## What is parsed -/

theorem expected_countedHeader (service : ServiceId) (source : AmsAddr) (count : Nat) :
    (countedHeader service source count).Expected service.toU32 :=
  ⟨rfl, rfl, rfl⟩

/-- The parsed copy of a message with these items: the same bytes, and an index with the
range of every payload. -/
def parsed (service : ServiceId) (source : AmsAddr) (calls : List Call) : Message where
  items := Tagged.ranges 4 24 (calls.map Call.item)
  data := (countedHeader service source calls.length).asBytes ++ row calls

theorem carries_built (service : ServiceId) (source : AmsAddr) (calls : List Call) :
    Message.Carries service.toU32 (built service source calls).data (calls.map Call.item) [] := by
  refine ⟨countedHeader service source calls.length, expected_countedHeader _ _ _, ?_⟩
  rw [List.append_nil]
  rfl

theorem parse_built (service : ServiceId) (source : AmsAddr) (calls : List Call) :
    Message.parse (built service source calls).asBytes service false =
      .ok (parsed service source calls) := by
  have asked : service.toU32 ||| (if false = true then (0x80000000 : UInt32) else 0) =
      service.toU32 := by
    cases service <;> rfl
  rw [Message.parse, asked]
  exact (carries_built service source calls).accepted (by decide)

/-! ## Reading the items -/

/-- The first call with the tag. -/
def firstWith (calls : List Call) (tag : Tag) : Option Call :=
  calls.find? fun call => call.tag == tag

/-- Of the items that were added, the first with the tag is that of the first call with it. -/
theorem firstItem_map (calls : List Call) (tag : Tag) :
    firstItem (calls.map Call.item) tag = (firstWith calls tag).map Call.item := by
  have sameTag : ((fun item : Tagged => item.tag == tag.toU16) ∘ Call.item) =
      fun call => call.tag == tag := by
    funext call
    exact Bool.eq_iff_iff.mpr (by simp [call.item_tag_eq_iff])
  rw [firstItem, List.find?_map, sameTag, firstWith]

theorem firstWith_eq_none_iff {calls : List Call} {tag : Tag} :
    firstWith calls tag = none ↔ ∀ call ∈ calls, call.tag ≠ tag := by
  simp [firstWith, List.find?_eq_none]

/-- The parsed copy returns the payload. -/
theorem getBytes_parsed (service : ServiceId) (source : AmsAddr) (calls : List Call) (tag : Tag) :
    (parsed service source calls).getBytes tag =
      .ok ((firstWith calls tag).map Call.payload) := by
  have answer := (carries_built service source calls).getBytes_eq tag
  rw [firstItem_map, Option.map_map] at answer
  exact answer

/-- The built message has the length in front of every payload. -/
theorem mapTag_built {α : Type} (service : ServiceId) (source : AmsAddr) (calls : List Call)
    (tag : Tag) (map : List UInt8 → Outcome Error (Option α)) :
    (built service source calls).mapTag tag map =
      match firstWith calls tag with
      | some call => map (u16Bytes call.item.length ++ call.payload)
      | none => .ok none := by
  have answer := Message.mapTag_row (by omega : 2 ≤ 4) (countedHeader service source calls.length)
    (calls.map Call.item) [] tag map
  rw [List.append_nil, firstItem_map] at answer
  rw [built, row, answer]
  cases firstWith calls tag with
  | none => rfl
  | some call =>
      dsimp only [Option.map_some]
      rw [Tagged.bytes, List.drop_left' (length_u16Bytes call.item.tag)]
      rfl

theorem getBytes_built (service : ServiceId) (source : AmsAddr) (calls : List Call) (tag : Tag) :
    (built service source calls).getBytes tag =
      .ok ((firstWith calls tag).map fun call =>
        u16Bytes call.item.length ++ call.payload) := by
  rw [Message.getBytes, mapTag_built]
  cases firstWith calls tag <;> rfl

theorem getStr_parsed (service : ServiceId) (source : AmsAddr) {calls : List Call} {tag : Tag}
    {text : String} {bound : (utf8Bytes text).length ≤ 65534}
    (first : firstWith calls tag = some (.addStr tag text bound)) :
    (parsed service source calls).getStr tag = .ok (some text) := by
  have answer := (carries_built service source calls).getStr_eq tag
  have room : ¬(utf8Bytes text ++ [0]).length = 0 := by simp
  have cut : (utf8Bytes text ++ [0]).length - 1 = (utf8Bytes text).length := by simp
  have whole : Message.terminated (utf8Bytes text ++ [0]) = .ok (some text) := by
    rw [Message.terminated, if_neg room, cut, List.take_left, fromUtf8_utf8Bytes]
  rw [firstItem_map, first] at answer
  exact answer.trans whole

theorem getU32_parsed (service : ServiceId) (source : AmsAddr) {calls : List Call} {tag : Tag}
    {value : UInt32} (first : firstWith calls tag = some (.addU32 tag value)) :
    (parsed service source calls).getU32 tag = .ok (some value) := by
  have answer := (carries_built service source calls).getU32_eq tag
  have enough : ¬(u32Bytes value).length < 4 := by simp
  have read := leU32_u32Bytes_append value []
  rw [List.append_nil] at read
  have whole : Message.wordOf (u32Bytes value) = some value := by
    rw [Message.wordOf, if_neg enough, read]
  rw [firstItem_map, first] at answer
  exact answer.trans (congrArg Outcome.ok whole)

/-- The header says where the message came from. -/
theorem getSource_parsed (service : ServiceId) (source : AmsAddr) (calls : List Call) :
    (parsed service source calls).getSource = .ok source :=
  Message.getSource_header (countedHeader service source calls.length) _ (row calls)

/-- The header counts the calls, modulo its width. -/
theorem leU32_built (service : ServiceId) (source : AmsAddr) (calls : List Call) :
    leU32 ((built service source calls).asBytes.drop 20) = UInt32.ofNat calls.length := by
  have front : (u32Bytes beckhoffUdpMagic ++ u32Bytes 0 ++ u32Bytes service.toU32 ++
      (source.netid.octets ++ u16Bytes source.port)).length = 20 := by
    simp [source.netid.size]
  have whole : (built service source calls).asBytes =
      (u32Bytes beckhoffUdpMagic ++ u32Bytes 0 ++ u32Bytes service.toU32 ++
        (source.netid.octets ++ u16Bytes source.port)) ++
          (u32Bytes (UInt32.ofNat calls.length) ++ row calls) := by
    simp [Message.asBytes, built, countedHeader, Message.header, UdpHeader.asBytes,
      List.append_assoc]
  rw [whole, List.drop_left' front, leU32_u32Bytes_append]

/-- Where the payload of the `k`-th item begins. -/
def payloadStart (calls : List Call) (k : Nat) : Nat :=
  28 + ((calls.take k).map fun call => call.payload.length + 4).sum

theorem payloadStart_eq (calls : List Call) (k : Nat) :
    payloadStart calls k = 24 + (row (calls.take k)).length + 4 := by
  have sizes : (row (calls.take k)).length =
      ((calls.take k).map fun call => call.payload.length + 4).sum := by
    rw [row, List.length_flatMap, List.map_map]
    exact congrArg List.sum (List.map_congr_left fun call _ => call.item.length_bytes)
  rw [payloadStart, sizes]
  omega

/-- The parsed index has the items in order, each with the range of its payload. -/
theorem getElem?_parsed (service : ServiceId) (source : AmsAddr) (calls : List Call) (k : Nat) :
    (parsed service source calls).items[k]? = (calls[k]?).map fun call =>
      (call.tag.toU16, payloadStart calls k, payloadStart calls k + call.payload.length) := by
  rw [parsed, Tagged.getElem?_ranges, List.getElem?_map, Option.map_map]
  congr 1
  funext call
  have same : ((calls.map Call.item).take k).flatMap Tagged.bytes = row (calls.take k) := by
    rw [row, List.map_take]
  rw [Function.comp_apply, same, payloadStart_eq, Tagged.length_bytes, Call.item]
  dsimp only
  congr 2
  omega

/-- The range of an item holds its payload. -/
theorem subslice_parsed (service : ServiceId) (source : AmsAddr) {calls : List Call} {k : Nat}
    {call : Call} (added : calls[k]? = some call) :
    (subslice (parsed service source calls).data (payloadStart calls k)
      (payloadStart calls k + call.payload.length) : Outcome Error _) = .ok call.payload := by
  have split : row calls =
      row (calls.take k) ++ (call.item.bytes ++ row (calls.drop (k + 1))) := by
    obtain ⟨bound, rfl⟩ := List.getElem?_eq_some_iff.mp added
    have parts : calls = calls.take k ++ (calls[k] :: calls.drop (k + 1)) := by
      rw [List.getElem_cons_drop, List.take_append_drop]
    conv_lhs => rw [parts]
    rw [row_append, row_cons]
  have front : ((countedHeader service source calls.length).asBytes ++
      row (calls.take k)).length = 24 + (row (calls.take k)).length := by
    rw [List.length_append, UdpHeader.length_asBytes]
  have ranged := @Tagged.subslice_range Error 4
    ((countedHeader service source calls.length).asBytes ++ row (calls.take k)) call.item
    (row (calls.drop (k + 1))) (by simp)
  rw [front, List.append_assoc, ← split, Tagged.drop_bytes, Tagged.length_bytes] at ranged
  have stop : 24 + (row (calls.take k)).length + 4 + call.payload.length =
      24 + (row (calls.take k)).length + (call.item.payload.length + 4) := by
    rw [show call.item.payload = call.payload from rfl]
    omega
  rw [payloadStart_eq, stop]
  exact ranged

/-- A parsed message is the message that was built: the same source, the items in order
with the ranges of their payloads, for every tag the data of the first item with it, and
a header that counts the calls modulo `2 ^ 32`. -/
theorem parse_build (service : ServiceId) (source : AmsAddr) (calls : List Call) :
    ∃ message copy, build service source calls = .ok message ∧
      Message.parse message.asBytes service false = .ok copy ∧
      copy.getSource = .ok source ∧
      (∀ k : Nat, copy.items[k]? = (calls[k]?).map fun call =>
        (call.tag.toU16, payloadStart calls k, payloadStart calls k + call.payload.length)) ∧
      (∀ (k : Nat) (call : Call), calls[k]? = some call →
        (subslice copy.data (payloadStart calls k) (payloadStart calls k + call.payload.length) :
          Outcome Error _) = .ok call.payload) ∧
      (∀ tag, copy.getBytes tag = .ok ((firstWith calls tag).map Call.payload)) ∧
      (∀ tag text bound, firstWith calls tag = some (.addStr tag text bound) →
        copy.getStr tag = .ok (some text)) ∧
      (∀ tag value, firstWith calls tag = some (.addU32 tag value) →
        copy.getU32 tag = .ok (some value)) ∧
      (leU32 (message.asBytes.drop 20)).toNat = calls.length % 2 ^ 32 := by
  refine ⟨built service source calls, parsed service source calls, build_eq service source calls,
    parse_built service source calls, getSource_parsed service source calls,
    getElem?_parsed service source calls, ?_, getBytes_parsed service source calls, ?_, ?_, ?_⟩
  · intro k call added
    exact subslice_parsed service source added
  · intro tag text bound first
    exact getStr_parsed service source first
  · intro tag value first
    exact getU32_parsed service source first
  · rw [leU32_built, UInt32.toNat_ofNat']

/-- After `2 ^ 32` calls the header counts none. -/
theorem longMessage_uncounted :
    ∃ message, build .identify ⟨.localId, 851⟩
        (List.replicate (2 ^ 32) (.addBytes .status [] (by decide))) = .ok message ∧
      (leU32 (message.asBytes.drop 20)).toNat ≠
        (List.replicate (2 ^ 32) (Call.addBytes .status [] (by decide))).length := by
  refine ⟨_, build_eq _ _ _, ?_⟩
  rw [leU32_built, UInt32.toNat_ofNat', List.length_replicate]
  decide

/-- The built message and its parsed copy answer alike for exactly the tags that no item was
added with. -/
theorem answersAlike_iff (service : ServiceId) (source : AmsAddr) (calls : List Call)
    (tag : Tag) :
    ∃ message copy, build service source calls = .ok message ∧
      Message.parse message.asBytes service false = .ok copy ∧
      ((message.getBytes tag = copy.getBytes tag ∧ message.getStr tag = copy.getStr tag ∧
        message.getU32 tag = copy.getU32 tag) ↔ ∀ call ∈ calls, call.tag ≠ tag) := by
  refine ⟨built service source calls, parsed service source calls, build_eq service source calls,
    parse_built service source calls, ?_⟩
  rw [← firstWith_eq_none_iff]
  constructor
  · rintro ⟨sameBytes, -, -⟩
    rw [getBytes_built, getBytes_parsed] at sameBytes
    cases first : firstWith calls tag with
    | none => rfl
    | some call =>
        -- The two bytes of the length make the built message's answer longer.
        rw [first] at sameBytes
        have lengths := congrArg List.length (Option.some.inj (Outcome.ok.inj sameBytes))
        rw [List.length_append, length_u16Bytes] at lengths
        omega
  · intro absent
    have carries := carries_built service source calls
    have str := carries.getStr_eq tag
    have word := carries.getU32_eq tag
    rw [firstItem_map, absent] at str word
    constructor
    · rw [getBytes_built, getBytes_parsed, absent]
      rfl
    · constructor
      · rw [Message.getStr, mapTag_built, absent]
        exact str.symm
      · rw [Message.getU32, mapTag_built, absent]
        exact word.symm

/-- A status that reads `7` in the parsed copy reads `0x70004` in the message that was
built. -/
theorem statusMessage_differs :
    ∃ message copy, build .addRoute ⟨.localId, 0⟩ [.addU32 .status 7] = .ok message ∧
      Message.parse message.asBytes .addRoute false = .ok copy ∧
      message.getU32 .status = .ok (some 0x70004) ∧ copy.getU32 .status = .ok (some 7) :=
  ⟨built .addRoute ⟨.localId, 0⟩ [.addU32 .status 7],
    parsed .addRoute ⟨.localId, 0⟩ [.addU32 .status 7], build_eq _ _ _, parse_built _ _ _,
    by decide +kernel, by decide +kernel⟩

end Ads.Udp
