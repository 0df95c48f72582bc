import Ads.Udp.Parsing

/-!
# What a message answers

The getters look for the first item with their tag.  On an accepted message they
find its payload where the index says, however the items follow one another.
-/

namespace Ads.Udp

open Ads.Bytes Ads.Bytes.Reader Ads.Client Ads.Control Ads.Text

/-- The first item with the tag. -/
def firstItem (items : List Tagged) (tag : Tag) : Option Tagged :=
  items.find? fun item => item.tag == tag.toU16

namespace Message

/-- Looking up a tag in an index with `skip` bytes left out gives those bytes of the first
item with the tag. -/
theorem mapTag_row {α : Type} {skip : Nat} (inside : skip ≤ 4) (header : UdpHeader)
    (items : List Tagged) (place : List UInt8) (tag : Tag)
    (map : List UInt8 → Outcome Error (Option α)) :
    mapTag ⟨Tagged.ranges skip 24 items,
        header.asBytes ++ (items.flatMap Tagged.bytes ++ place)⟩ tag map =
      match firstItem items tag with
      | some item => map (item.bytes.drop skip)
      | none => .ok none := by
  rw [mapTag, firstItem]
  dsimp only
  cases found : items.find? fun item => item.tag == tag.toU16 with
  | none => rw [Tagged.find?_ranges_of_none skip 24 found]
  | some item =>
      obtain ⟨⟨number, i, j⟩, entry, sliced⟩ := @Tagged.find?_ranges_of_some Error _ _ _ skip
        header.asBytes place inside found
      rw [UdpHeader.length_asBytes] at entry
      rw [entry]
      dsimp only at sliced ⊢
      rw [sliced, Outcome.ok_bind]

/-- The text of a payload with a terminator. -/
def terminated (payload : List UInt8) : Outcome Error (Option String) :=
  if payload.length = 0 then .panic else .ok (fromUtf8 (payload.take (payload.length - 1)))

/-- The word in front of a payload, if it has one. -/
def wordOf (payload : List UInt8) : Option UInt32 :=
  if payload.length < 4 then none else some (leU32 payload)

variable {expService : UInt32} {data place : List UInt8} {items : List Tagged}

theorem Carries.mapTag_eq {α : Type} (carries : Carries expService data items place) (tag : Tag)
    (map : List UInt8 → Outcome Error (Option α)) :
    mapTag ⟨Tagged.ranges 4 24 items, data⟩ tag map =
      match firstItem items tag with
      | some item => map item.payload
      | none => .ok none := by
  obtain ⟨header, -, rfl⟩ := carries
  rw [mapTag_row (Nat.le_refl 4)]
  cases firstItem items tag with
  | none => rfl
  | some item =>
      dsimp only
      rw [item.drop_bytes]

theorem Carries.getBytes_eq (carries : Carries expService data items place) (tag : Tag) :
    getBytes ⟨Tagged.ranges 4 24 items, data⟩ tag =
      .ok ((firstItem items tag).map Tagged.payload) := by
  rw [getBytes, carries.mapTag_eq]
  cases firstItem items tag <;> rfl

theorem Carries.getStr_eq (carries : Carries expService data items place) (tag : Tag) :
    getStr ⟨Tagged.ranges 4 24 items, data⟩ tag =
      match firstItem items tag with
      | some item => terminated item.payload
      | none => .ok none := by
  rw [getStr, carries.mapTag_eq]
  rfl

theorem Carries.getU32_eq (carries : Carries expService data items place) (tag : Tag) :
    getU32 ⟨Tagged.ranges 4 24 items, data⟩ tag =
      .ok ((firstItem items tag).bind fun item => wordOf item.payload) := by
  rw [getU32, carries.mapTag_eq]
  cases firstItem items tag with
  | none => rfl
  | some item =>
      rw [Option.bind_some, wordOf]
      dsimp only
      by_cases short : item.payload.length < 4
      · rw [u32_run_short () short, if_pos short]
      · rw [u32_run () (Nat.le_of_not_lt short), if_neg short]

/-- The source is where the header says. -/
theorem getSource_header (header : UdpHeader) (items : List (UInt16 × Nat × Nat))
    (behind : List UInt8) :
    getSource ⟨items, header.asBytes ++ behind⟩ = .ok ⟨header.srcNetid, header.srcPort⟩ := by
  have front : (u32Bytes header.magic ++ u32Bytes header.invokeId ++
      u32Bytes header.service).length = 12 := by
    simp
  have middle : (header.srcNetid.octets ++ u16Bytes header.srcPort).length = 8 := by
    simp [header.srcNetid.size]
  have address := @subslice_append Error _
    (u32Bytes header.magic ++ u32Bytes header.invokeId ++ u32Bytes header.service)
    (header.srcNetid.octets ++ u16Bytes header.srcPort) (u32Bytes header.numItems ++ behind)
  rw [front, middle] at address
  have whole : header.asBytes ++ behind =
      (u32Bytes header.magic ++ u32Bytes header.invokeId ++ u32Bytes header.service) ++
        ((header.srcNetid.octets ++ u16Bytes header.srcPort) ++
          (u32Bytes header.numItems ++ behind)) := by
    simp [UdpHeader.asBytes, List.append_assoc]
  have read : Reads (expect (readAmsAddr ()) : Reader Error AmsAddr)
      (header.srcNetid.octets ++ u16Bytes header.srcPort) ⟨header.srcNetid, header.srcPort⟩ :=
    (reads_amsAddr () ⟨header.srcNetid, header.srcPort⟩).expect
  have alone := read.runOn []
  rw [List.append_nil] at alone
  rw [getSource, whole, address, Outcome.ok_bind, alone]

end Message

end Ads.Udp
