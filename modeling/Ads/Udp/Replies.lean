import Ads.Bytes.Cursor
import Ads.Udp.Queries

/-!
# Reading replies

What a query reads of a reply is there or it is not.  The one read that panics is
that of a text in an item of no bytes, which has no room for its terminator.
-/

namespace Ads.Udp

open Ads.Bytes Ads.Bytes.Reader Ads.Client Ads.Control Ads.Text

/-- The text of a payload without its last byte. -/
def textOf (payload : List UInt8) : Option String :=
  if payload.length = 0 then none else fromUtf8 (payload.take (payload.length - 1))

/-- The word at an index of a structure. -/
def wordAt (bytes : List UInt8) (index : Nat) : UInt32 :=
  UInt32.ofNat (leValue (window bytes (4 * index) 4))

/-! ## Versions -/

theorem element_of_lt {α : Type} {slice : List α} {i : Nat} (within : i < slice.length) :
    ∃ value, element slice i = .ok value := by
  rw [element, List.getElem?_eq_getElem within]
  exact ⟨slice[i], rfl⟩

/-- Behind its guard, the TwinCAT version is there. -/
theorem parseTwincatVersion_returns (tcver : List UInt8) :
    ∃ version, parseTwincatVersion tcver = .ok version := by
  rw [parseTwincatVersion]
  split
  · rename_i enough
    obtain ⟨major, first⟩ := element_of_lt (show 0 < tcver.length by omega)
    obtain ⟨minor, second⟩ := element_of_lt (show 1 < tcver.length by omega)
    rw [subslice, if_pos ⟨by decide, enough⟩, Outcome.ok_bind, first, Outcome.ok_bind, second,
      Outcome.ok_bind]
    exact ⟨_, rfl⟩
  · exact ⟨_, rfl⟩

/-- The fixed part of the structure takes 20 bytes, and the service pack is behind it. -/
theorem readOsVersion_run {bytes : List UInt8} (enough : 20 ≤ bytes.length) :
    readOsVersion.runOn bytes =
      .ok (platformName (wordAt bytes 4), wordAt bytes 1, wordAt bytes 2, wordAt bytes 3,
        servicePack (platformName (wordAt bytes 4)) (bytes.drop 20)) := by
  have word (index : Nat) (within : index < 5) :
      (expect (u32 ()) : Reader Error UInt32) (bytes.drop (4 * index)) =
        .ok (wordAt bytes index, bytes.drop (4 * (index + 1))) :=
    (readsWord_u32 ()).expect.run_drop (by omega)
  have ran : readOsVersion (bytes.drop (4 * 0)) = .ok ((platformName (wordAt bytes 4),
      wordAt bytes 1, wordAt bytes 2, wordAt bytes 3,
      servicePack (platformName (wordAt bytes 4)) (bytes.drop 20)), []) := by
    rw [readOsVersion, bind_run_ok (word 0 (by decide)), bind_run_ok (word 1 (by decide)),
      bind_run_ok (word 2 (by decide)), bind_run_ok (word 3 (by decide)),
      bind_run_ok (word 4 (by decide))]
    rfl
  exact runOn_eq_ok_iff.mpr ⟨[], ran⟩

/-- Behind its guard, the structure of the OS version is long enough. -/
theorem parseOsVersion_returns (osver : Option (List UInt8)) :
    ∃ version, parseOsVersion osver = .ok version := by
  cases osver with
  | none => exact ⟨_, rfl⟩
  | some bytes =>
      rw [parseOsVersion]
      split
      · rename_i enough
        exact ⟨_, readOsVersion_run (Nat.le_trans (by decide) enough)⟩
      · exact ⟨_, rfl⟩

/-! ## Getters -/

variable {expService : UInt32} {data place : List UInt8} {items : List Tagged}

namespace Message

theorem terminated_eq_panic_iff {payload : List UInt8} :
    terminated payload = .panic ↔ payload = [] := by
  rw [terminated]
  split
  · rename_i empty
    exact iff_of_true rfl (List.length_eq_zero_iff.mp empty)
  · rename_i filled
    exact iff_of_false (Outcome.ok_ne_panic _) fun empty => filled (empty ▸ rfl)

theorem terminated_of_ne_nil {payload : List UInt8} (filled : payload ≠ []) :
    terminated payload = .ok (textOf payload) := by
  have size : ¬payload.length = 0 := fun empty => filled (List.length_eq_zero_iff.mp empty)
  rw [terminated, textOf, if_neg size, if_neg size]

/-- Reading a text panics exactly if the item is there and has no bytes. -/
theorem Carries.getStr_eq_panic_iff (carries : Carries expService data items place) (tag : Tag) :
    getStr ⟨Tagged.ranges 4 24 items, data⟩ tag = .panic ↔
      ∃ item, firstItem items tag = some item ∧ item.payload = [] := by
  rw [carries.getStr_eq]
  cases firstItem items tag with
  | none =>
      constructor
      · intro panicked
        contradiction
      · rintro ⟨item, ⟨⟩, -⟩
  | some item =>
      dsimp only
      rw [terminated_eq_panic_iff]
      constructor
      · intro empty
        exact ⟨item, rfl, empty⟩
      · rintro ⟨other, ⟨⟩, empty⟩
        exact empty

/-- Otherwise it returns the text of the item, if there is one. -/
theorem Carries.getStr_of_ne_nil (carries : Carries expService data items place) {tag : Tag}
    (filled : ∀ item, firstItem items tag = some item → item.payload ≠ []) :
    getStr ⟨Tagged.ranges 4 24 items, data⟩ tag =
      .ok ((firstItem items tag).bind fun item => textOf item.payload) := by
  rw [carries.getStr_eq]
  cases first : firstItem items tag with
  | none => rfl
  | some item => exact terminated_of_ne_nil (filled item first)

theorem Carries.getStr_cases (carries : Carries expService data items place) (tag : Tag) :
    getStr ⟨Tagged.ranges 4 24 items, data⟩ tag = .panic ∨
      ∃ text, getStr ⟨Tagged.ranges 4 24 items, data⟩ tag = .ok text := by
  by_cases empty : ∃ item, firstItem items tag = some item ∧ item.payload = []
  · exact Or.inl ((carries.getStr_eq_panic_iff tag).mpr empty)
  · exact Or.inr ⟨_, carries.getStr_of_ne_nil fun item first nil => empty ⟨item, first, nil⟩⟩

/-- Every accepted message has a source. -/
theorem Carries.getSource_returns (carries : Carries expService data items place)
    (index : List (UInt16 × Nat × Nat)) : ∃ addr, getSource ⟨index, data⟩ = .ok addr := by
  obtain ⟨header, -, rfl⟩ := carries
  exact ⟨_, getSource_header header _ _⟩

end Message

/-! ## Queries -/

/-- Asking for the status of a route never panics. -/
theorem readStatus_ne_panic (carries : Message.Carries expService data items place) :
    readStatus ⟨Tagged.ranges 4 24 items, data⟩ ≠ .panic := by
  rw [readStatus, carries.getU32_eq, Outcome.ok_bind]
  split
  · exact Outcome.err_ne_panic _
  · split
    · exact Outcome.ok_ne_panic _
    · exact Outcome.err_ne_panic _

/-- Reading what a system says about itself panics exactly if its name or its fingerprint
is an item of no bytes. -/
theorem readInfo_eq_panic_iff (carries : Message.Carries expService data items place) :
    readInfo ⟨Tagged.ranges 4 24 items, data⟩ = .panic ↔
      (∃ item, firstItem items .computerName = some item ∧ item.payload = []) ∨
        ∃ item, firstItem items .fingerprint = some item ∧ item.payload = [] := by
  obtain ⟨twincatVersion, tcver⟩ :=
    parseTwincatVersion_returns (((firstItem items .tcVersion).map Tagged.payload).getD [])
  obtain ⟨osVersion, osver⟩ :=
    parseOsVersion_returns ((firstItem items .osVersion).map Tagged.payload)
  obtain ⟨source, read⟩ := carries.getSource_returns (Tagged.ranges 4 24 items)
  rw [← carries.getStr_eq_panic_iff, ← carries.getStr_eq_panic_iff, readInfo,
    carries.getBytes_eq, Outcome.ok_bind, tcver, Outcome.ok_bind, carries.getBytes_eq,
    Outcome.ok_bind, osver, Outcome.ok_bind, read, Outcome.ok_bind, Outcome.bind_eq_panic_iff]
  rcases carries.getStr_cases .computerName with panicked | ⟨hostname, name⟩
  · simp [panicked]
  · rcases carries.getStr_cases .fingerprint with panicked | ⟨fingerprint, print⟩
    · simp [name, panicked]
    · simp [name, print]

/-- Whatever is read of a message returns: the item with the tag in the form that is asked
for, if it is there and has that form, and the result of a query that gets the message as
its reply. -/
structure Readable (message : Message) (items : List Tagged) : Prop where
  bytes : ∀ tag, message.getBytes tag = .ok ((firstItem items tag).map Tagged.payload)
  str : ∀ tag, message.getStr tag = .ok ((firstItem items tag).bind fun item => textOf item.payload)
  u32 : ∀ tag, message.getU32 tag = .ok ((firstItem items tag).bind fun item =>
    Message.wordOf item.payload)
  source : ∃ addr, message.getSource = .ok addr
  info : ∀ network, identifyRequest.sendReceive network = .ok message → getInfo network ≠ .panic
  netid : ∀ network, identifyRequest.sendReceive network = .ok message →
    getNetid network ≠ .panic
  route : ∀ netid host routename username password temporary network packet,
    routeRequest netid host routename username password temporary = .ok packet →
    packet.sendReceive network = .ok message →
    addRoute netid host routename username password temporary network ≠ .panic

/-- Everything that is read of an accepted message returns exactly if no tag's first item
has a payload of no bytes. -/
theorem replies_readable_iff {service : ServiceId} {reply : Bool} {message : Message}
    (parsed : Message.parse data service reply = .ok message) :
    ∃ items place, Message.Carries (Message.serviceNumber service reply) data items place ∧
      place.length < 2 ∧
      (Readable message items ↔
        ∀ tag item, firstItem items tag = some item → item.payload ≠ []) := by
  obtain ⟨items, place, carries, short, rfl⟩ := Message.parseInternal_eq_ok_iff.mp parsed
  refine ⟨items, place, carries, short, ?_⟩
  constructor
  · intro readable tag item first empty
    have panicked := (carries.getStr_eq_panic_iff tag).mpr ⟨item, first, empty⟩
    rw [readable.str tag] at panicked
    contradiction
  · intro filled
    exact {
      bytes := carries.getBytes_eq
      str := fun tag => carries.getStr_of_ne_nil (filled tag)
      u32 := carries.getU32_eq
      source := carries.getSource_returns _
      info := by
        intro network replied panicked
        rw [getInfo, replied, Outcome.ok_bind, readInfo_eq_panic_iff carries] at panicked
        rcases panicked with ⟨item, first, empty⟩ | ⟨item, first, empty⟩
        · exact filled _ item first empty
        · exact filled _ item first empty
      netid := by
        intro network replied
        obtain ⟨source, read⟩ := carries.getSource_returns (Tagged.ranges 4 24 items)
        rw [getNetid, replied, Outcome.ok_bind, read, Outcome.ok_bind]
        exact Outcome.ok_ne_panic _
      route := by
        intro netid host routename username password temporary network packet built replied
        rw [addRoute, built, Outcome.ok_bind, replied, Outcome.ok_bind]
        exact readStatus_ne_panic carries }

/-- A reply of a system with one item. -/
def identifyReply (item : List UInt8) : List UInt8 :=
  [3, 102, 20, 113, 0, 0, 0, 0, 1, 0, 0, 128, 1, 2, 3, 4, 5, 6, 16, 39, 1, 0, 0, 0] ++ item

/-- A system that says its name. -/
theorem namedReply_readable :
    ∃ items place, Message.Carries (Message.serviceNumber .identify true)
        (identifyReply [5, 0, 4, 0, 98, 111, 120, 0]) items place ∧
      place.length < 2 ∧
      (Readable ⟨[(5, 28, 32)], identifyReply [5, 0, 4, 0, 98, 111, 120, 0]⟩ items ↔
        ∀ tag item, firstItem items tag = some item → item.payload ≠ []) :=
  @replies_readable_iff _ .identify true _ (by decide +kernel)

/-- A system whose name has no bytes: its reply is accepted, and reading the name panics. -/
theorem emptyName_panics :
    Message.parse (identifyReply [5, 0, 0, 0]) .identify true =
        .ok ⟨[(5, 28, 28)], identifyReply [5, 0, 0, 0]⟩ ∧
      Message.getStr ⟨[(5, 28, 28)], identifyReply [5, 0, 0, 0]⟩ .computerName = .panic ∧
      getInfo (fun _ => .received (identifyReply [5, 0, 0, 0])) = .panic := by
  decide +kernel

end Ads.Udp
