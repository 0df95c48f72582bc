import Ads.Udp.Message

/-!
# What the parser accepts

A datagram is a header and a row of items, with something behind the row that is
no item.  The row tells how parsing ends: with a message when less than a tag is
left, with an error when a tag has no length, and with a panic when a length is
more than what is left.  Before that the header can announce more items than there
is room for.  A message that is accepted has an index that agrees with its bytes.
-/

namespace Ads.Udp

open Ads.Bytes Ads.Bytes.Reader Ads.Client Ads.Control

/-! ## The header -/

/-- A header that passes the checks for a service. -/
structure UdpHeader.Expected (header : UdpHeader) (expService : UInt32) : Prop where
  magic : header.magic = beckhoffUdpMagic
  invokeId : header.invokeId = 0
  service : header.service = expService

namespace Message

/-- A header that passes the checks is read whole, down to the number of items. -/
theorem reads_header {header : UdpHeader} {expService : UInt32}
    (expected : header.Expected expService) :
    Reads (readHeader expService) header.asBytes header.numItems := by
  have reads : Reads (readHeader expService)
      (u32Bytes header.magic ++ (u32Bytes header.invokeId ++ (u32Bytes header.service ++
        ((header.srcNetid.octets ++ u16Bytes header.srcPort) ++ u32Bytes header.numItems))))
      header.numItems := by
    apply (reads_u32 _ _).bind
    apply (reads_u32 _ _).bind
    apply (reads_u32 _ _).bind
    rw [if_neg (not_not.mpr expected.magic), if_neg (not_not.mpr expected.invokeId),
      if_neg (not_not.mpr expected.service)]
    exact (reads_amsAddr _ ⟨header.srcNetid, header.srcPort⟩).bind (reads_u32 _ _)
  simpa [UdpHeader.asBytes, List.append_assoc] using reads

/-- What is read as a header are the bytes of one that passes the checks. -/
theorem readHeader_eq_ok {expService count : UInt32} {data rest : List UInt8}
    (ran : readHeader expService data = .ok (count, rest)) :
    ∃ header : UdpHeader, header.Expected expService ∧ header.numItems = count ∧
      data = header.asBytes ++ rest := by
  obtain ⟨magic, afterMagic, readMagic, behindMagic⟩ := bind_run_eq_ok_iff.mp ran
  obtain ⟨invokeId, afterId, readId, behindId⟩ := bind_run_eq_ok_iff.mp behindMagic
  obtain ⟨service, afterService, readService, checked⟩ := bind_run_eq_ok_iff.mp behindId
  obtain ⟨-, rfl⟩ := (exact_u32 _ _ _ _).mp readMagic
  obtain ⟨-, rfl⟩ := (exact_u32 _ _ _ _).mp readId
  obtain ⟨-, rfl⟩ := (exact_u32 _ _ _ _).mp readService
  split at checked
  · contradiction
  · rename_i sameMagic
    split at checked
    · contradiction
    · rename_i sameId
      split at checked
      · contradiction
      · rename_i sameService
        obtain ⟨addr, afterAddr, readAddr, readCount⟩ := bind_run_eq_ok_iff.mp checked
        obtain ⟨-, rfl⟩ := (exact_amsAddr _ _ _ _).mp readAddr
        obtain ⟨-, rfl⟩ := (exact_u32 _ _ _ _).mp readCount
        refine ⟨⟨magic, invokeId, service, addr.netid, addr.port, count⟩,
          ⟨not_not.mp sameMagic, not_not.mp sameId, not_not.mp sameService⟩, rfl, ?_⟩
        simp [UdpHeader.asBytes, List.append_assoc]

theorem neverPanics_readHeader (expService : UInt32) : NeverPanics (readHeader expService) := by
  apply (neverPanics_u32 _).bind
  intro magic
  apply (neverPanics_u32 _).bind
  intro invokeId
  apply (neverPanics_u32 _).bind
  intro service
  split
  · exact neverPanics_fail _
  · split
    · exact neverPanics_fail _
    · split
      · exact neverPanics_fail _
      · exact (neverPanics_amsAddr _).bind fun _ => neverPanics_u32 _

/-! ## The items loop -/

/-- One round of the loop over an item. -/
theorem parseItems_item (fuel pos : Nat) (item : Tagged) (rest : List UInt8) :
    parseItems (fuel + 1) (pos + 4) (item.bytes ++ rest) =
      ((item.tag, pos + 4, pos + item.bytes.length) :: ·) <$>
        parseItems fuel (pos + item.bytes.length + 4) rest := by
  have next : pos + 4 + (item.length.toNat + 4) = pos + item.bytes.length + 4 := by
    rw [Tagged.toNat_length, Tagged.length_bytes]
    omega
  have stop : pos + 4 + item.length.toNat = pos + item.bytes.length := by
    rw [Tagged.toNat_length, Tagged.length_bytes]
    omega
  have data : splitAt item.length.toNat (item.payload ++ rest) =
      (.ok (item.payload, rest) : Outcome Error _) := by
    rw [Tagged.toNat_length]
    exact reads_splitAt item.payload rest
  rw [Tagged.bytes, List.append_assoc, List.append_assoc, parseItems, reads_u16 () item.tag]
  dsimp only
  rw [reads_u16 (Error.eof parsing) item.length, Outcome.ok_bind]
  dsimp only
  rw [data, Outcome.ok_bind, next, stop, ← Tagged.bytes]
  exact (map_eq_pure_bind _ _).symm

/-- The loop indexes the items of a row, and goes on behind them. -/
theorem parseItems_row (fuel pos : Nat) (items : List Tagged) (place : List UInt8) :
    parseItems (items.length + fuel) (pos + 4) (items.flatMap Tagged.bytes ++ place) =
      (Tagged.ranges 4 pos items ++ ·) <$>
        parseItems fuel (pos + (items.flatMap Tagged.bytes).length + 4) place := by
  induction items generalizing pos with
  | nil =>
      rw [List.length_nil, Nat.zero_add, Tagged.ranges]
      exact (id_map _).symm
  | cons item items ih =>
      have size : pos + item.bytes.length + (items.flatMap Tagged.bytes).length =
          pos + (item.bytes ++ items.flatMap Tagged.bytes).length := by
        rw [List.length_append, Nat.add_assoc]
      rw [List.length_cons, Nat.succ_add, List.flatMap_cons, List.append_assoc, parseItems_item,
        ih, size, Tagged.ranges, ← comp_map]
      rfl

theorem parseItems_short {fuel pos : Nat} {place : List UInt8} (short : place.length < 2) :
    parseItems fuel pos place = .ok [] := by
  cases fuel with
  | zero => rfl
  | succ fuel => rw [parseItems, u16_run_short () short]

theorem parseItems_cut {fuel pos : Nat} {place : List UInt8} (enough : place.length ≤ fuel)
    (tagged : 2 ≤ place.length) (cut : place.length < 4) :
    parseItems fuel pos place = .err (Error.eof parsing) := by
  cases fuel with
  | zero => omega
  | succ fuel =>
      have short : (place.drop 2).length < 2 := by
        rw [List.length_drop]
        omega
      rw [parseItems, u16_run () tagged]
      dsimp only
      rw [u16_run_short (Error.eof parsing) short, Outcome.err_bind]

theorem parseItems_overlong {fuel pos : Nat} {place : List UInt8} (enough : place.length ≤ fuel)
    (overlong : Tagged.Overlong place) : parseItems fuel pos place = .panic := by
  obtain ⟨tag, length, rest, rfl, long⟩ := overlong
  cases fuel with
  | zero => simp at enough
  | succ fuel =>
      rw [parseItems, reads_u16 () tag]
      dsimp only
      rw [reads_u16 (Error.eof parsing) length, Outcome.ok_bind]
      dsimp only
      rw [splitAt, if_neg (Nat.not_le_of_lt long), Outcome.panic_bind]

/-! ## Room for the index -/

theorem reserve_of_le {room : Nat} {nitems : UInt32} (fits : nitems.toNat ≤ room) :
    reserve room nitems = .ok () :=
  if_pos fits

theorem reserve_of_lt {room : Nat} {nitems : UInt32} (exceeds : room < nitems.toNat) :
    reserve room nitems = .panic :=
  if_neg (Nat.not_le_of_lt exceeds)

/-- The bytes are a header that passes the checks and announces more items than there is
room for. -/
def Overcounts (room : Nat) (expService : UInt32) (data : List UInt8) : Prop :=
  ∃ (header : UdpHeader) (rest : List UInt8), header.Expected expService ∧
    data = header.asBytes ++ rest ∧ room < header.numItems.toNat

theorem parseInternalWithin_overcounts {room : Nat} {expService : UInt32} {data : List UInt8}
    (overcounts : Overcounts room expService data) :
    parseInternalWithin room data expService = .panic := by
  obtain ⟨header, rest, expected, rfl, exceeds⟩ := overcounts
  rw [parseInternalWithin, reads_header expected, Outcome.ok_bind]
  dsimp only
  rw [reserve_of_lt exceeds, Outcome.panic_bind]

/-- There is always room for what a header can announce. -/
theorem parseInternal_eq (data : List UInt8) (expService : UInt32) :
    parseInternal data expService = (readHeader expService data >>= fun result =>
      parseItems result.2.length 28 result.2 >>= fun items => .ok ⟨items, data⟩) := by
  rw [parseInternal, parseInternalWithin]
  congr 1
  funext ⟨nitems, rest⟩
  dsimp only
  rw [reserve_of_le (Nat.le_of_lt (UInt32.toNat_lt nitems)), Outcome.ok_bind]

/-- As long as the header asks for no more, the room makes no difference. -/
theorem parseInternalWithin_of_not_overcounts {room : Nat} {expService : UInt32}
    {data : List UInt8} (counts : ¬Overcounts room expService data) :
    parseInternalWithin room data expService = parseInternal data expService := by
  rw [parseInternal_eq, parseInternalWithin]
  cases read : readHeader expService data with
  | err error => rfl
  | panic => rfl
  | ok result =>
      obtain ⟨nitems, rest⟩ := result
      obtain ⟨header, expected, rfl, bytes⟩ := readHeader_eq_ok read
      have fits : header.numItems.toNat ≤ room :=
        Nat.le_of_not_lt fun exceeds => counts ⟨header, rest, expected, bytes, exceeds⟩
      rw [Outcome.ok_bind, Outcome.ok_bind]
      dsimp only
      rw [reserve_of_le fits, Outcome.ok_bind]

/-! ## Whole datagrams -/

/-- The bytes are a header that passes the checks, a row of items, and what is behind it. -/
def Carries (expService : UInt32) (data : List UInt8) (items : List Tagged)
    (place : List UInt8) : Prop :=
  ∃ header : UdpHeader, header.Expected expService ∧
    data = header.asBytes ++ (items.flatMap Tagged.bytes ++ place)

variable {expService : UInt32} {data place : List UInt8} {items : List Tagged}

/-- Parsing gets to what is behind the row. -/
theorem Carries.parseInternal_eq (carries : Carries expService data items place) :
    ∃ fuel, place.length ≤ fuel ∧ parseInternal data expService =
      (fun entries => ⟨Tagged.ranges 4 24 items ++ entries, data⟩) <$>
        parseItems fuel (24 + (items.flatMap Tagged.bytes).length + 4) place := by
  obtain ⟨header, expected, rfl⟩ := carries
  have rounds := Tagged.length_le_row items
  have size : (items.flatMap Tagged.bytes ++ place).length =
      items.length + ((items.flatMap Tagged.bytes).length - items.length + place.length) := by
    rw [List.length_append]
    omega
  refine ⟨_, Nat.le_add_left place.length
    ((items.flatMap Tagged.bytes).length - items.length), ?_⟩
  rw [parseInternal_eq, reads_header expected, Outcome.ok_bind]
  dsimp only
  rw [size, parseItems_row _ 24]
  generalize parseItems _ _ place = behind
  cases behind <;> rfl

theorem Carries.accepted (carries : Carries expService data items place)
    (short : place.length < 2) :
    parseInternal data expService = .ok ⟨Tagged.ranges 4 24 items, data⟩ := by
  obtain ⟨fuel, -, same⟩ := carries.parseInternal_eq
  rw [same, parseItems_short short, Outcome.map_ok, List.append_nil]

theorem Carries.refused (carries : Carries expService data items place)
    (tagged : 2 ≤ place.length) (cut : place.length < 4) :
    parseInternal data expService = .err (Error.eof parsing) := by
  obtain ⟨fuel, enough, same⟩ := carries.parseInternal_eq
  rw [same, parseItems_cut enough tagged cut, Outcome.map_err]

theorem Carries.panics (carries : Carries expService data items place)
    (overlong : Tagged.Overlong place) : parseInternal data expService = .panic := by
  obtain ⟨fuel, enough, same⟩ := carries.parseInternal_eq
  rw [same, parseItems_overlong enough overlong, Outcome.map_panic]

/-- Parsing reports an error, or the bytes are a header and a row that ends in one of two
ways. -/
theorem parseInternal_cases (expService : UInt32) (data : List UInt8) :
    (∃ error, parseInternal data expService = .err error) ∨
      ∃ items place, Carries expService data items place ∧
        (place.length < 2 ∨ Tagged.Overlong place) := by
  cases header : readHeader expService data with
  | err error =>
      rw [parseInternal_eq, header]
      exact Or.inl ⟨error, rfl⟩
  | panic => exact absurd header (neverPanics_readHeader expService data)
  | ok result =>
      obtain ⟨whole, expected, -, bytes⟩ := readHeader_eq_ok header
      obtain ⟨items, place, row, ends⟩ := Tagged.exists_row result.2
      rw [row] at bytes
      have carries : Carries expService data items place := ⟨whole, expected, bytes⟩
      rcases ends with short | ⟨tagged, cut⟩ | overlong
      · exact Or.inr ⟨items, place, carries, Or.inl short⟩
      · exact Or.inl ⟨_, carries.refused tagged cut⟩
      · exact Or.inr ⟨items, place, carries, Or.inr overlong⟩

/-- A message is parsed exactly from a header and a row with less than a tag behind it. -/
theorem parseInternal_eq_ok_iff {message : Message} :
    parseInternal data expService = .ok message ↔
      ∃ items place, Carries expService data items place ∧ place.length < 2 ∧
        message = ⟨Tagged.ranges 4 24 items, data⟩ := by
  constructor
  · intro parsed
    rcases parseInternal_cases expService data with
      ⟨error, failed⟩ | ⟨items, place, carries, short | overlong⟩
    · rw [failed] at parsed
      contradiction
    · exact ⟨items, place, carries, short,
        (Outcome.ok.inj (parsed.symm.trans (carries.accepted short)))⟩
    · rw [carries.panics overlong] at parsed
      contradiction
  · rintro ⟨items, place, carries, short, rfl⟩
    exact carries.accepted short

/-- Parsing panics exactly if the row ends at a length of more bytes than follow it. -/
theorem parseInternal_eq_panic_iff :
    parseInternal data expService = .panic ↔
      ∃ items place, Carries expService data items place ∧ Tagged.Overlong place := by
  constructor
  · intro panicked
    rcases parseInternal_cases expService data with
      ⟨error, failed⟩ | ⟨items, place, carries, short | overlong⟩
    · rw [failed] at panicked
      contradiction
    · rw [carries.accepted short] at panicked
      contradiction
    · exact ⟨items, place, carries, overlong⟩
  · rintro ⟨items, place, carries, overlong⟩
    exact carries.panics overlong

/-! ## The index of an accepted message -/

/-- The index agrees with the bytes.  Every range lies within them, behind a tag and a
length that are the entry's own; the tag of the next item follows the range; and the
position counted for an item is where the read cursor stands, which steps over one item
after the other and ends where less than a tag is left. -/
structure Indexed (message : Message) : Prop where
  within : ∀ tag i j, (tag, i, j) ∈ message.items → i ≤ j ∧ j ≤ message.data.length
  tag : ∀ tag i j, (tag, i, j) ∈ message.items →
    28 ≤ i ∧ leU16 (message.data.drop (i - 4)) = tag
  length : ∀ tag i j, (tag, i, j) ∈ message.items →
    (leU16 (message.data.drop (i - 2))).toNat = j - i
  next : ∀ (k : Nat) tag i j tag' i' j', message.items[k]? = some (tag, i, j) →
    message.items[k + 1]? = some (tag', i', j') → i' = j + 4
  cursor : ∀ (k : Nat) tag i j, message.items[k]? = some (tag, i, j) →
    message.data.drop (i - 4) = Tagged.skip^[k] (message.data.drop 24)
  ended : (Tagged.skip^[message.items.length] (message.data.drop 24)).length < 2

/-- Where the item at index `k` of a row behind a header begins. -/
def itemStart (items : List Tagged) (k : Nat) : Nat :=
  24 + ((items.take k).flatMap Tagged.bytes).length

theorem itemStart_succ {k : Nat} {item : Tagged} (there : items[k]? = some item) :
    itemStart items (k + 1) = itemStart items k + item.bytes.length := by
  rw [itemStart, itemStart, List.take_add_one, there, List.flatMap_append, List.length_append,
    Nat.add_assoc]
  simp

/-- The bytes from an item on. -/
theorem Carries.drop_itemStart (carries : Carries expService data items place) (k : Nat) :
    data.drop (itemStart items k) = (items.drop k).flatMap Tagged.bytes ++ place := by
  obtain ⟨header, -, rfl⟩ := carries
  have front := UdpHeader.length_asBytes header
  rw [itemStart, ← List.drop_drop, ← front, List.drop_left, Tagged.drop_row]

theorem Carries.drop_item {k : Nat} {item : Tagged}
    (carries : Carries expService data items place) (there : items[k]? = some item) :
    data.drop (itemStart items k) =
      item.bytes ++ ((items.drop (k + 1)).flatMap Tagged.bytes ++ place) := by
  obtain ⟨bound, rfl⟩ := List.getElem?_eq_some_iff.mp there
  rw [carries.drop_itemStart, List.drop_eq_getElem_cons bound, List.flatMap_cons,
    List.append_assoc]

/-- The entry at an index is that of the item there. -/
theorem getElem?_ranges_eq_some_iff {k : Nat} {tag : UInt16} {i j : Nat} :
    (Tagged.ranges 4 24 items)[k]? = some (tag, i, j) ↔
      ∃ item, items[k]? = some item ∧ tag = item.tag ∧ i = itemStart items k + 4 ∧
        j = itemStart items (k + 1) := by
  rw [Tagged.getElem?_ranges, Option.map_eq_some_iff]
  constructor
  · rintro ⟨item, there, same⟩
    cases same
    exact ⟨item, there, rfl, rfl, (itemStart_succ there).symm⟩
  · rintro ⟨item, there, rfl, rfl, rfl⟩
    rw [itemStart_succ there]
    exact ⟨item, there, rfl⟩

theorem Carries.itemStart_le {k : Nat} {item : Tagged}
    (carries : Carries expService data items place) (there : items[k]? = some item) :
    itemStart items (k + 1) ≤ data.length := by
  have sizes := congrArg List.length (carries.drop_item there)
  rw [List.length_drop, List.length_append, Tagged.length_bytes] at sizes
  rw [itemStart_succ there, Tagged.length_bytes]
  omega

/-- The cursor stands where the item begins. -/
theorem Carries.iterate_skip {k : Nat} (carries : Carries expService data items place)
    (within : k ≤ items.length) :
    Tagged.skip^[k] (data.drop 24) = data.drop (itemStart items k) := by
  have row : data.drop 24 = items.flatMap Tagged.bytes ++ place := carries.drop_itemStart 0
  rw [row, Tagged.iterate_skip_row within, carries.drop_itemStart]

/-- The index of a row agrees with its bytes. -/
theorem Carries.indexed (carries : Carries expService data items place)
    (short : place.length < 2) : Indexed ⟨Tagged.ranges 4 24 items, data⟩ where
  within := by
    intro tag i j member
    obtain ⟨k, entry⟩ := List.mem_iff_getElem?.mp member
    obtain ⟨item, there, rfl, rfl, rfl⟩ := getElem?_ranges_eq_some_iff.mp entry
    refine ⟨?_, carries.itemStart_le there⟩
    rw [itemStart_succ there, Tagged.length_bytes]
    omega
  tag := by
    intro tag i j member
    obtain ⟨k, entry⟩ := List.mem_iff_getElem?.mp member
    obtain ⟨item, there, rfl, rfl, rfl⟩ := getElem?_ranges_eq_some_iff.mp entry
    refine ⟨?_, ?_⟩
    · rw [itemStart]
      omega
    · dsimp only
      rw [Nat.add_sub_cancel, carries.drop_item there, Tagged.bytes, List.append_assoc,
        leU16_u16Bytes_append]
  length := by
    intro tag i j member
    obtain ⟨k, entry⟩ := List.mem_iff_getElem?.mp member
    obtain ⟨item, there, rfl, rfl, rfl⟩ := getElem?_ranges_eq_some_iff.mp entry
    have behindTag : itemStart items k + 4 - 2 = itemStart items k + 2 := rfl
    dsimp only
    rw [behindTag, ← List.drop_drop, carries.drop_item there, Tagged.drop_bytes_append,
      leU16_u16Bytes_append, Tagged.toNat_length, itemStart_succ there, Tagged.length_bytes]
    omega
  next := by
    intro k tag i j tag' i' j' entry entry'
    obtain ⟨item, -, -, -, rfl⟩ := getElem?_ranges_eq_some_iff.mp entry
    obtain ⟨item', -, -, rfl, -⟩ := getElem?_ranges_eq_some_iff.mp entry'
    rfl
  cursor := by
    intro k tag i j entry
    obtain ⟨item, there, -, rfl, -⟩ := getElem?_ranges_eq_some_iff.mp entry
    obtain ⟨bound, -⟩ := List.getElem?_eq_some_iff.mp there
    rw [Nat.add_sub_cancel, carries.iterate_skip (Nat.le_of_lt bound)]
  ended := by
    dsimp only
    rw [Tagged.length_ranges, carries.iterate_skip (Nat.le_refl _), carries.drop_itemStart,
      List.drop_length]
    exact short

/-- What is accepted keeps its bytes and has an index that agrees with them. -/
theorem indexed_of_parseInternal {message : Message}
    (parsed : parseInternal data expService = .ok message) :
    message.data = data ∧ message.Indexed := by
  obtain ⟨items, place, carries, short, rfl⟩ := parseInternal_eq_ok_iff.mp parsed
  exact ⟨rfl, carries.indexed short⟩

/-- The service number that a request or a reply has. -/
def serviceNumber (service : ServiceId) (reply : Bool) : UInt32 :=
  service.toU32 ||| if reply then 0x80000000 else 0

/-- For any room for the index: parsing returns a message whose index agrees with the bytes,
or an error, exactly if the bytes are not a header that passes the checks, whole items, and a
tag with a length of more bytes than follow it, nor a header that passes the checks and
announces more items than there is room for. -/
theorem parse_total_iff (room : Nat) (data : List UInt8) (service : ServiceId) (reply : Bool) :
    (((∃ message, parseWithin room data service reply = .ok message) ∨
        ∃ error, parseWithin room data service reply = .err error) ∧
      ∀ message, parseWithin room data service reply = .ok message →
        message.data = data ∧ message.Indexed) ↔
      (¬∃ (header : UdpHeader) (items : List Tagged) (tag length : UInt16) (rest : List UInt8),
        header.Expected (serviceNumber service reply) ∧
          data = header.asBytes ++ (items.flatMap Tagged.bytes ++
            (u16Bytes tag ++ (u16Bytes length ++ rest))) ∧
          rest.length < length.toNat) ∧
      ¬∃ (header : UdpHeader) (rest : List UInt8),
        header.Expected (serviceNumber service reply) ∧ data = header.asBytes ++ rest ∧
          room < header.numItems.toNat := by
  have panics := @parseInternal_eq_panic_iff (serviceNumber service reply) data
  have same : parseWithin room data service reply =
      parseInternalWithin room data (serviceNumber service reply) := rfl
  rw [same]
  constructor
  · rintro ⟨returns, -⟩
    have survives : parseInternalWithin room data (serviceNumber service reply) ≠ .panic := by
      intro panicked
      rw [panicked] at returns
      rcases returns with ⟨message, parsed⟩ | ⟨error, failed⟩
      · contradiction
      · contradiction
    have counts : ¬Overcounts room (serviceNumber service reply) data :=
      fun overcounts => survives (parseInternalWithin_overcounts overcounts)
    refine ⟨?_, counts⟩
    rintro ⟨header, items, tag, length, rest, expected, bytes, long⟩
    rw [parseInternalWithin_of_not_overcounts counts] at survives
    exact survives (panics.mpr ⟨items, _, ⟨header, expected, bytes⟩, tag, length, rest, rfl, long⟩)
  · rintro ⟨fits, counts⟩
    rw [parseInternalWithin_of_not_overcounts counts]
    refine ⟨?_, fun message parsed => indexed_of_parseInternal parsed⟩
    cases outcome : parseInternal data (serviceNumber service reply) with
    | ok message => exact Or.inl ⟨message, rfl⟩
    | err error => exact Or.inr ⟨error, rfl⟩
    | panic =>
        obtain ⟨items, place, ⟨header, expected, bytes⟩, tag, length, rest, rfl, long⟩ :=
          panics.mp outcome
        exact absurd ⟨header, items, tag, length, rest, expected, bytes, long⟩ fits

/-- A reply with one item of five bytes, of which one is there, and one that announces
`2 ^ 32 - 1` items where there is room for `2 ^ 24`. -/
theorem parse_longItem :
    parseWithin (2 ^ 24) ([3, 102, 20, 113, 0, 0, 0, 0, 1, 0, 0, 128, 10, 0, 0, 1, 1, 1, 16, 39,
        1, 0, 0, 0] ++ [5, 0, 5, 0, 9]) .identify true = .panic ∧
      parseWithin (2 ^ 24) [3, 102, 20, 113, 0, 0, 0, 0, 1, 0, 0, 128, 10, 0, 0, 1, 1, 1, 16, 39,
        255, 255, 255, 255] .identify true = .panic := by
  decide +kernel

end Message

end Ads.Udp
