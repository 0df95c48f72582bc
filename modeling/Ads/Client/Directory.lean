import Ads.Client.Exchange
import Ads.Control.Loop

/-!
# Listing a directory

`listdir` asks for one entry after another until the server has no more.  Here the
server is seen as a browser, which answers each request with an entry and the offset of
the next one, or with an error.
-/

namespace Ads.Client

open Ads.Bytes Ads.Control

/-- File service: browse files. -/
def fileBrowse : UInt32 := 133

/-- What is appended to the name of the directory: `\*.*`. -/
def allFiles : List UInt8 := [92, 42, 46, 42]

/-- A file in a directory: its name, attributes and size. -/
abbrev FileEntry : Type :=
  List UInt8 × UInt32 × UInt64

/-- The file that an entry of the server describes. -/
def fileEntry (buf : List UInt8) : FileEntry :=
  let attrs := leU32 (buf.drop 4)
  let sizeh := leU32 (buf.drop 32)
  let sizel := leU32 (buf.drop 36)
  let size := sizeh.toUInt64 <<< 32 ||| sizel.toUInt64
  let name := (buf.drop 48).takeWhile (· ≠ 0)
  (name, attrs, size)

/-- The variables of the loop of `listdir`. -/
structure Listing (S : Type) where
  files : List FileEntry
  buf : List UInt8
  offset : UInt32
  argument : List UInt8
  link : Link S

section Source

variable {S : Type} (server : Server S) (device : Device)

/-- One round of the loop. -/
def listdirRound (listing : Listing S) :
    Listing S ⊕ Outcome Error (List FileEntry) × Link S :=
  match writeReadExact server device fileBrowse listing.offset listing.argument listing.buf
      listing.link with
  | (.ok buf, link) =>
      .inl
        { files := listing.files ++ [fileEntry buf]
          buf := buf
          offset := leU32 buf
          argument := []
          link := link }
  | (.err (.ads action description code), link) =>
      -- error "not found" means the end of the list
      if code = 0x70C then .inr (.ok listing.files, link)
      else .inr (.err (.ads action description code), link)
  | (.err error, link) => .inr (.err error, link)
  | (.panic, link) => .inr (.panic, link)

/-- Return a list of files in the named directory. -/
def listdir (dirname : List UInt8) (fuel : Nat) (link : Link S) :
    Option (Outcome Error (List FileEntry) × Link S) :=
  loop (listdirRound server device) fuel
    { files := []
      buf := List.replicate 324 0
      offset := 1
      argument := dirname ++ allFiles
      link := link }

end Source

/-! ## Records -/

/-- An entry as a server lays it out: the offset of the next one, the attributes, three
times, the size, and the name, which ends at the first null byte or with the entry. -/
structure DirRecord where
  next : UInt32
  attrs : UInt32
  times : List UInt8
  size : UInt64
  reserved : List UInt8
  name : List UInt8
  tail : List UInt8
  length_times : times.length = 24
  length_reserved : reserved.length = 8
  name_clean : 0 ∉ name
  tail_null : ∀ byte ∈ tail.head?, byte = 0
  length_name : name.length + tail.length = 276

namespace DirRecord

variable (record : DirRecord)

/-- The entry's bytes on the wire. -/
def bytes : List UInt8 :=
  u32Bytes record.next ++ (u32Bytes record.attrs ++ (record.times ++
    (u32Bytes (record.size >>> 32).toUInt32 ++ (u32Bytes record.size.toUInt32 ++
      (record.reserved ++ (record.name ++ record.tail))))))

/-- The file that the entry describes. -/
def file : FileEntry :=
  (record.name, record.attrs, record.size)

@[simp]
theorem length_bytes : record.bytes.length = 324 := by
  simp only [bytes, List.length_append, length_u32Bytes, record.length_times,
    record.length_reserved]
  have names := record.length_name
  omega

theorem leU32_bytes : leU32 record.bytes = record.next :=
  leU32_u32Bytes_append _ _

theorem takeWhile_name :
    (record.name ++ record.tail).takeWhile (fun byte => decide (byte ≠ 0)) = record.name := by
  have clean : ∀ byte ∈ record.name, decide (byte ≠ 0) = true := by
    intro byte member
    rw [decide_eq_true_eq]
    exact fun null => record.name_clean (null ▸ member)
  have stops : record.tail.takeWhile (fun byte => decide (byte ≠ 0)) = [] := by
    have null := record.tail_null
    cases tail : record.tail with
    | nil => rfl
    | cons byte rest =>
        rw [tail] at null
        rw [null byte rfl]
        rfl
  rw [List.takeWhile_append_of_pos clean, stops, List.append_nil]

/-- A size is put together from its two halves. -/
theorem size_of_halves (size : UInt64) :
    (size >>> 32).toUInt32.toUInt64 <<< 32 ||| size.toUInt32.toUInt64 = size := by
  apply UInt64.toNat_inj.mp
  have bound := size.toNat_lt
  have high : size.toNat / 2 ^ 32 < 2 ^ 32 := by omega
  have low : size.toNat % 2 ^ 32 < 2 ^ 32 := Nat.mod_lt _ (by decide)
  have whole : size.toNat / 2 ^ 32 * 2 ^ 32 < 2 ^ 64 := by omega
  simp only [UInt64.toNat_or, UInt64.toNat_shiftLeft, UInt32.toNat_toUInt64,
    UInt64.toNat_toUInt32, UInt64.toNat_shiftRight, UInt64.reduceToNat, Nat.reduceMod,
    Nat.shiftRight_eq_div_pow, Nat.shiftLeft_eq]
  rw [Nat.mod_eq_of_lt high, Nat.mod_eq_of_lt whole, Nat.mul_comm,
    ← Nat.two_pow_add_eq_or_of_lt low, Nat.div_add_mod]

/-- The client reads the file that the server describes. -/
theorem fileEntry_bytes : fileEntry record.bytes = record.file := by
  have first : record.bytes.drop 4 = u32Bytes record.attrs ++ (record.times ++
      (u32Bytes (record.size >>> 32).toUInt32 ++ (u32Bytes record.size.toUInt32 ++
        (record.reserved ++ (record.name ++ record.tail))))) :=
    List.drop_left' (length_u32Bytes _)
  have times : record.bytes.drop 32 = u32Bytes (record.size >>> 32).toUInt32 ++
      (u32Bytes record.size.toUInt32 ++ (record.reserved ++ (record.name ++ record.tail))) := by
    rw [show 32 = 4 + (4 + 24) from rfl, ← List.drop_drop, ← List.drop_drop, first,
      List.drop_left' (length_u32Bytes _), List.drop_left' record.length_times]
  have low : record.bytes.drop 36 =
      u32Bytes record.size.toUInt32 ++ (record.reserved ++ (record.name ++ record.tail)) := by
    rw [show 36 = 32 + 4 from rfl, ← List.drop_drop, times, List.drop_left' (length_u32Bytes _)]
  have name : record.bytes.drop 48 = record.name ++ record.tail := by
    rw [show 48 = 36 + (4 + 8) from rfl, ← List.drop_drop, ← List.drop_drop, low,
      List.drop_left' (length_u32Bytes _), List.drop_left' record.length_reserved]
  rw [fileEntry, first, times, low, name, leU32_u32Bytes_append, leU32_u32Bytes_append,
    leU32_u32Bytes_append, takeWhile_name, file]
  exact congrArg (fun size => (record.name, record.attrs, size)) (size_of_halves record.size)

end DirRecord

/-! ## Browsers -/

/-- What a server does with requests for entries: by the offset and the argument, an
entry or an error. -/
structure Browser (S : Type) where
  browse : S → UInt32 → List UInt8 → S × Response DirRecord

namespace Browser

variable {S : Type}

/-- The entries that follow one another, from an offset and an argument on, until the
server answers with an error. -/
inductive Lists (browser : Browser S) :
    S → UInt32 → List UInt8 → List DirRecord → Refusal → S → Prop
  | ends {state last : S} {offset : UInt32} {argument : List UInt8} {refusal : Refusal} :
      browser.browse state offset argument = (last, .error refusal) →
      Lists browser state offset argument [] refusal last
  | entry {state after last : S} {offset : UInt32} {argument : List UInt8} {record : DirRecord}
      {records : List DirRecord} {refusal : Refusal} :
      browser.browse state offset argument = (after, .ok record) →
      Lists browser after record.next [] records refusal last →
      Lists browser state offset argument (record :: records) refusal last

/-- The server answers as the browser does. -/
def ServedBy (browser : Browser S) (server : Server S) : Prop :=
  ∀ state offset argument,
    server.Answers state .readWrite (writeReadPayload fileBrowse offset argument 324)
      ((browser.browse state offset argument).1,
        (browser.browse state offset argument).2.map DirRecord.bytes)

/-- The server that a browser makes: it takes the offset and the argument from the
payload. -/
def server (browser : Browser S) : Server S where
  handle state _ payload :=
    let (after, response) := browser.browse state (leU32 (payload.drop 4)) (payload.drop 16)
    (after, Response.reply (response.map DirRecord.bytes))

theorem servedBy_server (browser : Browser S) : browser.ServedBy browser.server := by
  intro state offset argument
  refine ⟨Response.reply ((browser.browse state offset argument).2.map DirRecord.bytes), ?_,
    Response.reply_gives _⟩
  simp only [server, offset_writeReadPayload, data_writeReadPayload]

end Browser

/-- The requests that lead to the entries and the error after them. -/
def browseRequests : UInt32 → List UInt8 → List DirRecord → List (Command × List UInt8)
  | offset, argument, [] => [(.readWrite, writeReadPayload fileBrowse offset argument 324)]
  | offset, argument, record :: records =>
      (.readWrite, writeReadPayload fileBrowse offset argument 324) ::
        browseRequests record.next [] records

/-- What `listdir` makes of the entries and the error after them. -/
def listed (files : List FileEntry) (refusal : Refusal) : Outcome Error (List FileEntry) :=
  if refusal.val = 0x70C then .ok files
  else .err (adsError Command.readWrite.action refusal)

namespace Listing

variable {S : Type} (listing : Listing S)

/-- The variables after a round that gets an entry. -/
def extend (record : DirRecord) (state : S) : Listing S where
  files := listing.files ++ [record.file]
  buf := record.bytes
  offset := record.next
  argument := []
  link := listing.link.exchanged state .readWrite
    (writeReadPayload fileBrowse listing.offset listing.argument 324)

/-- What the loop leaves after a list of entries. -/
def result (records : List DirRecord) (refusal : Refusal) (state : S) :
    Outcome Error (List FileEntry) × Link S :=
  (listed (listing.files ++ records.map DirRecord.file) refusal,
    { invokeId := listing.link.invokeId + UInt32.ofNat (records.length + 1)
      server := state
      seen := listing.link.seen ++ browseRequests listing.offset listing.argument records })

theorem result_nil (refusal : Refusal) (state : S) :
    listing.result [] refusal state = (listed listing.files refusal,
      listing.link.exchanged state .readWrite
        (writeReadPayload fileBrowse listing.offset listing.argument 324)) := by
  rw [result, List.map_nil, List.append_nil]
  rfl

theorem result_cons (record : DirRecord) (records : List DirRecord) (refusal : Refusal)
    (middle state : S) :
    (listing.extend record middle).result records refusal state =
      listing.result (record :: records) refusal state := by
  have ids : listing.link.invokeId + 1 + UInt32.ofNat (records.length + 1) =
      listing.link.invokeId + UInt32.ofNat (records.length + 1 + 1) := by
    rw [UInt32.ofNat_add (records.length + 1) 1, UInt32.add_assoc, UInt32.add_comm 1]
    rfl
  simp only [result, extend, Link.exchanged, List.map_cons, List.append_assoc,
    List.singleton_append, List.length_cons, browseRequests, ids]

end Listing

section Rounds

variable {S : Type} {server : Server S} {browser : Browser S} {device : Device}
  {listing : Listing S} {state : S}

/-- What a round does, by what the browser answers. -/
theorem listdirRound_eq (serves : browser.ServedBy server)
    (size : listing.buf.length = 324) (sendable : Sendable listing.argument)
    {response : Response DirRecord}
    (browsed : browser.browse listing.link.server listing.offset listing.argument =
      (state, response)) :
    listdirRound server device listing =
      (match response with
        | .ok record => .inl (listing.extend record state)
        | .error refusal => .inr (listing.result [] refusal state)) := by
  have answers := serves listing.link.server listing.offset listing.argument
  rw [browsed, ← size] at answers
  have fits : listing.buf.length < 2 ^ 32 := by
    rw [size]
    decide
  have same : ∀ bytes, response.map DirRecord.bytes = .ok bytes →
      bytes.length = listing.buf.length := by
    intro bytes given
    cases response with
    | ok record =>
        cases given
        rw [record.length_bytes, size]
    | error refusal => cases given
  have ran := @writeReadExact_answered _ _ device _ _ _ _ _ _ _ fits sendable answers same
  rw [size] at ran
  cases response with
  | ok record =>
      simp only [listdirRound, ran, Listing.extend]
      change Sum.inl _ = Sum.inl _
      rw [record.leU32_bytes, record.fileEntry_bytes]
  | error refusal =>
      simp only [listdirRound, ran, Listing.result_nil, listed]
      change (if refusal.val = 0x70C then _ else _) = _
      split <;> rfl

/-- The loop collects the entries that the browser lists, one in each round. -/
theorem leaves_of_lists (serves : browser.ServedBy server) {records : List DirRecord}
    {refusal : Refusal} {last : S} (size : listing.buf.length = 324)
    (sendable : Sendable listing.argument)
    (lists : browser.Lists listing.link.server listing.offset listing.argument records refusal
      last) :
    Leaves (listdirRound server device) listing records.length
      (listing.result records refusal last) := by
  generalize start : listing.link.server = origin at lists
  generalize offset : listing.offset = next at lists
  generalize argument : listing.argument = argument at lists
  induction lists generalizing listing with
  | ends browsed =>
      subst start offset argument
      exact Leaves.now (listdirRound_eq serves size sendable browsed)
  | @entry _ after _ _ _ record records refusal browsed _ ih =>
      subst start offset argument
      rw [← listing.result_cons record records refusal after]
      apply Leaves.later (listdirRound_eq serves size sendable browsed)
      exact ih record.length_bytes sendable_nil rfl rfl rfl

/-- It leaves no other way. -/
theorem lists_of_leaves (serves : browser.ServedBy server) {rounds : Nat}
    {result : Outcome Error (List FileEntry) × Link S} (size : listing.buf.length = 324)
    (sendable : Sendable listing.argument)
    (leaves : Leaves (listdirRound server device) listing rounds result) :
    ∃ records refusal last,
      browser.Lists listing.link.server listing.offset listing.argument records refusal last ∧
        result = listing.result records refusal last := by
  induction leaves with
  | @now listing result left =>
      rcases browsed : browser.browse listing.link.server listing.offset listing.argument with
        ⟨last, record | refusal⟩
      · rw [listdirRound_eq serves size sendable browsed] at left
        cases left
        exact ⟨[], _, last, .ends browsed, rfl⟩
      · rw [listdirRound_eq serves size sendable browsed] at left
        cases left
  | @later listing after _ result goesOn _ ih =>
      rcases browsed : browser.browse listing.link.server listing.offset listing.argument with
        ⟨middle, refusal | record⟩
      · rw [listdirRound_eq serves size sendable browsed] at goesOn
        cases goesOn
      · rw [listdirRound_eq serves size sendable browsed] at goesOn
        cases goesOn
        rcases ih record.length_bytes sendable_nil with ⟨records, refusal, last, lists, same⟩
        refine ⟨record :: records, refusal, last, .entry browsed lists, ?_⟩
        rw [same, Listing.result_cons]

end Rounds

/-- For every server that answers with entries and errors: `listdir` returns exactly if the
entries, each found by the offset in the one before it, come to an end, which is an error.
Then it has sent one request for each, and returns the files that they describe, in their
order, if the error says that there are no more, and the error otherwise. -/
theorem listdir_returns_iff {S : Type} {server : Server S} {browser : Browser S}
    (serves : browser.ServedBy server) (device : Device) (dirname : List UInt8)
    (sendable : Sendable (dirname ++ allFiles)) (link : Link S)
    (outcome : Outcome Error (List FileEntry)) (last : Link S) :
    (∃ fuel, listdir server device dirname fuel link = some (outcome, last)) ↔
      ∃ records refusal state,
        browser.Lists link.server 1 (dirname ++ allFiles) records refusal state ∧
          outcome = (if refusal.val = 0x70C then .ok (records.map DirRecord.file)
            else .err (adsError Command.readWrite.action refusal)) ∧
          last = ⟨link.invokeId + UInt32.ofNat (records.length + 1), state,
            link.seen ++ browseRequests 1 (dirname ++ allFiles) records⟩ := by
  have size : (List.replicate 324 (0 : UInt8)).length = 324 := List.length_replicate
  unfold listdir
  rw [exists_loop_iff]
  constructor
  · rintro ⟨rounds, leaves⟩
    rcases lists_of_leaves serves size sendable leaves with
      ⟨records, refusal, state, lists, same⟩
    cases same
    exact ⟨records, refusal, state, lists, rfl, rfl⟩
  · rintro ⟨records, refusal, state, lists, rfl, rfl⟩
    exact ⟨records.length, leaves_of_lists serves size sendable lists⟩

/-- A record of an empty file. -/
def emptyFile (next : UInt32) (name : UInt8) (clean : name ≠ 0) : DirRecord where
  next := next
  attrs := 0x20
  times := List.replicate 24 1
  size := 0
  reserved := List.replicate 8 1
  name := [name]
  tail := List.replicate 275 0
  length_times := List.length_replicate
  length_reserved := List.length_replicate
  name_clean := by simp [clean.symm]
  tail_null := by simp
  length_name := by rw [List.length_replicate, List.length_singleton]

/-- A directory of two files, whose offsets are 1 and 7. -/
def twoFiles : Browser Nat where
  browse state offset _ :=
    (state + 1,
      if offset = 1 then .ok (emptyFile 7 65 (by decide))
      else if offset = 7 then .ok (emptyFile 9 66 (by decide))
      else .error .notFound)

/-- Both are returned, after three requests. -/
theorem twoFiles_listed :
    ∃ fuel seen, listdir twoFiles.server ⟨⟨.localId, 1⟩, ⟨.localId, 10000⟩⟩ [67, 58] fuel
      ⟨1, 0, []⟩ = some (.ok [([65], 0x20, 0), ([66], 0x20, 0)], ⟨4, 3, seen⟩) := by
  have sendable : Sendable ([67, 58] ++ allFiles) := by
    rw [Sendable]
    decide
  have lists : twoFiles.Lists 0 1 ([67, 58] ++ allFiles)
      [emptyFile 7 65 (by decide), emptyFile 9 66 (by decide)] .notFound 3 :=
    .entry rfl (.entry rfl (.ends rfl))
  rcases (listdir_returns_iff twoFiles.servedBy_server ⟨⟨.localId, 1⟩, ⟨.localId, 10000⟩⟩ [67, 58]
    sendable ⟨1, 0, []⟩ _ _).mpr ⟨_, _, _, lists, rfl, rfl⟩ with ⟨fuel, returned⟩
  exact ⟨fuel, _, returned⟩

end Ads.Client
