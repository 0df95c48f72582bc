import Ads.Text.Padded
import Ads.Text.Utf16
import Ads.Udp.Replies
import Ads.Udp.RoundTrip

/-!
# What a system says about itself

A system says its name, its versions and its fingerprint in the items of a reply,
in any order and among any others.  What is read of such a reply is what the
system says, but for the characters of a service pack that take two code units.
-/

namespace Ads.Udp

open Ads.Bytes Ads.Bytes.Reader Ads.Client Ads.Control Ads.Text

/-! ## Texts of a service pack -/

theorem words_u16Bytes_append (word : UInt16) (rest : List UInt8) :
    words (u16Bytes word ++ rest) = word :: words rest := by
  have read := leU16_u16Bytes_append word []
  obtain ⟨low, high, two⟩ := List.length_eq_two.mp (length_u16Bytes word)
  rw [two] at read ⊢
  rw [List.append_nil] at read
  rw [List.cons_append, List.singleton_append, words, read]

theorem words_flatMap (units : List UInt16) (rest : List UInt8) :
    words (units.flatMap u16Bytes ++ rest) = units ++ words rest := by
  induction units with
  | nil => rfl
  | cons unit units ih =>
      rw [List.flatMap_cons, List.append_assoc, words_u16Bytes_append, ih, List.cons_append]

theorem charFromU32_toNat (char : Char) : charFromU32 char.toNat = some char := by
  have valid : char.toNat.isValidChar := char.valid
  rw [charFromU32, dif_pos valid]
  rfl

/-- A character that takes one code unit. -/
def single (char : Char) : Bool :=
  char.toNat < 0x10000

/-- Unit by unit, the characters of one unit are read and the halves of pairs are left
out. -/
theorem filterMap_utf16Units (char : Char) :
    (utf16Units char).filterMap (fun unit => charFromU32 unit.toNat) = [char].filter single := by
  have valid := toNat_valid char
  by_cases small : char.toNat < 0x10000
  · have kept : single char = true := decide_eq_true small
    rw [utf16Units_of_small small, List.filter_singleton, kept, List.filterMap_cons,
      toNat_utf16Unit small, charFromU32_toNat]
    rfl
  · have lost : single char = false := decide_eq_false small
    obtain ⟨high, low, units, highNumber, lowNumber⟩ := utf16Units_of_large small
    have half (number : Nat) (above : 0xD800 ≤ number) (below : number < 0xE000) :
        charFromU32 number = none := by
      have invalid : ¬number.isValidChar := by
        rw [Nat.isValidChar]
        omega
      rw [charFromU32, dif_neg invalid]
    have first := half high.toNat (by omega) (by omega)
    have second := half low.toNat (by omega) (by omega)
    rw [units, List.filter_singleton, lost]
    simp [first, second]

theorem filterMap_encodeUtf16 (text : String) :
    (encodeUtf16 text).filterMap (fun unit => charFromU32 unit.toNat) =
      text.toList.filter single := by
  rw [encodeUtf16]
  induction text.toList with
  | nil => rfl
  | cons char chars ih =>
      rw [List.flatMap_cons, List.filterMap_append, ih, filterMap_utf16Units,
        ← List.filter_append, List.singleton_append]

/-- What is behind the numbers of an operating system, by its platform: some data, a text
in Latin-1, or a text in UTF-16.  A text ends at its null. -/
inductive ServicePack
  | bsd (data : List UInt8) (enough : 2 ≤ data.length)
  | rtos (text : String) (latin : ∀ char ∈ text.toList, 0 < char.toNat ∧ char.toNat < 0x100)
      (behind : List UInt8) (enough : 1 ≤ text.toList.length + behind.length)
  | windows (platform : UInt32) (other : 2 ≤ platform.toNat) (text : String)
      (clean : '\x00' ∉ text.toList) (behind : List UInt8)

namespace ServicePack

/-- The number of the platform. -/
def platform : ServicePack → UInt32
  | bsd _ _ => 0
  | rtos _ _ _ _ => 1
  | windows platform _ _ _ _ => platform

/-- The bytes of the pack. -/
def bytes : ServicePack → List UInt8
  | bsd data _ => data
  | rtos text _ behind _ => text.toList.map (fun char => UInt8.ofNat char.toNat) ++ 0 :: behind
  | windows _ _ text _ behind => (encodeUtf16 text).flatMap u16Bytes ++ (u16Bytes 0 ++ behind)

/-- The text that is read of it. -/
def text : ServicePack → String
  | bsd _ _ => ""
  | rtos text _ _ _ => text
  | windows _ _ text _ _ => String.ofList (text.toList.filter single)

theorem two_le_length_bytes (pack : ServicePack) : 2 ≤ pack.bytes.length := by
  cases pack with
  | bsd data enough => exact enough
  | rtos text latin behind enough =>
      rw [bytes, List.length_append, List.length_map, List.length_cons]
      omega
  | windows platform other text clean behind =>
      rw [bytes, List.length_append, List.length_append, length_u16Bytes]
      omega

theorem rtosText {text : String}
    (latin : ∀ char ∈ text.toList, 0 < char.toNat ∧ char.toNat < 0x100)
    (behind : List UInt8) :
    servicePack "TC/RTOS" (text.toList.map (fun char => UInt8.ofNat char.toNat) ++ 0 :: behind) =
      text := by
  have number : ∀ char ∈ text.toList, (UInt8.ofNat char.toNat).toNat = char.toNat :=
    fun char member => UInt8.toNat_ofNat_of_lt' (latin char member).2
  have clean : (0 : UInt8) ∉ text.toList.map fun char => UInt8.ofNat char.toNat := by
    intro member
    obtain ⟨char, member, null⟩ := List.mem_map.mp member
    have zero := congrArg UInt8.toNat null
    rw [number char member] at zero
    exact absurd zero (Nat.ne_of_gt (latin char member).1)
  have same : (text.toList.map fun char => UInt8.ofNat char.toNat).map
      (fun byte => Char.ofNat byte.toNat) = text.toList := by
    rw [List.map_map]
    refine (List.map_congr_left fun char member => ?_).trans (List.map_id _)
    rw [Function.comp_apply, number char member, Char.ofNat_toNat, id]
  rw [servicePack, if_pos rfl, takeWhile_terminated clean, same, String.ofList_toList]

/-- What is read is the text. -/
theorem servicePack_bytes (pack : ServicePack) :
    servicePack (platformName pack.platform) pack.bytes = pack.text := by
  cases pack with
  | bsd data enough => rfl
  | rtos text latin behind enough => exact rtosText latin behind
  | windows platform other text clean behind =>
      have notBsd : platform ≠ 0 := by
        rintro rfl
        exact absurd other (by decide)
      have notRtos : platform ≠ 1 := by
        rintro rfl
        exact absurd other (by decide)
      have named : platformName platform ≠ "TC/RTOS" ∧
          platformName platform ≠ "TwinCAT/BSD" := by
        rw [platformName, if_neg notBsd, if_neg notRtos]
        split
        · decide
        · split
          · decide
          · decide
      have null : words (u16Bytes 0 ++ behind) = 0 :: words behind :=
        words_u16Bytes_append 0 behind
      have clean : (0 : UInt16) ∉ encodeUtf16 text := by
        rwa [zero_mem_encodeUtf16_iff]
      rw [ServicePack.platform, bytes, servicePack, if_neg named.1, if_neg named.2, words_flatMap, null,
        takeWhile_terminated clean, filterMap_encodeUtf16]
      rfl

end ServicePack

/-- An operating system: its numbers and what is behind them. -/
structure OsRelease where
  size : UInt32
  major : UInt32
  minor : UInt32
  build : UInt32
  pack : ServicePack

namespace OsRelease

/-- The structure of the OS version. -/
def bytes (release : OsRelease) : List UInt8 :=
  u32Bytes release.size ++ (u32Bytes release.major ++ (u32Bytes release.minor ++
    (u32Bytes release.build ++ (u32Bytes release.pack.platform ++ release.pack.bytes))))

/-- What is read of it. -/
def version (release : OsRelease) : OsVersion :=
  (platformName release.pack.platform, release.major, release.minor, release.build,
    release.pack.text)

theorem parse_bytes (release : OsRelease) :
    parseOsVersion (some release.bytes) = .ok release.version := by
  have enough : 22 ≤ release.bytes.length := by
    have behind := release.pack.two_le_length_bytes
    simp only [bytes, List.length_append, length_u32Bytes]
    omega
  have word (value : UInt32) : Reads (expect (u32 ()) : Reader Error UInt32) (u32Bytes value) value :=
    (reads_u32 () value).expect
  have ran : readOsVersion release.bytes = .ok (release.version, []) := by
    rw [readOsVersion, bytes, bind_run_ok (word _ _), bind_run_ok (word _ _),
      bind_run_ok (word _ _), bind_run_ok (word _ _), bind_run_ok (word _ _), version,
      ← release.pack.servicePack_bytes]
    rfl
  rw [parseOsVersion, if_pos enough]
  exact runOn_eq_ok_iff.mpr ⟨[], ran⟩

end OsRelease

/-- The bytes of a version of TwinCAT. -/
def twincatBytes (version : TwincatVersion) : List UInt8 :=
  [version.1, version.2.1] ++ u16Bytes version.2.2

theorem parseTwincatVersion_bytes (version : TwincatVersion) :
    parseTwincatVersion (twincatBytes version) = .ok version := by
  obtain ⟨major, minor, build⟩ := version
  have build' := leU16_u16Bytes_append build []
  rw [List.append_nil] at build'
  have last : (subslice ([major, minor] ++ u16Bytes build) 2 4 : Outcome Error _) =
      .ok (u16Bytes build) := by
    have ranged := @subslice_append Error _ [major, minor] (u16Bytes build) []
    rwa [List.append_nil, length_u16Bytes] at ranged
  rw [parseTwincatVersion, twincatBytes, if_pos (by simp)]
  dsimp only
  rw [last, Outcome.ok_bind, build']
  rfl

/-! ## Announcements -/

/-- A system running TwinCAT and what it has to say. -/
structure System where
  addr : AmsAddr
  hostname : Option String
  twincatVersion : Option TwincatVersion
  osRelease : Option OsRelease
  fingerprint : Option String

/-- What there is to know about a system. -/
def System.info (system : System) : SysInfo where
  netid := system.addr.netid
  hostname := system.hostname.getD "unknown"
  twincatVersion := system.twincatVersion.getD (0, 0, 0)
  osVersion := (system.osRelease.map OsRelease.version).getD ("No OS info", 0, 0, 0, "")
  fingerprint := system.fingerprint.getD ""

/-- A text and its terminator. -/
def terminatedBytes (text : String) : List UInt8 :=
  utf8Bytes text ++ [0]

/-- The payload of the first call with a tag. -/
def firstPayload (calls : List Call) (tag : Tag) : Option (List UInt8) :=
  (firstWith calls tag).map Call.payload

/-- Items by which a system says what it has to say.  They fit into a reply, which takes
576 bytes. -/
structure Announcement where
  system : System
  calls : List Call
  hostname : firstPayload calls .computerName = system.hostname.map terminatedBytes
  twincatVersion : firstPayload calls .tcVersion = system.twincatVersion.map twincatBytes
  osRelease : firstPayload calls .osVersion = system.osRelease.map OsRelease.bytes
  fingerprint : firstPayload calls .fingerprint = system.fingerprint.map terminatedBytes
  fits : 24 + (row calls).length ≤ 576

theorem terminated_terminatedBytes (text : String) :
    Message.terminated (terminatedBytes text) = .ok (some text) := by
  have room : ¬(terminatedBytes text).length = 0 := by simp [terminatedBytes]
  have front : (terminatedBytes text).take ((terminatedBytes text).length - 1) = utf8Bytes text := by
    simp [terminatedBytes]
  rw [Message.terminated, if_neg room, front, fromUtf8_utf8Bytes]

variable {expService : UInt32} {data place : List UInt8} {calls : List Call}

/-- A text among the items is read as it is. -/
theorem getStr_terminated
    (carries : Message.Carries expService data (calls.map Call.item) place) {tag : Tag}
    {text : Option String} (announced : firstPayload calls tag = text.map terminatedBytes) :
    Message.getStr ⟨Tagged.ranges 4 24 (calls.map Call.item), data⟩ tag = .ok text := by
  rw [carries.getStr_eq, firstItem_map]
  rw [firstPayload] at announced
  cases first : firstWith calls tag with
  | none =>
      rw [first] at announced
      cases text with
      | none => rfl
      | some text => contradiction
  | some call =>
      rw [first] at announced
      cases text with
      | none => contradiction
      | some text =>
          have payload : call.payload = terminatedBytes text := Option.some.inj announced
          exact (congrArg Message.terminated payload).trans (terminated_terminatedBytes text)

/-- What is read of an announcement is what there is to know about the system. -/
theorem Announcement.readInfo_eq (announcement : Announcement)
    (carries : Message.Carries expService data (announcement.calls.map Call.item) place)
    (source : Message.getSource ⟨Tagged.ranges 4 24 (announcement.calls.map Call.item), data⟩ =
      .ok announcement.system.addr) :
    readInfo ⟨Tagged.ranges 4 24 (announcement.calls.map Call.item), data⟩ =
      .ok announcement.system.info := by
  have payload (tag : Tag) :
      (firstItem (announcement.calls.map Call.item) tag).map Tagged.payload =
        firstPayload announcement.calls tag := by
    rw [firstItem_map, Option.map_map]
    rfl
  have twincat : parseTwincatVersion
      ((announcement.system.twincatVersion.map twincatBytes).getD []) =
        .ok announcement.system.info.twincatVersion := by
    rw [System.info]
    cases announcement.system.twincatVersion with
    | none => rfl
    | some version => exact parseTwincatVersion_bytes version
  have os : parseOsVersion (announcement.system.osRelease.map OsRelease.bytes) =
      .ok announcement.system.info.osVersion := by
    rw [System.info]
    cases announcement.system.osRelease with
    | none => rfl
    | some release => exact release.parse_bytes
  rw [readInfo, carries.getBytes_eq, payload, announcement.twincatVersion, Outcome.ok_bind,
    twincat, Outcome.ok_bind, carries.getBytes_eq, payload, announcement.osRelease,
    Outcome.ok_bind, os, Outcome.ok_bind, source, Outcome.ok_bind,
    getStr_terminated carries announcement.hostname, Outcome.ok_bind,
    getStr_terminated carries announcement.fingerprint, Outcome.ok_bind]
  rfl

end Ads.Udp
