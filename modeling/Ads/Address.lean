import Mathlib.Data.List.Forall2
import Ads.NetId
import Ads.Text.Decimal
import Ads.Text.Padded
import Ads.Text.Split

/-!
# AMS addresses as text

A NetID is written as its octets with dots between them, an address as a NetID
and a port with a colon between them.  Octets that are missing in the end are
ones.
-/

namespace Ads

open Ads.Text

namespace AmsNetId

/-- Write the octets of the parts from index `i` on.  A part that has no place or is not
an octet is an error. -/
def writeParts : Nat → List String → AmsNetId → Except String AmsNetId
  | _, [], netid => .ok netid
  | i, part :: parts, netid =>
      match netid.octets[i]?, parseU8 part with
      | some _, some byte =>
          writeParts (i + 1) parts
            ⟨netid.octets.set i byte, (List.length_set ..).trans netid.size⟩
      | _, _ => .error "invalid NetID string"

/-- Parse a NetID from a string (`a.b.c.d.e.f`). -/
def fromStr (text : String) : Except String AmsNetId :=
  writeParts 0 (split '.' text) (new 1 1 1 1 1 1)

/-- Format a NetID in the usual format. -/
def display (netid : AmsNetId) : String :=
  ".".intercalate (netid.octets.map fun octet => toString octet.toNat)

end AmsNetId

namespace AmsAddr

/-- Parse an AMS address from a string (netid:port). -/
def fromStr (text : String) : Except String AmsAddr :=
  match split ':' text with
  | [addr, port] => do
      let netid ← AmsNetId.fromStr addr
      match parseU16 port with
      | some port => .ok { netid, port }
      | none => .error "invalid port number"
  | _ => .error "invalid AMS addr string"

/-- Format an AMS address in the usual format. -/
def display (addr : AmsAddr) : String :=
  addr.netid.display ++ ":" ++ toString addr.port.toNat

end AmsAddr

/-! ## Parts and octets -/

/-- The parts are these octets in decimal. -/
def PartsOf (parts : List String) (bytes : List UInt8) : Prop :=
  List.Forall₂ (fun part byte => parseU8 part = some byte) parts bytes

theorem PartsOf.not_mem {parts : List String} {bytes : List UInt8} (partsOf : PartsOf parts bytes)
    (char : Char) (other : ¬char.isDigit) (unsigned : char ≠ '+') :
    ∀ part ∈ parts, char ∉ part.toList := by
  induction partsOf with
  | nil => exact List.forall_mem_nil _
  | cons parsed _ ih =>
      exact List.forall_mem_cons.mpr ⟨not_mem_of_parseU8 parsed char other unsigned, ih⟩

theorem partsOf_map_toString (bytes : List UInt8) :
    PartsOf (bytes.map fun byte => toString byte.toNat) bytes := by
  induction bytes with
  | nil => exact List.Forall₂.nil
  | cons byte bytes ih => exact List.Forall₂.cons (parseU8_toString byte) ih

namespace AmsNetId

theorem eq_of_octets {first second : AmsNetId} (same : first.octets = second.octets) :
    first = second := by
  cases first
  cases second
  cases same
  rfl

/-- The loop gets to its end exactly if the parts are octets and have places. -/
theorem writeParts_eq_ok_iff {done : List UInt8} {parts : List String} {netid result : AmsNetId}
    (within : done.length ≤ 6) (holds : netid.octets = padded 1 6 done) :
    writeParts done.length parts netid = .ok result ↔
      ∃ bytes, PartsOf parts bytes ∧ done.length + bytes.length ≤ 6 ∧
        result.octets = padded 1 6 (done ++ bytes) := by
  induction parts generalizing done netid with
  | nil =>
      constructor
      · intro ended
        cases ended
        exact ⟨[], List.Forall₂.nil, within, by rwa [List.append_nil]⟩
      · rintro ⟨bytes, partsOf, -, same⟩
        cases partsOf
        rw [List.append_nil, ← holds] at same
        rw [writeParts, eq_of_octets same]
  | cons part parts ih =>
      rw [writeParts]
      by_cases room : done.length < 6
      · have place : done.length < netid.octets.length := by rwa [netid.size]
        rw [List.getElem?_eq_getElem place]
        cases parsed : parseU8 part with
        | none =>
            constructor
            · intro failed
              contradiction
            · rintro ⟨bytes, partsOf, -⟩
              cases partsOf with
              | cons first _ => cases parsed.symm.trans first
        | some byte =>
            have written : netid.octets.set done.length byte = padded 1 6 (done ++ [byte]) := by
              rw [holds, set_padded room]
            have next := @ih (done ++ [byte])
              ⟨netid.octets.set done.length byte, (List.length_set ..).trans netid.size⟩
              (by simp; omega) written
            rw [List.length_append, List.length_singleton] at next
            dsimp only
            rw [next]
            constructor
            · rintro ⟨bytes, partsOf, fits, same⟩
              refine ⟨byte :: bytes, List.Forall₂.cons parsed partsOf, ?_, ?_⟩
              · rw [List.length_cons]
                omega
              · rw [same, List.append_assoc, List.singleton_append]
            · rintro ⟨_, partsOf, fits, same⟩
              cases partsOf with
              | @cons _ other _ bytes first others =>
                  cases parsed.symm.trans first
                  rw [List.length_cons] at fits
                  refine ⟨bytes, others, by omega, ?_⟩
                  rw [same, List.append_assoc, List.singleton_append]
      · have full : netid.octets.length ≤ done.length := by
          rw [netid.size]
          omega
        rw [List.getElem?_eq_none full]
        constructor
        · intro failed
          contradiction
        · rintro ⟨bytes, partsOf, fits, -⟩
          cases partsOf with
          | cons first _ =>
              rw [List.length_cons] at fits
              omega

/-- A NetID is parsed exactly from one to six octets, the missing ones being ones. -/
theorem fromStr_eq_ok_iff {text : String} {netid : AmsNetId} :
    fromStr text = .ok netid ↔
      ∃ bytes, PartsOf (split '.' text) bytes ∧ bytes.length ≤ 6 ∧
        netid.octets = padded 1 6 bytes := by
  have start := @writeParts_eq_ok_iff [] (split '.' text) (new 1 1 1 1 1 1) netid
    (Nat.zero_le 6) rfl
  simpa [fromStr] using start

theorem partsOf_split_display (netid : AmsNetId) :
    PartsOf (split '.' netid.display) netid.octets := by
  have partsOf := partsOf_map_toString netid.octets
  have whole := partsOf.not_mem '.' (by decide) (by decide)
  have filled : netid.octets.map (fun octet => toString octet.toNat) ≠ [] := by
    intro none
    have size := netid.size
    rw [List.map_eq_nil_iff.mp none] at size
    contradiction
  rw [display, show "." = String.singleton '.' from rfl, split_intercalate whole filled]
  exact partsOf

/-- The text of a NetID is parsed as that NetID. -/
theorem fromStr_of_display (netid : AmsNetId) : fromStr netid.display = .ok netid :=
  fromStr_eq_ok_iff.mpr ⟨netid.octets, partsOf_split_display netid, Nat.le_of_eq netid.size,
    (padded_of_length_eq netid.size).symm⟩

end AmsNetId

namespace AmsAddr

/-- An address is parsed exactly from two parts, a NetID and a port. -/
theorem fromStr_eq_ok_split_iff {text : String} {addr : AmsAddr} :
    fromStr text = .ok addr ↔
      ∃ front port, split ':' text = [front, port] ∧
        AmsNetId.fromStr front = .ok addr.netid ∧ parseU16 port = some addr.port := by
  rw [fromStr]
  split
  · rename_i front port parts
    constructor
    · intro parsed
      cases first : AmsNetId.fromStr front with
      | error message =>
          rw [first] at parsed
          contradiction
      | ok netid =>
          rw [first] at parsed
          cases second : parseU16 port with
          | none =>
              rw [second] at parsed
              contradiction
          | some number =>
              rw [second] at parsed
              cases parsed
              exact ⟨front, port, parts, first, second⟩
    · rintro ⟨front', port', parts', first, second⟩
      cases parts.symm.trans parts'
      rw [first, second]
      rfl
  · rename_i others
    constructor
    · intro failed
      contradiction
    · rintro ⟨front, port, parts, -⟩
      exact absurd parts (others front port)

/-- Octets with dots between them have no colon. -/
theorem colon_not_mem {parts : List String} {bytes : List UInt8}
    (partsOf : PartsOf parts bytes) : ':' ∉ (".".intercalate parts).toList := by
  have without := partsOf.not_mem ':' (by decide) (by decide)
  exact not_mem_intercalate '.' (by decide) without

/-- A text that is parsed is octets with dots between them, a colon and a port. -/
theorem exists_of_fromStr {text : String} {addr : AmsAddr} (parsed : fromStr text = .ok addr) :
    ∃ parts port bytes, text = ".".intercalate parts ++ ":" ++ port ∧
      (1 ≤ parts.length ∧ parts.length ≤ 6) ∧ PartsOf parts bytes ∧
        parseU16 port = some addr.port ∧ addr.netid.octets = padded 1 6 bytes := by
  obtain ⟨front, port, sides, netid, word⟩ := fromStr_eq_ok_split_iff.mp parsed
  obtain ⟨bytes, partsOf, fits, octets⟩ := AmsNetId.fromStr_eq_ok_iff.mp netid
  have joined := intercalate_split '.' front
  have whole := eq_of_split_eq_pair sides
  rw [← joined] at whole
  refine ⟨split '.' front, port, bytes, whole, ⟨?_, ?_⟩, partsOf, word, octets⟩
  · exact List.length_pos_iff.mpr (split_ne_nil '.' front)
  · rwa [List.Forall₂.length_eq partsOf]

/-- Octets with dots between them, a colon and a port are parsed. -/
theorem fromStr_written {parts : List String} {port : String} {bytes : List UInt8}
    {addr : AmsAddr} (filled : 1 ≤ parts.length) (few : parts.length ≤ 6)
    (partsOf : PartsOf parts bytes) (word : parseU16 port = some addr.port)
    (octets : addr.netid.octets = padded 1 6 bytes) :
    fromStr (".".intercalate parts ++ ":" ++ port) = .ok addr := by
  have colon := not_mem_of_parseU16 word ':' (by decide) (by decide)
  have dots := partsOf.not_mem '.' (by decide) (by decide)
  have sides := split_eq_pair_of (colon_not_mem partsOf) colon
  have between := split_intercalate dots (List.length_pos_iff.mp filled)
  apply fromStr_eq_ok_split_iff.mpr
  refine ⟨_, port, sides, AmsNetId.fromStr_eq_ok_iff.mpr ⟨bytes, ?_, ?_, octets⟩, word⟩
  · rwa [show "." = String.singleton '.' from rfl, between]
  · rwa [← List.Forall₂.length_eq partsOf]

theorem count_colon {parts : List String} {port : String} {bytes : List UInt8} {word : UInt16}
    (partsOf : PartsOf parts bytes) (parsed : parseU16 port = some word) :
    (".".intercalate parts ++ ":" ++ port).toList.count ':' = 1 := by
  have behind := not_mem_of_parseU16 parsed ':' (by decide) (by decide)
  rw [String.toList_append, String.toList_append, List.count_append, List.count_append,
    List.count_eq_zero_of_not_mem (colon_not_mem partsOf),
    List.count_eq_zero_of_not_mem behind]
  rfl

/-- The text of an address is parsed as that address. -/
theorem fromStr_of_display (addr : AmsAddr) : fromStr addr.display = .ok addr := by
  have octets := addr.netid.size
  have partsOf := partsOf_map_toString addr.netid.octets
  refine fromStr_written ?_ ?_ partsOf (parseU16_toString addr.port)
    (padded_of_length_eq octets).symm
  · rw [List.length_map, octets]
    decide
  · rw [List.length_map, octets]

/-- Address text is parsed exactly and round-trips.  A text is accepted exactly if it has one
colon, in front of it one to six octets with dots between them, and behind it a port; the
octets that are missing are ones.  The text of an address or a NetID gives it back. -/
theorem text_exact :
    (∀ (text : String) (addr : AmsAddr), fromStr text = .ok addr ↔
      text.toList.count ':' = 1 ∧ ∃ parts port bytes,
        text = ".".intercalate parts ++ ":" ++ port ∧
          (1 ≤ parts.length ∧ parts.length ≤ 6) ∧
            List.Forall₂ (fun part byte => parseU8 part = some byte) parts bytes ∧
              parseU16 port = some addr.port ∧
                addr.netid.octets = bytes ++ List.replicate (6 - bytes.length) 1) ∧
      (∀ addr : AmsAddr, fromStr addr.display = .ok addr) ∧
        ∀ netid : AmsNetId, AmsNetId.fromStr netid.display = .ok netid := by
  refine ⟨fun text addr => ?_, fromStr_of_display, AmsNetId.fromStr_of_display⟩
  constructor
  · intro parsed
    obtain ⟨parts, port, bytes, rfl, number, partsOf, word, octets⟩ := exists_of_fromStr parsed
    exact ⟨count_colon partsOf word, parts, port, bytes, rfl, number, partsOf, word, octets⟩
  · rintro ⟨-, parts, port, bytes, rfl, ⟨filled, few⟩, partsOf, word, octets⟩
    exact fromStr_written filled few partsOf word octets

example : fromStr "5.+123.008.9:851" = .ok ⟨.new 5 123 8 9 1 1, 851⟩ := by decide

example : fromStr "5.123.8.9.1.1.:851" = .error "invalid NetID string" := by decide

end AmsAddr

end Ads
