import Ads.Client.Reads
import Ads.Symbol.Nested

/-!
# A type by its name

`get_type_info_by_name` takes its reply apart by three lengths: the size of its buffer,
the length that the server reports, and the length in front of the entry.  Only the
order of the last two is checked.
-/

namespace Ads.Symbols

open Ads.Bytes Ads.Bytes.Reader Ads.Client Ads.Control Ads.Text

/-! ## The query -/

/-- The index group that describes a type by its name. -/
def getTypeinfoBynameEx : UInt32 := 0xF011

/-- The buffer that a description is read into. -/
@[irreducible]
def readBuffer : List UInt8 :=
  List.replicate 4096 0

theorem length_readBuffer : readBuffer.length = 4096 := by
  rw [readBuffer, List.length_replicate]

/-- The body of the entry among the first `n` bytes of the buffer.  A slice out of range
panics. -/
def typeInfoBody (n : Nat) (readData : List UInt8) : Outcome Error (List UInt8) :=
  if readData.length < n then .panic
  else
    let data := readData.take n
    if data.length < 4 then
      .err (.reply "get type info by name" "response too short" (UInt32.ofNat data.length))
    else
      let entryLength := (leU32 data).toNat
      let bodyEnd := min entryLength data.length
      if bodyEnd < 4 then .panic else .ok ((data.take bodyEnd).drop 4)

/-- Decode the body of a type's description. -/
def decodeTypeInfoByName (data : List UInt8) : Outcome Error TypeInfo := do
  let (decoded, _) ← decodeTypeInfo data none
  match decoded with
  | none => .err (.other "expected top-level type")
  | some typ => .ok typ

section Operations

variable {S : Type} (server : Server S) (device : Device)

/-- The body that the server describes a type with. -/
def getTypeInfoBody (typeName : String) : Operation S (List UInt8) := do
  let (n, readData) ← writeRead server device getTypeinfoBynameEx 0 (utf8Bytes typeName)
    readBuffer
  Operation.ofOutcome (typeInfoBody n readData)

/-- Query a single type by name. -/
def getTypeInfoByName (typeName : String) : Operation S TypeInfo := do
  let body ← getTypeInfoBody server device typeName
  Operation.ofOutcome (decodeTypeInfoByName body)

end Operations

/-! ## The body in the buffer -/

/-- Where the body of the entry in a reply ends. -/
def bodyEnd (reply : Reply) : Nat :=
  min (entryLen reply.bytes) reply.announced

/-- The bytes of a reply from the entry's length to the end of its body. -/
def bodyBytes (reply : Reply) : List UInt8 :=
  (reply.bytes.take (bodyEnd reply)).drop 4

/-- The buffer after a reply. -/
def filledBuffer (reply : Reply) : List UInt8 :=
  overlay reply.bytes readBuffer

variable {reply : Reply}

/-- The length in front of the entry is read from the buffer as from the reply. -/
theorem leU32_take_filledBuffer {n : Nat} (word : 4 ≤ n) :
    (leU32 ((filledBuffer reply).take n)).toNat = entryLen reply.bytes := by
  have zeros : (filledBuffer reply).take 4 =
      (reply.bytes ++ List.replicate 4 0).take 4 := by
    rw [filledBuffer, overlay, readBuffer, List.take_append, List.take_append, List.take_take,
      List.length_replicate, List.drop_replicate, List.take_replicate, List.take_replicate,
      List.length_take]
    congr 2
    omega
  rw [leU32_take _ word, entryLen, ← leU32_append_zeros reply.bytes 4, leU32, zeros, leU32]

theorem length_filledBuffer (reply : Reply) : (filledBuffer reply).length = 4096 := by
  rw [filledBuffer, length_overlay, length_readBuffer]

/-- What the two slices of the buffer give: the whole of it must hold the reported bytes,
and the entry must count its length. -/
theorem typeInfoBody_filledBuffer (reply : Reply) :
    typeInfoBody reply.announced (filledBuffer reply) =
      if 4096 < reply.announced then .panic
      else if reply.announced < 4 then
        .err (.reply "get type info by name" "response too short" (UInt32.ofNat reply.announced))
      else if entryLen reply.bytes < 4 then .panic
      else .ok (((filledBuffer reply).take (bodyEnd reply)).drop 4) := by
  rw [typeInfoBody, length_filledBuffer]
  by_cases within : 4096 < reply.announced
  · rw [if_pos within, if_pos within]
  · have size : ((filledBuffer reply).take reply.announced).length = reply.announced := by
      rw [List.length_take, length_filledBuffer]
      omega
    rw [if_neg within, if_neg within]
    dsimp only
    rw [size]
    by_cases short : reply.announced < 4
    · rw [if_pos short, if_pos short]
    · have counted : min (entryLen reply.bytes) reply.announced < 4 ↔ entryLen reply.bytes < 4 := by
        omega
      rw [if_neg short, if_neg short, leU32_take_filledBuffer (Nat.le_of_not_lt short),
        List.take_take, bodyEnd, Nat.min_eq_left (Nat.min_le_right _ _)]
      simp only [counted]

theorem typeInfoBody_eq_ok_iff {body : List UInt8} :
    typeInfoBody reply.announced (filledBuffer reply) = .ok body ↔
      reply.announced ≤ 4096 ∧ 4 ≤ reply.announced ∧ 4 ≤ entryLen reply.bytes ∧
        body = ((filledBuffer reply).take (bodyEnd reply)).drop 4 := by
  rw [typeInfoBody_filledBuffer, Outcome.ite_panic_eq_ok_iff, Outcome.ite_err_eq_ok_iff,
    Outcome.ite_panic_eq_ok_iff, not_lt, not_lt, not_lt, Outcome.ok.injEq, eq_comm]

theorem typeInfoBody_eq_panic_iff :
    typeInfoBody reply.announced (filledBuffer reply) = .panic ↔
      4096 < reply.announced ∨ 4 ≤ reply.announced ∧ entryLen reply.bytes < 4 := by
  rw [typeInfoBody_filledBuffer]
  by_cases within : 4096 < reply.announced
  · simp [within]
  · by_cases short : reply.announced < 4
    · simp [within, short]
    · by_cases counted : entryLen reply.bytes < 4
      · simp [within, counted, Nat.le_of_not_lt short]
      · simp [within, short, counted]

/-- The bytes of the body are those of the reply exactly if the reply has them all. -/
theorem body_eq_iff {stop : Nat} (word : 4 ≤ stop) (fits : stop ≤ 4096) :
    ((filledBuffer reply).take stop).drop 4 = (reply.bytes.take stop).drop 4 ↔
      stop = 4 ∨ stop ≤ reply.bytes.length := by
  constructor
  · intro same
    have sizes := congrArg List.length same
    rw [List.length_drop, List.length_drop, List.length_take, List.length_take,
      length_filledBuffer] at sizes
    omega
  · rintro (rfl | within)
    · rw [List.drop_eq_nil_of_le (List.length_take_le 4 _),
        List.drop_eq_nil_of_le (List.length_take_le 4 _)]
    · rw [filledBuffer, take_overlay within (fits.trans length_readBuffer.ge)]

/-! ## Safety -/

theorem decodeTypeInfoByName_eq_panic_iff {data : List UInt8} :
    decodeTypeInfoByName data = .panic ↔ ValueFault .type data ∨ NestedOverrun .type data := by
  have record := @decodeTypeInfo_eq_panic_iff data none
  rw [decodeTypeInfoByName, Outcome.bind_eq_panic_iff]
  constructor
  · rintro (panicked | ⟨⟨decoded, parent⟩, -, done⟩)
    · exact record.mp panicked
    · cases decoded <;> cases done
  · intro fault
    exact Or.inl (record.mpr fault)

variable {device : Device} {link : Link Unit} {typeName : String}

theorem getTypeInfoBody_eq_ok_iff {body : List UInt8} :
    (∃ last, getTypeInfoBody (.answering reply) device typeName link = (.ok body, last)) ↔
      Sendable (utf8Bytes typeName) ∧ reply.Accepted ∧
        typeInfoBody reply.announced (filledBuffer reply) = .ok body := by
  constructor
  · rintro ⟨last, ran⟩
    rcases Operation.bind_run_eq_ok_iff.mp ran with ⟨⟨n, readData⟩, after, exchanged, sliced⟩
    obtain ⟨-, sendable, accepted, rfl, rfl⟩ := writeRead_answering_iff.mp ⟨after, exchanged⟩
    exact ⟨sendable, accepted, congrArg Prod.fst sliced⟩
  · rintro ⟨sendable, accepted, sliced⟩
    have fits : readBuffer.length < 2 ^ 32 := by
      rw [length_readBuffer]
      decide
    obtain ⟨last, exchanged⟩ := (@writeRead_answering_iff reply device link getTypeinfoBynameEx 0
      _ _ _ _).mpr ⟨fits, sendable, accepted, rfl, rfl⟩
    exact ⟨last, Operation.bind_run_eq_ok_iff.mpr
      ⟨_, last, exchanged, congrArg (·, last) sliced⟩⟩

theorem getTypeInfoBody_panics_iff :
    (∃ last, getTypeInfoBody (.answering reply) device typeName link = (.panic, last)) ↔
      Sendable (utf8Bytes typeName) ∧ (reply.Short ∨ reply.Accepted ∧
        typeInfoBody reply.announced (filledBuffer reply) = .panic) := by
  have fits : readBuffer.length < 2 ^ 32 := by
    rw [length_readBuffer]
    decide
  rw [getTypeInfoBody, Operation.bind_run_panics_iff, writeRead_answering_panics_iff]
  constructor
  · rintro (⟨-, sendable, short⟩ | ⟨⟨n, readData⟩, after, last, exchanged, sliced⟩)
    · exact ⟨sendable, Or.inl short⟩
    · obtain ⟨-, sendable, accepted, rfl, rfl⟩ := writeRead_answering_iff.mp ⟨after, exchanged⟩
      exact ⟨sendable, Or.inr ⟨accepted, congrArg Prod.fst sliced⟩⟩
  · rintro ⟨sendable, short | ⟨accepted, sliced⟩⟩
    · exact Or.inl ⟨fits, sendable, short⟩
    · obtain ⟨last, exchanged⟩ := (@writeRead_answering_iff reply device link
        getTypeinfoBynameEx 0 _ _ _ _).mpr ⟨fits, sendable, accepted, rfl, rfl⟩
      exact Or.inr ⟨_, last, last, exchanged, congrArg (·, last) sliced⟩

theorem getTypeInfoByName_panics_iff :
    (∃ last, getTypeInfoByName (.answering reply) device typeName link = (.panic, last)) ↔
      Sendable (utf8Bytes typeName) ∧ (reply.Short ∨ reply.Accepted ∧
        (typeInfoBody reply.announced (filledBuffer reply) = .panic ∨
          ∃ body, typeInfoBody reply.announced (filledBuffer reply) = .ok body ∧
            (ValueFault .type body ∨ NestedOverrun .type body))) := by
  rw [getTypeInfoByName, Operation.bind_run_panics_iff, getTypeInfoBody_panics_iff]
  constructor
  · rintro (⟨sendable, short | ⟨accepted, sliced⟩⟩ | ⟨body, after, last, ran, decoded⟩)
    · exact ⟨sendable, Or.inl short⟩
    · exact ⟨sendable, Or.inr ⟨accepted, Or.inl sliced⟩⟩
    · obtain ⟨sendable, accepted, sliced⟩ := getTypeInfoBody_eq_ok_iff.mp ⟨after, ran⟩
      have fault := decodeTypeInfoByName_eq_panic_iff.mp (congrArg Prod.fst decoded)
      exact ⟨sendable, Or.inr ⟨accepted, Or.inr ⟨body, sliced, fault⟩⟩⟩
  · rintro ⟨sendable, short | ⟨accepted, sliced | ⟨body, sliced, fault⟩⟩⟩
    · exact Or.inl ⟨sendable, Or.inl short⟩
    · exact Or.inl ⟨sendable, Or.inr ⟨accepted, sliced⟩⟩
    · obtain ⟨last, ran⟩ := (@getTypeInfoBody_eq_ok_iff reply device link typeName body).mpr
        ⟨sendable, accepted, sliced⟩
      exact Or.inr ⟨body, last, last, ran,
        congrArg (·, last) (decodeTypeInfoByName_eq_panic_iff.mpr fault)⟩

/-- The reply to a query is taken apart without a panic into the bytes it brought: it has a
result word if it reports success, it reports no more bytes than the buffer holds, and if
it reports an entry, the entry counts its length, has come as far as its body goes, and
has no fault in it. -/
def Decodable (reply : Reply) : Prop :=
  ¬reply.Short ∧
    (reply.Accepted → reply.announced ≤ 4096 ∧
      (4 ≤ reply.announced → 4 ≤ entryLen reply.bytes ∧
        (bodyEnd reply = 4 ∨ bodyEnd reply ≤ reply.bytes.length) ∧
        ¬ValueFault .type (bodyBytes reply) ∧ ¬NestedOverrun .type (bodyBytes reply)))

/-- A reply is decodable exactly if it has a result word where it needs one, and what is
sliced from it when it is accepted are its own bytes, with no fault in them. -/
theorem decodable_iff :
    Decodable reply ↔
      ¬reply.Short ∧
        (reply.Accepted → typeInfoBody reply.announced (filledBuffer reply) ≠ .panic ∧
          ∀ body, typeInfoBody reply.announced (filledBuffer reply) = .ok body →
            body = bodyBytes reply ∧ ¬ValueFault .type body ∧ ¬NestedOverrun .type body) := by
  rw [Decodable]
  apply and_congr_right'
  apply imp_congr_right
  intro accepted
  rw [Ne, typeInfoBody_eq_panic_iff, not_or, not_lt, not_and, not_lt, and_assoc]
  apply and_congr_right
  intro within
  have sameBytes (enough : 4 ≤ reply.announced) (counted : 4 ≤ entryLen reply.bytes) :
      ((filledBuffer reply).take (bodyEnd reply)).drop 4 = bodyBytes reply ↔
        bodyEnd reply = 4 ∨ bodyEnd reply ≤ reply.bytes.length :=
    body_eq_iff (Nat.le_min.mpr ⟨counted, enough⟩) ((Nat.min_le_right _ _).trans within)
  constructor
  · intro whole
    refine ⟨fun enough => (whole enough).1, ?_⟩
    intro body sliced
    obtain ⟨-, enough, counted, rfl⟩ := typeInfoBody_eq_ok_iff.mp sliced
    obtain ⟨-, come, noFault, noOverrun⟩ := whole enough
    rw [(sameBytes enough counted).mpr come]
    exact ⟨rfl, noFault, noOverrun⟩
  · rintro ⟨counts, received⟩ enough
    have counted := counts enough
    have sliced := typeInfoBody_eq_ok_iff.mpr ⟨within, enough, counted, rfl⟩
    obtain ⟨same, noFault, noOverrun⟩ := received _ sliced
    rw [same] at noFault noOverrun
    exact ⟨counted, (sameBytes enough counted).mp same, noFault, noOverrun⟩

/-- Querying a type does not panic, and decodes exactly the bytes that came, from the entry's
length up to the end of the entry or of the reported bytes, exactly if the name is too
long to be sent or the reply can be decoded. -/
theorem getTypeInfoByName_safe_iff (reply : Reply) (device : Device) (typeName : String)
    (link : Link Unit) :
    ((∀ last, getTypeInfoByName (.answering reply) device typeName link ≠ (.panic, last)) ∧
      ∀ body last, getTypeInfoBody (.answering reply) device typeName link = (.ok body, last) →
        body = bodyBytes reply) ↔
      (Sendable (utf8Bytes typeName) → Decodable reply) := by
  have panics := @getTypeInfoByName_panics_iff reply device link typeName
  have bodies := fun body => @getTypeInfoBody_eq_ok_iff reply device link typeName body
  rw [decodable_iff]
  constructor
  · rintro ⟨returns, exact⟩ sendable
    have noPanic := (not_congr panics).mp fun ⟨last, panicked⟩ => returns last panicked
    refine ⟨fun short => noPanic ⟨sendable, Or.inl short⟩, fun accepted => ⟨?_, ?_⟩⟩
    · intro sliced
      exact noPanic ⟨sendable, Or.inr ⟨accepted, Or.inl sliced⟩⟩
    · intro body sliced
      obtain ⟨last, ran⟩ := (bodies body).mpr ⟨sendable, accepted, sliced⟩
      refine ⟨exact body last ran, fun fault => ?_, fun overrun => ?_⟩
      · exact noPanic ⟨sendable, Or.inr ⟨accepted, Or.inr ⟨body, sliced, Or.inl fault⟩⟩⟩
      · exact noPanic ⟨sendable, Or.inr ⟨accepted, Or.inr ⟨body, sliced, Or.inr overrun⟩⟩⟩
  · intro decodable
    constructor
    · intro last panicked
      obtain ⟨sendable, short | ⟨accepted, sliced | ⟨body, sliced, fault⟩⟩⟩ :=
        panics.mp ⟨last, panicked⟩
      · exact (decodable sendable).1 short
      · exact ((decodable sendable).2 accepted).1 sliced
      · obtain ⟨-, noFault, noOverrun⟩ := ((decodable sendable).2 accepted).2 body sliced
        rcases fault with fault | overrun
        · exact noFault fault
        · exact noOverrun overrun
    · intro body last ran
      obtain ⟨sendable, accepted, sliced⟩ := (bodies body).mp ⟨last, ran⟩
      exact (((decodable sendable).2 accepted).2 body sliced).1

/-- A reply that reports a byte more than the buffer holds, and one whose entry declares three
bytes, panic; one that reports eight bytes and brings four has zeros decoded for the others. -/
theorem getTypeInfoByName_unsafe :
    let address : AmsAddr := ⟨⟨[5, 1, 2, 3, 1, 1], rfl⟩, 851⟩
    let device : Device := ⟨address, address⟩
    let link : Link Unit := ⟨1, (), []⟩
    (getTypeInfoByName (.answering ⟨0, [0, 0, 0, 0, 1, 16, 0, 0]⟩) device "T" link).1 = .panic ∧
      (getTypeInfoByName (.answering ⟨0, [0, 0, 0, 0, 4, 0, 0, 0, 3, 0, 0, 0]⟩) device "T"
        link).1 = .panic ∧
      (getTypeInfoBody (.answering ⟨0, [0, 0, 0, 0, 8, 0, 0, 0, 8, 0, 0, 0]⟩) device "T"
        link).1 = .ok [0, 0, 0, 0] := by
  decide +kernel

end Ads.Symbols
