import Ads.Client.AdsDevice
import Ads.Text.Utf8
import Mathlib.Data.Finset.Card

/-!
# Symbol handles

Variables of a PLC by their names.  The client takes a handle for a name, and uses the handle
from then on; a program that goes by the names alone gets the same from a plain store.
-/

namespace Ads.Client

open Ads.Bytes Ads.Control Ads.Text Ads.Transition

/-- The index group that gives out handles by name. -/
def getSymhandleByname : UInt32 := 0xF003

/-- The index group that releases handles. -/
def releaseSymhandle : UInt32 := 0xF006

/-- The index group that describes a symbol by its name. -/
def getSyminfoByname : UInt32 := 0xF007

section Source

variable {S : Type} (server : Server S)

/-- Create a new handle to a single symbol. -/
def Handle.new (device : Device) (symbol : String) : Operation S Handle := do
  let handleBytes ← writeReadExact server device getSymhandleByname 0 (utf8Bytes symbol)
    (List.replicate 4 0)
  pure { device, handle := leU32 handleBytes }

/-- Write data to the variable. -/
def Handle.write (handle : Handle) (buf : List UInt8) : Operation S Unit :=
  Client.write server handle.device rwSymvalByhandle handle.handle buf

/-- Read data of given type. -/
def Handle.readValue {T : Type} (type : ByteValue T) (handle : Handle) : Operation S T :=
  Client.readValue server handle.device type rwSymvalByhandle handle.handle

/-- Write data of given type. -/
def Handle.writeValue {T : Type} (type : ByteValue T) (handle : Handle) (value : T) :
    Operation S Unit :=
  Client.write server handle.device rwSymvalByhandle handle.handle (type.asBytes value)

/-- Release the handle, whatever comes of it. -/
def Handle.drop (handle : Handle) (link : Link S) : Outcome Error Unit × Link S :=
  match Client.write server handle.device releaseSymhandle 0 (u32Bytes handle.handle) link with
  | (.panic, after) => (.panic, after)
  | (_, after) => (.ok (), after)

/-- Get symbol size by name. -/
def getSize (device : Device) (symbol : String) : Operation S Nat := do
  let buf ← writeReadExact server device getSyminfoByname 0 (utf8Bytes symbol)
    (List.replicate 12 0)
  pure (leU32 (buf.drop 8)).toNat

/-- Get symbol location (index group and index offset) by name. -/
def getLocation (device : Device) (symbol : String) : Operation S (UInt32 × UInt32) := do
  let buf ← writeReadExact server device getSyminfoByname 0 (utf8Bytes symbol)
    (List.replicate 12 0)
  pure (leU32 buf, leU32 (buf.drop 4))

end Source

/-! ## A program that uses symbols -/

/-- What a program does with symbols.  A handle that it has taken is known by the number of
handles taken before it. -/
inductive SymbolAction (T : Type)
  | new (symbol : String)
  | read (slot : Nat) (buf : List UInt8)
  | write (slot : Nat) (buf : List UInt8)
  | readValue (slot : Nat)
  | writeValue (slot : Nat) (value : T)
  | drop (slot : Nat)
  | getSize (symbol : String)
  | getLocation (symbol : String)

/-- What it gets. -/
inductive SymbolResult (T : Type)
  | taken (outcome : Outcome Error Unit)
  | read (outcome : Outcome Error (List UInt8))
  | written (outcome : Outcome Error Unit)
  | value (outcome : Outcome Error T)
  | dropped (outcome : Outcome Error Unit)
  | size (outcome : Outcome Error Nat)
  | location (outcome : Outcome Error (UInt32 × UInt32))
  deriving DecidableEq

/-- The handles that the program has taken, of which it may have dropped some. -/
structure SymbolHandles (S : Type) where
  handles : List (Option Handle)
  link : Link S

namespace SymbolHandles

variable {S T : Type} (server : Server S) (device : Device) (type : ByteValue T)

/-- Use a handle, which must not have been dropped. -/
def use (symbols : SymbolHandles S) (slot : Nat) {α : Type} (result : α → SymbolResult T)
    (operation : Handle → Link S → α × Link S) : Option (SymbolResult T × SymbolHandles S) :=
  (symbols.handles[slot]?.join).map fun handle =>
    let (outcome, link) := operation handle symbols.link
    (result outcome, { symbols with link := link })

/-- Take an action. -/
def step (symbols : SymbolHandles S) : SymbolAction T → Option (SymbolResult T × SymbolHandles S)
  | .new symbol =>
      match Handle.new server device symbol symbols.link with
      | (.ok handle, link) => some (.taken (.ok ()), ⟨symbols.handles ++ [some handle], link⟩)
      | (.err error, link) => some (.taken (.err error), ⟨symbols.handles, link⟩)
      | (.panic, link) => some (.taken .panic, ⟨symbols.handles, link⟩)
  | .read slot buf => symbols.use slot .read fun handle => handle.read server buf
  | .write slot buf => symbols.use slot .written fun handle => handle.write server buf
  | .readValue slot => symbols.use slot .value fun handle => handle.readValue server type
  | .writeValue slot value =>
      symbols.use slot .written fun handle => handle.writeValue server type value
  | .drop slot =>
      (symbols.use slot .dropped fun handle => handle.drop server).map fun (result, after) =>
        (result, { after with handles := after.handles.set slot none })
  | .getSize symbol =>
      let (outcome, link) := getSize server device symbol symbols.link
      some (.size outcome, { symbols with link := link })
  | .getLocation symbol =>
      let (outcome, link) := getLocation server device symbol symbols.link
      some (.location outcome, { symbols with link := link })

end SymbolHandles

/-! ## The memory of a PLC -/

/-- There is no such symbol. -/
def Refusal.symbolNotFound : Refusal := ⟨0x710, by decide⟩

/-- The size is invalid. -/
def Refusal.invalidSize : Refusal := ⟨0x705, by decide⟩

/-- There is no memory left. -/
def Refusal.noMemory : Refusal := ⟨0x70A, by decide⟩

/-- A variable: where it is, and the bytes that it holds. -/
structure Variable where
  group : UInt32
  offset : UInt32
  content : List UInt8
  bound : content.length < 2 ^ 32

/-- Variables by their names. -/
abbrev Memory : Type :=
  List UInt8 → Option Variable

/-- The front of the bytes. -/
def upTo (count : Nat) (bytes : List UInt8) : AtMost count :=
  ⟨bytes.take count, List.length_take_le count bytes⟩

namespace Memory

/-- The variable of a name. -/
def find (memory : Memory) (name : List UInt8) : Response Variable :=
  match memory name with
  | some found => .ok found
  | none => .error .symbolNotFound

/-- Read from the front of a variable. -/
def read (memory : Memory) (name : List UInt8) (count : Nat) : Response (AtMost count) :=
  (memory.find name).map fun found => upTo count found.content

/-- Write over the front of a variable, which does not grow. -/
def write (memory : Memory) (name data : List UInt8) : Memory × Response Unit :=
  match memory name with
  | some found =>
      if fits : data.length ≤ found.content.length then
        (Function.update memory name (some { found with
          content := data ++ found.content.drop data.length
          bound := by
            rw [List.length_append, List.length_drop, Nat.add_sub_cancel' fits]
            exact found.bound }), .ok ())
      else (memory, .error .invalidSize)
  | none => (memory, .error .symbolNotFound)

end Memory

/-- The description of a variable: its group, its offset and its size. -/
def Variable.info (found : Variable) : List UInt8 :=
  u32Bytes found.group ++ u32Bytes found.offset ++
    u32Bytes (UInt32.ofNat found.content.length)

/-- How a PLC picks the next handle: one that is not in use, as long as there are any. -/
structure HandlePolicy where
  pick : Finset UInt32 → UInt32
  fresh : ∀ opened, opened.card < 2 ^ 32 → pick opened ∉ opened

/-- A PLC: its memory, the handles in use, what they are handles of, and how many there can
be. -/
structure Plc where
  memory : Memory
  names : UInt32 → List UInt8
  opened : Finset UInt32
  capacity : Nat
  limited : opened.card ≤ capacity
  few : capacity ≤ 2 ^ 32

namespace Plc

variable (policy : HandlePolicy)

/-- Give out a handle. -/
def take (plc : Plc) (name : List UInt8) : Plc × Response UInt32 :=
  match plc.memory name with
  | some _ =>
      if room : plc.opened.card < plc.capacity then
        let handle := policy.pick plc.opened
        ({ plc with
            names := Function.update plc.names handle name
            opened := insert handle plc.opened
            limited := (Finset.card_insert_le handle plc.opened).trans room }, .ok handle)
      else (plc, .error .noMemory)
  | none => (plc, .error .symbolNotFound)

/-- Take a handle back. -/
def release (plc : Plc) (handle : UInt32) : Plc × Response Unit :=
  if handle ∈ plc.opened then
    ({ plc with
        opened := plc.opened.erase handle
        limited := (Finset.card_erase_le).trans plc.limited }, .ok ())
  else (plc, .error .symbolNotFound)

/-- Write to the variable of a handle. -/
def write (plc : Plc) (handle : UInt32) (data : List UInt8) : Plc × Response Unit :=
  if handle ∈ plc.opened then
    let (memory, response) := plc.memory.write (plc.names handle) data
    ({ plc with memory := memory }, response)
  else (plc, .error .symbolNotFound)

/-- The PLC as a device. -/
def device : AdsDevice Plc where
  devInfo plc := (plc, .error .invalidGroup)
  readState plc := (plc, .error .invalidGroup)
  writeControl plc _ _ := (plc, .error .invalidGroup)
  read plc indexGroup indexOffset count :=
    (plc, if indexGroup = rwSymvalByhandle then
        if indexOffset ∈ plc.opened then plc.memory.read (plc.names indexOffset) count
        else .error .symbolNotFound
      else .error .invalidGroup)
  write plc indexGroup indexOffset data :=
    if indexGroup = rwSymvalByhandle then plc.write indexOffset data
    else if indexGroup = releaseSymhandle then plc.release (leU32 data)
    else (plc, .error .invalidGroup)
  readWrite plc indexGroup _ data count :=
    if indexGroup = getSymhandleByname then
      let (after, response) := plc.take policy data
      (after, response.map fun handle => upTo count (u32Bytes handle))
    else if indexGroup = getSyminfoByname then
      (plc, (plc.memory.find data).map fun found => upTo count found.info)
    else (plc, .error .invalidGroup)
  addNotification plc _ := (plc, .error .invalidGroup)
  deleteNotification plc _ := (plc, .error .invalidGroup)

end Plc

/-! ## Going by the names -/

/-- What a program that goes by the names sees: the memory, the names that it has handles for,
and the number of handles that it can still take. -/
structure SymbolStore where
  memory : Memory
  slots : List (Option (List UInt8))
  free : Nat

namespace SymbolStore

variable {T : Type} (type : ByteValue T)

/-- Take a handle for a name. -/
def take (store : SymbolStore) (name : List UInt8) : SymbolStore × Response Unit :=
  match store.memory name with
  | some _ =>
      match store.free with
      | 0 => (store, .error .noMemory)
      | free + 1 => (⟨store.memory, store.slots ++ [some name], free⟩, .ok ())
  | none => (store, .error .symbolNotFound)

/-- Read the whole buffer from a variable. -/
def readExact (store : SymbolStore) (name : List UInt8) (count : Nat) :
    Outcome Error (List UInt8) :=
  (requested .read store (count < 2 ^ 32) (store, store.memory.read name count)).1 >>=
    exactly "read data"

/-- Write to a variable. -/
def write (store : SymbolStore) (name data : List UInt8) : Outcome Error Unit × SymbolStore :=
  let (memory, response) := store.memory.write name data
  requested .write store (Writable data) ({ store with memory := memory }, response)

/-- The variable of a symbol. -/
def find (store : SymbolStore) (name : List UInt8) : Outcome Error Variable :=
  (requested .readWrite store (Sendable name) (store, store.memory.find name)).1

/-- Use a name whose handle has not been dropped. -/
def use (store : SymbolStore) (slot : Nat) {α : Type} (result : α → SymbolResult T)
    (operation : List UInt8 → α × SymbolStore) : Option (SymbolResult T × SymbolStore) :=
  (store.slots[slot]?.join).map fun name =>
    let (outcome, after) := operation name
    (result outcome, after)

/-- Take an action. -/
def step (store : SymbolStore) : SymbolAction T → Option (SymbolResult T × SymbolStore)
  | .new symbol =>
      let (outcome, after) := requested .readWrite store (Sendable (utf8Bytes symbol))
        (store.take (utf8Bytes symbol))
      some (.taken outcome, after)
  | .read slot buf =>
      store.use slot .read fun name => (store.readExact name buf.length, store)
  | .write slot buf => store.use slot .written fun name => store.write name buf
  | .readValue slot =>
      store.use slot .value fun name => (type.ofBytes <$> store.readExact name type.size, store)
  | .writeValue slot value =>
      store.use slot .written fun name => store.write name (type.asBytes value)
  | .drop slot =>
      store.use slot .dropped fun _ =>
        (.ok (), ⟨store.memory, store.slots.set slot none, store.free + 1⟩)
  | .getSize symbol =>
      some (.size ((fun found => found.content.length) <$> store.find (utf8Bytes symbol)), store)
  | .getLocation symbol =>
      some (.location ((fun found => (found.group, found.offset)) <$>
        store.find (utf8Bytes symbol)), store)

end SymbolStore

/-! ## One operation -/

/-- What is made of the value of an operation. -/
theorem Operation.bind_pure_run {S α β : Type} (operation : Operation S α) (next : α → β)
    (link : Link S) : (operation >>= fun value => pure (next value)) link =
      (next <$> (operation link).1, (operation link).2) := by
  rcases ran : operation link with ⟨value | error | _, after⟩
  · exact bind_run_ok ran
  · exact bind_run_err ran
  · exact bind_run_panic ran

theorem exactly_upTo {context : String} {bytes : List UInt8} {count : Nat}
    (size : bytes.length = count) : exactly context (upTo count bytes) = .ok bytes := by
  have whole : (upTo count bytes).val = bytes := List.take_of_length_le size.le
  rw [exactly, whole, if_pos size]

section Operations

variable {policy : HandlePolicy} {server : Server Plc} {device : Device} {link : Link Plc}

/-- Data of a fixed size passes the check of an exact operation. -/
theorem requested_exact {S α : Type} {cmd : Command} {state after : S} {fits : Prop}
    [Decidable fits] {response : Response α} {encode : α → List UInt8} {count : Nat}
    {context : String} (size : ∀ value, (encode value).length = count) :
    ((requested cmd state fits (after, response.map fun value => upTo count (encode value))).1 >>=
        exactly context) = encode <$> (requested cmd state fits (after, response)).1 := by
  unfold requested
  by_cases allowed : fits
  · rw [if_pos allowed, if_pos allowed]
    cases response with
    | ok value => exact exactly_upTo (size value)
    | error refusal => rfl
  · rw [if_neg allowed, if_neg allowed]
    rfl

/-- An operation on data of a fixed size that the PLC returns. -/
theorem writeReadExact_fixed {α β : Type} {indexGroup : UInt32} {writeData data : List UInt8}
    {after : Plc} {response : Response α} {encode : α → List UInt8} {next : List UInt8 → β}
    (serves : (Plc.device policy).ServedBy server)
    (answer : (Plc.device policy).readWrite link.server indexGroup 0 writeData data.length =
      (after, response.map fun value => upTo data.length (encode value)))
    (few : data.length < 2 ^ 32) (size : ∀ value, (encode value).length = data.length) :
    withServer ((writeReadExact server device indexGroup 0 writeData data >>=
        fun buf => pure (next buf)) link) =
      ((fun value => next (encode value)) <$>
          (requested .readWrite link.server (Sendable writeData) (after, response)).1,
        (requested .readWrite link.server (Sendable writeData) (after, response)).2) := by
  have view := @writeReadExact_view Plc server (Plc.device policy) device link indexGroup 0
    writeData data serves
  rw [answer, requested_exact size] at view
  refine (@withServer_bind Plc link _ _ _ (fun buf => pure (next buf)) _
    (fun buf => .ok (next buf)) view fun _ _ => rfl).trans ?_
  by_cases sendable : Sendable writeData
  · simp only [requested, few, sendable, and_self, if_true]
    cases response <;> rfl
  · simp only [requested, sendable, and_false, if_false]
    rfl

/-- A handle is taken for a name. -/
theorem Handle.new_view (serves : (Plc.device policy).ServedBy server) (symbol : String) :
    withServer (Handle.new server device symbol link) =
      ((fun raw => ⟨device, raw⟩) <$> (requested .readWrite link.server
          (Sendable (utf8Bytes symbol)) (link.server.take policy (utf8Bytes symbol))).1,
        (requested .readWrite link.server
          (Sendable (utf8Bytes symbol)) (link.server.take policy (utf8Bytes symbol))).2) := by
  have word : ∀ raw, leU32 (u32Bytes raw) = raw := by
    intro raw
    rw [← List.append_nil (u32Bytes raw), leU32_u32Bytes_append]
  have view := @writeReadExact_fixed policy server device link UInt32 Handle getSymhandleByname
    (utf8Bytes symbol) (List.replicate 4 0) _ _ u32Bytes
    (fun buf => { device, handle := leU32 buf }) serves rfl (by decide) length_u32Bytes
  simp only [word] at view
  exact view

/-- What is read through a handle in use is read by its name. -/
theorem Handle.read_view (serves : (Plc.device policy).ServedBy server) {handle : Handle}
    (inUse : handle.handle ∈ link.server.opened) (buf : List UInt8) :
    withServer (handle.read server buf link) =
      ((requested .read link.server (buf.length < 2 ^ 32) (link.server,
          link.server.memory.read (link.server.names handle.handle) buf.length)).1 >>=
        exactly "read data", link.server) := by
  have view := @readExact_view Plc server (Plc.device policy) handle.device link rwSymvalByhandle
    handle.handle buf serves
  have answer : (Plc.device policy).read link.server rwSymvalByhandle handle.handle buf.length =
      (link.server, link.server.memory.read (link.server.names handle.handle) buf.length) := by
    simp only [Plc.device, if_pos inUse, if_true]
  rw [answer] at view
  rw [Handle.read, view]
  refine congrArg (Prod.mk _) ?_
  rw [requested]
  split <;> rfl

/-- What is written through a handle in use is written under its name. -/
theorem Handle.write_view (serves : (Plc.device policy).ServedBy server) {handle : Handle}
    (buf : List UInt8) :
    withServer (handle.write server buf link) =
      requested .write link.server (Writable buf) (link.server.write handle.handle buf) :=
  Client.write_view (serves.write link.server rwSymvalByhandle handle.handle buf)

/-- A handle is dropped, and not in use any more. -/
theorem Handle.drop_view (serves : (Plc.device policy).ServedBy server) (handle : Handle) :
    withServer (handle.drop server link) = (.ok (), (link.server.release handle.handle).1) := by
  have word : leU32 (u32Bytes handle.handle) = handle.handle := by
    rw [← List.append_nil (u32Bytes handle.handle), leU32_u32Bytes_append]
  have small : Writable (u32Bytes handle.handle) := by
    rw [Writable, length_u32Bytes]
    decide
  obtain ⟨after, ran, same⟩ := exists_of_withServer (@Client.write_view Plc server handle.device
    link releaseSymhandle 0 (u32Bytes handle.handle)
    ((Plc.device policy).write link.server releaseSymhandle 0 (u32Bytes handle.handle))
    (serves.write link.server releaseSymhandle 0 (u32Bytes handle.handle)))
  have answer : (Plc.device policy).write link.server releaseSymhandle 0
      (u32Bytes handle.handle) = link.server.release handle.handle := by
    rw [Plc.device]
    dsimp only
    rw [if_neg (by decide), if_pos rfl, word]
  rw [answer, requested, if_pos small] at ran same
  rw [Handle.drop, ran]
  generalize link.server.release handle.handle = released at same ⊢
  rcases released with ⟨plc, refusal | done⟩
  · exact congrArg (Prod.mk _) same
  · exact congrArg (Prod.mk _) same

theorem Variable.length_info (found : Variable) : found.info.length = 12 := by
  simp [Variable.info]

/-- What is said of a symbol is said of the variable of its name. -/
theorem symbolInfo_view {β : Type} (serves : (Plc.device policy).ServedBy server)
    (symbol : String) (next : List UInt8 → β) :
    withServer ((writeReadExact server device getSyminfoByname 0 (utf8Bytes symbol)
        (List.replicate 12 0) >>= fun buf => pure (next buf)) link) =
      ((fun found : Variable => next found.info) <$> (requested .readWrite link.server
          (Sendable (utf8Bytes symbol))
          (link.server, link.server.memory.find (utf8Bytes symbol))).1, link.server) := by
  rw [writeReadExact_fixed serves rfl (by decide) Variable.length_info]
  refine congrArg (Prod.mk _) ?_
  rw [requested]
  split <;> rfl

theorem getSize_view (serves : (Plc.device policy).ServedBy server) (symbol : String) :
    withServer (getSize server device symbol link) =
      ((fun found : Variable => found.content.length) <$> (requested .readWrite link.server
          (Sendable (utf8Bytes symbol))
          (link.server, link.server.memory.find (utf8Bytes symbol))).1, link.server) := by
  have view := @symbolInfo_view policy server device link Nat serves symbol
    fun buf => (leU32 (buf.drop 8)).toNat
  have size : ∀ found : Variable, (leU32 (found.info.drop 8)).toNat = found.content.length := by
    intro found
    have front : (u32Bytes found.group ++ u32Bytes found.offset).length = 8 := by simp
    rw [Variable.info, List.drop_left' front, ← List.append_nil (u32Bytes (UInt32.ofNat _)),
      leU32_u32Bytes_append, UInt32.toNat_ofNat_of_lt' found.bound]
  simp only [size] at view
  exact view

theorem getLocation_view (serves : (Plc.device policy).ServedBy server) (symbol : String) :
    withServer (getLocation server device symbol link) =
      ((fun found : Variable => (found.group, found.offset)) <$> (requested .readWrite link.server
          (Sendable (utf8Bytes symbol))
          (link.server, link.server.memory.find (utf8Bytes symbol))).1, link.server) := by
  have view := @symbolInfo_view policy server device link (UInt32 × UInt32) serves symbol
    fun buf => (leU32 buf, leU32 (buf.drop 4))
  have location : ∀ found : Variable,
      (leU32 found.info, leU32 (found.info.drop 4)) = (found.group, found.offset) := by
    intro found
    rw [Variable.info, List.append_assoc, leU32_u32Bytes_append,
      List.drop_left' (length_u32Bytes _), leU32_u32Bytes_append]
  simp only [location] at view
  exact view

end Operations

/-! ## Handles and names -/

/-- The program's handles stand for the names that it has them for: each is in use, no two are
the same, and apart from them the PLC has the handles in use that others have. -/
structure SymbolHandles.Matches (others : Finset UInt32) (symbols : SymbolHandles Plc)
    (store : SymbolStore) : Prop where
  memory : symbols.link.server.memory = store.memory
  slots : store.slots = symbols.handles.map (Option.map fun handle : Handle =>
    symbols.link.server.names handle.handle)
  opened : ∀ raw, raw ∈ symbols.link.server.opened ↔
    raw ∈ others ∨ ∃ (slot : Nat) (handle : Handle),
      symbols.handles[slot]? = some (some handle) ∧ handle.handle = raw
  apart : ∀ (slot : Nat) (handle : Handle), symbols.handles[slot]? = some (some handle) →
    handle.handle ∉ others
  distinct : ∀ (slot other : Nat) (handle another : Handle),
    symbols.handles[slot]? = some (some handle) → symbols.handles[other]? = some (some another) →
    handle.handle = another.handle → slot = other
  free : symbols.link.server.opened.card + store.free = symbols.link.server.capacity

namespace SymbolHandles.Matches

variable {others : Finset UInt32} {symbols : SymbolHandles Plc} {store : SymbolStore}

/-- A handle that the program has is in use. -/
theorem inUse (isMatch : symbols.Matches others store) {slot : Nat} {handle : Handle}
    (found : symbols.handles[slot]? = some (some handle)) :
    handle.handle ∈ symbols.link.server.opened :=
  (isMatch.opened handle.handle).mpr (.inr ⟨slot, handle, found, rfl⟩)

/-- The name of a slot is that of its handle. -/
theorem name (isMatch : symbols.Matches others store) (slot : Nat) :
    (store.slots[slot]?).join = ((symbols.handles[slot]?).join).map fun handle =>
      symbols.link.server.names handle.handle := by
  rw [isMatch.slots, List.getElem?_map]
  rcases symbols.handles[slot]? with _ | _ | handle <;> rfl

/-- Only the memory has changed. -/
theorem remember (isMatch : symbols.Matches others store) {after : Link Plc} {memory : Memory}
    (same : after.server = { symbols.link.server with memory := memory }) :
    SymbolHandles.Matches others ⟨symbols.handles, after⟩ { store with memory := memory } := by
  obtain ⟨handles, link⟩ := symbols
  obtain ⟨-, slots, opened, apart, distinct, free⟩ := isMatch
  constructor
  all_goals dsimp only at *
  · rw [same]
  · rw [slots, same]
  · rw [same]
    exact opened
  · exact apart
  · exact distinct
  · rw [same]
    exact free

/-- Nothing has changed. -/
theorem still (isMatch : symbols.Matches others store) {after : Link Plc}
    (same : after.server = symbols.link.server) :
    SymbolHandles.Matches others ⟨symbols.handles, after⟩ store :=
  @remember others symbols store isMatch after store.memory (by rw [same, ← isMatch.memory])

/-- A handle that was not in use has been taken. -/
theorem take (isMatch : symbols.Matches others store) {after : Link Plc} {device : Device}
    {raw : UInt32} {name : List UInt8} {free : Nat}
    (isNew : raw ∉ symbols.link.server.opened) (room : store.free = free + 1)
    (memory : after.server.memory = symbols.link.server.memory)
    (capacity : after.server.capacity = symbols.link.server.capacity)
    (opened : after.server.opened = insert raw symbols.link.server.opened)
    (names : after.server.names = Function.update symbols.link.server.names raw name) :
    SymbolHandles.Matches others ⟨symbols.handles ++ [some ⟨device, raw⟩], after⟩
      ⟨store.memory, store.slots ++ [some name], free⟩ := by
  have old : ∀ {slot : Nat} {handle : Handle}, symbols.handles[slot]? = some (some handle) →
      (symbols.handles ++ [some ⟨device, raw⟩])[slot]? = some (some handle) := by
    intro slot handle found
    rw [List.getElem?_append_left (List.getElem?_eq_some_iff.mp found).1, found]
  have cases : ∀ {slot : Nat} {handle : Handle},
      (symbols.handles ++ [some ⟨device, raw⟩])[slot]? = some (some handle) →
      symbols.handles[slot]? = some (some handle) ∨
        slot = symbols.handles.length ∧ handle = ⟨device, raw⟩ := by
    intro slot handle found
    rw [List.getElem?_append] at found
    split at found
    · exact .inl found
    · rename_i beyond
      rw [List.getElem?_singleton] at found
      split at found
      · cases found
        exact .inr ⟨by omega, rfl⟩
      · cases found
  have unused : ∀ {slot : Nat} {handle : Handle}, symbols.handles[slot]? = some (some handle) →
      handle.handle ≠ raw :=
    fun found same => isNew (same ▸ isMatch.inUse found)
  constructor
  all_goals dsimp only
  · rw [memory, isMatch.memory]
  · rw [List.map_append, isMatch.slots, names]
    congr 1
    · apply List.map_congr_left
      rintro (_ | handle) member
      · rfl
      · obtain ⟨slot, found⟩ := List.mem_iff_getElem?.mp member
        rw [Option.map_some, Option.map_some, Function.update_of_ne (unused found)]
    · simp
  · intro other
    rw [opened, Finset.mem_insert, isMatch.opened other]
    constructor
    · rintro (rfl | others | ⟨slot, handle, found, same⟩)
      · exact .inr ⟨_, ⟨device, other⟩, List.getElem?_concat_length, rfl⟩
      · exact .inl others
      · exact .inr ⟨slot, handle, old found, same⟩
    · rintro (others | ⟨slot, handle, found, rfl⟩)
      · exact .inr (.inl others)
      · rcases cases found with found | ⟨-, rfl⟩
        · exact .inr (.inr ⟨slot, handle, found, rfl⟩)
        · exact .inl rfl
  · intro slot handle found
    rcases cases found with found | ⟨-, rfl⟩
    · exact isMatch.apart slot handle found
    · exact fun others => isNew ((isMatch.opened raw).mpr (.inl others))
  · intro slot other handle another found found' same
    rcases cases found with found | ⟨rfl, rfl⟩
    · rcases cases found' with found' | ⟨-, rfl⟩
      · exact isMatch.distinct slot other handle another found found' same
      · exact absurd same (unused found)
    · rcases cases found' with found' | ⟨rfl, -⟩
      · exact absurd same.symm (unused found')
      · rfl
  · have total := isMatch.free
    rw [opened, capacity, Finset.card_insert_of_notMem isNew]
    omega

/-- A handle has been released. -/
theorem drop (isMatch : symbols.Matches others store) {after : Link Plc} {slot : Nat}
    {handle : Handle} (found : symbols.handles[slot]? = some (some handle))
    (same : after.server = (symbols.link.server.release handle.handle).1) :
    SymbolHandles.Matches others ⟨symbols.handles.set slot none, after⟩
      ⟨store.memory, store.slots.set slot none, store.free + 1⟩ := by
  have inUse := isMatch.inUse found
  have released : after.server.memory = symbols.link.server.memory ∧
      after.server.names = symbols.link.server.names ∧
      after.server.opened = symbols.link.server.opened.erase handle.handle ∧
      after.server.capacity = symbols.link.server.capacity := by
    rw [same, Plc.release, if_pos inUse]
    exact ⟨rfl, rfl, rfl, rfl⟩
  obtain ⟨memory, names, opened, capacity⟩ := released
  -- the other slots are as before
  have kept : ∀ {other : Nat} {another : Handle},
      (symbols.handles.set slot none)[other]? = some (some another) ↔
        other ≠ slot ∧ symbols.handles[other]? = some (some another) := by
    intro other another
    rw [List.getElem?_set]
    by_cases here : slot = other
    · rw [if_pos here]
      constructor
      · intro impossible
        split at impossible <;> cases impossible
      · rintro ⟨elsewhere, -⟩
        exact absurd here.symm elsewhere
    · rw [if_neg here]
      exact (and_iff_right (Ne.symm here)).symm
  constructor
  all_goals dsimp only
  · rw [memory, isMatch.memory]
  · rw [List.map_set, ← names.symm, ← isMatch.slots]
    rfl
  · intro other
    rw [opened, Finset.mem_erase, isMatch.opened other]
    constructor
    · rintro ⟨differs, others | ⟨place, another, at', rfl⟩⟩
      · exact .inl others
      · refine .inr ⟨place, another, kept.mpr ⟨?_, at'⟩, rfl⟩
        rintro rfl
        cases at'.symm.trans found
        exact differs rfl
    · rintro (others | ⟨place, another, at', rfl⟩)
      · refine ⟨?_, .inl others⟩
        rintro rfl
        exact isMatch.apart slot handle found others
      · obtain ⟨elsewhere, at'⟩ := kept.mp at'
        refine ⟨fun same => ?_, .inr ⟨place, another, at', rfl⟩⟩
        exact elsewhere (isMatch.distinct place slot another handle at' found same)
  · intro place another at'
    exact isMatch.apart place another (kept.mp at').2
  · intro place other handle another first second
    exact isMatch.distinct place other handle another (kept.mp first).2 (kept.mp second).2
  · have total := isMatch.free
    have some := Finset.card_pos.mpr ⟨handle.handle, inUse⟩
    rw [opened, capacity, Finset.card_erase_of_mem inUse]
    omega

end SymbolHandles.Matches

/-! ## Every action -/

/-- Where a request is not sent, it does not matter who would have answered it. -/
theorem requested_fst {S S' α : Type} {cmd : Command} {state after : S} {state' after' : S'}
    {fits : Prop} [Decidable fits] (response : Response α) :
    (requested cmd state fits (after, response)).1 =
      (requested cmd state' fits (after', response)).1 := by
  unfold requested
  split <;> rfl

namespace SymbolHandles

variable {T : Type} {policy : HandlePolicy} {server : Server Plc} {device : Device}
  {type : ByteValue T} {others : Finset UInt32} {symbols : SymbolHandles Plc}
  {store : SymbolStore}

/-- Operations that agree on a handle and its name agree on a slot. -/
theorem use_matches (isMatch : symbols.Matches others store) {slot : Nat} {α : Type}
    (result : α → SymbolResult T) (operation : Handle → Link Plc → α × Link Plc)
    (byName : List UInt8 → α × SymbolStore)
    (agree : ∀ handle, symbols.handles[slot]? = some (some handle) →
      (operation handle symbols.link).1 =
          (byName (symbols.link.server.names handle.handle)).1 ∧
        Matches others ⟨symbols.handles, (operation handle symbols.link).2⟩
          (byName (symbols.link.server.names handle.handle)).2) :
    Option.Rel (Agree (Matches others)) (symbols.use slot result operation)
      (store.use slot result byName) := by
  rw [use, SymbolStore.use, isMatch.name]
  cases found : symbols.handles[slot]? with
  | none => exact .none
  | some entry =>
      cases entry with
      | none => exact .none
      | some handle =>
          obtain ⟨output, matched⟩ := agree handle found
          exact .some ⟨congrArg result output, matched⟩

/-- A handle is read, and its name is. -/
theorem read_matches (serves : (Plc.device policy).ServedBy server)
    (isMatch : symbols.Matches others store) {slot : Nat} {handle : Handle}
    (found : symbols.handles[slot]? = some (some handle)) (buf : List UInt8) :
    (handle.read server buf symbols.link).1 =
        store.readExact (symbols.link.server.names handle.handle) buf.length ∧
      (handle.read server buf symbols.link).2.server = symbols.link.server := by
  obtain ⟨after, ran, same⟩ :=
    exists_of_withServer (Handle.read_view serves (isMatch.inUse found) buf)
  rw [ran, SymbolStore.readExact, isMatch.memory]
  exact ⟨congrArg (· >>= exactly "read data") (requested_fst _), same⟩

/-- A handle is written to, and its name is. -/
theorem write_matches (serves : (Plc.device policy).ServedBy server)
    (isMatch : symbols.Matches others store) {slot : Nat} {handle : Handle}
    (found : symbols.handles[slot]? = some (some handle)) (data : List UInt8) :
    (handle.write server data symbols.link).1 =
        (store.write (symbols.link.server.names handle.handle) data).1 ∧
      Matches others ⟨symbols.handles, (handle.write server data symbols.link).2⟩
        (store.write (symbols.link.server.names handle.handle) data).2 := by
  obtain ⟨after, ran, same⟩ :=
    exists_of_withServer (@Handle.write_view policy server symbols.link serves handle data)
  rw [ran, SymbolStore.write, ← isMatch.memory]
  rw [Plc.write, if_pos (isMatch.inUse found)] at same ⊢
  dsimp only at same ⊢
  rw [requested] at same ⊢
  rw [requested]
  by_cases writable : Writable data
  · rw [if_pos writable] at same
    rw [if_pos writable, if_pos writable]
    exact ⟨rfl, isMatch.remember same⟩
  · rw [if_neg writable] at same
    rw [if_neg writable, if_neg writable]
    exact ⟨rfl, isMatch.still same⟩

/-- Taking a handle for a name. -/
theorem new_matches (serves : (Plc.device policy).ServedBy server)
    (isMatch : symbols.Matches others store) (symbol : String) :
    Option.Rel (Agree (Matches others))
      (symbols.step server device type (.new symbol)) (store.step type (.new symbol)) := by
  obtain ⟨after, ran, same⟩ := exists_of_withServer
    (@Handle.new_view policy server device symbols.link serves symbol)
  rw [step, ran, SymbolStore.step]
  unfold requested at same ⊢
  by_cases sendable : Sendable (utf8Bytes symbol)
  swap
  · rw [if_neg sendable] at same
    rw [if_neg sendable, if_neg sendable]
    exact .some ⟨rfl, isMatch.still same⟩
  rw [if_pos sendable] at same
  rw [if_pos sendable, if_pos sendable]
  generalize utf8Bytes symbol = name at same ⊢
  rw [Plc.take] at same ⊢
  rw [SymbolStore.take, ← isMatch.memory]
  cases located : symbols.link.server.memory name with
  | none =>
      rw [located] at same
      exact .some ⟨rfl, isMatch.still same⟩
  | some found =>
      rw [located] at same
      dsimp only at same ⊢
      have total := isMatch.free
      cases free : store.free with
      | zero =>
          have full : ¬symbols.link.server.opened.card < symbols.link.server.capacity := by omega
          rw [dif_neg full] at same
          rw [dif_neg full]
          exact .some ⟨rfl, isMatch.still same⟩
      | succ left =>
          have room : symbols.link.server.opened.card < symbols.link.server.capacity := by omega
          have isNew := policy.fresh symbols.link.server.opened
            (Nat.lt_of_lt_of_le room symbols.link.server.few)
          rw [dif_pos room] at same
          rw [dif_pos room]
          refine .some ⟨rfl, isMatch.memory ▸ isMatch.take isNew free ?_ ?_ ?_ ?_⟩
          all_goals rw [same]

/-- One action of the client is one action by the names. -/
theorem step_matches (serves : (Plc.device policy).ServedBy server)
    (isMatch : symbols.Matches others store) (action : SymbolAction T) :
    Option.Rel (Agree (Matches others))
      (symbols.step server device type action) (store.step type action) := by
  cases action with
  | new symbol => exact new_matches serves isMatch symbol
  | read slot buf =>
      refine use_matches isMatch .read (fun handle => handle.read server buf)
        (fun name => (store.readExact name buf.length, store)) fun handle found => ?_
      obtain ⟨output, same⟩ := read_matches serves isMatch found buf
      exact ⟨output, isMatch.still same⟩
  | write slot buf =>
      exact use_matches isMatch .written (fun handle => handle.write server buf)
        (fun name => store.write name buf) fun handle found =>
          write_matches serves isMatch found buf
  | readValue slot =>
      refine use_matches isMatch .value (fun handle => handle.readValue server type)
        (fun name => (type.ofBytes <$> store.readExact name type.size, store))
        fun handle found => ?_
      obtain ⟨output, same⟩ := read_matches serves isMatch found (type.asBytes type.default)
      rw [type.length_asBytes] at output
      have ran : handle.readValue server type symbols.link =
          (type.ofBytes <$> (handle.read server (type.asBytes type.default) symbols.link).1,
            (handle.read server (type.asBytes type.default) symbols.link).2) :=
        Operation.bind_pure_run _ _ _
      rw [ran, output]
      exact ⟨rfl, isMatch.still same⟩
  | writeValue slot value =>
      exact use_matches isMatch .written (fun handle => handle.writeValue server type value)
        (fun name => store.write name (type.asBytes value)) fun handle found =>
          write_matches serves isMatch found (type.asBytes value)
  | drop slot =>
      rw [step, use, SymbolStore.step, SymbolStore.use, isMatch.name]
      cases found : symbols.handles[slot]? with
      | none => exact .none
      | some entry =>
          cases entry with
          | none => exact .none
          | some handle =>
              obtain ⟨after, ran, same⟩ := exists_of_withServer
                (@Handle.drop_view policy server symbols.link serves handle)
              rw [Option.join_some, Option.map_some, Option.map_some, Option.map_some, ran]
              exact .some ⟨rfl, isMatch.drop found same⟩
  | getSize symbol =>
      obtain ⟨after, ran, same⟩ := exists_of_withServer
        (@getSize_view policy server device symbols.link serves symbol)
      rw [step, ran, SymbolStore.step, SymbolStore.find, ← isMatch.memory]
      refine .some ⟨?_, isMatch.still same⟩
      exact congrArg (fun outcome => SymbolResult.size (_ <$> outcome)) (requested_fst _)
  | getLocation symbol =>
      obtain ⟨after, ran, same⟩ := exists_of_withServer
        (@getLocation_view policy server device symbols.link serves symbol)
      rw [step, ran, SymbolStore.step, SymbolStore.find, ← isMatch.memory]
      refine .some ⟨?_, isMatch.still same⟩
      exact congrArg (fun outcome => SymbolResult.location (_ <$> outcome)) (requested_fst _)

end SymbolHandles

/-- Whatever a program does with symbols, over a server that serves a PLC: it gets what it
would get from the memory by the names alone, through however many handles.  The PLC has the
handles in use that it had before, and those that the program has not dropped. -/
theorem symbols_refine {T : Type} {policy : HandlePolicy} {server : Server Plc}
    (serves : (Plc.device policy).ServedBy server) (device : Device) (type : ByteValue T)
    (link : Link Plc) (actions : List (SymbolAction T)) :
    Option.Rel (fun ran named => ran.1 = named.1 ∧
        ran.2.link.server.memory = named.2.memory ∧
        ∀ raw, raw ∈ ran.2.link.server.opened ↔ raw ∈ link.server.opened ∨
          ∃ (slot : Nat) (handle : Handle),
            ran.2.handles[slot]? = some (some handle) ∧ handle.handle = raw)
      (transduce (SymbolHandles.step server device type) ⟨[], link⟩ actions)
      (transduce (SymbolStore.step type) ⟨link.server.memory, [],
        link.server.capacity - link.server.opened.card⟩ actions) := by
  have initial : SymbolHandles.Matches link.server.opened ⟨[], link⟩
      ⟨link.server.memory, [], link.server.capacity - link.server.opened.card⟩ := {
    memory := rfl
    slots := rfl
    opened := by simp
    apart := by simp
    distinct := by simp
    free := Nat.add_sub_cancel' link.server.limited }
  have related := transduce_rel (fun _ _ action isMatch =>
    @SymbolHandles.step_matches T policy server device type _ _ _ serves isMatch action)
    initial actions
  generalize transduce (SymbolHandles.step server device type) ⟨[], link⟩ actions = ran,
    transduce (SymbolStore.step type) _ actions = named at related ⊢
  cases related with
  | none => exact .none
  | some agree => exact .some ⟨agree.1, agree.2.memory, agree.2.opened⟩

/-- A PLC that gives out the first free handle. -/
def firstFree : HandlePolicy where
  pick opened := UInt32.ofNat
    (((List.range (opened.card + 1)).find? fun raw => UInt32.ofNat raw ∉ opened).getD 0)
  fresh opened few := by
    cases found : (List.range (opened.card + 1)).find? fun raw => UInt32.ofNat raw ∉ opened with
    | some raw => simpa using List.find?_some found
    | none =>
        -- one more handles than are in use would all be in use
        have all : (Finset.range (opened.card + 1)).image UInt32.ofNat ⊆ opened := by
          intro handle member
          obtain ⟨raw, below, rfl⟩ := Finset.mem_image.mp member
          simpa using List.find?_eq_none.mp found raw
            (List.mem_range.mpr (Finset.mem_range.mp below))
        have card := Finset.card_le_card all
        rw [Finset.card_image_of_injOn, Finset.card_range] at card
        · omega
        · intro first isFirst second isSecond same
          have firstFits : first < 2 ^ 32 :=
            Nat.lt_of_lt_of_le (Finset.mem_range.mp isFirst) few
          have secondFits : second < 2 ^ 32 :=
            Nat.lt_of_lt_of_le (Finset.mem_range.mp isSecond) few
          have words := congrArg UInt32.toNat same
          rwa [UInt32.toNat_ofNat_of_lt' firstFits, UInt32.toNat_ofNat_of_lt' secondFits] at words

/-- A word of two bytes. -/
def wordValue : ByteValue UInt16 where
  default := 0
  size := 2
  asBytes := u16Bytes
  ofBytes := leU16
  length_asBytes := length_u16Bytes
  asBytes_ofBytes bytes size := by
    rw [leU16, List.take_of_length_le size.le]
    exact u16Bytes_leValue size

/-- A PLC of one variable and one handle. -/
def oneVariable : Plc where
  memory name := if name = utf8Bytes "MAIN.x" then
    some ⟨0x4020, 8, [1, 2], by decide⟩ else none
  names _ := []
  opened := ∅
  capacity := 1
  limited := Nat.zero_le 1
  few := by decide

/-- A handle is dropped before the next one is taken. -/
def oneVariableUse : List (SymbolAction UInt16) :=
  [.new "MAIN.x", .new "MAIN.x", .writeValue 0 0x0605, .drop 0, .new "MAIN.y", .new "MAIN.x",
    .read 1 [0, 0], .write 1 [7], .readValue 1, .getSize "MAIN.x", .getLocation "MAIN.x"]

/-- What comes of it. -/
def oneVariableResults : List (SymbolResult UInt16) :=
  [.taken (.ok ()), .taken (.err (adsError Command.readWrite.action 0x70A)), .written (.ok ()),
    .dropped (.ok ()), .taken (.err (adsError Command.readWrite.action 0x710)), .taken (.ok ()),
    .read (.ok [5, 6]), .written (.ok ()), .value (.ok 0x0607), .size (.ok 2),
    .location (.ok (0x4020, 8))]

theorem oneVariable_used :
    (transduce (SymbolHandles.step (Plc.device firstFree).server
        ⟨⟨.localId, 1⟩, ⟨.localId, 851⟩⟩ wordValue) ⟨[], ⟨1, oneVariable, []⟩⟩
        oneVariableUse).map Prod.fst = some oneVariableResults := by
  have related := symbols_refine (Plc.device firstFree).servedBy_server
    ⟨⟨.localId, 1⟩, ⟨.localId, 851⟩⟩ wordValue ⟨1, oneVariable, []⟩ oneVariableUse
  have computed : (transduce (SymbolStore.step wordValue) ⟨oneVariable.memory, [],
      oneVariable.capacity - oneVariable.opened.card⟩ oneVariableUse).map Prod.fst =
        some oneVariableResults := by
    decide +kernel
  generalize transduce (SymbolHandles.step _ _ wordValue) _ oneVariableUse = ran,
    transduce (SymbolStore.step wordValue) _ oneVariableUse = named at related computed ⊢
  cases related with
  | none => cases computed
  | some agree => exact (congrArg some agree.1).trans computed

end Ads.Client
