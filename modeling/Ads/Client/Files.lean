import Ads.Client.Exchange
import Ads.Transition.Transducer

/-!
# Files

Operations on files of the PLC, and a file system that says what they are for.  The
operations of the client are those of the file system, whatever it does.
-/

namespace Ads.Client

open Ads.Bytes Ads.Control Ads.Transition

/-- File service: open a file. -/
def fileOpen : UInt32 := 120

/-- File service: close an open file. -/
def fileClose : UInt32 := 121

/-- File service: write to an open file. -/
def fileWrite : UInt32 := 123

/-- File service: delete a file. -/
def fileDelete : UInt32 := 131

/-- The outcome of an operation, with its error as an I/O error. -/
def ioOutcome {α : Type} : Outcome Error α → Outcome IoError α
  | .ok value => .ok value
  | .err error => .err (mapError error)
  | .panic => .panic

section Source

variable {S : Type} (server : Server S)

/-- Open a file. -/
def File.open (device : Device) (filename : List UInt8) (flags : UInt32) : Operation S File := do
  let hdl ← writeReadExact server device fileOpen flags filename [0, 0, 0, 0]
  pure { device, handle := leU32 hdl }

/-- Delete a file. -/
def File.delete (device : Device) (filename : List UInt8) (flags : UInt32) : Operation S Unit := do
  let _ ← writeRead server device fileDelete flags filename []
  pure ()

/-- Write to the file.  No info about written length is returned. -/
def File.write (file : File) (data : List UInt8) (link : Link S) : Outcome IoError Nat × Link S :=
  let (outcome, after) := writeRead server file.device fileWrite file.handle data [] link
  ((fun _ => data.length) <$> ioOutcome outcome, after)

/-- Flush the file. -/
def File.flush (_ : File) (link : Link S) : Outcome IoError Unit × Link S :=
  (.ok (), link)

/-- Close the file, whatever comes of it. -/
def File.drop (file : File) (link : Link S) : Outcome Error Unit × Link S :=
  match writeRead server file.device fileClose file.handle [] [] link with
  | (.panic, after) => (.panic, after)
  | (_, after) => (.ok (), after)

end Source

/-! ## A program that uses files -/

/-- What a program does with files.  A file that it has opened is known by the number of
files opened before it. -/
inductive FileAction
  | open (filename : List UInt8) (flags : UInt32)
  | read (slot : Nat) (data : List UInt8)
  | write (slot : Nat) (data : List UInt8)
  | flush (slot : Nat)
  | drop (slot : Nat)
  | delete (filename : List UInt8) (flags : UInt32)
  deriving DecidableEq

/-- What it gets. -/
inductive FileResult
  | opened (outcome : Outcome Error Unit)
  | read (outcome : Outcome IoError (Nat × List UInt8))
  | written (outcome : Outcome IoError Nat)
  | flushed (outcome : Outcome IoError Unit)
  | dropped (outcome : Outcome Error Unit)
  | deleted (outcome : Outcome Error Unit)
  deriving DecidableEq

/-- The files that the program has opened, of which it may have dropped some. -/
structure OpenFiles (S : Type) where
  files : List (Option File)
  link : Link S

namespace OpenFiles

variable {S : Type} (server : Server S) (device : Device)

/-- Use a file, which has to be open. -/
def use (state : OpenFiles S) (slot : Nat) {α : Type} (result : α → FileResult)
    (operation : File → Link S → α × Link S) : Option (FileResult × OpenFiles S) :=
  (state.files[slot]?.join).map fun file =>
    let (outcome, link) := operation file state.link
    (result outcome, { state with link := link })

/-- Take an action. -/
def step (state : OpenFiles S) : FileAction → Option (FileResult × OpenFiles S)
  | .open filename flags =>
      match File.open server device filename flags state.link with
      | (.ok file, link) => some (.opened (.ok ()), ⟨state.files ++ [some file], link⟩)
      | (.err error, link) => some (.opened (.err error), ⟨state.files, link⟩)
      | (.panic, link) => some (.opened .panic, ⟨state.files, link⟩)
  | .read slot data => state.use slot .read fun file => file.read server data
  | .write slot data => state.use slot .written fun file => file.write server data
  | .flush slot => state.use slot .flushed fun file => file.flush
  | .drop slot =>
      (state.use slot .dropped fun file => file.drop server).map fun (result, after) =>
        (result, { after with files := after.files.set slot none })
  | .delete filename flags =>
      let (outcome, link) := File.delete server device filename flags state.link
      some (.deleted outcome, { state with link := link })

end OpenFiles

/-! ## File systems -/

/-- A file system over the states `S`.  It gives out handles, and no more bytes than it is
asked for. -/
structure FileSystem (S : Type) where
  openFile : S → UInt32 → List UInt8 → S × Response UInt32
  readFile : S → UInt32 → (count : Nat) → S × Response (AtMost count)
  writeFile : S → UInt32 → List UInt8 → S × Response Unit
  closeFile : S → UInt32 → S × Response Unit
  deleteFile : S → UInt32 → List UInt8 → S × Response Unit

namespace FileSystem

variable {S : Type}

/-- Nothing but success or an error. -/
def plain (response : Response Unit) : Response (List UInt8) :=
  response.map fun _ => []

/-- The server answers the file services as the file system does. -/
structure ServedBy (system : FileSystem S) (server : Server S) : Prop where
  opened : ∀ state flags filename, server.Answers state .readWrite
    (writeReadPayload fileOpen flags filename 4)
    ((system.openFile state flags filename).1, (system.openFile state flags filename).2.map u32Bytes)
  read : ∀ state handle count, count < 2 ^ 32 → server.Answers state .readWrite
    (writeReadPayload fileRead handle [] count)
    ((system.readFile state handle count).1, (system.readFile state handle count).2.map Subtype.val)
  written : ∀ state handle data, server.Answers state .readWrite
    (writeReadPayload fileWrite handle data 0)
    ((system.writeFile state handle data).1, plain (system.writeFile state handle data).2)
  closed : ∀ state handle, server.Answers state .readWrite
    (writeReadPayload fileClose handle [] 0)
    ((system.closeFile state handle).1, plain (system.closeFile state handle).2)
  deleted : ∀ state flags filename, server.Answers state .readWrite
    (writeReadPayload fileDelete flags filename 0)
    ((system.deleteFile state flags filename).1, plain (system.deleteFile state flags filename).2)

/-- The server that a file system makes. -/
def server (system : FileSystem S) : Server S where
  handle state _ payload :=
    let group := leU32 payload
    let offset := leU32 (payload.drop 4)
    let count := (leU32 (payload.drop 8)).toNat
    let data := payload.drop 16
    let (after, response) : S × Response (List UInt8) :=
      if group = fileOpen then
        ((system.openFile state offset data).1, (system.openFile state offset data).2.map u32Bytes)
      else if group = fileRead then
        ((system.readFile state offset count).1,
          (system.readFile state offset count).2.map Subtype.val)
      else if group = fileWrite then
        ((system.writeFile state offset data).1, plain (system.writeFile state offset data).2)
      else if group = fileClose then
        ((system.closeFile state offset).1, plain (system.closeFile state offset).2)
      else if group = fileDelete then
        ((system.deleteFile state offset data).1, plain (system.deleteFile state offset data).2)
      else (state, .error .invalidGroup)
    (after, Response.reply response)

theorem servedBy_server (system : FileSystem S) : system.ServedBy system.server := by
  constructor
  · intro state flags filename
    refine ⟨_, ?_, Response.reply_gives _⟩
    simp only [server, group_writeReadPayload, offset_writeReadPayload, data_writeReadPayload,
      if_pos]
  · intro state handle count fits
    have number : (leU32 ((writeReadPayload fileRead handle [] count).drop 8)).toNat = count := by
      rw [readLength_writeReadPayload, UInt32.toNat_ofNat_of_lt' fits]
    refine ⟨_, ?_, Response.reply_gives _⟩
    simp only [server, group_writeReadPayload, offset_writeReadPayload]
    generalize (leU32 ((writeReadPayload fileRead handle [] count).drop 8)).toNat = announced
      at number ⊢
    subst number
    rfl
  · intro state handle data
    refine ⟨_, ?_, Response.reply_gives _⟩
    simp only [server, group_writeReadPayload, offset_writeReadPayload, data_writeReadPayload]
    rfl
  · intro state handle
    refine ⟨_, ?_, Response.reply_gives _⟩
    simp only [server, group_writeReadPayload, offset_writeReadPayload]
    rfl
  · intro state flags filename
    refine ⟨_, ?_, Response.reply_gives _⟩
    simp only [server, group_writeReadPayload, offset_writeReadPayload, data_writeReadPayload]
    rfl

/-- A file system and the handles of the files that the program has opened. -/
structure OpenHandles (S : Type) where
  handles : List (Option UInt32)
  state : S
  deriving DecidableEq

/-- Use a file, which has to be open. -/
def use (opened : OpenHandles S) (slot : Nat) {α : Type} (result : α → FileResult)
    (operation : UInt32 → S → α × S) : Option (FileResult × OpenHandles S) :=
  (opened.handles[slot]?.join).map fun handle =>
    let (outcome, state) := operation handle opened.state
    (result outcome, { opened with state := state })

variable (system : FileSystem S)

/-- Open a file, by its name. -/
def openNamed (filename : List UInt8) (flags : UInt32) (state : S) : Outcome Error UInt32 × S :=
  requested .readWrite state (Sendable filename) (system.openFile state flags filename)

/-- Read from a file: the number of bytes, and the buffer with them at its front. -/
def readOver (data : List UInt8) (handle : UInt32) (state : S) :
    Outcome IoError (Nat × List UInt8) × S :=
  let (outcome, after) := requested .readWrite state (data.length < 2 ^ 32)
    (system.readFile state handle data.length)
  (ioOutcome (Client.readOver data <$> outcome), after)

/-- Write all data to a file. -/
def writeAll (data : List UInt8) (handle : UInt32) (state : S) : Outcome IoError Nat × S :=
  let (outcome, after) := requested .readWrite state (Sendable data) (system.writeFile state handle data)
  ((fun _ => data.length) <$> ioOutcome outcome, after)

/-- Close a file, whatever comes of it. -/
def closeAnyway (handle : UInt32) (state : S) : Outcome Error Unit × S :=
  (.ok (), (system.closeFile state handle).1)

/-- Delete a file, by its name. -/
def deleteNamed (filename : List UInt8) (flags : UInt32) (state : S) : Outcome Error Unit × S :=
  requested .readWrite state (Sendable filename) (system.deleteFile state flags filename)

/-- Take an action. -/
def step (opened : OpenHandles S) : FileAction → Option (FileResult × OpenHandles S)
  | .open filename flags =>
      match system.openNamed filename flags opened.state with
      | (.ok handle, state) => some (.opened (.ok ()), ⟨opened.handles ++ [some handle], state⟩)
      | (.err error, state) => some (.opened (.err error), ⟨opened.handles, state⟩)
      | (.panic, state) => some (.opened .panic, ⟨opened.handles, state⟩)
  | .read slot data => use opened slot .read (system.readOver data)
  | .write slot data => use opened slot .written (system.writeAll data)
  | .flush slot => use opened slot .flushed fun _ state => (.ok (), state)
  | .drop slot =>
      (use opened slot .dropped system.closeAnyway).map fun (result, after) =>
        (result, { after with handles := after.handles.set slot none })
  | .delete filename flags =>
      let (outcome, state) := system.deleteNamed filename flags opened.state
      some (.deleted outcome, { opened with state := state })

end FileSystem

/-! ## The client refines the file system -/

/-- What the file system knows of the files that a program has opened. -/
def OpenFiles.view {S : Type} (opened : OpenFiles S) : FileSystem.OpenHandles S where
  handles := opened.files.map (Option.map File.handle)
  state := opened.link.server

section Refinement

variable {S : Type} {server : Server S} {system : FileSystem S} {device : Device}
  {file : File} {link : Link S} {filename data : List UInt8} {flags : UInt32}

/-- A request of a client that expects no data back. -/
theorem writeRead_plain {indexGroup indexOffset : UInt32} {answer : S × Response Unit}
    (answers : server.Answers link.server .readWrite
      (writeReadPayload indexGroup indexOffset data 0) (answer.1, FileSystem.plain answer.2)) :
    withServer (writeRead server device indexGroup indexOffset data [] link) =
      ((fun _ => (0, [])) <$> (requested .readWrite link.server (Sendable data) answer).1,
        (requested .readWrite link.server (Sendable data) answer).2) := by
  rw [requested]
  by_cases sendable : Sendable data
  · have small : ∀ bytes, FileSystem.plain answer.2 = .ok bytes → bytes.length < 2 ^ 32 := by
      intro bytes given
      rcases response : answer.2 with refusal | value
      · rw [response] at given
        cases given
      · rw [response] at given
        cases given
        exact Nat.two_pow_pos 32
    rw [if_pos sendable, @writeRead_answered _ _ _ _ _ _ _ _ [] _ (by decide) sendable answers small]
    rcases answer with ⟨state, refusal | value⟩
    · rfl
    · rfl
  · rw [if_neg sendable]
    rcases @writeRead_refused _ server device link indexGroup indexOffset data []
      (fun both => sendable both.2) with ⟨after, ran, same, -⟩
    rw [ran, withServer, same]
    rfl

theorem File.open_view (serves : system.ServedBy server) :
    ∃ after, File.open server device filename flags link =
        ((fun handle => ⟨device, handle⟩) <$> (system.openNamed filename flags link.server).1,
          after) ∧
      after.server = (system.openNamed filename flags link.server).2 := by
  have fits : [(0 : UInt8), 0, 0, 0].length < 2 ^ 32 := by decide
  have same : ∀ bytes, (system.openFile link.server flags filename).2.map u32Bytes = .ok bytes →
      bytes.length = [(0 : UInt8), 0, 0, 0].length := by
    intro bytes given
    rcases response : (system.openFile link.server flags filename).2 with refusal | handle
    · rw [response] at given
      cases given
    · rw [response] at given
      cases given
      exact length_u32Bytes handle
  rw [File.open, FileSystem.openNamed, requested]
  by_cases sendable : Sendable filename
  · have ran := @writeReadExact_answered _ _ device _ _ _ _ _ _ _ fits sendable
      (serves.opened link.server flags filename) same
    rw [if_pos sendable]
    generalize system.openFile link.server flags filename = answer at ran ⊢
    rcases answer with ⟨state, refusal | handle⟩
    · exact ⟨_, Operation.bind_run_err ran, rfl⟩
    · have word := leU32_u32Bytes_append handle []
      rw [List.append_nil] at word
      refine ⟨link.exchanged state .readWrite (writeReadPayload fileOpen flags filename 4),
        (Operation.bind_run_ok ran).trans ?_, rfl⟩
      rw [word]
      rfl
  · rw [if_neg sendable]
    rcases @writeRead_refused _ server device link fileOpen flags filename [0, 0, 0, 0]
      (fun both => sendable both.2) with ⟨after, ran, server, -⟩
    exact ⟨after, Operation.bind_run_err (ensured_run ran), server⟩

theorem File.read_view (serves : system.ServedBy server) :
    withServer (file.read server data link) = system.readOver data file.handle link.server := by
  have asIo : file.read server data link =
      (ioOutcome (writeRead server file.device fileRead file.handle [] data link).1,
        (writeRead server file.device fileRead file.handle [] data link).2) := by
    rw [File.read]
    rcases writeRead server file.device fileRead file.handle [] data link with
      ⟨value | error | _, after⟩ <;> rfl
  rw [asIo, FileSystem.readOver, requested]
  by_cases fits : data.length < 2 ^ 32
  · rw [if_pos fits, writeRead_answered fits sendable_nil (serves.read _ _ _ fits)
      (length_of_atMost fits), map_overlay_atMost]
    rfl
  · rw [if_neg fits]
    rcases @writeRead_refused _ server file.device link fileRead file.handle [] data
      (fun both => fits both.1) with ⟨after, ran, same, -⟩
    rw [ran, withServer, same]
    rfl

theorem File.write_view (serves : system.ServedBy server) :
    withServer (file.write server data link) = system.writeAll data file.handle link.server := by
  rcases exists_of_withServer (@writeRead_plain _ _ file.device _ _ _ _ _
    (serves.written link.server file.handle data)) with ⟨after, ran, same⟩
  rw [File.write, ran, FileSystem.writeAll]
  generalize requested .readWrite link.server (Sendable data)
    (system.writeFile link.server file.handle data) = answer at same ⊢
  rcases answer with ⟨value | error | _, state⟩
  all_goals exact congrArg (Prod.mk _) same

/-- However the server answers, the file is dropped. -/
theorem File.drop_view (serves : system.ServedBy server) :
    withServer (file.drop server link) = system.closeAnyway file.handle link.server := by
  rcases exists_of_withServer (@writeRead_plain _ _ file.device _ _ _ _ _
    (serves.closed link.server file.handle)) with ⟨after, ran, same⟩
  rw [requested, if_pos sendable_nil] at ran same
  rw [File.drop, ran, FileSystem.closeAnyway]
  generalize system.closeFile link.server file.handle = answer at same ⊢
  rcases answer with ⟨state, refusal | value⟩
  all_goals exact congrArg (Prod.mk _) same

theorem File.delete_view (serves : system.ServedBy server) :
    withServer (File.delete server device filename flags link) =
      system.deleteNamed filename flags link.server := by
  rcases exists_of_withServer (@writeRead_plain _ _ device _ _ _ _ _
    (serves.deleted link.server flags filename)) with ⟨after, ran, same⟩
  rw [File.delete, FileSystem.deleteNamed]
  generalize requested .readWrite link.server (Sendable filename)
    (system.deleteFile link.server flags filename) = answer at ran same ⊢
  rcases answer with ⟨value | error | _, state⟩
  · rw [Operation.bind_run_ok ran]
    exact congrArg (Prod.mk _) same
  · rw [Operation.bind_run_err ran]
    exact congrArg (Prod.mk _) same
  · rw [Operation.bind_run_panic ran]
    exact congrArg (Prod.mk _) same

end Refinement

namespace OpenFiles

variable {S : Type} {server : Server S} {system : FileSystem S} {opened : OpenFiles S}

/-- Operations on a file that agree, agree on one that is open. -/
theorem use_view {slot : Nat} {α : Type} (result : α → FileResult)
    (operation : File → Link S → α × Link S) (abstract : UInt32 → S → α × S)
    (same : ∀ file, withServer (operation file opened.link) =
      abstract file.handle opened.link.server) :
    (opened.use slot result operation).map (seenThrough view) =
      FileSystem.use opened.view slot result abstract := by
  have found : (opened.view.handles[slot]?).join =
      (opened.files[slot]?.join).map File.handle := by
    rw [view, List.getElem?_map]
    rcases opened.files[slot]? with _ | _ | file <;> rfl
  rw [use, FileSystem.use, found]
  rcases opened.files[slot]?.join with _ | file
  · rfl
  · have ran := same file
    simp only [Option.map_some, view] at ran ⊢
    rw [← ran]
    rfl

theorem step_view (serves : system.ServedBy server) (device : Device) (opened : OpenFiles S)
    (action : FileAction) :
    (opened.step server device action).map (seenThrough view) =
      system.step opened.view action := by
  cases action with
  | «open» filename flags =>
      rcases @File.open_view _ _ _ device opened.link filename flags serves with
        ⟨after, ran, same⟩
      have state : opened.view.state = opened.link.server := rfl
      rw [step, ran, FileSystem.step, state]
      generalize system.openNamed filename flags opened.link.server = answer at same ⊢
      rcases answer with ⟨handle | error | _, state⟩
      · cases same
        simp [seenThrough, view]
      · cases same
        rfl
      · cases same
        rfl
  | read slot data =>
      exact use_view .read _ (system.readOver data) fun _ => File.read_view serves
  | write slot data =>
      exact use_view .written _ (system.writeAll data) fun _ => File.write_view serves
  | flush slot =>
      exact use_view .flushed (fun file => file.flush) (fun _ state => (.ok (), state))
        fun _ => rfl
  | drop slot =>
      have used := @use_view _ opened slot _ .dropped (fun file => file.drop server)
        system.closeAnyway fun _ => File.drop_view serves
      rw [FileSystem.step, ← used, step, Option.map_map, Option.map_map]
      rcases opened.use slot .dropped fun file => file.drop server with _ | ⟨result, after⟩
      · rfl
      · simp [seenThrough, view]
  | delete filename flags =>
      have ran := @File.delete_view _ _ _ device opened.link filename flags serves
      have state : opened.view.state = opened.link.server := rfl
      rw [FileSystem.step, state, ← ran]
      rfl

end OpenFiles

/-- Whatever a program does with files, over a server that serves a file system: the
client gives it what the file system gives, and leaves the files open that the file system
has open. -/
theorem files_refine {S : Type} {server : Server S} {system : FileSystem S}
    (serves : system.ServedBy server) (device : Device) (opened : OpenFiles S)
    (actions : List FileAction) :
    (transduce (OpenFiles.step server device) opened actions).map (seenThrough OpenFiles.view) =
      transduce system.step opened.view actions :=
  transduce_view (OpenFiles.step_view serves device) opened actions

/-- A file system of one file, which can only be written at its end and read from its
front. -/
def oneFile : FileSystem (List UInt8) where
  openFile content flags _ :=
    (content, if flags = 0 then .error .notFound else .ok 42)
  readFile content _ count :=
    (content.drop count, .ok ⟨content.take count, List.length_take_le count content⟩)
  writeFile content handle data :=
    if handle = 42 then (content ++ data, .ok ()) else (content, .error .notPermitted)
  closeFile content _ := (content, .ok ())
  deleteFile _ _ _ := ([], .ok ())

/-- What is written to the file is read back from it, as long as it is open. -/
theorem oneFile_used :
    (transduce (OpenFiles.step oneFile.server ⟨⟨.localId, 1⟩, ⟨.localId, 10000⟩⟩)
        ⟨[], ⟨1, [], []⟩⟩
        [.open [97] 0, .open [97] 2, .write 0 [1, 2, 3], .read 0 [9, 9], .read 0 [9, 9],
          .drop 0]).map (seenThrough OpenFiles.view) =
      some ([.opened (.err (adsError Command.readWrite.action 0x70C)), .opened (.ok ()),
        .written (.ok 3), .read (.ok (2, [1, 2])), .read (.ok (1, [3, 9])), .dropped (.ok ())],
        ⟨[none], []⟩) :=
  (files_refine oneFile.servedBy_server _ _ _).trans (by decide +kernel)

end Ads.Client
