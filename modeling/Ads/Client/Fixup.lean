import Ads.Bytes.Window
import Ads.Client.Requests

/-!
# Reshuffling short reads

A `SUMUP_READWRITE` reply returns only the bytes that each item actually read,
so that after a short read the data of all later items lands in the wrong
buffers.  The client moves it into place, last buffer first.
-/

namespace Ads.Client

open Ads.Bytes Ads.Control

/-- The initial and actual offsets of a request, from the buffer sizes and the
result sizes before it, and its own two sizes. -/
structure Offsets where
  initial : Nat
  actual : Nat
  init : Nat
  act : Nat

/-- The offsets of a request that begins at the two given ones. -/
def Offsets.of (initial actual : Nat) (request : WriteReadRequest) : Offsets where
  initial := initial
  actual := actual
  init := request.rbuf.length
  act := request.res.length.toNat

/-- The scan over the requests, which asserts that no result exceeds its
buffer. -/
def scanOffsets (initCum actCum : Nat) : List WriteReadRequest → Outcome Error (List Offsets)
  | [] => pure []
  | request :: requests => do
      let current := Offsets.of initCum actCum request
      if current.init ≥ current.act then
        let rest ← scanOffsets (initCum + current.init) (actCum + current.act) requests
        pure (current :: rest)
      else .panic

/-- The last position whose element satisfies `p`. -/
def rposition {α : Type} (p : α → Bool) : List α → Option Nat
  | [] => none
  | head :: tail =>
      match rposition p tail with
      | some index => some (index + 1)
      | none => if p head then some 0 else none

/-- Copy `count` bytes that end at `stop` in buffer `source` into buffer `target`
at `dest`.  The range of either slice is checked, also within one buffer. -/
def copyBytes (bufs : List (List UInt8)) (source stop target dest count : Nat) :
    Outcome Error (List (List UInt8)) :=
  match bufs[source]?, bufs[target]? with
  | some first, some second =>
      if count ≤ stop ∧ stop ≤ first.length ∧ dest + count ≤ second.length then
        .ok (bufs.set target (paste second dest (window first (stop - count) count)))
      else .panic
  | _, _ => .panic

/-- Copy the last `size` bytes that are missing from buffer `i` into it, from
every buffer from `j` down, where they end at `jEnd`. -/
def gather (offsets : List Offsets) (i : Nat) :
    Nat → Nat → Nat → List (List UInt8) → Outcome Error (List (List UInt8))
  | j, jEnd, size, bufs => do
      let n := min jEnd size
      let rest := size - n
      let copied ← copyBytes bufs j jEnd i rest n
      if rest = 0 then pure copied
      else
        match j with
        | 0 => .panic -- the index underflows
        | j + 1 =>
            match offsets[j]? with
            | some source => gather offsets i j source.init rest copied
            | none => .panic

/-- Go through the first `count` buffers in reverse order. -/
def reshuffle (offsets : List Offsets) :
    Nat → List (List UInt8) → Outcome Error (List (List UInt8))
  | 0, bufs => pure bufs
  | i + 1, bufs =>
      match offsets[i]? with
      | none => .panic
      | some ⟨myInitial, myActual, _, size⟩ =>
          if size = 0 then reshuffle offsets i bufs
          -- all previous buffers must be of full length too
          else if myInitial = myActual then pure bufs
          else
            -- the buffer that our last byte is in
            match rposition (fun r => r.initial < myActual + size) (offsets.take (i + 1)) with
            | none => .panic
            | some j =>
                match offsets[j]? with
                | none => .panic
                | some source => do
                    let gathered ← gather offsets i j (myActual + size - source.initial) size bufs
                    reshuffle offsets i gathered

/-- Move the data of each request into its own buffer. -/
def fixupWriteReadReturnBuffers (requests : List WriteReadRequest) :
    Outcome Error (List WriteReadRequest) := do
  let offsets ← scanOffsets 0 0 requests
  let bufs ← reshuffle offsets requests.length (requests.map (·.rbuf))
  pure (List.zipWith WriteReadRequest.fillBuf requests bufs)

/-! ## The steps of the reshuffle -/

theorem rposition_eq_none_iff {α : Type} {p : α → Bool} {list : List α} :
    rposition p list = none ↔ ∀ element ∈ list, p element = false := by
  induction list with
  | nil => simp [rposition]
  | cons head tail ih =>
      rw [List.forall_mem_cons, ← ih]
      cases later : rposition p tail with
      | some index => simp [rposition, later]
      | none => simp [rposition, later]

/-- The position that is found satisfies `p`, and no later one does. -/
theorem rposition_eq_some {α : Type} {p : α → Bool} {list : List α} {index : Nat}
    (found : rposition p list = some index) :
    (∃ element, list[index]? = some element ∧ p element = true) ∧
      ∀ later element, index < later → list[later]? = some element → p element = false := by
  induction list generalizing index with
  | nil => cases found
  | cons head tail ih =>
      cases inTail : rposition p tail with
      | some position =>
          rw [rposition, inTail] at found
          cases found
          rcases ih inTail with ⟨here, after⟩
          constructor
          · simpa using here
          · intro later element beyond at_
            cases later with
            | zero => omega
            | succ later => exact after later element (by omega) (by simpa using at_)
      | none =>
          rw [rposition, inTail] at found
          have isHead : p head = true ∧ index = 0 := by
            by_cases holds : p head = true
            · simpa [holds, eq_comm] using found
            · simp [holds] at found
          rcases isHead with ⟨holds, rfl⟩
          constructor
          · exact ⟨head, rfl, holds⟩
          · intro later element beyond at_
            cases later with
            | zero => omega
            | succ later =>
                exact rposition_eq_none_iff.mp inTail element
                  (List.mem_of_getElem? (by simpa using at_))

theorem copyBytes_ok {bufs : List (List UInt8)} {source stop target dest count : Nat}
    {first second : List UInt8} (sourceFound : bufs[source]? = some first)
    (targetFound : bufs[target]? = some second) (start : count ≤ stop)
    (within : stop ≤ first.length) (fits : dest + count ≤ second.length) :
    copyBytes bufs source stop target dest count =
      .ok (bufs.set target (paste second dest (window first (stop - count) count))) := by
  rw [copyBytes, sourceFound, targetFound]
  exact if_pos ⟨start, within, fits⟩

/-- Where the data of a request begins in the reply. -/
def actualOffset (requests : List WriteReadRequest) (index : Nat) : Nat :=
  ((requests.take index).map fun request => request.res.length.toNat).sum

theorem actualOffset_succ {requests : List WriteReadRequest} {index : Nat}
    {request : WriteReadRequest} (found : requests[index]? = some request) :
    actualOffset requests (index + 1) =
      actualOffset requests index + request.res.length.toNat := by
  rw [actualOffset, actualOffset, List.take_add_one, found]
  simp

/-- The read buffers of the requests, in their row. -/
def readBufs (requests : List WriteReadRequest) : List (List UInt8) :=
  requests.map (·.rbuf)

/-- The scanned offsets of each request are where its buffer and its data begin. -/
def Located (requests : List WriteReadRequest) (offsets : List Offsets) : Prop :=
  ∀ index, offsets[index]? = requests[index]?.map
    (Offsets.of (offset (readBufs requests) index) (actualOffset requests index))

private theorem scanOffsets_ok {requests : List WriteReadRequest}
    (fits : ∀ request ∈ requests, request.res.length.toNat ≤ request.rbuf.length)
    (initCum actCum : Nat) :
    ∃ offsets, scanOffsets initCum actCum requests = .ok offsets ∧
      ∀ index : Nat, offsets[index]? = requests[index]?.map
        (Offsets.of (initCum + offset (readBufs requests) index)
          (actCum + actualOffset requests index)) := by
  induction requests generalizing initCum actCum with
  | nil => exact ⟨[], rfl, fun index => rfl⟩
  | cons request requests ih =>
      rcases List.forall_mem_cons.mp fits with ⟨head, tail⟩
      rcases ih tail (initCum + request.rbuf.length) (actCum + request.res.length.toNat) with
        ⟨offsets, scanned, located⟩
      let current := Offsets.of initCum actCum request
      have enough : current.init ≥ current.act := head
      have others : scanOffsets (initCum + current.init) (actCum + current.act) requests =
          .ok offsets := scanned
      refine ⟨current :: offsets, ?_, ?_⟩
      · rw [scanOffsets, if_pos enough, others]
        rfl
      · intro index
        cases index with
        | zero => rfl
        | succ index =>
            rw [List.getElem?_cons_succ, List.getElem?_cons_succ, located]
            congr 1
            funext later
            simp [offset, actualOffset, readBufs, Nat.add_assoc]

/-- The scan succeeds when no result exceeds its buffer. -/
theorem scanOffsets_located {requests : List WriteReadRequest}
    (fits : ∀ request ∈ requests, request.res.length.toNat ≤ request.rbuf.length) :
    ∃ offsets, scanOffsets 0 0 requests = .ok offsets ∧ Located requests offsets := by
  rcases scanOffsets_ok fits 0 0 with ⟨offsets, scanned, located⟩
  refine ⟨offsets, scanned, ?_⟩
  intro index
  simpa using located index

/-! ## The loops -/

section Loops

variable {requests : List WriteReadRequest} {offsets : List Offsets}

theorem readBufs_getElem? {index : Nat} {request : WriteReadRequest}
    (found : requests[index]? = some request) :
    (readBufs requests)[index]? = some request.rbuf := by
  rw [readBufs, List.getElem?_map, found]
  rfl

theorem Located.of_getElem? (located : Located requests offsets) {index : Nat}
    {request : WriteReadRequest} (found : requests[index]? = some request) :
    offsets[index]? = some (Offsets.of (offset (readBufs requests) index)
      (actualOffset requests index) request) := by
  rw [located, found]
  rfl

/-- One round of the inner loop extends the data that is in place to the front. -/
theorem copyBytes_extends {bufs : List (List UInt8)} {i j jEnd size start count : Nat}
    {source : WriteReadRequest} {target : List UInt8}
    (untouched : bufs[j]? = (readBufs requests)[j]?)
    (sourceFound : requests[j]? = some source) (targetFound : bufs[i]? = some target)
    (within : jEnd ≤ source.rbuf.length)
    (position : offset (readBufs requests) j + jEnd = start + size)
    (missing : size ≤ count) (fits : count ≤ target.length)
    (later : window target size (count - size) =
      window (readBufs requests).flatten (start + size) (count - size)) :
    ∃ filled, copyBytes bufs j jEnd i (size - min jEnd size) (min jEnd size) =
        .ok (bufs.set i filled) ∧ filled.length = target.length ∧
      window filled (size - min jEnd size) (count - (size - min jEnd size)) =
        window (readBufs requests).flatten (start + (size - min jEnd size))
          (count - (size - min jEnd size)) := by
  have bufFound := readBufs_getElem? sourceFound
  obtain ⟨n, nDef⟩ : ∃ n, n = min jEnd size := ⟨_, rfl⟩
  obtain ⟨rest, restDef⟩ : ∃ rest, rest = size - n := ⟨_, rfl⟩
  rw [← nDef, ← restDef]
  have nLe : n ≤ jEnd := by omega
  have joined : rest + n = size := by omega
  let data := window source.rbuf (jEnd - n) n
  have dataLength : data.length = n := length_window (by omega)
  have dataFits : rest + data.length ≤ target.length := by omega
  refine ⟨paste target rest data, ?_, length_paste dataFits, ?_⟩
  · exact copyBytes_ok (untouched.trans bufFound) targetFound nLe within (by omega)
  · -- the window is the data of this round, followed by what was in place before
    have remainder : count - rest = n + (count - size) := by omega
    have fromStream : window (readBufs requests).flatten (start + rest) n = data := by
      have place : start + rest = offset (readBufs requests) j + (jEnd - n) := by omega
      rw [place]
      exact window_flatten bufFound (by omega)
    have front : window (paste target rest data) rest n = data := by
      have pasted := @window_paste_self _ target data rest (by omega)
      rwa [dataLength] at pasted
    rw [remainder, window_add, window_add, fromStream, front, joined, Nat.add_assoc, joined,
      window_paste_after _ dataFits (by omega), later]

/-- Buffer `i` receives the missing `size` bytes of its data, whose end lies `jEnd`
bytes into buffer `j`, when its later data is already in place and no buffer up to
`j` has been changed. -/
theorem gather_ok (located : Located requests offsets) {bufs : List (List UInt8)}
    {i j jEnd size start count : Nat} {source : WriteReadRequest} {target : List UInt8}
    (upTo : j ≤ i) (untouched : ∀ index ≤ j, bufs[index]? = (readBufs requests)[index]?)
    (sourceFound : requests[j]? = some source) (targetFound : bufs[i]? = some target)
    (within : jEnd ≤ source.rbuf.length)
    (position : offset (readBufs requests) j + jEnd = start + size)
    (missing : size ≤ count) (fits : count ≤ target.length)
    (later : window target size (count - size) =
      window (readBufs requests).flatten (start + size) (count - size)) :
    ∃ filled, gather offsets i j jEnd size bufs = .ok (bufs.set i filled) ∧
      filled.length = target.length ∧
      window filled 0 count = window (readBufs requests).flatten start count := by
  induction j generalizing jEnd size bufs source target with
  | zero =>
      rcases copyBytes_extends (untouched 0 (Nat.le_refl 0)) sourceFound targetFound within
        position missing fits later with ⟨filled, copied, sameLength, extended⟩
      -- the data cannot begin before the first buffer
      have done : size - min jEnd size = 0 := by
        rw [offset_zero] at position
        omega
      rw [done] at extended
      refine ⟨filled, ?_, sameLength, extended⟩
      rw [gather, copied]
      exact if_pos done
  | succ j ih =>
      rcases copyBytes_extends (untouched (j + 1) (Nat.le_refl _)) sourceFound targetFound within
        position missing fits later with ⟨filled, copied, sameLength, extended⟩
      by_cases done : size - min jEnd size = 0
      · rw [done] at extended
        refine ⟨filled, ?_, sameLength, extended⟩
        rw [gather, copied]
        exact if_pos done
      · have bound : j + 1 < requests.length := (List.getElem?_eq_some_iff.mp sourceFound).1
        have before : requests[j]? = some requests[j] := List.getElem?_eq_getElem (by omega)
        have begins := offset_succ (readBufs_getElem? before)
        have inBounds : i < bufs.length := (List.getElem?_eq_some_iff.mp targetFound).1
        have unchanged : ∀ index ≤ j, (bufs.set i filled)[index]? =
            (readBufs requests)[index]? := by
          intro index le
          rw [List.getElem?_set_ne (by omega)]
          exact untouched index (by omega)
        rcases ih (by omega) unchanged before (List.getElem?_set_self inBounds) (Nat.le_refl _)
          (by omega) (by omega) (by omega) extended with ⟨last, gathered, lastLength, complete⟩
        refine ⟨last, ?_, lastLength.trans sameLength, complete⟩
        rw [List.set_set] at gathered
        rw [gather, copied]
        refine (if_neg done).trans ?_
        rw [located.of_getElem? before]
        exact gathered

/-- The buffers from `first` on hold their own data, those before are as the reply
left them. -/
structure Reshuffled (requests : List WriteReadRequest) (first : Nat)
    (bufs : List (List UInt8)) : Prop where
  untouched : ∀ index < first, bufs[index]? = (readBufs requests)[index]?
  settled : ∀ index request, first ≤ index → requests[index]? = some request →
    ∃ buf, bufs[index]? = some buf ∧ buf.length = request.rbuf.length ∧
      window buf 0 request.res.length.toNat =
        window (readBufs requests).flatten (actualOffset requests index)
          request.res.length.toNat

/-- Data lags behind its buffer more and more, the later the buffer is. -/
theorem actualOffset_lag
    (fits : ∀ request ∈ requests, request.res.length.toNat ≤ request.rbuf.length)
    {first last : Nat} (le : first ≤ last) (bound : last ≤ requests.length) :
    actualOffset requests last + offset (readBufs requests) first ≤
      actualOffset requests first + offset (readBufs requests) last := by
  induction last, le using Nat.le_induction with
  | base => exact Nat.le_refl _
  | succ last le ih =>
      have found : requests[last]? = some requests[last] := List.getElem?_eq_getElem (by omega)
      have data := actualOffset_succ found
      have buffer := offset_succ (readBufs_getElem? found)
      have lag := ih (by omega)
      have fit := fits _ (List.mem_of_getElem? found)
      omega

theorem actualOffset_le
    (fits : ∀ request ∈ requests, request.res.length.toNat ≤ request.rbuf.length)
    {index : Nat} (bound : index ≤ requests.length) :
    actualOffset requests index ≤ offset (readBufs requests) index := by
  have lag := actualOffset_lag fits (Nat.zero_le index) bound
  simpa [actualOffset] using lag

theorem Reshuffled.initial (requests : List WriteReadRequest) :
    Reshuffled requests requests.length (readBufs requests) := by
  constructor
  · intro index bound
    rfl
  · intro index request beyond found
    have bound := (List.getElem?_eq_some_iff.mp found).1
    omega

/-- One more buffer is in place. -/
theorem Reshuffled.extend {bufs bufs' : List (List UInt8)} {i : Nat}
    {request : WriteReadRequest} {buf : List UInt8}
    (reshuffled : Reshuffled requests (i + 1) bufs) (found : requests[i]? = some request)
    (here : bufs'[i]? = some buf) (elsewhere : ∀ index, index ≠ i → bufs'[index]? = bufs[index]?)
    (length : buf.length = request.rbuf.length)
    (data : window buf 0 request.res.length.toNat =
      window (readBufs requests).flatten (actualOffset requests i) request.res.length.toNat) :
    Reshuffled requests i bufs' := by
  constructor
  · intro index before
    rw [elsewhere index (by omega)]
    exact reshuffled.untouched index (by omega)
  · intro index other beyond otherFound
    by_cases same : index = i
    · subst same
      rw [found] at otherFound
      cases otherFound
      exact ⟨buf, here, length, data⟩
    · rw [elsewhere index same]
      exact reshuffled.settled index other (by omega) otherFound

/-- The data of a buffer that begins where its data does is already in place. -/
theorem window_of_no_lag {index : Nat} {request : WriteReadRequest}
    (fits : request.res.length.toNat ≤ request.rbuf.length)
    (found : requests[index]? = some request)
    (noLag : offset (readBufs requests) index = actualOffset requests index) :
    window request.rbuf 0 request.res.length.toNat =
      window (readBufs requests).flatten (actualOffset requests index)
        request.res.length.toNat := by
  rw [← noLag, ← window_flatten (readBufs_getElem? found) (by omega), Nat.add_zero]

/-- The buffer that the last byte of a request's data is in. -/
theorem rposition_ok (located : Located requests offsets)
    (fits : ∀ request ∈ requests, request.res.length.toNat ≤ request.rbuf.length)
    {i : Nat} {request : WriteReadRequest} (found : requests[i]? = some request)
    (nonempty : request.res.length.toNat ≠ 0) :
    let stop := actualOffset requests i + request.res.length.toNat
    ∃ j source, rposition (fun r => r.initial < stop) (offsets.take (i + 1)) = some j ∧
      j ≤ i ∧ requests[j]? = some source ∧ offset (readBufs requests) j ≤ stop ∧
      stop ≤ offset (readBufs requests) j + source.rbuf.length := by
  intro stop
  have bound := (List.getElem?_eq_some_iff.mp found).1
  have inTake : ∀ index ≤ i, (offsets.take (i + 1))[index]? = offsets[index]? := by
    intro index le
    exact List.getElem?_take_of_lt (by omega)
  cases position : rposition (fun r => r.initial < stop) (offsets.take (i + 1)) with
  | none =>
      -- the first buffer begins at zero
      have first : requests[0]? = some requests[0] := List.getElem?_eq_getElem (by omega)
      have member := (inTake 0 (Nat.zero_le i)).trans (located.of_getElem? first)
      have beyond := rposition_eq_none_iff.mp position _ (List.mem_of_getElem? member)
      have zero : ¬(0 < stop) := of_decide_eq_false beyond
      omega
  | some j =>
      rcases rposition_eq_some position with ⟨⟨here, hereFound, before⟩, after⟩
      have upTo : j ≤ i := by
        have short := (List.getElem?_eq_some_iff.mp hereFound).1
        rw [List.length_take] at short
        omega
      have sourceFound : requests[j]? = some requests[j] := List.getElem?_eq_getElem (by omega)
      rw [inTake j upTo, located.of_getElem? sourceFound] at hereFound
      cases hereFound
      have begins : offset (readBufs requests) j < stop := of_decide_eq_true before
      refine ⟨j, requests[j], rfl, upTo, sourceFound, begins.le, ?_⟩
      by_cases last : j = i
      · subst last
        rw [found] at sourceFound
        cases sourceFound
        have lag := actualOffset_le fits bound.le
        have fit := fits _ (List.mem_of_getElem? found)
        omega
      · -- the next buffer begins behind the last byte
        have nextFound : requests[j + 1]? = some requests[j + 1] :=
          List.getElem?_eq_getElem (by omega)
        have next := after (j + 1) _ (Nat.lt_succ_self j)
          ((inTake (j + 1) (by omega)).trans (located.of_getElem? nextFound))
        have behind : ¬(offset (readBufs requests) (j + 1) < stop) := of_decide_eq_false next
        have ends := offset_succ (readBufs_getElem? sourceFound)
        omega

/-- The loop over the buffers leaves each with its own data at its front. -/
theorem reshuffle_ok (located : Located requests offsets)
    (fits : ∀ request ∈ requests, request.res.length.toNat ≤ request.rbuf.length)
    {i : Nat} (bound : i ≤ requests.length) {bufs : List (List UInt8)}
    (reshuffled : Reshuffled requests i bufs) :
    ∃ bufs', reshuffle offsets i bufs = .ok bufs' ∧ Reshuffled requests 0 bufs' := by
  induction i generalizing bufs with
  | zero => exact ⟨bufs, rfl, reshuffled⟩
  | succ i ih =>
      have found : requests[i]? = some requests[i] := List.getElem?_eq_getElem bound
      have fit := fits _ (List.mem_of_getElem? found)
      have untouched : bufs[i]? = some requests[i].rbuf :=
        (reshuffled.untouched i (Nat.lt_succ_self i)).trans (readBufs_getElem? found)
      rw [reshuffle, located.of_getElem? found]
      dsimp only [Offsets.of]
      split
      · rename_i empty
        apply ih (by omega)
        apply reshuffled.extend found untouched (fun _ _ => rfl) rfl
        rw [empty]
        rfl
      · rename_i nonempty
        split
        · -- no lag here means no lag before
          rename_i noLag
          refine ⟨bufs, rfl, fun index before => by omega, ?_⟩
          intro index request _ requestFound
          by_cases upTo : index ≤ i
          · have lag := actualOffset_lag fits upTo (by omega)
            have le := actualOffset_le fits (upTo.trans (by omega))
            refine ⟨request.rbuf, ?_, rfl, ?_⟩
            · exact (reshuffled.untouched index (by omega)).trans (readBufs_getElem? requestFound)
            · exact window_of_no_lag (fits _ (List.mem_of_getElem? requestFound)) requestFound
                (by omega)
          · exact reshuffled.settled index request (by omega) requestFound
        · rcases rposition_ok located fits found nonempty with
            ⟨j, source, position, upTo, sourceFound, begins, ends⟩
          have nothingLater : window requests[i].rbuf requests[i].res.length.toNat
              (requests[i].res.length.toNat - requests[i].res.length.toNat) =
                window (readBufs requests).flatten
                  (actualOffset requests i + requests[i].res.length.toNat)
                  (requests[i].res.length.toNat - requests[i].res.length.toNat) := by
            rw [Nat.sub_self]
            rfl
          have within : actualOffset requests i + requests[i].res.length.toNat -
              offset (readBufs requests) j ≤ source.rbuf.length := by omega
          rcases gather_ok located upTo (fun index le => reshuffled.untouched index (by omega))
            sourceFound untouched within (by omega) (Nat.le_refl _) fit nothingLater with
            ⟨filled, gathered, length, complete⟩
          have inBounds : i < bufs.length := (List.getElem?_eq_some_iff.mp untouched).1
          rw [position]
          dsimp only
          rw [located.of_getElem? sourceFound]
          dsimp only [Offsets.of]
          rw [gathered, Outcome.ok_bind]
          apply ih (by omega)
          exact reshuffled.extend found (List.getElem?_set_self inBounds)
            (fun index other => List.getElem?_set_ne (Ne.symm other)) length complete

/-- When no result exceeds its buffer, every buffer ends up with its own data at its
front. -/
theorem fixupWriteReadReturnBuffers_ok
    (fits : ∀ request ∈ requests, request.res.length.toNat ≤ request.rbuf.length) :
    ∃ bufs, fixupWriteReadReturnBuffers requests =
        .ok (List.zipWith WriteReadRequest.fillBuf requests bufs) ∧
      Reshuffled requests 0 bufs := by
  rcases scanOffsets_located fits with ⟨offsets, scanned, located⟩
  rcases reshuffle_ok located fits (Nat.le_refl _) (Reshuffled.initial requests) with
    ⟨bufs, reshuffled, settled⟩
  refine ⟨bufs, ?_, settled⟩
  rw [fixupWriteReadReturnBuffers, scanned, Outcome.ok_bind]
  exact congrArg (· >>= fun bufs => pure (List.zipWith WriteReadRequest.fillBuf requests bufs))
    reshuffled

/-- When no result exceeds its buffer, the front of every buffer is what stood at the
offset of its data, with the results left as they are. -/
theorem fixupWriteReadReturnBuffers_each
    (fits : ∀ request ∈ requests, request.res.length.toNat ≤ request.rbuf.length) :
    ∃ fixed, fixupWriteReadReturnBuffers requests = .ok fixed ∧
      fixed.length = requests.length ∧
      ∀ (index : Nat) (request : WriteReadRequest), requests[index]? = some request →
        ∃ other, fixed[index]? = some other ∧ other.res = request.res ∧
          other.rbuf.length = request.rbuf.length ∧
          other.rbuf.take request.res.length.toNat =
            window (readBufs requests).flatten (actualOffset requests index)
              request.res.length.toNat := by
  rcases fixupWriteReadReturnBuffers_ok fits with ⟨bufs, ran, reshuffled⟩
  have enough : requests.length ≤ bufs.length := by
    by_contra short
    have found : requests[bufs.length]? = some requests[bufs.length] :=
      List.getElem?_eq_getElem (by omega)
    rcases reshuffled.settled _ _ (Nat.zero_le _) found with ⟨buf, bufFound, -⟩
    rw [List.getElem?_eq_none (Nat.le_refl _)] at bufFound
    cases bufFound
  refine ⟨_, ran, ?_, ?_⟩
  · rw [List.length_zipWith, Nat.min_eq_left enough]
  · intro index request found
    rcases reshuffled.settled index request (Nat.zero_le _) found with
      ⟨buf, bufFound, same, settled⟩
    have rbuf : (request.fillBuf buf).rbuf = buf := WriteReadRequest.rbuf_fillBuf same
    refine ⟨request.fillBuf buf, ?_, rfl, ?_, ?_⟩
    · rw [List.getElem?_zipWith, found, bufFound]
    · rw [rbuf, same]
    · rw [rbuf, ← settled, window_zero]

end Loops

/-- The scan asserts that no result exceeds its buffer. -/
theorem fits_of_scanOffsets {requests : List WriteReadRequest} {initCum actCum : Nat}
    {offsets : List Offsets} (scanned : scanOffsets initCum actCum requests = .ok offsets) :
    ∀ request ∈ requests, request.res.length.toNat ≤ request.rbuf.length := by
  induction requests generalizing initCum actCum offsets with
  | nil => simp
  | cons request requests ih =>
      rw [scanOffsets] at scanned
      split at scanned
      · rename_i enough
        rcases Outcome.bind_eq_ok_iff.mp scanned with ⟨rest, others, -⟩
        exact List.forall_mem_cons.mpr ⟨enough, ih others⟩
      · cases scanned

theorem fits_of_fixup {requests fixed : List WriteReadRequest}
    (ran : fixupWriteReadReturnBuffers requests = .ok fixed) :
    ∀ request ∈ requests, request.res.length.toNat ≤ request.rbuf.length := by
  rcases Outcome.bind_eq_ok_iff.mp ran with ⟨offsets, scanned, -⟩
  exact fits_of_scanOffsets scanned

/-! ## Packed data -/

/-- Where data of the announced lengths begins when it is packed. -/
theorem actualOffset_eq_offset {requests : List WriteReadRequest} {datas : List (List UInt8)}
    (lengths : requests.map (fun request => request.res.length.toNat) = datas.map List.length)
    (index : Nat) : actualOffset requests index = offset datas index := by
  rw [actualOffset, offset, List.length_flatten, List.map_take, List.map_take, lengths]

/-- Data of the announced lengths that lies packed at the front of the buffers ends up
at the front of each buffer, with the results left as they are. -/
theorem fixupWriteReadReturnBuffers_packed {requests : List WriteReadRequest}
    {datas : List (List UInt8)} {rest : List UInt8}
    (lengths : requests.map (fun request => request.res.length.toNat) = datas.map List.length)
    (fits : ∀ request ∈ requests, request.res.length.toNat ≤ request.rbuf.length)
    (packed : (readBufs requests).flatten = datas.flatten ++ rest) :
    ∃ fixed, fixupWriteReadReturnBuffers requests = .ok fixed ∧
      fixed.map (·.res) = requests.map (·.res) ∧
      List.Forall₂ (fun data request => data.length ≤ request.rbuf.length ∧
        request.rbuf.take data.length = data) datas fixed := by
  rcases fixupWriteReadReturnBuffers_each fits with ⟨fixed, ran, sameCount, own⟩
  have each : ∀ (index : Nat) (request : WriteReadRequest) (data : List UInt8),
      requests[index]? = some request → datas[index]? = some data →
        ∃ other, fixed[index]? = some other ∧ other.res = request.res ∧
          data.length ≤ other.rbuf.length ∧ other.rbuf.take data.length = data := by
    intro index request data found dataFound
    rcases own index request found with ⟨other, otherFound, sameRes, sameLength, front⟩
    have announced : request.res.length.toNat = data.length := by
      have entry := congrArg (·[index]?) lengths
      simpa [found, dataFound] using entry
    have within := offset_add_length_le dataFound
    have atOffset : window datas.flatten (offset datas index + 0) data.length =
        window data 0 data.length := window_flatten dataFound (by omega)
    refine ⟨other, otherFound, sameRes, ?_, ?_⟩
    · rw [sameLength, ← announced]
      exact fits _ (List.mem_of_getElem? found)
    · rw [announced, packed, actualOffset_eq_offset lengths, window_append_left _ (by omega),
        ← Nat.add_zero (offset datas index), atOffset, window_zero, List.take_length] at front
      exact front
  have count : requests.length = datas.length := by
    simpa using congrArg List.length lengths
  have fixedCount : fixed.length = datas.length := sameCount.trans count
  refine ⟨fixed, ran, ?_, ?_⟩
  · apply List.ext_getElem
    · simp only [List.length_map]
      omega
    · intro index bound otherBound
      rw [List.length_map] at bound otherBound
      rcases each index _ _ (List.getElem?_eq_getElem otherBound)
        (List.getElem?_eq_getElem (fixedCount ▸ bound)) with ⟨other, found, same, -⟩
      rw [List.getElem?_eq_getElem bound, Option.some.injEq] at found
      rw [List.getElem_map, List.getElem_map, found, same]
  · apply List.forall₂_iff_get.mpr
    refine ⟨fixedCount.symm, ?_⟩
    intro index bound otherBound
    have requestBound : index < requests.length := by omega
    rcases each index _ _ (List.getElem?_eq_getElem requestBound)
      (List.getElem?_eq_getElem bound) with ⟨other, found, -, fit, front⟩
    rw [List.getElem?_eq_getElem otherBound, Option.some.injEq] at found
    simp only [List.get_eq_getElem, found]
    exact ⟨fit, front⟩

/-! ## The bytes of each item -/

/-- Whatever the sizes of the buffers and of the results within them, the call returns,
and the front of each buffer is its own part of what the buffers held before. -/
theorem fixup_ownBytes (requests : List WriteReadRequest)
    (fits : ∀ request ∈ requests, request.res.length.toNat ≤ request.rbuf.length) :
    ∃ fixed, fixupWriteReadReturnBuffers requests = .ok fixed ∧
      ∀ (i : Nat) (request : WriteReadRequest), requests[i]? = some request →
        let before := (requests.map (·.rbuf)).flatten
        let start := ((requests.take i).map fun earlier => earlier.res.length.toNat).sum
        let act := request.res.length.toNat
        ∃ other, fixed[i]? = some other ∧ other.rbuf.length = request.rbuf.length ∧
          start + act ≤ before.length ∧ other.rbuf.take act = (before.drop start).take act := by
  rcases fixupWriteReadReturnBuffers_each fits with ⟨fixed, ran, -, own⟩
  refine ⟨fixed, ran, ?_⟩
  intro i request found before start act
  rcases own i request found with ⟨other, otherFound, -, sameLength, front⟩
  have bound : i ≤ requests.length := (List.getElem?_eq_some_iff.mp found).1.le
  have begins : start ≤ offset (readBufs requests) i := actualOffset_le fits bound
  have ends := offset_add_length_le (readBufs_getElem? found)
  have fit := fits request (List.mem_of_getElem? found)
  exact ⟨other, otherFound, sameLength,
    (Nat.add_le_add begins fit).trans ends, front⟩

/-- A short read, an empty one and a full one before data that spans two buffers. -/
theorem shortReads_ownBytes :
    let read := fun (act : UInt32) (rbuf : List UInt8) =>
      { WriteReadRequest.new 0 0 [] rbuf with res := ⟨0, act⟩ }
    let requests := [read 2 [1, 2, 3], read 0 [4], read 2 [5, 6], read 3 [7, 8, 9, 0]]
    (List.map (·.rbuf) <$> fixupWriteReadReturnBuffers requests) =
        .ok [[1, 2, 3], [4], [3, 4], [5, 6, 7, 0]] ∧
      ∃ fixed, fixupWriteReadReturnBuffers requests = .ok fixed ∧
        ∃ other, fixed[3]? = some other ∧ other.rbuf.take 3 = [5, 6, 7] := by
  intro read requests
  refine ⟨by decide +kernel, ?_⟩
  rcases fixup_ownBytes requests (by decide +kernel) with ⟨fixed, ran, own⟩
  rcases own 3 _ rfl with ⟨other, found, -, -, front⟩
  exact ⟨fixed, ran, other, found, front⟩

end Ads.Client
