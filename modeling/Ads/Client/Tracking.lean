import Ads.Client.Notifications
import Ads.Transition.Mirror
import Ads.Transition.Run

/-!
# Tracking of notification handles

The calls that add and delete notifications, from any number of threads of one
client.  The server handles the items of a request one by one; when it has handled
them all, the call goes over the results and takes each success over into the
client's set of handles.  Between the two anything may happen in other calls, so
that the client may see two changes of one handle in the wrong order.
-/

namespace Ads.Client.Tracking

open Ads.Bytes Ads.Control Ads.Transition

variable {Id : Type}

/-- An address and a handle of it. -/
abbrev Entry : Type := AmsAddr × UInt32

/-- An item of a request that adds or deletes notifications. -/
inductive Item (Id : Type)
  | add (request : AddNotifRequest Id)
  | delete (request : DelNotifRequest)

namespace Item

/-- One round of the loop over the results: a handle that was returned is inserted, a handle
that was deleted is removed. -/
def takeOver (addr : AmsAddr) (notifHandles : NotifHandles) : Item Id → NotifHandles
  | add request =>
      match request.handle with
      | .ok handle => insert (addr, handle) notifHandles
      | _ => notifHandles
  | delete request =>
      match request.ensure with
      | .ok () => notifHandles.erase (addr, request.req)
      | _ => notifHandles

/-- What the server's answer says has changed. -/
def change (addr : AmsAddr) : Item Id → Option (Update Entry)
  | add request =>
      match request.handle with
      | .ok handle => some (.insert (addr, handle))
      | _ => none
  | delete request =>
      match request.ensure with
      | .ok () => some (.remove (addr, request.req))
      | _ => none

/-- The client makes the change that the answer tells it. -/
theorem takeOver_eq (addr : AmsAddr) (notifHandles : NotifHandles) (item : Item Id) :
    item.takeOver addr notifHandles =
      ((item.change addr).elim notifHandles fun update => update.apply notifHandles) := by
  cases item with
  | add request =>
      rw [takeOver, change]
      cases request.handle <;> rfl
  | delete request =>
      rw [takeOver, change]
      cases request.ensure <;> rfl

/-- An honest server handles an item: with result 0 it has added a notification under a handle
that was free, or deleted one that was live; otherwise it has changed nothing. -/
def serve (addr : AmsAddr) (live : Finset Entry) (result handle : UInt32) :
    Item Id → Option (Item Id × Finset Entry)
  | add request =>
      let filled := add (request.fill (ResultLength.asBytes ⟨result, handle⟩))
      if result ≠ 0 then some (filled, live)
      else if (addr, handle) ∈ live then none
      else some (filled, insert (addr, handle) live)
  | delete request =>
      let filled := delete (request.fill (u32Bytes result))
      if result ≠ 0 then some (filled, live)
      else if (addr, request.req) ∈ live then some (filled, live.erase (addr, request.req))
      else none

theorem handle_fill (request : AddNotifRequest Id) (result handle : UInt32) :
    (request.fill (ResultLength.asBytes ⟨result, handle⟩)).handle =
      if result ≠ 0 then .err (adsError "multi-read/write data" result) else .ok handle := by
  rw [AddNotifRequest.handle, AddNotifRequest.fill, ResultLength.ofBytes_asBytes]

theorem ensure_fill (request : DelNotifRequest) (result : UInt32) :
    (request.fill (u32Bytes result)).ensure =
      if result ≠ 0 then .err (adsError "multi-read/write data" result) else .ok () := by
  have word := leU32_u32Bytes_append result []
  rw [List.append_nil] at word
  rw [DelNotifRequest.ensure, DelNotifRequest.fill, word]

/-- What the server changes is what its answer says. -/
theorem live_of_serve {addr : AmsAddr} {live after : Finset Entry} {result handle : UInt32}
    {item filled : Item Id} (served : item.serve addr live result handle = some (filled, after)) :
    after = (filled.change addr).elim live fun update => update.apply live := by
  cases item with
  | add request =>
      unfold serve at served
      dsimp only at served
      by_cases failed : result ≠ 0
      · rw [if_pos failed] at served
        cases served
        rw [change, handle_fill, if_pos failed]
        rfl
      · rw [if_neg failed] at served
        split at served
        · contradiction
        · cases served
          rw [change, handle_fill, if_neg failed]
          rfl
  | delete request =>
      unfold serve at served
      dsimp only at served
      by_cases failed : result ≠ 0
      · rw [if_pos failed] at served
        cases served
        rw [change, ensure_fill, if_pos failed]
        rfl
      · rw [if_neg failed] at served
        split at served
        · cases served
          rw [change, ensure_fill, if_neg failed]
          rfl
        · contradiction

end Item

/-- A call in progress: the items that the server has yet to handle, and those whose results
the call has yet to take over. -/
structure Call (Id : Type) where
  addr : AmsAddr
  asked : List (Item Id)
  answered : List (Item Id)

namespace Call

/-- The call has returned. -/
def Over (call : Call Id) : Prop :=
  call.asked = [] ∧ call.answered = []

/-- A change of this entry is to be taken over. -/
def Changes (call : Call Id) (entry : Entry) : Prop :=
  ∃ item ∈ call.answered, ∃ update, item.change call.addr = some update ∧ update.key = entry

/-- The changes of a call that has results left are those of the first and of the rest. -/
theorem changes_cons_iff {call : Call Id} {item : Item Id} {answered : List (Item Id)}
    (next : call.answered = item :: answered) {entry : Entry} :
    call.Changes entry ↔
      (∃ update, item.change call.addr = some update ∧ update.key = entry) ∨
        ({ call with answered } : Call Id).Changes entry := by
  rw [Changes, next, Changes]
  simp only [List.mem_cons, exists_eq_or_imp]

instance (call : Call Id) : Decidable call.Over :=
  decidable_of_iff (call.asked.isEmpty = true ∧ call.answered.isEmpty = true) (by simp [Over])

end Call

/-- The notifications that are live at the server for the client, the client's set of handles,
and its calls. -/
structure State (Id : Type) where
  live : Finset Entry
  notifHandles : NotifHandles
  calls : List (Call Id)

/-- A step of a thread or of the server. -/
inductive Label (Id : Type)
  /-- `add_notification`, `add_notification_multi`: a request with one or more items. -/
  | add (addr : AmsAddr) (requests : List (AddNotifRequest Id))
  /-- `delete_notification`, `delete_notification_multi`. -/
  | delete (addr : AmsAddr) (requests : List DelNotifRequest)
  /-- The server handles the next item of a call. -/
  | serve (id : Nat) (result handle : UInt32)
  /-- The server refuses the request as a whole. -/
  | refuse (id : Nat)
  /-- The call takes the next result over. -/
  | takeOver (id : Nat)

/-- Whether a call begins in the step. -/
def Label.isStart : Label Id → Bool
  | .add _ _ => true
  | .delete _ _ => true
  | _ => false

/-- Whether the server handles an item in the step. -/
def Label.isServe : Label Id → Bool
  | .serve _ _ _ => true
  | _ => false

namespace State

/-- A new client. -/
def new : State Id where
  live := ∅
  notifHandles := ∅
  calls := []

/-- The state with a call replaced. -/
def setCall (state : State Id) (id : Nat) (call : Call Id) : State Id :=
  { state with calls := state.calls.set id call }

/-- A change of this entry is to be taken over by some call. -/
def Outstanding (state : State Id) (entry : Entry) : Prop :=
  ∃ call ∈ state.calls, call.Changes entry

/-- No call is in progress. -/
def Idle (state : State Id) : Prop :=
  ∀ call ∈ state.calls, call.Over

instance (state : State Id) : Decidable state.Idle :=
  inferInstanceAs (Decidable (∀ call ∈ state.calls, call.Over))

/-- One step of the client and its server. -/
def step (state : State Id) : Label Id → Option (State Id)
  | .add addr requests =>
      some { state with calls := state.calls ++ [⟨addr, requests.map .add, []⟩] }
  | .delete addr requests =>
      some { state with calls := state.calls ++ [⟨addr, requests.map .delete, []⟩] }
  | .serve id result handle => do
      let call ← state.calls[id]?
      match call.asked with
      | [] => none
      | item :: asked => do
          let (filled, live) ← item.serve call.addr state.live result handle
          some { state.setCall id { call with asked, answered := call.answered ++ [filled] } with
                 live }
  | .refuse id => do
      let call ← state.calls[id]?
      match call.answered with
      | [] => some (state.setCall id { call with asked := [] })
      | _ :: _ => none
  | .takeOver id => do
      let call ← state.calls[id]?
      match call.asked, call.answered with
      | [], item :: answered =>
          some { state.setCall id { call with answered } with
                 notifHandles := item.takeOver call.addr state.notifHandles }
      | _, _ => none

/-- A change of this entry would be left to be taken over. -/
def LeavesOther (state : State Id) (id : Nat) (call : Call Id) (answered : List (Item Id))
    (entry : Entry) : Prop :=
  (state.setCall id { call with answered }).Outstanding entry

/-- A call that takes a change over finds the server as the change left it, or leaves another
change of the same entry to be taken over. -/
def Timely (state : State Id) : Label Id → Prop
  | .takeOver id => ∀ (call : Call Id) (item : Item Id) (answered : List (Item Id))
      (update : Update Entry), state.calls[id]? = some call → call.answered = item :: answered →
        item.change call.addr = some update →
          (update.key ∈ state.live ↔ update.present = true) ∨
            state.LeavesOther id call answered update.key
  | _ => True

variable {state : State Id} {id : Nat} {call : Call Id} {item : Item Id}
  {answered : List (Item Id)}

theorem timely_takeOver {update : Update Entry} (found : state.calls[id]? = some call)
    (next : call.answered = item :: answered) (changed : item.change call.addr = some update)
    (agree : update.key ∈ state.live ↔ update.present = true) : state.Timely (.takeOver id) := by
  intro other first rest made isThere begins isMade
  cases isThere.symm.trans found
  cases begins.symm.trans next
  cases isMade.symm.trans changed
  exact Or.inl agree

theorem timely_of_refused (found : state.calls[id]? = some call)
    (next : call.answered = item :: answered) (unchanged : item.change call.addr = none) :
    state.Timely (.takeOver id) := by
  intro other first rest made isThere begins isMade
  cases isThere.symm.trans found
  cases begins.symm.trans next
  cases isMade.symm.trans unchanged

end State

/-! ## One step -/

namespace State

variable {state after : State Id} {id : Nat} {call : Call Id} {entry : Entry}

theorem outstanding_iff : state.Outstanding entry ↔
    ∃ (other : Nat) (call : Call Id), state.calls[other]? = some call ∧ call.Changes entry := by
  constructor
  · rintro ⟨call, member, changes⟩
    obtain ⟨other, found⟩ := List.mem_iff_getElem?.mp member
    exact ⟨other, call, found, changes⟩
  · rintro ⟨other, call, found, changes⟩
    exact ⟨call, List.mem_of_getElem? found, changes⟩

/-- What is outstanding when a call was replaced. -/
theorem outstanding_setCall_iff {new : Call Id} (found : state.calls[id]? = some call) :
    (state.setCall id new).Outstanding entry ↔ new.Changes entry ∨
      ∃ (other : Nat) (unchanged : Call Id), other ≠ id ∧ state.calls[other]? = some unchanged ∧
        unchanged.Changes entry := by
  have within : id < state.calls.length := (List.getElem?_eq_some_iff.mp found).1
  rw [outstanding_iff]
  constructor
  · rintro ⟨other, unchanged, isThere, changes⟩
    rw [setCall, List.getElem?_set] at isThere
    by_cases same : id = other
    · subst same
      rw [if_pos rfl, if_pos within] at isThere
      cases isThere
      exact Or.inl changes
    · rw [if_neg same] at isThere
      exact Or.inr ⟨other, unchanged, Ne.symm same, isThere, changes⟩
  · rintro (changes | ⟨other, unchanged, different, isThere, changes⟩)
    · refine ⟨id, new, ?_, changes⟩
      rw [setCall]
      exact List.getElem?_set_self within
    · refine ⟨other, unchanged, ?_, changes⟩
      rw [setCall, List.getElem?_set_ne (Ne.symm different)]
      exact isThere

/-- What was outstanding before. -/
theorem outstanding_of_setCall {new : Call Id} (found : state.calls[id]? = some call)
    (outstanding : state.Outstanding entry) (kept : call.Changes entry → new.Changes entry) :
    (state.setCall id new).Outstanding entry := by
  rw [outstanding_setCall_iff found]
  obtain ⟨other, unchanged, isThere, changes⟩ := outstanding_iff.mp outstanding
  by_cases same : other = id
  · subst same
    cases isThere.symm.trans found
    exact Or.inl (kept changes)
  · exact Or.inr ⟨other, unchanged, same, isThere, changes⟩

/-- What is outstanding after a call was replaced, and was so before. -/
theorem outstanding_before {new : Call Id} (found : state.calls[id]? = some call)
    (outstanding : (state.setCall id new).Outstanding entry)
    (kept : new.Changes entry → call.Changes entry) : state.Outstanding entry := by
  rw [outstanding_iff]
  rcases (outstanding_setCall_iff found).mp outstanding with
    changes | ⟨other, unchanged, -, isThere, changes⟩
  · exact ⟨id, call, found, kept changes⟩
  · exact ⟨other, unchanged, isThere, changes⟩

/-- What a step does. -/
inductive Step (state : State Id) : Label Id → State Id → Prop
  | started {label : Label Id} {call : Call Id} (begins : label.isStart = true)
      (fresh : call.answered = []) : Step state label { state with calls := state.calls ++ [call] }
  | served {id : Nat} {call : Call Id} {result handle : UInt32} {asked : List (Item Id)}
      {filled : Item Id} (found : state.calls[id]? = some call) :
      Step state (.serve id result handle)
        { state.setCall id { call with asked, answered := call.answered ++ [filled] } with
          live := (filled.change call.addr).elim state.live fun update =>
            update.apply state.live }
  | refused {id : Nat} {call : Call Id} (found : state.calls[id]? = some call) :
      Step state (.refuse id) (state.setCall id { call with asked := [] })
  | takenOver {id : Nat} {call : Call Id} {item : Item Id} {answered : List (Item Id)}
      (found : state.calls[id]? = some call) (next : call.answered = item :: answered) :
      Step state (.takeOver id) { state.setCall id { call with answered } with
        notifHandles := (item.change call.addr).elim state.notifHandles fun update =>
          update.apply state.notifHandles }

theorem step_cases {label : Label Id} (taken : state.step label = some after) :
    Step state label after := by
  cases label with
  | add addr requests =>
      cases taken
      exact .started rfl rfl
  | delete addr requests =>
      cases taken
      exact .started rfl rfl
  | serve id result handle =>
      obtain ⟨call, found, rest⟩ := Option.bind_eq_some_iff.mp taken
      split at rest
      · contradiction
      · obtain ⟨⟨filled, live⟩, served, done⟩ := Option.bind_eq_some_iff.mp rest
        have changed := Item.live_of_serve served
        cases done
        cases changed
        exact .served found
  | refuse id =>
      obtain ⟨call, found, rest⟩ := Option.bind_eq_some_iff.mp taken
      split at rest
      · cases rest
        exact .refused found
      · contradiction
  | takeOver id =>
      obtain ⟨call, found, rest⟩ := Option.bind_eq_some_iff.mp taken
      split at rest
      · rename_i next
        cases rest
        rw [Item.takeOver_eq]
        exact .takenOver found next
      · contradiction

/-- Every entry on which the client's set differs from the server's has a change outstanding. -/
def HandlesSettled (state : State Id) : Prop :=
  Settled state.live state.notifHandles state.Outstanding

theorem Step.settled {label : Label Id} (step : Step state label after)
    (timely : state.Timely label) (settled : state.HandlesSettled) : after.HandlesSettled := by
  cases step with
  | started begins fresh =>
      apply settled.mono
      rintro entry ⟨call, member, changes⟩
      exact ⟨call, List.mem_append_left _ member, changes⟩
  | @served id call result handle asked filled found =>
      have kept : ∀ entry, state.Outstanding entry → (state.setCall id
          { call with asked, answered := call.answered ++ [filled] }).Outstanding entry := by
        intro entry outstanding
        apply outstanding_of_setCall found outstanding
        rintro ⟨item, member, changed⟩
        exact ⟨item, List.mem_append_left _ member, changed⟩
      cases changed : filled.change call.addr with
      | none => exact settled.mono kept
      | some update =>
          apply settled.change kept
          exact (outstanding_setCall_iff found).mpr
            (Or.inl ⟨filled, by simp, update, changed, rfl⟩)
  | refused found =>
      apply settled.mono
      intro entry outstanding
      exact outstanding_of_setCall found outstanding id
  | @takenOver id call item answered found next =>
      cases changed : item.change call.addr with
      | none =>
          apply settled.mono
          intro entry outstanding
          apply outstanding_of_setCall found outstanding
          rw [Call.changes_cons_iff next]
          rintro (⟨update, isChange, -⟩ | changes)
          · cases changed.symm.trans isChange
          · exact changes
      | some update =>
          apply settled.take
          · intro entry different outstanding
            apply outstanding_of_setCall found outstanding
            rw [Call.changes_cons_iff next]
            rintro (⟨other, isChange, rfl⟩ | changes)
            · cases changed.symm.trans isChange
              exact absurd rfl different
            · exact changes
          · exact timely call item answered update found next changed

/-- A step that is not timely leaves an entry that differs and that no call will change. -/
theorem Step.lost {label : Label Id} (step : Step state label after)
    (stale : ¬ state.Timely label) :
    ∃ entry, Lost after.live after.notifHandles after.Outstanding entry := by
  cases step with
  | started begins fresh =>
      cases label with
      | takeOver id => cases begins
      | _ => exact absurd trivial stale
  | served found => exact absurd trivial stale
  | refused found => exact absurd trivial stale
  | @takenOver id call item answered found next =>
      simp only [Timely, not_forall] at stale
      obtain ⟨other, first, rest, update, isThere, begins, changed, stale⟩ := stale
      cases isThere.symm.trans found
      cases begins.symm.trans next
      refine ⟨update.key, ?_⟩
      rw [changed]
      exact lost_of_take stale

/-- It stays so as long as the server handles nothing more. -/
theorem Step.stays_lost {label : Label Id} (step : Step state label after)
    (quiet : label.isServe = false)
    (lost : Lost state.live state.notifHandles state.Outstanding entry) :
    Lost after.live after.notifHandles after.Outstanding entry := by
  cases step with
  | started begins fresh =>
      refine ⟨lost.1, ?_⟩
      rintro ⟨call, member, changes⟩
      rcases List.mem_append.mp member with old | new
      · exact lost.2 ⟨call, old, changes⟩
      · cases List.mem_singleton.mp new
        rw [Call.Changes, fresh] at changes
        obtain ⟨item, nothing, -⟩ := changes
        cases nothing
  | served found => cases quiet
  | refused found =>
      refine ⟨lost.1, fun outstanding => lost.2 ?_⟩
      exact outstanding_before found outstanding id
  | @takenOver id call item answered found next =>
      have fewer : ∀ other, (state.setCall id { call with answered }).Outstanding other →
          state.Outstanding other := by
        intro other outstanding
        apply outstanding_before found outstanding
        rw [Call.changes_cons_iff next]
        exact Or.inr
      cases changed : item.change call.addr with
      | none => exact ⟨lost.1, fun outstanding => lost.2 (fewer entry outstanding)⟩
      | some update =>
          refine lost.take ?_ fewer
          refine outstanding_iff.mpr ⟨id, call, found, ?_⟩
          rw [Call.changes_cons_iff next]
          exact Or.inl ⟨update, changed, rfl⟩

theorem not_outstanding_of_idle (idle : state.Idle) (entry : Entry) :
    ¬ state.Outstanding entry := by
  rintro ⟨call, member, changes⟩
  rw [Call.Changes, (idle call member).2] at changes
  obtain ⟨item, nothing, -⟩ := changes
  cases nothing

/-! ## The loops of the code -/

/-- Undisturbed, a call takes its results over one after the other. -/
theorem takeOver_run {addr : AmsAddr} {answered : List (Item Id)}
    (found : state.calls[id]? = some ⟨addr, [], answered⟩) :
    Run step state (List.replicate answered.length (.takeOver id))
      { state.setCall id ⟨addr, [], []⟩ with
        notifHandles := answered.foldl (fun notifHandles item => item.takeOver addr notifHandles)
          state.notifHandles } := by
  induction answered generalizing state with
  | nil =>
      have same : state.setCall id ⟨addr, [], []⟩ = state := by
        obtain ⟨within, isCall⟩ := List.getElem?_eq_some_iff.mp found
        rw [setCall, ← isCall, List.set_getElem_self]
      rw [same]
      exact .nil
  | cons item answered ih =>
      have within : id < state.calls.length := (List.getElem?_eq_some_iff.mp found).1
      have first : state.step (.takeOver id) = some { state.setCall id ⟨addr, [], answered⟩ with
          notifHandles := item.takeOver addr state.notifHandles } := by
        rw [step, found]
        rfl
      have later := @ih { state.setCall id ⟨addr, [], answered⟩ with
          notifHandles := item.takeOver addr state.notifHandles } (List.getElem?_set_self within)
      have twice : ({ state.setCall id ⟨addr, [], answered⟩ with
          notifHandles := item.takeOver addr state.notifHandles } : State Id).setCall id
            ⟨addr, [], []⟩ = { state.setCall id ⟨addr, [], []⟩ with
              notifHandles := item.takeOver addr state.notifHandles } := by
        simp [setCall]
      rw [twice] at later
      exact (Run.one first).trans later

theorem insertHandles_eq_foldl (addr : AmsAddr) (notifHandles : NotifHandles)
    (requests : List (AddNotifRequest Id)) :
    insertHandles addr notifHandles requests = (requests.map Item.add).foldl
      (fun notifHandles item => item.takeOver addr notifHandles) notifHandles := by
  induction requests generalizing notifHandles with
  | nil => rfl
  | cons request requests ih =>
      rw [insertHandles, List.map_cons, List.foldl_cons, Item.takeOver]
      cases request.handle <;> exact ih _

theorem removeHandles_eq_foldl (addr : AmsAddr) (notifHandles : NotifHandles)
    (requests : List DelNotifRequest) :
    removeHandles addr notifHandles requests = (requests.map (@Item.delete Id)).foldl
      (fun notifHandles item => item.takeOver addr notifHandles) notifHandles := by
  induction requests generalizing notifHandles with
  | nil => rfl
  | cons request requests ih =>
      rw [removeHandles, List.map_cons, List.foldl_cons, Item.takeOver]
      cases request.ensure <;> exact ih _

/-- Undisturbed, a call that adds notifications does what the loop of the code does. -/
theorem insertHandles_run {addr : AmsAddr} {requests : List (AddNotifRequest Id)}
    (found : state.calls[id]? = some ⟨addr, [], requests.map .add⟩) :
    Run step state (List.replicate requests.length (.takeOver id))
      { state.setCall id ⟨addr, [], []⟩ with
        notifHandles := insertHandles addr state.notifHandles requests } := by
  have run := takeOver_run found
  rwa [List.length_map, ← insertHandles_eq_foldl] at run

/-- Undisturbed, a call that deletes notifications does what the loop of the code does. -/
theorem removeHandles_run {addr : AmsAddr} {requests : List DelNotifRequest}
    (found : state.calls[id]? = some ⟨addr, [], requests.map .delete⟩) :
    Run step state (List.replicate requests.length (.takeOver id))
      { state.setCall id ⟨addr, [], []⟩ with
        notifHandles := removeHandles addr state.notifHandles requests } := by
  have run := takeOver_run found
  rwa [List.length_map, ← removeHandles_eq_foldl] at run

section Operations

variable {S : Type} {server : Server S} {device : Device} {notifHandles updated : NotifHandles}
  {link last : Link S}

/-- An operation that adds a notification is a call with one item. -/
theorem addNotification_takeOver {indexGroup indexOffset handle : UInt32}
    {attributes : Attributes}
    (ran : addNotification server device indexGroup indexOffset attributes notifHandles link =
      (.ok (handle, updated), last)) (request : AddNotifRequest Id) :
    updated = (Item.add (request.fill (ResultLength.asBytes ⟨0, handle⟩))).takeOver device.addr
      notifHandles := by
  rcases Operation.ofOutcome_bind_run_eq_ok_iff.mp ran with ⟨length, -, rest⟩
  rcases Operation.ofOutcome_bind_run_eq_ok_iff.mp rest with ⟨maxDelay, -, rest⟩
  rcases Operation.ofOutcome_bind_run_eq_ok_iff.mp rest with ⟨cycleTime, -, rest⟩
  rcases Operation.bind_run_eq_ok_iff.mp rest with ⟨received, after, -, finished⟩
  cases finished
  rw [Item.takeOver, Item.handle_fill, if_neg (not_not.mpr rfl)]

/-- An operation that adds several notifications is a call with their items. -/
theorem addNotificationMulti_takeOver {requests filled : List (AddNotifRequest Id)}
    (ran : addNotificationMulti server device requests notifHandles link =
      (.ok (filled, updated), last)) :
    updated = (filled.map Item.add).foldl
      (fun notifHandles item => item.takeOver device.addr notifHandles) notifHandles := by
  rcases Operation.bind_run_eq_ok_iff.mp ran with ⟨bufs, after, -, finished⟩
  cases finished
  exact insertHandles_eq_foldl device.addr notifHandles _

/-- An operation that deletes a notification is a call with one item. -/
theorem deleteNotification_takeOver {handle : UInt32}
    (ran : deleteNotification server device handle notifHandles link = (.ok updated, last)) :
    updated = (Item.delete ((DelNotifRequest.new handle).fill (u32Bytes 0)) : Item Id).takeOver
      device.addr notifHandles := by
  rcases Operation.bind_run_eq_ok_iff.mp ran with ⟨received, after, -, finished⟩
  cases finished
  rw [Item.takeOver, Item.ensure_fill, if_neg (not_not.mpr rfl)]
  rfl

/-- An operation that deletes several notifications is a call with their items. -/
theorem deleteNotificationMulti_takeOver {requests filled : List DelNotifRequest}
    (ran : deleteNotificationMulti server device requests notifHandles link =
      (.ok (filled, updated), last)) :
    updated = (filled.map (@Item.delete Id)).foldl
      (fun notifHandles item => item.takeOver device.addr notifHandles) notifHandles := by
  rcases Operation.bind_run_eq_ok_iff.mp ran with ⟨bufs, after, -, finished⟩
  cases finished
  exact removeHandles_eq_foldl device.addr notifHandles _

end Operations

/-! ## The end of the client -/

/-- The deletion of one handle of a client that is dropped; an honest server refuses it if the
handle is not live. -/
def dropHandle (live : Finset Entry) (entry : Entry) : Finset Entry :=
  match (Item.delete (.new entry.2) : Item Unit).serve entry.1 live 0 0 with
  | some (_, after) => after
  | none => live

theorem dropHandle_eq (live : Finset Entry) (entry : Entry) :
    dropHandle live entry = live.erase entry := by
  rw [dropHandle, Item.serve]
  by_cases isLive : entry ∈ live
  · simp [DelNotifRequest.new, isLive]
  · simp [DelNotifRequest.new, isLive]

/-- What is live after a client with these handles was dropped. -/
theorem mem_foldl_dropHandle_iff {live : Finset Entry} {handles : List Entry} :
    entry ∈ handles.foldl dropHandle live ↔ entry ∈ live ∧ entry ∉ handles := by
  induction handles generalizing live with
  | nil => simp
  | cons handle handles ih =>
      rw [List.foldl_cons, ih, dropHandle_eq, Finset.mem_erase, List.mem_cons, not_or]
      tauto

end State

/-! ## Every run -/

open State

/-- As long as every call that takes a change over finds the server as the change left it, or
leaves another change of the same entry to be taken over, the client's set is the server's
whenever no call is in progress, and dropping the client deletes every live notification and
only those.  A step that does otherwise leaves the two different until the server handles
another item. -/
theorem handles_tracked {labels : List (Label Id)} {state : State Id}
    (run : Run State.step .new labels state) :
    (AllSteps State.step .new labels Timely → state.Idle →
      state.notifHandles = state.live ∧ ∀ handles : List Entry,
        (∀ entry, entry ∈ handles ↔ entry ∈ state.notifHandles) →
          (∀ entry ∈ handles, entry ∈ state.live) ∧ handles.foldl dropHandle state.live = ∅) ∧
    ∀ (label : Label Id) (after : State Id) (later : List (Label Id)) (last : State Id),
      state.step label = some after → ¬ state.Timely label → Run State.step after later last →
        (∀ other ∈ later, other.isServe = false) → last.notifHandles ≠ last.live := by
  constructor
  · intro timely idle
    have settled : state.HandlesSettled := by
      apply run.invariant_allSteps timely
      · exact fun entry => Or.inl Iff.rfl
      · intro before label after settled meets taken
        exact (step_cases taken).settled meets settled
    have same := settled.eq (not_outstanding_of_idle idle)
    refine ⟨same, fun handles all => ?_⟩
    constructor
    · intro entry member
      rw [← same]
      exact (all entry).mp member
    · ext entry
      rw [mem_foldl_dropHandle_iff, all entry, same]
      simp
  · intro label after later last taken stale rest quiet
    obtain ⟨entry, lost⟩ := (step_cases taken).lost stale
    have stays := @Run.invariant_labels _ _ State.step after last later
      (fun _ state => Lost state.live state.notifHandles state.Outstanding entry)
      (fun label => label.isServe = false) rest quiet lost
      (fun _ _ _ _ lost quiet taken => (step_cases taken).stays_lost quiet lost)
    exact stays.ne

/-- A request to be notified of four bytes. -/
def plainNotif : AddNotifRequest Unit :=
  .new 0x4020 0 ⟨4, .serverCycle, ⟨0, 0⟩, ⟨1, 0⟩⟩

/-- The address that the calls below are for. -/
def plcAddr : AmsAddr :=
  ⟨.localId, 851⟩

/-- Two calls that overlap: one adds a notification, the other two, of which the server
refuses the second. -/
def overlappingAdds : List (Label Unit) :=
  [.add plcAddr [plainNotif], .add plcAddr [plainNotif, plainNotif], .serve 1 0 5,
    .serve 0 0 7, .serve 1 0x716 0, .takeOver 1, .takeOver 0, .takeOver 1]

theorem overlappingAdds_tracked :
    ∃ state, Run State.step .new overlappingAdds state ∧ state.Idle ∧
      state.notifHandles = state.live ∧ state.live = {(plcAddr, 5), (plcAddr, 7)} := by
  have run : Run State.step .new overlappingAdds _ := .of_execute rfl
  refine ⟨_, run, by decide +kernel, ((handles_tracked run).1 ?_ (by decide +kernel)).1,
    by decide +kernel⟩
  refine Run.allSteps_cons trivial rfl ?_
  refine Run.allSteps_cons trivial rfl ?_
  refine Run.allSteps_cons trivial rfl ?_
  refine Run.allSteps_cons trivial rfl ?_
  refine Run.allSteps_cons trivial rfl ?_
  refine Run.allSteps_cons (timely_takeOver rfl rfl rfl (by decide +kernel)) rfl ?_
  refine Run.allSteps_cons (timely_takeOver rfl rfl rfl (by decide +kernel)) rfl ?_
  refine Run.allSteps_cons (timely_of_refused rfl rfl rfl) rfl ?_
  exact Run.allSteps_nil

/-- A call deletes a notification; before it removes the handle from the set, the server gives
the handle to another call, which inserts it. -/
def reusedHandle : List (Label Unit) :=
  [.add plcAddr [plainNotif], .serve 0 0 1, .takeOver 0, .delete plcAddr [.new 1], .serve 1 0 0,
    .add plcAddr [plainNotif], .serve 2 0 1, .takeOver 2, .takeOver 1]

/-- The notification is live, no call is in progress, and the client does not know of it. -/
theorem reusedHandle_lost :
    ∃ state, execute State.step .new reusedHandle = some state ∧ state.Idle ∧
      state.notifHandles = ∅ ∧ state.live = {(plcAddr, 1)} := by
  refine ⟨_, rfl, ?_, ?_, ?_⟩ <;> decide +kernel

end Ads.Client.Tracking
