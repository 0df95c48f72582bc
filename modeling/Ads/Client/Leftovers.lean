import Ads.Client.Lifecycle

/-!
# Entries of calls that have returned

The pending map holds entries of calls in progress only, in every state of a run,
exactly as long as no write fails while its call is registered.
-/

namespace Ads.Client

open Ads.Control Ads.Transition

namespace World

variable {world after : World}

/-- Every entry of the pending map belongs to a call in progress. -/
def NoLeftovers (world : World) : Prop :=
  ∀ invokeId id, world.pending.lookup invokeId = some id →
    ∃ call, world.calls[id]? = some call ∧ call.invokeId = invokeId ∧
      call.stage.isDone = false

/-- If the step is a write that fails, the entry of its call is no longer in the map. -/
def FailsUnregistered (world : World) : Label → Prop
  | .write id (some _) => ∀ call, world.calls[id]? = some call → ¬ world.Registered id call
  | _ => True

/-- Entries come in by `insert_pending_request` only. -/
theorem entry_of_step {label : Label} (step : world.step label = some after)
    {invokeId : UInt32} {id : CallId} (entry : after.pending.lookup invokeId = some id) :
    world.pending.lookup invokeId = some id ∨ label = .insert id := by
  cases label with
  | start request =>
      cases step
      exact .inl entry
  | insert call =>
      obtain ⟨state, _, _, _, rfl⟩ := insert_eq_some step
      by_cases same : invokeId = state.invokeId
      · subst same
        rw [AList.lookup_insert] at entry
        cases entry
        exact .inr rfl
      · rw [AList.lookup_insert_ne same] at entry
        exact .inl entry
  | write call failure =>
      obtain ⟨_, _, _, _, ⟨-, -, rfl⟩ | ⟨_, _, -, rfl⟩⟩ := write_eq_some step
      · exact .inl entry
      · exact .inl entry
  | receive call =>
      obtain ⟨_, _, _, ⟨_, _, rfl⟩ | ⟨_, rfl⟩⟩ := receive_eq_some step
      · exact .inl entry
      · exact .inl entry
  | timeout call =>
      obtain ⟨_, _, _, _, _, rfl⟩ := timeout_eq_some step
      exact .inl entry
  | discard call =>
      obtain ⟨_, _, _, _, rfl⟩ := discard_eq_some step
      exact .inl (lookup_of_erase entry).2
  | arrive bytes =>
      cases step
      exact .inl entry
  | turn socketEnd =>
      obtain ⟨-, ⟨_, rfl⟩ | ⟨_, _, rfl⟩ | ⟨_, _, _, _, _, _, rfl⟩ |
        ⟨_, _, rfl | ⟨_, _, _, _, rfl⟩, rfl⟩ | rfl⟩ := turn_eq_some step
      · exact .inl entry
      · exact .inl entry
      · exact .inl (lookup_of_erase entry).2
      · exact .inl entry
      · exact .inl (lookup_of_erase entry).2
      · exact .inl entry
  | shutdown =>
      obtain ⟨_, _, rfl⟩ := shutdown_eq_some step
      exact .inl entry
  | drain =>
      obtain ⟨_, _, rfl⟩ := drain_eq_some step
      rw [AList.lookup_empty] at entry
      cases entry

/-- A step leaves no entry of a call that it makes return, unless its write fails. -/
theorem Consistent.active_of_entry (consistent : world.Consistent)
    (none : world.NoLeftovers) {label : Label} (unregistered : world.FailsUnregistered label)
    (step : world.step label = some after) {id : CallId} {old new : Call}
    (found : world.calls[id]? = some old) (stepped : Call.Step world id old label new)
    (before : world.Registered id old) (entry : after.Registered id old) :
    new.stage.isDone = false := by
  have active : old.stage.isDone = false := by
    obtain ⟨call, same, -, active⟩ := none _ _ before
    cases found.symm.trans same
    exact active
  have empty := (consistent.calls id old found).registered before
  cases stepped with
  | still => exact active
  | inserted => rfl
  | written => rfl
  | unwritten count kind => exact absurd before (unregistered old found)
  | received _ full =>
      rw [empty] at full
      cases full
  | hungUp => rfl
  | timedOut => rfl
  | discarded =>
      obtain ⟨state, _, same, _, rfl⟩ := discard_eq_some step
      cases found.symm.trans same
      exact absurd rfl (lookup_of_erase entry).1
  | displaced => exact active
  | delivered _ _ active => exact active

theorem Consistent.noLeftovers_step (consistent : world.Consistent)
    (none : world.NoLeftovers) {label : Label} (unregistered : world.FailsUnregistered label)
    (step : world.step label = some after) : after.NoLeftovers := by
  intro invokeId id entry
  obtain ⟨new, isNew, same⟩ := (consistent.step step).entries invokeId id entry
  subst same
  refine ⟨new, isNew, rfl, ?_⟩
  rcases consistent.step_call step isNew with ⟨old, found, stepped⟩ | ⟨last, ⟨request, rfl⟩, -⟩
  · have number := stepped.invokeId
    rw [number] at entry
    rcases entry_of_step step entry with before | rfl
    · exact consistent.active_of_entry none unregistered step found stepped before entry
    · -- the entry is new, and so its call is about to write
      obtain ⟨state, _, same, numbered, rfl⟩ := insert_eq_some step
      cases found.symm.trans same
      cases stepped with
      | still => rw [numbered]; rfl
      | inserted => rfl
      | displaced acts _ distinct =>
          rcases acts with equal | equal
          · cases equal
            exact absurd rfl distinct
          · cases equal
      | delivered acts => rcases acts with equal | ⟨_, equal⟩ <;> cases equal
  · -- a call that starts has no entry
    rcases entry_of_step step entry with before | equal
    · obtain ⟨call, found, -⟩ := consistent.entries _ _ before
      have below := (List.getElem?_eq_some_iff.mp found).1
      exact absurd below (by rw [last]; exact Nat.lt_irrefl _)
    · cases equal

/-- A write that fails while its call is registered leaves the entry behind. -/
theorem unregistered_of_step {label : Label} (step : world.step label = some after)
    (none : after.NoLeftovers) : world.FailsUnregistered label := by
  cases label with
  | write id failure =>
      obtain ⟨state, _, found, _, ⟨rfl, -, -⟩ | ⟨count, kind, rfl, rfl⟩⟩ := write_eq_some step
      · trivial
      · intro call same registered
        cases found.symm.trans same
        obtain ⟨returned, isReturned, -, active⟩ := none _ _ registered
        simp only [getElem?_modifyCall, found, Option.map_some, if_true,
          Option.some.injEq] at isReturned
        subst isReturned
        cases active
  | _ => trivial

end World

/-- Once a call has returned, the pending map has no entry of it, in every state of a
run, exactly when each write of the run that fails finds its entry gone from the map. -/
theorem no_leftovers {source : AmsAddr} {readTimeout : Bool} {labels : List Label}
    {world : World} (run : Run World.step (.initial source readTimeout) labels world) :
    AllStates World.step (.initial source readTimeout) labels World.NoLeftovers ↔
      AllSteps World.step (.initial source readTimeout) labels World.FailsUnregistered := by
  apply run.allStates_iff_allSteps (World.Consistent.initial source readTimeout)
  · intro invokeId id entry
    cases entry
  · exact fun _ _ _ consistent step => consistent.step step
  · intro state label after consistent none step
    constructor
    · exact World.unregistered_of_step step
    · exact fun unregistered => consistent.noLeftovers_step none unregistered step

/-- A read of nothing. -/
def plainRead : Request :=
  ⟨.read, ⟨.localId, 851⟩, [], []⟩

/-- A call that finds the clean-up done when it writes. -/
def lateWrite : List Label :=
  [.start plainRead, .insert 0, .turn (some .connectionReset), .shutdown, .drain,
    .write 0 (some (0, .brokenPipe))]

/-- Its write fails, and leaves nothing. -/
theorem lateWrite_clean :
    ∃ world, execute World.step (.initial ⟨.localId, 1⟩ false) lateWrite = some world ∧
      world.NoLeftovers := by
  have run : Run World.step (.initial ⟨.localId, 1⟩ false) lateWrite _ := .of_execute rfl
  refine ⟨_, rfl, (no_leftovers run).mpr ?_ lateWrite [] _ rfl run⟩
  refine Run.allSteps_cons trivial rfl ?_
  refine Run.allSteps_cons trivial rfl ?_
  refine Run.allSteps_cons trivial rfl ?_
  refine Run.allSteps_cons trivial rfl ?_
  refine Run.allSteps_cons trivial rfl ?_
  apply Run.allSteps_cons
  · intro call _ registered
    cases registered
  · rfl
  · exact Run.allSteps_nil

/-- A call whose write times out. -/
def failedWrite : List Label :=
  [.start plainRead, .insert 0, .write 0 (some (0, .timedOut))]

/-- Its entry is left in the map. -/
theorem failedWrite_leaves :
    ∃ world, execute World.step (.initial ⟨.localId, 1⟩ true) failedWrite = some world ∧
      ¬ world.NoLeftovers := by
  refine ⟨_, rfl, ?_⟩
  intro none
  obtain ⟨call, found, -, active⟩ := none 1 0 rfl
  cases found
  cases active

end Ads.Client
