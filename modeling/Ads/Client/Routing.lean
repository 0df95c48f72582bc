import Ads.Client.Invariant

/-!
# Routing of replies

Over every interleaving of calls and reader: each reply frame goes to one call at
most, which has its invoke id, and a call's entry in the pending map is safe from
other calls for the next `2 ^ 32` requests.
-/

namespace Ads.Client

open Ads.Control Ads.Transition

namespace World

/-- How many requests have been dispatched since a call took its invoke id. -/
def dispatchedSince (world : World) (id : CallId) : Nat :=
  world.calls.length - 1 - id

namespace Consistent

variable {world after : World}

/-- No call is sent more than one message. -/
theorem nodup_deliveries (consistent : world.Consistent) :
    (world.deliveries.map Delivery.call).Nodup := by
  rw [List.nodup_iff_count_le_one]
  intro id
  have filtered : (world.deliveries.map Delivery.call).count id =
      (world.deliveriesTo id).length := by
    rw [deliveriesTo, List.length_map, ← List.countP_eq_length_filter, List.count,
      List.countP_map]
    rfl
  rw [filtered]
  by_cases known : id < world.calls.length
  · have history := (consistent.calls id world.calls[id] (List.getElem?_eq_getElem known)).history
    rw [history]
    cases world.calls[id].channel <;> simp [Channel.messages]
  · have none : world.deliveriesTo id = [] := by
      rw [deliveriesTo, List.map_eq_nil_iff, List.filter_eq_nil_iff]
      intro delivery member
      have below := consistent.deliveries delivery member
      simp only [decide_eq_true_eq]
      rintro rfl
      exact known below
    simp [none]

/-- A message in the history is in the channel of its call. -/
theorem mem_messages (consistent : world.Consistent) {delivery : Delivery}
    (member : delivery ∈ world.deliveries) :
    ∃ call : Call, world.calls[delivery.call]? = some call ∧
      delivery.message ∈ call.channel.messages := by
  have known := consistent.deliveries delivery member
  have found := List.getElem?_eq_getElem known
  refine ⟨_, found, ?_⟩
  rw [← (consistent.calls _ _ found).history]
  exact List.mem_map.mpr ⟨delivery, List.mem_filter.mpr ⟨member, by simp⟩, rfl⟩

/-- A message in a channel is in the history, under the number of its frame if it
is a reply. -/
theorem mem_deliveries (consistent : world.Consistent) {id : CallId} {call : Call}
    {reply : AdsHeader × List UInt8} (found : world.calls[id]? = some call)
    (message : .ok reply ∈ call.channel.messages) :
    ∃ frame, ⟨id, .ok reply, some frame⟩ ∈ world.deliveries := by
  rw [← (consistent.calls id call found).history] at message
  obtain ⟨⟨receiver, sent, frame⟩, filtered, isReply⟩ := List.mem_map.mp message
  obtain ⟨member, same⟩ := List.mem_filter.mp filtered
  have receiverId : receiver = id := of_decide_eq_true same
  cases isReply
  subst receiverId
  cases frame with
  | some frame => exact ⟨frame, member⟩
  | none =>
      obtain ⟨error, failed⟩ := consistent.origin _ member rfl
      cases failed

/-- Two calls share an invoke id only across a whole cycle of the counter. -/
theorem far_apart (consistent : world.Consistent) {first second : CallId} {call other : Call}
    (distinct : first ≠ second) (found : world.calls[first]? = some call)
    (found' : world.calls[second]? = some other) (same : call.invokeId = other.invokeId) :
    2 ^ 32 ≤ world.dispatchedSince first ∨ 2 ^ 32 ≤ world.dispatchedSince second := by
  have firstBelow := (List.getElem?_eq_some_iff.mp found).1
  have secondBelow := (List.getElem?_eq_some_iff.mp found').1
  rw [consistent.numbers _ _ found, consistent.numbers _ _ found'] at same
  have congruent := congrArg UInt32.toNat same
  rw [UInt32.toNat_ofNat', UInt32.toNat_ofNat'] at congruent
  have apart : first ≠ second := distinct
  unfold dispatchedSince
  unfold CallId at *
  omega

/-- An insert leaves the entry of another call in place, unless a whole cycle of
invoke ids was dispatched since one of the two took its own. -/
theorem insert_keeps (consistent : world.Consistent) {first second : CallId}
    {invokeId : UInt32} (distinct : first ≠ second)
    (few : world.dispatchedSince first < 2 ^ 32)
    (few' : world.dispatchedSince second < 2 ^ 32)
    (step : world.step (.insert second) = some after)
    (registered : world.pending.lookup invokeId = some first) :
    after.pending.lookup invokeId = some first := by
  obtain ⟨other, requestBuf, found', -, rfl⟩ := insert_eq_some step
  obtain ⟨call, found, rfl⟩ := consistent.entries _ _ registered
  by_cases same : call.invokeId = other.invokeId
  · rcases consistent.far_apart distinct found found' same with many | many
    · exact absurd few (Nat.not_lt_of_le many)
    · exact absurd few' (Nat.not_lt_of_le many)
  · change (world.pending.insert other.invokeId second).lookup call.invokeId = some first
    rwa [AList.lookup_insert_ne same]

end Consistent

end World

/-- Over every run: a reply is handed to a call with its invoke id; no frame is
handed on twice and no channel is sent two messages; a call that returns `Ok` used
a frame with its own invoke id, command and target; and an insert displaces the
entry of another call only after `2 ^ 32` requests dispatched since one of the two
took its invoke id. -/
theorem routing_exact {source : AmsAddr} {readTimeout : Bool} {labels : List Label}
    {world : World} (run : Run World.step (.initial source readTimeout) labels world) :
    (∀ delivery ∈ world.deliveries, ∀ header payload,
      delivery.message = .ok (header, payload) → delivery.frame.isSome ∧
        ∃ call : Call, world.calls[delivery.call]? = some call ∧
          call.invokeId = header.invokeId) ∧
    (world.deliveries.filterMap Delivery.frame).Nodup ∧
    (world.deliveries.map Delivery.call).Nodup ∧
    (∀ (id : CallId) (call : Call) received, world.calls[id]? = some call →
      call.stage = .done (.ok received) → ∃ header payload frame,
        ⟨id, .ok (header, payload), some frame⟩ ∈ world.deliveries ∧
        settleReply call.request call.invokeId header payload = .ok received ∧
        header.invokeId = call.invokeId ∧ header.command = call.request.cmd.toU16 ∧
        header.src = call.request.target) ∧
    (∀ first second invokeId after, first ≠ second →
      world.dispatchedSince first < 2 ^ 32 → world.dispatchedSince second < 2 ^ 32 →
      world.step (.insert second) = some after →
      world.pending.lookup invokeId = some first →
      after.pending.lookup invokeId = some first) := by
  have consistent := World.consistent_of_run run
  refine ⟨?_, consistent.framesOnce, consistent.nodup_deliveries, ?_, ?_⟩
  · intro delivery member header payload isReply
    obtain ⟨call, found, message⟩ := consistent.mem_messages member
    rw [isReply] at message
    refine ⟨?_, call, found, ((consistent.calls _ call found).reply _ _ message).symm⟩
    cases unframed : delivery.frame with
    | some frame => rfl
    | none =>
        obtain ⟨error, failed⟩ := consistent.origin delivery member unframed
        rw [isReply] at failed
        cases failed
  · intro id call received found isDone
    have fits := (consistent.calls id call found).stage
    rw [isDone] at fits
    obtain ⟨header, payload, taken, settled⟩ := fits.2 received rfl
    have message : .ok (header, payload) ∈ call.channel.messages := by
      rw [taken]
      exact List.mem_singleton_self _
    obtain ⟨frame, member⟩ := consistent.mem_deliveries found message
    obtain ⟨src, command, -, invokeId, -⟩ := settleReply_ok settled
    exact ⟨header, payload, frame, member, settled, invokeId, command, src⟩
  · intro first second invokeId after distinct few few' step registered
    exact consistent.insert_keeps distinct few few' step registered

/-! ## One exchange -/

/-- A write request without data to the sender of a reply. -/
def emptyWrite : Request :=
  ⟨.write, ⟨.new 2 2 2 2 2 2, 851⟩, [], []⟩

/-- The reply to the first request: the source, `1.1.1.1.1.1:1`, is its
destination. -/
def emptyWriteReply : AdsHeader where
  amsCmd := 0
  length := 36
  destNetid := .new 1 1 1 1 1 1
  destPort := 1
  srcNetid := .new 2 2 2 2 2 2
  srcPort := 851
  command := 3
  stateFlags := 5
  dataLength := 4
  errorCode := 0
  invokeId := 1

/-- A call that writes its request and receives the reply. -/
def exchange : List Label :=
  [.start emptyWrite, .insert 0, .write 0 none,
    .arrive (emptyWriteReply.asBytes ++ [0, 0, 0, 0]), .turn none, .receive 0]

/-- The call returns with the reply that was routed to it. -/
theorem exchange_routed :
    ∃ world, execute World.step (.initial emptyWriteReply.dest false) exchange = some world ∧
      (world.calls[0]?).map Call.stage = some (.done (.ok ⟨0, []⟩)) ∧
      ∃ header payload frame, ⟨0, .ok (header, payload), some frame⟩ ∈ world.deliveries ∧
        header.invokeId = 1 := by
  have run : Run World.step (.initial emptyWriteReply.dest false) exchange _ :=
    .of_execute rfl
  obtain ⟨header, payload, frame, member, -, invokeId, -⟩ :=
    (routing_exact run).2.2.2.1 0 _ ⟨0, []⟩ rfl rfl
  exact ⟨_, rfl, rfl, header, payload, frame, member, invokeId⟩

/-! ## A call that is slow to insert -/

/-- A numbered call can insert its sender, whatever the other calls do. -/
theorem World.exists_insert {world : World} {id : CallId} {call : Call}
    {requestBuf : List UInt8} (found : world.calls[id]? = some call)
    (numbered : call.stage = .numbered requestBuf) :
    ∃ after, world.step (.insert id) = some after ∧
      after.pending = world.pending.insert call.invokeId id ∧
      after.calls.length = world.calls.length ∧ after.receiving id = true ∧
      ∀ other : CallId, other ≠ id → world.pending.lookup call.invokeId ≠ some other →
        after.calls[other]? = world.calls[other]? := by
  obtain ⟨request, invokeId, stage, channel⟩ := call
  cases numbered
  refine ⟨{ (world.dropSender invokeId).modifyCall id (.proceed (.registered requestBuf)) with
            pending := world.pending.insert invokeId id }, ?_, rfl, by simp, ?_, ?_⟩
  · rw [World.step, World.insert, found]
  · simp only [receiving, getElem?_modifyCall, getElem?_dropSender, found, Option.map_some,
      if_true]
    rfl
  · intro other distinct undisturbed
    simp [getElem?_dropSender, undisturbed, Ne.symm distinct]

/-- Any number of calls can take their invoke ids before the first inserts. -/
theorem run_starts (source : AmsAddr) (count : Nat) :
    ∃ world, Run World.step (.initial source false)
        (List.replicate count (.start emptyWrite)) world ∧
      world.pending = ∅ ∧ world.calls.length = count ∧
      ∀ call ∈ world.calls, ∃ requestBuf, call.stage = .numbered requestBuf := by
  induction count with
  | zero => exact ⟨_, .nil, rfl, rfl, by simp [World.initial]⟩
  | succ count ih =>
      obtain ⟨world, run, same, length, numbered⟩ := ih
      refine ⟨world.start emptyWrite, ?_, same, ?_, ?_⟩
      · rw [List.replicate_succ']
        exact run.snoc rfl
      · simp [World.start, length]
      · intro call member
        rcases List.mem_append.mp member with old | new
        · exact numbered call old
        · rw [List.mem_singleton.mp new]
          exact ⟨_, rfl⟩

/-- A call that was overtaken between taking its invoke id and inserting it, by a
whole cycle of the counter, displaces a call that has just been dispatched. -/
theorem insert_displaces :
    ¬ ∀ (source : AmsAddr) readTimeout labels world,
      Run World.step (.initial source readTimeout) labels world →
      ∀ first second invokeId after, first ≠ second → world.receiving first = true →
        world.dispatchedSince first < 2 ^ 32 →
        world.step (.insert second) = some after →
        world.pending.lookup invokeId = some first →
        after.pending.lookup invokeId = some first := by
  intro claim
  obtain ⟨world, run, empty, length, numbered⟩ :=
    run_starts emptyWriteReply.dest (2 ^ 32 + 1)
  have consistent := World.consistent_of_run run
  have lastFound := List.getElem?_eq_getElem (l := world.calls) (i := 2 ^ 32) (by omega)
  have firstFound := List.getElem?_eq_getElem (l := world.calls) (i := 0) (by omega)
  obtain ⟨lastBuf, lastNumbered⟩ := numbered _ (List.mem_of_getElem? lastFound)
  obtain ⟨firstBuf, firstNumbered⟩ := numbered _ (List.mem_of_getElem? firstFound)
  have lastId := consistent.numbers _ _ lastFound
  have firstId := consistent.numbers _ _ firstFound
  generalize world.calls[2 ^ 32] = last at *
  generalize world.calls[0] = first at *
  have same : last.invokeId = first.invokeId := by
    rw [lastId, firstId]
    decide
  obtain ⟨later, step, pending, length', receiving, others⟩ :=
    World.exists_insert lastFound lastNumbered
  have overtaken : later.calls[0]? = some first := by
    rw [others 0 (by decide) (by simp [empty]), firstFound]
  obtain ⟨after, step', pending', -⟩ := World.exists_insert overtaken firstNumbered
  have few : later.dispatchedSince (2 ^ 32) < 2 ^ 32 := by
    simp [World.dispatchedSince, length', length]
  have registered : later.pending.lookup first.invokeId = some (2 ^ 32) := by
    rw [pending, ← same, AList.lookup_insert]
  have kept := claim _ _ _ _ (run.snoc step) (2 ^ 32) 0 first.invokeId after (by decide)
    receiving few step' registered
  rw [pending', AList.lookup_insert] at kept
  cases Option.some.inj kept

end Ads.Client
