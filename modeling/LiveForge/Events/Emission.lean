import LiveForge.Events.Lanes

/-!
# What an emission does

An accepted lifecycle event opens the lanes of its consumers and appends its
dispatches; a rejected event only counts.  Both are stated here key by key.
-/

namespace LiveForge.Core

open Support LaneDemand

variable {hooks : EventType → List HookRegistration} {event : EventType} {k : LaneKey}

section Dispatches

variable {base : LaneKey}

theorem laneConsumers_nodup : (laneConsumers hooks event).Nodup :=
  List.nodup_dedup _

theorem mem_laneConsumers {consumer : String} :
    consumer ∈ laneConsumers hooks event ↔
      0 < dispatchCount hooks event consumer ∨ 0 < terminalCount hooks event consumer := by
  simp [laneConsumers, dispatchCount, terminalCount]

theorem terminalCount_of_isTerminal (hooks : EventType → List HookRegistration)
    (hterminal : isTerminal event = true) (consumer : String) :
    terminalCount hooks event consumer = 0 := by
  cases event <;>
    simp [isTerminal, terminalCount, terminalHooks, terminalEvent] at *

theorem entriesFor_dispatches_length (hooks : EventType → List HookRegistration)
    (event : EventType) (base : LaneKey) (ctx : Option EventContext) (k : LaneKey) :
    (entriesFor k (EventBus.dispatches hooks event base ctx)).length =
      if k = base.forConsumer k.consumer then dispatchCount hooks event k.consumer else 0 := by
  rw [entriesFor, EventBus.dispatches, List.length_map, ← List.countP_eq_length_filter,
    List.countP_map]
  by_cases hk : k = base.forConsumer k.consumer
  · rw [if_pos hk]
    refine List.countP_congr ?_
    intro hook _
    simp only [Function.comp_apply, beq_iff_eq]
    constructor
    · intro heq
      exact congrArg LaneKey.consumer heq
    · intro heq
      rw [heq, ← hk]
  · rw [if_neg hk, List.countP_eq_zero]
    intro hook _
    simp only [Function.comp_apply, beq_iff_eq]
    intro heq
    exact hk (heq ▸ rfl)

theorem entriesFor_dispatches_of_not_isLaneOf (ctx : Option EventContext)
    (h : ¬ IsLaneOf base (laneConsumers hooks event) k) :
    entriesFor k (EventBus.dispatches hooks event base ctx) = [] := by
  rw [← List.length_eq_zero_iff, entriesFor_dispatches_length]
  split
  next hk =>
    by_contra hcount
    exact h ⟨hk, mem_laneConsumers.mpr (.inl (Nat.pos_of_ne_zero hcount))⟩
  · rfl

end Dispatches

/-! ## Accepted events -/

namespace EventBus

section Lifecycle

variable {base : LaneKey} {ctx : Option EventContext} {b : EventBus}

/-- The table after an accepted lifecycle event. -/
def lanesAfter (hooks : EventType → List HookRegistration) (event : EventType)
    (base : LaneKey) (ctx : Option EventContext) (b : EventBus) : Lanes :=
  enqueueAll (dispatches hooks event base ctx)
    (openLanes base (laneDemand hooks event) (laneConsumers hooks event) b.lifecycleLanes).1

theorem enqueueLifecycle_of_hasRoom (hroom : hasRoom hooks event base b = true) :
    enqueueLifecycle hooks event base ctx b = (none,
        beginAsync (dispatches hooks event base ctx).length
          { b with
            lifecycleLanes := lanesAfter hooks event base ctx b
            lifecycle := b.lifecycle ++ [(event, base)]
            accepted := b.accepted ++ dispatches hooks event base ctx },
        (openLanes base (laneDemand hooks event) (laneConsumers hooks event)
          b.lifecycleLanes).2) := by
  rw [enqueueLifecycle, if_pos hroom]
  rfl

theorem hasRoom_iff :
    hasRoom hooks event base b = true ↔
      (∀ k, IsLaneOf base (laneConsumers hooks event) k →
        (queueAt b.lifecycleLanes k).length + dispatchCount hooks event k.consumer +
          terminalCount hooks event k.consumer ≤ maxLifecycleQueueDepth) ∧
        b.lifecycleLanes.size + newLanes hooks event base b ≤ maxLifecycleLanes := by
  rw [hasRoom, Bool.and_eq_true, decide_eq_true_iff, List.all_eq_true]
  refine and_congr_left fun _ => ?_
  constructor
  · rintro hall k ⟨hk, hmem⟩
    have hfits := hall k.consumer hmem
    rw [← hk] at hfits
    simpa [fits, laneDemand, queueLength_eq] using hfits
  · intro hall consumer hmem
    have hfits := hall _ (isLaneOf_forConsumer.mpr hmem)
    simpa [fits, laneDemand, queueLength_eq] using hfits

variable (hooks event base ctx)

section Lanes

variable (h : b.lifecycleLanes.Valid)

include h

theorem lanesAfter_size :
    (lanesAfter hooks event base ctx b).size =
      b.lifecycleLanes.size + newLanes hooks event base b :=
  (enqueueAll_frame (openLanes_valid h) _).2.1.trans
    (openLanes_size h laneConsumers_nodup)

theorem lanesAfter_get? (k : LaneKey) :
    (lanesAfter hooks event base ctx b).get? k =
      if IsLaneOf base (laneConsumers hooks event) k then
        some
          (((laneDemand hooks event k.consumer).openedLane (b.lifecycleLanes.get? k)).append
            (entriesFor k (dispatches hooks event base ctx)))
      else b.lifecycleLanes.get? k := by
  rw [lanesAfter, enqueueAll_get? (openLanes_valid h),
    openLanes_get? h laneConsumers_nodup]
  split
  · rfl
  next hnot =>
    rw [entriesFor_dispatches_of_not_isLaneOf ctx hnot]
    cases b.lifecycleLanes.get? k with
    | none => rfl
    | some lane => simp [Lane.append]

end Lanes

theorem openedLane_queue (demand : LaneDemand) (lane : Option Lane) :
    (demand.openedLane lane).queue = lane.elim [] Lane.queue := by
  cases lane <;> rfl

theorem openedLane_running (demand : LaneDemand) (lane : Option Lane) :
    (demand.openedLane lane).running = (lane.any Lane.running || decide (0 < demand.count)) := by
  cases lane <;> simp [openedLane, newLane, reopen]

theorem lanesAfter_queueAt (h : b.lifecycleLanes.Valid) (k : LaneKey) :
    queueAt (lanesAfter hooks event base ctx b) k = queueAt b.lifecycleLanes k ++
        entriesFor k (dispatches hooks event base ctx) := by
  have hget := lanesAfter_get? hooks event base ctx h k
  split at hget
  · rw [queueAt_of_get? hget, Lane.append, openedLane_queue, queueAt]
  next hnot =>
    rw [queueAt_congr hget, entriesFor_dispatches_of_not_isLaneOf ctx hnot, List.append_nil]

theorem lanesAfter_runningAt (h : b.lifecycleLanes.Valid) (k : LaneKey) :
    runningAt (lanesAfter hooks event base ctx b) k = (runningAt b.lifecycleLanes k ||
        decide (IsLaneOf base (laneConsumers hooks event) k ∧
          0 < dispatchCount hooks event k.consumer)) := by
  have hget := lanesAfter_get? hooks event base ctx h k
  split at hget
  next hlane =>
    rw [runningAt_of_get? hget, Lane.append, openedLane_running,
      decide_eq_decide.mpr (and_iff_right hlane)]
    rfl
  next hnot =>
    rw [runningAt_congr hget]
    simp [hnot]

end Lifecycle

/-! ## All outcomes of an emission -/

theorem emitAsync_cases (hooks : EventType → List HookRegistration)
    (event : EventType) (ctx : Option EventContext) (b : EventBus) :
    (∃ base, eventLifecycleKey event ctx = some base ∧
      hasRoom hooks event base b = true ∧ emitAsync hooks event ctx b =
          enqueueLifecycle hooks event base ctx b) ∨
    emitAsync hooks event ctx b = (some errAsyncBackpressure, b.reject, []) ∨
    (∃ base, eventLifecycleKey event ctx = some base ∧
      terminalHooks hooks event = [] ∧ emitAsync hooks event ctx b =
          (none, { b with lifecycle := b.lifecycle ++ [(event, base)] }, [])) ∨
    eventLifecycleKey event ctx = none ∧ emitAsync hooks event ctx b =
        (none, b.beginAsync (asyncHooks (hooks event)).length,
          (asyncHooks (hooks event)).map fun hook =>
            [.runSingle ⟨ctx, hook, false⟩]) := by
  unfold emitAsync
  cases hkey : eventLifecycleKey event ctx with
  | some base =>
    by_cases hhooks : asyncHooks (hooks event) ≠ [] ∨ terminalHooks hooks event ≠ []
    · simp only [if_pos hhooks]
      by_cases hroom : hasRoom hooks event base b = true
      · exact .inl ⟨base, rfl, hroom, rfl⟩
      · refine .inr (.inl ?_)
        rw [enqueueLifecycle, if_neg hroom]
    · simp only [if_neg hhooks]
      have hnone : terminalHooks hooks event = [] := by
        by_contra hsome
        exact hhooks (.inr hsome)
      exact .inr (.inr (.inl ⟨base, rfl, hnone, rfl⟩))
  | none =>
    by_cases hempty : asyncHooks (hooks event) = []
    · rw [hempty]
      exact .inr (.inr (.inr ⟨rfl, rfl⟩))
    · simp only [if_neg hempty]
      split
      · exact .inr (.inl rfl)
      · exact .inr (.inr (.inr ⟨trivial, rfl⟩))

end EventBus

end LiveForge.Core
