import LiveForge.Events.Delivery
import Mathlib.Algebra.Order.Ring.Int
import Mathlib.Algebra.BigOperators.Group.Multiset.Basic

/-!
# Order, exactly-once delivery and termination

The invariant of the bus is read as a delivery guarantee.  Safety alone would
allow a dispatch to wait for ever, so the work that is left is measured as
well: every task lowers the measure, and no goroutine is ever blocked.
-/

namespace LiveForge.Core

open Support BusTask

/-! ## The handlers that run -/

def BusTask.handler? (k : LaneKey) : BusTask → Option Dispatch
  | .runHook key _ dispatch => if key = k then some dispatch else none
  | _ => none

/-- The dispatches of a lane whose handler runs at the moment. -/
def BusSystem.handlers (k : LaneKey) (m : BusSystem) : List Dispatch :=
  m.threads.flatten.filterMap (BusTask.handler? k)

variable {k : LaneKey} {m m' : BusSystem} {task : BusTask} {results : ℕ → HandlerResult}

theorem handler?_eq_some {d : Dispatch} :
    task.handler? k = some d ↔ ∃ p, task = .runHook k p d := by
  cases task with
  | runHook key p dispatch =>
    by_cases hk : key = k
    · simp [handler?]
    · simp [handler?]
  | _ => simp [handler?]

theorem mem_handlers {d : Dispatch} : d ∈ m.handlers k ↔ ∃ p, .runHook k p d ∈ m.pending := by
  simp only [BusSystem.handlers, List.mem_filterMap, handler?_eq_some]
  constructor
  · rintro ⟨task, hmem, p, rfl⟩
    exact ⟨p, hmem⟩
  · rintro ⟨p, hmem⟩
    exact ⟨_, hmem, p, rfl⟩

theorem handlers_length_le (h : BusInv m.state m.pending) : (m.handlers k).length ≤ 1 := by
  have hworker := (h.lanes k).worker
  rw [Threaded.pending, tally_coe] at hworker
  calc
    (m.handlers k).length = m.threads.flatten.countP fun task => (task.handler? k).isSome :=
      List.length_filterMap_eq_countP
    _ ≤ m.threads.flatten.countP (worksOn k) := by
      refine List.countP_mono_left ?_
      intro task _ hsome
      obtain ⟨d, hd⟩ := Option.isSome_iff_exists.mp hsome
      obtain ⟨p, rfl⟩ := handler?_eq_some.mp hd
      exact worksOn_runHook k p d
    _ ≤ 1 := by
      rw [hworker]
      split <;> simp

/-- What was started on a lane has finished, apart from the handler that
runs. -/
theorem started_eq_finished_append_handlers (h : BusInv m.state m.pending) :
    entriesFor k m.state.started =
      (entriesFor k m.state.finished).map Prod.fst ++ m.handlers k := by
  have hlength := handlers_length_le (k := k) h
  cases hlist : m.handlers k with
  | nil =>
    rw [List.append_nil]
    refine (h.lanes k).betweenHandlers ?_
    intro p d hmem
    have hin : d ∈ m.handlers k := mem_handlers.mpr ⟨p, hmem⟩
    simp [hlist] at hin
  | cons d rest =>
    rw [hlist, List.length_cons] at hlength
    obtain ⟨p, hmem⟩ := mem_handlers.mp (hlist ▸ List.mem_cons_self : d ∈ m.handlers k)
    rw [List.length_eq_zero_iff.mp (by omega : rest.length = 0)]
    exact (h.lanes k).inHandler p d hmem

/-! ## The work that is left -/

section Work

variable (hooks : EventType → List HookRegistration)

/-- How many tasks can follow a task, itself included, until its goroutine
ends or takes the next dispatch. -/
def BusTask.work : BusTask → ℕ
  | .emitAsync event _ =>
    1 + (laneConsumers hooks event).length + 6 * (asyncHooks (hooks event)).length
  | .laneTop _ _ => 1
  | .runHook _ _ _ => 4
  | .completeAsync _ _ _ => 3
  | .markTerminal _ _ => 2
  | .runSingle _ => 2
  | .completeSingle _ => 1

/-- A waiting dispatch stands for four tasks. -/
def BusSystem.work (m : BusSystem) : ℕ :=
  4 * (m.state.accepted.length - m.state.started.length) + (m.pending.map (BusTask.work hooks)).sum

variable {hooks} {b : EventBus} {others : Multiset BusTask}

theorem BusInv.started_le {pending : Multiset BusTask} (h : BusInv b pending) :
    b.started.length ≤ b.accepted.length := by
  have hlength := h.accepted_perm.length_eq
  rw [List.length_append] at hlength
  omega

theorem sum_work_laneTops {tasks : List BusTask} (h : ∀ task ∈ tasks, ∃ k p, task = .laneTop k p) :
    (tasks.map (work hooks)).sum = tasks.length := by
  induction tasks with
  | nil => rfl
  | cons task tasks ih =>
    obtain ⟨k, p, rfl⟩ := h task List.mem_cons_self
    rw [List.map_cons, List.sum_cons, List.length_cons,
      ih fun t ht => h t (List.mem_cons_of_mem _ ht), work,
      Nat.add_comm]

theorem emitAsync_work (hvalid : b.lifecycleLanes.Valid)
    (hle : b.started.length ≤ b.accepted.length) (event : EventType) (ctx : Option EventContext) :
    4 * ((EventBus.emitAsync hooks event ctx b).2.1.accepted.length -
        (EventBus.emitAsync hooks event ctx b).2.1.started.length) +
      ((EventBus.emitAsync hooks event ctx b).2.2.flatten.map
        (work hooks)).sum < 4 * (b.accepted.length - b.started.length) +
        (emitAsync event ctx).work hooks := by
  simp only [work]
  rcases EventBus.emitAsync_cases hooks event ctx b with
    ⟨base, -, hroom, hemit⟩ | hemit | ⟨base, -, -, hemit⟩ | ⟨-, hemit⟩
  · have hlength := @openLanes_started_length b.lifecycleLanes base
      (laneConsumers hooks event) (laneDemand hooks event)
    have hsum := @sum_work_laneTops hooks (openLanes base
      (laneDemand hooks event) (laneConsumers hooks event)
        b.lifecycleLanes).2.flatten fun task htask => by
          obtain ⟨k, p, heq, -⟩ := openLanes_started hvalid htask
          exact ⟨k, p, heq⟩
    rw [hemit, EventBus.enqueueLifecycle_of_hasRoom hroom]
    simp only [beginAsync_frame, List.length_append, EventBus.dispatches, List.length_map]
    omega
  · rw [hemit]
    simp only [EventBus.reject, List.flatten_nil, List.map_nil, List.sum_nil]
    omega
  · rw [hemit]
    simp only [List.flatten_nil, List.map_nil, List.sum_nil]
    omega
  · rw [hemit]
    simp only [beginAsync_frame]
    have hflatten : (((asyncHooks (hooks event)).map fun hook =>
        [runSingle ⟨ctx, hook, false⟩]).flatten.map
          (work hooks)).sum = 2 * (asyncHooks (hooks event)).length := by
      induction asyncHooks (hooks event) with
      | nil => rfl
      | cons hook rest ih =>
        simp only [List.map_cons, List.flatten_cons, List.map_append, List.sum_append, ih]
        simp [work]
        omega
    omega

theorem exec_work {outcome : Outcome EventBus BusTask}
    (h : BusInv b (task ::ₘ others)) (hexec : b.exec hooks results task = some outcome) :
    4 * (outcome.state.accepted.length - outcome.state.started.length) +
        ((outcome.more ++ outcome.spawned.flatten).map (work hooks)).sum <
      4 * (b.accepted.length - b.started.length) + task.work hooks := by
  have hle := h.started_le
  cases task with
  | emitAsync event ctx =>
    cases hexec
    exact emitAsync_work h.valid hle event ctx
  | laneTop k p =>
    obtain ⟨⟨b', more⟩, hstep, rfl⟩ := Option.map_eq_some_iff.mp hexec
    obtain ⟨lane, hat⟩ := h.atLane rfl
    rcases hat.laneTop_cases hstep with ⟨-, rfl, rfl⟩ | ⟨d, queue, hqueue, rfl, rfl⟩
    · simp [work]
    · have hafter := (h.laneTakes hat hqueue).started_le
      simp only [List.length_append, List.length_singleton] at hafter
      simp [work]
      omega
  | completeAsync k p d =>
    cases hexec
    cases d.terminal <;> simp [work, EventBus.completeAsync]
  | _ =>
    cases hexec
    simp [work, EventBus.completeAsync]

theorem busSystem_step_work {n : ℕ} (h : BusInv m.state m.pending)
    (hstep : BusSystem.step hooks results m (.run n) = some m') :
    m'.work hooks < m.work hooks := by
  rcases Threaded.step_cases hstep with ⟨c, hcall, -, -⟩ |
      ⟨_, task, outcome, others, -, -, hexec, hstate, hbefore, hafter⟩
  · simp at hcall
  · rw [hbefore] at h
    have hless := exec_work h hexec
    rw [BusSystem.work, BusSystem.work, hstate, hbefore, hafter,
      Multiset.map_add, Multiset.sum_add, Multiset.map_cons,
      Multiset.sum_cons, Multiset.map_coe, Multiset.sum_coe]
    omega

theorem exec_isSome (h : BusInv b (task ::ₘ others)) : (b.exec hooks results task).isSome := by
  cases task with
  | laneTop k p =>
    obtain ⟨lane, hat⟩ := h.atLane rfl
    simp only [EventBus.exec, EventBus.laneTop, hat.cell]
    cases lane.queue <;> simp
  | _ => simp [EventBus.exec]

end Work

/-! ## The guarantee -/

/-- What the bus guarantees in a state, for a fixed set of hooks. -/
structure DeliveryGuarantee (hooks : EventType → List HookRegistration)
    (results : ℕ → HandlerResult) (m : BusSystem) : Prop where
  oneHandler : ∀ k, (m.handlers k).length ≤ 1
  /-- What was accepted has finished, runs or waits, in this order and each
  dispatch once. -/
  inOrder : ∀ k, entriesFor k m.state.accepted =
    (entriesFor k m.state.finished).map Prod.fst ++ m.handlers k ++ queueAt m.state.lifecycleLanes k
  rejected : ∀ event ctx error, (EventBus.emitAsync hooks event ctx m.state).1 = some error →
      (EventBus.emitAsync hooks event ctx m.state).2 = (m.state.reject, [])
  queueDepth : ∀ k, (queueAt m.state.lifecycleLanes k).length ≤ maxLifecycleQueueDepth
  laneCount : m.state.lifecycleLanes.size ≤ maxLifecycleLanes
  accounted : m.state.pendingAsync = (queuedDispatches m.state.lifecycleLanes).length +
      tally BusTask.inFlight m.pending
  drained : m.state.asyncIdle = true ↔ m.state.pendingAsync = 0
  unblocked : ∀ n task, m.next n = some task →
    ∃ m', BusSystem.step hooks results m (.run n) = some m'
  terminates : ∃ bound, ∀ (schedule : List ℕ) m', runFrom (BusSystem.step hooks results) m
        (schedule.map ThreadAction.run) = some m' →
      schedule.length ≤ bound
  delivered : m.Quiescent → ∀ k, entriesFor k m.state.accepted =
    (entriesFor k m.state.finished).map Prod.fst

variable {hooks : EventType → List HookRegistration}

theorem emitAsync_rejected {event : EventType} {ctx : Option EventContext} {b : EventBus}
    {error : String} (h : (EventBus.emitAsync hooks event ctx b).1 = some error) :
    (EventBus.emitAsync hooks event ctx b).2 = (b.reject, []) := by
  rcases EventBus.emitAsync_cases hooks event ctx b with
    ⟨base, -, hroom, hemit⟩ | hemit | ⟨base, -, -, hemit⟩ | ⟨-, hemit⟩
  · rw [hemit, EventBus.enqueueLifecycle_of_hasRoom hroom] at h
    simp at h
  · rw [hemit]
  · rw [hemit] at h
    simp at h
  · rw [hemit] at h
    simp at h

theorem queueAt_of_quiescent (h : BusInv m.state m.pending) (hquiet : m.Quiescent) (k : LaneKey) :
    queueAt m.state.lifecycleLanes k = [] := by
  have hworker := (h.lanes k).worker
  rw [Threaded.pending_of_quiescent hquiet] at hworker
  cases hget : m.state.lifecycleLanes.get? k with
  | none => simp [queueAt, hget]
  | some lane =>
    rw [runningAt_of_get? hget] at hworker
    have hstopped : lane.running = false := by
      cases hrunning : lane.running with
      | false => rfl
      | true => simp [hrunning] at hworker
    rw [queueAt_of_get? hget]
    exact ((h.lanes k).idle lane hget hstopped).1

section Quiet

variable (h : BusInv m.state m.pending)

include h

theorem BusInv.inOrder (k : LaneKey) :
    entriesFor k m.state.accepted = (entriesFor k m.state.finished).map Prod.fst ++ m.handlers k ++
        queueAt m.state.lifecycleLanes k := by
  rw [(h.lanes k).order, started_eq_finished_append_handlers h]

theorem BusInv.unblocked {n : ℕ} (hnext : m.next n = some task) :
    ∃ m', BusSystem.step hooks results m (.run n) = some m' := by
  obtain ⟨others, hpending⟩ := Threaded.pending_of_next hnext
  rw [hpending] at h
  exact Threaded.exists_step_of_next hnext (exec_isSome h)

theorem BusInv.schedule_bounded {schedule : List ℕ}
    (hrun : runFrom (BusSystem.step hooks results) m (schedule.map ThreadAction.run) = some m') :
    schedule.length ≤ m.work hooks := by
  have hbound := @Threaded.schedule_bounded _ _ _ EmitCall.tasks
    (EventBus.exec hooks results) m m' (fun m => BusInv m.state m.pending)
    (BusSystem.work hooks)
    (fun _ _ _ hm hstep => ⟨busInv_step hm hstep, busSystem_step_work hm hstep⟩)
    schedule h hrun
  omega

theorem BusInv.delivered (hquiet : m.Quiescent) (k : LaneKey) :
    entriesFor k m.state.accepted = (entriesFor k m.state.finished).map Prod.fst := by
  have hnone : m.handlers k = [] := by
    rw [BusSystem.handlers, List.flatten_eq_nil_iff.mpr hquiet]
    rfl
  rw [h.inOrder k, hnone, queueAt_of_quiescent h hquiet, List.append_nil, List.append_nil]

end Quiet

/-- In every interleaving of emissions and goroutines, whatever the handlers
do: per lane one handler at a time, in the order of acceptance and each
dispatch once; rejected events leave no trace; the bounds hold; and the
pending counter is what waits plus what runs. -/
theorem lifecycle_lanes_deliver (hooks : EventType → List HookRegistration)
    (results : ℕ → HandlerResult) {actions : List (ThreadAction EmitCall)} {m : BusSystem}
    (hrun : runFrom (BusSystem.step hooks results) BusSystem.initial actions = some m) :
    DeliveryGuarantee hooks results m := by
  have h := busInv_runFrom hrun
  exact
    { oneHandler := fun _ => handlers_length_le h
      inOrder := h.inOrder
      rejected := fun _ _ _ => emitAsync_rejected
      queueDepth := fun k => (h.lanes k).bound
      laneCount := h.size
      accounted := h.pendingAsync_eq
      drained := h.drained
      unblocked := fun _ _ => h.unblocked
      terminates := ⟨m.work hooks, fun _ _ => h.schedule_bounded⟩
      delivered := h.delivered }

/-! ## Runs of one consumer -/

/-- One consumer listens to the start and the stop of publishers and to the
start of subscribers. -/
def auditHooks : EventType → List HookRegistration
  | .publish => [⟨.publish, .async, 0, "audit", 0⟩]
  | .publishStop => [⟨.publishStop, .async, 0, "audit", 1⟩]
  | .subscribe => [⟨.subscribe, .async, 0, "audit", 2⟩]
  | _ => []

def clientContext : EventContext :=
  { streamKey := "live/a", publisherID := "client", subscriberID := "client" }

/-- The first handler panics; the second one, of the stop event, runs. -/
theorem lifecycle_lanes_deliver_afterPanic :
    ∃ m, runFrom (BusSystem.step auditHooks fun _ => .panicked) BusSystem.initial
        [.call ⟨.publish, some clientContext⟩, .run 0, .run 1, .run 1,
          .call ⟨.publishStop, some clientContext⟩, .run 2, .run 1, .run 1] = some m ∧
        (m.handlers ⟨"live/a", "client", true, "audit"⟩).length = 1 ∧
        m.state.finished.length = 1 ∧ DeliveryGuarantee auditHooks (fun _ => .panicked) m :=
  ⟨_, rfl, by decide, by decide, @lifecycle_lanes_deliver auditHooks _
    [.call ⟨.publish, some clientContext⟩, .run 0, .run 1, .run 1,
      .call ⟨.publishStop, some clientContext⟩, .run 2, .run 1, .run 1] _ rfl⟩

/-- The handlers that run for a client of a stream, whatever its role. -/
def BusSystem.clientHandlers (streamKey clientID consumer : String)
    (m : BusSystem) : List Dispatch :=
  m.handlers ⟨streamKey, clientID, true, consumer⟩ ++
    m.handlers ⟨streamKey, clientID, false, consumer⟩

/-- A publisher and a subscriber with the same identifier have lanes of their
own, so two handlers of one consumer run at the same time. -/
theorem publisher_subscriber_handlers_overlap :
    ¬ ∀ (hooks : EventType → List HookRegistration) (results : ℕ → HandlerResult)
        (actions : List (ThreadAction EmitCall)) (m : BusSystem),
      runFrom (BusSystem.step hooks results) BusSystem.initial actions = some m →
      ∀ streamKey clientID consumer, (m.clientHandlers streamKey clientID consumer).length ≤ 1 := by
  intro hall
  have hle := hall auditHooks (fun _ => .ok) [.call ⟨.publish, some clientContext⟩, .run 0,
      .call ⟨.subscribe, some clientContext⟩, .run 2, .run 1, .run 3] _ rfl
    "live/a" "client" "audit"
  exact absurd hle (by decide)

end LiveForge.Core
