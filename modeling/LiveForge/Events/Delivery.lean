import LiveForge.Events.Emission

/-!
# Delivery through lanes

Every lane with work has exactly one goroutine, and this goroutine takes the
dispatches from the front of the queue.  The invariant states this key by key,
together with what was accepted, started and finished on the lane; the pending
counter and the drain channel are tied to the tasks that are still to be done.
-/

namespace LiveForge.Core

open Support PointerTable LaneDemand BusTask EventBus

/-! ## The invariant -/

/-- Between the start of a handler and the end of its accounting. -/
def BusTask.inFlight : BusTask → Bool
  | .runHook _ _ _ => true
  | .completeAsync _ _ _ => true
  | .runSingle _ => true
  | .completeSingle _ => true
  | _ => false

/-- What holds for the lane of one key. -/
structure LaneInv (b : EventBus) (pending : Multiset BusTask) (k : LaneKey) : Prop where
  bound : (queueAt b.lifecycleLanes k).length ≤ maxLifecycleQueueDepth
  idle : ∀ lane, b.lifecycleLanes.get? k = some lane → lane.running = false →
    lane.queue = [] ∧ lane.closeWhenEmpty = false
  worker : tally (BusTask.worksOn k) pending =
    if runningAt b.lifecycleLanes k then 1 else 0
  order : entriesFor k b.accepted = entriesFor k b.started ++ queueAt b.lifecycleLanes k
  inHandler : ∀ p d, .runHook k p d ∈ pending →
    entriesFor k b.started = (entriesFor k b.finished).map Prod.fst ++ [d]
  betweenHandlers : (∀ p d, .runHook k p d ∉ pending) →
    entriesFor k b.started = (entriesFor k b.finished).map Prod.fst

structure BusInv (b : EventBus) (pending : Multiset BusTask) : Prop where
  valid : b.lifecycleLanes.Valid
  size : b.lifecycleLanes.size ≤ maxLifecycleLanes
  lanes : ∀ k, LaneInv b pending k
  pointers : ∀ task ∈ pending, ∀ k p, task.worker? = some (k, p) →
    b.lifecycleLanes.pointer? k = some p
  count : b.pendingAsync = b.accepted.length - b.started.length + tally BusTask.inFlight pending
  drained : b.asyncIdle = true ↔ b.pendingAsync = 0

theorem busInv_initial : BusInv newEventBus 0 := by
  refine ⟨valid_empty, Nat.zero_le _, ?_, ?_, ?_, ?_⟩
  · intro k
    constructor <;> simp [newEventBus, queueAt, runningAt, entriesFor]
  · simp
  · simp [newEventBus]
  · simp [newEventBus]

/-! ## Other lanes -/

structure SameAt (b b' : EventBus) (k : LaneKey) : Prop where
  lane : b'.lifecycleLanes.get? k = b.lifecycleLanes.get? k
  accepted : entriesFor k b'.accepted = entriesFor k b.accepted
  started : entriesFor k b'.started = entriesFor k b.started
  finished : entriesFor k b'.finished = entriesFor k b.finished

structure SameTasks (pending pending' : Multiset BusTask) (k : LaneKey) : Prop where
  count : tally (BusTask.worksOn k) pending' = tally (BusTask.worksOn k) pending
  runs : ∀ p d, .runHook k p d ∈ pending' ↔ .runHook k p d ∈ pending

variable {b b' : EventBus} {pending others : Multiset BusTask} {k : LaneKey} {task : BusTask}
  {p : ℕ} {more : List BusTask} {lane : Lane}

theorem LaneInv.frame {pending' : Multiset BusTask} (h : LaneInv b pending k)
    (hsame : SameAt b b' k) (htasks : SameTasks pending pending' k) :
    LaneInv b' pending' k := by
  have hqueue := queueAt_congr hsame.lane
  refine ⟨?_, ?_, ?_, ?_, ?_, ?_⟩
  · rw [hqueue]
    exact h.bound
  · rw [hsame.lane]
    exact h.idle
  · rw [htasks.count, runningAt_congr hsame.lane]
    exact h.worker
  · rw [hsame.accepted, hsame.started, hqueue]
    exact h.order
  · intro p d hmem
    rw [hsame.started, hsame.finished]
    exact h.inHandler p d ((htasks.runs p d).mp hmem)
  · intro hnone
    rw [hsame.started, hsame.finished]
    refine h.betweenHandlers ?_
    intro p d hmem
    exact hnone p d ((htasks.runs p d).mpr hmem)

theorem worksOn_of_worker? {key : LaneKey} (h : task.worker? = some (key, p)) (k : LaneKey) :
    task.worksOn k = decide (key = k) := by
  rw [worksOn, h]
  rfl

theorem worksOn_runHook (k : LaneKey) (p : ℕ) (d : Dispatch) :
    (BusTask.runHook k p d).worksOn k = true := by
  exact decide_eq_true rfl

theorem runHook_ne {d : Dispatch} (h : task.worksOn k = false) : .runHook k p d ≠ task := by
  rintro rfl
  simp [worksOn_runHook] at h

theorem sameTasks_replace (htask : task.worksOn k = false)
    (hmore : ∀ t ∈ more, t.worksOn k = false) :
    SameTasks (task ::ₘ others) (↑more + others) k := by
  constructor
  · have hzero : more.countP (worksOn k) = 0 := by
      rw [List.countP_eq_zero]
      intro t ht
      simp [hmore t ht]
    rw [tally_coe_add, hzero, tally_cons, htask]
    rfl
  · intro p d
    have hnot : .runHook k p d ∉ more := fun hmem => runHook_ne (hmore _ hmem) rfl
    simp [runHook_ne htask, hnot]

/-! ## The goroutine of a lane -/

/-- What is known when the goroutine of a lane takes its next step. -/
structure AtLane (b : EventBus) (others : Multiset BusTask) (k : LaneKey)
    (p : ℕ) (lane : Lane) : Prop where
  pointer : b.lifecycleLanes.pointer? k = some p
  cell : b.lifecycleLanes.cells[p]? = some lane
  get : b.lifecycleLanes.get? k = some lane
  running : lane.running = true
  alone : ∀ t ∈ others, t.worksOn k = false

theorem BusInv.atLane (h : BusInv b (task ::ₘ others)) (htask : task.worker? = some (k, p)) :
    ∃ lane, AtLane b others k p lane := by
  have hpointer := h.pointers task (Multiset.mem_cons_self _ _) k p htask
  obtain ⟨lane, hcell, hget⟩ := h.valid.get?_isSome hpointer
  have hworks : task.worksOn k = true := by
    rw [worksOn_of_worker? htask]
    exact decide_eq_true rfl
  have hworker := (h.lanes k).worker
  rw [tally_cons, hworks, runningAt_of_get? hget] at hworker
  cases hrunning : lane.running with
  | false => simp [hrunning] at hworker
  | true =>
    have hzero : tally (worksOn k) others = 0 := by
      simpa [hrunning] using hworker
    exact ⟨lane, hpointer, hcell, hget, hrunning, tally_eq_zero.mp hzero⟩

theorem AtLane.runHook_notMem (h : AtLane b others k p lane) (q : ℕ) (d : Dispatch) :
    .runHook k q d ∉ others :=
  fun hmem => runHook_ne (h.alone _ hmem) rfl

/-- One step of the goroutine of lane `k`: it changes nothing elsewhere and
goes on with at most one task on the same lane. -/
theorem BusInv.workerStep (h : BusInv b (task ::ₘ others))
    (htask : task.worker? = some (k, p)) (hvalid : b'.lifecycleLanes.Valid)
    (hsize : b'.lifecycleLanes.size ≤ b.lifecycleLanes.size)
    (hpointers : ∀ k' q, k' ≠ k → b.lifecycleLanes.pointer? k' = some q →
      b'.lifecycleLanes.pointer? k' = some q)
    (hmore : ∀ t ∈ more, t.worker? = some (k, p) ∧ b'.lifecycleLanes.pointer? k = some p)
    (hsame : ∀ k', k' ≠ k → SameAt b b' k') (hlane : LaneInv b' (↑more + others) k)
    (hcount : b'.pendingAsync + b.accepted.length + b'.started.length +
        (task.inFlight).toNat = b.pendingAsync + b'.accepted.length + b.started.length +
        more.countP BusTask.inFlight) (hdrained : b'.asyncIdle = true ↔ b'.pendingAsync = 0) :
    BusInv b' (↑more + others) := by
  obtain ⟨lane, hat⟩ := h.atLane htask
  refine ⟨hvalid, hsize.trans h.size, ?_, ?_, ?_, hdrained⟩
  · intro k'
    by_cases hk : k' = k
    · exact hk ▸ hlane
    · have hother : ∀ t : BusTask, t.worker? = some (k, p) → t.worksOn k' = false := by
        intro t ht
        rw [worksOn_of_worker? ht]
        exact decide_eq_false fun heq => hk heq.symm
      exact (h.lanes k').frame (hsame k' hk) (sameTasks_replace (hother task htask)
          fun t ht => hother t (hmore t ht).1)
  · intro t ht k' q hq
    rcases Multiset.mem_add.mp ht with hnew | hold
    · obtain ⟨hworker, hpointer⟩ := hmore t hnew
      rw [hworker] at hq
      cases hq
      exact hpointer
    · have hk : k' ≠ k := by
        rintro rfl
        have hfalse := hat.alone t hold
        rw [worksOn_of_worker? hq] at hfalse
        simp at hfalse
      exact hpointers k' q hk (h.pointers t (Multiset.mem_cons_of_mem hold) k' q hq)
  · have hbefore := h.count
    rw [tally_cons] at hbefore
    rw [tally_coe_add]
    omega

theorem AtLane.tally_worksOn (h : AtLane b others k p lane) (more : List BusTask) :
    tally (BusTask.worksOn k) (↑more + others) = more.countP (BusTask.worksOn k) := by
  rw [tally_coe_add, tally_eq_zero.mpr h.alone, Nat.add_zero]

/-- The table when the goroutine of a lane has ended. -/
def lanesWithout (k : LaneKey) (p : ℕ) (lane : Lane) (lanes : Lanes) : Lanes :=
  let stopped := lanes.modify p fun lane => { lane with running := false }
  if lane.closeWhenEmpty = true then stopped.erase k else stopped

theorem AtLane.laneTop_cases (h : AtLane b others k p lane)
    (hstep : b.laneTop k p = some (b', more)) :
    (lane.queue = [] ∧ more = [] ∧
      b' = { b with
        lifecycleLanes := lanesWithout k p lane b.lifecycleLanes }) ∨
    ∃ d queue, lane.queue = d :: queue ∧ more = [.runHook k p d] ∧
      b' = { b with
        lifecycleLanes := b.lifecycleLanes.modify p fun lane =>
          { lane with queue := queue }
        started := b.started ++ [(k, d)] } := by
  simp only [EventBus.laneTop, h.cell] at hstep
  cases hqueue : lane.queue with
  | nil =>
    simp only [hqueue] at hstep
    obtain ⟨rfl, rfl⟩ := hstep
    refine .inl ⟨rfl, rfl, ?_⟩
    by_cases hclose : lane.closeWhenEmpty = true
    · rw [if_pos ⟨hclose, h.pointer⟩, lanesWithout, if_pos hclose]
    · rw [if_neg fun hboth => hclose hboth.1, lanesWithout, if_neg hclose]
  | cons d queue =>
    simp only [hqueue] at hstep
    obtain ⟨rfl, rfl⟩ := hstep
    exact .inr ⟨d, queue, rfl, rfl, rfl⟩

theorem lanesWithout_get? {lanes : Lanes} (h : lanes.Valid)
    (hp : lanes.pointer? k = some p) (hget : lanes.get? k = some lane)
    (k' : LaneKey) :
    (lanesWithout k p lane lanes).get? k' =
      if k' = k then
        if lane.closeWhenEmpty = true then none
        else some { lane with running := false }
      else lanes.get? k' := by
  have hmodify := get?_modify h hp fun lane =>
    { lane with running := false }
  rw [hget] at hmodify
  by_cases hclose : lane.closeWhenEmpty = true
  · rw [lanesWithout, if_pos hclose, if_pos hclose, get?_erase, hmodify]
    by_cases hk : k' = k <;> simp [hk]
  · rw [lanesWithout, if_neg hclose, if_neg hclose, hmodify]
    rfl

variable {next : BusTask}

section WorkerSteps

variable {lane : Lane} {d : Dispatch}

theorem BusInv.laneEnds (h : BusInv b (.laneTop k p ::ₘ others))
    (hat : AtLane b others k p lane) (hqueue : lane.queue = []) :
    BusInv { b with
      lifecycleLanes := lanesWithout k p lane b.lifecycleLanes }
      (↑([] : List BusTask) + others) := by
  have hget := lanesWithout_get? h.valid hat.pointer hat.get
  have hempty : queueAt (lanesWithout k p lane b.lifecycleLanes) k = [] := by
    rw [queueAt, hget, if_pos rfl]
    split <;> simp [hqueue]
  have hstopped : runningAt (lanesWithout k p lane b.lifecycleLanes) k = false := by
    rw [runningAt, hget, if_pos rfl]
    split <;> rfl
  have hbefore := h.lanes k
  refine h.workerStep rfl ?_ ?_ ?_ (by simp)
    (fun k' hk => ⟨(hget k').trans (if_neg hk), rfl, rfl, rfl⟩) ?_
    (by simp [inFlight]) h.drained
  · unfold lanesWithout
    split
    · exact (h.valid.modify _ _).erase k
    · exact h.valid.modify _ _
  · unfold lanesWithout
    split
    · exact (List.kerase_sublist _ _).length_le
    · exact le_rfl
  · intro k' q hk hq
    unfold lanesWithout
    split
    · rw [pointer?_erase, if_neg hk]
      exact hq
    · exact hq
  · refine ⟨?_, ?_, ?_, ?_, ?_, ?_⟩
    · simp [hempty]
    · intro lane' hlane' _
      rw [hget, if_pos rfl] at hlane'
      split_ifs at hlane' with hopen
      cases hlane'
      exact ⟨hqueue, by simpa using hopen⟩
    · rw [hat.tally_worksOn, hstopped]
      rfl
    · have horder := hbefore.order
      rw [queueAt_of_get? hat.get, hqueue] at horder
      rw [hempty]
      exact horder
    · intro q d' hmem
      exact absurd (by simpa using hmem) (hat.runHook_notMem q d')
    · intro _
      refine hbefore.betweenHandlers ?_
      intro q d' hmem
      exact hat.runHook_notMem q d' (by simpa using hmem)

theorem BusInv.laneTakes (h : BusInv b (.laneTop k p ::ₘ others))
    (hat : AtLane b others k p lane) {queue : List Dispatch} (hqueue : lane.queue = d :: queue) :
    BusInv { b with
      lifecycleLanes := b.lifecycleLanes.modify p fun lane =>
        { lane with queue := queue }
      started := b.started ++ [(k, d)] }
      (↑[BusTask.runHook k p d] + others) := by
  have hget := get?_modify h.valid hat.pointer fun lane =>
    { lane with queue := queue }
  have hbefore := h.lanes k
  have hlane : (b.lifecycleLanes.modify p fun lane =>
      { lane with queue := queue }).get? k = some { lane with queue := queue } := by
    rw [hget, if_pos rfl, hat.get]
    rfl
  refine h.workerStep rfl (h.valid.modify _ _) (size_modify _).le
    (fun k' q _ hq => hq) ?_ ?_ ?_ ?_ h.drained
  · intro t ht
    rw [List.mem_singleton.mp ht]
    exact ⟨rfl, hat.pointer⟩
  · intro k' hk
    refine ⟨(hget k').trans (if_neg hk), rfl, ?_, rfl⟩
    rw [entriesFor_append, entriesFor_singleton, if_neg fun heq => hk heq.symm, List.append_nil]
  · refine ⟨?_, ?_, ?_, ?_, ?_, ?_⟩
    · have hbound := hbefore.bound
      rw [queueAt_of_get? hat.get, hqueue] at hbound
      rw [queueAt_of_get? hlane]
      exact (Nat.le_succ _).trans hbound
    · intro lane' hlane' hidle
      rw [hlane] at hlane'
      rw [← Option.some.inj hlane'] at hidle
      exact absurd hat.running (ne_true_of_eq_false hidle)
    · rw [hat.tally_worksOn, runningAt_of_get? hlane, hat.running]
      simp [worksOn_runHook]
    · have horder := hbefore.order
      rw [queueAt_of_get? hat.get, hqueue] at horder
      rw [queueAt_of_get? hlane, entriesFor_append, entriesFor_singleton, horder]
      simp
    · intro q d' hmem
      have hd : d' = d := by
        rcases Multiset.mem_add.mp hmem with hnew | hold
        · simp only [Multiset.coe_singleton, Multiset.mem_singleton, runHook.injEq] at hnew
          exact hnew.2.2
        · exact absurd hold (hat.runHook_notMem q d')
      rw [hd, entriesFor_append, entriesFor_singleton, if_pos rfl, hbefore.betweenHandlers]
      intro q' d'' hmem'
      exact hat.runHook_notMem q' d'' (by simpa using hmem')
    · intro hnone
      exact absurd (by simp) (hnone p d)
  · simp [inFlight]
    omega

theorem BusInv.handlerEnds (h : BusInv b (.runHook k p d ::ₘ others)) (result : HandlerResult) :
    BusInv { b with finished := b.finished ++ [(k, d, result)] }
      (↑[BusTask.completeAsync k p d] + others) := by
  obtain ⟨lane, hat⟩ := h.atLane rfl
  have hbefore := h.lanes k
  refine h.workerStep rfl h.valid le_rfl (fun k' q _ hq => hq) ?_ ?_ ?_
    (by simp [inFlight]) h.drained
  · intro t ht
    rw [List.mem_singleton.mp ht]
    exact ⟨rfl, hat.pointer⟩
  · intro k' hk
    refine ⟨rfl, rfl, rfl, ?_⟩
    rw [entriesFor_append, entriesFor_singleton, if_neg fun heq => hk heq.symm, List.append_nil]
  · refine ⟨hbefore.bound, hbefore.idle, ?_, hbefore.order, ?_, ?_⟩
    · rw [hat.tally_worksOn, runningAt_of_get? hat.get, hat.running]
      simp [worksOn, worker?]
    · intro q d' hmem
      refine absurd ?_ (hat.runHook_notMem q d')
      simpa using hmem
    · intro _
      rw [hbefore.inHandler p d (Multiset.mem_cons_self _ _),
        entriesFor_append, entriesFor_singleton]
      simp

/-- Between two handlers the goroutine goes on with one task; the queue and
the logs stay as they are. -/
theorem BusInv.laneGoesOn (h : BusInv b (task ::ₘ others)) (htask : task.worker? = some (k, p))
    (hnext : next.worker? = some (k, p)) (hnotTask : ∀ d, task ≠ .runHook k p d)
    (hnotNext : ∀ q d, .runHook k q d ≠ next) {lanes : Lanes} {pendingAsync : ℤ} {asyncIdle : Bool}
    (hvalid : lanes.Valid) (hsize : lanes.size ≤ b.lifecycleLanes.size)
    (hpointers : ∀ k', lanes.pointer? k' = b.lifecycleLanes.pointer? k')
    (hother : ∀ k', k' ≠ k → lanes.get? k' = b.lifecycleLanes.get? k')
    (hself : ∀ lane, b.lifecycleLanes.get? k = some lane → ∃ lane',
      lanes.get? k = some lane' ∧ lane'.queue = lane.queue ∧ lane'.running = lane.running)
    (hcount : pendingAsync + task.inFlight.toNat = b.pendingAsync + next.inFlight.toNat)
    (hdrained : asyncIdle = true ↔ pendingAsync = 0) :
    BusInv { b with
      lifecycleLanes := lanes
      pendingAsync := pendingAsync
      asyncIdle := asyncIdle } (↑[next] + others) := by
  obtain ⟨lane, hat⟩ := h.atLane htask
  have hbefore := h.lanes k
  obtain ⟨lane', hget, hqueue, hrunning⟩ := hself lane hat.get
  have hsame : queueAt lanes k = queueAt b.lifecycleLanes k := by
    rw [queueAt_of_get? hget, hqueue, queueAt_of_get? hat.get]
  refine h.workerStep htask hvalid hsize (fun k' q _ hq => (hpointers k').trans hq) ?_
    (fun k' hk => ⟨hother k' hk, rfl, rfl, rfl⟩) ?_ ?_ hdrained
  · intro t ht
    rw [List.mem_singleton.mp ht]
    exact ⟨hnext, (hpointers k).trans hat.pointer⟩
  · refine ⟨hsame ▸ hbefore.bound, ?_, ?_, hsame ▸ hbefore.order, ?_, ?_⟩
    · intro lane'' hlane'' hidle
      rw [hget] at hlane''
      rw [← Option.some.inj hlane'', hrunning, hat.running] at hidle
      simp at hidle
    · rw [hat.tally_worksOn, runningAt_of_get? hget, hrunning, hat.running]
      simp [worksOn_of_worker? hnext]
    · intro q d' hmem
      have hmem' : .runHook k q d' = next ∨ .runHook k q d' ∈ others := by simpa using hmem
      rcases hmem' with hnew | hold
      · exact absurd hnew (hnotNext q d')
      · exact absurd hold (hat.runHook_notMem q d')
    · intro _
      refine hbefore.betweenHandlers ?_
      intro q d' hmem
      rcases Multiset.mem_cons.mp hmem with hfirst | hold
      · rw [← hfirst] at htask
        cases htask
        exact hnotTask d' hfirst.symm
      · exact hat.runHook_notMem q d' hold
  · cases hflight : next.inFlight <;> simp [hflight] at hcount ⊢ <;> omega

end WorkerSteps

/-! ## Accounting -/

theorem completeAsync_drained (h : b.asyncIdle = true ↔ b.pendingAsync = 0)
    (hpositive : 0 < b.pendingAsync) :
    b.completeAsync.asyncIdle = true ↔ b.completeAsync.pendingAsync = 0 := by
  have hopen : b.asyncIdle = false := by
    cases hidle : b.asyncIdle with
    | false => rfl
    | true =>
      have hzero := h.mp hidle
      omega
  simp only [EventBus.completeAsync]
  split
  next hzero => simp [hzero]
  next hne => simp [hopen, hne]

theorem beginAsync_drained (h : b.asyncIdle = true ↔ b.pendingAsync = 0)
    (hbound : 0 ≤ b.pendingAsync) (count : ℕ) :
    (b.beginAsync count).asyncIdle = true ↔ (b.beginAsync count).pendingAsync = 0 := by
  unfold beginAsync
  split
  · exact h
  next hcount =>
    have hne : b.pendingAsync + count ≠ 0 := by omega
    by_cases hzero : b.pendingAsync = 0
    · simp [hzero, hcount]
    · have hopen : b.asyncIdle ≠ true := fun hidle => hzero (h.mp hidle)
      simp [hopen, hne]

theorem beginAsync_pendingAsync (b : EventBus) (count : ℕ) :
    (b.beginAsync count).pendingAsync = b.pendingAsync + count := by
  unfold beginAsync
  split
  next hcount => simp [hcount]
  · rfl

theorem beginAsync_frame (b : EventBus) (count : ℕ) :
    (b.beginAsync count).lifecycleLanes = b.lifecycleLanes ∧
      (b.beginAsync count).lifecycle = b.lifecycle ∧ (b.beginAsync count).accepted = b.accepted ∧
      (b.beginAsync count).started = b.started ∧ (b.beginAsync count).finished = b.finished := by
  unfold beginAsync
  split <;> exact ⟨rfl, rfl, rfl, rfl, rfl⟩

/-- What is accepted is either started or still waits on its lane. -/
theorem BusInv.accepted_perm (h : BusInv b pending) :
    b.accepted.Perm (b.started ++ queuedDispatches b.lifecycleLanes) := by
  refine perm_of_entriesFor ?_
  intro k
  rw [entriesFor_append, entriesFor_queuedDispatches]
  exact (h.lanes k).order

theorem BusInv.pendingAsync_eq (h : BusInv b pending) :
    b.pendingAsync =
      (queuedDispatches b.lifecycleLanes).length + tally BusTask.inFlight pending := by
  have hlength := h.accepted_perm.length_eq
  have hcount := h.count
  rw [List.length_append] at hlength
  omega

/-! ## Emission -/

variable {event : EventType}

section Emission

variable {hooks : EventType → List HookRegistration} {base : LaneKey} {ctx : Option EventContext}

theorem openedLane_idle (hlane : IsLaneOf base (laneConsumers hooks event) k)
    (hidle : ∀ lane, b.lifecycleLanes.get? k = some lane →
      lane.running = false → lane.queue = [] ∧ lane.closeWhenEmpty = false)
    (hstopped : ((laneDemand hooks event k.consumer).openedLane
      (b.lifecycleLanes.get? k)).running = false) :
    queueAt b.lifecycleLanes k = [] ∧ dispatchCount hooks event k.consumer = 0 ∧
        ((laneDemand hooks event k.consumer).openedLane
          (b.lifecycleLanes.get? k)).closeWhenEmpty = false := by
  rw [openedLane_running, Bool.or_eq_false_iff, decide_eq_false_iff_not] at hstopped
  obtain ⟨hrunning, hcount⟩ := hstopped
  have hzero : dispatchCount hooks event k.consumer = 0 := Nat.eq_zero_of_not_pos hcount
  have hreserved : 0 < terminalCount hooks event k.consumer := by
    rcases mem_laneConsumers.mp hlane.2 with hpos | hpos
    · omega
    · exact hpos
  have hstart : isTerminal event = false := by
    cases hterminal : isTerminal event with
    | false => rfl
    | true =>
      have hnone := terminalCount_of_isTerminal hooks hterminal k.consumer
      omega
  cases hget : b.lifecycleLanes.get? k with
  | none =>
    refine ⟨by simp [queueAt, hget], hzero, ?_⟩
    simp [openedLane, newLane, holdOpen, laneDemand, hstart, hreserved]
  | some lane =>
    rw [hget] at hrunning
    obtain ⟨hqueue, -⟩ := hidle lane hget (by simpa using hrunning)
    refine ⟨by rw [queueAt_of_get? hget, hqueue], hzero, ?_⟩
    simp [openedLane, reopen, holdOpen, laneDemand, hstart, hreserved]

/-- Seen from one lane, an accepted event appends its dispatches and starts a
goroutine if there is work and none is there. -/
theorem LaneInv.accept (hvalid : b.lifecycleLanes.Valid)
    (h : LaneInv b (.emitAsync event ctx ::ₘ others) k)
    (hroom : EventBus.hasRoom hooks event base b = true)
    (hlanes : b'.lifecycleLanes = EventBus.lanesAfter hooks event base ctx b)
    (haccepted : b'.accepted = b.accepted ++ EventBus.dispatches hooks event base ctx)
    (hstarted : b'.started = b.started) (hfinished : b'.finished = b.finished) :
    LaneInv b' (↑(openLanes base (laneDemand hooks event)
      (laneConsumers hooks event) b.lifecycleLanes).2.flatten + others) k := by
  have hqueue := lanesAfter_queueAt hooks event base ctx hvalid k
  have hruns : ∀ q d, .runHook k q d ∈
      (↑(openLanes base (laneDemand hooks event) (laneConsumers hooks event)
        b.lifecycleLanes).2.flatten + others : Multiset BusTask) →
        .runHook k q d ∈ .emitAsync event ctx ::ₘ others := by
    intro q d hmem
    rcases Multiset.mem_add.mp hmem with hnew | hold
    · obtain ⟨key, p, htask, -⟩ := openLanes_started hvalid hnew
      simp at htask
    · exact Multiset.mem_cons_of_mem hold
  refine ⟨?_, ?_, ?_, ?_, ?_, ?_⟩
  · rw [hlanes, hqueue, List.length_append, entriesFor_dispatches_length]
    by_cases hlane : IsLaneOf base (laneConsumers hooks event) k
    · have hfits := (hasRoom_iff.mp hroom).1 k hlane
      rw [if_pos hlane.1]
      omega
    · rw [← entriesFor_dispatches_length hooks event base ctx,
        entriesFor_dispatches_of_not_isLaneOf ctx hlane]
      exact h.bound
  · intro lane hget hidle
    rw [hlanes, lanesAfter_get? hooks event base ctx hvalid] at hget
    split at hget
    next hlane =>
      rw [← Option.some.inj hget] at hidle ⊢
      obtain ⟨hempty, hcount, hopen⟩ := openedLane_idle hlane h.idle hidle
      have hnone : entriesFor k (dispatches hooks event base ctx) = [] := by
        rw [← List.length_eq_zero_iff, entriesFor_dispatches_length, if_pos hlane.1, hcount]
      refine ⟨?_, hopen⟩
      rw [Lane.append, openedLane_queue, hnone, List.append_nil]
      exact hempty
    · exact h.idle lane hget hidle
  · have hemit : (BusTask.emitAsync event ctx).worksOn k = false := rfl
    have hworker := h.worker
    rw [tally_cons, hemit, Bool.toNat_false, Nat.zero_add] at hworker
    rw [hlanes, tally_coe_add, openLanes_started_count hvalid laneConsumers_nodup,
      hworker, lanesAfter_runningAt hooks event base ctx hvalid, laneDemand]
    cases runningAt b.lifecycleLanes k <;> simp
  · rw [haccepted, hstarted, hlanes, hqueue, entriesFor_append, h.order, List.append_assoc]
  · intro q d hmem
    rw [hstarted, hfinished]
    exact h.inHandler q d (hruns q d hmem)
  · intro hnone
    rw [hstarted, hfinished]
    refine h.betweenHandlers ?_
    intro q d hmem
    refine hnone q d (Multiset.mem_add.mpr (.inr ?_))
    simpa using hmem

theorem BusInv.pendingAsync_nonneg (h : BusInv b pending) : 0 ≤ b.pendingAsync := by
  rw [h.pendingAsync_eq]
  omega

theorem BusInv.accept (h : BusInv b (.emitAsync event ctx ::ₘ others))
    (hroom : EventBus.hasRoom hooks event base b = true) :
    BusInv (EventBus.enqueueLifecycle hooks event base ctx b).2.1
      (↑(EventBus.enqueueLifecycle hooks event base ctx b).2.2.flatten + others) := by
  rw [enqueueLifecycle_of_hasRoom hroom]
  set entries := dispatches hooks event base ctx
  set b₀ : EventBus :=
    { b with
      lifecycleLanes := lanesAfter hooks event base ctx b
      lifecycle := b.lifecycle ++ [(event, base)]
      accepted := b.accepted ++ entries } with hb₀
  obtain ⟨hlanes, -, haccepted, hstarted, hfinished⟩ := beginAsync_frame b₀ entries.length
  obtain ⟨hvalid, -, hpointers⟩ := enqueueAll_frame (openLanes_valid h.valid) entries
  refine ⟨?_, ?_, ?_, ?_, ?_, ?_⟩
  · rw [hlanes]
    exact hvalid
  · rw [hlanes]
    exact (lanesAfter_size hooks event base ctx h.valid).trans_le (hasRoom_iff.mp hroom).2
  · intro k
    exact (h.lanes k).accept h.valid hroom hlanes haccepted hstarted hfinished
  · intro task htask k p hp
    rw [hlanes]
    rcases Multiset.mem_add.mp htask with hnew | hold
    · obtain ⟨key, q, rfl, hpointer⟩ := openLanes_started h.valid hnew
      cases hp
      exact (hpointers _).trans hpointer
    · have hpointer := h.pointers task (Multiset.mem_cons_of_mem hold) k p hp
      exact (hpointers k).trans (openLanes_pointer? hpointer)
  · have hcount := h.count
    have hnew : (openLanes base (laneDemand hooks event)
        (laneConsumers hooks event) b.lifecycleLanes).2.flatten.countP
          inFlight = 0 := by
      rw [List.countP_eq_zero]
      intro task htask
      obtain ⟨key, q, rfl, -⟩ := openLanes_started h.valid htask
      simp [inFlight]
    rw [tally_cons] at hcount
    rw [beginAsync_pendingAsync, haccepted, hstarted, tally_coe_add, hnew]
    simp [hb₀, inFlight] at hcount ⊢
    omega
  · exact @beginAsync_drained b₀ h.drained h.pendingAsync_nonneg _

end Emission

/-! ## Every task keeps the invariant -/

theorem BusInv.aside (h : BusInv b (task ::ₘ others)) (htask : task.worker? = none)
    (hmore : ∀ t ∈ more, t.worker? = none) (hlanes : b'.lifecycleLanes = b.lifecycleLanes)
    (haccepted : b'.accepted = b.accepted) (hstarted : b'.started = b.started)
    (hfinished : b'.finished = b.finished)
    (hcount : b'.pendingAsync + task.inFlight.toNat =
      b.pendingAsync + more.countP BusTask.inFlight)
    (hdrained : b'.asyncIdle = true ↔ b'.pendingAsync = 0) :
    BusInv b' (↑more + others) := by
  have hnone : ∀ t : BusTask, t.worker? = none → ∀ k, t.worksOn k = false := by
    intro t ht k
    rw [worksOn, ht]
    rfl
  refine ⟨hlanes ▸ h.valid, hlanes ▸ h.size, ?_, ?_, ?_, hdrained⟩
  · intro k
    refine (h.lanes k).frame ⟨?_, ?_, ?_, ?_⟩
      (sameTasks_replace (hnone task htask k) fun t ht => hnone t (hmore t ht) k)
    · rw [hlanes]
    · rw [haccepted]
    · rw [hstarted]
    · rw [hfinished]
  · intro t ht k p hp
    rw [hlanes]
    rcases Multiset.mem_add.mp ht with hnew | hold
    · rw [hmore t hnew] at hp
      simp at hp
    · exact h.pointers t (Multiset.mem_cons_of_mem hold) k p hp
  · have hbefore := h.count
    rw [tally_cons] at hbefore
    rw [haccepted, hstarted, tally_coe_add]
    omega

theorem BusInv.pending_pos (h : BusInv b (task ::ₘ others)) (hflight : task.inFlight = true) :
    0 < b.pendingAsync := by
  rw [h.pendingAsync_eq, tally_cons, hflight, Bool.toNat_true]
  omega

section Exec

variable {hooks : EventType → List HookRegistration} {results : ℕ → HandlerResult}

theorem BusInv.emitAsync {ctx : Option EventContext}
    (h : BusInv b (.emitAsync event ctx ::ₘ others)) :
    BusInv (EventBus.emitAsync hooks event ctx b).2.1
      (↑(EventBus.emitAsync hooks event ctx b).2.2.flatten + others) := by
  rcases emitAsync_cases hooks event ctx b with
    ⟨base, -, hroom, hemit⟩ | hemit | ⟨base, -, -, hemit⟩ | ⟨-, hemit⟩
  · rw [hemit]
    exact h.accept hroom
  · rw [hemit]
    exact h.aside rfl (by simp) rfl rfl rfl rfl (by simp [inFlight, reject]) h.drained
  · rw [hemit]
    exact h.aside rfl (by simp) rfl rfl rfl rfl (by simp [inFlight]) h.drained
  · rw [hemit]
    have hflatten : ((asyncHooks (hooks event)).map fun hook =>
        [runSingle ⟨ctx, hook, false⟩]).flatten = (asyncHooks (hooks event)).map fun hook =>
            runSingle ⟨ctx, hook, false⟩ := by
      rw [← List.flatMap_def, ← List.map_eq_flatMap]
    obtain ⟨hlanes, -, haccepted, hstarted, hfinished⟩ :=
      beginAsync_frame b (asyncHooks (hooks event)).length
    simp only [hflatten]
    refine h.aside rfl ?_ hlanes haccepted hstarted hfinished ?_
      (beginAsync_drained h.drained h.pendingAsync_nonneg _)
    · simp [worker?]
    · rw [beginAsync_pendingAsync]
      simp [inFlight, Function.comp_def]

theorem BusInv.laneTop (h : BusInv b (.laneTop k p ::ₘ others))
    (hstep : b.laneTop k p = some (b', more)) :
    BusInv b' (↑more + others) := by
  obtain ⟨lane, hat⟩ := h.atLane rfl
  rcases hat.laneTop_cases hstep with ⟨hqueue, rfl, rfl⟩ | ⟨d, queue, hqueue, rfl, rfl⟩
  · exact h.laneEnds hat hqueue
  · exact h.laneTakes hat hqueue

theorem BusInv.completeAsync {d : Dispatch} (h : BusInv b (.completeAsync k p d ::ₘ others))
    (hnext : next = .markTerminal k p ∨ next = .laneTop k p) :
    BusInv b.completeAsync (↑[next] + others) := by
  have hpositive := h.pending_pos rfl
  have hworker : next.worker? = some (k, p) := by
    rcases hnext with rfl | rfl <;> rfl
  have hflight : next.inFlight = false := by
    rcases hnext with rfl | rfl <;> rfl
  refine h.laneGoesOn rfl hworker (by simp) ?_ h.valid le_rfl (fun _ => rfl)
    (fun _ _ => rfl) (fun lane hget => ⟨lane, hget, rfl, rfl⟩) ?_
    (completeAsync_drained h.drained hpositive)
  · rcases hnext with rfl | rfl <;> simp
  · rw [hflight]
    simp [inFlight]

theorem BusInv.markTerminal (h : BusInv b (.markTerminal k p ::ₘ others)) :
    BusInv { b with
      lifecycleLanes := b.lifecycleLanes.modify p fun lane =>
        { lane with closeWhenEmpty := true } }
      (↑[BusTask.laneTop k p] + others) := by
  obtain ⟨lane, hat⟩ := h.atLane rfl
  have hget := get?_modify h.valid hat.pointer fun lane =>
    { lane with closeWhenEmpty := true }
  refine h.laneGoesOn rfl rfl (by simp) (by simp) (h.valid.modify _ _)
    (size_modify _).le (fun _ => rfl) ?_ ?_ rfl h.drained
  · intro k' hk
    rw [hget, if_neg hk]
  · intro lane' hlane'
    refine ⟨{ lane' with closeWhenEmpty := true }, ?_, rfl, rfl⟩
    rw [hget, if_pos rfl, hlane']
    rfl

theorem BusInv.exec {outcome : Outcome EventBus BusTask}
    (h : BusInv b (task ::ₘ others)) (hexec : b.exec hooks results task = some outcome) :
    BusInv outcome.state (↑(outcome.more ++ outcome.spawned.flatten) + others) := by
  cases task with
  | emitAsync event ctx =>
    cases hexec
    exact h.emitAsync
  | laneTop k p =>
    obtain ⟨⟨b', more⟩, hstep, rfl⟩ := Option.map_eq_some_iff.mp hexec
    simpa using h.laneTop hstep
  | runHook k p d =>
    cases hexec
    exact h.handlerEnds _
  | completeAsync k p d =>
    cases hexec
    cases hterminal : d.terminal with
    | true => simpa [hterminal] using h.completeAsync (.inl rfl)
    | false => simpa [hterminal] using h.completeAsync (.inr rfl)
  | markTerminal k p =>
    cases hexec
    exact h.markTerminal
  | runSingle d =>
    cases hexec
    exact h.aside rfl (by simp [worker?]) rfl rfl rfl rfl (by simp [inFlight]) h.drained
  | completeSingle d =>
    cases hexec
    exact h.aside rfl (by simp) rfl rfl rfl rfl (by simp [inFlight, EventBus.completeAsync])
      (completeAsync_drained h.drained (h.pending_pos rfl))

theorem BusInv.call (h : BusInv b others) (c : EmitCall) : BusInv b (↑c.tasks + others) := by
  have hnone : ∀ k, (BusTask.emitAsync c.event c.ctx).worksOn k = false := fun _ => rfl
  refine ⟨h.valid, h.size, ?_, ?_, ?_, h.drained⟩
  · intro k
    refine (h.lanes k).frame ⟨rfl, rfl, rfl, rfl⟩ ⟨?_, ?_⟩
    · rw [tally_coe_add]
      simp [EmitCall.tasks, hnone]
    · intro p d
      simp [EmitCall.tasks]
  · intro task htask k p hp
    have hmem : task = .emitAsync c.event c.ctx ∨ task ∈ others := by
      simpa [EmitCall.tasks] using htask
    rcases hmem with rfl | hold
    · simp [worker?] at hp
    · exact h.pointers task hold k p hp
  · rw [tally_coe_add]
    simpa [EmitCall.tasks, inFlight] using h.count

end Exec

/-! ## Runs -/

section Runs

variable {hooks : EventType → List HookRegistration} {results : ℕ → HandlerResult}
  {m m' : BusSystem}

theorem busInv_step {a : ThreadAction EmitCall} (h : BusInv m.state m.pending)
    (hstep : BusSystem.step hooks results m a = some m') :
    BusInv m'.state m'.pending := by
  rcases Threaded.step_cases hstep with ⟨c, -, hstate, hpending⟩ |
      ⟨n, task, outcome, others, -, -, hexec, hstate, hbefore, hafter⟩
  · rw [hstate, hpending]
    exact h.call c
  · rw [hbefore] at h
    rw [hstate, hafter]
    exact h.exec hexec

theorem busInv_runFrom {actions : List (ThreadAction EmitCall)}
    (hrun : runFrom (BusSystem.step hooks results) BusSystem.initial actions = some m) :
    BusInv m.state m.pending :=
  @runFrom_invariant _ _ _ (fun m => BusInv m.state m.pending)
    (fun _ _ _ h hstep => busInv_step h hstep) _ _ _ busInv_initial hrun

end Runs

end LiveForge.Core
