import LiveForge.Events.Delivery

/-!
# A start reserves its stop

An accepted start event opens the lanes of the consumers of its stop event,
leaves room in their queues and holds them open.  The reservation is lost when
the lane still has an earlier stop of the same client to finish: its goroutine
marks the lane for deletion after the start has held it open.
-/

namespace LiveForge.Core

open Support BusSystem PointerTable BusTask LaneDemand
open EventBus (enqueueLifecycle_of_hasRoom hasRoom hasRoom_iff lanesAfter_get? newLanes)

/-! ## What is reserved -/

def lastLifecycle (log : List (EventType × LaneKey)) (base : LaneKey) : Option EventType :=
  (entriesFor base (log.map Prod.swap)).getLast?

theorem lastLifecycle_append_self (log : List (EventType × LaneKey)) (event : EventType)
    (base : LaneKey) :
    lastLifecycle (log ++ [(event, base)]) base = some event := by
  simp [lastLifecycle, entriesFor]

variable {hooks : EventType → List HookRegistration} {results : ℕ → HandlerResult}
  {event stop : EventType} {ctx : Option EventContext} {base k base' : LaneKey} {b b' : EventBus}
  {task : BusTask} {more : List BusTask} {others : Multiset BusTask}

theorem lastLifecycle_append_of_ne (log : List (EventType × LaneKey)) (event : EventType)
    (h : base' ≠ base) :
    lastLifecycle (log ++ [(event, base')]) base = lastLifecycle log base := by
  simp [lastLifecycle, entriesFor, h]

/-- The task carries a stop event whose lane is not yet marked. -/
def BusTask.carriesStop : BusTask → Bool
  | .runHook _ _ dispatch => dispatch.terminal
  | .completeAsync _ _ dispatch => dispatch.terminal
  | .markTerminal _ _ => true
  | _ => false

/-- No earlier stop is left on the lane: neither in its queue nor in the hands
of its goroutine. -/
structure NoStopLeft (b : EventBus) (pending : Multiset BusTask) (k : LaneKey) : Prop where
  queued : ∀ d ∈ queueAt b.lifecycleLanes k, d.terminal = false
  carried : ∀ t ∈ pending, t.worksOn k = true → t.carriesStop = false

/-- The lane of `k` holds room for `count` dispatches of the stop event. -/
structure LaneReserved (count : ℕ) (b : EventBus) (pending : Multiset BusTask)
    (k : LaneKey) : Prop extends NoStopLeft b pending k where
  held : ∃ lane, b.lifecycleLanes.get? k = some lane ∧ lane.closeWhenEmpty = false
  room : (queueAt b.lifecycleLanes k).length + count ≤ maxLifecycleQueueDepth

/-- Every client whose last event is a start has its reservations. -/
structure ReservationInv (hooks : EventType → List HookRegistration)
    (b : EventBus) (pending : Multiset BusTask) : Prop where
  keys : ∀ entry ∈ b.lifecycle, entry.2.consumer = ""
  reserved : ∀ base event stop, lastLifecycle b.lifecycle base = some event →
    terminalEvent event = some stop → ∀ k, IsLaneOf base (laneConsumers hooks stop) k →
        LaneReserved (dispatchCount hooks stop k.consumer) b pending k

theorem reservationInv_initial (hooks : EventType → List HookRegistration) :
    ReservationInv hooks newEventBus 0 := by
  refine ⟨by simp [newEventBus], ?_⟩
  intro base event stop hlast
  simp [newEventBus, lastLifecycle, entriesFor] at hlast

/-! ## Facts about events -/

theorem eventLifecycleKey_consumer (h : eventLifecycleKey event ctx = some base) :
    base.consumer = "" := by
  unfold eventLifecycleKey at h
  split at h
  · simp at h
  · split at h
    · simp at h
    · split at h
      all_goals first
        | (split at h
           · simp at h
           · simp only [Option.some.injEq] at h
             rw [← h])
        | simp at h

section Terminal

variable (h : terminalEvent event = some stop)

include h

theorem terminalCount_eq (consumer : String) :
    terminalCount hooks event consumer = dispatchCount hooks stop consumer := by
  simp [terminalCount, terminalHooks, h, dispatchCount]

theorem isTerminal_of_terminalEvent : isTerminal event = false ∧ isTerminal stop = true := by
  cases event <;> simp [terminalEvent] at h <;> subst h <;> decide

variable {consumer : String}

theorem mem_laneConsumers_stop :
    consumer ∈ laneConsumers hooks stop ↔ 0 < dispatchCount hooks stop consumer := by
  rw [mem_laneConsumers, terminalCount_of_isTerminal hooks (isTerminal_of_terminalEvent h).2]
  simp

theorem mem_laneConsumers_start (hmem : consumer ∈ laneConsumers hooks stop) :
    consumer ∈ laneConsumers hooks event := by
  rw [mem_laneConsumers_stop h] at hmem
  rw [mem_laneConsumers, terminalCount_eq h]
  exact .inr hmem

end Terminal

theorem eq_of_forConsumer (hbase : base.consumer = "") (hbase' : base'.consumer = "")
    (h : base.forConsumer consumer = base'.forConsumer consumer) :
    base = base' := by
  cases base
  cases base'
  simp_all [LaneKey.forConsumer]

/-! ## Steps that keep reservations -/

/-- A task is replaced by others that carry no stop of the lane. -/
theorem NoStopLeft.carried_replace (h : NoStopLeft b (task ::ₘ others) k)
    (hmore : ∀ t ∈ more, t.worksOn k = true → t.carriesStop = false) :
    ∀ t ∈ (↑more + others : Multiset BusTask), t.worksOn k = true → t.carriesStop = false := by
  intro t ht hworks
  rcases Multiset.mem_add.mp ht with hnew | hold
  · exact hmore t hnew hworks
  · exact h.carried t (Multiset.mem_cons_of_mem hold) hworks

theorem LaneReserved.replace {count : ℕ} (h : LaneReserved count b (task ::ₘ others) k)
    (hget : b'.lifecycleLanes.get? k = b.lifecycleLanes.get? k)
    (hmore : ∀ t ∈ more, t.worksOn k = true → t.carriesStop = false) :
    LaneReserved count b' (↑more + others) k := by
  have hqueue := queueAt_congr hget
  refine ⟨⟨?_, h.carried_replace hmore⟩, ?_, ?_⟩
  · rw [hqueue]
    exact h.queued
  · rw [hget]
    exact h.held
  · rw [hqueue]
    exact h.room

/-- No lifecycle event is recorded and no reserved lane changes. -/
theorem ReservationInv.unrecorded (hinv : ReservationInv hooks b (task ::ₘ others))
    (hlog : b'.lifecycle = b.lifecycle)
    (hlanes : ∀ k, b'.lifecycleLanes.get? k = b.lifecycleLanes.get? k)
    (hmore : ∀ t ∈ more, t.carriesStop = false) :
    ReservationInv hooks b' (↑more + others) := by
  constructor
  · rw [hlog]
    exact hinv.keys
  · intro base start stop hlast hstop k hlane
    rw [hlog] at hlast
    exact (hinv.reserved base start stop hlast hstop k hlane).replace (hlanes k)
      fun t ht _ => hmore t ht

/-- A lifecycle event is recorded.  Other clients keep their reservations; for
the client itself they have to be shown. -/
theorem ReservationInv.recorded (hinv : ReservationInv hooks b (task ::ₘ others))
    (hlog : b'.lifecycle = b.lifecycle ++ [(event, base')]) (hconsumer : base'.consumer = "")
    (hlanes : ∀ k, k ≠ base'.forConsumer k.consumer →
      b'.lifecycleLanes.get? k = b.lifecycleLanes.get? k)
    (hmore : ∀ t ∈ more, t.carriesStop = false)
    (hself : ∀ stop, terminalEvent event = some stop → ∀ k, IsLaneOf base'
      (laneConsumers hooks stop) k →
      LaneReserved (dispatchCount hooks stop k.consumer) b' (↑more + others) k) :
    ReservationInv hooks b' (↑more + others) := by
  constructor
  · rw [hlog]
    exact forall_mem_concat hinv.keys hconsumer
  · intro base start stop hlast hstop k hlane
    rw [hlog] at hlast
    by_cases hbase : base' = base
    · subst hbase
      rw [lastLifecycle_append_self, Option.some.injEq] at hlast
      subst hlast
      exact hself stop hstop k hlane
    · rw [lastLifecycle_append_of_ne _ _ hbase] at hlast
      refine (hinv.reserved base start stop hlast hstop k hlane).replace
        (hlanes k ?_) fun t ht _ => hmore t ht
      intro hk
      have hmem := List.mem_of_getLast? hlast
      have hkeys := hinv.keys (start, base) (by simpa [entriesFor] using hmem)
      exact hbase (eq_of_forConsumer hconsumer hkeys (hk.symm.trans hlane.1))

variable {outcome : Outcome EventBus BusTask}

theorem exec_worker_frame {p : ℕ} (h : BusInv b (task ::ₘ others))
    (htask : task.worker? = some (k, p)) (hexec : b.exec hooks results task = some outcome) :
    outcome.state.lifecycle = b.lifecycle ∧ outcome.spawned = [] ∧
      (∀ t ∈ outcome.more, t.worker? = some (k, p)) ∧
      ∀ k', k' ≠ k → outcome.state.lifecycleLanes.get? k' = b.lifecycleLanes.get? k' := by
  obtain ⟨lane, hat⟩ := h.atLane htask
  have hother : ∀ f k', k' ≠ k → (b.lifecycleLanes.modify p f).get? k' =
      b.lifecycleLanes.get? k' := by
    intro f k' hk
    rw [get?_modify h.valid hat.pointer, if_neg hk]
  cases task with
  | laneTop key q =>
    cases htask
    obtain ⟨⟨b', more⟩, hstep, rfl⟩ := Option.map_eq_some_iff.mp hexec
    rcases hat.laneTop_cases hstep with ⟨-, rfl, rfl⟩ | ⟨d, queue, -, rfl, rfl⟩
    · refine ⟨rfl, rfl, by simp, ?_⟩
      intro k' hk
      exact (lanesWithout_get? h.valid hat.pointer hat.get k').trans (if_neg hk)
    · exact ⟨rfl, rfl, by simp [worker?], hother _⟩
  | runHook key q d =>
    cases htask
    cases hexec
    exact ⟨rfl, rfl, by simp [worker?], fun _ _ => rfl⟩
  | completeAsync key q d =>
    cases htask
    cases hexec
    refine ⟨rfl, rfl, ?_, fun _ _ => rfl⟩
    cases d.terminal <;> simp [worker?]
  | markTerminal key q =>
    cases htask
    cases hexec
    exact ⟨rfl, rfl, by simp [worker?], hother _⟩
  | _ => simp [worker?] at htask

/-- The goroutine of a reserved lane never marks or deletes it. -/
theorem LaneReserved.worker {count p : ℕ}
    (h : BusInv b (task ::ₘ others)) (hreserved : LaneReserved count b (task ::ₘ others) k)
    (htask : task.worker? = some (k, p)) (hexec : b.exec hooks results task = some outcome) :
    LaneReserved count outcome.state (↑(outcome.more ++ outcome.spawned.flatten) + others) k := by
  obtain ⟨lane, hat⟩ := h.atLane htask
  obtain ⟨lane', hlane', hheld⟩ := hreserved.held
  obtain rfl : lane = lane' := Option.mem_unique hat.get hlane'
  have hcarried : task.carriesStop = false := by
    refine hreserved.carried task (Multiset.mem_cons_self _ _) ?_
    rw [worksOn_of_worker? htask]
    exact decide_eq_true rfl
  have hqueued := hreserved.queued
  rw [queueAt_of_get? hat.get] at hqueued
  have hclean : ∀ more : List BusTask, (∀ t ∈ more, t.carriesStop = false) →
      ∀ t ∈ (↑more + others : Multiset BusTask), t.worksOn k = true → t.carriesStop = false :=
    fun more hmore => hreserved.carried_replace fun t ht _ => hmore t ht
  cases task with
  | laneTop key q =>
    obtain ⟨rfl, rfl⟩ := Prod.mk.inj (Option.some.inj htask)
    obtain ⟨⟨b', more⟩, hstep, rfl⟩ := Option.map_eq_some_iff.mp hexec
    rcases hat.laneTop_cases hstep with ⟨-, rfl, rfl⟩ | ⟨d, queue, hqueue, rfl, rfl⟩
    · have hget := lanesWithout_get? h.valid hat.pointer hat.get key
      rw [if_pos rfl, if_neg (by simp [hheld])] at hget
      have hsame : queueAt (lanesWithout key q lane b.lifecycleLanes) key =
          queueAt b.lifecycleLanes key := by
        rw [queueAt_of_get? hget, queueAt_of_get? hat.get]
      refine ⟨⟨?_, hclean _ (by simp)⟩, ⟨_, hget, hheld⟩, ?_⟩
      · rw [hsame]
        exact hreserved.queued
      · rw [hsame]
        exact hreserved.room
    · have hget := get?_modify h.valid hat.pointer (fun lane => { lane with queue := queue }) key
      rw [if_pos rfl, hat.get] at hget
      have hroom := hreserved.room
      rw [queueAt_of_get? hat.get, hqueue] at hroom
      rw [hqueue] at hqueued
      have hfirst : d.terminal = false := hqueued d List.mem_cons_self
      refine ⟨⟨?_, hclean _ ?_⟩, ⟨_, hget, hheld⟩, ?_⟩
      · rw [queueAt_of_get? hget]
        intro d' hd'
        exact hqueued d' (List.mem_cons_of_mem _ hd')
      · simp [carriesStop, hfirst]
      · rw [queueAt_of_get? hget]
        exact (Nat.add_le_add_right (Nat.le_succ _) _).trans hroom
  | runHook key q d =>
    cases htask
    cases hexec
    refine { hreserved with carried := hclean _ ?_ }
    simpa [carriesStop] using hcarried
  | completeAsync key q d =>
    cases htask
    cases hexec
    have hplain : d.terminal = false := hcarried
    refine { hreserved with carried := hclean _ ?_ }
    simp [carriesStop, hplain]
  | markTerminal key q => simp [carriesStop] at hcarried
  | _ => simp [worker?] at htask

/-! ## Emissions -/

/-- An accepted start reserves a lane that no earlier stop is left on. -/
theorem laneReserved_of_start (hvalid : b.lifecycleLanes.Valid)
    (hstop : terminalEvent event = some stop) (hroom : hasRoom hooks event base b = true)
    (hlane : IsLaneOf base (laneConsumers hooks stop) k)
    (hleft : NoStopLeft b (.emitAsync event ctx ::ₘ others) k)
    (hlanes : b'.lifecycleLanes = EventBus.lanesAfter hooks event base ctx b) :
    LaneReserved (dispatchCount hooks stop k.consumer) b'
      (↑(openLanes base (laneDemand hooks event) (laneConsumers hooks event)
        b.lifecycleLanes).2.flatten + others) k := by
  have hstart : IsLaneOf base (laneConsumers hooks event) k :=
    ⟨hlane.1, mem_laneConsumers_start hstop hlane.2⟩
  have hcount := (mem_laneConsumers_stop hstop).mp hlane.2
  have hget := lanesAfter_get? hooks event base ctx hvalid k
  have hqueue := EventBus.lanesAfter_queueAt hooks event base ctx hvalid k
  rw [if_pos hstart] at hget
  rw [← hlanes] at hget hqueue
  refine ⟨⟨?_, ?_⟩, ⟨_, hget, ?_⟩, ?_⟩
  · rw [hqueue]
    intro d hd
    rcases List.mem_append.mp hd with hold | hnew
    · exact hleft.queued d hold
    · simp only [entriesFor, EventBus.dispatches, List.mem_map, List.mem_filter] at hnew
      obtain ⟨entry, ⟨⟨-, -, rfl⟩, -⟩, rfl⟩ := hnew
      exact (isTerminal_of_terminalEvent hstop).1
  · refine hleft.carried_replace fun t ht _ => ?_
    obtain ⟨key, p, rfl, -⟩ := openLanes_started hvalid ht
    rfl
  · have hplain := (isTerminal_of_terminalEvent hstop).1
    have hhold : (laneDemand hooks event k.consumer).holdOpen = true := by
      simp [holdOpen, laneDemand, terminalCount_eq hstop, hcount]
    cases b.lifecycleLanes.get? k with
    | none =>
      simp [openedLane, newLane, hhold]
      exact hplain
    | some lane =>
      have hdemand : (laneDemand hooks event k.consumer).terminal = false := hplain
      simp [Lane.append, openedLane, reopen, hhold, hdemand]
  · have hfits := (hasRoom_iff.mp hroom).1 k hstart
    rw [terminalCount_eq hstop] at hfits
    rw [hqueue, List.length_append, entriesFor_dispatches_length, if_pos hlane.1]
    exact hfits

/-- The condition on an emission: an accepted start finds no earlier stop left
on the lanes it reserves. -/
def FindsNoStop (hooks : EventType → List HookRegistration) (event : EventType)
    (ctx : Option EventContext) (b : EventBus) (pending : Multiset BusTask) : Prop :=
  ∀ stop base, terminalEvent event = some stop → eventLifecycleKey event ctx = some base →
      (EventBus.emitAsync hooks event ctx b).1 = none →
        ∀ k, IsLaneOf base (laneConsumers hooks stop) k → NoStopLeft b pending k

theorem ReservationInv.emitAsync (h : BusInv b (.emitAsync event ctx ::ₘ others))
    (hinv : ReservationInv hooks b (.emitAsync event ctx ::ₘ others))
    (hfinds : FindsNoStop hooks event ctx b (.emitAsync event ctx ::ₘ others)) :
    ReservationInv hooks (EventBus.emitAsync hooks event ctx b).2.1
      (↑(EventBus.emitAsync hooks event ctx b).2.2.flatten + others) := by
  rcases EventBus.emitAsync_cases hooks event ctx b with
    ⟨base, hkey, hroom, hemit⟩ | hemit | ⟨base, hkey, hnone, hemit⟩ | ⟨-, hemit⟩
  · have haccepted : (EventBus.emitAsync hooks event ctx b).1 = none := by
      rw [hemit, enqueueLifecycle_of_hasRoom hroom]
    rw [hemit, enqueueLifecycle_of_hasRoom hroom]
    refine hinv.recorded (beginAsync_frame _ _).2.1 (eventLifecycleKey_consumer hkey) ?_ ?_ ?_
    · intro k hk
      rw [(beginAsync_frame _ _).1, lanesAfter_get? hooks event base ctx h.valid,
        if_neg fun hlane => hk hlane.1]
    · intro t ht
      obtain ⟨key, p, rfl, -⟩ := openLanes_started h.valid ht
      rfl
    · intro stop hstop k hlane
      exact laneReserved_of_start h.valid hstop hroom hlane
        (hfinds stop base hstop hkey haccepted k hlane) (beginAsync_frame _ _).1
  · rw [hemit]
    exact hinv.unrecorded rfl (fun _ => rfl) (by simp)
  · rw [hemit]
    refine hinv.recorded rfl (eventLifecycleKey_consumer hkey) (fun _ _ => rfl) (by simp) ?_
    intro stop hstop k hlane
    have hcount := (mem_laneConsumers_stop hstop).mp hlane.2
    rw [← terminalCount_eq hstop, terminalCount, hnone] at hcount
    simp at hcount
  · rw [hemit]
    refine hinv.unrecorded (beginAsync_frame _ _).2.1 ?_ ?_
    · intro k
      rw [(beginAsync_frame _ _).1]
    · intro t ht
      simp only [List.mem_flatten, List.mem_map] at ht
      obtain ⟨thread, ⟨hook, -, rfl⟩, hmem⟩ := ht
      rw [List.mem_singleton.mp hmem]
      rfl

/-! ## Runs -/

theorem ReservationInv.exec (h : BusInv b (task ::ₘ others))
    (hinv : ReservationInv hooks b (task ::ₘ others))
    (hfinds : ∀ event ctx, task = .emitAsync event ctx →
      FindsNoStop hooks event ctx b (task ::ₘ others))
    (hexec : b.exec hooks results task = some outcome) :
    ReservationInv hooks outcome.state (↑(outcome.more ++ outcome.spawned.flatten) + others) := by
  cases htask : task.worker? with
  | some worker =>
    obtain ⟨key, p⟩ := worker
    obtain ⟨hlog, hspawned, hmore, hother⟩ := exec_worker_frame h htask hexec
    constructor
    · rw [hlog]
      exact hinv.keys
    · intro base start stop hlast hstop k hlane
      rw [hlog] at hlast
      have hreserved := hinv.reserved base start stop hlast hstop k hlane
      by_cases hk : k = key
      · subst hk
        exact hreserved.worker h htask hexec
      · refine hreserved.replace (hother k hk) ?_
        intro t ht hworks
        rw [hspawned, List.flatten_nil, List.append_nil] at ht
        rw [worksOn_of_worker? (hmore t ht)] at hworks
        exact absurd (of_decide_eq_true hworks).symm hk
  | none =>
    cases task with
    | emitAsync event ctx =>
      cases hexec
      exact ReservationInv.emitAsync h hinv (hfinds event ctx rfl)
    | runSingle d =>
      cases hexec
      exact hinv.unrecorded rfl (fun _ => rfl) (by simp [carriesStop])
    | completeSingle d =>
      cases hexec
      exact hinv.unrecorded rfl (fun _ => rfl) (by simp)
    | _ => simp [worker?] at htask

/-- A stop of the lane is still queued or carried by its goroutine. -/
def BusSystem.stopLeft (m : BusSystem) (k : LaneKey) : Bool :=
  (queueAt m.state.lifecycleLanes k).any Dispatch.terminal ||
    m.threads.flatten.any fun t => t.worksOn k && t.carriesStop

/-- A start would be accepted although a stop is left on one of the lanes it
reserves. -/
def BusSystem.startsOverStop (hooks : EventType → List HookRegistration)
    (event : EventType) (ctx : Option EventContext) (m : BusSystem) : Bool :=
  match terminalEvent event, eventLifecycleKey event ctx with
  | some stop, some base =>
    (EventBus.emitAsync hooks event ctx m.state).1.isNone &&
      (laneConsumers hooks stop).any fun consumer =>
        m.stopLeft (base.forConsumer consumer)
  | _, _ => false

def StartsAfterStop (hooks : EventType → List HookRegistration)
    (m : BusSystem) : ThreadAction EmitCall → Prop
  | .call _ => True
  | .run n =>
    match m.next n with
    | some (.emitAsync event ctx) => m.startsOverStop hooks event ctx = false
    | _ => True

instance (m : BusSystem) (a : ThreadAction EmitCall) : Decidable (StartsAfterStop hooks m a) := by
  unfold StartsAfterStop
  split
  · infer_instance
  · split <;> infer_instance

variable {m : BusSystem} {pending : Multiset BusTask}

theorem noStopLeft_of_stopLeft (h : m.stopLeft k = false) : NoStopLeft m.state m.pending k := by
  rw [stopLeft, Bool.or_eq_false_iff, List.any_eq_false, List.any_eq_false] at h
  constructor
  · intro d hd
    simpa using h.1 d hd
  · intro t ht hworks
    simpa [hworks] using h.2 t ht

theorem findsNoStop_of_startsOverStop (h : m.startsOverStop hooks event ctx = false) :
    FindsNoStop hooks event ctx m.state m.pending := by
  intro stop base hstop hkey haccepted k hlane
  simp only [startsOverStop, hstop, hkey, haccepted,
    Option.isNone_none, Bool.true_and, List.any_eq_false] at h
  have hfree := h k.consumer hlane.2
  rw [← hlane.1, Bool.not_eq_true] at hfree
  exact noStopLeft_of_stopLeft hfree

theorem ReservationInv.call (hinv : ReservationInv hooks b pending) (c : EmitCall) :
    ReservationInv hooks b (↑c.tasks + pending) := by
  refine ⟨hinv.keys, ?_⟩
  intro base start stop hlast hstop k hlane
  have hreserved := hinv.reserved base start stop hlast hstop k hlane
  refine { hreserved with carried := fun t ht hworks => ?_ }
  rcases Multiset.mem_add.mp ht with hnew | hold
  · rw [EmitCall.tasks, Multiset.coe_singleton, Multiset.mem_singleton] at hnew
    rw [hnew]
    rfl
  · exact hreserved.carried t hold hworks

theorem reservationInv_step {m' : BusSystem} {a : ThreadAction EmitCall}
    (h : BusInv m.state m.pending) (hinv : ReservationInv hooks m.state m.pending)
    (hclean : StartsAfterStop hooks m a) (hstep : step hooks results m a = some m') :
    ReservationInv hooks m'.state m'.pending := by
  rcases Threaded.step_cases hstep with ⟨c, -, hstate, hpending⟩ |
      ⟨n, task, outcome, others, rfl, hnext, hexec, hstate, hbefore, hafter⟩
  · rw [hstate, hpending]
    exact hinv.call c
  · have hfinds : ∀ event ctx, task = .emitAsync event ctx →
        FindsNoStop hooks event ctx m.state m.pending := by
      rintro event ctx rfl
      refine findsNoStop_of_startsOverStop ?_
      simpa only [StartsAfterStop, hnext] using hclean
    rw [hbefore] at h hinv hfinds
    rw [hstate, hafter]
    exact hinv.exec h hfinds hexec

theorem reservationInv_runFrom {actions : List (ThreadAction EmitCall)}
    (hclean : StepsMeet (StartsAfterStop hooks) (step hooks results) initial actions)
    (hrun : runFrom (step hooks results) initial actions = some m) :
    BusInv m.state m.pending ∧ ReservationInv hooks m.state m.pending :=
  @runFrom_invariant_of_stepsMeet _ _ _
    (fun m => BusInv m.state m.pending ∧ ReservationInv hooks m.state m.pending) _
    (fun _ _ _ hinv hcond hstep => ⟨busInv_step hinv.1 hstep,
      reservationInv_step hinv.1 hinv.2 hcond hstep⟩)
    _ _ _ ⟨busInv_initial, reservationInv_initial hooks⟩ hclean hrun

/-! ## The stop is accepted -/

theorem emitAsync_accepted_of_hasRoom (hkey : eventLifecycleKey event ctx = some base)
    (hroom : hasRoom hooks event base b = true) :
    (EventBus.emitAsync hooks event ctx b).1 = none := by
  simp only [EventBus.emitAsync, hkey]
  split
  · rw [enqueueLifecycle_of_hasRoom hroom]
  · rfl

/-- Reserved lanes have room for the stop, and no lane is missing. -/
theorem hasRoom_of_reserved {start : EventType} (h : BusInv b pending)
    (hstop : terminalEvent start = some stop)
    (hreserved : ∀ k, IsLaneOf base (laneConsumers hooks stop) k →
      LaneReserved (dispatchCount hooks stop k.consumer) b pending k) :
    hasRoom hooks stop base b = true := by
  have hterminal := (isTerminal_of_terminalEvent hstop).2
  rw [hasRoom_iff]
  constructor
  · intro k hlane
    rw [terminalCount_of_isTerminal hooks hterminal]
    exact (hreserved k hlane).room
  · have hnone : newLanes hooks stop base b = 0 := by
      rw [newLanes, List.countP_eq_zero]
      intro consumer hmem
      obtain ⟨lane, hget, -⟩ := (hreserved _ (isLaneOf_forConsumer.mpr hmem)).held
      rw [Option.isNone_iff_eq_none, pointer?_eq_none_iff h.valid, hget]
      simp
    rw [hnone]
    exact h.size

/-- In every run in which no start is accepted while an earlier stop of the
same client is left on its lanes, the stop that matches an accepted start is
accepted. -/
theorem start_reserves_stop (hooks : EventType → List HookRegistration)
    (results : ℕ → HandlerResult) {actions : List (ThreadAction EmitCall)} {m : BusSystem}
    (hclean : StepsMeet (StartsAfterStop hooks) (BusSystem.step hooks results)
      BusSystem.initial actions)
    (hrun : runFrom (BusSystem.step hooks results) BusSystem.initial actions = some m)
    {base : LaneKey} {start stop : EventType} {ctx : Option EventContext}
    (hlast : lastLifecycle m.state.lifecycle base = some start)
    (hstop : terminalEvent start = some stop) (hkey : eventLifecycleKey stop ctx = some base) :
    (EventBus.emitAsync hooks stop ctx m.state).1 = none := by
  obtain ⟨h, hinv⟩ := reservationInv_runFrom hclean hrun
  refine emitAsync_accepted_of_hasRoom hkey ?_
  exact hasRoom_of_reserved h hstop (hinv.reserved base start stop hlast hstop)

/-! ## A start on top of a stop -/

/-- One consumer, which only listens to the stop of publishers. -/
def stopHooks : EventType → List HookRegistration
  | .publishStop => [⟨.publishStop, .async, 0, "audit", 0⟩]
  | _ => []

def publisherContext (publisherID : String) : EventContext :=
  { streamKey := "live/a", publisherID := publisherID }

def publisherKey (publisherID : String) : LaneKey :=
  ⟨"live/a", publisherID, true, ""⟩

/-- The client starts, stops, and starts again after the stop was delivered
and its lane deleted. -/
def startAfterStop : List (ThreadAction EmitCall) :=
  [.call ⟨.publish, publisherContext "b"⟩, .run 0,
    .call ⟨.publishStop, publisherContext "b"⟩, .run 1,
    .run 2, .run 2, .run 2, .run 2, .run 2,
    .call ⟨.publish, publisherContext "b"⟩, .run 3]

theorem start_reserves_stop_again :
    ∃ m, runFrom (BusSystem.step stopHooks fun _ => .ok) BusSystem.initial startAfterStop = some m ∧
      lastLifecycle m.state.lifecycle (publisherKey "b") = some .publish ∧
        (EventBus.emitAsync stopHooks .publishStop (publisherContext "b") m.state).1 = none := by
  have hclean : StepsMeet (StartsAfterStop stopHooks) (step stopHooks fun _ => .ok) initial
        startAfterStop := by
    decide
  exact ⟨_, rfl, by decide, start_reserves_stop stopHooks _ hclean rfl rfl rfl rfl⟩

/-- The client starts again while its stop is still queued; then the stop is
delivered and the lane deleted. -/
def startOverStop : List (ThreadAction EmitCall) :=
  [.call ⟨.publish, publisherContext "b"⟩, .run 0,
    .call ⟨.publishStop, publisherContext "b"⟩, .run 1,
    .call ⟨.publish, publisherContext "b"⟩, .run 3,
    .run 2, .run 2, .run 2, .run 2, .run 2]

def otherClient (n : ℕ) : String := String.ofList (List.replicate (n + 1) 'a')

/-- `n` other clients hold lanes, and the client `b` has lost its own. -/
structure LostBehind (n : ℕ) (m : BusSystem) : Prop where
  reached : ∃ actions, runFrom (BusSystem.step stopHooks fun _ => .ok)
    BusSystem.initial actions = some m
  size : m.state.lifecycleLanes.size = n
  others : ∀ j, n ≤ j → m.state.lifecycleLanes.get?
    ((publisherKey (otherClient j)).forConsumer "audit") = none
  lost : m.state.lifecycleLanes.get? ((publisherKey "b").forConsumer "audit") = none
  started : lastLifecycle m.state.lifecycle (publisherKey "b") = some .publish

theorem otherClient_injective {i j : ℕ} (h : otherClient i = otherClient j) : i = j := by
  have hlength := congrArg List.length (String.ofList_injective h)
  simpa using hlength

theorem otherClient_ne_b (n : ℕ) : otherClient n ≠ "b" := by
  intro h
  have hchars : List.replicate (n + 1) 'a' = ['b'] := String.ofList_injective h
  simp [List.replicate_succ] at hchars

theorem otherClient_ne_empty (n : ℕ) : otherClient n ≠ "" := by
  intro h
  have hchars : List.replicate (n + 1) 'a' = [] := String.ofList_injective h
  simp at hchars

theorem lostBehind_zero : ∃ m, LostBehind 0 m := by
  obtain ⟨m, hrun, hentries, hlast⟩ :
      ∃ m, runFrom (step stopHooks fun _ => .ok) initial startOverStop = some m ∧
        m.state.lifecycleLanes.table.entries = [] ∧
          lastLifecycle m.state.lifecycle (publisherKey "b") = some .publish :=
    ⟨_, rfl, rfl, rfl⟩
  have hnone : ∀ k, m.state.lifecycleLanes.get? k = none := by
    intro k
    have hlookup : m.state.lifecycleLanes.pointer? k = none := by
      rw [pointer?, AList.lookup_eq_none, AList.mem_keys, AList.keys, hentries]
      simp
    simp [get?, hlookup]
  refine ⟨m, ⟨_, hrun⟩, ?_, fun _ _ => hnone _, hnone _, hlast⟩
  rw [size, hentries]
  rfl

theorem exists_emission (hooks : EventType → List HookRegistration)
    (results : ℕ → HandlerResult) (m : BusSystem) (c : EmitCall) :
    ∃ m', runFrom (step hooks results) m [.call c, .run m.threads.length] = some m' ∧
      m'.state = (EventBus.emitAsync hooks c.event c.ctx m.state).2.1 := by
  simp [runFrom, step, Threaded.step, EmitCall.tasks, EventBus.exec]

theorem isLaneOf_audit (hconsumers : laneConsumers stopHooks event = ["audit"]) :
    IsLaneOf base (laneConsumers stopHooks event) k ↔ k = base.forConsumer "audit" := by
  rw [hconsumers, isLaneOf_cons]
  simp [IsLaneOf]

theorem hasRoom_otherClient {n : ℕ} (hvalid : b.lifecycleLanes.Valid)
    (hsize : b.lifecycleLanes.size = n)
    (hnone : b.lifecycleLanes.get? (base.forConsumer "audit") = none) (hn : n < maxLifecycleLanes) :
    hasRoom stopHooks .publish base b = true ∧ newLanes stopHooks .publish base b = 1 := by
  have hconsumers : laneConsumers stopHooks .publish = ["audit"] := by decide
  have hnew : newLanes stopHooks .publish base b = 1 := by
    have hpointer := (pointer?_eq_none_iff hvalid).mpr hnone
    simp [newLanes, hconsumers, hpointer]
  refine ⟨?_, hnew⟩
  rw [hasRoom_iff, hnew, hsize]
  refine ⟨?_, hn⟩
  intro k hlane
  rw [isLaneOf_audit hconsumers] at hlane
  subst hlane
  rw [queueAt, hnone, forConsumer_consumer]
  decide

theorem lostBehind_succ {n : ℕ} (h : LostBehind n m) (hn : n < maxLifecycleLanes) :
    ∃ m', LostBehind (n + 1) m' := by
  obtain ⟨actions, hrun⟩ := h.reached
  have hvalid := (busInv_runFrom hrun).valid
  obtain ⟨hroom, hnew⟩ := hasRoom_otherClient hvalid h.size (h.others n le_rfl) hn
  have hkey : eventLifecycleKey .publish (publisherContext (otherClient n)) =
      some (publisherKey (otherClient n)) := by
    simp [eventLifecycleKey, publisherContext, publisherKey, otherClient_ne_empty]
  obtain ⟨m', hemit, hstate⟩ := exists_emission stopHooks (fun _ => .ok) m
    ⟨.publish, publisherContext (otherClient n)⟩
  simp only [EventBus.emitAsync, hkey] at hstate
  rw [enqueueLifecycle_of_hasRoom hroom] at hstate
  have hget := lanesAfter_get? stopHooks .publish
    (publisherKey (otherClient n)) (publisherContext (otherClient n)) hvalid
  have hlanes : m'.state.lifecycleLanes = EventBus.lanesAfter stopHooks .publish
      (publisherKey (otherClient n)) (publisherContext (otherClient n))
        m.state := by
    rw [hstate]
    rfl
  have hother : ∀ client, client ≠ otherClient n → m'.state.lifecycleLanes.get?
          ((publisherKey client).forConsumer "audit") =
        m.state.lifecycleLanes.get?
          ((publisherKey client).forConsumer "audit") := by
    intro client hclient
    rw [hlanes, hget, if_neg]
    rw [isLaneOf_audit (by decide)]
    intro heq
    exact hclient (congrArg LaneKey.clientID heq)
  refine ⟨m', ⟨_, runFrom_append_eq_some.mpr ⟨m, hrun, hemit⟩⟩, ?_, ?_, ?_, ?_⟩
  · rw [hlanes, EventBus.lanesAfter_size _ _ _ _ hvalid, hnew, h.size]
  · intro j hj
    have hne : otherClient j ≠ otherClient n := by
      intro heq
      have hij := otherClient_injective heq
      omega
    rw [hother _ hne]
    exact h.others j (by omega)
  · rw [hother _ (otherClient_ne_b n).symm]
    exact h.lost
  · have hlog : m'.state.lifecycle =
        m.state.lifecycle ++ [(.publish, publisherKey (otherClient n))] := by
      rw [hstate]
      rfl
    rw [hlog, lastLifecycle_append_of_ne]
    · exact h.started
    · intro heq
      exact otherClient_ne_b n (congrArg LaneKey.clientID heq)

theorem lostBehind_full : ∃ m, LostBehind maxLifecycleLanes m := by
  suffices h : ∀ n, n ≤ maxLifecycleLanes → ∃ m, LostBehind n m from h _ le_rfl
  intro n
  induction n with
  | zero => exact fun _ => lostBehind_zero
  | succ n ih =>
    intro hn
    obtain ⟨m, hm⟩ := ih (Nat.le_of_succ_le hn)
    exact lostBehind_succ hm hn

/-- The lane of the client is gone, others fill the table, and the stop that
matches the accepted start is refused. -/
theorem started_client_cannot_stop :
    ¬ ∀ (hooks : EventType → List HookRegistration) (results : ℕ → HandlerResult)
      (actions : List (ThreadAction EmitCall)) (m : BusSystem),
      runFrom (BusSystem.step hooks results) BusSystem.initial actions = some m →
      ∀ base start stop ctx, lastLifecycle m.state.lifecycle base = some start →
      terminalEvent start = some stop → eventLifecycleKey stop ctx = some base →
      (EventBus.emitAsync hooks stop ctx m.state).1 = none := by
  intro hall
  obtain ⟨m, hm⟩ := lostBehind_full
  obtain ⟨actions, hrun⟩ := hm.reached
  have hvalid := (busInv_runFrom hrun).valid
  have haccepted := hall stopHooks (fun _ => .ok) actions m hrun
    (publisherKey "b") .publish .publishStop (publisherContext "b") hm.started
    rfl rfl
  have hfull : hasRoom stopHooks .publishStop (publisherKey "b") m.state = false := by
    have hpointer := (pointer?_eq_none_iff hvalid).mpr hm.lost
    have hconsumers : laneConsumers stopHooks .publishStop = ["audit"] := by
      decide
    simp [hasRoom, newLanes, hconsumers, hpointer, hm.size]
  have hasync : asyncHooks (stopHooks .publishStop) ≠ [] := by decide
  have hkey : eventLifecycleKey .publishStop (publisherContext "b") = some (publisherKey "b") := rfl
  simp [EventBus.emitAsync, hkey, hasync, EventBus.enqueueLifecycle, hfull] at haccepted

end LiveForge.Core
