import LiveForge.Events.Bus

/-!
# Lanes, key by key

Opening lanes and appending dispatches go over several consumers at once.
Seen from one key the effect is simple: its lane is opened if the consumer is
among those of the event, and the dispatches of its consumer are appended.
-/

namespace LiveForge.Core

open Support PointerTable

/-! ## Reading the table -/

def runningAt (lanes : Lanes) (key : LaneKey) : Bool :=
  (lanes.get? key).any Lane.running

def queueAt (lanes : Lanes) (key : LaneKey) : List Dispatch :=
  (lanes.get? key).elim [] Lane.queue

theorem queueLength_eq (lanes : Lanes) (key : LaneKey) :
    queueLength lanes key = (queueAt lanes key).length := by
  unfold queueLength queueAt
  cases lanes.get? key <;> rfl

variable {lanes lanes' : Lanes} {key k base : LaneKey} {γ : Type*} {consumers : List String}
  {consumer : String} {lane : Lane}

theorem runningAt_of_get? (h : lanes.get? key = some lane) :
    runningAt lanes key = lane.running := by
  simp [runningAt, h]

theorem queueAt_of_get? (h : lanes.get? key = some lane) : queueAt lanes key = lane.queue := by
  simp [queueAt, h]

theorem runningAt_congr (h : lanes'.get? key = lanes.get? key) :
    runningAt lanes' key = runningAt lanes key := by
  rw [runningAt, h, runningAt]

theorem queueAt_congr (h : lanes'.get? key = lanes.get? key) :
    queueAt lanes' key = queueAt lanes key := by
  rw [queueAt, h, queueAt]

@[simp] theorem forConsumer_consumer (base : LaneKey) (consumer : String) :
    (base.forConsumer consumer).consumer = consumer := rfl

/-! ## Opening a lane -/

/-- The lane of a consumer after it was opened. -/
def LaneDemand.openedLane (d : LaneDemand) : Option Lane → Lane
  | none => d.newLane
  | some lane => d.reopen lane

section OpenLane

variable {demand : LaneDemand}

theorem openLane_valid (h : lanes.Valid) (key : LaneKey) (demand : LaneDemand) :
    (openLane key demand lanes).1.Valid := by
  unfold openLane
  split
  · exact h.insertNew _ _
  · exact h.modify _ _

theorem openLane_get? (h : lanes.Valid) (key : LaneKey) (demand : LaneDemand) (k : LaneKey) :
    (openLane key demand lanes).1.get? k =
      if k = key then some (demand.openedLane (lanes.get? key)) else lanes.get? k := by
  unfold openLane
  split
  next hnone =>
    rw [get?_insertNew h, (pointer?_eq_none_iff h).mp hnone]
    rfl
  next p hp =>
    obtain ⟨lane, -, hlane⟩ := h.get?_isSome hp
    rw [get?_modify h hp, hlane]
    rfl

theorem openLane_pointer? (key : LaneKey) (demand : LaneDemand) {p : ℕ}
    (hp : lanes.pointer? k = some p) :
    (openLane key demand lanes).1.pointer? k = some p := by
  unfold openLane
  split
  next hnone =>
    rw [pointer?_insertNew]
    split
    next heq =>
      rw [heq, hnone] at hp
      simp at hp
    · exact hp
  · exact hp

theorem openLane_size (key : LaneKey) (demand : LaneDemand) :
    (openLane key demand lanes).1.size =
      lanes.size + if (lanes.pointer? key).isNone then 1 else 0 := by
  unfold openLane
  split
  next hnone => rw [size_insertNew hnone, hnone]; rfl
  next p hp => rw [hp]; rfl

theorem openLane_start (h : lanes.Valid) (key : LaneKey) (demand : LaneDemand) :
    (openLane key demand lanes).2 =
      if 0 < demand.count ∧ runningAt lanes key = false then
        (openLane key demand lanes).1.pointer? key
      else none := by
  unfold openLane
  split
  next hnone =>
    have hget := (pointer?_eq_none_iff h).mp hnone
    have hidle : runningAt lanes key = false := by simp [runningAt, hget]
    simp [hidle, pointer?_insertNew]
  next p hp =>
    obtain ⟨lane, hcell, hlane⟩ := h.get?_isSome hp
    rw [runningAt_of_get? hlane]
    simp [hcell, hp]

end OpenLane

/-! ## Opening the lanes of an event -/

def IsLaneOf (base : LaneKey) (consumers : List String) (k : LaneKey) : Prop :=
  k = base.forConsumer k.consumer ∧ k.consumer ∈ consumers

instance (base : LaneKey) (consumers : List String) (k : LaneKey) :
    Decidable (IsLaneOf base consumers k) :=
  inferInstanceAs (Decidable (_ ∧ _))

theorem isLaneOf_forConsumer :
    IsLaneOf base consumers (base.forConsumer consumer) ↔ consumer ∈ consumers := by
  simp [IsLaneOf]

theorem isLaneOf_cons :
    IsLaneOf base (consumer :: consumers) k ↔
      k = base.forConsumer consumer ∨ IsLaneOf base consumers k := by
  constructor
  · rintro ⟨hkey, hmem⟩
    rcases List.mem_cons.mp hmem with hfirst | hrest
    · exact .inl (hfirst ▸ hkey)
    · exact .inr ⟨hkey, hrest⟩
  · rintro (hkey | ⟨hkey, hmem⟩)
    · subst hkey
      exact isLaneOf_forConsumer.mpr List.mem_cons_self
    · exact ⟨hkey, List.mem_cons_of_mem _ hmem⟩

/-- The lane a task of a lane goroutine works on. -/
def BusTask.worker? : BusTask → Option (LaneKey × ℕ)
  | .laneTop key p => some (key, p)
  | .runHook key p _ => some (key, p)
  | .completeAsync key p _ => some (key, p)
  | .markTerminal key p => some (key, p)
  | _ => none

def BusTask.worksOn (key : LaneKey) (task : BusTask) : Bool :=
  task.worker?.any fun worker => worker.1 == key

section OpenLanes

variable {demand : String → LaneDemand}

theorem openLanes_valid (h : lanes.Valid) : (openLanes base demand consumers lanes).1.Valid := by
  induction consumers generalizing lanes with
  | nil => exact h
  | cons consumer consumers ih => exact ih (openLane_valid h _ _)

theorem openLanes_get? (h : lanes.Valid) (hnodup : consumers.Nodup) (k : LaneKey) :
    (openLanes base demand consumers lanes).1.get? k =
      if IsLaneOf base consumers k then some ((demand k.consumer).openedLane (lanes.get? k))
      else lanes.get? k := by
  induction consumers generalizing lanes with
  | nil => simp [openLanes, IsLaneOf]
  | cons consumer consumers ih =>
    obtain ⟨hnew, hrest⟩ := List.nodup_cons.mp hnodup
    simp only [openLanes]
    rw [ih (openLane_valid h _ _) hrest, openLane_get? h]
    by_cases hfirst : k = base.forConsumer consumer
    · subst hfirst
      have hnot : ¬ IsLaneOf base consumers (base.forConsumer consumer) := by
        rw [isLaneOf_forConsumer]
        exact hnew
      simp [hnot, isLaneOf_forConsumer]
    · simp [hfirst, isLaneOf_cons]

theorem openLanes_pointer? {p : ℕ} (hp : lanes.pointer? k = some p) :
    (openLanes base demand consumers lanes).1.pointer? k = some p := by
  induction consumers generalizing lanes with
  | nil => exact hp
  | cons consumer consumers ih => exact ih (openLane_pointer? _ _ hp)

theorem openLanes_size (h : lanes.Valid) (hnodup : consumers.Nodup) :
    (openLanes base demand consumers lanes).1.size = lanes.size + consumers.countP fun consumer =>
        (lanes.pointer? (base.forConsumer consumer)).isNone := by
  induction consumers generalizing lanes with
  | nil => rfl
  | cons consumer consumers ih =>
    obtain ⟨hnew, hrest⟩ := List.nodup_cons.mp hnodup
    have hvalid := openLane_valid h (base.forConsumer consumer) (demand consumer)
    have hsame : (consumers.countP fun c =>
        ((openLane (base.forConsumer consumer) (demand consumer)
          lanes).1.pointer? (base.forConsumer c)).isNone) =
        consumers.countP fun c =>
          (lanes.pointer? (base.forConsumer c)).isNone := by
      refine List.countP_congr ?_
      intro c hc
      have hne : base.forConsumer c ≠ base.forConsumer consumer := by
        intro heq
        have hsame : c = consumer := congrArg LaneKey.consumer heq
        exact hnew (hsame ▸ hc)
      simp only [Option.isNone_iff_eq_none]
      rw [pointer?_eq_none_iff hvalid, openLane_get? h, if_neg hne, pointer?_eq_none_iff h]
    simp only [openLanes]
    rw [ih hvalid hrest, openLane_size, List.countP_cons]
    omega

/-- Every goroutine that is started is at the top of the lane its key stands
for. -/
theorem openLanes_started {task : BusTask} (h : lanes.Valid)
    (hmem : task ∈ (openLanes base demand consumers lanes).2.flatten) :
    ∃ key p, task = .laneTop key p ∧
      (openLanes base demand consumers lanes).1.pointer? key = some p := by
  induction consumers generalizing lanes with
  | nil => simp [openLanes] at hmem
  | cons consumer consumers ih =>
    simp only [openLanes] at hmem ⊢
    have hvalid := openLane_valid h (base.forConsumer consumer) (demand consumer)
    cases hstart : (openLane (base.forConsumer consumer) (demand consumer) lanes).2 with
    | none =>
      rw [hstart] at hmem
      exact ih hvalid hmem
    | some p =>
      rw [hstart, List.flatten_cons] at hmem
      rcases List.mem_cons.mp hmem with hfirst | hrest
      · have hpointer := openLane_start h (base.forConsumer consumer) (demand consumer)
        rw [hstart] at hpointer
        split_ifs at hpointer
        exact ⟨_, p, hfirst, openLanes_pointer? hpointer.symm⟩
      · exact ih hvalid hrest

theorem openLanes_started_length :
    (openLanes base demand consumers lanes).2.flatten.length ≤ consumers.length := by
  induction consumers generalizing lanes with
  | nil => simp [openLanes]
  | cons consumer consumers ih =>
    have hrest := @ih (openLane (base.forConsumer consumer) (demand consumer) lanes).1
    simp only [openLanes, List.length_cons]
    split
    · omega
    · rw [List.flatten_cons, List.length_append, List.length_singleton]
      omega

/-- From the side of one key: a goroutine is started exactly when the lane is
among those opened, gets work and has no goroutine. -/
theorem openLanes_started_count (h : lanes.Valid) (hnodup : consumers.Nodup) (k : LaneKey) :
    (openLanes base demand consumers lanes).2.flatten.countP (BusTask.worksOn k) =
      if IsLaneOf base consumers k ∧ 0 < (demand k.consumer).count ∧ runningAt lanes k = false then
        1
      else 0 := by
  induction consumers generalizing lanes with
  | nil => simp [openLanes, IsLaneOf]
  | cons consumer consumers ih =>
    obtain ⟨hnew, hrest⟩ := List.nodup_cons.mp hnodup
    have hvalid := openLane_valid h (base.forConsumer consumer) (demand consumer)
    have hih := ih hvalid hrest
    have hstart := openLane_start h (base.forConsumer consumer) (demand consumer)
    have hpointer : ∃ p, (openLane (base.forConsumer consumer)
        (demand consumer) lanes).1.pointer? (base.forConsumer consumer) =
          some p := by
      rw [← Option.isSome_iff_exists, Option.isSome_iff_ne_none, Ne,
        pointer?_eq_none_iff hvalid, openLane_get? h]
      simp
    obtain ⟨p, hp⟩ := hpointer
    rw [hp] at hstart
    simp only [openLanes]
    by_cases hfirst : k = base.forConsumer consumer
    · subst hfirst
      have hnot : ¬ IsLaneOf base consumers (base.forConsumer consumer) := by
        rw [isLaneOf_forConsumer]
        exact hnew
      have hin : IsLaneOf base (consumer :: consumers) (base.forConsumer consumer) :=
        isLaneOf_forConsumer.mpr List.mem_cons_self
      simp only [hnot, false_and, if_false] at hih
      by_cases hwork : 0 < (demand consumer).count ∧
          runningAt lanes (base.forConsumer consumer) = false
      · simp [hstart, hih, hin, hwork, BusTask.worksOn, BusTask.worker?]
      · rw [if_neg hwork] at hstart
        simp only [hstart, hih]
        rw [if_neg]
        rintro ⟨-, hcount, hidle⟩
        exact hwork ⟨hcount, hidle⟩
    · have hsame : runningAt (openLane (base.forConsumer consumer)
          (demand consumer) lanes).1 k = runningAt lanes k :=
        runningAt_congr (by rw [openLane_get? h, if_neg hfirst])
      have hne : (base.forConsumer consumer == k) = false := by
        simpa using fun heq => hfirst heq.symm
      rw [hsame] at hih
      cases hsecond : (openLane (base.forConsumer consumer) (demand consumer) lanes).2 with
      | none => simp [hih, isLaneOf_cons, hfirst]
      | some q =>
        simp [hih, isLaneOf_cons, hfirst, BusTask.worksOn, BusTask.worker?, hne]

end OpenLanes

/-! ## Appending dispatches -/

def entriesFor {γ : Type*} (key : LaneKey) (entries : List (LaneKey × γ)) : List γ :=
  (entries.filter fun entry => entry.1 == key).map Prod.snd

theorem entriesFor_append (key : LaneKey) (entries more : List (LaneKey × γ)) :
    entriesFor key (entries ++ more) = entriesFor key entries ++ entriesFor key more := by
  simp [entriesFor]

theorem entriesFor_singleton (key k : LaneKey) (x : γ) :
    entriesFor key [(k, x)] = if k = key then [x] else [] := by
  by_cases hk : k = key <;> simp [entriesFor, hk]

def Lane.append (more : List Dispatch) (lane : Lane) : Lane :=
  { lane with queue := lane.queue ++ more }

section Enqueue

theorem enqueue_valid (h : lanes.Valid) (key : LaneKey) (d : Dispatch) :
    (enqueue key d lanes).Valid := by
  unfold enqueue
  split
  · exact h
  · exact h.modify _ _

theorem map_append_nil (lane? : Option Lane) : lane?.map (Lane.append []) = lane? := by
  cases lane? <;> simp [Lane.append]

theorem enqueue_get? (h : lanes.Valid) (key : LaneKey) (d : Dispatch) (k : LaneKey) :
    (enqueue key d lanes).get? k = (lanes.get? k).map (Lane.append (entriesFor k [(key, d)])) := by
  rw [entriesFor_singleton]
  unfold enqueue
  split
  next hnone =>
    by_cases hk : key = k
    · subst hk
      rw [(pointer?_eq_none_iff h).mp hnone]
      rfl
    · rw [if_neg hk, map_append_nil]
  next p hp =>
    rw [get?_modify h hp]
    by_cases hk : k = key
    · subst hk
      simp only [if_true]
      rfl
    · rw [if_neg hk, if_neg fun heq => hk heq.symm, map_append_nil]

theorem enqueue_pointer? (key : LaneKey) (d : Dispatch) (k : LaneKey) :
    (enqueue key d lanes).pointer? k = lanes.pointer? k := by
  unfold enqueue
  split <;> rfl

theorem enqueue_size (key : LaneKey) (d : Dispatch) : (enqueue key d lanes).size = lanes.size := by
  unfold enqueue
  split <;> rfl

theorem enqueueAll_frame (h : lanes.Valid) (entries : List (LaneKey × Dispatch)) :
    (enqueueAll entries lanes).Valid ∧ (enqueueAll entries lanes).size = lanes.size ∧
      ∀ k, (enqueueAll entries lanes).pointer? k = lanes.pointer? k := by
  induction entries generalizing lanes with
  | nil => exact ⟨h, rfl, fun _ => rfl⟩
  | cons entry entries ih =>
    obtain ⟨hvalid, hsize, hpointer⟩ := ih (enqueue_valid h entry.1 entry.2)
    refine ⟨hvalid, hsize.trans (enqueue_size _ _), ?_⟩
    intro k
    exact (hpointer k).trans (enqueue_pointer? _ _ k)

theorem enqueueAll_get? (h : lanes.Valid) (entries : List (LaneKey × Dispatch)) (k : LaneKey) :
    (enqueueAll entries lanes).get? k =
      (lanes.get? k).map (Lane.append (entriesFor k entries)) := by
  induction entries generalizing lanes with
  | nil => exact (map_append_nil _).symm
  | cons entry entries ih =>
    have hstep := ih (enqueue_valid h entry.1 entry.2)
    rw [enqueue_get? h] at hstep
    rw [show entry :: entries = [entry] ++ entries from rfl, entriesFor_append]
    refine hstep.trans ?_
    cases hlane : lanes.get? k with
    | none => rfl
    | some lane => simp [Lane.append]

end Enqueue

/-! ## All queues together -/

theorem count_entriesFor [DecidableEq γ] (key : LaneKey) (x : γ) (entries : List (LaneKey × γ)) :
    entries.count (key, x) = (entriesFor key entries).count x := by
  induction entries with
  | nil => rfl
  | cons entry entries ih =>
    rw [List.count_cons, ih, ← List.singleton_append, entriesFor_append,
      List.count_append, entriesFor_singleton, Nat.add_comm]
    by_cases hk : entry.1 = key
    · by_cases hx : entry.2 = x
      · simp [hk, hx, Prod.ext_iff]
      · simp [hk, hx, Prod.ext_iff]
    · simp [hk, Prod.ext_iff]

/-- Two logs that agree lane by lane hold the same entries. -/
theorem perm_of_entriesFor [DecidableEq γ] {entries entries' : List (LaneKey × γ)}
    (h : ∀ key, entriesFor key entries = entriesFor key entries') :
    entries.Perm entries' := by
  rw [List.perm_iff_count]
  rintro ⟨key, x⟩
  rw [count_entriesFor, count_entriesFor, h]

def queuedDispatches (lanes : Lanes) : List (LaneKey × Dispatch) :=
  lanes.table.keys.flatMap fun key =>
    (queueAt lanes key).map fun dispatch => (key, dispatch)

theorem entriesFor_flatMap (keys : List LaneKey) (hnodup : keys.Nodup)
    (queue : LaneKey → List Dispatch) (k : LaneKey) :
    entriesFor k (keys.flatMap fun key => (queue key).map fun dispatch => (key, dispatch)) =
      if k ∈ keys then queue k else [] := by
  induction keys with
  | nil => rfl
  | cons key keys ih =>
    obtain ⟨hnew, hrest⟩ := List.nodup_cons.mp hnodup
    rw [List.flatMap_cons, entriesFor_append, ih hrest]
    by_cases hk : key = k
    · subst hk
      simp [entriesFor, hnew, List.filter_map]
    · have hne : (key == k) = false := beq_false_of_ne hk
      have hmem : k ∈ key :: keys ↔ k ∈ keys :=
        List.mem_cons.trans (or_iff_right fun heq => hk heq.symm)
      simp [entriesFor, List.filter_map, hne, hmem]

theorem entriesFor_queuedDispatches (lanes : Lanes) (k : LaneKey) :
    entriesFor k (queuedDispatches lanes) = queueAt lanes k := by
  rw [queuedDispatches, entriesFor_flatMap _ (AList.keys_nodup _)]
  split
  · rfl
  next hnot =>
    have hnone : lanes.get? k = none := by
      have hpointer : lanes.pointer? k = none := AList.lookup_eq_none.mpr hnot
      simp [get?, hpointer]
    simp [queueAt, hnone]

end LiveForge.Core
