import LiveForge.Hub.Effect

/-!
# Streams that left the hub stay away

A stream never returns to the map, the stream in the map is the newest of its
key, and a stream whose destroy event was emitted has left.  This needs no
assumption on the run.
-/

namespace LiveForge.Core

open Support StreamHub

variable {h h' : StreamHub} {pending : Multiset HubTask} {more : List HubTask} {task : HubTask}

/-! ## The invariant -/

def StreamHub.Gone (h : StreamHub) (stream : ℕ) : Prop :=
  stream < h.instances.length ∧ ¬ h.InMap stream

theorem StreamHub.Gone.effect {stream : ℕ} (hgone : h.Gone stream)
    (heffect : HubEffect task h h' more) :
    h'.Gone stream := by
  obtain ⟨hlt, hout⟩ := hgone
  refine ⟨hlt.trans_le heffect.length_le, ?_⟩
  rintro ⟨key, hlookup⟩
  rcases heffect.lookup hlookup with hold | ⟨rfl, -⟩
  · exact hout ⟨key, hold⟩
  · exact lt_irrefl _ hlt

structure Rooted (h : StreamHub) (pending : Multiset HubTask) : Prop where
  keys : ∀ key i, h.streams.lookup key = some i →
    ∃ inst, h.instances[i]? = some inst ∧ inst.stream.key = key
  ids : ∀ (i : ℕ) (inst : Instance), h.instances[i]? = some inst → inst.stream.instanceID = i + 1
  newest : ∀ (i j : ℕ) (inst : Instance), h.instances[i]? = some inst →
    h.streams.lookup inst.stream.key = some j → i ≤ j
  departing : ∀ task ∈ pending, ∀ i, task.emits? = some i → h.Gone i
  departed : ∀ event ∈ h.emitted, ∀ id, event.destroyed? = some id → ∃ i, id = i + 1 ∧ h.Gone i

theorem rooted_initial (cfg : StreamConfig) (limits : LimitsConfig) :
    Rooted (newStreamHub cfg limits) 0 := by
  refine ⟨?_, ?_, ?_, ?_, ?_⟩ <;> simp [newStreamHub]

namespace Rooted

theorem departing_of_effect (hroot : Rooted h pending) (heffect : HubEffect task h h' more) :
    ∀ t ∈ more, ∀ i, t.emits? = some i → h'.Gone i := by
  intro t ht i hi
  cases heffect with
  | keep _ _ _ hquiet => simp [hquiet t ht] at hi
  | forget key stream hmapped hinstances hstreams _ hreports =>
    obtain rfl := hreports t ht i hi
    obtain ⟨inst, hget, rfl⟩ := hroot.keys key i hmapped
    refine ⟨hinstances ▸ (List.getElem?_eq_some_iff.mp hget).1, ?_⟩
    rintro ⟨other, hlookup⟩
    obtain ⟨hne, hold⟩ := lookup_of_erase (hstreams ▸ hlookup)
    obtain ⟨inst', hget', rfl⟩ := hroot.keys other i hold
    obtain rfl := Option.mem_unique hget hget'
    exact hne rfl
  | create key _ _ hinstances hstreams _ hreports =>
    have hmapped := hreports t ht i hi
    obtain ⟨inst, hget, rfl⟩ := hroot.keys key i hmapped
    have hlt := (List.getElem?_eq_some_iff.mp hget).1
    refine ⟨by simp [hinstances]; omega, ?_⟩
    rintro ⟨other, hlookup⟩
    rw [hstreams] at hlookup
    split at hlookup
    · cases hlookup
      exact lt_irrefl _ hlt
    next hne =>
      obtain ⟨inst', hget', rfl⟩ := hroot.keys other i hlookup
      obtain rfl := Option.mem_unique hget hget'
      exact hne rfl
  | report _ _ _ _ _ _ _ _ hdone | announce _ _ _ _ hdone => simp [hdone] at ht

theorem emitted_of_effect (hroot : Rooted h (task ::ₘ pending))
    (heffect : HubEffect task h h' more) :
    ∀ event ∈ h'.emitted, ∀ id, event.destroyed? = some id → ∃ i, id = i + 1 ∧ h.Gone i := by
  cases heffect with
  | keep _ _ hemitted | forget _ _ _ _ _ hemitted | create _ _ _ _ _ hemitted =>
    exact hemitted ▸ hroot.departed
  | report key stream inst hcalled hget _ _ hemitted =>
    intro event hevent id hid
    rw [hemitted, List.mem_append, List.mem_singleton] at hevent
    rcases hevent with hold | rfl
    · exact hroot.departed event hold id hid
    · obtain rfl : inst.stream.instanceID = id := by
        simpa [destroyEvent, HubEvent.destroyed?] using hid
      exact ⟨stream, hroot.ids stream inst hget,
        hroot.departing task (Multiset.mem_cons_self _ _) stream (by rw [hcalled]; rfl)⟩
  | announce key _ _ hemitted =>
    intro event hevent id hid
    rw [hemitted, List.mem_append, List.mem_singleton] at hevent
    rcases hevent with hold | rfl
    · exact hroot.departed event hold id hid
    · simp [HubEvent.destroyed?] at hid

theorem effect (hroot : Rooted h (task ::ₘ pending)) (heffect : HubEffect task h h' more) :
    Rooted h' (↑more + pending) where
  keys := by
    intro key i hlookup
    rcases heffect.lookup hlookup with hold | ⟨-, hnew⟩
    · obtain ⟨inst, hget, hkey⟩ := hroot.keys key i hold
      obtain ⟨inst', hget', hmove⟩ := heffect.moved hget
      exact ⟨inst', hget', hmove.key.trans hkey⟩
    · exact hnew
  ids := by
    intro i inst' hget
    rcases heffect.origin hget with ⟨inst, hold, hmove⟩ | ⟨-, hid, -⟩
    · exact hmove.instanceID.trans (hroot.ids i inst hold)
    · exact hid
  newest := by
    intro i j inst' hget hlookup
    rcases heffect.origin hget with ⟨inst, hold, hmove⟩ | ⟨-, -, hmapped⟩
    · rcases heffect.lookup hlookup with hbefore | ⟨rfl, -⟩
      · exact hroot.newest i j inst hold (hmove.key ▸ hbefore)
      · exact (List.getElem?_eq_some_iff.mp hold).1.le
    · exact (Option.mem_unique hmapped hlookup).le
  departing := by
    intro t ht i hi
    rcases Multiset.mem_add.mp ht with hnew | hold
    · exact hroot.departing_of_effect heffect t (Multiset.mem_coe.mp hnew) i hi
    · exact (hroot.departing t (Multiset.mem_cons_of_mem hold) i hi).effect heffect
  departed := by
    intro event hevent id hid
    obtain ⟨i, hi, hgone⟩ := hroot.emitted_of_effect heffect event hevent id hid
    exact ⟨i, hi, hgone.effect heffect⟩

end Rooted

/-! ## Streams by instance ID -/

namespace StreamHub

/-- The stream with an instance ID; the IDs count from one. -/
def withID (h : StreamHub) : ℕ → Option Instance
  | 0 => none
  | i + 1 => h.instances[i]?

def findID (h : StreamHub) (key : String) : Option ℕ :=
  (h.streams.lookup key).bind fun i =>
    h.instances[i]?.map fun inst => inst.stream.instanceID

end StreamHub

namespace Rooted

variable {id : ℕ} {inst : Instance}

theorem instanceID_of_withID (hroot : Rooted h pending) (hget : h.withID id = some inst) :
    inst.stream.instanceID = id := by
  cases id with
  | zero => cases hget
  | succ i => exact hroot.ids i inst hget

theorem findID_eq_some (hroot : Rooted h pending) {key : String} :
    h.findID key = some id ↔ ∃ i, id = i + 1 ∧ h.streams.lookup key = some i := by
  constructor
  · intro hfind
    obtain ⟨i, hlookup, hmap⟩ := Option.bind_eq_some_iff.mp hfind
    obtain ⟨inst, hget, rfl⟩ := Option.map_eq_some_iff.mp hmap
    exact ⟨i, hroot.ids i inst hget, hlookup⟩
  · rintro ⟨i, rfl, hlookup⟩
    obtain ⟨inst, hget, -⟩ := hroot.keys key i hlookup
    simp [findID, hlookup, hget, hroot.ids i inst hget]

/-- The stream of the map is the newest one with its key. -/
theorem le_of_findID (hroot : Rooted h pending) {current : ℕ} (hget : h.withID id = some inst)
    (hfind : h.findID inst.stream.key = some current) :
    id ≤ current := by
  obtain ⟨j, rfl, hlookup⟩ := hroot.findID_eq_some.mp hfind
  cases id with
  | zero => exact Nat.zero_le _
  | succ i => exact Nat.succ_le_succ (hroot.newest i j inst hget hlookup)

theorem findID_ne_of_destroyed (hroot : Rooted h pending) {event : HubEvent}
    (hevent : event ∈ h.emitted) (hid : event.destroyed? = some id) (key : String) :
    h.findID key ≠ some id := by
  intro hfind
  obtain ⟨i, rfl, -, hout⟩ := hroot.departed event hevent id hid
  obtain ⟨j, hj, hlookup⟩ := hroot.findID_eq_some.mp hfind
  obtain rfl := Nat.succ.inj hj
  exact hout ⟨key, hlookup⟩

end Rooted

/-- Streams move, and only a new one enters the map. -/
structure HubMove (h h' : StreamHub) : Prop where
  moved : ∀ id inst, h.withID id = some inst →
    ∃ inst', h'.withID id = some inst' ∧ StreamMove inst.stream inst'.stream
  found : ∀ key id, h'.findID key = some id → h.findID key = some id ∨ h.withID id = none

theorem HubMove.refl (h : StreamHub) : HubMove h h :=
  ⟨fun _ inst hget => ⟨inst, hget, .refl _⟩, fun _ _ hfind => .inl hfind⟩

theorem HubMove.of_effect (hroot : Rooted h (task ::ₘ pending))
    (heffect : HubEffect task h h' more) :
    HubMove h h' where
  moved := by
    intro id inst hget
    cases id with
    | zero => cases hget
    | succ i => exact heffect.moved hget
  found := by
    intro key id hfind
    obtain ⟨i, rfl, hlookup⟩ := (hroot.effect heffect).findID_eq_some.mp hfind
    rcases heffect.lookup hlookup with hold | ⟨rfl, -⟩
    · exact .inl (hroot.findID_eq_some.mpr ⟨i, rfl, hold⟩)
    · exact .inr (List.getElem?_eq_none le_rfl)

theorem Rooted.step {m m' : HubSystem} {a : ThreadAction HubCall}
    (hroot : Rooted m.state m.pending) (hstep : HubSystem.step m a = some m') :
    Rooted m'.state m'.pending ∧ HubMove m.state m'.state := by
  rcases Threaded.step_cases hstep with ⟨c, -, hstate, hpending⟩ |
      ⟨n, task, outcome, others, -, -, hexec, hstate, hbefore, hafter⟩
  · rw [hstate, hpending]
    refine ⟨{ hroot with departing := ?_ }, .refl _⟩
    intro task htask i hi
    rcases Multiset.mem_add.mp htask with hnew | hold
    · simp [c.tasks_emits task (Multiset.mem_coe.mp hnew)] at hi
    · exact hroot.departing task hold i hi
  · obtain ⟨result, hresult, rfl⟩ := Option.map_eq_some_iff.mp hexec
    have heffect := (TaskEffect.of_exec hresult).effect
    rw [hbefore] at hroot
    rw [hstate, hafter]
    simp only [List.flatten_nil, List.append_nil]
    exact ⟨hroot.effect heffect, .of_effect hroot heffect⟩

end LiveForge.Core
