import LiveForge.Support.Run
import Mathlib.Data.Int.Notation
import Mathlib.Logic.Function.Basic

/-!
# Shared muxers

`MuxerManager` of `core/muxer_manager.go`: the subscribers of a format share
one muxer instance while the publisher generation it was made for is active.
Instances are objects, and the map says which one a format stands for; an
instance that has left the map may still have subscribers.
-/

namespace LiveForge.Core

open Support

/-- Beside the fields of the source: the format the instance was made for, how
often `Done` was closed and how often a start callback ran. -/
structure MuxerInstance where
  generation : ℕ
  subCount : ℤ
  doneOnce : Bool := false
  format : String
  doneCloses : ℕ := 0
  starts : ℕ

@[grind] def MuxerInstance.close (inst : MuxerInstance) : MuxerInstance :=
  if inst.doneOnce then inst
  else { inst with doneOnce := true, doneCloses := inst.doneCloses + 1 }

/-- The instances are numbered in the order in which they were made. -/
structure MuxerManager where
  muxers : String → Option ℕ
  made : ℕ
  instances : ℕ → MuxerInstance

namespace MuxerManager

variable (onStart : String → Bool) (mm : MuxerManager) (format : String)

def newMuxerManager : MuxerManager where
  muxers := fun _ => none
  made := 0
  instances := fun _ => { generation := 0, subCount := 0, format := "", starts := 0 }

def store (p : ℕ) (inst : MuxerInstance) : MuxerManager :=
  { mm with instances := Function.update mm.instances p inst }

def assign (p : Option ℕ) : MuxerManager :=
  { mm with muxers := Function.update mm.muxers format p }

/-- A new instance with its first subscriber.  `onStart` says for which formats
a callback is registered. -/
def create (generation : ℕ) : Option ℕ × MuxerManager :=
  let inst : MuxerInstance :=
    { generation, subCount := 1, format, starts := (onStart format).toNat }
  (some mm.made, { (mm.store mm.made inst).assign format (some mm.made) with
    made := mm.made + 1 })

/-- The instance for a subscriber, or nil.  `active` is the answer of
`activePublisherGeneration`. -/
def getOrCreateMuxerLocked (active : Option ℕ) : Option ℕ × MuxerManager :=
  match mm.muxers format, active with
  | none, none => (none, mm)
  | some p, none =>
    (none, (mm.store p (mm.instances p).close).assign format none)
  | none, some generation => mm.create onStart format generation
  | some p, some generation =>
    let inst := mm.instances p
    if inst.generation = generation then
      (some p, mm.store p { inst with subCount := inst.subCount + 1 })
    else (mm.store p inst.close).create onStart format generation

def getOrCreateMuxer (active : Option ℕ) : Option ℕ × MuxerManager :=
  mm.getOrCreateMuxerLocked onStart format active

def getOrCreateMuxerForGeneration (generation : ℕ) (active : Option ℕ) :
    Option ℕ × MuxerManager :=
  if active ≠ some generation then (none, mm)
  else mm.getOrCreateMuxerLocked onStart format (some generation)

def releaseMuxer (p : ℕ) : MuxerManager :=
  let inst := mm.instances p
  if inst.subCount ≤ 0 then mm
  else
    let inst := { inst with subCount := inst.subCount - 1 }
    if inst.subCount ≤ 0 then
      if mm.muxers format = some p then
        (mm.store p inst.close).assign format none
      else mm.store p inst.close
    else mm.store p inst

end MuxerManager

/-! ## Acquisitions -/

/-- `held` are the acquisitions that are not released yet. -/
structure MuxerSystem where
  mm : MuxerManager
  held : List (String × ℕ)

/-- A call that asks the stream comes with its answer. -/
inductive MuxerAction where
  | getOrCreateMuxer (format : String) (active : Option ℕ)
  | getOrCreateMuxerForGeneration (format : String) (generation : ℕ)
      (active : Option ℕ)
  | releaseMuxer (format : String) (p : ℕ)

namespace MuxerSystem

def initial : MuxerSystem := ⟨.newMuxerManager, []⟩

variable (onStart : String → Bool) (s : MuxerSystem)

def acquired (format : String) (r : Option ℕ × MuxerManager) : MuxerSystem where
  mm := r.2
  held := s.held ++ r.1.toList.map fun p => (format, p)

def step : MuxerAction → Option MuxerSystem
  | .getOrCreateMuxer format active =>
    some (s.acquired format (s.mm.getOrCreateMuxer onStart format active))
  | .getOrCreateMuxerForGeneration format generation active =>
    some (s.acquired format (s.mm.getOrCreateMuxerForGeneration onStart format generation active))
  | .releaseMuxer format p =>
    if (format, p) ∈ s.held then
      some ⟨s.mm.releaseMuxer format p, s.held.erase (format, p)⟩
    else none

end MuxerSystem

def holders (held : List (String × ℕ)) (p : ℕ) : ℕ :=
  held.countP fun a => a.2 = p

variable {p : ℕ} {held : List (String × ℕ)} {k : String}

section Holders

@[grind =] theorem holders_append (q : ℕ) :
    holders (held ++ [(k, p)]) q = holders held q + if p = q then 1 else 0 := by
  simp [holders]

theorem holders_erase (h : (k, p) ∈ held) (q : ℕ) :
    holders held q = holders (held.erase (k, p)) q + if p = q then 1 else 0 := by
  rw [holders, (List.perm_cons_erase h).countP_eq, List.countP_cons]
  simp [holders]

end Holders

/-! ## The invariant -/

/-- An instance counts its acquisitions, was started once if its format has a
callback, and is open exactly as long as its format stands for it. -/
structure Sharing (onStart : String → Bool) (mm : MuxerManager)
    (held : List (String × ℕ)) : Prop where
  counted : ∀ p < mm.made, (mm.instances p).subCount = holders held p
  started : ∀ p < mm.made, (mm.instances p).starts = (onStart (mm.instances p).format).toNat
  once : ∀ p < mm.made, (mm.instances p).doneCloses = (mm.instances p).doneOnce.toNat
  closed : ∀ p < mm.made, ((mm.instances p).doneOnce = true ↔
    mm.muxers (mm.instances p).format ≠ some p)
  mapped : ∀ k p, mm.muxers k = some p →
    p < mm.made ∧ (mm.instances p).format = k ∧ 0 < holders held p
  known : ∀ a ∈ held, a.2 < mm.made ∧ (mm.instances a.2).format = a.1

variable {onStart : String → Bool}

namespace Sharing

variable {mm : MuxerManager}

theorem initial : Sharing onStart .newMuxerManager [] := by
  constructor <;> simp [MuxerManager.newMuxerManager]

section Sharing

variable (h : Sharing onStart mm held)

include h

theorem subscribe (hp : mm.muxers k = some p) :
    Sharing onStart (mm.store p { mm.instances p with
      subCount := (mm.instances p).subCount + 1 }) (held ++ [(k, p)]) := by
  obtain ⟨hcounted, hstarted, honce, hclosed, hmapped, hknown⟩ := h
  constructor <;> simp only [MuxerManager.store] <;> grind

theorem retire (hp : mm.muxers k = some p) :
    Sharing onStart ((mm.store p (mm.instances p).close).assign k none) held := by
  obtain ⟨hcounted, hstarted, honce, hclosed, hmapped, hknown⟩ := h
  constructor <;> simp only [MuxerManager.store, MuxerManager.assign] <;> grind

theorem create (hp : mm.muxers k = none) (generation : ℕ) :
    Sharing onStart (mm.create onStart k generation).2 (held ++ [(k, mm.made)]) := by
  obtain ⟨hcounted, hstarted, honce, hclosed, hmapped, hknown⟩ := h
  have hfresh : holders held mm.made = 0 := by
    simpa [holders] using fun a ha => Nat.ne_of_lt (hknown a ha).1
  constructor <;> simp only [MuxerManager.create, MuxerManager.store, MuxerManager.assign] <;> grind

theorem locked (k : String) (active : Option ℕ) :
    Sharing onStart (mm.getOrCreateMuxerLocked onStart k active).2 (held ++
      (mm.getOrCreateMuxerLocked onStart k active).1.toList.map fun p => (k, p)) := by
  unfold MuxerManager.getOrCreateMuxerLocked
  split
  · simpa using h
  next p hp => simpa using h.retire hp
  next generation hnone => exact h.create hnone generation
  next p generation hp =>
    dsimp only
    split
    · exact h.subscribe hp
    · have hgone : ((mm.store p (mm.instances p).close).assign k none).muxers k =
          none := by
        simp [MuxerManager.assign]
      simpa [MuxerManager.create, MuxerManager.assign, MuxerManager.store]
        using (h.retire hp).create hgone generation

theorem release (hheld : (k, p) ∈ held) :
    Sharing onStart (mm.releaseMuxer k p) (held.erase (k, p)) := by
  have hholders := holders_erase hheld
  obtain ⟨hcounted, hstarted, honce, hclosed, hmapped, hknown⟩ := h
  dsimp only [MuxerManager.releaseMuxer]
  split
  next hzero => grind
  · split
    next hlast =>
      split
      next hcurrent =>
        constructor <;> simp only [MuxerManager.store, MuxerManager.assign,
          Function.update_apply] <;> grind
      next hcurrent =>
        constructor <;>
          simp only [MuxerManager.store, Function.update_apply] <;> grind
    next hmore =>
      constructor <;>
        simp only [MuxerManager.store, Function.update_apply] <;> grind

end Sharing

end Sharing

/-! ## Runs -/

namespace MuxerSystem

variable {s s' : MuxerSystem} {a : MuxerAction} {format : String}

theorem sharing_step (h : Sharing onStart s.mm s.held) (hstep : s.step onStart a = some s') :
    Sharing onStart s'.mm s'.held := by
  cases a with
  | getOrCreateMuxer format active =>
    cases hstep
    exact h.locked format active
  | getOrCreateMuxerForGeneration format generation active =>
    cases hstep
    unfold MuxerManager.getOrCreateMuxerForGeneration
    split
    · simpa [acquired] using h
    · exact h.locked format _
  | releaseMuxer format p =>
    obtain ⟨hheld, hmoved⟩ := Option.ite_none_right_eq_some.mp hstep
    cases hmoved
    exact h.release hheld

/-- What closes an instance: its last acquisition is released, or a call for
its format finds no generation active or makes an instance for another. -/
def Closes (s : MuxerSystem) (p : ℕ) : MuxerAction → Prop
  | .getOrCreateMuxer format active =>
    format = (s.mm.instances p).format ∧ active ≠ some (s.mm.instances p).generation
  | .getOrCreateMuxerForGeneration format generation active =>
    format = (s.mm.instances p).format ∧ active = some generation ∧
      generation ≠ (s.mm.instances p).generation
  | .releaseMuxer _ q => q = p ∧ holders s.held p = 1

theorem locked_closes (h : Sharing onStart s.mm s.held) (active : Option ℕ) (hp : p < s.mm.made)
    (hopen : (s.mm.instances p).doneOnce = false) :
    ((s.mm.getOrCreateMuxerLocked onStart format active).2.instances p).doneOnce = true ↔
      format = (s.mm.instances p).format ∧ active ≠ some (s.mm.instances p).generation := by
  have hclosed := h.closed p hp
  have hmapped := h.mapped format
  unfold MuxerManager.getOrCreateMuxerLocked
  split
  · grind
  · simp only [MuxerManager.store, MuxerManager.assign]
    grind
  · simp only [MuxerManager.create, MuxerManager.store, MuxerManager.assign]
    grind
  · dsimp only
    split <;> simp only [MuxerManager.create, MuxerManager.store, MuxerManager.assign] <;> grind

theorem closes_step (h : Sharing onStart s.mm s.held) (hstep : s.step onStart a = some s')
    (hp : p < s.mm.made) (hopen : (s.mm.instances p).doneOnce = false) :
    (s'.mm.instances p).doneOnce = true ↔ s.Closes p a := by
  cases a with
  | getOrCreateMuxer format active =>
    cases hstep
    exact locked_closes h active hp hopen
  | getOrCreateMuxerForGeneration format generation active =>
    cases hstep
    dsimp only [acquired, MuxerManager.getOrCreateMuxerForGeneration, Closes]
    split
    · grind
    next hactive =>
      rw [not_not] at hactive
      rw [locked_closes h (some generation) hp hopen, hactive]
      simp
  | releaseMuxer format q =>
    obtain ⟨-, hmoved⟩ := Option.ite_none_right_eq_some.mp hstep
    cases hmoved
    have hcounted := h.counted
    dsimp only [MuxerManager.releaseMuxer, Closes]
    split
    · grind
    · split
      · split <;> simp only [MuxerManager.store, MuxerManager.assign,
          Function.update_apply] <;> grind
      · simp only [MuxerManager.store, Function.update_apply]
        grind

/-- Releasing an instance that has left the map changes no other and not the
map. -/
theorem release_superseded (hstep : s.step onStart (.releaseMuxer format p) = some s')
    (hgone : s.mm.muxers format ≠ some p) :
    s'.mm.muxers = s.mm.muxers ∧ ∀ q, q ≠ p → s'.mm.instances q = s.mm.instances q := by
  obtain ⟨-, hmoved⟩ := Option.ite_none_right_eq_some.mp hstep
  cases hmoved
  dsimp only [MuxerManager.releaseMuxer]
  split
  · exact ⟨rfl, fun _ _ => rfl⟩
  · split <;> exact ⟨rfl, fun q hq => Function.update_of_ne hq ..⟩

end MuxerSystem

/-- In every run the instances are shared exactly: each counts the acquisitions
that are not released, its callback ran once, the instance a format stands for
is open and held, and an instance is closed exactly once, by its last release
or by a call for its format that needs another. -/
theorem muxers_shared_exactly (onStart : String → Bool) {acts : List MuxerAction} {s : MuxerSystem}
    (hrun : runFrom (MuxerSystem.step onStart) .initial acts = some s) :
    Sharing onStart s.mm s.held ∧
    (∀ format p, s.mm.muxers format = some p →
      1 ≤ (s.mm.instances p).subCount ∧ (s.mm.instances p).doneOnce = false) ∧
    (∀ a s', s.step onStart a = some s' → ∀ p < s.mm.made, (s.mm.instances p).doneOnce = false →
        ((s'.mm.instances p).doneOnce = true ↔ s.Closes p a)) ∧
    ∀ format p s', s.step onStart (.releaseMuxer format p) = some s' →
      s.mm.muxers format ≠ some p → s'.mm.muxers = s.mm.muxers ∧
        ∀ q, q ≠ p → s'.mm.instances q = s.mm.instances q := by
  have h : Sharing onStart s.mm s.held := runFrom_invariant
    (fun _ _ _ h hstep => MuxerSystem.sharing_step h hstep) .initial hrun
  refine ⟨h, fun format p hp => ?_, fun a s' hstep p hp hopen =>
    MuxerSystem.closes_step h hstep hp hopen,
    fun format p s' hstep hgone => MuxerSystem.release_superseded hstep hgone⟩
  obtain ⟨hlt, hformat, hheld⟩ := h.mapped format p hp
  have hcounted := h.counted p hlt
  have hclosed := h.closed p hlt
  grind

/-- Two subscribers, a new generation, and the old subscribers leave. -/
def supersededRun : List MuxerAction :=
  [.getOrCreateMuxer "flv" (some 1), .getOrCreateMuxer "flv" (some 1),
    .getOrCreateMuxerForGeneration "flv" 2 (some 2),
    .releaseMuxer "flv" 0, .releaseMuxer "flv" 0]

theorem muxers_shared_exactly_superseded :
    ∃ s, runFrom (MuxerSystem.step fun _ => true) .initial supersededRun = some s ∧
      s.mm.muxers "flv" = some 1 ∧ s.held = [("flv", 1)] ∧
      (s.mm.instances 0).doneCloses = 1 ∧ Sharing (fun _ => true) s.mm s.held :=
  ⟨_, rfl, rfl, rfl, rfl, (@muxers_shared_exactly _ supersededRun _ rfl).1⟩

/-- A call for a generation that has ended finds it no longer active and leaves
its instance open. -/
theorem ended_generation_stays_open :
    ∃ s, runFrom (MuxerSystem.step fun _ => true) .initial
      [.getOrCreateMuxer "flv" (some 1), .getOrCreateMuxerForGeneration "flv" 1 none,
        .getOrCreateMuxerForGeneration "flv" 1 (some 2)] = some s ∧ s.mm.muxers "flv" = some 0 ∧
      (s.mm.instances 0).generation = 1 ∧ (s.mm.instances 0).doneOnce = false :=
  ⟨_, rfl, rfl, rfl, rfl⟩

end LiveForge.Core
