import LiveForge.Stream.Generation

/-!
# Streams without a publisher

The no-publisher timers of `core/stream.go`, with a clock.  A timer does not
expire before its time; its callback runs at any later time, and looks at the
state of the stream only.  So a timer has to be gone when the next publisher
comes: `SetPublisher` stops the timer in the field, but not a callback that is
waiting already, nor a timer that `RemovePublisher` replaced without stopping
it.
-/

namespace LiveForge.Core

open Support

/-- When a no-publisher timer was armed: after how many accepted calls of
`SetPublisher`, at what time and for how long. -/
structure ArmedTimer where
  installs : ℕ
  time : ℤ
  timeout : ℤ

/-- A stream with the history of its publishers.  `vacantSince` is the time
since when it has had none. -/
structure VacantStream where
  stream : Stream
  now : ℤ
  installs : ℕ
  armed : ℕ → ArmedTimer
  vacantSince : Option ℤ

inductive VacancyAction where
  | setPublisher (pub : Option Publisher)
  | removePublisher
  | removePublisherIf (pub : Option Publisher)
  | updatePolicy (cfg : StreamConfig) (limits : LimitsConfig)
  | timerExpires (timer : Timer)
  | timerCallback (timer : Timer)
  | wait (duration : ℕ)

namespace VacantStream

def initial (key : String) (instanceID : ℕ) (cfg : StreamConfig)
    (limits : LimitsConfig) : VacantStream :=
  { stream := newStream key instanceID cfg limits
    now := 0
    installs := 0
    armed := fun _ => ⟨0, 0, 0⟩
    vacantSince := some 0 }

/-- The stream after a method, with a timer that the method armed. -/
def moveTo (v : VacantStream) (s : Stream) : VacantStream :=
  { v with
    stream := s
    armed := fun id =>
      if s.noPublisherTimer = some id ∧ v.stream.timerSeq ≤ id then
        ⟨v.installs, v.now, s.config.noPublisherTimeout⟩
      else v.armed id
    vacantSince :=
      if s.state = .publishing then none else v.vacantSince.or (some v.now) }

def isDue (v : VacantStream) (timer : Timer) : Prop :=
  timer.kind = .noPublisher → (v.armed timer.id).time + (v.armed timer.id).timeout ≤ v.now

instance (v : VacantStream) (timer : Timer) : Decidable (v.isDue timer) :=
  inferInstanceAs (Decidable (_ → _))

def step (v : VacantStream) : VacancyAction → Option VacantStream
  | .setPublisher pub =>
    match v.stream.setPublisher pub v.now with
    | .ok s => some { v.moveTo s with installs := v.installs + 1 }
    | .error _ => some v
  | .removePublisher => some (v.moveTo v.stream.removePublisherLocked)
  | .removePublisherIf pub =>
    some (v.moveTo (v.stream.removePublisherIf pub).2)
  | .updatePolicy cfg limits =>
    some (v.moveTo (v.stream.updatePolicy cfg limits))
  | .timerExpires timer =>
    if timer ∈ v.stream.scheduled ∧ v.isDue timer then
      some { v with
        stream.scheduled := v.stream.scheduled.erase timer
        stream.expired := v.stream.expired ++ [timer] }
    else none
  | .timerCallback timer =>
    if timer ∈ v.stream.expired then
      some (v.moveTo (Stream.timerCallback timer.kind { v.stream with
        expired := v.stream.expired.erase timer }).2)
    else none
  | .wait duration => some { v with now := v.now + duration }

/-- A publisher comes only when the one timer that is left is the one that will
be stopped. -/
def NoneStale (v : VacantStream) : VacancyAction → Prop
  | .setPublisher _ =>
    v.stream.state ≠ .publishing → v.stream.state ≠ .destroying →
      (∀ timer ∈ v.stream.expired, timer.kind ≠ .noPublisher) ∧
      ∀ timer ∈ v.stream.scheduled, timer.kind = .noPublisher →
        v.stream.noPublisherTimer = some timer.id
  | _ => True

instance (v : VacantStream) (a : VacancyAction) : Decidable (v.NoneStale a) := by
  unfold NoneStale
  split <;> infer_instance

end VacantStream

/-! ## Timers -/

/-- A method may stop timers, and arm timers with new numbers; a no-publisher
timer among those is the one in the field. -/
structure TimersKept (t t' : TimerState) : Prop where
  seq : t.timerSeq ≤ t'.timerSeq
  expired : t'.expired ⊆ t.expired
  scheduled : ∀ timer ∈ t'.scheduled, timer ∈ t.scheduled ∨
    t.timerSeq ≤ timer.id ∧ timer.id < t'.timerSeq ∧
      (timer.kind = .noPublisher → t'.noPublisherTimer = some timer.id)

theorem TimerState.checkIdleTimeout_noPublisherTimer (cfg : StreamConfig) (unused : Bool)
    (t : TimerState) :
    (t.checkIdleTimeout cfg unused).noPublisherTimer = t.noPublisherTimer := by
  unfold TimerState.checkIdleTimeout
  split
  · rfl
  · split
    · split <;> rfl
    · rfl

namespace TimersKept

variable {t t' t'' : TimerState}

theorem refl (t : TimerState) : TimersKept t t :=
  ⟨le_rfl, List.Subset.refl _, fun _ => .inl⟩

theorem stopNoPublisherTimer : TimersKept t t.stopNoPublisherTimer :=
  ⟨le_rfl, List.Subset.refl _, fun _ h => .inl (List.mem_of_mem_filter h)⟩

theorem armNoPublisherTimer (hseq : t'.timerSeq = t.timerSeq) (hexpired : t'.expired ⊆ t.expired)
    (hscheduled : t'.scheduled ⊆ t.scheduled) :
    TimersKept t t'.armNoPublisherTimer := by
  refine ⟨hseq.ge.trans (Nat.le_succ _), hexpired, ?_⟩
  exact forall_mem_concat (fun timer htimer => .inl (hscheduled htimer))
    (.inr ⟨hseq.ge, Nat.lt_succ_self _, fun _ => rfl⟩)

theorem stopIdleTimer (h : TimersKept t t') : TimersKept t t'.stopIdleTimer :=
  ⟨h.seq, h.expired, fun timer htimer => h.scheduled timer (List.mem_of_mem_filter htimer)⟩

/-- The idle timer comes and goes on its own. -/
theorem checkIdleTimeout (h : TimersKept t t') (cfg : StreamConfig) (unused : Bool) :
    TimersKept t (t'.checkIdleTimeout cfg unused) := by
  unfold TimerState.checkIdleTimeout
  split
  · exact h
  · split
    · split
      · refine ⟨h.seq.trans (Nat.le_succ _), h.expired, ?_⟩
        refine forall_mem_concat ?_ (.inr ⟨h.seq, Nat.lt_succ_self _, by simp⟩)
        exact fun timer htimer => (h.scheduled timer htimer).imp_right fun hkept =>
          ⟨hkept.1, hkept.2.1.trans (Nat.lt_succ_self _), hkept.2.2⟩
      · exact h
    · exact h.stopIdleTimer

end TimersKept

theorem timersKept_removePublisherLocked (s : Stream) :
    TimersKept s.toTimerState s.removePublisherLocked.toTimerState := by
  unfold Stream.removePublisherLocked
  split
  · exact .refl _
  · apply TimersKept.checkIdleTimeout
    split
    · exact .armNoPublisherTimer rfl (List.Subset.refl _) (List.Subset.refl _)
    · exact .refl _

theorem timersKept_updatePolicy (cfg : StreamConfig) (limits : LimitsConfig) (s : Stream) :
    TimersKept s.toTimerState (s.updatePolicy cfg limits).toTimerState := by
  apply TimersKept.checkIdleTimeout
  apply TimersKept.stopIdleTimer
  split
  · exact .armNoPublisherTimer rfl (List.Subset.refl _) List.filter_sublist.subset
  · exact .stopNoPublisherTimer

/-! ## The invariant -/

namespace VacantStream

/-- The timer was armed after the last publisher came, and that one had left by
then. -/
def Current (v : VacantStream) (timer : Timer) : Prop :=
  (v.armed timer.id).installs = v.installs ∧
    ∃ since, v.vacantSince = some since ∧ since ≤ (v.armed timer.id).time

structure Inv (v : VacantStream) : Prop where
  fresh : ∀ timer ∈ v.stream.scheduled ++ v.stream.expired, timer.id < v.stream.timerSeq
  current : ∀ timer ∈ v.stream.scheduled ++ v.stream.expired,
    timer.kind = .noPublisher → v.Current timer
  due : ∀ timer ∈ v.stream.expired, v.isDue timer
  since : ∀ since ∈ v.vacantSince, since ≤ v.now
  vacant : v.stream.state = .publishing ↔ v.vacantSince = none

variable {v v' : VacantStream} {s : Stream}

theorem moveTo_armed {id : ℕ} (h : id < v.stream.timerSeq) : (v.moveTo s).armed id = v.armed id :=
  if_neg fun hnew => (hnew.2.trans_lt h).false

section Inv

variable (h : v.Inv)

include h

theorem Inv.vacantSince_moveTo (hstate : s.state ≠ .publishing) :
    ∃ since, (v.moveTo s).vacantSince = some since ∧ since ≤ v.now ∧
      ∀ before ∈ v.vacantSince, before = since := by
  simp only [moveTo, if_neg hstate]
  cases hsince : v.vacantSince with
  | none => exact ⟨v.now, rfl, le_rfl, by simp⟩
  | some since => exact ⟨since, rfl, h.since since hsince, by simp⟩

theorem Inv.moveTo (hkept : TimersKept v.stream.toTimerState s.toTimerState)
    (hstate : s.state = .publishing →
      v.stream.state = .publishing ∧
        ∀ timer ∈ s.scheduled, timer.kind = .noPublisher → timer ∈ v.stream.scheduled) :
    (v.moveTo s).Inv := by
  have hold : ∀ timer ∈ v.stream.scheduled ++ v.stream.expired,
      timer.kind = .noPublisher → (v.moveTo s).Current timer := by
    intro timer htimer hkind
    obtain ⟨hinstalls, since, hsince, hle⟩ := h.current timer htimer hkind
    have hvacant : s.state ≠ .publishing := by
      intro hpublishing
      rw [h.vacant.mp (hstate hpublishing).1] at hsince
      cases hsince
    obtain ⟨since', hsince', -, hsame⟩ := h.vacantSince_moveTo hvacant
    rw [Current, moveTo_armed (h.fresh timer htimer)]
    exact ⟨hinstalls, since', hsince', hsame since hsince ▸ hle⟩
  refine ⟨?_, ?_, ?_, ?_, ?_⟩
  · intro timer htimer
    rcases List.mem_append.mp htimer with htimer | htimer
    · rcases hkept.scheduled timer htimer with hmem | ⟨-, hlt, -⟩
      · exact (h.fresh timer (List.mem_append_left _ hmem)).trans_le hkept.seq
      · exact hlt
    · have hmem := List.mem_append_right v.stream.scheduled (hkept.expired htimer)
      exact (h.fresh timer hmem).trans_le hkept.seq
  · intro timer htimer hkind
    rcases List.mem_append.mp htimer with htimer | htimer
    · rcases hkept.scheduled timer htimer with hmem | ⟨hle, -, hfield⟩
      · exact hold timer (List.mem_append_left _ hmem) hkind
      · by_cases hpublishing : s.state = .publishing
        · have hmem := (hstate hpublishing).2 timer htimer hkind
          exact hold timer (List.mem_append_left _ hmem) hkind
        · obtain ⟨since, hsince, hnow, -⟩ := h.vacantSince_moveTo hpublishing
          have harmed : (v.moveTo s).armed timer.id =
              ⟨v.installs, v.now, s.config.noPublisherTimeout⟩ :=
            if_pos ⟨hfield hkind, hle⟩
          rw [Current, harmed]
          exact ⟨rfl, since, hsince, hnow⟩
    · exact hold timer (List.mem_append_right _ (hkept.expired htimer)) hkind
  · intro timer htimer hkind
    have hmem := hkept.expired htimer
    rw [moveTo_armed (h.fresh timer (List.mem_append_right _ hmem))]
    exact h.due timer hmem hkind
  · intro since hsince
    by_cases hpublishing : s.state = .publishing
    · simp [VacantStream.moveTo, hpublishing] at hsince
    · obtain ⟨since', hsince', hle, -⟩ := h.vacantSince_moveTo hpublishing
      rw [hsince'] at hsince
      exact Option.some.inj hsince ▸ hle
  · by_cases hpublishing : s.state = .publishing
    · simp [VacantStream.moveTo]
    · simp [VacantStream.moveTo]

theorem Inv.removePublisherLocked : (v.moveTo v.stream.removePublisherLocked).Inv := by
  refine h.moveTo (timersKept_removePublisherLocked v.stream) ?_
  unfold Stream.removePublisherLocked
  split
  · exact fun hpublishing => ⟨hpublishing, fun _ hmem _ => hmem⟩
  · intro hpublishing
    cases hpublishing

/-- The new publisher finds no timer that is still about the time before. -/
theorem Inv.startGeneration {pub : Publisher}
    (hexpired : ∀ timer ∈ v.stream.expired, timer.kind ≠ .noPublisher)
    (hscheduled : ∀ timer ∈ v.stream.scheduled, timer.kind = .noPublisher →
      v.stream.noPublisherTimer = some timer.id) :
    Inv { v.moveTo (v.stream.startGeneration pub v.now) with
      installs := v.installs + 1 } := by
  have hmem : ∀ timer ∈ (v.stream.startGeneration pub v.now).scheduled,
      timer ∈ v.stream.scheduled ∧ v.stream.noPublisherTimer ≠ some timer.id := by
    intro timer htimer
    have hstopped := List.mem_of_mem_filter htimer
    obtain ⟨hmem, hne⟩ := List.mem_filter.mp hstopped
    exact ⟨hmem, fun heq => by simp [heq] at hne⟩
  refine ⟨?_, ?_, ?_, ?_, ?_⟩
  · intro timer htimer
    rcases List.mem_append.mp htimer with htimer | htimer
    · exact h.fresh timer (List.mem_append_left _ (hmem timer htimer).1)
    · exact h.fresh timer (List.mem_append_right _ htimer)
  · intro timer htimer hkind
    rcases List.mem_append.mp htimer with htimer | htimer
    · obtain ⟨hold, hne⟩ := hmem timer htimer
      exact absurd (hscheduled timer hold hkind) hne
    · exact absurd hkind (hexpired timer htimer)
  · intro timer htimer hkind
    exact absurd hkind (hexpired timer htimer)
  · intro since hsince
    cases hsince
  · exact ⟨fun _ => rfl, fun _ => rfl⟩

theorem Inv.updatePolicy (cfg : StreamConfig) (limits : LimitsConfig) :
    (v.moveTo (v.stream.updatePolicy cfg limits)).Inv := by
  have hkept := timersKept_updatePolicy cfg limits v.stream
  refine h.moveTo hkept fun hpublishing => ⟨hpublishing, ?_⟩
  intro timer htimer hkind
  refine (hkept.scheduled timer htimer).resolve_right ?_
  rintro ⟨-, -, hfield⟩
  have hnone : (v.stream.updatePolicy cfg limits).noPublisherTimer = none := by
    have hstate : v.stream.state = .publishing := hpublishing
    simp [Stream.updatePolicy, TimerState.checkIdleTimeout_noPublisherTimer,
      hstate, TimerState.stopIdleTimer, TimerState.stop,
      TimerState.stopNoPublisherTimer]
  rw [hnone] at hfield
  cases hfield hkind

theorem Inv.timerExpires {timer : Timer}
    (hmem : timer ∈ v.stream.scheduled) (hdue : v.isDue timer) :
    Inv { v with
      stream.scheduled := v.stream.scheduled.erase timer
      stream.expired := v.stream.expired ++ [timer] } := by
  have hsame : ∀ other ∈ v.stream.scheduled.erase timer ++ (v.stream.expired ++ [timer]),
      other ∈ v.stream.scheduled ++ v.stream.expired := by
    intro other hother
    simp only [List.mem_append, List.mem_singleton] at hother
    rcases hother with hother | hother | rfl
    · exact List.mem_append_left _ (List.mem_of_mem_erase hother)
    · exact List.mem_append_right _ hother
    · exact List.mem_append_left _ hmem
  refine ⟨fun other hother => h.fresh other (hsame other hother),
    fun other hother => h.current other (hsame other hother), ?_, h.since,
    h.vacant⟩
  exact forall_mem_concat h.due hdue

theorem Inv.timerCallback (timer : Timer) :
    (v.moveTo (Stream.timerCallback timer.kind { v.stream with
      expired := v.stream.expired.erase timer }).2).Inv := by
  have herase : TimersKept v.stream.toTimerState
      { v.stream.toTimerState with
        expired := v.stream.expired.erase timer } :=
    ⟨le_rfl, List.erase_subset, fun _ => .inl⟩
  apply h.moveTo
  · unfold Stream.timerCallback
    split <;> exact herase
  · unfold Stream.timerCallback
    split
    · intro hpublishing
      cases hpublishing
    · exact fun hpublishing => ⟨hpublishing, fun _ hmem _ => hmem⟩

theorem Inv.step {a : VacancyAction} (hstale : v.NoneStale a) (hstep : v.step a = some v') :
    v'.Inv := by
  cases a with
  | setPublisher pub =>
    simp only [VacantStream.step] at hstep
    split at hstep
    next s hset =>
      cases hstep
      cases pub with
      | none => cases hset
      | some pub =>
        obtain ⟨hpublishing, hdestroying, -, rfl⟩ := Stream.setPublisher_eq_ok hset
        obtain ⟨hexpired, hscheduled⟩ := hstale hpublishing hdestroying
        exact h.startGeneration hexpired hscheduled
    · exact Option.some.inj hstep ▸ h
  | removePublisher =>
    cases hstep
    exact h.removePublisherLocked
  | removePublisherIf pub =>
    cases hstep
    unfold Stream.removePublisherIf
    split
    · exact h.removePublisherLocked
    · exact h.moveTo (.refl _) fun hp => ⟨hp, fun _ hmem _ => hmem⟩
  | updatePolicy cfg limits =>
    cases hstep
    exact h.updatePolicy cfg limits
  | timerExpires timer =>
    obtain ⟨⟨hmem, hdue⟩, hmoved⟩ := Option.ite_none_right_eq_some.mp hstep
    cases hmoved
    exact h.timerExpires hmem hdue
  | timerCallback timer =>
    obtain ⟨-, hmoved⟩ := Option.ite_none_right_eq_some.mp hstep
    cases hmoved
    exact h.timerCallback timer
  | wait duration =>
    cases hstep
    have hlater : v.now ≤ v.now + duration := by omega
    exact { h with
      due := fun timer htimer hkind => (h.due timer htimer hkind).trans hlater
      since := fun since hsince => (h.since since hsince).trans hlater }

end Inv

theorem inv_initial (key : String) (instanceID : ℕ) (cfg : StreamConfig) (limits : LimitsConfig) :
    (initial key instanceID cfg limits).Inv := by
  refine ⟨?_, ?_, ?_, ?_, ?_⟩
  · intro timer htimer
    cases htimer
  · intro timer htimer
    cases htimer
  · intro timer htimer
    cases htimer
  · rintro since ⟨⟩
    exact le_rfl
  · exact ⟨nofun, nofun⟩

end VacantStream

/-- In every run in which no stale timer is left when a publisher comes, the
callback of a no-publisher timer runs only if no publisher came since the timer
was armed, and the stream has had none for as long as the timer ran. -/
theorem noPublisherTimer_current (key : String) (instanceID : ℕ)
    (cfg : StreamConfig) (limits : LimitsConfig) {acts : List VacancyAction}
    {v v' : VacantStream} {timer : Timer}
    (hstale : StepsMeet VacantStream.NoneStale VacantStream.step
      (.initial key instanceID cfg limits) acts)
    (hrun : runFrom VacantStream.step (.initial key instanceID cfg limits) acts = some v)
    (hkind : timer.kind = .noPublisher) (hstep : v.step (.timerCallback timer) = some v') :
    (v.armed timer.id).installs = v.installs ∧ ∃ since, v.vacantSince = some since ∧
      since + (v.armed timer.id).timeout ≤ v.now := by
  have hinv := runFrom_invariant_of_stepsMeet
    (fun _ _ _ h hmeets hstep => VacantStream.Inv.step h hmeets hstep)
    (VacantStream.inv_initial key instanceID cfg limits) hstale hrun
  obtain ⟨hexpired, -⟩ := Option.ite_none_right_eq_some.mp hstep
  obtain ⟨hinstalls, since, hsince, hle⟩ :=
    hinv.current timer (List.mem_append_right _ hexpired) hkind
  have hdue := hinv.due timer hexpired hkind
  exact ⟨hinstalls, since, hsince, by omega⟩

/-- The publisher leaves, comes back in time and leaves again. -/
def leftTwice : List VacancyAction :=
  [.setPublisher (some camera), .removePublisher, .setPublisher (some backup),
    .wait 1, .removePublisher, .wait 1, .timerExpires ⟨1, .noPublisher⟩]

/-- What a run and the callback of a timer after it come to. -/
def afterCallback (acts : List VacancyAction) (id : ℕ) : Option (VacantStream × VacantStream) :=
  (runFrom VacantStream.step (.initial "live" 1 shortTimeout noLimits) acts).bind fun v =>
      (v.step (.timerCallback ⟨id, .noPublisher⟩)).map fun v' => (v, v')

theorem noPublisherTimer_current_leftTwice :
    ∃ v v', afterCallback leftTwice 1 = some (v, v') ∧ v'.stream.state = .destroying ∧
      (v.armed 1).installs = v.installs ∧
      ∃ since, v.vacantSince = some since ∧ since + (v.armed 1).timeout ≤ v.now :=
  ⟨_, _, rfl, rfl, @noPublisherTimer_current "live" 1 shortTimeout noLimits leftTwice _ _
    ⟨1, .noPublisher⟩ (by decide) rfl rfl rfl⟩

/-- The callback waits for the lock while the publisher comes back. -/
def lateCallback : List VacancyAction :=
  [.setPublisher (some camera), .removePublisher, .wait 1,
    .timerExpires ⟨0, .noPublisher⟩, .setPublisher (some backup),
    .removePublisher]

/-- The second removal forgets the timer of the first. -/
def removedTwice : List VacancyAction :=
  [.setPublisher (some camera), .removePublisher, .removePublisher,
    .setPublisher (some backup), .wait 1, .removePublisher,
    .timerExpires ⟨0, .noPublisher⟩]

/-- The callback of the first timer destroys the stream at the moment its second
publisher leaves. -/
def DestroysEarly (acts : List VacancyAction) : Prop :=
  ∃ v v', afterCallback acts 0 = some (v, v') ∧
    v.stream.state = .noPublisher ∧ v'.stream.state = .destroying ∧
    (v.armed 0).installs < v.installs ∧ ∃ since, v.vacantSince = some since ∧
      v.now < since + (v.armed 0).timeout

theorem stale_noPublisherTimer_destroys : DestroysEarly lateCallback ∧ DestroysEarly removedTwice :=
  ⟨⟨_, _, rfl, rfl, rfl, by decide, 1, rfl, by decide⟩,
    ⟨_, _, rfl, rfl, rfl, by decide, 1, rfl, by decide⟩⟩

end LiveForge.Core
