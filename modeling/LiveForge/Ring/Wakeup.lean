import LiveForge.Ring.Waiting

/-!
# No lost wakeups

A reader that has something to return, and is parked in `cond.Wait` all the
same, is about to be woken: whoever made it ready has not broadcast yet.  The
reader tests its reasons one after the other while it holds `mu`; `Alert` says,
for each place, that every reason already tested and true since then has its
broadcast still to come, because a broadcast needs `mu`.
-/

namespace LiveForge.Ring

open Support

variable {ι κ α : Type*}

/-! ## A step of `TryReadResult` -/

/-- What one step of `TryReadResult` can do. -/
inductive TryMove [Inhabited α] (ring : RingBuffer α) (r r' : RingReader α) :
    Prop where
  | loaded (overwritten : ℕ) (place : r.pc = .loadWriteCursor overwritten)
      (next : r'.pc = .loadReadCursor overwritten ring.writeCursor)
      (cursor : r'.readCursor = r.readCursor)
  | fetched (overwritten wc : ℕ) (place : r.pc = .loadReadCursor overwritten wc)
      (next : r'.pc = .checkOverwritten overwritten wc r.readCursor)
      (cursor : r'.readCursor = r.readCursor)
  | empty (overwritten wc readCursor : ℕ)
      (place : r.pc = .checkOverwritten overwritten wc readCursor)
      (nothing : wc ≤ readCursor) (next : r'.pc = .idle)
      (result : WaitingReader.lastResult r' = some ⟨default, false, overwritten⟩)
  | claimed (overwritten wc readCursor : ℕ)
      (place : r.pc = .checkOverwritten overwritten wc readCursor)
      (next : ∃ count, r'.pc = .readSlot count (jump ring.size wc readCursor).2)
      (cursor : r'.readCursor =
        if readCursor < (jump ring.size wc readCursor).2
        then (jump ring.size wc readCursor).2 else r.readCursor)
  | lapped (overwritten readCursor : ℕ)
      (place : r.pc = .readSlot overwritten readCursor)
      (overtaken : ring.lapped readCursor = true)
      (next : r'.pc = .loadWriteCursor overwritten)
      (cursor : r'.readCursor = r.readCursor)
  | value (overwritten readCursor : ℕ)
      (place : r.pc = .readSlot overwritten readCursor) (next : r'.pc = .idle)
      (result : WaitingReader.lastResult r' = some ⟨ring.slot readCursor, true, overwritten⟩)

variable {r r' : RingReader α} {ring : RingBuffer α} {pc : WaitPc}

theorem tryMove_of_step [Inhabited α] (h : r.step ring = some r') : TryMove ring r r' := by
  unfold RingReader.step at h
  split at h
  · cases h
  next overwritten hpc =>
    cases h
    exact .loaded overwritten hpc rfl rfl
  next overwritten wc hpc =>
    cases h
    exact .fetched overwritten wc hpc rfl rfl
  next overwritten wc readCursor hpc =>
    split at h
    next hempty =>
      cases h
      exact .empty overwritten wc readCursor hpc hempty rfl
        (by simp [WaitingReader.lastResult, RingReader.returnWith])
    · cases h
      exact .claimed overwritten wc readCursor hpc ⟨_, rfl⟩ rfl
  next overwritten readCursor hpc =>
    split at h
    next hlapped =>
      cases h
      exact .lapped overwritten readCursor hpc hlapped rfl rfl
    · cases h
      exact .value overwritten readCursor hpc rfl
        (by simp [WaitingReader.lastResult, RingReader.returnWith])

theorem enter_eq_some (h : r.enter = some r') :
    r'.pc = .loadWriteCursor 0 ∧ r'.readCursor = r.readCursor := by
  unfold RingReader.enter at h
  split at h
  · cases h
    exact ⟨rfl, rfl⟩
  · cases h

theorem lastResult_eq_none (h : r.pc ≠ .idle) : WaitingReader.lastResult r = none := by
  unfold WaitingReader.lastResult
  split
  next hpc _ => exact absurd hpc h
  · rfl

/-- A step inside `TryReadResult`, or one that returns from it. -/
inductive TryStep [Inhabited α] (ring : RingBuffer α) (pc : WaitPc)
    (r r' : WaitingReader κ α) : Prop where
  | inside (reader : RingReader α) (move : TryMove ring r.reader reader)
      (busy : reader.pc ≠ .idle) (moved : r' = { r with reader })
  | empty (reader : RingReader α) (idle : reader.pc = .idle)
      (nothing : ∃ overwritten wc readCursor, r.reader.pc =
        .checkOverwritten overwritten wc readCursor ∧ wc ≤ readCursor)
      (moved : r' = { r with reader, pc })
  | found (reader : RingReader α) (result : RingReadResult α)
      (idle : reader.pc = .idle)
      (moved : r' = { r with reader }.returnWith result)

theorem tryStep_cases [Inhabited α] {r r' : WaitingReader κ α} (h : r.tryStep ring pc = some r') :
    TryStep ring pc r r' := by
  obtain ⟨reader, hreader, hmoved⟩ := Option.map_eq_some_iff.mp h
  have hmove := tryMove_of_step hreader
  have hinside : reader.pc ≠ .idle → TryStep ring pc r r' := by
    intro hbusy
    rw [lastResult_eq_none hbusy] at hmoved
    exact .inside reader hmove hbusy hmoved.symm
  cases hmove with
  | loaded _ _ hnext | fetched _ _ _ hnext | lapped _ _ _ _ hnext => exact hinside (by simp [hnext])
  | claimed _ _ _ _ hnext =>
    obtain ⟨count, hnext⟩ := hnext
    exact hinside (by simp [hnext])
  | empty overwritten wc readCursor hpc hempty hidle hresult =>
    rw [hresult] at hmoved
    exact .empty reader hidle ⟨overwritten, wc, readCursor, hpc, hempty⟩ hmoved.symm
  | value _ _ _ hidle hresult =>
    rw [hresult] at hmoved
    exact .found reader _ hidle hmoved.symm

/-! ## The invariant of one reader -/

def WaitPc.tries : WaitPc → Bool
  | .firstTry => true
  | .retry => true
  | _ => false

/-- The goroutine has been through `ensureContextWake`. -/
def WaitPc.looping : WaitPc → Bool
  | .idle => false
  | .entryClosed => false
  | .entryContext => false
  | .firstTry => false
  | .register => false
  | _ => true

/-- The goroutine has tested a reason to stop waiting, and it did not hold. -/
def WaitPc.tested : WaitPc → Bool
  | .testRing => true
  | .testReader => true
  | .testContext => true
  | .wait => true
  | .parked => true
  | _ => false

namespace WaitingReader

/-- One of the four reasons to stop waiting. -/
def Ready (sh : Shared κ α) (r : WaitingReader κ α) : Prop :=
  r.reader.readCursor < sh.ring.writeCursor ∨ sh.ring.closed = true ∨
    r.closed = true ∨ sh.contextCanceled r.ctx = true

def DataPending (sh : Shared κ α) (r : WaitingReader κ α) : Prop :=
  r.reader.readCursor < sh.ring.writeCursor → sh.producer = .broadcasting

def RingPending (sh : Shared κ α) : Prop :=
  sh.ring.closed = true → 0 < sh.ringClosers

def ClosePending (r : WaitingReader κ α) : Prop :=
  r.closed = true → r.closing = .broadcasting

/-- The registered function will be started, or has been; if it was stopped,
then by a `Close` that is still under way. -/
def ContextPending (sh : Shared κ α) (r : WaitingReader κ α) : Prop :=
  sh.contextCanceled r.ctx = true → r.registration.any sh.cancelled = true ∨ 0 < sh.callbacks ∨
      r.closing ≠ .idle

/-- The reasons the goroutine has tested. -/
def Alert (sh : Shared κ α) (r : WaitingReader κ α) : WaitPc → Prop
  | .testRing => r.DataPending sh
  | .testReader => r.DataPending sh ∧ RingPending sh
  | .testContext => r.DataPending sh ∧ RingPending sh ∧ r.ClosePending
  | .wait => r.DataPending sh ∧ RingPending sh ∧ r.ClosePending ∧
      r.ContextPending sh
  | .parked => r.DataPending sh ∧ RingPending sh ∧ r.ClosePending ∧
      r.ContextPending sh
  | _ => True

variable {r r' : WaitingReader κ α}

theorem alert_of_not_tested (sh : Shared κ α) (r : WaitingReader κ α) (h : pc.tested = false) :
    r.Alert sh pc := by
  cases pc with
  | testRing | testReader | testContext | wait | parked =>
    exact absurd h (by decide)
  | _ => trivial

/-- Cancelling the context of the call will start a function. -/
def Armed (sh : Shared κ α) (r : WaitingReader κ α) : Prop :=
  ∀ c, r.ctx = some c → r.registration = some c ∨ sh.cancelled c = true ∨
    r.closing ≠ .idle ∨ r.closed = true

/-! ## What a step of the goroutine leaves alone -/

theorem startTry_frame (h : r.startTry pc = some r') :
    r'.closing = r.closing ∧ r'.results = r.results ∧ r'.pc = pc := by
  obtain ⟨reader, -, rfl⟩ := Option.map_eq_some_iff.mp h
  exact ⟨rfl, rfl, rfl⟩

theorem tryStep_frame [Inhabited α] (h : r.tryStep ring pc = some r') :
    r'.closing = r.closing ∧ r.results.length ≤ r'.results.length ∧
      (r'.pc = r.pc ∨ r'.pc = pc ∨ r'.pc = .idle) := by
  cases tryStep_cases h with
  | inside _ _ _ hmoved => exact hmoved ▸ ⟨rfl, le_rfl, .inl rfl⟩
  | empty _ _ _ hmoved => exact hmoved ▸ ⟨rfl, le_rfl, .inr (.inl rfl)⟩
  | found _ _ _ hmoved =>
    exact hmoved ▸ ⟨rfl, by simp [returnWith], .inr (.inr rfl)⟩

theorem step_frame [Inhabited α] [DecidableEq κ] {free cancelled : Bool}
    (h : r.step ring free cancelled = some r') :
    r'.closing = r.closing ∧ r.results.length ≤ r'.results.length := by
  grind [WaitingReader.step, goto, returnWith, giveUpIf, → startTry_frame,
    → tryStep_frame, ensureContextWake]

theorem step_holdsMu [Inhabited α] [DecidableEq κ] {free cancelled : Bool}
    (h : r.step ring free cancelled = some r') (hmu : r'.pc.holdsMu = true) :
    r.pc.holdsMu = true ∨ free = true := by
  grind [WaitingReader.step, goto, returnWith, giveUpIf, → startTry_frame,
    → tryStep_frame, WaitPc.holdsMu]
end WaitingReader

/-! ## What a reader keeps to -/

structure WaiterInv (sh : Shared κ α) (r : WaitingReader κ α) : Prop where
  tries : r.reader.pc = .idle ↔ r.pc.tries = false
  closed : r.closing = .broadcasting → r.closed = true
  registered : ∀ c, r.contextDone = some c → r.registration = some c ∨ sh.cancelled c = true
  armed : r.pc.looping = true → r.Armed sh
  alert : r.Alert sh r.pc

namespace WaiterInv

variable {sh sh' : Shared κ α} {r r' : WaitingReader κ α}

theorem initial (sh : Shared κ α) (pos : ℕ) : WaiterInv sh (newWaitingReader pos) := by
  refine ⟨?_, ?_, ?_, ?_, trivial⟩
  · exact ⟨fun _ => rfl, fun _ => rfl⟩
  · intro h
    exact absurd h (by simp [newWaitingReader])
  · intro c h
    cases h
  · intro h
    exact absurd h Bool.false_ne_true

/-- A broadcast finds no reader between its tests and `cond.Wait`. -/
theorem tested_wake (hfree : r.pc.holdsMu = false) : r.wake.pc.tested = false := by
  unfold WaitingReader.wake
  split
  · rfl
  next hnot =>
    cases hpc : r.pc with
    | parked => exact absurd hpc hnot
    | testRing | testReader | testContext | wait =>
      exact absurd hfree (by rw [hpc]; decide)
    | _ => rfl

variable (h : WaiterInv sh r)

include h

theorem returnWith (hidle : r.reader.pc = .idle) (result : RingReadResult α) :
    WaiterInv sh (r.returnWith result) := by
  refine ⟨?_, h.closed, h.registered, ?_, trivial⟩
  · exact ⟨fun _ => rfl, fun _ => hidle⟩
  · intro hlooping
    exact absurd hlooping Bool.false_ne_true

section Places

-- the goroutine goes from `pc` to `pc'`
variable {pc' : WaitPc}

theorem goto (hpc : r.pc = pc) (hidle : pc.tries = false) (hidle' : pc'.tries = false)
    (hlooping : pc'.looping = true → pc.looping = true) (halert : r.Alert sh pc') :
    WaiterInv sh (r.goto pc') := by
  subst hpc
  refine ⟨?_, h.closed, h.registered, fun hl => h.armed (hlooping hl), halert⟩
  rw [WaitingReader.goto, h.tries, hidle, hidle']

theorem giveUpIf [Inhabited α] (hpc : r.pc = pc) (hidle : pc.tries = false)
    (hidle' : pc'.tries = false) (hlooping : pc'.looping = true → pc.looping = true)
    (htested : pc'.tested = false) (stop : Bool) :
    WaiterInv sh (r.giveUpIf stop pc') := by
  unfold WaitingReader.giveUpIf
  split
  · exact h.returnWith (h.tries.mpr (hpc ▸ hidle)) _
  · exact h.goto hpc hidle hidle' hlooping (WaitingReader.alert_of_not_tested sh r htested)

theorem startTry (hpc : r.pc = pc) (htries' : pc'.tries = true)
    (hlooping : pc'.looping = true → pc.looping = true) (htested : pc'.tested = false)
    (hstart : r.startTry pc' = some r') :
    WaiterInv sh r' := by
  subst hpc
  obtain ⟨reader, henter, rfl⟩ := Option.map_eq_some_iff.mp hstart
  obtain ⟨hnext, -⟩ := enter_eq_some henter
  refine ⟨?_, h.closed, h.registered, fun hl => h.armed (hlooping hl), ?_⟩
  · simp [hnext, htries']
  · exact WaitingReader.alert_of_not_tested sh _ htested

theorem tryStep [Inhabited α] (hpc : r.pc = pc) (htries : pc.tries = true)
    (hidle' : pc'.tries = false) (hlooping : pc'.looping = true → pc.looping = true)
    (htested : pc.tested = false) (htested' : pc'.tested = false)
    (hstep : r.tryStep ring pc' = some r') :
    WaiterInv sh r' := by
  subst hpc
  cases tryStep_cases hstep with
  | inside reader _ hbusy hmoved =>
    subst hmoved
    refine ⟨?_, h.closed, h.registered, h.armed, ?_⟩
    · simp [hbusy, htries]
    · exact WaitingReader.alert_of_not_tested sh _ htested
  | empty reader hidle _ hmoved =>
    subst hmoved
    refine ⟨?_, h.closed, h.registered, fun hl => h.armed (hlooping hl), ?_⟩
    · simp [hidle, hidle']
    · exact WaitingReader.alert_of_not_tested sh _ htested'
  | found reader result hidle hmoved =>
    subst hmoved
    refine ⟨?_, h.closed, h.registered, ?_, trivial⟩
    · exact ⟨fun _ => rfl, fun _ => hidle⟩
    · intro hl
      exact absurd hl Bool.false_ne_true

end Places

theorem ensureContextWake [DecidableEq κ] (hpc : r.pc = .register) :
    WaiterInv sh (r.ensureContextWake.goto .loopClosed) := by
  have hidle : r.reader.pc = .idle := by
    rw [h.tries, hpc]
    rfl
  unfold WaitingReader.ensureContextWake
  split
  next hkeep =>
    refine ⟨⟨fun _ => rfl, fun _ => hidle⟩, h.closed, h.registered, ?_, trivial⟩
    intro _ c hc
    rcases hkeep with hclosed | hsame
    · exact .inr (.inr (.inr hclosed))
    · rcases h.registered c (hsame.symm.trans hc) with hreg | hcancelled
      · exact .inl hreg
      · exact .inr (.inl hcancelled)
  · refine ⟨⟨fun _ => rfl, fun _ => hidle⟩, h.closed, ?_, ?_, trivial⟩
    · intro c hc
      exact .inl hc
    · intro _ c hc
      exact .inl hc

theorem step [Inhabited α] [DecidableEq κ] {free : Bool}
    (hstep : r.step sh.ring free (sh.contextCanceled r.ctx) = some r') :
    WaiterInv sh r' := by
  have halert := h.alert
  unfold WaitingReader.step at hstep
  cases hpc : r.pc with simp only [hpc] at hstep
  | idle | parked =>
    cases hstep
  | entryClosed | loopClosed | loopContext | ringClosed | readerClosed =>
    cases hstep
    exact h.giveUpIf hpc rfl rfl (by decide) rfl _
  | entryContext | afterWait =>
    split at hstep
    · cases hstep
      exact h.returnWith (h.tries.mpr (hpc ▸ rfl)) _
    · exact h.startTry hpc rfl (by decide) rfl hstep
  | firstTry | retry =>
    exact h.tryStep hpc rfl rfl (by decide) rfl rfl hstep
  | register =>
    split_ifs at hstep
    cases hstep
    exact h.ensureContextWake hpc
  | lock | relock =>
    split_ifs at hstep
    cases hstep
    exact h.goto hpc rfl rfl (by decide) trivial
  | testCursor =>
    split at hstep <;> cases hstep
    next hempty =>
      refine h.goto hpc rfl rfl (by decide) ?_
      intro hdata
      exact absurd hdata (not_lt.mpr hempty)
    · exact h.goto hpc rfl rfl (by decide) trivial
  | testRing =>
    rw [hpc] at halert
    split at hstep <;> cases hstep
    · exact h.goto hpc rfl rfl (by decide) trivial
    next hopen =>
      exact h.goto hpc rfl rfl (by decide) ⟨halert, fun hclosed => absurd hclosed hopen⟩
  | testReader =>
    rw [hpc] at halert
    split at hstep <;> cases hstep
    · exact h.goto hpc rfl rfl (by decide) trivial
    next hopen =>
      exact h.goto hpc rfl rfl (by decide) ⟨halert.1, halert.2, fun hclosed => absurd hclosed hopen⟩
  | testContext =>
    rw [hpc] at halert
    obtain ⟨hdata, hring, hclose⟩ := halert
    split at hstep <;> cases hstep
    · exact h.goto hpc rfl rfl (by decide) trivial
    next halive =>
      exact h.goto hpc rfl rfl (by decide)
        ⟨hdata, hring, hclose, fun hcancelled => absurd hcancelled halive⟩
  | wait =>
    rw [hpc] at halert
    cases hstep
    exact h.goto hpc rfl rfl (by decide) halert
  | unlock =>
    cases hstep
    exact h.goto hpc rfl rfl (by decide) trivial

theorem alert_imp (hdata : r.DataPending sh → r'.DataPending sh')
    (hring : WaitingReader.RingPending sh → WaitingReader.RingPending sh')
    (hclose : r.ClosePending → r'.ClosePending)
    (hcontext : r.pc.looping = true → r.ClosePending → r.ContextPending sh →
      r'.ContextPending sh') :
    r'.Alert sh' r.pc := by
  have halert := h.alert
  cases hpc : r.pc with rw [hpc] at halert
  | testRing =>
    exact hdata halert
  | testReader =>
    exact ⟨hdata halert.1, hring halert.2⟩
  | testContext =>
    exact ⟨hdata halert.1, hring halert.2.1, hclose halert.2.2⟩
  | wait | parked =>
    obtain ⟨hd, hr, hc, hx⟩ := halert
    exact ⟨hdata hd, hring hr, hclose hc, hcontext (hpc ▸ rfl) hc hx⟩
  | _ => trivial

section Later

variable (hlater : sh.Later sh')

include hlater

theorem contextPending_shared (hunsent : sh.Unsent sh') (hlooping : r.pc.looping = true)
    (hclose : r.ClosePending) (hcontext : r.ContextPending sh) :
    r.ContextPending sh' := by
  intro hcancelled
  have hgrows : r.registration.any sh.cancelled = true →
      r.registration.any sh'.cancelled = true := by
    cases hreg : r.registration with
    | none => exact id
    | some c => exact hlater.cancelled c
  by_cases hbefore : sh.contextCanceled r.ctx = true
  · rcases hcontext hbefore with hreg | hcallback | hclosing
    · exact .inl (hgrows hreg)
    · exact .inr (.inl (hcallback.trans_le hunsent.callbacks))
    · exact .inr (.inr hclosing)
  · -- the context was cancelled just now
    cases hctx : r.ctx with
    | none =>
      rw [hctx] at hcancelled
      exact absurd hcancelled Bool.false_ne_true
    | some c =>
      rw [hctx] at hcancelled hbefore
      rcases h.armed hlooping c hctx with hreg | hold | hclosing | hclosed
      · refine .inl ?_
        rw [hreg]
        exact hcancelled
      · exact absurd hold hbefore
      · exact .inr (.inr hclosing)
      · refine .inr (.inr ?_)
        rw [hclose hclosed]
        decide

theorem alert_shared (hunsent : sh.Unsent sh') : r.Alert sh' r.pc := by
  have hdata : r.DataPending sh → r.DataPending sh' := by
    intro hpending hlt
    rcases hunsent.written with hsame | hnew
    · exact hunsent.data (hpending (hsame ▸ hlt))
    · exact hnew
  have hring : WaitingReader.RingPending sh → WaitingReader.RingPending sh' := by
    intro hpending hclosed
    rcases hunsent.ring hclosed with hold | hnew
    · exact (hpending hold).trans_le hunsent.closers
    · exact hnew
  exact h.alert_imp hdata hring id (h.contextPending_shared hlater hunsent)

theorem armed_shared (hlooping : r.pc.looping = true) : r.Armed sh' := by
  intro c hctx
  rcases h.armed hlooping c hctx with hreg | hcancelled | hclose
  · exact .inl hreg
  · exact .inr (.inl (hlater.cancelled c hcancelled))
  · exact .inr (.inr hclose)

theorem registered_shared (c : κ) (hdone : r.contextDone = some c) :
    r.registration = some c ∨ sh'.cancelled c = true :=
  (h.registered c hdone).imp_right (hlater.cancelled c)

theorem shared (hunsent : sh.Unsent sh') : WaiterInv sh' r :=
  ⟨h.tries, h.closed, h.registered_shared hlater, h.armed_shared hlater,
    h.alert_shared hlater hunsent⟩

theorem wake (hfree : r.pc.holdsMu = false) : WaiterInv sh' r.wake := by
  have halert : r.wake.Alert sh' r.wake.pc :=
    WaitingReader.alert_of_not_tested sh' _ (tested_wake hfree)
  unfold WaitingReader.wake at halert ⊢
  split
  next hparked =>
    refine ⟨?_, h.closed, h.registered_shared hlater, ?_, trivial⟩
    · rw [WaitingReader.goto, h.tries, hparked]
      rfl
    · intro _
      exact h.armed_shared hlater (hparked ▸ rfl)
  next hnot =>
    rw [if_neg hnot] at halert
    exact ⟨h.tries, h.closed, h.registered_shared hlater, h.armed_shared hlater, halert⟩

end Later

theorem call (hidle : r.pc = .idle) (ctx : Option κ) :
    WaiterInv sh { r with ctx, pc := .entryClosed } := by
  refine ⟨?_, h.closed, h.registered, ?_, trivial⟩
  · rw [h.tries, hidle]
    exact Iff.rfl
  · intro hlooping
    exact absurd hlooping Bool.false_ne_true

/-- A change of the registration and of the `Close` under way. -/
theorem alert_change (hreader : r'.reader = r.reader) (hclose : r.ClosePending → r'.ClosePending)
    (hcontext : r'.ContextPending sh) :
    r'.Alert sh r.pc := by
  have hdata : r.DataPending sh → r'.DataPending sh := by
    intro hpending
    rw [WaitingReader.DataPending, hreader]
    exact hpending
  exact h.alert_imp hdata id hclose fun _ _ _ => hcontext

/-- A `Close` that has stopped the registered function will broadcast. -/
theorem stopContext (hidle : r.closing = .idle) :
    WaiterInv sh { r with
      contextDone := none, registration := none, closing := .stopped } := by
  refine ⟨h.tries, ?_, ?_, ?_, ?_⟩
  · intro hclosing
    simp at hclosing
  · intro c hdone
    cases hdone
  · intro _ c _
    exact .inr (.inr (.inl (by simp)))
  · refine h.alert_change rfl ?_ ?_
    · intro hclose hclosed
      rw [hclose hclosed] at hidle
      exact absurd hidle (by decide)
    · intro _
      exact .inr (.inr (by simp))

theorem storeClosed : WaiterInv sh { r with closed := true, closing := .broadcasting } := by
  refine ⟨h.tries, fun _ => rfl, h.registered, ?_, ?_⟩
  · intro _ c _
    exact .inr (.inr (.inr rfl))
  · refine h.alert_change rfl ?_ ?_
    · intro _ _
      rfl
    · intro _
      exact .inr (.inr (by simp))

theorem startCallback (hregistered : r.registration.any sh.cancelled = true)
    (hcallbacks : 0 < sh.callbacks) :
    WaiterInv sh { r with registration := none } := by
  have hcancelled : ∀ c, r.registration = some c → sh.cancelled c = true := by
    intro c hreg
    rw [hreg] at hregistered
    exact hregistered
  refine ⟨h.tries, h.closed, ?_, ?_, ?_⟩
  · intro c hdone
    exact .inr ((h.registered c hdone).elim (hcancelled c) id)
  · intro hlooping c hctx
    rcases h.armed hlooping c hctx with hreg | hrest
    · exact .inr (.inl (hcancelled c hreg))
    · exact .inr hrest
  · refine h.alert_change rfl id ?_
    intro _
    exact .inr (.inl hcallbacks)

theorem closeReturns (hclosing : r.closing = .broadcasting) (htested : r.pc.tested = false) :
    WaiterInv sh { r with closing := .idle } := by
  refine ⟨h.tries, ?_, h.registered, ?_, ?_⟩
  · intro hidle
    simp at hidle
  · intro _ c _
    exact .inr (.inr (.inr (h.closed hclosing)))
  · exact WaitingReader.alert_of_not_tested sh _ htested

end WaiterInv

/-! ## The invariant of the system -/

/-- Who has locked `mu`, as the places of the goroutines tell it. -/
def locked (readers : ι → Option (WaitingReader κ α)) : Holder ι → Bool
  | .reader i => (readers i).any fun r => r.pc.holdsMu
  | .closer i => (readers i).any fun r => decide (r.closing = .broadcasting)

theorem locked_update [DecidableEq ι] (readers : ι → Option (WaitingReader κ α)) (i : ι)
    (r : WaitingReader κ α) (h : Holder ι) :
    locked (Function.update readers i (some r)) h =
      if h = .reader i then r.pc.holdsMu
      else if h = .closer i then decide (r.closing = .broadcasting)
      else locked readers h := by
  cases h with
  | reader j | closer j =>
    by_cases hj : j = i
    · subst hj
      simp [locked]
    · simp [locked, hj]

theorem locked_wake (readers : ι → Option (WaitingReader κ α)) (h : Holder ι) :
    locked (fun i => (readers i).map WaitingReader.wake) h = locked readers h := by
  have hholds : ∀ r : WaitingReader κ α, r.wake.pc.holdsMu = r.pc.holdsMu := by
    intro r
    unfold WaitingReader.wake
    split
    next hparked =>
      rw [hparked]
      rfl
    · rfl
  have hclosing : ∀ r : WaitingReader κ α, r.wake.closing = r.closing := by
    intro r
    unfold WaitingReader.wake
    split <;> rfl
  cases h with
  | reader i => cases hr : readers i <;> simp [locked, hr, hholds]
  | closer i => cases hr : readers i <;> simp [locked, hr, hclosing]

structure WaitInv (s : WaitSystem ι κ α) : Prop where
  waiter : ∀ i r, s.readers i = some r → WaiterInv s.shared r
  lock : ∀ h, locked s.readers h = true ↔ s.mu = some h

namespace WaitInv

variable {s s' : WaitSystem ι κ α}

theorem initial [Inhabited α] (size : ℤ) :
    WaitInv (WaitSystem.initial size : WaitSystem ι κ α) := by
  constructor
  · intro i r hr
    cases hr
  · intro h
    cases h <;> simp [WaitSystem.initial, locked]

variable (h : WaitInv s)

include h

theorem holdsMu_eq_false {i : ι} {r : WaitingReader κ α} (hr : s.readers i = some r)
    (hmu : s.mu ≠ some (.reader i)) :
    r.pc.holdsMu = false := by
  by_contra hholds
  apply hmu
  apply (h.lock (.reader i)).mp
  simpa [locked, hr] using hholds

variable {shared : Shared κ α}

theorem withShared (hlater : s.shared.Later shared) (hunsent : s.shared.Unsent shared) :
    WaitInv { s with shared } :=
  ⟨fun i r hr => (h.waiter i r hr).shared hlater hunsent, h.lock⟩

theorem broadcast (hfree : s.mu = none) (hlater : s.shared.Later shared) :
    WaitInv (s.broadcast shared) := by
  constructor
  · intro i r hr
    obtain ⟨r, hold, rfl⟩ := Option.map_eq_some_iff.mp hr
    refine (h.waiter i r hold).wake hlater (h.holdsMu_eq_false hold ?_)
    rw [hfree]
    exact (Option.some_ne_none _).symm
  · intro holder
    rw [WaitSystem.broadcast, locked_wake, h.lock, hfree]

section Readers

variable [DecidableEq ι] {i : ι} {r' r : WaitingReader κ α}

theorem waiter_setReader (hr' : WaiterInv s.shared r') (j : ι) (r : WaitingReader κ α)
    (hr : (s.setReader i r').readers j = some r) :
    WaiterInv s.shared r := by
  by_cases hj : j = i
  · subst hj
    rw [WaitSystem.setReader_self] at hr
    exact Option.some.inj hr ▸ hr'
  · rw [WaitSystem.setReader_of_ne hj] at hr
    exact h.waiter j r hr

/-- A reader is there that holds no more and no less than before. -/
theorem setReader (hr' : WaiterInv s.shared r')
    (hholds : r'.pc.holdsMu = locked s.readers (.reader i))
    (hcloses : decide (r'.closing = .broadcasting) = locked s.readers (.closer i)) :
    WaitInv (s.setReader i r') := by
  refine ⟨h.waiter_setReader hr', ?_⟩
  intro holder
  rw [WaitSystem.setReader, locked_update, ← h.lock holder]
  split
  next heq => rw [heq, hholds]
  · split
    next heq => rw [heq, hcloses]
    · exact Iff.rfl

section Reader

variable (hr : s.readers i = some r)

include hr

/-- A reader goes on and takes or releases `mu` on its way. -/
theorem stepReader [Inhabited α] [DecidableEq κ]
    (hstep : r.step s.shared.ring s.mu.isNone (s.shared.contextCanceled r.ctx) = some r') :
    WaitInv { s.setReader i r' with
      mu := WaitSystem.muAfter i r.pc r'.pc s.mu } := by
  refine ⟨h.waiter_setReader ((h.waiter i r hr).step hstep), ?_⟩
  have hreader : r.pc.holdsMu = true ↔ s.mu = some (.reader i) := by
    rw [← h.lock]
    simp [locked, hr]
  have hothers : ∀ holder, holder ≠ .reader i → (locked (s.setReader i r').readers holder = true ↔
        s.mu = some holder) := by
    intro holder hne
    rw [← h.lock holder, WaitSystem.setReader, locked_update, if_neg hne]
    split
    next heq =>
      subst heq
      simp [locked, hr, (WaitingReader.step_frame hstep).1]
    · exact Iff.rfl
  have hself : locked (s.setReader i r').readers (.reader i) =
      r'.pc.holdsMu := by
    simp [locked]
  intro holder
  by_cases hholder : holder = .reader i
  · subst hholder
    rw [hself, WaitSystem.muAfter]
    cases hnow : r'.pc.holdsMu with
    | true => simp
    | false =>
      cases hthen : r.pc.holdsMu with
      | true => simp
      | false => simp [← hreader, hthen]
  · rw [hothers holder hholder, WaitSystem.muAfter]
    have hne : s.mu = some (.reader i) → s.mu ≠ some holder := by
      intro hmu heq
      exact hholder (Option.mem_unique heq hmu)
    cases hnow : r'.pc.holdsMu with
    | true =>
      -- `mu` was free or already locked by this reader
      have hnot : s.mu ≠ some holder := by
        rcases WaitingReader.step_holdsMu hstep hnow with hthen | hfree
        · exact hne (hreader.mp hthen)
        · rw [Option.isNone_iff_eq_none.mp hfree]
          exact (Option.some_ne_none holder).symm
      simp [hnot, Ne.symm hholder]
    | false =>
      cases hthen : r.pc.holdsMu with
      | true => simp [hne (hreader.mp hthen)]
      | false => simp

theorem lockClosed (hfree : s.mu = none) :
    WaitInv { s.setReader i { r with
        closed := true, closing := .broadcasting } with
      mu := some (.closer i) } := by
  refine ⟨h.waiter_setReader (h.waiter i r hr).storeClosed, ?_⟩
  intro holder
  have hnone : locked s.readers holder = false := by
    by_contra hlocked
    have hmu := (h.lock holder).mp (by simpa using hlocked)
    rw [hfree] at hmu
    cases hmu
  have hreader : r.pc.holdsMu = false := h.holdsMu_eq_false hr (by simp [hfree])
  rw [WaitSystem.setReader, locked_update, hnone, hreader]
  by_cases hholder : holder = .closer i
  · subst hholder
    simp
  · simp [hholder, Ne.symm hholder]

theorem broadcastClosed (hclosing : r.closing = .broadcasting) :
    WaitInv ((s.setReader i { r with closing := .idle }).broadcast s.shared) := by
  have hmu : s.mu = some (.closer i) := by
    rw [← h.lock]
    simp [locked, hr, hclosing]
  have hlater := Shared.Later.refl s.shared
  have hfree : ∀ j r, s.readers j = some r → r.pc.holdsMu = false := by
    intro j r hj
    refine h.holdsMu_eq_false hj ?_
    simp [hmu]
  constructor
  · intro j r' hr'
    obtain ⟨old, hold, rfl⟩ := Option.map_eq_some_iff.mp hr'
    by_cases hj : j = i
    · subst hj
      rw [WaitSystem.setReader_self] at hold
      cases hold
      -- waking the reader and letting `Close` return are independent
      have hswap : ({ r with closing := .idle } : WaitingReader κ α).wake =
          { r.wake with closing := .idle } := by
        unfold WaitingReader.wake
        split <;> rfl
      have hwaiter := (h.waiter j r hr).wake hlater (hfree j r hr)
      have hstill : r.wake.closing = .broadcasting := by
        unfold WaitingReader.wake
        split <;> exact hclosing
      rw [hswap]
      exact hwaiter.closeReturns hstill (WaiterInv.tested_wake (hfree j r hr))
    · rw [WaitSystem.setReader_of_ne hj] at hold
      exact (h.waiter j old hold).wake hlater (hfree j old hold)
  · intro holder
    rw [WaitSystem.broadcast, locked_wake, WaitSystem.setReader, locked_update]
    have hreader : r.pc.holdsMu = false := hfree i r hr
    by_cases hholder : holder = .closer i
    · subst hholder
      simp
    · have hnot : locked s.readers holder ≠ true := by
        rw [Ne, h.lock, hmu]
        simpa using Ne.symm hholder
      simp [hreader, hnot]

theorem startCallback (hregistered : r.registration.any s.shared.cancelled = true) :
    WaitInv { s.setReader i { r with registration := none } with
      shared.callbacks := s.shared.callbacks + 1 } := by
  have hcounted : WaitInv { s with shared.callbacks := s.shared.callbacks + 1 } :=
    h.withShared ⟨rfl, le_rfl, id, fun _ => id⟩ ⟨id, .inl rfl, .inl, le_rfl, Nat.le_succ _⟩
  have hwaiter := (hcounted.waiter i r hr).startCallback hregistered (Nat.succ_pos _)
  exact hcounted.setReader hwaiter (by simp [locked, hr]) (by simp [locked, hr])

end Reader

theorem step [Inhabited α] [DecidableEq κ] {a : WaitAction ι κ α} (hstep : s.step a = some s') :
    WaitInv s' := by
  cases WaitMove.of_step hstep with
  | created i pos hnone hmoved =>
    subst hmoved
    exact h.setReader (WaiterInv.initial s.shared pos)
      (by simp [locked, hnone, newWaitingReader, WaitPc.holdsMu])
      (by simp [locked, hnone, newWaitingReader])
  | called i ctx r hr hidle hmoved =>
    subst hmoved
    exact h.setReader ((h.waiter i r hr).call hidle ctx)
      (by simp [locked, hr, hidle, WaitPc.holdsMu]) (by simp [locked, hr])
  | stepped i r r' hr hr' hmoved =>
    subst hmoved
    exact h.stepReader hr hr'
  | unsent shared _ hlater hunsent _ hmoved =>
    subst hmoved
    exact h.withShared hlater hunsent
  | broadcast shared _ hfree hlater _ hmoved =>
    subst hmoved
    exact h.broadcast hfree hlater
  | started i r hr hregistered hmoved =>
    subst hmoved
    exact h.startCallback hr hregistered
  | stopped i r hr hidle hmoved =>
    subst hmoved
    exact h.setReader ((h.waiter i r hr).stopContext hidle) (by simp [locked, hr])
      (by simp [locked, hr, hidle])
  | closed i r hr hstopped hfree hmoved =>
    subst hmoved
    exact h.lockClosed hr hfree
  | returned i r hr hclosing hmoved =>
    subst hmoved
    exact h.broadcastClosed hr hclosing

end Readers

end WaitInv

/-! ## A parked reader -/

/-- Somebody who made the reader ready has not broadcast yet: the producer, a
`RingBuffer.Close`, a function started for a cancelled context or one about to
be, or a `Close` of the reader. -/
def WaitingReader.BroadcastPending (sh : Shared κ α) (r : WaitingReader κ α) : Prop :=
  sh.producer = .broadcasting ∨ 0 < sh.ringClosers ∨ 0 < sh.callbacks ∨
    r.registration.any sh.cancelled = true ∨ r.closing ≠ .idle

theorem WaiterInv.broadcastPending {sh : Shared κ α} {r : WaitingReader κ α} (h : WaiterInv sh r)
    (hparked : r.pc = .parked) (hready : r.Ready sh) :
    r.BroadcastPending sh := by
  have halert := h.alert
  rw [hparked] at halert
  obtain ⟨hdata, hring, hclose, hcontext⟩ := halert
  rcases hready with hlt | hclosed | hclosed | hcancelled
  · exact .inl (hdata hlt)
  · exact .inr (.inl (hring hclosed))
  · refine .inr (.inr (.inr (.inr ?_)))
    rw [hclose hclosed]
    decide
  · rcases hcontext hcancelled with hreg | hcallback | hclosing
    · exact .inr (.inr (.inr (.inl hreg)))
    · exact .inr (.inr (.inl hcallback))
    · exact .inr (.inr (.inr (.inr hclosing)))

end LiveForge.Ring
