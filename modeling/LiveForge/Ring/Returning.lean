import LiveForge.Ring.Wakeup

/-!
# Woken readers return

A reader that is woken with a reason to return tests its reasons again and
finds one, since none of them goes away.  `Leaving` says what it knows at each
place on its way out, and `left` bounds the steps it still has to take.
-/

namespace LiveForge.Ring

open Support WaitAction

variable {ι κ α : Type*} {a : WaitAction ι κ α} {ring : RingBuffer α} {n : ℕ}

/-! ## On the way out -/

/-- A `TryReadResult` that will return a value. -/
def RingReader.Finds (ring : RingBuffer α) (r : RingReader α) : Prop :=
  match r.pc with
  | .idle => False
  | .loadWriteCursor _ => r.readCursor < ring.writeCursor
  | .loadReadCursor _ wc => r.readCursor < wc
  | .checkOverwritten _ wc readCursor =>
    r.readCursor = readCursor ∧ readCursor < wc
  | .readSlot _ readCursor => r.readCursor ≤ readCursor

/-- The steps a `TryReadResult` still takes: it looks again only when the
writer has lapped the slot it was about to read. -/
def ReadPc.left (ring : RingBuffer α) : ReadPc → ℕ
  | .idle => 0
  | .loadWriteCursor _ => 6
  | .loadReadCursor _ wc => 5 + 4 * (ring.writeCursor - wc)
  | .checkOverwritten _ wc _ => 4 + 4 * (ring.writeCursor - wc)
  | .readSlot _ readCursor =>
    3 + 4 * (ring.writeCursor - (readCursor + ring.size))

namespace WaitingReader

def Leaving (sh : Shared κ α) (r : WaitingReader κ α) : Prop :=
  match r.pc with
  | .relock => r.Ready sh
  | .testCursor => r.Ready sh
  | .testRing => sh.ring.closed = true ∨ r.closed = true ∨
      sh.contextCanceled r.ctx = true
  | .testReader => r.closed = true ∨ sh.contextCanceled r.ctx = true
  | .testContext => sh.contextCanceled r.ctx = true
  | .unlock => r.Ready sh
  | .afterWait => r.Ready sh
  | .retry => r.reader.Finds sh.ring ∨ sh.ring.closed = true ∨ r.closed = true
  | .ringClosed => sh.ring.closed = true ∨ r.closed = true
  | .readerClosed => r.closed = true
  | _ => False

def left (ring : RingBuffer α) (r : WaitingReader κ α) : ℕ :=
  match r.pc with
  | .relock => 13
  | .testCursor => 12
  | .testRing => 11
  | .testReader => 10
  | .testContext => 9
  | .unlock => 8
  | .afterWait => 7
  | .retry => r.reader.pc.left ring
  | .ringClosed => 2
  | .readerClosed => 1
  | _ => 0

end WaitingReader

section TryReadResult

variable [Inhabited α] {r r' : RingReader α}

theorem TryMove.left_lt (h : TryMove ring r r') : r'.pc.left ring < r.pc.left ring := by
  cases h with
  | loaded overwritten hpc hnext | fetched overwritten wc hpc hnext =>
    rw [hpc, hnext]
    simp [ReadPc.left]
  | empty overwritten wc readCursor hpc _ hnext | value overwritten readCursor hpc hnext =>
    rw [hpc, hnext, ReadPc.left, ReadPc.left]
    omega
  | claimed overwritten wc readCursor hpc hnext =>
    obtain ⟨count, hnext⟩ := hnext
    have hold := oldest_le_jump ring.size wc readCursor
    rw [hpc, hnext, ReadPc.left, ReadPc.left]
    omega
  | lapped overwritten readCursor hpc hlapped hnext =>
    -- the writer has passed the slot since the cursor was loaded
    simp only [RingBuffer.lapped, decide_eq_true_eq] at hlapped
    rw [hpc, hnext, ReadPc.left, ReadPc.left]
    omega

theorem TryMove.finds (h : TryMove ring r r') (hfinds : r.Finds ring) :
    r'.Finds ring ∨ ∃ result, WaitingReader.lastResult r' = some result ∧ result.ok = true := by
  unfold RingReader.Finds at hfinds
  cases h with
  | loaded overwritten hpc hnext hcursor =>
    rw [hpc] at hfinds
    refine .inl ?_
    rw [RingReader.Finds, hnext, hcursor]
    exact hfinds
  | fetched overwritten wc hpc hnext hcursor =>
    rw [hpc] at hfinds
    refine .inl ?_
    rw [RingReader.Finds, hnext, hcursor]
    exact ⟨rfl, hfinds⟩
  | empty overwritten wc readCursor hpc hempty =>
    rw [hpc] at hfinds
    exact absurd hempty (not_le.mpr hfinds.2)
  | claimed overwritten wc readCursor hpc hnext hcursor =>
    obtain ⟨count, hnext⟩ := hnext
    rw [hpc] at hfinds
    have hsum := jump_sum ring.size wc readCursor
    refine .inl ?_
    rw [RingReader.Finds, hnext, hcursor]
    dsimp only at hfinds ⊢
    split <;> omega
  | lapped overwritten readCursor hpc hlapped hnext hcursor =>
    simp only [RingBuffer.lapped, decide_eq_true_eq] at hlapped
    rw [hpc] at hfinds
    refine .inl ?_
    rw [RingReader.Finds, hnext]
    omega
  | value overwritten readCursor hpc hnext hresult =>
    exact .inr ⟨_, hresult, rfl⟩

end TryReadResult

namespace WaitingReader

variable {sh sh' : Shared κ α} {r r' : WaitingReader κ α}

/-! ## The reader takes a step -/

def Advances (sh : Shared κ α) (r r' : WaitingReader κ α) : Prop :=
  r'.results.length = r.results.length + 1 ∨
    r'.results = r.results ∧ r'.Leaving sh ∧ r'.left sh.ring < r.left sh.ring

theorem advances_returnWith (sh : Shared κ α) (r : WaitingReader κ α) (result : RingReadResult α) :
    r.Advances sh (r.returnWith result) :=
  Or.inl (by simp [returnWith])

theorem advances_retry [Inhabited α] (hpc : r.pc = .retry)
    (hleaving : r.reader.Finds sh.ring ∨ sh.ring.closed = true ∨ r.closed = true)
    (hstep : r.tryStep sh.ring .ringClosed = some r') :
    r.Advances sh r' := by
  have hleft : r.left sh.ring = r.reader.pc.left sh.ring := by
    rw [left, hpc]
  cases tryStep_cases hstep with
  | found reader result _ hmoved =>
    rw [hmoved]
    exact .inl (by simp [returnWith])
  | inside reader hmove hbusy hmoved =>
    subst hmoved
    refine .inr ⟨rfl, ?_, ?_⟩
    · rw [Leaving]
      rw [hpc]
      refine hleaving.imp_left ?_
      intro hfinds
      refine (hmove.finds hfinds).resolve_right ?_
      rintro ⟨result, hresult, -⟩
      rw [lastResult_eq_none hbusy] at hresult
      cases hresult
    · rw [hleft]
      rw [hpc]
      exact hmove.left_lt
  | empty reader _ hnothing hmoved =>
    obtain ⟨overwritten, wc, readCursor, hcheck, hempty⟩ := hnothing
    subst hmoved
    refine .inr ⟨rfl, ?_, ?_⟩
    · refine hleaving.resolve_left ?_
      intro hfinds
      rw [RingReader.Finds, hcheck] at hfinds
      exact absurd hempty (not_le.mpr hfinds.2)
    · rw [hleft, hcheck]
      change 2 < 4 + _
      omega

variable {free : Bool}

/-- None of the reasons to return goes away, so the reader does not wait. -/
theorem Leaving.step [Inhabited α] [DecidableEq κ] (h : r.Leaving sh)
    (hstep : r.step sh.ring free (sh.contextCanceled r.ctx) = some r') :
    r.Advances sh r' := by
  have hgoes : ∀ pc : WaitPc, (r.goto pc).Leaving sh →
      (r.goto pc).left sh.ring < r.left sh.ring → r.Advances sh (r.goto pc) :=
    fun _ hleaving hless => .inr ⟨rfl, hleaving, hless⟩
  cases hpc : r.pc with simp only [WaitingReader.step, Leaving, hpc] at hstep h
  | relock =>
    split_ifs at hstep
    cases hstep
    exact hgoes .testCursor h (by simp [left, hpc, goto])
  | testCursor =>
    split at hstep <;> cases hstep
    next hempty =>
      exact hgoes .testRing (h.resolve_left (not_lt.mpr hempty)) (by simp [left, hpc, goto])
    · exact hgoes .unlock h (by simp [left, hpc, goto])
  | testRing =>
    split at hstep <;> cases hstep
    · exact hgoes .unlock (.inr h) (by simp [left, hpc, goto])
    next hopen =>
      exact hgoes .testReader (h.resolve_left hopen) (by simp [left, hpc, goto])
  | testReader =>
    split at hstep <;> cases hstep
    · exact hgoes .unlock (.inr (.inr h)) (by simp [left, hpc, goto])
    next hopen =>
      exact hgoes .testContext (h.resolve_left hopen) (by simp [left, hpc, goto])
  | testContext =>
    rw [if_pos h] at hstep
    cases hstep
    exact hgoes .unlock (.inr (.inr (.inr h))) (by simp [left, hpc, goto])
  | unlock =>
    cases hstep
    exact hgoes .afterWait h (by simp [left, hpc, goto])
  | afterWait =>
    split at hstep
    · cases hstep
      exact advances_returnWith sh r _
    next halive =>
      obtain ⟨reader, henter, rfl⟩ := Option.map_eq_some_iff.mp hstep
      obtain ⟨hnext, hcursor⟩ := enter_eq_some henter
      refine .inr ⟨rfl, ?_, ?_⟩
      · rcases h with hdata | hring | hclosed | hcancelled
        · refine .inl ?_
          rw [RingReader.Finds]
          rw [hnext, hcursor]
          exact hdata
        · exact .inr (.inl hring)
        · exact .inr (.inr hclosed)
        · exact absurd hcancelled halive
      · simp [left, hpc, hnext, ReadPc.left]
  | retry =>
    exact advances_retry hpc h hstep
  | ringClosed =>
    cases hstep
    unfold giveUpIf
    split
    · exact advances_returnWith sh r _
    next hopen =>
      exact hgoes .readerClosed (h.resolve_left hopen) (by simp [left, hpc, goto])
  | readerClosed =>
    cases hstep
    rw [giveUpIf, if_pos h]
    exact advances_returnWith sh r _

/-! ## The others take a step -/

/-- Another party has changed nothing but the context and the flag. -/
structure Alike (r r' : WaitingReader κ α) : Prop where
  reader : r'.reader = r.reader
  ctx : r'.ctx = r.ctx
  pc : r'.pc = r.pc
  results : r'.results = r.results
  closed : r.closed = true → r'.closed = true

theorem Alike.refl (r : WaitingReader κ α) : r.Alike r :=
  ⟨rfl, rfl, rfl, rfl, id⟩

theorem contextCanceled_later (hlater : sh.Later sh') {ctx : Option κ}
    (h : sh.contextCanceled ctx = true) :
    sh'.contextCanceled ctx = true := by
  cases ctx with
  | none => exact h
  | some c => exact hlater.cancelled c h

theorem Ready.later (h : r.Ready sh) (hlater : sh.Later sh') (halike : r.Alike r') :
    r'.Ready sh' := by
  unfold Ready at h ⊢
  rw [halike.reader, halike.ctx]
  rcases h with hdata | hring | hclosed | hcancelled
  · exact .inl (hdata.trans_le hlater.cursor)
  · exact .inr (.inl (hlater.closed hring))
  · exact .inr (.inr (.inl (halike.closed hclosed)))
  · exact .inr (.inr (.inr (contextCanceled_later hlater hcancelled)))

theorem finds_later {reader : RingReader α} (h : reader.Finds sh.ring) (hlater : sh.Later sh') :
    reader.Finds sh'.ring := by
  unfold RingReader.Finds at h ⊢
  split at h
  · exact h
  · exact h.trans_le hlater.cursor
  all_goals exact h

theorem Leaving.later (h : r.Leaving sh) (hlater : sh.Later sh') (halike : r.Alike r') :
    r'.Leaving sh' := by
  have hcancelled : sh.contextCanceled r.ctx = true → sh'.contextCanceled r'.ctx = true := by
    rw [halike.ctx]
    exact contextCanceled_later hlater
  have hready : r.Ready sh → r'.Ready sh' := fun h => h.later hlater halike
  unfold Leaving at h ⊢
  rw [halike.pc, halike.reader]
  cases hpc : r.pc with rw [hpc] at h
  | relock | testCursor | unlock | afterWait =>
    exact hready h
  | testRing =>
    exact h.imp hlater.closed (Or.imp halike.closed hcancelled)
  | testReader =>
    exact h.imp halike.closed hcancelled
  | testContext =>
    exact hcancelled h
  | retry =>
    exact h.imp (fun hfinds => finds_later hfinds hlater) (Or.imp hlater.closed halike.closed)
  | ringClosed =>
    exact h.imp hlater.closed halike.closed
  | readerClosed =>
    exact halike.closed h
  | _ =>
    exact h

/-- A write may cost another round of `TryReadResult`. -/
theorem left_later (hlater : sh.Later sh') (halike : r.Alike r')
    (hwritten : sh'.ring.writeCursor ≤ sh.ring.writeCursor + n) :
    r'.left sh'.ring ≤ r.left sh.ring + 4 * n := by
  unfold left
  rw [halike.pc, halike.reader]
  cases r.pc with
  | retry =>
    dsimp only
    unfold ReadPc.left
    rw [hlater.size]
    split <;> omega
  | _ => exact Nat.le_add_right _ _

/-! ## Nothing but `mu` can hold a reader up -/

theorem step_isSome_of_holdsMu [Inhabited α] [DecidableEq κ] {cancelled : Bool}
    (h : r.pc.holdsMu = true) :
    (r.step ring free cancelled).isSome := by
  unfold WaitingReader.step
  cases hpc : r.pc with
  | testCursor | testRing | testReader | testContext =>
    dsimp only
    split <;> rfl
  | wait | unlock => rfl
  | _ =>
    rw [hpc] at h
    exact absurd h Bool.false_ne_true

theorem tryStep_isSome [Inhabited α] {pc : WaitPc} (h : r.reader.pc ≠ .idle) :
    (r.tryStep ring pc).isSome := by
  rw [WaitingReader.tryStep]
  unfold RingReader.step
  split
  next hidle => exact absurd hidle h
  · rfl
  · rfl
  · split <;> rfl
  · split <;> rfl

theorem Leaving.step_isSome [Inhabited α] [DecidableEq κ] (h : r.Leaving sh)
    (hinv : WaiterInv sh r) (hfree : r.pc = .relock → free = true) :
    (r.step sh.ring free (sh.contextCanceled r.ctx)).isSome := by
  by_cases hholds : r.pc.holdsMu = true
  · exact step_isSome_of_holdsMu hholds
  have htries := hinv.tries
  unfold WaitingReader.step
  cases hpc : r.pc with
  | relock => simp [hfree hpc]
  | afterWait =>
    have hidle : r.reader.pc = .idle := htries.mpr (hpc ▸ rfl)
    dsimp only
    split
    · rfl
    · simp [startTry, RingReader.enter, hidle]
  | retry =>
    have hbusy : r.reader.pc ≠ .idle := by
      rw [Ne, htries, hpc]
      decide
    exact tryStep_isSome hbusy
  | ringClosed | readerClosed => rfl
  | testCursor | testRing | testReader | testContext | unlock =>
    exact absurd (hpc ▸ rfl) hholds
  | _ => simp [Leaving, hpc] at h

end WaitingReader

/-! ## Runs -/

def WaitAction.isStepOf [DecidableEq ι] (i : ι) : WaitAction ι κ α → Bool
  | .step j => decide (j = i)
  | _ => false

theorem WaitAction.isSilent_spec [DecidableEq ι] (i : ι) (h : a.isSilent = true) :
    a.isBroadcast = false ∧ a.isStepOf i = false := by
  cases a <;> simp_all [isSilent, isBroadcast, isStepOf]

theorem WaitAction.isStepOf_of_isBroadcast [DecidableEq ι] (i : ι) (h : a.isBroadcast = true) :
    a.isStepOf i = false := by
  cases a <;> simp_all [isBroadcast, isStepOf]

/-- What an action does to one reader: the reader takes a step, enters a call,
is woken, or looks on. -/
inductive ReaderMove [Inhabited α] [DecidableEq ι] [DecidableEq κ]
    (s s' : WaitSystem ι κ α) (i : ι) (r r' : WaitingReader κ α) :
    WaitAction ι κ α → Prop where
  | own (same : s'.shared = s.shared)
      (next : r.step s.shared.ring s.mu.isNone (s.shared.contextCanceled r.ctx) = some r') :
      ReaderMove s s' i r r' (.step i)
  | called {a : WaitAction ι κ α} (quiet : a.isBroadcast = false)
      (idle : r.pc = .idle) (results : r'.results = r.results) :
      ReaderMove s s' i r r' a
  | woken {a : WaitAction ι κ α} (broadcasts : a.isBroadcast = true)
      (alike : r.wake.Alike r') : ReaderMove s s' i r r' a
  | alike {a : WaitAction ι κ α} (quiet : a.isBroadcast = false)
      (other : a.isStepOf i = false) (alike : r.Alike r') :
      ReaderMove s s' i r r' a

variable {r : WaitingReader κ α}

/-- Reader `j` changes; the others, and what does not change of it, stay. -/
theorem alike_setReader [DecidableEq ι] {s : WaitSystem ι κ α} {i j : ι} {old : WaitingReader κ α}
    (hr : s.readers i = some r) (hold : s.readers j = some old) (new : WaitingReader κ α)
    (halike : old.Alike new) :
    ∃ r', (s.setReader j new).readers i = some r' ∧ r.Alike r' := by
  by_cases hij : i = j
  · subst hij
    obtain rfl : r = old := Option.mem_unique hr hold
    exact ⟨new, s.setReader_self i new, halike⟩
  · exact ⟨r, (WaitSystem.setReader_of_ne hij new s).trans hr, .refl r⟩

theorem WaitingReader.Alike.wake {r' : WaitingReader κ α} (h : r.Alike r') :
    r.wake.Alike r'.wake := by
  unfold WaitingReader.wake
  rw [h.pc]
  split
  · exact { h with pc := rfl }
  · exact h

theorem WaitingReader.wake_of_leaving {sh : Shared κ α} (h : r.Leaving sh) : r.wake = r := by
  unfold WaitingReader.wake
  split
  next hparked => simp [WaitingReader.Leaving, hparked] at h
  · rfl

section Runs

variable [DecidableEq ι] [DecidableEq κ] [Inhabited α] {s s' : WaitSystem ι κ α} {i : ι}
  {r : WaitingReader κ α}

theorem later_of_move (h : WaitMove s s' a) :
    s.shared.Later s'.shared ∧
      s'.shared.ring.writeCursor ≤ s.shared.ring.writeCursor + if a.isStore then 1 else 0 := by
  cases h with
  | unsent shared _ hlater _ hwritten hmoved =>
    exact hmoved ▸ ⟨hlater, hwritten⟩
  | broadcast shared _ _ hlater hwritten hmoved =>
    subst hmoved
    refine ⟨hlater, ?_⟩
    rw [WaitSystem.broadcast, hwritten]
    exact Nat.le_add_right _ _
  | created _ _ _ hmoved | called _ _ _ _ _ hmoved | stepped _ _ _ _ _ hmoved
  | closed _ _ _ _ _ hmoved | stopped _ _ _ _ hmoved | returned _ _ _ _ hmoved =>
    exact hmoved ▸ ⟨.refl _, Nat.le_add_right _ _⟩
  | started _ _ _ _ hmoved =>
    exact hmoved ▸ ⟨⟨rfl, le_rfl, id, fun _ => id⟩, Nat.le_add_right _ _⟩

theorem readerMove_of_move (h : WaitMove s s' a) (hr : s.readers i = some r) :
    ∃ r', s'.readers i = some r' ∧ ReaderMove s s' i r r' a := by
  cases h with
  | created j pos hfresh hmoved =>
    subst hmoved
    have hij : i ≠ j := by
      rintro rfl
      rw [hfresh] at hr
      cases hr
    exact ⟨r, (WaitSystem.setReader_of_ne hij _ s).trans hr, .alike rfl rfl (.refl r)⟩
  | called j ctx old hold hidle hmoved =>
    subst hmoved
    by_cases hij : i = j
    · subst hij
      obtain rfl : r = old := Option.mem_unique hr hold
      exact ⟨_, s.setReader_self i _, .called rfl hidle rfl⟩
    · exact ⟨r, (WaitSystem.setReader_of_ne hij _ s).trans hr, .alike rfl rfl (.refl r)⟩
  | stepped j old new hold hnext hmoved =>
    subst hmoved
    by_cases hij : i = j
    · subst hij
      obtain rfl : r = old := Option.mem_unique hr hold
      exact ⟨new, s.setReader_self i new, .own rfl hnext⟩
    · exact ⟨r, (WaitSystem.setReader_of_ne hij _ s).trans hr,
        .alike rfl (decide_eq_false (Ne.symm hij)) (.refl r)⟩
  | unsent shared hsilent _ _ _ hmoved =>
    subst hmoved
    obtain ⟨hquiet, hother⟩ := isSilent_spec i hsilent
    exact ⟨r, hr, .alike hquiet hother (.refl r)⟩
  | broadcast shared hbroadcasts _ _ _ hmoved =>
    subst hmoved
    exact ⟨r.wake, by simp [WaitSystem.broadcast, hr], .woken hbroadcasts (.refl _)⟩
  | started j old hold _ hmoved =>
    subst hmoved
    obtain ⟨r', hr', halike⟩ := alike_setReader hr hold
      { old with registration := none } ⟨rfl, rfl, rfl, rfl, id⟩
    exact ⟨r', hr', .alike rfl rfl halike⟩
  | stopped j old hold _ hmoved =>
    subst hmoved
    obtain ⟨r', hr', halike⟩ := alike_setReader hr hold
      { old with
        contextDone := none, registration := none, closing := .stopped }
      ⟨rfl, rfl, rfl, rfl, id⟩
    exact ⟨r', hr', .alike rfl rfl halike⟩
  | closed j old hold _ _ hmoved =>
    subst hmoved
    obtain ⟨r', hr', halike⟩ := alike_setReader hr hold
      { old with closed := true, closing := .broadcasting }
      ⟨rfl, rfl, rfl, rfl, fun _ => rfl⟩
    exact ⟨r', hr', .alike rfl rfl halike⟩
  | returned j old hold _ hmoved =>
    subst hmoved
    obtain ⟨r', hr', halike⟩ := alike_setReader hr hold
      { old with closing := .idle } ⟨rfl, rfl, rfl, rfl, id⟩
    exact ⟨r'.wake, Option.map_eq_some_iff.mpr ⟨r', hr', rfl⟩, .woken rfl halike.wake⟩

/-! ### A reader on its way out -/

/-- The reader has returned `n` times and is about to return again. -/
def LeavingAt (i : ι) (n : ℕ) (s : WaitSystem ι κ α) : Prop :=
  WaitInv s ∧ ∃ r, s.readers i = some r ∧ r.results.length = n ∧ r.Leaving s.shared

def ReturnedAfter (i : ι) (n : ℕ) (s : WaitSystem ι κ α) : Prop :=
  ∃ r, s.readers i = some r ∧ n < r.results.length

def leftAt (i : ι) (s : WaitSystem ι κ α) : ℕ :=
  match s.readers i with
  | some r => r.left s.shared.ring
  | none => 0

theorem leavingAt_step (h : LeavingAt i n s) (hstep : s.step a = some s') :
    ReturnedAfter i n s' ∨ LeavingAt i n s' ∧
    leftAt i s' + (if a.isStepOf i then 1 else 0) ≤ leftAt i s + (if a.isStore then 4 else 0) := by
  obtain ⟨hinv, r, hr, hresults, hleaving⟩ := h
  have hmove := WaitMove.of_step hstep
  have hinv' := hinv.step hstep
  obtain ⟨hlater, hwritten⟩ := later_of_move hmove
  obtain ⟨r', hr', hreader⟩ := readerMove_of_move hmove hr
  have hleft : leftAt i s = r.left s.shared.ring := by rw [leftAt, hr]
  have hleft' : leftAt i s' = r'.left s'.shared.ring := by rw [leftAt, hr']
  have hlooksOn : a.isStepOf i = false → r.Alike r' → LeavingAt i n s' ∧
      leftAt i s' + (if a.isStepOf i then 1 else 0) ≤
        leftAt i s + (if a.isStore then 4 else 0) := by
    intro hother halike
    refine ⟨⟨hinv', r', hr', ?_, hleaving.later hlater halike⟩, ?_⟩
    · rw [halike.results, hresults]
    · have hle := WaitingReader.left_later hlater halike hwritten
      rw [hleft, hleft', hother]
      cases hstore : a.isStore with
      | true | false => simpa [hstore] using hle
  cases hreader with
  | own hsame hnext =>
    rcases hleaving.step hnext with hreturned | ⟨hkept, hgoes, hless⟩
    · exact .inl ⟨r', hr', by omega⟩
    · rw [← hsame] at hgoes
      refine .inr ⟨⟨hinv', r', hr', by rw [hkept, hresults], hgoes⟩, ?_⟩
      rw [hleft', hsame]
      simp only [isStepOf, decide_true, if_true]
      omega
  | called _ hidle => simp [WaitingReader.Leaving, hidle] at hleaving
  | woken hbroadcasts halike =>
    rw [WaitingReader.wake_of_leaving hleaving] at halike
    exact .inr (hlooksOn (isStepOf_of_isBroadcast i hbroadcasts) halike)
  | alike _ hother halike => exact .inr (hlooksOn hother halike)

theorem returnedAfter_step (h : ReturnedAfter i n s) (hstep : s.step a = some s') :
    ReturnedAfter i n s' := by
  obtain ⟨r, hr, hresults⟩ := h
  obtain ⟨r', hr', hreader⟩ := readerMove_of_move (WaitMove.of_step hstep) hr
  refine ⟨r', hr', ?_⟩
  cases hreader with
  | own _ hnext =>
    exact hresults.trans_le (WaitingReader.step_frame hnext).2
  | called _ _ hsame => rwa [hsame]
  | woken _ halike =>
    have hwake : r.wake.results = r.results := by
      unfold WaitingReader.wake
      split <;> rfl
    rwa [halike.results, hwake]
  | alike _ _ halike => rwa [halike.results]

/-! ### Nobody is stuck -/

/-- The next step of the goroutine that has locked `mu`. -/
def Holder.next : Holder ι → WaitAction ι κ α
  | .reader i => .step i
  | .closer i => .broadcastClosed i

/-- Reader `i` can take a step, or `mu` is locked and its holder can. -/
def CanMove (i : ι) (s : WaitSystem ι κ α) : Prop :=
  (s.step (.step i)).isSome ∨ ∃ holder, s.mu = some holder ∧ (s.step holder.next).isSome

theorem WaitInv.holder_step (h : WaitInv s) {holder : Holder ι} (hmu : s.mu = some holder) :
    (s.step holder.next).isSome := by
  have hlocked := (h.lock holder).mpr hmu
  cases holder with
  | closer j =>
    obtain ⟨r, hr, hclosing⟩ := Option.any_eq_true _ _ |>.mp hlocked
    simp only [decide_eq_true_eq] at hclosing
    simp [Holder.next, WaitSystem.step, hr, hclosing]
  | reader j =>
    obtain ⟨r, hr, hholds⟩ := Option.any_eq_true _ _ |>.mp hlocked
    simp [Holder.next, WaitSystem.step, hr, WaitingReader.step_isSome_of_holdsMu hholds]

theorem canMove_of_leavingAt (h : LeavingAt i n s) : CanMove i s := by
  obtain ⟨hinv, r, hr, -, hleaving⟩ := h
  cases hmu : s.mu with
  | some holder => exact .inr ⟨holder, hmu, hinv.holder_step hmu⟩
  | none =>
    have hfree : r.pc = .relock → s.mu.isNone = true := by
      intro _
      rw [hmu]
      rfl
    refine .inl ?_
    simpa [WaitSystem.step, hr] using hleaving.step_isSome (hinv.waiter i r hr) hfree

theorem leavingAt_of_broadcast (h : WaitInv s) (hr : s.readers i = some r)
    (hparked : r.pc = .parked) (hready : r.Ready s.shared)
    (hbroadcast : a.isBroadcast = true) (hstep : s.step a = some s') :
    LeavingAt i r.results.length s' ∧ ∃ r', s'.readers i = some r' ∧ r'.pc = .relock := by
  have hmove := WaitMove.of_step hstep
  obtain ⟨r', hr', hreader⟩ := readerMove_of_move hmove hr
  have hwake : r.wake = r.goto .relock := by
    rw [WaitingReader.wake, if_pos hparked]
  cases hreader with
  | own => exact absurd hbroadcast Bool.false_ne_true
  | called hquiet | alike hquiet =>
    rw [hbroadcast] at hquiet
    exact absurd hquiet (by decide)
  | woken _ halike =>
    rw [hwake] at halike
    have hleaving : (r.goto .relock).Leaving s.shared := hready
    exact ⟨⟨h.step hstep, r', hr', congrArg List.length halike.results,
      hleaving.later (later_of_move hmove).1 halike⟩, r', hr', halike.pc⟩

end Runs

/-- A reader that is parked although it is ready has a broadcast to come.  Any
broadcast wakes it.  From then on it never waits again and is never stuck,
except for others that hold `mu` and can go on, and it returns after at most 13
steps of its own and 4 more for each value written meanwhile. -/
theorem parked_reader_returns [DecidableEq ι] [DecidableEq κ] [Inhabited α] (size : ℤ)
    (acts : List (WaitAction ι κ α)) (s : WaitSystem ι κ α)
    (hrun : runFrom WaitSystem.step (WaitSystem.initial size) acts = some s) (i : ι)
    (r : WaitingReader κ α) (hr : s.readers i = some r) (hparked : r.pc = .parked)
    (hready : r.Ready s.shared) :
    r.BroadcastPending s.shared ∧ ∀ a s', a.isBroadcast = true → s.step a = some s' →
      (∃ r', s'.readers i = some r' ∧ r'.pc = .relock) ∧
      ∀ more s'', runFrom WaitSystem.step s' more = some s'' →
        ∃ r'', s''.readers i = some r'' ∧ (r.results.length < r''.results.length ∨
          r''.pc ≠ .parked ∧ CanMove i s'' ∧
            more.countP (WaitAction.isStepOf i) ≤ 13 + 4 * more.countP WaitAction.isStore) := by
  have hinv : WaitInv s :=
    runFrom_invariant (fun _ _ _ h hstep => h.step hstep) (WaitInv.initial size) hrun
  refine ⟨(hinv.waiter i r hr).broadcastPending hparked hready, ?_⟩
  intro a s' hbroadcast hstep
  obtain ⟨hleaving, r', hr', hrelock⟩ :=
    leavingAt_of_broadcast hinv hr hparked hready hbroadcast hstep
  refine ⟨⟨r', hr', hrelock⟩, ?_⟩
  intro more s'' hmore
  have hleft : leftAt i s' = 13 := by
    rw [leftAt, hr']
    dsimp only
    rw [WaitingReader.left, hrelock]
  have hprogress : ReturnedAfter i r.results.length s'' ∨ LeavingAt i r.results.length s'' ∧
        leftAt i s'' + more.countP (isStepOf i) ≤
          leftAt i s' + 4 * more.countP isStore := by
    refine runFrom_until ?_ ?_ hleaving hmore
    · intro _ _ _ h hs
      exact returnedAfter_step h hs
    · intro _ _ _ h hs
      exact leavingAt_step h hs
  rcases hprogress with ⟨r'', hr'', hreturned⟩ | ⟨hstill, hsteps⟩
  · exact ⟨r'', hr'', .inl hreturned⟩
  · have hcan := canMove_of_leavingAt hstill
    obtain ⟨-, r'', hr'', -, hgoes⟩ := hstill
    refine ⟨r'', hr'', .inr ⟨?_, hcan, by omega⟩⟩
    intro hpc
    simp [WaitingReader.Leaving, hpc] at hgoes

/-- A reader waits for the first value, which is stored but not announced. -/
def unannouncedWrite : List (WaitAction ℕ ℕ ℕ) :=
  [.newReaderAt 0 0, .call 0 none] ++ List.replicate 14 (.step 0) ++ [.write 7, .store]

theorem parked_reader_returns_unannounced :
    ∃ s r, runFrom WaitSystem.step
        (WaitSystem.initial 1 : WaitSystem ℕ ℕ ℕ) unannouncedWrite = some s ∧
      s.readers 0 = some r ∧ r.pc = .parked ∧ r.Ready s.shared ∧
      r.BroadcastPending s.shared ∧ (s.step .broadcastWrite).isSome :=
  ⟨_, _, rfl, rfl, rfl, Or.inl (by decide),
    (parked_reader_returns 1 unannouncedWrite _ rfl 0 _ rfl rfl (Or.inl (by decide))).1, by decide⟩

end LiveForge.Ring
