import LiveForge.Ring.Buffer
import LiveForge.Support.Run
import Mathlib.Data.List.Count
import Mathlib.Logic.Function.Basic

/-!
# Ring readers next to a running producer

`TryReadResult` loads the write cursor without a lock, decides whether it was
overtaken, and only then locks the slot it wants to read.  The producer may
write any number of values between these steps.  The system below gives every
step its own action; a list of actions is an interleaving of one producer with
any number of readers, each used by one goroutine.

Two fields record history and are never read by a step: `written`, the log of
all values, and `completed`, what each finished call returned.
-/

namespace LiveForge.Ring

open Support

variable {ι α : Type*}

/-! ## The system -/

/-- Where a goroutine stands inside `TryReadResult`.  `overwritten` is the
count of the result under construction. -/
inductive ReadPc where
  | idle
  | loadWriteCursor (overwritten : ℕ)
  | loadReadCursor (overwritten wc : ℕ)
  | checkOverwritten (overwritten wc readCursor : ℕ)
  | readSlot (overwritten readCursor : ℕ)

/-- A finished call, with the read cursor before and after it. -/
inductive Completed (α : Type*) where
  | tryRead (before : ℕ) (result : RingReadResult α) (after : ℕ)
  | advanceToLive (before discarded after : ℕ)

structure RingReader (α : Type*) where
  start : ℕ
  readCursor : ℕ
  lastSkipped : ℕ
  pc : ReadPc
  callCursor : ℕ
  completed : List (Completed α)

def newReaderAt (pos : ℕ) : RingReader α :=
  { start := pos
    readCursor := pos
    lastSkipped := 0
    pc := .idle
    callCursor := pos
    completed := [] }

namespace RingReader

def returnWith (r : RingReader α) (result : RingReadResult α) (after : ℕ) : RingReader α :=
  { r with
    readCursor := after
    pc := .idle
    completed := r.completed ++ [.tryRead r.callCursor result after] }

def enter (r : RingReader α) : Option (RingReader α) :=
  match r.pc with
  | .idle =>
    some { r with
      lastSkipped := 0
      callCursor := r.readCursor
      pc := .loadWriteCursor 0 }
  | _ => none

def step [Inhabited α] (ring : RingBuffer α) (r : RingReader α) : Option (RingReader α) :=
  match r.pc with
  | .idle => none
  | .loadWriteCursor overwritten =>
    some { r with pc := .loadReadCursor overwritten ring.writeCursor }
  | .loadReadCursor overwritten wc =>
    some { r with pc := .checkOverwritten overwritten wc r.readCursor }
  | .checkOverwritten overwritten wc readCursor =>
    if wc ≤ readCursor then
      some (r.returnWith ⟨default, false, overwritten⟩ r.readCursor)
    else
      let jumped := jump ring.size wc readCursor
      some { r with
        readCursor := if readCursor < jumped.2 then jumped.2 else r.readCursor
        pc := .readSlot (overwritten + jumped.1) jumped.2 }
  | .readSlot overwritten readCursor =>
    if ring.lapped readCursor then
      some { r with pc := .loadWriteCursor overwritten }
    else
      some { r.returnWith ⟨ring.slot readCursor, true, overwritten⟩
          (readCursor + 1) with
        lastSkipped := overwritten }

/-- `AdvanceToLive` runs under the slot lock as one step. -/
def advanceToLive (ring : RingBuffer α) (r : RingReader α) : Option (RingReader α) :=
  match r.pc with
  | .idle =>
    if ring.writeCursor ≤ r.readCursor then
      some { r with
        completed := r.completed ++
          [.advanceToLive r.readCursor 0 r.readCursor] }
    else
      some { r with
        readCursor := ring.writeCursor
        completed := r.completed ++
          [.advanceToLive r.readCursor (ring.writeCursor - r.readCursor)
            ring.writeCursor] }
  | _ => none

end RingReader

structure RingSystem (ι α : Type*) where
  ring : RingBuffer α
  written : List α
  readers : ι → Option (RingReader α)

inductive RingAction (ι α : Type*) where
  | write (val : α)
  | close
  | newReaderAt (reader : ι) (pos : ℕ)
  | enter (reader : ι)
  | step (reader : ι)
  | advanceToLive (reader : ι)

namespace RingSystem

def initial [Inhabited α] (size : ℤ) : RingSystem ι α :=
  { ring := newRingBuffer size
    written := []
    readers := fun _ => none }

variable [DecidableEq ι]

def setReader (s : RingSystem ι α) (i : ι) (r : RingReader α) : RingSystem ι α :=
  { s with readers := Function.update s.readers i (some r) }

def withReader (s : RingSystem ι α) (i : ι)
    (act : RingReader α → Option (RingReader α)) : Option (RingSystem ι α) :=
  (s.readers i).bind fun r => (act r).map (s.setReader i)

/-- One action of the interleaving.  A reader is created once, at a position
the producer has already reached. -/
def step [Inhabited α] (s : RingSystem ι α) : RingAction ι α → Option (RingSystem ι α)
  | .write val =>
    if s.ring.closed then some s
    else some { s with
      ring := s.ring.write val
      written := s.written ++ [val] }
  | .close => some { s with ring := s.ring.close }
  | .newReaderAt i pos =>
    match s.readers i with
    | some _ => none
    | none =>
      if pos ≤ s.ring.writeCursor then
        some (s.setReader i (Ring.newReaderAt pos))
      else none
  | .enter i => s.withReader i RingReader.enter
  | .step i => s.withReader i (RingReader.step s.ring)
  | .advanceToLive i => s.withReader i (RingReader.advanceToLive s.ring)

end RingSystem

/-! ## What a reader has accounted for -/

def Completed.returned : Completed α → List ℕ
  | .tryRead before result _ =>
    if result.ok then [before + result.overwritten] else []
  | .advanceToLive _ _ _ => []

/-- The positions the call reported as overwritten or discarded. -/
def Completed.counted : Completed α → List ℕ
  | .tryRead before result _ => List.range' before result.overwritten
  | .advanceToLive before discarded _ => List.range' before discarded

def ReadPc.overwritten : ReadPc → ℕ
  | .idle => 0
  | .loadWriteCursor overwritten => overwritten
  | .loadReadCursor overwritten _ => overwritten
  | .checkOverwritten overwritten _ _ => overwritten
  | .readSlot overwritten _ => overwritten

def Completed.positions (c : Completed α) : List ℕ :=
  c.counted ++ c.returned

namespace RingReader

def returned (r : RingReader α) : List ℕ :=
  r.completed.flatMap Completed.returned

/-- The positions counted as skipped so far, those of the running call
included. -/
def counted (r : RingReader α) : List ℕ :=
  r.completed.flatMap Completed.counted ++ List.range' r.callCursor r.pc.overwritten

def accounted (r : RingReader α) : List ℕ :=
  r.completed.flatMap Completed.positions ++ List.range' r.callCursor r.pc.overwritten

end RingReader

/-! ## The invariant of one reader -/

/-- A finished call did what `TryReadResult` and `AdvanceToLive` promise. -/
def Completed.Exact (written : List α) : Completed α → Prop
  | .tryRead before result after =>
    if result.ok then
      written[before + result.overwritten]? = some result.value ∧
        after = before + result.overwritten + 1
    else result.overwritten = 0 ∧ after = before
  | .advanceToLive before discarded after => after = before + discarded

/-- What the local variables of a running call still mean.  A retry happens
only after the slot was overwritten, so the loop never finds the ring empty
with a nonzero count. -/
def PcInv (ring : RingBuffer α) (r : RingReader α) : Prop :=
  match r.pc with
  | .idle => True
  | .loadWriteCursor overwritten =>
    r.readCursor = r.callCursor + overwritten ∧ (0 < overwritten → r.readCursor < ring.writeCursor)
  | .loadReadCursor overwritten wc =>
    r.readCursor = r.callCursor + overwritten ∧
      wc ≤ ring.writeCursor ∧ (0 < overwritten → r.readCursor < wc)
  | .checkOverwritten overwritten wc readCursor =>
    readCursor = r.readCursor ∧ r.readCursor = r.callCursor + overwritten ∧
        wc ≤ ring.writeCursor ∧ (0 < overwritten → r.readCursor < wc)
  | .readSlot overwritten readCursor =>
    readCursor = r.readCursor ∧ r.readCursor = r.callCursor + overwritten ∧
        readCursor < ring.writeCursor

structure ReaderInv (ring : RingBuffer α) (written : List α) (r : RingReader α) : Prop where
  startLe : r.start ≤ r.readCursor
  accounted : r.accounted = List.range' r.start (r.readCursor - r.start)
  pc : PcInv ring r
  exact : ∀ c ∈ r.completed, c.Exact written

theorem readerInv_new (ring : RingBuffer α) (written : List α) (pos : ℕ) :
    ReaderInv ring written (newReaderAt pos : RingReader α) where
  startLe := le_rfl
  accounted := by
    simp [newReaderAt, RingReader.accounted, ReadPc.overwritten]
  pc := trivial
  exact := by simp [newReaderAt]

theorem range'_extend {start cursor n : ℕ} (h : start ≤ cursor) :
    List.range' start (cursor - start) ++ List.range' cursor n =
      List.range' start (cursor + n - start) := by
  have happend := List.range'_append_1 (s := start) (m := cursor - start) (n := n)
  rw [Nat.add_sub_cancel' h] at happend
  rw [happend]
  congr 1
  omega

variable {r : RingReader α} {ring : RingBuffer α} {written : List α}

namespace ReaderInv

variable {r' : RingReader α} (h : ReaderInv ring written r)

include h

theorem enter (hstep : r.enter = some r') : ReaderInv ring written r' := by
  unfold RingReader.enter at hstep
  split at hstep
  next hidle =>
    cases hstep
    refine ⟨h.startLe, ?_, ?_, h.exact⟩
    · have haccounted := h.accounted
      simpa [RingReader.accounted, hidle, ReadPc.overwritten] using haccounted
    · simp [PcInv]
  · simp at hstep

open Completed

/-- Returning from a call whose result covers `overwritten` positions and, when
`ok`, one more. -/
theorem returnWith {value : α} {ok : Bool} {after : ℕ}
    (hbefore : r.readCursor = r.callCursor + r.pc.overwritten)
    (hexact : Completed.Exact written (.tryRead r.callCursor ⟨value, ok, r.pc.overwritten⟩ after))
    (hafter : after = r.readCursor + if ok then 1 else 0) :
    ReaderInv ring written (r.returnWith ⟨value, ok, r.pc.overwritten⟩ after) := by
  refine ⟨?_, ?_, trivial, ?_⟩
  · have hstart := h.startLe
    simp only [RingReader.returnWith]
    omega
  · have haccounted := h.accounted
    cases ok with
    | false =>
      subst hafter
      simpa [RingReader.accounted, RingReader.returnWith, Completed.positions, counted, returned,
        ReadPc.overwritten] using haccounted
    | true =>
      subst hafter
      have hext := range'_extend (n := 1) h.startLe
      rw [← haccounted] at hext
      simpa [RingReader.accounted, RingReader.returnWith, Completed.positions, counted, returned,
        ReadPc.overwritten, hbefore] using hext
  · intro c hc
    simp only [RingReader.returnWith, List.mem_append, List.mem_singleton] at hc
    rcases hc with hc | rfl
    · exact h.exact c hc
    · exact hexact

theorem step [Inhabited α] (hring : ring.Holds written) (hstep : r.step ring = some r') :
    ReaderInv ring written r' := by
  have hpc := h.pc
  have haccounted := h.accounted
  unfold RingReader.step at hstep
  unfold PcInv at hpc
  split at hstep
  · simp at hstep
  next overwritten hloop =>
    simp only [hloop] at hpc
    cases hstep
    refine ⟨h.startLe, ?_, ⟨hpc.1, le_rfl, hpc.2⟩, h.exact⟩
    simpa [RingReader.accounted, hloop, ReadPc.overwritten] using haccounted
  next overwritten wc hloop =>
    simp only [hloop] at hpc
    cases hstep
    refine ⟨h.startLe, ?_, ⟨rfl, hpc⟩, h.exact⟩
    simpa [RingReader.accounted, hloop, ReadPc.overwritten] using haccounted
  next overwritten wc readCursor hcheck =>
    simp only [hcheck] at hpc
    obtain ⟨rfl, hcursor, hwc, hretry⟩ := hpc
    have hov : r.pc.overwritten = overwritten := by
      simp [hcheck, ReadPc.overwritten]
    split at hstep
    next hempty =>
      cases hstep
      rw [← hov]
      apply h.returnWith (by rw [hov]; exact hcursor)
      · simp only [Completed.Exact, Bool.false_eq_true, if_false]
        omega
      · simp
    next hnonempty =>
      cases hstep
      have hsum := jump_sum ring.size wc r.readCursor
      have hlt := jump_lt ring.sizePos (Nat.lt_of_not_le hnonempty)
      have hmoved : (if r.readCursor < (jump ring.size wc r.readCursor).2
            then (jump ring.size wc r.readCursor).2 else r.readCursor) =
            (jump ring.size wc r.readCursor).2 := by
        split <;> omega
      have hstart := h.startLe
      refine ⟨?_, ?_, ?_, h.exact⟩
      · simp only [hmoved]
        omega
      · have hext := range'_extend (n := (jump ring.size wc r.readCursor).1) hstart
        rw [← haccounted, hsum] at hext
        simp only [RingReader.accounted, hmoved, ReadPc.overwritten] at hext ⊢
        rw [← hext, hcheck, List.append_assoc]
        rw [hcursor, ← List.range'_append_1]
      · simp only [PcInv]
        omega
  next overwritten readCursor hslot =>
    simp only [hslot] at hpc
    obtain ⟨rfl, hcursor, hlt⟩ := hpc
    have hov : r.pc.overwritten = overwritten := by
      simp [hslot, ReadPc.overwritten]
    split at hstep
    next hlapped =>
      cases hstep
      refine ⟨h.startLe, ?_, ⟨hcursor, fun _ => hlt⟩, h.exact⟩
      simpa [RingReader.accounted, hslot, ReadPc.overwritten] using haccounted
    next hnotLapped =>
      cases hstep
      have hvalue := hring.slot_eq hlt (by simpa using hnotLapped)
      have hexact : Completed.Exact written
          (.tryRead r.callCursor ⟨ring.slot r.readCursor, true, r.pc.overwritten⟩
            (r.readCursor + 1)) := by
        simp only [Completed.Exact]
        rw [hov, ← hcursor]
        exact ⟨hvalue, rfl⟩
      have hret := h.returnWith (by rw [hov]; exact hcursor) hexact (by simp)
      rw [hov] at hret
      exact ⟨hret.startLe, hret.accounted, trivial, hret.exact⟩

theorem advanceToLive (hstep : r.advanceToLive ring = some r') : ReaderInv ring written r' := by
  have haccounted := h.accounted
  have hstart := h.startLe
  unfold RingReader.advanceToLive at hstep
  split at hstep
  next hidle =>
    split at hstep
    next hempty =>
      cases hstep
      refine ⟨h.startLe, ?_, by simp [PcInv, hidle], ?_⟩
      · simpa [RingReader.accounted, Completed.positions, counted, returned] using haccounted
      · intro c hc
        simp only [List.mem_append, List.mem_singleton] at hc
        rcases hc with hc | rfl
        · exact h.exact c hc
        · simp [Completed.Exact]
    next hbehind =>
      cases hstep
      refine ⟨by simp only; omega, ?_, by simp [PcInv, hidle], ?_⟩
      · have hext := range'_extend (n := ring.writeCursor - r.readCursor) hstart
        rw [← haccounted, Nat.add_sub_cancel' (by omega)] at hext
        simpa [RingReader.accounted, hidle, ReadPc.overwritten,
          Completed.positions, counted, returned] using hext
      · intro c hc
        simp only [List.mem_append, List.mem_singleton] at hc
        rcases hc with hc | rfl
        · exact h.exact c hc
        · simp only [Completed.Exact]
          omega
  · simp at hstep

/-- Writes only extend the log and the cursor, so they keep what a reader
knows. -/
theorem mono {ring' : RingBuffer α} {more : List α}
    (hcursor : ring.writeCursor ≤ ring'.writeCursor) :
    ReaderInv ring' (written ++ more) r := by
  refine ⟨h.startLe, h.accounted, ?_, ?_⟩
  · have hpc := h.pc
    unfold PcInv at hpc ⊢
    split <;> simp_all <;> omega
  · intro c hc
    have hexact := h.exact c hc
    cases c with
    | tryRead before result after =>
      simp only [Completed.Exact] at hexact ⊢
      split
      next hok =>
        rw [if_pos hok] at hexact
        refine ⟨?_, hexact.2⟩
        have hlt : before + result.overwritten < written.length := by
          by_contra hge
          rw [List.getElem?_eq_none (by omega)] at hexact
          simp at hexact
        rw [List.getElem?_append_left hlt]
        exact hexact.1
      next hnok =>
        rw [if_neg hnok] at hexact
        exact hexact
    | advanceToLive before discarded after => exact hexact

end ReaderInv

/-! ## The invariant of the system -/

structure SystemInv (s : RingSystem ι α) : Prop where
  holds : s.ring.Holds s.written
  readers : ∀ i r, s.readers i = some r → ReaderInv s.ring s.written r

theorem systemInv_initial [Inhabited α] (size : ℤ) :
    SystemInv (RingSystem.initial size : RingSystem ι α) where
  holds := RingBuffer.holds_new size
  readers := by
    intro i r hr
    simp [RingSystem.initial] at hr

namespace SystemInv

variable [DecidableEq ι] {s s' : RingSystem ι α}

theorem setReader (h : SystemInv s) {i : ι} (hr : ReaderInv s.ring s.written r) :
    SystemInv (s.setReader i r) := by
  refine ⟨h.holds, ?_⟩
  intro j r' hr'
  by_cases hji : j = i
  · subst hji
    simp only [RingSystem.setReader, Function.update_self, Option.some.injEq] at hr'
    exact hr' ▸ hr
  · simp only [RingSystem.setReader, Function.update_of_ne hji] at hr'
    exact h.readers j r' hr'

theorem withReader (h : SystemInv s) {i : ι} {act : RingReader α → Option (RingReader α)}
    (hact : ∀ r r', ReaderInv s.ring s.written r → act r = some r' → ReaderInv s.ring s.written r')
    (hstep : s.withReader i act = some s') :
    SystemInv s' := by
  simp only [RingSystem.withReader, Option.bind_eq_some_iff, Option.map_eq_some_iff] at hstep
  obtain ⟨r, hr, r', hr', rfl⟩ := hstep
  exact h.setReader (hact r r' (h.readers i r hr) hr')

theorem step [Inhabited α] (h : SystemInv s) {a : RingAction ι α} (hstep : s.step a = some s') :
    SystemInv s' := by
  cases a with
  | write val =>
    simp only [RingSystem.step] at hstep
    split at hstep
    · exact Option.some.inj hstep ▸ h
    next hopen =>
      cases hstep
      have hopen' : s.ring.closed = false := by simpa using hopen
      refine ⟨h.holds.write hopen' val, ?_⟩
      intro i r hr
      exact (h.readers i r hr).mono (by
        rw [RingBuffer.write_writeCursor hopen']
        omega)
  | close =>
    cases hstep
    refine ⟨h.holds.close, ?_⟩
    intro i r hr
    have hmono : ReaderInv s.ring.close (s.written ++ []) r := (h.readers i r hr).mono (by simp)
    simpa using hmono
  | newReaderAt i pos =>
    simp only [RingSystem.step] at hstep
    split at hstep
    · simp at hstep
    · split_ifs at hstep
      cases hstep
      exact h.setReader (readerInv_new _ _ _)
  | enter i => exact h.withReader (fun _ _ hr => hr.enter) hstep
  | step i => exact h.withReader (fun _ _ hr => hr.step h.holds) hstep
  | advanceToLive i =>
    exact h.withReader (fun _ _ hr => hr.advanceToLive) hstep

end SystemInv

theorem systemInv_run [DecidableEq ι] [Inhabited α] {size : ℤ} {acts : List (RingAction ι α)}
    {s : RingSystem ι α} (hrun : runFrom RingSystem.step (RingSystem.initial size) acts = some s) :
    SystemInv s :=
  runFrom_invariant (fun _ _ _ h hstep => h.step hstep) (systemInv_initial size) hrun

/-! ## Exactness of the results -/

theorem count_flatMap_positions (completed : List (Completed α)) (q : ℕ) :
    (completed.flatMap Completed.positions).count q =
      (completed.flatMap Completed.returned).count q +
        (completed.flatMap Completed.counted).count q := by
  induction completed with
  | nil => simp
  | cons c completed ih =>
    simp only [List.flatMap_cons, List.count_append, Completed.positions]
    omega

theorem flatMap_returned_sublist (completed : List (Completed α)) :
    (completed.flatMap Completed.returned).Sublist (completed.flatMap Completed.positions) := by
  induction completed with
  | nil => simp
  | cons c completed ih =>
    exact (List.sublist_append_right c.counted c.returned).append ih

namespace ReaderInv

theorem returned_pairwise (h : ReaderInv ring written r) : r.returned.Pairwise (· < ·) := by
  have hsub : r.returned.Sublist r.accounted :=
    (flatMap_returned_sublist r.completed).trans (List.sublist_append_left _ _)
  rw [h.accounted] at hsub
  exact (List.pairwise_lt_range' (s := r.start)).sublist hsub

theorem count_accounted (h : ReaderInv ring written r) (q : ℕ) :
    r.returned.count q + r.counted.count q = if r.start ≤ q ∧ q < r.readCursor then 1 else 0 := by
  have hsum : r.returned.count q + r.counted.count q = r.accounted.count q := by
    simp only [RingReader.returned, RingReader.counted, RingReader.accounted,
      List.count_append, count_flatMap_positions]
    omega
  rw [hsum, h.accounted, (List.nodup_range').count]
  have hmem : q ∈ List.range' r.start (r.readCursor - r.start) ↔
      r.start ≤ q ∧ q < r.readCursor := by
    rw [List.mem_range'_1]
    omega
  simp only [hmem]

end ReaderInv

/-- In every interleaving each successful read returns the value written at
the position that the cursor before the call and the overwrite count name, and
leaves the cursor right behind it.  The returned positions increase, and every
position between the start and the cursor was returned once or counted once. -/
theorem tryReadResult_exact [DecidableEq ι] [Inhabited α] (size : ℤ)
    (acts : List (RingAction ι α)) (s : RingSystem ι α)
    (hrun : runFrom RingSystem.step (RingSystem.initial size) acts = some s) (i : ι)
    (r : RingReader α) (hr : s.readers i = some r) :
    (∀ before result after, Completed.tryRead before result after ∈ r.completed → result.ok = true →
      s.written[before + result.overwritten]? = some result.value ∧
        after = before + result.overwritten + 1) ∧
      r.returned.Pairwise (· < ·) ∧
      ∀ q, r.returned.count q + r.counted.count q =
        if r.start ≤ q ∧ q < r.readCursor then 1 else 0 := by
  have hinv : ReaderInv s.ring s.written r := (systemInv_run hrun).readers i r hr
  refine ⟨?_, hinv.returned_pairwise, hinv.count_accounted⟩
  intro before result after hmem hok
  have hexact := hinv.exact _ hmem
  simpa [Completed.Exact, hok] using hexact

/-- A reader that is lapped twice inside one call. -/
def lappedTwice : List (RingAction ℕ ℕ) :=
  [.newReaderAt 0 0, .write 10, .enter 0, .step 0, .step 0, .step 0,
    .write 11, .write 12, .write 13, .step 0, .step 0, .step 0, .step 0,
    .write 14, .step 0, .step 0, .step 0, .step 0, .step 0, .advanceToLive 0]

theorem tryReadResult_exact_lappedTwice :
    ∃ s r, runFrom RingSystem.step (RingSystem.initial 2) lappedTwice = some s ∧
      s.readers 0 = some r ∧ r.returned = [3] ∧ ∀ q, r.returned.count q + r.counted.count q =
          if r.start ≤ q ∧ q < r.readCursor then 1 else 0 :=
  ⟨_, _, rfl, rfl, by decide, (tryReadResult_exact 2 lappedTwice _ rfl 0 _ rfl).2.2⟩

end LiveForge.Ring
