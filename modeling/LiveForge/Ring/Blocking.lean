import LiveForge.Ring.Buffer

/-!
# Blocking reads

`ReadResultContext` of `pkg/util/ringbuffer.go`, as one goroutine sees it: it
tries to read, waits, and tries again.  Between two steps the ring may change.
A call of `TryReadResult` is one step, and a waiting reader goes on as soon as
it has a reason to.
-/

namespace LiveForge.Ring

variable {α : Type*} {rb : RingBuffer α} {readCursor : ℕ}

inductive BlockingPc where
  | entry
  | first
  | loop
  | wait
  | woken
  | retry
  | afterRetry

inductive BlockingStep (α : Type*) where
  | goto (pc : BlockingPc)
  | returned (result : RingReadResult α) (readCursor : ℕ)

/-- The zero result of a read that gives up. -/
def noResult [Inhabited α] : RingReadResult α := ⟨default, false, 0⟩

/-- A reader waits while it is open, its context is alive and the open ring has
nothing new for it. -/
def mustWait (rb : RingBuffer α) (readCursor : ℕ) (closed cancelled : Bool) : Bool :=
  decide (rb.writeCursor ≤ readCursor) && !rb.closed && !closed && !cancelled

def stopIf [Inhabited α] (stop : Bool) (readCursor : ℕ) (pc : BlockingPc) : BlockingStep α :=
  if stop then .returned noResult readCursor else .goto pc

def tryOr [Inhabited α] (rb : RingBuffer α) (readCursor : ℕ)
    (pc : BlockingPc) : BlockingStep α :=
  let read := tryReadResult rb readCursor
  if read.1.ok then .returned read.1 read.2 else .goto pc

/-- The next step of the call; `closed` and `cancelled` are the state of the
reader and of the context.  There is none while the reader has to wait. -/
def readResultContextStep [Inhabited α] (rb : RingBuffer α) (readCursor : ℕ)
    (closed cancelled : Bool) : BlockingPc → Option (BlockingStep α)
  | .entry => some (stopIf (closed || cancelled) readCursor .first)
  | .first => some (tryOr rb readCursor .loop)
  | .loop => some (stopIf (closed || cancelled) readCursor .wait)
  | .wait =>
    if mustWait rb readCursor closed cancelled then none
    else some (.goto .woken)
  | .woken => some (stopIf cancelled readCursor .retry)
  | .retry => some (tryOr rb readCursor .afterRetry)
  | .afterRetry => some (stopIf (rb.closed || closed) readCursor .loop)

/-- What a goroutine that has stopped waiting knows. -/
def BlockingPc.Justified (rb : RingBuffer α) (readCursor : ℕ)
    (closed cancelled : Bool) : BlockingPc → Prop
  | .woken => mustWait rb readCursor closed cancelled = false
  | .retry => readCursor < rb.writeCursor ∨ rb.closed = true ∨ closed = true
  | .afterRetry => rb.closed = true ∨ closed = true
  | _ => True

/-- How many steps a call still takes once it need not wait. -/
def BlockingPc.rank : BlockingPc → ℕ
  | .entry => 7
  | .first => 6
  | .loop => 5
  | .wait => 4
  | .woken => 3
  | .retry => 2
  | .afterRetry => 1

theorem mustWait_eq_false {closed cancelled : Bool} :
    mustWait rb readCursor closed cancelled = false ↔
      readCursor < rb.writeCursor ∨ rb.closed = true ∨ closed = true ∨ cancelled = true := by
  rw [mustWait, Bool.and_eq_false_iff, Bool.and_eq_false_iff,
    Bool.and_eq_false_iff, decide_eq_false_iff_not, not_le]
  simp only [Bool.not_eq_false', or_assoc]

section Steps

variable [Inhabited α] {closed cancelled : Bool} {pc : BlockingPc}

/-- The two ways in which a call ends. -/
inductive ReturnedBy (rb : RingBuffer α) (readCursor : ℕ)
    (closed cancelled : Bool) (result : RingReadResult α) (cursor : ℕ) :
    Prop where
  | value (ok : result.ok = true)
      (read : tryReadResult rb readCursor = (result, cursor))
  | gaveUp (nothing : result = noResult) (unmoved : cursor = readCursor)
      (reason : cancelled = true ∨ closed = true ∨ rb.closed = true)

variable {result : RingReadResult α} {cursor : ℕ} {next : BlockingPc} {stop : Bool}

theorem stopIf_returned (h : stopIf stop readCursor pc = .returned result cursor)
    (hstop : stop = true → cancelled = true ∨ closed = true ∨ rb.closed = true) :
    ReturnedBy rb readCursor closed cancelled result cursor := by
  unfold stopIf at h
  split_ifs at h with hyes
  simp only [BlockingStep.returned.injEq] at h
  exact .gaveUp h.1.symm h.2.symm (hstop hyes)

theorem tryOr_returned (h : tryOr rb readCursor pc = .returned result cursor) :
    ReturnedBy rb readCursor closed cancelled result cursor := by
  unfold tryOr at h
  dsimp only at h
  split_ifs at h with hok
  simp only [BlockingStep.returned.injEq] at h
  exact .value (h.1 ▸ hok) (Prod.ext h.1 h.2)

theorem stopIf_goto (h : (stopIf stop readCursor pc : BlockingStep α) = .goto next) :
    stop = false ∧ next = pc := by
  unfold stopIf at h
  split_ifs at h with hno
  exact ⟨by simpa using hno, (BlockingStep.goto.inj h).symm⟩

theorem tryOr_goto (h : tryOr rb readCursor pc = .goto next) :
    rb.writeCursor ≤ readCursor ∧ next = pc := by
  unfold tryOr at h
  dsimp only at h
  split_ifs at h with hempty
  rw [tryReadResult_ok_iff, not_lt] at hempty
  exact ⟨hempty, (BlockingStep.goto.inj h).symm⟩

theorem readResultContextStep_returned
    (h : readResultContextStep rb readCursor closed cancelled pc = some (.returned result cursor)) :
    ReturnedBy rb readCursor closed cancelled result cursor := by
  have halive : (closed || cancelled) = true →
      cancelled = true ∨ closed = true ∨ rb.closed = true := by
    simp only [Bool.or_eq_true]
    tauto
  cases pc with
  | entry | loop => exact stopIf_returned (Option.some.inj h) halive
  | first | retry => exact tryOr_returned (Option.some.inj h)
  | wait =>
    simp only [readResultContextStep] at h
    split_ifs at h
    simp at h
  | woken => exact stopIf_returned (Option.some.inj h) .inl
  | afterRetry =>
    refine stopIf_returned (Option.some.inj h) ?_
    simp only [Bool.or_eq_true]
    tauto

/-- Nobody waits twice in one call: a step to another place goes forward. -/
theorem readResultContextStep_goto (hpc : pc.Justified rb readCursor closed cancelled)
    (h : readResultContextStep rb readCursor closed cancelled pc = some (.goto next)) :
    next.Justified rb readCursor closed cancelled ∧ next.rank < pc.rank := by
  cases pc with
  | entry | loop =>
    obtain ⟨-, rfl⟩ := stopIf_goto (Option.some.inj h)
    exact ⟨trivial, by decide⟩
  | first =>
    obtain ⟨-, rfl⟩ := tryOr_goto (Option.some.inj h)
    exact ⟨trivial, by decide⟩
  | wait =>
    simp only [readResultContextStep] at h
    split_ifs at h with hgo
    obtain rfl := BlockingStep.goto.inj (Option.some.inj h)
    exact ⟨Bool.eq_false_of_not_eq_true hgo, by decide⟩
  | woken =>
    obtain ⟨halive, rfl⟩ := stopIf_goto (Option.some.inj h)
    refine ⟨?_, by decide⟩
    rw [BlockingPc.Justified, mustWait_eq_false] at hpc
    rcases hpc with hdata | hring | hclosed | hcancelled
    · exact .inl hdata
    · exact .inr (.inl hring)
    · exact .inr (.inr hclosed)
    · rw [halive] at hcancelled
      simp at hcancelled
  | retry =>
    obtain ⟨hempty, rfl⟩ := tryOr_goto (Option.some.inj h)
    exact ⟨hpc.resolve_left (by omega), by decide⟩
  | afterRetry =>
    obtain ⟨hopen, rfl⟩ := stopIf_goto (Option.some.inj h)
    rw [Bool.or_eq_false_iff] at hopen
    rw [BlockingPc.Justified, hopen.1, hopen.2] at hpc
    simp at hpc

/-- Only a reader that has to wait cannot go on. -/
theorem readResultContextStep_isSome (h : mustWait rb readCursor closed cancelled = false) :
    (readResultContextStep rb readCursor closed cancelled pc).isSome := by
  cases pc with
  | wait => simp [readResultContextStep, h]
  | entry | first | loop | woken | retry | afterRetry => rfl

end Steps

/-- What a goroutine knows stays true while the ring fills up or is closed, the
reader is closed and the context is cancelled. -/
theorem BlockingPc.Justified.mono {rb' : RingBuffer α} {closed closed' : Bool}
    {cancelled cancelled' : Bool} {pc : BlockingPc}
    (h : pc.Justified rb readCursor closed cancelled) (hcursor : rb.writeCursor ≤ rb'.writeCursor)
    (hring : rb.closed = true → rb'.closed = true) (hclosed : closed = true → closed' = true)
    (hcancelled : cancelled = true → cancelled' = true) :
    pc.Justified rb' readCursor closed' cancelled' := by
  cases pc with
  | woken =>
    rw [Justified, mustWait_eq_false] at h ⊢
    rcases h with hdata | hr | hc | hx
    · exact .inl (hdata.trans_le hcursor)
    · exact .inr (.inl (hring hr))
    · exact .inr (.inr (.inl (hclosed hc)))
    · exact .inr (.inr (.inr (hcancelled hx)))
  | retry =>
    rcases h with hdata | hr | hc
    · exact .inl (hdata.trans_le hcursor)
    · exact .inr (.inl (hring hr))
    · exact .inr (.inr (hclosed hc))
  | afterRetry => exact h.imp hring hclosed
  | entry | first | loop | wait => trivial

end LiveForge.Ring
