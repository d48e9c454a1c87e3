import LiveForge.Support.Window

/-!
# The ring buffer of `pkg/util`

`RingBuffer` stores the value of logical position `i` at slot `i % size`; its
write cursor counts the values written.  The slot array and the cursor are
changed in one locked step, so a ring is a window of the log of everything ever
written.  `RingBuffer.Holds` states this, and every operation preserves it.

Cursors are natural numbers.  The source computes `oldest` as `wc - size`,
which is negative while the ring is not full; no nonnegative read cursor is
below it then, and none is below the truncated difference either.
-/

namespace LiveForge.Ring

open Support

variable {α : Type*} {log : List α}

structure RingBuffer (α : Type*) where
  buf : List α
  size : ℕ
  writeCursor : ℕ
  closed : Bool
  sizePos : 0 < size
  bufLength : buf.length = size

/-- A ring of the given capacity whose slots hold the zero value; a
nonpositive capacity is replaced by one. -/
def newRingBuffer [Inhabited α] (size : ℤ) : RingBuffer α :=
  let capacity := if size ≤ 0 then 1 else size.toNat
  { buf := List.replicate capacity default
    size := capacity
    writeCursor := 0
    closed := false
    sizePos := by
      simp only [capacity]
      split <;> omega
    bufLength := by simp }

namespace RingBuffer

/-- `Write` stores the value and advances the cursor in one step, and does
nothing once the ring is closed. -/
def write (rb : RingBuffer α) (val : α) : RingBuffer α :=
  if rb.closed then rb
  else
    { rb with
      buf := rb.buf.set (rb.writeCursor % rb.size) val
      writeCursor := rb.writeCursor + 1
      bufLength := by simpa using rb.bufLength }

def close (rb : RingBuffer α) : RingBuffer α :=
  { rb with closed := true }

def slot (rb : RingBuffer α) (pos : ℕ) : α :=
  rb.buf.get ⟨pos % rb.size, by
    rw [rb.bufLength]
    exact Nat.mod_lt _ rb.sizePos⟩

/-- The writer has overwritten the slot of `readCursor`. -/
def lapped (rb : RingBuffer α) (readCursor : ℕ) : Bool :=
  decide (readCursor < rb.writeCursor - rb.size)

@[simp] theorem close_writeCursor (rb : RingBuffer α) : rb.close.writeCursor = rb.writeCursor := rfl

@[simp] theorem close_closed (rb : RingBuffer α) : rb.close.closed = true := rfl

@[simp] theorem write_size (rb : RingBuffer α) (val : α) : (rb.write val).size = rb.size := by
  unfold write
  split <;> rfl

@[simp] theorem write_closed (rb : RingBuffer α) (val : α) : (rb.write val).closed = rb.closed := by
  unfold write
  split <;> rfl

variable {rb : RingBuffer α}

theorem write_writeCursor (hopen : rb.closed = false) (val : α) :
    (rb.write val).writeCursor = rb.writeCursor + 1 := by
  simp [write, hopen]

theorem writeCursor_le_write (rb : RingBuffer α) (val : α) :
    rb.writeCursor ≤ (rb.write val).writeCursor := by
  unfold write
  split
  · exact le_rfl
  · exact Nat.le_succ _

/-- The ring is the window of `log`, the list of all values written so far. -/
structure Holds (rb : RingBuffer α) (log : List α) : Prop where
  cursor : rb.writeCursor = log.length
  window : HoldsWindow rb.buf log

theorem holds_new [Inhabited α] (size : ℤ) : (newRingBuffer size : RingBuffer α).Holds [] where
  cursor := rfl
  window i hi := by simp at hi

theorem Holds.write (h : rb.Holds log) (hopen : rb.closed = false) (val : α) :
    (rb.write val).Holds (log ++ [val]) := by
  have hpos : 0 < rb.buf.length := by
    rw [rb.bufLength]
    exact rb.sizePos
  constructor
  · rw [write_writeCursor hopen, h.cursor]
    simp
  · have hwindow := h.window.append hpos val
    rw [rb.bufLength, ← h.cursor] at hwindow
    simpa [RingBuffer.write, hopen] using hwindow

theorem Holds.close (h : rb.Holds log) : rb.close.Holds log :=
  ⟨h.cursor, h.window⟩

/-- A slot inside the window still holds the value written at its position. -/
theorem Holds.slot_eq (h : rb.Holds log) {pos : ℕ} (hlt : pos < rb.writeCursor)
    (hnotLapped : rb.lapped pos = false) :
    log[pos]? = some (rb.slot pos) := by
  have hlt' : pos < log.length := h.cursor ▸ hlt
  have hwindow : log.length ≤ pos + rb.buf.length := by
    have hle : rb.writeCursor - rb.size ≤ pos := by
      simpa [RingBuffer.lapped] using hnotLapped
    rw [rb.bufLength, ← h.cursor]
    omega
  have hslot := h.window pos hlt' hwindow
  rw [← hslot, rb.bufLength]
  simp [RingBuffer.slot]

end RingBuffer

/-! ## Reading without a concurrent writer -/

/-- `RingReadResult` binds overwrite metadata to the value of one read. -/
structure RingReadResult (α : Type*) where
  value : α
  ok : Bool
  overwritten : ℕ

/-- The jump of a reader that was overtaken: how many positions it counts as
overwritten and where it continues. -/
def jump (size wc readCursor : ℕ) : ℕ × ℕ :=
  let oldest := wc - size
  if readCursor < oldest then (oldest - readCursor, oldest) else (0, readCursor)

theorem jump_sum (size wc readCursor : ℕ) :
    readCursor + (jump size wc readCursor).1 = (jump size wc readCursor).2 := by
  simp only [jump]
  split
  · omega
  · rfl

variable {readCursor : ℕ} {rb : RingBuffer α}

theorem jump_lt {size wc : ℕ} (hsize : 0 < size) (hlt : readCursor < wc) :
    (jump size wc readCursor).2 < wc := by
  simp only [jump]
  split
  · omega
  · exact hlt

theorem oldest_le_jump (size wc readCursor : ℕ) : wc - size ≤ (jump size wc readCursor).2 := by
  simp only [jump]
  split
  · exact le_rfl
  · omega

/-- The loop of `TryReadResult`, for a caller that excludes writers: the write
cursor is the same at each load.  The result carries the read cursor left
behind.  `fuel` bounds the retries. -/
def tryReadLoop [Inhabited α] (rb : RingBuffer α) : ℕ → ℕ → ℕ → RingReadResult α × ℕ
  | 0, overwritten, readCursor =>
    (⟨default, false, overwritten⟩, readCursor)
  | fuel + 1, overwritten, readCursor =>
    if rb.writeCursor ≤ readCursor then
      (⟨default, false, overwritten⟩, readCursor)
    else
      let jumped := jump rb.size rb.writeCursor readCursor
      if rb.lapped jumped.2 then
        tryReadLoop rb fuel (overwritten + jumped.1) jumped.2
      else
        (⟨rb.slot jumped.2, true, overwritten + jumped.1⟩, jumped.2 + 1)

def tryReadResult [Inhabited α] (rb : RingBuffer α) (readCursor : ℕ) : RingReadResult α × ℕ :=
  tryReadLoop rb 1 0 readCursor

/-- Without a writer the re-check under the lock never fails, so one iteration
decides the read whatever number of retries is allowed. -/
theorem tryReadLoop_eq [Inhabited α] (rb : RingBuffer α) (fuel overwritten readCursor : ℕ) :
    tryReadLoop rb (fuel + 1) overwritten readCursor =
      if rb.writeCursor ≤ readCursor then (⟨default, false, overwritten⟩, readCursor)
      else
        (⟨rb.slot (jump rb.size rb.writeCursor readCursor).2, true,
          overwritten + (jump rb.size rb.writeCursor readCursor).1⟩,
          (jump rb.size rb.writeCursor readCursor).2 + 1) := by
  have hlapped : rb.lapped (jump rb.size rb.writeCursor readCursor).2 = false := by
    simpa [RingBuffer.lapped] using oldest_le_jump rb.size rb.writeCursor readCursor
  simp [tryReadLoop, hlapped]

theorem tryReadResult_ok_iff [Inhabited α] :
    (tryReadResult rb readCursor).1.ok = true ↔ readCursor < rb.writeCursor := by
  rw [tryReadResult, tryReadLoop_eq]
  split
  next hempty => simp [hempty]
  next hsome => simpa using hsome

theorem le_tryReadResult_cursor [Inhabited α] (rb : RingBuffer α) (readCursor : ℕ) :
    readCursor ≤ (tryReadResult rb readCursor).2 := by
  have hsum := jump_sum rb.size rb.writeCursor readCursor
  rw [tryReadResult, tryReadLoop_eq]
  split
  · exact le_rfl
  · omega

/-- A read that finds its own position neither overwritten nor unwritten
returns the value written there. -/
theorem tryReadResult_of_holds [Inhabited α] (h : rb.Holds log)
    (hok : (tryReadResult rb readCursor).1.ok = true)
    (hnone : (tryReadResult rb readCursor).1.overwritten = 0) :
    log[readCursor]? = some (tryReadResult rb readCursor).1.value ∧
      (tryReadResult rb readCursor).2 = readCursor + 1 := by
  simp only [tryReadResult, tryReadLoop_eq] at hok hnone ⊢
  by_cases hempty : rb.writeCursor ≤ readCursor
  · simp [hempty] at hok
  · simp only [hempty, if_false] at hnone ⊢
    have hsame : (jump rb.size rb.writeCursor readCursor).2 = readCursor := by
      have hsum := jump_sum rb.size rb.writeCursor readCursor
      omega
    rw [hsame]
    refine ⟨h.slot_eq (by omega) ?_, rfl⟩
    have hold := oldest_le_jump rb.size rb.writeCursor readCursor
    rw [hsame] at hold
    simpa [RingBuffer.lapped] using hold

theorem tryReadResult_of_retained [Inhabited α] (h : rb.writeCursor ≤ readCursor + rb.size) :
    (tryReadResult rb readCursor).1.overwritten = 0 ∧ (readCursor < rb.writeCursor →
        (tryReadResult rb readCursor).1.ok = true) := by
  have hjump : jump rb.size rb.writeCursor readCursor = (0, readCursor) := by
    rw [jump, if_neg (by omega)]
  simp only [tryReadResult, tryReadLoop_eq, hjump]
  split
  next hempty => exact ⟨rfl, fun hlt => absurd hempty (by omega)⟩
  · exact ⟨rfl, fun _ => rfl⟩

theorem lapped_of_overwritten [Inhabited α] (h : 0 < (tryReadResult rb readCursor).1.overwritten) :
    rb.lapped readCursor = true := by
  by_contra hnot
  have hretained : rb.writeCursor ≤ readCursor + rb.size := by
    simp only [RingBuffer.lapped, decide_eq_true_eq] at hnot
    omega
  have hzero := (tryReadResult_of_retained hretained).1
  omega

theorem retained_of_tryReadResult [Inhabited α] (hok : (tryReadResult rb readCursor).1.ok = true)
    (hnone : (tryReadResult rb readCursor).1.overwritten = 0) :
    rb.writeCursor ≤ readCursor + rb.size := by
  simp only [tryReadResult, tryReadLoop_eq] at hok hnone
  by_cases hempty : rb.writeCursor ≤ readCursor
  · simp [hempty] at hok
  · simp only [hempty, if_false] at hnone
    have hsum := jump_sum rb.size rb.writeCursor readCursor
    have hold := oldest_le_jump rb.size rb.writeCursor readCursor
    omega

end LiveForge.Ring
