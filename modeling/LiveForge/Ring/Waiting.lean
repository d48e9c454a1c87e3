import LiveForge.Ring.Blocking
import LiveForge.Ring.Concurrent

/-!
# Readers that wait on the condition variable

`ReadResult` and `ReadResultContext` of `pkg/util/ringbuffer.go` with every
load, every lock and every broadcast as a step of its own, next to `Write`,
`RingBuffer.Close`, `RingReader.Close` and contexts that are cancelled.

`mu` is the mutex of the condition variable.  A goroutine that calls
`cond.Wait` joins the list of waiters before it gives up `mu`, and whoever
broadcasts holds `mu`, so both are single steps; a broadcast wakes all waiters,
who then lock `mu` again.  Cursors and flags are atomics and change at any time.

Of the context package the model has what the reader relies on: a function
registered with `AfterFunc` is started once its context is cancelled, at any
later time, unless it was stopped before.  Contexts with the same `Done`
channel are the same; `none` is a context without one.
-/

namespace LiveForge.Ring

open Support

variable {ι κ α : Type*}

theorem RingBuffer.length_set_buf (rb : RingBuffer α) (val : α) :
    (rb.buf.set (rb.writeCursor % rb.size) val).length = rb.size :=
  List.length_set.trans rb.bufLength

/-- The slot store and the cursor advance of `Write`.  The ring may have been
closed since `Write` looked at it. -/
def RingBuffer.store (rb : RingBuffer α) (val : α) : RingBuffer α :=
  { rb with
    buf := rb.buf.set (rb.writeCursor % rb.size) val
    writeCursor := rb.writeCursor + 1
    bufLength := rb.length_set_buf val }

/-! ## One reader -/

inductive WaitPc where
  | idle
  | entryClosed
  | entryContext
  | firstTry
  | register
  | loopClosed
  | loopContext
  | lock
  | testCursor
  | testRing
  | testReader
  | testContext
  | wait
  | parked
  | relock
  | unlock
  | afterWait
  | retry
  | ringClosed
  | readerClosed
  deriving DecidableEq

def WaitPc.holdsMu : WaitPc → Bool
  | .testCursor => true
  | .testRing => true
  | .testReader => true
  | .testContext => true
  | .wait => true
  | .unlock => true
  | _ => false

/-- Where a `RingReader.Close` stands: it holds `contextMu` and has stopped the
registered function, or it also holds `mu` and has set the flag. -/
inductive ClosePc where
  | idle
  | stopped
  | broadcasting
  deriving DecidableEq

/-- A `RingReader`, the call of its goroutine and the `Close` that is under
way.  `registration` is the context of a registered function that has neither
been started nor stopped; `results` records what the calls returned. -/
structure WaitingReader (κ α : Type*) where
  reader : RingReader α
  closed : Bool
  contextDone : Option κ
  registration : Option κ
  closing : ClosePc
  ctx : Option κ
  pc : WaitPc
  results : List (RingReadResult α)

def newWaitingReader (pos : ℕ) : WaitingReader κ α :=
  { reader := newReaderAt pos
    closed := false
    contextDone := none
    registration := none
    closing := .idle
    ctx := none
    pc := .idle
    results := [] }

namespace WaitingReader

def goto (pc : WaitPc) (r : WaitingReader κ α) : WaitingReader κ α :=
  { r with pc }

def returnWith (result : RingReadResult α) (r : WaitingReader κ α) : WaitingReader κ α :=
  { r with
    pc := .idle
    results := r.results ++ [result] }

/-- Return nothing when `stop` holds, otherwise go on. -/
def giveUpIf [Inhabited α] (stop : Bool) (pc : WaitPc)
    (r : WaitingReader κ α) : WaitingReader κ α :=
  if stop then r.returnWith noResult else r.goto pc

def startTry (pc : WaitPc) (r : WaitingReader κ α) : Option (WaitingReader κ α) :=
  r.reader.enter.map fun reader => { r with reader, pc }

/-- What a `TryReadResult` that has returned found. -/
def lastResult (reader : RingReader α) : Option (RingReadResult α) :=
  match reader.pc, reader.completed.getLast? with
  | .idle, some (.tryRead _ result _) => some result
  | _, _ => none

/-- A step of `TryReadResult`.  If it returns without a value, go on. -/
def tryStep [Inhabited α] (ring : RingBuffer α) (pc : WaitPc)
    (r : WaitingReader κ α) : Option (WaitingReader κ α) :=
  (r.reader.step ring).map fun reader =>
    match lastResult reader with
    | none => { r with reader }
    | some result =>
      if result.ok then { r with reader }.returnWith result
      else { r with reader, pc }

/-- Register a broadcast for the context, unless it is registered already. -/
def ensureContextWake [DecidableEq κ] (r : WaitingReader κ α) : WaitingReader κ α :=
  if r.closed ∨ r.ctx = r.contextDone then r
  else { r with contextDone := r.ctx, registration := r.ctx }

/-- The next step of the goroutine, if it is not blocked; `free` and
`cancelled` are the state of `mu` and of the context. -/
def step [Inhabited α] [DecidableEq κ] (ring : RingBuffer α) (free cancelled : Bool)
    (r : WaitingReader κ α) : Option (WaitingReader κ α) :=
  match r.pc with
  | .idle => none
  | .entryClosed => some (r.giveUpIf r.closed .entryContext)
  | .entryContext =>
    if cancelled then some (r.returnWith noResult) else r.startTry .firstTry
  | .firstTry => r.tryStep ring .register
  | .register =>
    if r.closing = .idle then some (r.ensureContextWake.goto .loopClosed)
    else none
  | .loopClosed => some (r.giveUpIf r.closed .loopContext)
  | .loopContext => some (r.giveUpIf cancelled .lock)
  | .lock => if free then some (r.goto .testCursor) else none
  | .testCursor =>
    if ring.writeCursor ≤ r.reader.readCursor then some (r.goto .testRing)
    else some (r.goto .unlock)
  | .testRing =>
    if ring.closed then some (r.goto .unlock) else some (r.goto .testReader)
  | .testReader =>
    if r.closed then some (r.goto .unlock) else some (r.goto .testContext)
  | .testContext =>
    if cancelled then some (r.goto .unlock) else some (r.goto .wait)
  | .wait => some (r.goto .parked)
  | .parked => none
  | .relock => if free then some (r.goto .testCursor) else none
  | .unlock => some (r.goto .afterWait)
  | .afterWait =>
    if cancelled then some (r.returnWith noResult) else r.startTry .retry
  | .retry => r.tryStep ring .ringClosed
  | .ringClosed => some (r.giveUpIf ring.closed .readerClosed)
  | .readerClosed => some (r.giveUpIf r.closed .loopClosed)

/-- Enter `ReadResultContext`; `ReadResult` has a context without a channel. -/
def call (ctx : Option κ) (r : WaitingReader κ α) : Option (WaitingReader κ α) :=
  if r.pc = .idle then some { r with ctx, pc := .entryClosed } else none

/-- `Close` locks `contextMu` and stops the registered function. -/
def stopContext (r : WaitingReader κ α) : Option (WaitingReader κ α) :=
  if r.closing = .idle then
    some { r with contextDone := none, registration := none, closing := .stopped }
  else none

def wake (r : WaitingReader κ α) : WaitingReader κ α :=
  if r.pc = .parked then r.goto .relock else r

end WaitingReader

/-! ## The system -/

inductive WritePc (α : Type*) where
  | idle
  | storing (val : α)
  | broadcasting

/-- Who has locked `mu` for longer than one step. -/
inductive Holder (ι : Type*) where
  | reader (i : ι)
  | closer (i : ι)
  deriving DecidableEq

/-- What the readers share.  `ringClosers` and `callbacks` count the goroutines
in `RingBuffer.Close` and in registered functions that have not broadcast
yet. -/
structure Shared (κ α : Type*) where
  ring : RingBuffer α
  producer : WritePc α
  ringClosers : ℕ
  callbacks : ℕ
  cancelled : κ → Bool

def Shared.contextCanceled (sh : Shared κ α) (ctx : Option κ) : Bool :=
  ctx.any sh.cancelled

structure WaitSystem (ι κ α : Type*) where
  shared : Shared κ α
  mu : Option (Holder ι)
  readers : ι → Option (WaitingReader κ α)

inductive WaitAction (ι κ α : Type*) where
  | newReaderAt (i : ι) (pos : ℕ)
  | call (i : ι) (ctx : Option κ)
  | step (i : ι)
  | write (val : α)
  | store
  | broadcastWrite
  | close
  | broadcastClose
  | cancel (c : κ)
  | startCallback (i : ι)
  | broadcastCallback
  | closeReader (i : ι)
  | storeClosed (i : ι)
  | broadcastClosed (i : ι)

namespace WaitSystem

def initial [Inhabited α] (size : ℤ) : WaitSystem ι κ α :=
  { shared :=
      { ring := newRingBuffer size
        producer := .idle
        ringClosers := 0
        callbacks := 0
        cancelled := fun _ => false }
    mu := none
    readers := fun _ => none }

variable [DecidableEq ι]

def setReader (i : ι) (r : WaitingReader κ α) (s : WaitSystem ι κ α) : WaitSystem ι κ α :=
  { s with readers := Function.update s.readers i (some r) }

@[simp] theorem setReader_self (i : ι) (r : WaitingReader κ α) (s : WaitSystem ι κ α) :
    (s.setReader i r).readers i = some r := by
  simp [setReader]

@[simp] theorem setReader_of_ne {i j : ι} (h : j ≠ i) (r : WaitingReader κ α)
    (s : WaitSystem ι κ α) :
    (s.setReader i r).readers j = s.readers j := by
  simp [setReader, h]

/-- Wake all waiters and go on with `shared`, leaving `mu` unlocked. -/
def broadcast (shared : Shared κ α) (s : WaitSystem ι κ α) : WaitSystem ι κ α :=
  { shared
    mu := none
    readers := fun i => (s.readers i).map WaitingReader.wake }

/-- The holder of `mu` after reader `i` went from `pc` to `pc'`. -/
def muAfter (i : ι) (pc pc' : WaitPc) (mu : Option (Holder ι)) : Option (Holder ι) :=
  if pc'.holdsMu then some (.reader i) else if pc.holdsMu then none else mu

variable [DecidableEq κ]

def step [Inhabited α] (s : WaitSystem ι κ α) : WaitAction ι κ α → Option (WaitSystem ι κ α)
  | .newReaderAt i pos =>
    match s.readers i with
    | none => some (s.setReader i (newWaitingReader pos))
    | some _ => none
  | .call i ctx =>
    (s.readers i).bind fun r => (r.call ctx).map fun r' => s.setReader i r'
  | .step i =>
    (s.readers i).bind fun r =>
      (r.step s.shared.ring s.mu.isNone (s.shared.contextCanceled r.ctx)).map fun r' =>
          { s.setReader i r' with mu := muAfter i r.pc r'.pc s.mu }
  | .write val =>
    match s.shared.producer with
    | .idle =>
      if s.shared.ring.closed then some s
      else some { s with shared.producer := .storing val }
    | _ => none
  | .store =>
    match s.shared.producer with
    | .storing val =>
      some { s with
        shared.ring := s.shared.ring.store val
        shared.producer := .broadcasting }
    | _ => none
  | .broadcastWrite =>
    match s.shared.producer, s.mu with
    | .broadcasting, none =>
      some (s.broadcast { s.shared with producer := .idle })
    | _, _ => none
  | .close =>
    some { s with
      shared.ring := s.shared.ring.close
      shared.ringClosers := s.shared.ringClosers + 1 }
  | .broadcastClose =>
    match s.shared.ringClosers, s.mu with
    | n + 1, none => some (s.broadcast { s.shared with ringClosers := n })
    | _, _ => none
  | .cancel c =>
    some { s with
      shared.cancelled := Function.update s.shared.cancelled c true }
  | .startCallback i =>
    (s.readers i).bind fun r =>
      if r.registration.any s.shared.cancelled then
        some { s.setReader i { r with registration := none } with
          shared.callbacks := s.shared.callbacks + 1 }
      else none
  | .broadcastCallback =>
    match s.shared.callbacks, s.mu with
    | n + 1, none => some (s.broadcast { s.shared with callbacks := n })
    | _, _ => none
  | .closeReader i =>
    (s.readers i).bind fun r => r.stopContext.map fun r' => s.setReader i r'
  | .storeClosed i =>
    (s.readers i).bind fun r =>
      match r.closing, s.mu with
      | .stopped, none =>
        some { s.setReader i
            { r with closed := true, closing := .broadcasting } with
          mu := some (.closer i) }
      | _, _ => none
  | .broadcastClosed i =>
    (s.readers i).bind fun r =>
      match r.closing with
      | .broadcasting =>
        some ((s.setReader i { r with closing := .idle }).broadcast s.shared)
      | _ => none

end WaitSystem

/-! ## What a step can do -/

/-- Cursors advance, flags are set. -/
structure Shared.Later (sh sh' : Shared κ α) : Prop where
  size : sh'.ring.size = sh.ring.size
  cursor : sh.ring.writeCursor ≤ sh'.ring.writeCursor
  closed : sh.ring.closed = true → sh'.ring.closed = true
  cancelled : ∀ c, sh.cancelled c = true → sh'.cancelled c = true

/-- Nobody has broadcast, and whoever changed something is about to. -/
structure Shared.Unsent (sh sh' : Shared κ α) : Prop where
  data : sh.producer = .broadcasting → sh'.producer = .broadcasting
  written : sh'.ring.writeCursor = sh.ring.writeCursor ∨ sh'.producer = .broadcasting
  ring : sh'.ring.closed = true → sh.ring.closed = true ∨ 0 < sh'.ringClosers
  closers : sh.ringClosers ≤ sh'.ringClosers
  callbacks : sh.callbacks ≤ sh'.callbacks

def WaitAction.isStore : WaitAction ι κ α → Bool
  | .store => true
  | _ => false

def WaitAction.isBroadcast : WaitAction ι κ α → Bool
  | .broadcastWrite => true
  | .broadcastClose => true
  | .broadcastCallback => true
  | .broadcastClosed _ => true
  | _ => false

/-- The action changes what the readers share and wakes nobody. -/
def WaitAction.isSilent : WaitAction ι κ α → Bool
  | .write _ => true
  | .store => true
  | .close => true
  | .cancel _ => true
  | _ => false

/-- What one action of the interleaving can do. -/
inductive WaitMove [DecidableEq ι] [DecidableEq κ] [Inhabited α]
    (s s' : WaitSystem ι κ α) : WaitAction ι κ α → Prop where
  | created (i : ι) (pos : ℕ) (fresh : s.readers i = none)
      (moved : s' = s.setReader i (newWaitingReader pos)) :
      WaitMove s s' (.newReaderAt i pos)
  | called (i : ι) (ctx : Option κ) (r : WaitingReader κ α)
      (reader : s.readers i = some r) (idle : r.pc = .idle)
      (moved : s' = s.setReader i { r with ctx, pc := .entryClosed }) :
      WaitMove s s' (.call i ctx)
  | stepped (i : ι) (r r' : WaitingReader κ α)
      (reader : s.readers i = some r)
      (next : r.step s.shared.ring s.mu.isNone (s.shared.contextCanceled r.ctx) = some r')
      (moved : s' = { s.setReader i r' with
        mu := WaitSystem.muAfter i r.pc r'.pc s.mu }) :
      WaitMove s s' (.step i)
  | unsent {a : WaitAction ι κ α} (shared : Shared κ α)
      (silent : a.isSilent = true) (later : s.shared.Later shared)
      (waiting : s.shared.Unsent shared)
      (written : shared.ring.writeCursor ≤
        s.shared.ring.writeCursor + if a.isStore then 1 else 0)
      (moved : s' = { s with shared }) : WaitMove s s' a
  | broadcast {a : WaitAction ι κ α} (shared : Shared κ α)
      (broadcasts : a.isBroadcast = true) (free : s.mu = none)
      (later : s.shared.Later shared) (written : shared.ring = s.shared.ring)
      (moved : s' = s.broadcast shared) : WaitMove s s' a
  | started (i : ι) (r : WaitingReader κ α) (reader : s.readers i = some r)
      (registered : r.registration.any s.shared.cancelled = true)
      (moved : s' = { s.setReader i { r with registration := none } with
        shared.callbacks := s.shared.callbacks + 1 }) :
      WaitMove s s' (.startCallback i)
  | stopped (i : ι) (r : WaitingReader κ α) (reader : s.readers i = some r)
      (idle : r.closing = .idle)
      (moved : s' = s.setReader i { r with
        contextDone := none, registration := none, closing := .stopped }) :
      WaitMove s s' (.closeReader i)
  | closed (i : ι) (r : WaitingReader κ α) (reader : s.readers i = some r)
      (stopped : r.closing = .stopped) (free : s.mu = none)
      (moved : s' = { s.setReader i { r with
          closed := true, closing := .broadcasting } with
        mu := some (.closer i) }) :
      WaitMove s s' (.storeClosed i)
  | returned (i : ι) (r : WaitingReader κ α) (reader : s.readers i = some r)
      (closing : r.closing = .broadcasting)
      (moved : s' = (s.setReader i { r with closing := .idle }).broadcast s.shared) :
      WaitMove s s' (.broadcastClosed i)

theorem Shared.Later.refl (sh : Shared κ α) : sh.Later sh :=
  ⟨rfl, le_rfl, id, fun _ => id⟩

theorem WaitMove.of_step [DecidableEq ι] [DecidableEq κ] [Inhabited α] {s s' : WaitSystem ι κ α}
    {a : WaitAction ι κ α} (hstep : s.step a = some s') :
    WaitMove s s' a := by
  cases a with
  | newReaderAt i pos =>
    simp only [WaitSystem.step] at hstep
    split at hstep
    next hnone => exact .created i pos hnone (Option.some.inj hstep).symm
    · cases hstep
  | call i ctx =>
    obtain ⟨r, hr, hcalled⟩ := Option.bind_eq_some_iff.mp hstep
    obtain ⟨r', hr', hmoved⟩ := Option.map_eq_some_iff.mp hcalled
    unfold WaitingReader.call at hr'
    split at hr'
    next hidle =>
      cases hr'
      exact .called i ctx r hr hidle hmoved.symm
    · exact absurd hr'.symm (Option.some_ne_none _)
  | step i =>
    obtain ⟨r, hr, hgoes⟩ := Option.bind_eq_some_iff.mp hstep
    obtain ⟨r', hr', hmoved⟩ := Option.map_eq_some_iff.mp hgoes
    exact .stepped i r r' hr hr' hmoved.symm
  | write val =>
    simp only [WaitSystem.step] at hstep
    split at hstep
    next hidle =>
      split at hstep
      · cases hstep
        exact .unsent s.shared rfl (.refl _)
          ⟨id, .inl rfl, .inl, le_rfl, le_rfl⟩ (Nat.le_add_right _ _) rfl
      · refine .unsent _ rfl ?_ ?_ ?_ (Option.some.inj hstep).symm
        · exact ⟨rfl, le_rfl, id, fun _ => id⟩
        · refine ⟨?_, .inl rfl, .inl, le_rfl, le_rfl⟩
          intro hbroadcasting
          simp [hidle] at hbroadcasting
        · exact Nat.le_add_right _ _
    · cases hstep
  | store =>
    simp only [WaitSystem.step] at hstep
    split at hstep
    next val hstoring =>
      refine .unsent _ rfl ?_ ?_ ?_ (Option.some.inj hstep).symm
      · exact ⟨rfl, Nat.le_succ _, id, fun _ => id⟩
      · exact ⟨fun _ => rfl, .inr rfl, .inl, le_rfl, le_rfl⟩
      · exact le_rfl
    · cases hstep
  | broadcastWrite | broadcastClose | broadcastCallback =>
    simp only [WaitSystem.step] at hstep
    split at hstep
    next _ hfree =>
      refine .broadcast _ rfl hfree ?_ ?_ (Option.some.inj hstep).symm
      · exact ⟨rfl, le_rfl, id, fun _ => id⟩
      · rfl
    · cases hstep
  | close =>
    refine .unsent _ rfl ?_ ?_ ?_ (Option.some.inj hstep).symm
    · exact ⟨rfl, le_rfl, fun _ => rfl, fun _ => id⟩
    · exact ⟨id, .inl rfl, fun _ => .inr (Nat.succ_pos _), Nat.le_succ _, le_rfl⟩
    · exact Nat.le_add_right _ _
  | cancel c =>
    refine .unsent _ rfl ?_ ?_ ?_ (Option.some.inj hstep).symm
    · refine ⟨rfl, le_rfl, id, ?_⟩
      intro c' hc'
      by_cases heq : c' = c
      · subst heq
        exact Function.update_self _ _ _
      · exact (Function.update_of_ne heq _ _).trans hc'
    · exact ⟨id, .inl rfl, .inl, le_rfl, le_rfl⟩
    · exact Nat.le_add_right _ _
  | startCallback i =>
    obtain ⟨r, hr, hstarts⟩ := Option.bind_eq_some_iff.mp hstep
    split_ifs at hstarts with hregistered
    exact .started i r hr hregistered (Option.some.inj hstarts).symm
  | closeReader i =>
    obtain ⟨r, hr, hcloses⟩ := Option.bind_eq_some_iff.mp hstep
    obtain ⟨r', hr', hmoved⟩ := Option.map_eq_some_iff.mp hcloses
    unfold WaitingReader.stopContext at hr'
    split at hr'
    next hidle =>
      cases hr'
      exact .stopped i r hr hidle hmoved.symm
    · exact absurd hr'.symm (Option.some_ne_none _)
  | storeClosed i =>
    obtain ⟨r, hr, hcloses⟩ := Option.bind_eq_some_iff.mp hstep
    split at hcloses
    next hstopped hfree =>
      exact .closed i r hr hstopped hfree (Option.some.inj hcloses).symm
    · cases hcloses
  | broadcastClosed i =>
    obtain ⟨r, hr, hcloses⟩ := Option.bind_eq_some_iff.mp hstep
    split at hcloses
    next hclosing =>
      exact .returned i r hr hclosing (Option.some.inj hcloses).symm
    · cases hcloses

end LiveForge.Ring
