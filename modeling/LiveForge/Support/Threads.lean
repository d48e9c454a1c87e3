import LiveForge.Support.Run
import Mathlib.Algebra.Order.Group.Multiset

/-!
# Goroutines as lists of tasks

A goroutine is the list of the atomic tasks it still has to do.  Executing a
task changes the shared state, may put further tasks in front of the remaining
ones and may start other goroutines.  `exec s task = none` says that the task
is blocked in `s`.  An interleaving is a list of actions: a new goroutine starts
with the tasks of a call, or goroutine `n` executes its next task.

Which goroutine a task belongs to does not matter for most invariants.
`pending` forgets it, and the inversion lemma says what a step does to it.
-/

namespace LiveForge.Support

variable {σ τ κ : Type*}

/-! ## Interleavings -/

/-- What executing a task leads to. -/
structure Outcome (σ τ : Type*) where
  state : σ
  more : List τ
  spawned : List (List τ)

structure Threaded (σ τ : Type*) where
  state : σ
  threads : List (List τ)

inductive ThreadAction (κ : Type*) where
  | call (c : κ)
  | run (n : ℕ)
  deriving DecidableEq

namespace Threaded

def step (tasks : κ → List τ) (exec : σ → τ → Option (Outcome σ τ))
    (m : Threaded σ τ) : ThreadAction κ → Option (Threaded σ τ)
  | .call c => some { m with threads := m.threads ++ [tasks c] }
  | .run n =>
    match m.threads[n]? with
    | some (task :: rest) =>
      (exec m.state task).map fun outcome =>
        ⟨outcome.state, m.threads.set n (outcome.more ++ rest) ++ outcome.spawned⟩
    | _ => none

def pending (m : Threaded σ τ) : Multiset τ := m.threads.flatten

def Quiescent (m : Threaded σ τ) : Prop := ∀ thread ∈ m.threads, thread = []

instance (m : Threaded σ τ) : Decidable m.Quiescent :=
  inferInstanceAs (Decidable (∀ thread ∈ m.threads, thread = []))

theorem pending_of_quiescent {m : Threaded σ τ} (h : m.Quiescent) : m.pending = 0 := by
  rw [pending, List.flatten_eq_nil_iff.mpr h]
  rfl

/-- The task that goroutine `n` executes next. -/
def next (m : Threaded σ τ) (n : ℕ) : Option τ :=
  m.threads[n]?.bind List.head?

variable {tasks : κ → List τ} {exec : σ → τ → Option (Outcome σ τ)} {m m' : Threaded σ τ}

theorem flatten_set_perm (threads : List (List τ)) (n : ℕ) (task : τ) (rest more : List τ)
    (h : threads[n]? = some (task :: rest)) :
    ∃ others : Multiset τ, (threads.flatten : Multiset τ) = task ::ₘ others ∧
      ((threads.set n (more ++ rest)).flatten : Multiset τ) = ↑more + others := by
  induction threads generalizing n with
  | nil => simp at h
  | cons thread threads ih =>
    cases n with
    | zero =>
      cases h
      refine ⟨↑(rest ++ threads.flatten), ?_, ?_⟩
      · simp
      · simp [List.set_cons_zero]
    | succ n =>
      obtain ⟨others, hbefore, hafter⟩ := ih n h
      refine ⟨↑thread + others, ?_, ?_⟩
      · rw [List.flatten_cons, ← Multiset.coe_add, hbefore, Multiset.add_cons]
      · rw [List.set_cons_succ, List.flatten_cons, ← Multiset.coe_add, hafter, add_left_comm]

theorem step_cases {a : ThreadAction κ} (h : m.step tasks exec a = some m') :
    (∃ c, a = .call c ∧ m'.state = m.state ∧ m'.pending = ↑(tasks c) + m.pending) ∨
    ∃ n task outcome others, a = .run n ∧ m.next n = some task ∧
      exec m.state task = some outcome ∧ m'.state = outcome.state ∧ m.pending = task ::ₘ others ∧
          m'.pending = ↑(outcome.more ++ outcome.spawned.flatten) + others := by
  cases a with
  | call c =>
    cases h
    refine .inl ⟨c, rfl, rfl, ?_⟩
    rw [pending, List.flatten_append, add_comm]
    simp [pending]
  | run n =>
    simp only [step] at h
    split at h
    next task rest hthread =>
      obtain ⟨outcome, hexec, hresult⟩ := Option.map_eq_some_iff.mp h
      subst hresult
      obtain ⟨others, hbefore, hafter⟩ :=
        flatten_set_perm m.threads n task rest outcome.more hthread
      refine .inr ⟨n, task, outcome, others, rfl, by simp [next, hthread], hexec, rfl, hbefore, ?_⟩
      rw [pending, List.flatten_append, ← Multiset.coe_add, hafter,
        ← Multiset.coe_add, add_right_comm]
    · simp at h

theorem pending_of_next {n : ℕ} {task : τ} (h : m.next n = some task) :
    ∃ others, m.pending = task ::ₘ others := by
  obtain ⟨thread, hthread, hhead⟩ := Option.bind_eq_some_iff.mp h
  obtain ⟨rest, rfl⟩ := List.head?_eq_some_iff.mp hhead
  obtain ⟨others, hbefore, -⟩ := flatten_set_perm m.threads n task rest [] hthread
  exact ⟨others, hbefore⟩

/-! ## Progress and termination -/

theorem exists_step_of_next {n : ℕ} {task : τ} (hnext : m.next n = some task)
    (hexec : (exec m.state task).isSome) :
    ∃ m', m.step tasks exec (.run n) = some m' := by
  obtain ⟨outcome, houtcome⟩ := Option.isSome_iff_exists.mp hexec
  obtain ⟨thread, hthread, hhead⟩ := Option.bind_eq_some_iff.mp hnext
  cases thread with
  | nil => simp at hhead
  | cons first rest =>
    cases hhead
    simp [step, hthread, houtcome]

/-- If every task lowers a measure, then no schedule of goroutines, without
new calls, is longer than the measure allows. -/
theorem schedule_bounded {Inv : Threaded σ τ → Prop} (measure : Threaded σ τ → ℕ)
    (hstep : ∀ m n m', Inv m → m.step tasks exec (.run n) = some m' →
      Inv m' ∧ measure m' < measure m) {schedule : List ℕ} (hm : Inv m)
    (hrun : runFrom (step tasks exec) m (schedule.map ThreadAction.run) = some m') :
    schedule.length + measure m' ≤ measure m := by
  induction schedule generalizing m with
  | nil =>
    simp only [List.map_nil, runFrom_nil, Option.some.injEq] at hrun
    simp [hrun]
  | cons n schedule ih =>
    rw [List.map_cons, runFrom_cons_eq_some] at hrun
    obtain ⟨middle, hfirst, hrest⟩ := hrun
    obtain ⟨hmiddle, hless⟩ := hstep m n middle hm hfirst
    have hlength := ih hmiddle hrest
    rw [List.length_cons]
    omega

end Threaded

/-! ## Counting tasks -/

/-- How many members of a multiset pass a test. -/
def tally {α : Type*} (f : α → Bool) (s : Multiset α) : ℕ :=
  s.countP fun a => f a = true

section Tally

variable {α : Type*} {f : α → Bool}

@[simp] theorem tally_zero : tally f (0 : Multiset α) = 0 := rfl

theorem tally_cons (a : α) (s : Multiset α) : tally f (a ::ₘ s) = (f a).toNat + tally f s := by
  cases h : f a <;> simp [tally, h, Nat.add_comm]

theorem tally_coe_add (l : List α) (s : Multiset α) :
    tally f (↑l + s) = l.countP f + tally f s := by
  simp [tally]

theorem tally_coe (l : List α) : tally f (l : Multiset α) = l.countP f := by
  simp [tally]

theorem tally_eq_zero {s : Multiset α} : tally f s = 0 ↔ ∀ a ∈ s, f a = false := by
  simp [tally, Multiset.countP_eq_zero]

end Tally

end LiveForge.Support
