import LiveForge.Support.Run
import Mathlib.Data.List.Infix
import Mathlib.Data.List.TakeDrop

/-!
# Sliding windows

A window on a growing list shows its newest items.  The windows one sees over
time are pieces of one list, so an item can be found again by its position in
that list, however far the window has moved.

Counting marked items from the start of the window gives an item the same number
in all windows only as long as no marked item has left.
-/

namespace LiveForge.Support

variable {α : Type*}

/-- The items that left the window, and those in it. -/
structure Window (α : Type*) where
  evicted : List α := []
  kept : List α := []

namespace Window

def all (w : Window α) : List α := w.evicted ++ w.kept

/-- A new item; of all items the last `n` are kept. -/
def push (n : ℕ) (w : Window α) (x : α) : Window α :=
  let items := w.kept ++ [x]
  { evicted := w.evicted ++ items.take (items.length - n)
    kept := items.drop (items.length - n) }

theorem all_push (n : ℕ) (w : Window α) (x : α) : (w.push n x).all = w.all ++ [x] := by
  simp [all, push]

variable {w v : Window α} {n i : ℕ}

theorem push_of_lt (h : w.kept.length < n) (x : α) :
    w.push n x = { w with kept := w.kept ++ [x] } := by
  have hnone : (w.kept ++ [x]).length - n = 0 := by
    rw [List.length_append, List.length_singleton]
    omega
  simp only [push, hnone, List.take_zero, List.append_nil, List.drop_zero]

theorem push_of_full {first : α} {rest : List α} (h : w.kept = first :: rest) (x : α) :
    w.push w.kept.length x = { evicted := w.evicted ++ [first], kept := rest ++ [x] } := by
  have hone : (w.kept ++ [x]).length - w.kept.length = 1 := by
    rw [List.length_append, List.length_singleton]
    omega
  simp only [push, hone]
  rw [h]
  rfl

/-! ## Windows over time -/

/-- The windows seen so far, and the current one, which is among them. -/
inductive History (n : ℕ) : List (Window α) → Window α → Prop where
  | start : History n [{}] {}
  | stay {seen w} : History n seen w → History n (seen ++ [w]) w
  | push {seen w} (x : α) : History n seen w →
      History n (seen ++ [w.push n x]) (w.push n x)

namespace History

variable {seen : List (Window α)}

theorem current_mem (h : History n seen w) : w ∈ seen := by
  cases h with
  | start => exact List.mem_singleton_self _
  | stay | push => exact List.mem_append_right _ (List.mem_singleton_self _)

theorem length_kept_le (h : History n seen w) : w.kept.length ≤ n := by
  induction h with
  | start => exact Nat.zero_le n
  | stay _ ih => exact ih
  | push x _ _ =>
    simp only [Window.push, List.length_drop]
    omega

/-- Every window seen is a piece of the list. -/
theorem earlier (h : History n seen w) : ∀ v ∈ seen, v.all <+: w.all ∧ v.evicted <+: w.evicted := by
  induction h with
  | start =>
    intro v hv
    rw [List.mem_singleton.mp hv]
    exact ⟨List.prefix_rfl, List.prefix_rfl⟩
  | stay _ ih =>
    exact forall_mem_concat ih ⟨List.prefix_rfl, List.prefix_rfl⟩
  | push x _ ih =>
    intro v hv
    rcases List.mem_append.mp hv with hold | hnew
    · obtain ⟨hall, hevicted⟩ := ih v hold
      refine ⟨?_, hevicted.trans (List.prefix_append _ _)⟩
      rw [all_push]
      exact hall.trans (List.prefix_append _ _)
    · rw [List.mem_singleton.mp hnew]
      exact ⟨List.prefix_rfl, List.prefix_rfl⟩

theorem all_getElem? (h : History n seen w) (hv : v ∈ seen) {x : α} (hx : v.kept[i]? = some x) :
    w.all[v.evicted.length + i]? = some x := by
  obtain ⟨rest, hrest⟩ := (h.earlier v hv).1
  have hall : v.all[v.evicted.length + i]? = some x := by
    rw [all, List.getElem?_append_right (Nat.le_add_right _ _), Nat.add_sub_cancel_left, hx]
  rw [← hrest, List.getElem?_append_left (List.getElem?_eq_some_iff.mp hall).1, hall]

end History

/-! ## Counting marks -/

/-- The marks in the window up to an item. -/
def marks (p : α → Bool) (w : Window α) (i : ℕ) : ℕ :=
  (w.kept.take (i + 1)).countP p

theorem countP_evicted_add_marks (p : α → Bool) (w : Window α) (i : ℕ) :
    w.evicted.countP p + w.marks p i = (w.all.take (w.evicted.length + (i + 1))).countP p := by
  rw [all, List.take_length_add_append, List.countP_append, marks]

/-- An item gets the same number in all windows that show it. -/
def MarksStable (p : α → Bool) (seen : List (Window α)) : Prop :=
  ∀ v ∈ seen, ∀ v' ∈ seen, ∀ i i', i < v.kept.length → i' < v'.kept.length →
    v.evicted.length + i = v'.evicted.length + i' → v.marks p i = v'.marks p i'

namespace History

variable {seen : List (Window α)} {p : α → Bool}

/-- Without marks among the items that left, the number is that in the list. -/
theorem marks_eq (h : History n seen w) (hevicted : ∀ x ∈ w.evicted, p x = false) (hv : v ∈ seen)
    (hi : i < v.kept.length) :
    v.marks p i = (w.all.take (v.evicted.length + (i + 1))).countP p := by
  obtain ⟨hall, hearlier⟩ := h.earlier v hv
  have hnone : v.evicted.countP p = 0 :=
    List.countP_eq_zero.mpr fun x hx => by simp [hevicted x (hearlier.subset hx)]
  have hcount := v.countP_evicted_add_marks p i
  rw [hnone, Nat.zero_add] at hcount
  obtain ⟨rest, hrest⟩ := hall
  rw [hcount, ← hrest, List.take_append_of_le_length]
  rw [all, List.length_append]
  omega

theorem marksStable (h : History n seen w) (hevicted : ∀ x ∈ w.evicted, p x = false) :
    MarksStable p seen := by
  intro v hv v' hv' i i' hi hi' hposition
  rw [h.marks_eq hevicted hv hi, h.marks_eq hevicted hv' hi', ← Nat.add_assoc,
    ← Nat.add_assoc, hposition]

/-- A marked item that leaves takes its mark from the one behind it. -/
theorem evicted_unmarked (h : History n seen w) (hn : 2 ≤ n) (hstable : MarksStable p seen) :
    ∀ x ∈ w.evicted, p x = false := by
  induction h with
  | start => simp
  | stay _ ih =>
    exact ih fun v hv v' hv' => hstable v (List.mem_append_left _ hv) v'
      (List.mem_append_left _ hv')
  | @push seen w x h ih =>
    have hold : ∀ y ∈ w.evicted, p y = false :=
      ih fun v hv v' hv' => hstable v (List.mem_append_left _ hv) v' (List.mem_append_left _ hv')
    rcases Nat.lt_or_eq_of_le h.length_kept_le with hlt | hfull
    · rw [push_of_lt hlt]
      exact hold
    · obtain ⟨first, second, rest, hkept⟩ :
          ∃ first second rest, w.kept = first :: second :: rest := by
        rcases hk : w.kept with _ | ⟨first, _ | ⟨second, rest⟩⟩
        · rw [hk, List.length_nil] at hfull
          omega
        · rw [hk, List.length_singleton] at hfull
          omega
        · exact ⟨first, second, rest, rfl⟩
      have hpush : w.push n x =
          { evicted := w.evicted ++ [first], kept := second :: rest ++ [x] } := by
        rw [← hfull]
        exact push_of_full hkept x
      have hsame := hstable w (List.mem_append_left _ h.current_mem)
        (w.push n x) (List.mem_append_right _ (List.mem_singleton_self _)) 1 0
        (by rw [hkept]; simp) (by rw [hpush]; simp)
        (by rw [hpush]; simp)
      rw [hpush] at hsame ⊢
      have hfirst : p first = false := by
        simp only [marks, hkept, List.cons_append, List.take_succ_cons,
          List.take_zero, List.countP_cons] at hsame
        cases hmark : p first with
        | false => rfl
        | true =>
          rw [hmark, if_pos rfl] at hsame
          omega
      exact forall_mem_concat hold hfirst

end History

end Window

end LiveForge.Support
