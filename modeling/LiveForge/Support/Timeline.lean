import Mathlib.Algebra.BigOperators.Group.List.Basic
import Mathlib.Algebra.Order.Ring.Int

/-!
# Numbered intervals

A list of intervals of time that follow each other without a gap and are
numbered in a row.  Such a list may grow at its end and lose its first entries;
its start then moves by the lengths of the entries that are gone.
-/

namespace LiveForge.Support

structure Span where
  number : ℕ
  start : ℤ
  stop : ℤ

namespace Span

def length (s : Span) : ℤ :=
  s.stop - s.start

def total (spans : List Span) : ℤ :=
  (spans.map length).sum

@[simp] theorem total_nil : total [] = 0 := rfl

@[simp] theorem total_cons (s : Span) (spans : List Span) :
    total (s :: spans) = s.length + total spans := by
  simp [total]

/-- From number `n` and time `t` the entries lead to number `n'` and time
`t'`. -/
def Covers : ℕ → ℤ → List Span → ℕ → ℤ → Prop
  | n, t, [], n', t' => n = n' ∧ t = t'
  | n, t, s :: spans, n', t' =>
    s.number = n ∧ s.start = t ∧ Covers (n + 1) s.stop spans n' t'

variable {n m n' : ℕ} {t u t' : ℤ} {spans more : List Span}

theorem Covers.append (hspans : Covers n t spans m u) (hmore : Covers m u more n' t') :
    Covers n t (spans ++ more) n' t' := by
  induction spans generalizing n t with
  | nil =>
    obtain ⟨rfl, rfl⟩ := hspans
    exact hmore
  | cons s spans ih =>
    obtain ⟨hnumber, hstart, hrest⟩ := hspans
    exact ⟨hnumber, hstart, ih hrest⟩

/-- The start moves over what is dropped. -/
theorem Covers.drop (k : ℕ) (hspans : Covers n t spans n' t') :
    ∃ m, Covers m (t + total (spans.take k)) (spans.drop k) n' t' := by
  induction k generalizing n t spans with
  | zero => exact ⟨n, by simpa using hspans⟩
  | succ k ih =>
    cases spans with
    | nil => exact ⟨n, by simpa using hspans⟩
    | cons s spans =>
      obtain ⟨-, hstart, hrest⟩ := hspans
      obtain ⟨m, hm⟩ := ih hrest
      refine ⟨m, ?_⟩
      have hmoved : t + total ((s :: spans).take (k + 1)) = s.stop + total (spans.take k) := by
        rw [List.take_succ_cons, total_cons, length]
        omega
      rw [hmoved]
      exact hm

theorem Covers.le_number (hspans : Covers n t spans n' t') {s : Span} (hs : s ∈ spans) :
    n ≤ s.number := by
  induction spans generalizing n t with
  | nil => cases hs
  | cons first spans ih =>
    obtain ⟨hnumber, -, hrest⟩ := hspans
    obtain rfl | hs := List.mem_cons.mp hs
    · exact hnumber.ge
    · have := ih hrest hs
      omega

end Span

end LiveForge.Support
