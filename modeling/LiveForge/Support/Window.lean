import Mathlib.Data.List.Basic
import Mathlib.Data.Nat.ModEq

/-!
# A window of a growing log kept in slots

A log that only grows is often stored in a fixed number of slots, position `i`
at slot `i % n`.  The slots then hold exactly the newest `n` positions.  The
predicate below is the representation invariant of such a store; appending to
the log and overwriting one slot preserve it together.
-/

namespace LiveForge.Support

variable {α : Type*}

/-- Each of the newest `slots.length` positions of `log` is found at the slot
of its residue. -/
def HoldsWindow (slots log : List α) : Prop :=
  ∀ i, i < log.length → log.length ≤ i + slots.length → slots[i % slots.length]? = log[i]?

theorem residue_ne_of_close {n i j : ℕ} (hij : i < j) (hj : j < i + n) : i % n ≠ j % n := by
  intro hmod
  have hdvd : n ∣ j - i := (Nat.modEq_iff_dvd' hij.le).mp hmod
  have hle : n ≤ j - i := Nat.le_of_dvd (by omega) hdvd
  omega

theorem HoldsWindow.append {slots log : List α} (h : HoldsWindow slots log)
    (hpos : 0 < slots.length) (x : α) :
    HoldsWindow (slots.set (log.length % slots.length) x) (log ++ [x]) := by
  intro i hi hwindow
  simp only [List.length_append, List.length_singleton, List.length_set] at hi hwindow ⊢
  rcases Nat.lt_succ_iff_lt_or_eq.mp hi with hlt | rfl
  · have hne : log.length % slots.length ≠ i % slots.length :=
      (residue_ne_of_close hlt (by omega)).symm
    rw [List.getElem?_set_ne hne, List.getElem?_append_left hlt]
    exact h i hlt (by omega)
  · rw [List.getElem?_set_self (Nat.mod_lt _ hpos)]
    simp

end LiveForge.Support
