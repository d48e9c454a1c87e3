import Mathlib.Data.List.Basic

/-!
# Cutting a list into pieces

The loop that takes a bounded piece off the front of a buffer until nothing is
left.
-/

namespace LiveForge.Support

variable {α : Type*}

/-- Pieces of at most `size` elements; a size of zero cuts nothing. -/
def pieces (size : ℕ) (data : List α) : List (List α) :=
  if data ≠ [] ∧ 0 < size then
    data.take size :: pieces size (data.drop size)
  else []
termination_by data.length
decreasing_by
  obtain ⟨hne, _⟩ := ‹data ≠ [] ∧ 0 < size›
  have hlength := List.length_pos_of_ne_nil hne
  rw [List.length_drop]
  omega

variable {size : ℕ} {data : List α}

theorem pieces_cons (hne : data ≠ []) (hsize : 0 < size) :
    pieces size data = data.take size :: pieces size (data.drop size) := by
  rw [pieces, if_pos ⟨hne, hsize⟩]

theorem pieces_ne_nil (hne : data ≠ []) (hsize : 0 < size) : pieces size data ≠ [] := by
  rw [pieces_cons hne hsize]
  exact List.cons_ne_nil _ _

theorem flatten_pieces (hsize : 0 < size) (data : List α) : (pieces size data).flatten = data := by
  fun_induction pieces size data with
  | case1 data hcut ih => rw [List.flatten_cons, ih, List.take_append_drop]
  | case2 data hcut =>
    have hnil : data = [] := by
      by_contra hne
      exact hcut ⟨hne, hsize⟩
    rw [hnil, List.flatten_nil]

theorem ne_nil_of_mem_pieces {piece : List α} (hpiece : piece ∈ pieces size data) : piece ≠ [] := by
  fun_induction pieces size data with
  | case1 data hcut ih =>
    rcases List.mem_cons.mp hpiece with rfl | hrest
    · simp [hcut.1, Nat.pos_iff_ne_zero.mp hcut.2]
    · exact ih hrest
  | case2 data hcut => simp at hpiece

theorem two_le_length_pieces (hsize : 0 < size) (hlong : size < data.length) :
    2 ≤ (pieces size data).length := by
  have hrest : data.drop size ≠ [] := by
    simp only [ne_eq, List.drop_eq_nil_iff]
    omega
  rw [pieces_cons (List.ne_nil_of_length_pos (by omega)) hsize, pieces_cons hrest hsize]
  simp

theorem length_pieces_le (data : List α) : (pieces size data).length ≤ data.length := by
  fun_induction pieces size data with
  | case1 data hcut ih =>
    have hlength := List.length_pos_of_ne_nil hcut.1
    rw [List.length_drop] at ih
    rw [List.length_cons]
    omega
  | case2 data hcut => simp

end LiveForge.Support
