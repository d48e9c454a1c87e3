import Mathlib.Data.List.GetD
import Mathlib.Order.Nat
import Mathlib.Tactic.Common

/-!
# Cached segments of a growing log

A cache keeps segments of a log that only grows.  Segment `i` begins with a
distinguished entry of the log, at a recorded position, and holds some of the
wanted entries that follow it, none of them behind the start of segment
`i + 1`.  Entries may be missing: the cache can be trimmed and can refuse to
grow.  Since the segments together form a sublist of the log from the first
start on, comparing lengths is enough to find out that nothing is missing.

`keep` says which entries are wanted, `key` which may start a segment.
-/

namespace LiveForge.Support

variable {α : Type*} {x : α} {taken : List α}

/-- The wanted entries of `log` from position `start` to before `stop`. -/
def keptBetween (keep : α → Bool) (log : List α) (start stop : ℕ) : List α :=
  ((log.take stop).drop start).filter keep

structure SegmentAt (keep : α → Bool) (key : α → Prop) (log : List α)
    (start stop : ℕ) (seg : List α) : Prop where
  stopLe : stop ≤ log.length
  startLt : start < stop
  head : ∃ x, seg.head? = some x ∧ key x ∧ log[start]? = some x
  sublist : seg.Sublist (keptBetween keep log start stop)

/-- The segments lie in the log at their starts, in order. -/
def Covers (keep : α → Bool) (key : α → Prop) (log : List α) : List (List α) → List ℕ → Prop
  | [], [] => True
  | seg :: segs, start :: starts =>
    SegmentAt keep key log start (starts.headD log.length) seg ∧ Covers keep key log segs starts
  | _, _ => False

variable {keep : α → Bool} {key : α → Prop} {log seg : List α} {segs : List (List α)}
  {start stop : ℕ} {starts : List ℕ}

/-! ## Wanted entries -/

theorem keptBetween_append_left (more : List α) (hstop : stop ≤ log.length) :
    keptBetween keep (log ++ more) start stop = keptBetween keep log start stop := by
  rw [keptBetween, List.take_append_of_le_length hstop, keptBetween]

theorem keptBetween_snoc (x : α) (hstart : start ≤ log.length) :
    keptBetween keep (log ++ [x]) start (log ++ [x]).length =
      keptBetween keep log start log.length ++ [x].filter keep := by
  simp only [keptBetween, List.take_length]
  rw [List.drop_append_of_le_length hstart, List.filter_append]

theorem keptBetween_length_le : (keptBetween keep log start stop).length ≤ stop - start := by
  refine (List.length_filter_le _ _).trans ?_
  simp only [List.length_drop, List.length_take]
  omega

/-- A slice that starts where another ends continues it. -/
theorem keptBetween_join {mid : ℕ} (hstart : start ≤ mid) (hmid : mid ≤ stop) :
    keptBetween keep log start mid ++ keptBetween keep log mid stop =
      keptBetween keep log start stop := by
  simp only [keptBetween, ← List.filter_append]
  have hsplit : log.take stop = log.take mid ++ (log.take stop).drop mid := by
    conv_lhs => rw [← List.take_append_drop mid (log.take stop)]
    rw [List.take_take, Nat.min_eq_left hmid]
  by_cases hlen : start ≤ (log.take mid).length
  · conv_rhs => rw [hsplit]
    rw [List.drop_append_of_le_length hlen]
  · have hshort : log.length < start := by
      simp only [List.length_take] at hlen
      omega
    rw [List.drop_eq_nil_of_le (by omega), List.drop_eq_nil_of_le (by simp; omega),
      List.drop_eq_nil_of_le (by simp; omega)]
    rfl

theorem keptBetween_cons (hget : log[start]? = some x) (hlt : start < stop) :
    keptBetween keep log start stop =
      if keep x then x :: keptBetween keep log (start + 1) stop
      else keptBetween keep log (start + 1) stop := by
  have hget' : (log.take stop)[start]? = some x := by
    rw [List.getElem?_take_of_lt hlt]
    exact hget
  obtain ⟨hbound, hx⟩ := List.getElem?_eq_some_iff.mp hget'
  have hdrop := List.drop_eq_getElem_cons hbound
  rw [hx] at hdrop
  rw [keptBetween, hdrop, List.filter_cons]
  rfl

@[simp] theorem keptBetween_self (n : ℕ) : keptBetween keep log n n = [] := by
  have hnil : (log.take n).drop n = [] := List.drop_eq_nil_of_le (List.length_take_le n log)
  rw [keptBetween, hnil]
  rfl

/-- When entries carry consecutive positions, selecting by position is
slicing. -/
theorem filter_position_eq {β : Type*} {entries : List β} {position : β → ℕ} {first : ℕ}
    (hpos : entries.map position = List.range' first entries.length) (start stop : ℕ) :
    (entries.filter fun e => decide (start ≤ position e) && decide (position e < stop)) =
      (entries.take (stop - first)).drop (start - first) := by
  induction entries generalizing first with
  | nil => simp
  | cons e entries ih =>
    simp only [List.map_cons, List.length_cons, List.range'_succ, List.cons.injEq] at hpos
    obtain ⟨hfirst, hrest⟩ := hpos
    rw [List.filter_cons, ih hrest]
    by_cases hstop : stop ≤ first
    · have hzero' : stop - (first + 1) = 0 := by omega
      simp [hfirst, hzero', hstop]
    · obtain ⟨m, hm⟩ : ∃ m, stop - first = m + 1 := ⟨stop - first - 1, by omega⟩
      have hm' : stop - (first + 1) = m := by omega
      rw [hm, hm', List.take_succ_cons]
      by_cases hstart : start ≤ first
      · have hzero' : start - (first + 1) = 0 := by omega
        have hlt : first < stop := by omega
        simp [hfirst, hzero', hstart, hlt]
      · obtain ⟨k, hk⟩ : ∃ k, start - first = k + 1 := ⟨start - first - 1, by omega⟩
        have hk' : start - (first + 1) = k := by omega
        rw [hk, hk']
        simp [hfirst, hstart]

/-! ## One segment -/

namespace SegmentAt

theorem log_append (h : SegmentAt keep key log start stop seg) (more : List α) :
    SegmentAt keep key (log ++ more) start stop seg := by
  obtain ⟨hstop, hlt, ⟨x, hx, hkey, hget⟩, hsub⟩ := h
  refine ⟨?_, hlt, ⟨x, hx, hkey, ?_⟩, ?_⟩
  · simp only [List.length_append]
    omega
  · rw [List.getElem?_append_left (by omega)]
    exact hget
  · rwa [keptBetween_append_left more hstop]

/-- The newest segment stays one when the log grows, and may take the new
entry. -/
theorem log_snoc (h : SegmentAt keep key log start log.length seg)
    (htaken : taken.Sublist ([x].filter keep)) :
    SegmentAt keep key (log ++ [x]) start (log ++ [x]).length (seg ++ taken) := by
  obtain ⟨-, hlt, ⟨y, hy, hkey, hget⟩, hsub⟩ := h
  refine ⟨le_rfl, ?_, ⟨y, ?_, hkey, ?_⟩, ?_⟩
  · simp only [List.length_append]
    omega
  · rw [List.head?_append, hy]
    rfl
  · rw [List.getElem?_append_left hlt]
    exact hget
  · rw [keptBetween_snoc x hlt.le]
    exact hsub.append htaken

theorem trim (h : SegmentAt keep key log start stop seg) {trimmed : List α}
    (hsub : trimmed.Sublist seg) (hhead : trimmed.head? = seg.head?) :
    SegmentAt keep key log start stop trimmed :=
  ⟨h.stopLe, h.startLt, hhead ▸ h.head, hsub.trans h.sublist⟩

theorem new (hkeep : keep x = true) (hkey : key x) :
    SegmentAt keep key (log ++ [x]) log.length (log ++ [x]).length [x] := by
  refine ⟨le_rfl, by simp, ⟨x, rfl, hkey, by simp⟩, ?_⟩
  rw [keptBetween_snoc x le_rfl]
  simp [hkeep]

end SegmentAt

/-! ## All segments -/

namespace Covers

section Log

variable (h : Covers keep key log segs starts)

include h

theorem length_eq : segs.length = starts.length := by
  fun_induction Covers keep key log segs starts with
  | case1 => rfl
  | case2 seg segs start starts ih => simp [ih h.2]
  | case3 => exact h.elim

theorem drop (n : ℕ) : Covers keep key log (segs.drop n) (starts.drop n) := by
  induction n generalizing segs starts with
  | zero => simpa using h
  | succ n ih =>
    cases segs with
    | nil =>
      cases starts with
      | nil => exact h
      | cons _ _ => exact h.elim
    | cons seg segs =>
      cases starts with
      | nil => exact h.elim
      | cons start starts => exact ih h.2

/-- Cutting every segment back to some of its entries, the first included. -/
theorem map (trim : List α → List α)
    (htrim : ∀ seg ∈ segs, (trim seg).Sublist seg ∧ (trim seg).head? = seg.head?) :
    Covers keep key log (segs.map trim) starts := by
  fun_induction Covers keep key log segs starts with
  | case1 => trivial
  | case2 seg segs start starts ih =>
    have hseg := htrim seg (by simp)
    exact ⟨h.1.trim hseg.1 hseg.2, ih h.2 fun t ht => htrim t (by simp [ht])⟩
  | case3 => exact h.elim

/-- The log grows by `x`; the newest segment takes `taken`, which is `x` or
nothing. -/
theorem log_snoc (hne : segs ≠ []) (htaken : taken.Sublist ([x].filter keep)) :
    Covers keep key (log ++ [x])
      (segs.set (segs.length - 1) (segs.getD (segs.length - 1) [] ++ taken)) starts := by
  fun_induction Covers keep key log segs starts with
  | case1 => exact absurd rfl hne
  | case2 seg segs start starts ih =>
    cases segs with
    | nil =>
      cases starts with
      | nil => exact ⟨h.1.log_snoc htaken, trivial⟩
      | cons _ _ => exact h.2.elim
    | cons seg' segs =>
      cases starts with
      | nil => exact h.2.elim
      | cons start' starts => exact ⟨h.1.log_append [x], ih h.2 (by simp)⟩
  | case3 => exact h.elim

/-- The log grows and no segment takes the new entry. -/
theorem log_grow (x : α) : Covers keep key (log ++ [x]) segs starts := by
  by_cases hne : segs = []
  · subst hne
    cases starts with
    | nil => trivial
    | cons _ _ => exact h.elim
  · have hgrown := h.log_snoc hne (List.nil_sublist ([x].filter keep))
    have hlast : segs.length - 1 < segs.length := by
      have := List.length_pos_iff.mpr hne
      omega
    rwa [List.append_nil, List.getD_eq_getElem _ _ hlast, List.set_getElem_self] at hgrown

/-- The new entry of the log starts a segment of its own. -/
theorem log_start (hkeep : keep x = true) (hkey : key x) :
    Covers keep key (log ++ [x]) (segs ++ [[x]]) (starts ++ [log.length]) := by
  fun_induction Covers keep key log segs starts with
  | case1 => exact ⟨SegmentAt.new hkeep hkey, trivial⟩
  | case2 seg segs start starts ih =>
    refine ⟨?_, ih h.2⟩
    have hseg := h.1.log_append [x]
    cases starts with
    | nil | cons start' starts => exact hseg
  | case3 => exact h.elim

end Log

/-- The segments together are a sublist of the log from the first start on. -/
theorem flatten_sublist (h : Covers keep key log (seg :: segs) (start :: starts)) :
    (seg :: segs).flatten.Sublist (keptBetween keep log start log.length) := by
  induction segs generalizing seg start starts with
  | nil =>
    cases starts with
    | nil => simpa using h.1.sublist
    | cons _ _ => exact h.2.elim
  | cons seg' segs ih =>
    cases starts with
    | nil => exact h.2.elim
    | cons start' starts =>
      have hrest := ih h.2
      have hlt : start < start' := h.1.startLt
      have hle : start' ≤ log.length := h.1.stopLe
      rw [← keptBetween_join hlt.le hle]
      exact h.1.sublist.append hrest

theorem start_spec (h : Covers keep key log segs starts) (hmem : start ∈ starts) :
    ∃ x, key x ∧ log[start]? = some x := by
  fun_induction Covers keep key log segs starts with
  | case1 => simp at hmem
  | case2 seg segs start' starts ih =>
    rcases List.mem_cons.mp hmem with rfl | hrest
    · obtain ⟨x, -, hkey, hget⟩ := h.1.head
      exact ⟨x, hkey, hget⟩
    · exact ih h.2 hrest
  | case3 => exact h.elim

/-- When the segments hold as many entries as the log has from the first start
on, they hold exactly these entries. -/
theorem flatten_eq_of_length (h : Covers keep key log segs (start :: starts))
    (hlen : log.length - start ≤ segs.flatten.length) :
    segs.flatten = keptBetween keep log start log.length ∧
      ∃ x, segs.flatten.head? = some x ∧ key x := by
  cases segs with
  | nil => exact h.elim
  | cons seg segs =>
    refine ⟨(flatten_sublist h).eq_of_length_le (keptBetween_length_le.trans hlen), ?_⟩
    obtain ⟨x, hx, hkey, -⟩ := h.1.head
    refine ⟨x, ?_, hkey⟩
    rw [List.flatten_cons, List.head?_append, hx]
    rfl

end Covers

end LiveForge.Support
