import LiveForge.Support.Bytes
import LiveForge.Support.Run

/-!
# Checked indexing

An index or a slice bound out of range stops a Go program with a panic.  Code
that computes its indices from the input is modelled in `Checked`, where such
an access is an error.  `data[low:high]` is checked against the length of
`data`; the runtime checks it against the capacity, which is no smaller.
-/

namespace LiveForge.Support

inductive Panic where
  | indexOutOfRange
  | sliceOutOfRange
  deriving DecidableEq

abbrev Checked (α : Type) := Except Panic α

variable {α β : Type} {a : α}

/-- `data[i]`. -/
def index (data : List α) (i : ℕ) : Checked α :=
  match data[i]? with
  | some a => .ok a
  | none => .error .indexOutOfRange

/-- `data[i]` with a signed index. -/
def indexInt (data : List α) (i : ℤ) : Checked α :=
  if i < 0 then .error .indexOutOfRange else index data i.toNat

/-- `data[low:]`. -/
def sliceFrom (data : List α) (low : ℕ) : Checked (List α) :=
  if low ≤ data.length then .ok (data.drop low) else .error .sliceOutOfRange

/-- `data[low:high]`. -/
def slice (data : List α) (low high : ℕ) : Checked (List α) :=
  if low ≤ high ∧ high ≤ data.length then .ok ((data.take high).drop low)
  else .error .sliceOutOfRange

/-- `data[i] == b0 && data[i+1] == b1 && …`, left to right. -/
def matchesAt [DecidableEq α] (data : List α) (i : ℕ) : List α → Checked Bool
  | [] => .ok true
  | b :: pattern => do
      let a ← index data i
      if a = b then matchesAt data (i + 1) pattern else .ok false

theorem of_ite_error {c : Prop} [Decidable c] {e : β} {x : Checked (Except β α)}
    (h : (if c then pure (.error e) else x) = .ok (.ok a)) :
    ¬ c ∧ x = .ok (.ok a) := by
  by_cases hc : c
  · simp [hc, pure, Except.pure] at h
  · exact ⟨hc, by simpa [hc] using h⟩

/-! ## Accesses in range -/

variable {data pattern : List α} {i low high : ℕ} {x : Checked α} {f : α → Checked β}

theorem index_eq_ok : index data i = .ok a ↔ data[i]? = some a := by
  unfold index
  split
  next b hb => simp [hb]
  next hb => simp [hb]

@[simp] theorem index_cons_zero (a : α) (data : List α) : index (a :: data) 0 = .ok a := rfl

@[simp] theorem index_cons_succ (a : α) (data : List α) (i : ℕ) :
    index (a :: data) (i + 1) = index data i := rfl

theorem sliceFrom_of_le (h : low ≤ data.length) :
    sliceFrom data low = .ok (data.drop low) := if_pos h

theorem sliceFrom_eq_ok {rest : List α} :
    sliceFrom data low = .ok rest ↔ low ≤ data.length ∧ rest = data.drop low := by
  unfold sliceFrom
  split
  next h => simp [h, eq_comm]
  next h => simp [h]

theorem slice_of_le (hlow : low ≤ high) (hhigh : high ≤ data.length) :
    slice data low high = .ok ((data.take high).drop low) :=
  if_pos ⟨hlow, hhigh⟩

theorem matchesAt_of_le [DecidableEq α] (h : i + pattern.length ≤ data.length) :
    matchesAt data i pattern = .ok (decide ((data.drop i).take pattern.length = pattern)) := by
  induction pattern generalizing i with
  | nil => simp [matchesAt]
  | cons b pattern ih =>
    rw [List.length_cons] at h
    have hi : i < data.length := by omega
    have hindex : index data i = .ok data[i] := index_eq_ok.mpr (List.getElem?_eq_getElem hi)
    rw [matchesAt, hindex, ok_bind, List.drop_eq_getElem_cons hi,
      List.length_cons, List.take_succ_cons]
    split
    next heq =>
      rw [ih (by omega)]
      simp [heq]
    next hne => simp [hne]

/-! ## Computations that return -/

/-- The computation ends without a panic. -/
def Safe (x : Checked α) : Prop := ∃ a, x = .ok a

@[simp] theorem safe_pure (a : α) : Safe (pure a : Checked α) := ⟨a, rfl⟩

theorem safe_bind : Safe (x >>= f) ↔ ∃ a, x = .ok a ∧ Safe (f a) := by
  constructor
  · rintro ⟨b, hb⟩
    obtain ⟨a, ha, hf⟩ := bind_eq_ok.mp hb
    exact ⟨a, ha, b, hf⟩
  · rintro ⟨a, ha, b, hb⟩
    exact ⟨b, bind_eq_ok.mpr ⟨a, ha, hb⟩⟩

theorem Safe.bind (hx : Safe x) (hf : ∀ a, x = .ok a → Safe (f a)) : Safe (x >>= f) := by
  obtain ⟨a, ha⟩ := hx
  exact safe_bind.mpr ⟨a, ha, hf a ha⟩

theorem safe_ite {c : Prop} [Decidable c] (hx : ¬ c → Safe x) : Safe (if c then pure a else x) := by
  split
  · exact safe_pure a
  next hc => exact hx hc

theorem safe_index (h : i < data.length) : Safe (index data i) :=
  ⟨data[i], index_eq_ok.mpr (List.getElem?_eq_getElem h)⟩

theorem safe_indexInt {i : ℤ} : Safe (indexInt data i) ↔ 0 ≤ i ∧ i < data.length := by
  unfold indexInt
  split
  next hneg => exact iff_of_false (by simp [Safe]) (by omega)
  next hnonneg =>
    constructor
    · rintro ⟨a, ha⟩
      have hlt := (List.getElem?_eq_some_iff.mp (index_eq_ok.mp ha)).1
      omega
    · exact fun h => safe_index (by omega)

theorem safe_sliceFrom : Safe (sliceFrom data low) ↔ low ≤ data.length := by
  constructor
  · rintro ⟨rest, hrest⟩
    exact (sliceFrom_eq_ok.mp hrest).1
  · intro h
    exact ⟨_, sliceFrom_of_le h⟩

/-- A fold ends without a panic exactly if every step meets the condition under
which it does. -/
theorem safe_foldlM_iff {f : β → α → Checked β} {cond : β → α → Prop}
    {l : List α} (hstep : ∀ s, ∀ a ∈ l, Safe (f s a) ↔ cond s a) (s : β) :
    Safe (l.foldlM f s) ↔ StepsMeet cond (fun s a => (f s a).toOption) s l := by
  induction l generalizing s with
  | nil => exact iff_of_true (safe_pure s) trivial
  | cons a l ih =>
    have hrest := ih fun s b hb => hstep s b (List.mem_cons_of_mem a hb)
    rw [List.foldlM_cons, safe_bind]
    constructor
    · rintro ⟨s', hs', hsafe⟩
      refine ⟨(hstep s a List.mem_cons_self).mp ⟨s', hs'⟩, ?_⟩
      intro s'' hs''
      simp only [hs', Except.toOption, Option.some.injEq] at hs''
      exact hs'' ▸ (hrest s').mp hsafe
    · rintro ⟨hcond, hmeet⟩
      obtain ⟨s', hs'⟩ := (hstep s a List.mem_cons_self).mpr hcond
      exact ⟨s', hs', (hrest s').mpr (hmeet s' (by simp only [hs', Except.toOption]))⟩

end LiveForge.Support
