import Mathlib.Data.List.AList
import Mathlib.Tactic.Common

/-!
# Tables of pointers

A Go map whose values are pointers separates two things: the objects, which
keep their identity as long as somebody holds a pointer, and the table, which
says which object a key stands for at the moment.  Objects are cells of a list
that only grows; a pointer is an index.
-/

namespace LiveForge.Support

variable {κ β : Type*} [DecidableEq κ]

structure PointerTable (κ β : Type*) [DecidableEq κ] where
  cells : List β
  table : AList fun _ : κ => ℕ

namespace PointerTable

def empty : PointerTable κ β := ⟨[], ∅⟩

def pointer? (t : PointerTable κ β) (k : κ) : Option ℕ := t.table.lookup k

/-- The content of the object a key stands for. -/
def get? (t : PointerTable κ β) (k : κ) : Option β :=
  (t.pointer? k).bind fun p => t.cells[p]?

def size (t : PointerTable κ β) : ℕ := t.table.entries.length

def modify (t : PointerTable κ β) (p : ℕ) (f : β → β) : PointerTable κ β :=
  { t with cells := t.cells.modify p f }

/-- Allocate an object and store its pointer. -/
def insertNew (t : PointerTable κ β) (k : κ) (x : β) : PointerTable κ β :=
  ⟨t.cells ++ [x], t.table.insert k t.cells.length⟩

def erase (t : PointerTable κ β) (k : κ) : PointerTable κ β :=
  { t with table := t.table.erase k }

/-- Pointers lead to objects, and different keys to different ones. -/
structure Valid (t : PointerTable κ β) : Prop where
  bound : ∀ k p, t.pointer? k = some p → p < t.cells.length
  inj : ∀ k k' p, t.pointer? k = some p → t.pointer? k' = some p → k = k'

theorem valid_empty : (empty : PointerTable κ β).Valid := by
  constructor
  · intro k p h
    simp [pointer?, empty] at h
  · intro k k' p h
    simp [pointer?, empty] at h

@[simp] theorem get?_empty (k : κ) : (empty : PointerTable κ β).get? k = none := by
  simp [get?, empty]

variable {t : PointerTable κ β} {k k' : κ} {p : ℕ} {x : β}

theorem Valid.get?_isSome (h : t.Valid) (hp : t.pointer? k = some p) :
    ∃ x, t.cells[p]? = some x ∧ t.get? k = some x := by
  have hlt := h.bound k p hp
  refine ⟨t.cells[p], List.getElem?_eq_getElem hlt, ?_⟩
  rw [get?, hp]
  exact List.getElem?_eq_getElem hlt

theorem pointer?_eq_none_iff (h : t.Valid) : t.pointer? k = none ↔ t.get? k = none := by
  constructor
  · intro hnone
    rw [get?, hnone]
    rfl
  · intro hnone
    cases hp : t.pointer? k with
    | none => rfl
    | some p =>
      obtain ⟨x, -, hx⟩ := h.get?_isSome hp
      rw [hx] at hnone
      simp at hnone

/-! ## Changing an object -/

@[simp] theorem pointer?_modify (f : β → β) : (t.modify p f).pointer? k = t.pointer? k := rfl

@[simp] theorem size_modify (f : β → β) : (t.modify p f).size = t.size := rfl

theorem Valid.modify (h : t.Valid) (p : ℕ) (f : β → β) : (t.modify p f).Valid := by
  refine ⟨?_, h.inj⟩
  intro k q hq
  simpa [PointerTable.modify] using h.bound k q hq

theorem get?_modify (h : t.Valid) (hp : t.pointer? k = some p) (f : β → β) (k' : κ) :
    (t.modify p f).get? k' = if k' = k then (t.get? k).map f else t.get? k' := by
  by_cases hk : k' = k
  · subst hk
    rw [get?, get?, pointer?_modify, hp]
    simp [PointerTable.modify]
  · rw [if_neg hk, get?, get?, pointer?_modify]
    cases hq : t.pointer? k' with
    | none => rfl
    | some q =>
      have hne : p ≠ q := by
        rintro rfl
        exact hk (h.inj k' k p hq hp)
      simp [PointerTable.modify, hne]

@[simp] theorem cells_length_modify (f : β → β) : (t.modify p f).cells.length = t.cells.length :=
  List.length_modify f t.cells p

theorem cell_modify (f : β → β) (q : ℕ) :
    (t.modify p f).cells[q]? = if p = q then t.cells[q]?.map f else t.cells[q]? := by
  rw [PointerTable.modify, List.getElem?_modify]
  cases t.cells[q]? with
  | none => simp
  | some y =>
    by_cases hpq : p = q
    · simp [hpq]
    · simp [hpq]

theorem cell_modify_of_some {q : ℕ} (hget : t.cells[q]? = some x) (f : β → β) :
    (t.modify p f).cells[q]? = some (if p = q then f x else x) := by
  rw [cell_modify, hget]
  split <;> rfl

/-! ## Adding and deleting -/

theorem pointer?_insertNew (k' : κ) :
    (t.insertNew k x).pointer? k' = if k' = k then some t.cells.length else t.pointer? k' := by
  by_cases hk : k' = k
  · subst hk
    rw [if_pos rfl]
    exact AList.lookup_insert t.table
  · rw [if_neg hk]
    exact AList.lookup_insert_ne hk

theorem Valid.insertNew (h : t.Valid) (k : κ) (x : β) : (t.insertNew k x).Valid := by
  have hlen : (t.insertNew k x).cells.length = t.cells.length + 1 := by
    simp [PointerTable.insertNew]
  constructor
  · intro k' p hp
    rw [pointer?_insertNew] at hp
    rw [hlen]
    split at hp
    · rw [← Option.some.inj hp]; exact Nat.lt_succ_self _
    · exact Nat.lt_succ_of_lt (h.bound k' p hp)
  · intro k₁ k₂ p h₁ h₂
    rw [pointer?_insertNew] at h₁ h₂
    split at h₁
    next heq₁ =>
      split at h₂
      next heq₂ => exact heq₁.trans heq₂.symm
      · have hlt := h.bound k₂ p h₂
        rw [← Option.some.inj h₁] at hlt
        exact absurd hlt (Nat.lt_irrefl _)
    · split at h₂
      · have hlt := h.bound k₁ p h₁
        rw [← Option.some.inj h₂] at hlt
        exact absurd hlt (Nat.lt_irrefl _)
      · exact h.inj k₁ k₂ p h₁ h₂

theorem get?_insertNew (h : t.Valid) (k' : κ) :
    (t.insertNew k x).get? k' = if k' = k then some x else t.get? k' := by
  rw [get?, pointer?_insertNew]
  by_cases hk : k' = k
  · simp [hk, PointerTable.insertNew]
  · rw [if_neg hk, if_neg hk, get?]
    cases hp : t.pointer? k' with
    | none => rfl
    | some p =>
      have hlt := h.bound k' p hp
      simp [PointerTable.insertNew, List.getElem?_append_left hlt]

theorem cell_insertNew_old (hlt : p < t.cells.length) :
    (t.insertNew k x).cells[p]? = t.cells[p]? := by
  simp [PointerTable.insertNew, List.getElem?_append_left hlt]

theorem cell_insertNew_new : (t.insertNew k x).cells[t.cells.length]? = some x := by
  simp [PointerTable.insertNew]

theorem size_insertNew (hnone : t.pointer? k = none) : (t.insertNew k x).size = t.size + 1 := by
  have hmem : k ∉ t.table := AList.lookup_eq_none.mp hnone
  simp [size, PointerTable.insertNew, AList.insert_of_notMem hmem]

@[simp] theorem cells_erase : (t.erase k).cells = t.cells := rfl

theorem pointer?_erase (k' : κ) :
    (t.erase k).pointer? k' = if k' = k then none else t.pointer? k' := by
  by_cases hk : k' = k
  · subst hk
    rw [if_pos rfl]
    exact AList.lookup_erase k' t.table
  · rw [if_neg hk]
    exact AList.lookup_erase_ne hk

theorem Valid.erase (h : t.Valid) (k : κ) : (t.erase k).Valid := by
  constructor
  · intro k' p hp
    rw [pointer?_erase] at hp
    split_ifs at hp
    exact h.bound k' p hp
  · intro k₁ k₂ p h₁ h₂
    rw [pointer?_erase] at h₁ h₂
    split_ifs at h₁
    split_ifs at h₂
    exact h.inj k₁ k₂ p h₁ h₂

theorem get?_erase (k' : κ) : (t.erase k).get? k' = if k' = k then none else t.get? k' := by
  rw [get?, pointer?_erase]
  by_cases hk : k' = k
  · rw [if_pos hk, if_pos hk]
    rfl
  · rw [if_neg hk, if_neg hk]
    rfl

end PointerTable

end LiveForge.Support
