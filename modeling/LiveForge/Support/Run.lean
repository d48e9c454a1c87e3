import Mathlib.Data.List.Basic

/-!
# Runs of partial transition functions

A component is described by a partial function `step`: `step s a = some s'`
says that action `a` is enabled in `s` and leads to `s'`.  Interleavings of
several parties are lists of actions.  The module packages the inductions over
such lists once, so that every invariant of a component reduces to its initial
state and to one step.
-/

namespace LiveForge.Support

variable {σ α : Type*}

/-- Perform the actions in order.  An action that is not enabled makes the
whole run undefined. -/
def runFrom (step : σ → α → Option σ) (s : σ) : List α → Option σ
  | [] => some s
  | a :: acts =>
    match step s a with
    | some s' => runFrom step s' acts
    | none => none

@[simp] theorem runFrom_nil (step : σ → α → Option σ) (s : σ) : runFrom step s [] = some s := rfl

variable {step : σ → α → Option σ} {Inv : σ → Prop} {cond : σ → α → Prop} {s t : σ} {acts : List α}

theorem runFrom_cons_eq_some {a : α} :
    runFrom step s (a :: acts) = some t ↔
      ∃ s', step s a = some s' ∧ runFrom step s' acts = some t := by
  cases h : step s a with
  | none | some s' => simp [runFrom, h]

theorem runFrom_append_eq_some {more : List α} :
    runFrom step s (acts ++ more) = some t ↔
      ∃ s', runFrom step s acts = some s' ∧ runFrom step s' more = some t := by
  induction acts generalizing s with
  | nil => simp
  | cons a acts ih =>
    simp only [List.cons_append, runFrom_cons_eq_some, ih]
    constructor
    · rintro ⟨s', hstep, s'', hacts, hmore⟩
      exact ⟨s'', ⟨s', hstep, hacts⟩, hmore⟩
    · rintro ⟨s'', ⟨s', hstep, hacts⟩, hmore⟩
      exact ⟨s', hstep, s'', hacts, hmore⟩

/-- What holds of the elements so far and of the next one. -/
theorem forall_mem_concat {p : α → Prop} {l : List α} {a : α} (hl : ∀ x ∈ l, p x) (ha : p a) :
    ∀ x ∈ l ++ [a], p x :=
  List.forall_mem_append.mpr ⟨hl, List.forall_mem_singleton.mpr ha⟩

/-- The state a run ends in, when what is needed of it can be decided. -/
theorem exists_of_any {x : Option σ} {p q : σ → Prop} [DecidablePred p] (h : x.any fun s => p s)
    (hpq : ∀ s, p s → q s) :
    ∃ s, x = some s ∧ q s := by
  cases x with
  | none => cases h
  | some s => exact ⟨s, rfl, hpq s (of_decide_eq_true h)⟩

/-- Every action of the run meets `cond` in the state in which it is taken. -/
def StepsMeet (cond : σ → α → Prop) (step : σ → α → Option σ) : σ → List α → Prop
  | _, [] => True
  | s, a :: acts =>
    cond s a ∧ ∀ s', step s a = some s' → StepsMeet cond step s' acts

instance StepsMeet.decidable (cond : σ → α → Prop)
    [∀ s a, Decidable (cond s a)] (step : σ → α → Option σ) :
    (s : σ) → (acts : List α) → Decidable (StepsMeet cond step s acts)
  | _, [] => isTrue trivial
  | s, a :: acts =>
    match h : step s a with
    | none => decidable_of_iff (cond s a) (by simp [StepsMeet, h])
    | some s' =>
      have := StepsMeet.decidable cond step s' acts
      decidable_of_iff (cond s a ∧ StepsMeet cond step s' acts) (by simp [StepsMeet, h])

/-- The invariant rule for runs whose steps all meet a side condition. -/
theorem runFrom_invariant_of_stepsMeet
    (hstep : ∀ s a s', Inv s → cond s a → step s a = some s' → Inv s') {s t : σ} {acts : List α}
    (hs : Inv s) (hmeet : StepsMeet cond step s acts) (hrun : runFrom step s acts = some t) :
    Inv t := by
  induction acts generalizing s with
  | nil =>
    exact Option.some.inj hrun ▸ hs
  | cons a acts ih =>
    obtain ⟨s', hs', hrest⟩ := runFrom_cons_eq_some.mp hrun
    exact ih (hstep s a s' hs hmeet.1 hs') (hmeet.2 s' hs') hrest

theorem StepsMeet.mono {cond' : σ → α → Prop} (himp : ∀ s a, cond s a → cond' s a)
    (h : StepsMeet cond step s acts) :
    StepsMeet cond' step s acts := by
  induction acts generalizing s with
  | nil => trivial
  | cons a acts ih => exact ⟨himp s a h.1, fun s' hs' => ih (h.2 s' hs')⟩

/-- A side condition that looks only at the action. -/
theorem stepsMeet_of_forall {ok : α → Prop} (h : ∀ a ∈ acts, ok a) (s : σ) :
    StepsMeet (fun _ a => ok a) step s acts := by
  induction acts generalizing s with
  | nil => trivial
  | cons a acts ih =>
    exact ⟨h a (by simp), fun s' _ => ih (fun b hb => h b (by simp [hb])) s'⟩

/-- A property that every enabled action preserves holds at the end of every
run that starts in it. -/
theorem runFrom_invariant (hstep : ∀ s a s', Inv s → step s a = some s' → Inv s') {s t : σ}
    {acts : List α} (hs : Inv s) (hrun : runFrom step s acts = some t) :
    Inv t := by
  have hmeet : StepsMeet (fun _ _ => True) step s acts := stepsMeet_of_forall (fun _ _ => trivial) s
  exact runFrom_invariant_of_stepsMeet (fun s a s' h _ => hstep s a s' h) hs hmeet hrun

/-- Progress: until `Done` holds, and it holds for good, every action of `own`
uses up a part of a measure that only the actions of `feeds` raise. -/
theorem runFrom_until {Done : σ → Prop} {own feeds : α → Bool} {measure : σ → ℕ} {k : ℕ}
    (hdone : ∀ s a s', Done s → step s a = some s' → Done s')
    (hstep : ∀ s a s', Inv s → step s a = some s' →
      Done s' ∨
        Inv s' ∧ measure s' + (if own a then 1 else 0) ≤ measure s + (if feeds a then k else 0))
    (hs : Inv s) (hrun : runFrom step s acts = some t) :
    Done t ∨ Inv t ∧ measure t + acts.countP own ≤ measure s + k * acts.countP feeds := by
  induction acts generalizing s with
  | nil =>
    cases hrun
    exact .inr ⟨hs, by simp⟩
  | cons a acts ih =>
    obtain ⟨s', hs', hrest⟩ := runFrom_cons_eq_some.mp hrun
    rcases hstep s a s' hs hs' with hfinished | ⟨hinv, hle⟩
    · exact .inl (runFrom_invariant hdone hfinished hrest)
    · refine (ih hinv hrest).imp_right ?_
      rintro ⟨ht, htail⟩
      refine ⟨ht, ?_⟩
      rw [List.countP_cons, List.countP_cons, Nat.mul_add]
      cases hfeeds : feeds a with
      | true =>
        simp only [hfeeds, if_true] at hle ⊢
        omega
      | false =>
        simp only [hfeeds, Bool.false_eq_true, if_false] at hle ⊢
        omega

/-- A reflexive and transitive relation that every enabled action respects
relates the two ends of every run. -/
theorem runFrom_related {R : σ → σ → Prop} (hrefl : ∀ s, R s s)
    (htrans : ∀ s t u, R s t → R t u → R s u) (hstep : ∀ s a s', step s a = some s' → R s s')
    (hrun : runFrom step s acts = some t) :
    R s t :=
  runFrom_invariant (fun u a v hu hv => htrans s u v hu (hstep u a v hv)) (hrefl s) hrun

end LiveForge.Support
