import LiveForge.HttpStream.Immutable

/-!
# Media sequence numbers in low-latency playlists

A playlist gives the number of its first segment, and a client counts on from
there.  That is right as long as the numbers of the segments follow one another.
A recovery passes a number over, so from then on the number in the URI of the
open segment is one ahead of what a client counts.
-/

namespace LiveForge.HttpStream

open Support

/-! ## The property -/

/-- The retained segments are numbered one after the other up to the open one,
and in every playlist a client counts the numbers that the URIs carry and that
a blocking request may ask for. -/
structure MSNConsistent (cfg : LLHLSConfig) (m : LLHLSManager) : Prop where
  consecutive : ∀ first ∈ m.segments.head?, ∀ i seg,
    m.segments[i]? = some seg → seg.msn = first.msn + i
  current : ∀ last ∈ m.segments.getLast?, m.currentMSN = last.msn + 1
  entries : ∀ skip blocking, ∀ e ∈ playlistEntries (m.generatePlaylist cfg skip blocking),
      e.number = e.msn ∧ (e.listed = true → m.hasContent e.number (e.part.getD 0) = true)

/-! ## Segments that were marked -/

/-- The parts are numbered by their position, and only the first can follow a
discontinuity. -/
structure Numbered (parts : List LLHLSPart) : Prop where
  index : ∀ (i : ℕ) (part : LLHLSPart), parts[i]? = some part → part.index = i
  first : ∀ part ∈ parts.tail, part.discontinuity = false

theorem numbered_nil : Numbered [] := ⟨by simp, by simp⟩

variable {parts : List LLHLSPart} {c c' : LLHLSCore} {count : ℕ} {cfg : LLHLSConfig}
  {acts : List LLHLSAction} {r r' : LLHLSRun} {m : LLHLSManager} {seg : LLHLSSegment}

theorem Numbered.snoc {part : LLHLSPart} (h : Numbered parts) (hindex : part.index = parts.length)
    (hdisc : parts ≠ [] → part.discontinuity = false) :
    Numbered (parts ++ [part]) := by
  constructor
  · intro i p hp
    rcases Nat.lt_or_ge i parts.length with hlt | hge
    · rw [List.getElem?_append_left hlt] at hp
      exact h.index i p hp
    · rw [List.getElem?_append_right hge] at hp
      obtain ⟨hi, rfl⟩ := List.getElem?_eq_some_iff.mp hp
      simp only [List.length_singleton] at hi
      simp only [List.getElem_singleton]
      omega
  · intro p hp
    cases parts with
    | nil => simp at hp
    | cons q rest =>
      exact forall_mem_concat h.first (hdisc (List.cons_ne_nil _ _)) p hp

theorem Numbered.map (h : Numbered parts) {f : LLHLSPart → LLHLSPart}
    (hindex : ∀ p, (f p).index = p.index) (hdisc : ∀ p, (f p).discontinuity = p.discontinuity) :
    Numbered (parts.map f) := by
  constructor
  · intro i p hp
    rw [List.getElem?_map] at hp
    obtain ⟨q, hq, rfl⟩ := Option.map_eq_some_iff.mp hp
    rw [hindex]
    exact h.index i q hq
  · intro p hp
    rw [← List.map_tail] at hp
    obtain ⟨q, hq, rfl⟩ := List.mem_map.mp hp
    rw [hdisc]
    exact h.first q hq

theorem Numbered.countP (h : Numbered parts) :
    parts.countP LLHLSPart.discontinuity = (parts.any LLHLSPart.discontinuity).toNat := by
  cases parts with
  | nil => rfl
  | cons part rest =>
    have hrest : rest.countP LLHLSPart.discontinuity = 0 :=
      List.countP_eq_zero.mpr fun p hp => by simp [h.first p hp]
    have hany : rest.any LLHLSPart.discontinuity = false :=
      List.any_eq_false.mpr fun p hp => by simp [h.first p hp]
    rw [countP_discontinuity_cons, hrest, List.any_cons, hany, Bool.or_false, Nat.add_zero]

/-- A manager whose parts are numbered and whose segments are marked. -/
structure WellMarked (m : LLHLSManager) : Prop where
  parts : Numbered m.currentParts
  segments : ∀ seg ∈ m.segments, seg.Marked

/-- In every run the parts are numbered and the segments marked. -/
structure AllMarked (c : LLHLSCore) : Prop where
  aligned : Aligned c
  parts : Numbered c.segParts
  manager : WellMarked c.manager
  observed : ∀ m ∈ c.observed, WellMarked m

theorem allMarked_initial : AllMarked ({} : LLHLSSegmenter).core := by
  have hempty : WellMarked {} := ⟨numbered_nil, by simp⟩
  refine ⟨aligned_initial, numbered_nil, hempty, ?_⟩
  intro m hm
  rw [List.mem_singleton.mp hm]
  exact hempty

theorem AllMarked.move (h : AllMarked c) (hmove : LLHLSMove count c c') : AllMarked c' := by
  have haligned := h.aligned.move hmove
  cases hmove with
  | part part hindex hdisc hversion =>
    have hsnoc : Numbered (c.segParts ++ [c.manager.stamp part]) := by
      refine h.parts.snoc (hindex.trans h.aligned.idx) fun hne => ?_
      refine hdisc.trans (Bool.eq_false_iff.mpr fun hpending => hne ?_)
      exact h.aligned.pending hpending
    have hmanager : WellMarked (c.manager.onPart part) := by
      refine ⟨?_, h.manager.segments⟩
      have hparts := h.aligned.parts
      show Numbered (c.manager.currentParts ++ [c.manager.stamp part])
      rw [hparts]
      exact hsnoc
    exact ⟨haligned, hsnoc, hmanager, forall_mem_concat h.observed hmanager⟩
  | segment duration hparts =>
    have hmanager : WellMarked (c.manager.onSegment count (c.segmentOf duration)) := by
      refine ⟨numbered_nil, fun seg hseg => ?_⟩
      rcases mem_onSegment hseg with hold | rfl
      · exact h.manager.segments seg hold
      · have hstamped : Numbered (c.manager.stampSegment (c.segmentOf duration)).parts :=
          h.parts.map (fun _ => rfl) fun _ => rfl
        rw [LLHLSSegment.Marked, hstamped.countP]
        simp only [LLHLSManager.stampSegment, List.any_map]
        rfl
    exact ⟨haligned, numbered_nil, hmanager, forall_mem_concat h.observed hmanager⟩
  | init data =>
    have hmanager : WellMarked (c.manager.onInit data) := ⟨h.manager.parts, h.manager.segments⟩
    exact ⟨haligned, h.parts, hmanager, forall_mem_concat h.observed hmanager⟩

theorem AllMarked.recover (h : AllMarked c) : AllMarked c.recover := by
  have haligned := h.aligned.recover
  unfold LLHLSCore.recover at haligned ⊢
  split
  next hpending =>
    rw [if_pos hpending] at haligned
    exact ⟨haligned, numbered_nil, h.manager, h.observed⟩
  next hpending =>
    rw [if_neg hpending] at haligned
    have hmanager : WellMarked c.manager.onDiscontinuity := ⟨numbered_nil, h.manager.segments⟩
    exact ⟨haligned, numbered_nil, hmanager, forall_mem_concat h.observed hmanager⟩

theorem LLHLSRun.allMarked (hrun : runFrom (LLHLSRun.step cfg) {} acts = some r) :
    AllMarked r.segmenter.core :=
  LLHLSRun.invariant AllMarked allMarked_initial (fun _ _ => AllMarked.move)
    (fun _ => AllMarked.recover) hrun

/-! ## Numbers without a recovery -/

/-- All segments there ever were have the numbers below the open one, and with
room for a segment the last one is there. -/
structure Counted (count : ℕ) (m : LLHLSManager) : Prop where
  numbers : (m.evicted ++ m.segments).map LLHLSSegment.msn = List.range m.currentMSN
  retained : 0 < count → m.segments = [] → m.currentMSN = 0

section Counted

variable (h : Counted count m)

include h

theorem Counted.length : m.evicted.length + m.segments.length = m.currentMSN := by
  have hlength := congrArg List.length h.numbers
  rwa [List.length_map, List.length_append, List.length_range] at hlength

theorem Counted.msn {i : ℕ} (hseg : m.segments[i]? = some seg) :
    seg.msn = m.evicted.length + i := by
  have hnumber := congrArg (fun l => l[m.evicted.length + i]?) h.numbers
  simp only [List.getElem?_map, List.getElem?_append_right
    (Nat.le_add_right m.evicted.length i), Nat.add_sub_cancel_left, hseg] at hnumber
  obtain ⟨hi, hvalue⟩ := List.getElem?_eq_some_iff.mp hnumber.symm
  rw [← hvalue, List.getElem_range]

theorem Counted.first (hcount : 0 < count) :
    (m.segments.head?.map LLHLSSegment.msn).getD 0 = m.evicted.length := by
  cases hsegs : m.segments with
  | nil =>
    have hlength := h.length
    rw [h.retained hcount hsegs] at hlength
    exact (Nat.eq_zero_of_add_eq_zero_right hlength).symm
  | cons seg rest => exact h.msn (show m.segments[0]? = some seg by rw [hsegs]; rfl)

theorem Counted.last (hlast : m.segments.getLast? = some seg) : m.currentMSN = seg.msn + 1 := by
  have hne : m.segments ≠ [] := by
    rintro hnil
    rw [hnil] at hlast
    simp at hlast
  rw [List.getLast?_eq_getElem?] at hlast
  have hpos := List.length_pos_iff.mpr hne
  have hlength := h.length
  rw [h.msn hlast]
  omega

theorem counted_onSegment (hmsn : seg.msn = m.currentMSN) :
    Counted count (m.onSegment count seg) := by
  constructor
  · show ((m.evicted ++ (m.segments ++ [m.stampSegment seg]).take _) ++
      (m.segments ++ [m.stampSegment seg]).drop _).map LLHLSSegment.msn = List.range (seg.msn + 1)
    rw [List.append_assoc, List.take_append_drop, ← List.append_assoc,
      List.map_append, h.numbers, hmsn, List.range_succ]
    exact congrArg (List.range m.currentMSN ++ [·]) hmsn
  · intro hcount hnil
    have hdrop : (m.segments ++ [m.stampSegment seg]).drop
        ((m.segments ++ [m.stampSegment seg]).length - count) = [] := hnil
    rw [List.drop_eq_nil_iff] at hdrop
    simp only [List.length_append, List.length_singleton] at hdrop
    omega

end Counted

structure Calm (count : ℕ) (c : LLHLSCore) : Prop where
  aligned : Aligned c
  pending : c.recoveryPending = false
  manager : Counted count c.manager
  observed : ∀ m ∈ c.observed, Counted count m

theorem calm_initial (count : ℕ) : Calm count ({} : LLHLSSegmenter).core := by
  have hempty : Counted count {} := ⟨rfl, fun _ _ => rfl⟩
  refine ⟨aligned_initial, rfl, hempty, ?_⟩
  intro m hm
  rw [List.mem_singleton.mp hm]
  exact hempty

theorem Calm.move (h : Calm count c) (hmove : LLHLSMove count c c') : Calm count c' := by
  have haligned := h.aligned.move hmove
  cases hmove with
  | part part hindex hdisc hversion =>
    have hmanager : Counted count (c.manager.onPart part) := ⟨h.manager.numbers, h.manager.retained⟩
    exact ⟨haligned, rfl, hmanager, forall_mem_concat h.observed hmanager⟩
  | segment duration hparts =>
    have hmanager : Counted count (c.manager.onSegment count (c.segmentOf duration)) :=
      counted_onSegment h.manager h.aligned.msn.symm
    exact ⟨haligned, h.pending, hmanager, forall_mem_concat h.observed hmanager⟩
  | init data =>
    have hmanager : Counted count (c.manager.onInit data) := ⟨h.manager.numbers, h.manager.retained⟩
    exact ⟨haligned, h.pending, hmanager, forall_mem_concat h.observed hmanager⟩

theorem Calm.step {action : LLHLSAction} (h : Calm cfg.segmentCount r.segmenter.core)
    (hcalm : action.isRecovery = false) (hstep : LLHLSRun.step cfg r action = some r') :
    Calm cfg.segmentCount r'.segmenter.core := by
  have hmoves := LLHLSRun.step_moves hstep
  rw [if_neg (by simp [hcalm])] at hmoves
  exact hmoves.invariant (fun _ _ => Calm.move) h

/-! ## What a client counts -/

theorem mem_partEntries {msn number discontinuity : ℕ} {e : PlaylistEntry}
    (he : e ∈ partEntries msn number discontinuity parts) :
    e.msn = msn ∧ e.number = number ∧ ∃ part ∈ parts, e.part = some part.index := by
  induction parts generalizing discontinuity with
  | nil => simp [partEntries] at he
  | cons part rest ih =>
    rcases List.mem_cons.mp he with rfl | he
    · exact ⟨rfl, rfl, part, List.mem_cons_self, rfl⟩
    · obtain ⟨hmsn, hnumber, p, hp, hpart⟩ := ih he
      exact ⟨hmsn, hnumber, p, List.mem_cons_of_mem _ hp, hpart⟩

theorem mem_segmentEntries {currentParts : List LLHLSPart} {currentMSN number discontinuity : ℕ}
    {withParts : Bool} {segments : List LLHLSSegment} {e : PlaylistEntry}
    (he : e ∈ segmentEntries currentParts currentMSN withParts number discontinuity segments) :
    (∃ i seg, segments[i]? = some seg ∧ e.msn = seg.msn ∧ e.number = number + i) ∨
      e.msn = currentMSN ∧ e.number = number + segments.length ∧
        (e.listed = true → ∃ part ∈ currentParts, e.part = some part.index) := by
  induction segments generalizing number discontinuity with
  | nil =>
    right
    rcases List.mem_append.mp he with hpart | hhint
    · obtain ⟨hmsn, hnumber, hexists⟩ := mem_partEntries hpart
      exact ⟨hmsn, hnumber, fun _ => hexists⟩
    · rw [List.mem_singleton.mp hhint]
      exact ⟨rfl, rfl, fun hlisted => by simp at hlisted⟩
  | cons seg rest ih =>
    rcases List.mem_append.mp he with hpart | he
    · left
      split at hpart
      · obtain ⟨hmsn, hnumber, -⟩ := mem_partEntries hpart
        exact ⟨0, seg, rfl, hmsn, hnumber⟩
      · simp at hpart
    · rcases List.mem_cons.mp he with rfl | he
      · exact .inl ⟨0, seg, rfl, rfl, rfl⟩
      · rcases ih he with ⟨i, s, hs, hmsn, hnumber⟩ | ⟨hmsn, hnumber, hlisted⟩
        · refine .inl ⟨i + 1, s, hs, hmsn, ?_⟩
          omega
        · refine .inr ⟨hmsn, ?_, hlisted⟩
          rw [List.length_cons]
          omega

theorem Counted.consistent (cfg : LLHLSConfig) (h : Counted count m) (hcount : 0 < count)
    (hmarked : WellMarked m) :
    MSNConsistent cfg m := by
  refine ⟨?_, fun last hlast => h.last hlast, ?_⟩
  · intro first hfirst i seg hseg
    have hzero : m.segments[0]? = some first := by
      rw [← List.head?_eq_getElem?]
      exact hfirst
    rw [h.msn hseg, h.msn hzero, Nat.add_zero]
  · intro skip blocking e he
    rw [LLHLSManager.generatePlaylist,
      playlistEntries_generate _ hmarked.segments, h.first hcount] at he
    have hlength := h.length
    have hskip : LLHLSPlaylist.skipCount m.segments skip ≤ m.segments.length := by
      unfold LLHLSPlaylist.skipCount
      split <;> omega
    rcases mem_segmentEntries he with ⟨i, seg, hseg, hmsn, hnumber⟩ | ⟨hmsn, hnumber, hlisted⟩
    · -- a completed segment
      rw [List.getElem?_drop] at hseg
      have heq : e.number = seg.msn := by
        rw [h.msn hseg, hnumber, Nat.add_assoc]
      refine ⟨heq.trans hmsn.symm, fun _ => ?_⟩
      have hany : m.segments.any (fun s => e.number ≤ s.msn) = true :=
        List.any_eq_true.mpr ⟨seg, List.mem_of_getElem? hseg, by simp [heq]⟩
      rw [LLHLSManager.hasContent, hany, Bool.true_or, Bool.true_or]
    · -- the open segment
      have heq : e.number = m.currentMSN := by
        rw [hnumber, List.length_drop]
        omega
      refine ⟨heq.trans hmsn.symm, fun hl => ?_⟩
      obtain ⟨part, hpart, hindex⟩ := hlisted hl
      obtain ⟨i, hi⟩ := List.mem_iff_getElem?.mp hpart
      have hlt : part.index < m.currentParts.length := by
        rw [hmarked.parts.index i part hi]
        exact (List.getElem?_eq_some_iff.mp hi).1
      simp [LLHLSManager.hasContent, heq, hindex, hlt]

/-- After a recovery the open segment is one ahead. -/
theorem Counted.not_consistent_onDiscontinuity (cfg : LLHLSConfig) (h : Counted count m) :
    ¬ MSNConsistent cfg m.onDiscontinuity := by
  intro hconsistent
  cases hlast : m.segments.getLast? with
  | some last =>
    have hnext : m.currentMSN + 1 = last.msn + 1 := hconsistent.current last hlast
    rw [h.last hlast] at hnext
    omega
  | none =>
    have hnil : m.segments = [] := List.getLast?_eq_none_iff.mp hlast
    -- without a segment a client starts from zero
    have hentries : playlistEntries (m.onDiscontinuity.generatePlaylist cfg false false) =
        [{ msn := m.currentMSN + 1, part := some 0, listed := false
           number := 0, discontinuity := 0 }] := by
      show playlistEntries (LLHLSPlaylist.generate _ m.segments []
        (m.currentMSN + 1) false false) = _
      rw [hnil, playlistEntries_generate _ (by simp)]
      rfl
    have hhint := (hconsistent.entries false false _
      (by rw [hentries]; exact List.mem_singleton_self _)).1
    exact Nat.succ_ne_zero _ hhint.symm

/-! ## Runs -/

theorem LLHLSMove.observed_mono (hmove : LLHLSMove count c c') (hm : m ∈ c.observed) :
    m ∈ c'.observed := by
  cases hmove with
  | part | segment | init => exact List.mem_append_left _ hm

theorem LLHLSCore.observed_recover (hm : m ∈ c.observed) : m ∈ c.recover.observed := by
  unfold LLHLSCore.recover
  split
  · exact hm
  · exact List.mem_append_left _ hm

theorem LLHLSRun.observed_mono (hrun : runFrom (LLHLSRun.step cfg) r acts = some r')
    (hm : m ∈ r.segmenter.observed) :
    m ∈ r'.segmenter.observed := by
  refine @runFrom_invariant _ _ _ (fun r => m ∈ r.segmenter.core.observed)
    (fun s a s' hs hstep => ?_) _ _ _ hm hrun
  refine (step_moves hstep).invariant (fun _ _ h hmove => hmove.observed_mono h) ?_
  split
  · exact LLHLSCore.observed_recover hs
  · exact hs

/-- The first recovery leaves a state behind whose numbers do not fit. -/
theorem LLHLSRun.consistent_no_recovery (hcalm : Calm cfg.segmentCount r.segmenter.core)
    (hrun : runFrom (LLHLSRun.step cfg) r acts = some r')
    (hconsistent : ∀ m ∈ r'.segmenter.observed, MSNConsistent cfg m) :
    ∀ a ∈ acts, a.isRecovery = false := by
  induction acts generalizing r with
  | nil => simp
  | cons action acts ih =>
    obtain ⟨next, hstep, hrest⟩ := runFrom_cons_eq_some.mp hrun
    cases haction : action.isRecovery with
    | false =>
      have hacts := ih (hcalm.step haction hstep) hrest
      exact List.forall_mem_cons.mpr ⟨haction, hacts⟩
    | true =>
      exfalso
      have hmoves := step_moves hstep
      rw [if_pos haction] at hmoves
      have hseen : r.segmenter.manager.onDiscontinuity ∈
          next.segmenter.core.observed := by
        refine hmoves.invariant (fun _ _ h hmove => hmove.observed_mono h) ?_
        unfold LLHLSCore.recover
        rw [if_neg (by simp [hcalm.pending])]
        exact List.mem_append_right _ (List.mem_singleton_self _)
      exact hcalm.manager.not_consistent_onDiscontinuity cfg
        (hconsistent _ (observed_mono hrest hseen))

/-- The numbers of a run with room for a segment are consistent exactly if it
never starts over. -/
theorem llhls_numbers_consistent (cfg : LLHLSConfig) (acts : List LLHLSAction)
    (r : LLHLSRun) (hrun : runFrom (LLHLSRun.step cfg) {} acts = some r) :
    (0 < cfg.segmentCount → (∀ a ∈ acts, a.isRecovery = false) →
      ∀ m ∈ r.segmenter.observed, MSNConsistent cfg m) ∧
    ((∀ m ∈ r.segmenter.observed, MSNConsistent cfg m) →
      ∀ a ∈ acts, a.isRecovery = false) := by
  have hinitial := calm_initial cfg.segmentCount
  constructor
  · intro hcount hacts m hm
    have hcalm : Calm cfg.segmentCount r.segmenter.core :=
      @runFrom_invariant_of_stepsMeet _ _ _ (fun r => Calm cfg.segmentCount r.segmenter.core)
        (fun _ a => a.isRecovery = false)
        (fun _ _ _ h haction hstep => h.step haction hstep) _ _ _
        hinitial (stepsMeet_of_forall hacts _) hrun
    exact (hcalm.observed m hm).consistent cfg hcount
      ((LLHLSRun.allMarked hrun).observed m hm)
  · intro hconsistent
    exact LLHLSRun.consistent_no_recovery hinitial hrun hconsistent

def steadyRun : List LLHLSAction :=
  [.start videoSetup [keyframeAt 0], .frame (keyframeAt 400),
    .frame (keyframeAt 2000), .frame (interframeAt 2400)]

theorem llhls_numbers_consistent_steady :
    ∃ r, runFrom (LLHLSRun.step lowLatencyConfig) {} steadyRun = some r ∧
      r.segmenter.manager.currentMSN = 2 ∧
      ∀ m ∈ r.segmenter.observed, MSNConsistent lowLatencyConfig m := by
  refine ⟨_, rfl, ?_, ?_⟩
  · decide
  · exact (llhls_numbers_consistent lowLatencyConfig steadyRun _ rfl).1 (by decide) (by decide)

/-- After the recovery the only segment has number 0 and the open one number 2,
which a client takes for number 1. -/
theorem llhls_recovery_skips_number :
    ∃ r, runFrom (LLHLSRun.step lowLatencyConfig) {} recoveredRun = some r ∧
      ∃ m ∈ r.segmenter.observed, m.segments.map LLHLSSegment.msn = [0] ∧ m.currentMSN = 2 ∧
        { msn := 2, part := some 0, listed := false, number := 1, discontinuity := 0 } ∈
          playlistEntries (m.generatePlaylist lowLatencyConfig false false) ∧
        ¬ MSNConsistent lowLatencyConfig m := by
  refine exists_of_any (p := fun r => ∃ m ∈ r.segmenter.observed,
    m.segments.map LLHLSSegment.msn = [0] ∧ m.currentMSN = 2 ∧
    { msn := 2, part := some 0, listed := false, number := 1
      discontinuity := 0 } ∈
        playlistEntries (m.generatePlaylist lowLatencyConfig false false)) (by decide) ?_
  rintro r ⟨m, hm, hsegments, hcurrent, hentry⟩
  refine ⟨m, hm, hsegments, hcurrent, hentry, fun hconsistent => ?_⟩
  have hnumber := (hconsistent.entries false false _ hentry).1
  simp at hnumber

end LiveForge.HttpStream
