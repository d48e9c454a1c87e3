import LiveForge.HttpStream.LowLatencyMoves

/-!
# Low-latency URIs never change their content

A part is served from the list of the open segment first and from the completed
segment later, and a recovery throws the open segment away.  Behind all states a
client can see there is one archive: the parts that ever had a number.  It only
grows at the number of the open segment, numbers are never given twice, and what
any state serves is what the archive holds.
-/

namespace LiveForge.HttpStream

open Support

/-! ## Segmenter and manager -/

/-- The segmenter and its manager agree about the open segment. -/
structure Aligned (c : LLHLSCore) : Prop where
  msn : c.manager.currentMSN = c.segMSN
  parts : c.manager.currentParts = c.segParts
  idx : c.partIdx = c.segParts.length
  pending : c.recoveryPending = true → c.segParts = []

theorem aligned_initial : Aligned ({} : LLHLSSegmenter).core :=
  ⟨rfl, rfl, rfl, fun _ => rfl⟩

variable {c c' : LLHLSCore} {archive archive' : ℕ → List Bytes} {m : LLHLSManager} {data : Bytes}
  {msn count : ℕ}

theorem Aligned.move (h : Aligned c) (hmove : LLHLSMove count c c') : Aligned c' := by
  cases hmove with
  | part part hindex hdisc hversion =>
    refine ⟨h.msn, ?_, ?_, fun hpending => by simp [LLHLSCore.handPart, LLHLSCore.call] at hpending⟩
    · show c.manager.currentParts ++ [c.manager.stamp part] = _
      rw [h.parts]
      rfl
    · show c.partIdx + 1 = (c.segParts ++ [c.manager.stamp part]).length
      rw [h.idx, List.length_append, List.length_singleton]
  | segment duration hparts => exact ⟨rfl, rfl, rfl, fun _ => rfl⟩
  | init data => exact { h with }

theorem Aligned.recover (h : Aligned c) : Aligned c.recover := by
  unfold LLHLSCore.recover
  split
  next hpending =>
    exact ⟨h.msn, h.parts.trans (h.pending hpending), rfl, fun _ => rfl⟩
  · refine ⟨?_, rfl, rfl, fun _ => rfl⟩
    show c.manager.currentMSN + 1 = c.segMSN + 1
    rw [h.msn]

/-! ## The archive -/

def partData (parts : List LLHLSPart) : List Bytes :=
  parts.map LLHLSPart.data

/-- What a state serves is in the archive.  Completed segments are there as a
whole, and lie below the number of the open segment. -/
structure Serves (archive : ℕ → List Bytes) (openMSN : ℕ) (m : LLHLSManager) : Prop where
  segments : ∀ seg ∈ m.segments, seg.msn < openMSN ∧ archive seg.msn = partData seg.parts
  parts : partData m.currentParts <+: archive m.currentMSN
  msn : m.currentMSN ≤ openMSN
  discarded : ∀ n ∈ m.discarded, n < m.currentMSN ∧ ∀ seg ∈ m.segments, seg.msn ≠ n

theorem Serves.mono {n n' : ℕ} (h : Serves archive n m) (hn : n ≤ n')
    (hbelow : ∀ k, k < n → archive' k = archive k) (hopen : archive n <+: archive' n) :
    Serves archive' n' m := by
  refine ⟨?_, ?_, h.msn.trans hn, h.discarded⟩
  · intro seg hseg
    obtain ⟨hlt, harchive⟩ := h.segments seg hseg
    exact ⟨hlt.trans_le hn, (hbelow _ hlt).trans harchive⟩
  · rcases h.msn.lt_or_eq with hlt | heq
    · rw [hbelow _ hlt]
      exact h.parts
    · have hparts := h.parts
      rw [heq] at hparts ⊢
      exact hparts.trans hopen

/-- The archive of a segmenter, and every state seen so far. -/
structure Archived (c : LLHLSCore) (archive : ℕ → List Bytes) : Prop where
  current : archive c.segMSN = partData c.segParts
  future : ∀ n, c.segMSN < n → archive n = []
  manager : Serves archive c.segMSN c.manager
  observed : ∀ m ∈ c.observed, Serves archive c.segMSN m
  ordered : (c.observed ++ [c.manager]).Pairwise fun m m' =>
    m.discarded ⊆ m'.discarded

theorem archived_initial : Archived ({} : LLHLSSegmenter).core (fun _ => []) := by
  have hserves : Serves (fun _ => []) 0 {} := ⟨by simp, List.nil_prefix, Nat.le_refl 0, by simp⟩
  refine ⟨rfl, fun _ _ => rfl, hserves, ?_, by simp [LLHLSSegmenter.core]⟩
  intro m hm
  rw [List.mem_singleton.mp hm]
  exact hserves

theorem Archived.call {manager : LLHLSManager} (h : Archived c archive)
    (hmanager : c'.manager = manager) (hobserved : c'.observed = c.observed ++ [manager])
    (hmsn : c.segMSN ≤ c'.segMSN) (hbelow : ∀ k, k < c.segMSN → archive' k = archive k)
    (hopen : archive c.segMSN <+: archive' c.segMSN)
    (hcurrent : archive' c'.segMSN = partData c'.segParts)
    (hfuture : ∀ n, c'.segMSN < n → archive' n = []) (hserves : Serves archive' c'.segMSN manager)
    (hdiscarded : c.manager.discarded ⊆ manager.discarded) :
    Archived c' archive' := by
  refine ⟨hcurrent, hfuture, hmanager ▸ hserves, ?_, ?_⟩
  · rw [hobserved]
    exact forall_mem_concat (fun m hold => (h.observed m hold).mono hmsn hbelow hopen) hserves
  · rw [hobserved, hmanager, List.append_assoc]
    have hall : ∀ m ∈ c.observed, m.discarded ⊆ manager.discarded := by
      intro m hm
      have hpair := (List.pairwise_append.mp h.ordered).2.2 m hm c.manager
        (List.mem_singleton_self _)
      exact List.Subset.trans hpair hdiscarded
    refine List.pairwise_append.mpr ⟨(List.pairwise_append.mp h.ordered).1, by simp, ?_⟩
    intro m hm m' hm'
    have : m' = manager := by simpa using hm'
    rw [this]
    exact hall m hm

theorem partData_stampSegment (m : LLHLSManager) (seg : LLHLSSegment) :
    partData (m.stampSegment seg).parts = partData seg.parts := by
  simp only [LLHLSManager.stampSegment, partData, List.map_map]
  rfl

theorem Archived.part (h : Archived c archive) (haligned : Aligned c) (part : LLHLSPart) :
    Archived (c.handPart part)
      (Function.update archive c.segMSN (partData (c.segParts ++ [c.manager.stamp part]))) := by
  have hbelow : ∀ k, k < c.segMSN → Function.update archive c.segMSN
        (partData (c.segParts ++ [c.manager.stamp part])) k = archive k :=
    fun k hk => Function.update_of_ne hk.ne _ _
  have hopen : archive c.segMSN <+: Function.update archive c.segMSN
      (partData (c.segParts ++ [c.manager.stamp part])) c.segMSN := by
    rw [Function.update_self, h.current, partData, partData, List.map_append]
    exact List.prefix_append _ _
  refine h.call rfl rfl (Nat.le_refl _) hbelow hopen (Function.update_self ..) ?_
    ?_ (List.Subset.refl _)
  · intro n hn
    have hpast : c.segMSN < n := hn
    rw [Function.update_of_ne (Nat.ne_of_gt hpast)]
    exact h.future n hpast
  · have hold := h.manager.mono (Nat.le_refl _) hbelow hopen
    refine ⟨hold.segments, ?_, h.manager.msn, h.manager.discarded⟩
    show partData (c.manager.currentParts ++ [c.manager.stamp part]) <+:
      Function.update archive c.segMSN _ c.manager.currentMSN
    rw [haligned.msn, Function.update_self, haligned.parts]

theorem mem_onSegment {new seg : LLHLSSegment} (h : seg ∈ (m.onSegment count new).segments) :
    seg ∈ m.segments ∨ seg = m.stampSegment new := by
  have := List.mem_of_mem_drop h
  simpa using this

theorem Archived.segment (count : ℕ) (h : Archived c archive) (haligned : Aligned c)
    (duration : ℤ) :
    Archived (c.complete count duration) archive := by
  have hnext : archive (c.segMSN + 1) = [] := h.future _ (Nat.lt_succ_self _)
  refine h.call rfl rfl (Nat.le_succ _) (fun _ _ => rfl) List.prefix_rfl hnext
    (fun n hn => h.future n (Nat.lt_of_succ_lt hn)) ?_ (List.Subset.refl _)
  refine ⟨?_, List.nil_prefix, Nat.le_refl _, ?_⟩
  · intro seg hseg
    rcases mem_onSegment hseg with hold | rfl
    · obtain ⟨hlt, harchive⟩ := h.manager.segments seg hold
      exact ⟨hlt.trans (Nat.lt_succ_self _), harchive⟩
    · refine ⟨Nat.lt_succ_self _, ?_⟩
      rw [partData_stampSegment]
      exact h.current
  · intro n hn
    obtain ⟨hlt, hnot⟩ := h.manager.discarded n hn
    rw [haligned.msn] at hlt
    refine ⟨hlt.trans (Nat.lt_succ_self _), ?_⟩
    intro seg hseg
    rcases mem_onSegment hseg with hold | rfl
    · exact hnot seg hold
    · exact (Nat.ne_of_lt hlt).symm

theorem Archived.init (h : Archived c archive) (data : Fmp4.InitSegment) :
    Archived (c.call (c.manager.onInit data)) archive :=
  h.call rfl rfl (Nat.le_refl _) (fun _ _ => rfl) List.prefix_rfl h.current h.future
    { h.manager with }
    (List.Subset.refl _)

/-- The parts of the open segment stay in the archive, and the number is passed
over. -/
theorem Archived.recover (h : Archived c archive) (haligned : Aligned c) :
    Archived c.recover archive := by
  unfold LLHLSCore.recover
  split
  next hpending =>
    have hnone := haligned.pending hpending
    exact { h with current := by rw [h.current, hnone] }
  · have hkept : c.manager.discarded ⊆
        c.manager.onDiscontinuity.discarded := by
      show c.manager.discarded ⊆ if c.manager.currentParts = [] then
        c.manager.discarded else c.manager.discarded ++ [c.manager.currentMSN]
      split
      · exact List.Subset.refl _
      · exact List.subset_append_left _ _
    refine h.call rfl rfl (Nat.le_succ _) (fun _ _ => rfl) List.prefix_rfl
      (h.future _ (Nat.lt_succ_self _))
      (fun n hn => h.future n (Nat.lt_of_succ_lt hn)) ?_ hkept
    refine ⟨?_, List.nil_prefix, ?_, ?_⟩
    · intro seg hseg
      obtain ⟨hlt, harchive⟩ := h.manager.segments seg hseg
      exact ⟨hlt.trans (Nat.lt_succ_self _), harchive⟩
    · exact Nat.succ_le_succ haligned.msn.le
    · intro n hn
      have hcases : n ∈ c.manager.discarded ∨ n = c.manager.currentMSN := by
        have hn' : n ∈ if c.manager.currentParts = [] then c.manager.discarded
            else c.manager.discarded ++ [c.manager.currentMSN] := hn
        split at hn'
        · exact .inl hn'
        · simpa using hn'
      rcases hcases with hold | rfl
      · obtain ⟨hlt, hnot⟩ := h.manager.discarded n hold
        exact ⟨hlt.trans (Nat.lt_succ_self _), hnot⟩
      · refine ⟨Nat.lt_succ_self _, fun seg hseg => ?_⟩
        rw [haligned.msn]
        exact ((h.manager.segments seg hseg).1).ne

theorem LLHLSRun.archived {cfg : LLHLSConfig} {acts : List LLHLSAction}
    {r : LLHLSRun} (hrun : runFrom (LLHLSRun.step cfg) {} acts = some r) :
    Aligned r.segmenter.core ∧ ∃ archive, Archived r.segmenter.core archive := by
  refine LLHLSRun.invariant (fun c => Aligned c ∧ ∃ archive, Archived c archive)
    ⟨aligned_initial, _, archived_initial⟩ ?_ ?_ hrun
  · rintro a b ⟨haligned, archive, harchived⟩ hmove
    refine ⟨haligned.move hmove, ?_⟩
    cases hmove with
    | part part hindex hdisc hversion => exact ⟨_, harchived.part haligned part⟩
    | segment duration hparts =>
      exact ⟨_, harchived.segment _ haligned duration⟩
    | init data => exact ⟨_, harchived.init data⟩
  · rintro a ⟨haligned, archive, harchived⟩
    exact ⟨haligned.recover, _, harchived.recover haligned⟩

/-! ## Requests -/

section Requests

variable {openMSN : ℕ}

theorem Serves.getPartialSegment (h : Serves archive openMSN m) {idx : ℕ}
    (hget : m.getPartialSegment msn idx = some data) :
    (archive msn)[idx]? = some data := by
  unfold LLHLSManager.getPartialSegment at hget
  split at hget
  next seg hfound =>
    have hmsn : seg.msn = msn := by simpa using List.find?_some hfound
    obtain ⟨-, harchive⟩ := h.segments seg (List.mem_of_find?_eq_some hfound)
    rw [← hmsn, harchive, partData, List.getElem?_map]
    exact hget
  · split_ifs at hget with hmsn
    obtain ⟨rest, hrest⟩ := h.parts
    rw [← hmsn, ← hrest]
    rw [← List.getElem?_map] at hget
    rw [List.getElem?_append_left, partData, hget]
    exact (List.getElem?_eq_some_iff.mp hget).1

theorem Serves.getFullSegment (h : Serves archive openMSN m)
    (hget : m.getFullSegment msn = some data) :
    data = (archive msn).flatten := by
  obtain ⟨seg, hfound, rfl⟩ := Option.map_eq_some_iff.mp hget
  have hmsn : seg.msn = msn := by simpa using List.find?_some hfound
  obtain ⟨-, harchive⟩ := h.segments seg (List.mem_of_find?_eq_some hfound)
  rw [← hmsn, harchive]
  rfl

theorem Serves.discarded_none (h : Serves archive openMSN m) (hmsn : msn ∈ m.discarded) :
    (∀ idx, m.getPartialSegment msn idx = none) ∧ m.getFullSegment msn = none := by
  obtain ⟨hlt, hnot⟩ := h.discarded msn hmsn
  have hfind : (m.segments.find? fun seg => seg.msn = msn) = none := by
    rw [List.find?_eq_none]
    intro seg hseg
    simpa using hnot seg hseg
  refine ⟨fun idx => ?_, ?_⟩
  · rw [LLHLSManager.getPartialSegment, hfind]
    exact if_neg (Nat.ne_of_gt hlt)
  · rw [LLHLSManager.getFullSegment, hfind]
    rfl

end Requests

theorem LLHLSManager.getFullSegment_eq (hget : m.getFullSegment msn = some data) :
    ∃ parts : List Bytes, data = parts.flatten ∧
      ∀ idx, m.getPartialSegment msn idx = parts[idx]? := by
  obtain ⟨seg, hfound, rfl⟩ := Option.map_eq_some_iff.mp hget
  refine ⟨seg.parts.map LLHLSPart.data, rfl, fun idx => ?_⟩
  rw [LLHLSManager.getPartialSegment, hfound, List.getElem?_map]

/-- What a URI serves once it serves whenever it serves anything. -/
theorem llhls_uris_immutable (cfg : LLHLSConfig) (acts : List LLHLSAction)
    (r : LLHLSRun) (hrun : runFrom (LLHLSRun.step cfg) {} acts = some r) :
    (∀ m ∈ r.segmenter.observed, ∀ m' ∈ r.segmenter.observed,
      (∀ msn idx data data', m.getPartialSegment msn idx = some data →
        m'.getPartialSegment msn idx = some data' → data' = data) ∧
      ∀ msn data data', m.getFullSegment msn = some data →
        m'.getFullSegment msn = some data' → data' = data) ∧
    (∀ m ∈ r.segmenter.observed, ∀ msn data, m.getFullSegment msn = some data →
        ∃ parts : List Bytes, data = parts.flatten ∧
          ∀ idx, m.getPartialSegment msn idx = parts[idx]?) ∧
    r.segmenter.observed.Pairwise fun m m' => ∀ msn ∈ m.discarded,
      (∀ idx, m'.getPartialSegment msn idx = none) ∧ m'.getFullSegment msn = none := by
  obtain ⟨-, archive, harchived⟩ := LLHLSRun.archived hrun
  refine ⟨?_, fun m _ msn data hget => m.getFullSegment_eq hget, ?_⟩
  · intro m hm m' hm'
    have hserves := harchived.observed m hm
    have hserves' := harchived.observed m' hm'
    refine ⟨fun msn idx data data' hget hget' => ?_, fun msn data data' hget hget' => ?_⟩
    · have hfirst := hserves.getPartialSegment hget
      have hsecond := hserves'.getPartialSegment hget'
      exact Option.mem_unique hsecond hfirst
    · rw [hserves.getFullSegment hget, hserves'.getFullSegment hget']
  · have hordered := (List.pairwise_append.mp harchived.ordered).1
    refine hordered.imp_of_mem fun {m m'} _ hm' hsub msn hmsn => ?_
    exact (harchived.observed m' hm').discarded_none (hsub hmsn)

/-! ## A run -/

/-- Parts of 200 ms and two segments. -/
def lowLatencyConfig : LLHLSConfig where
  container := .fmp4
  segmentCount := 2
  partDuration := 200
  partElapsed := fun ms => 200 ≤ ms
  segmentElapsed := fun ms => 6000 ≤ ms

def videoHeader : AVFrame :=
  newAVFrame .video .vp9 .sequenceHeader 0 0 [0x01]

def videoSetup : SegmentSetup where
  videoSequenceHeader := some videoHeader
  audioPlan := .none
  audioSequenceHeader := none
  sampleRate := 0

def keyframeAt (dts : ℤ) : AVFrame :=
  newAVFrame .video .vp9 .keyframe dts dts [0x82]

def interframeAt (dts : ℤ) : AVFrame :=
  newAVFrame .video .vp9 .interframe dts dts [0x86]

/-- Two parts and a segment, then a part that is thrown away, then another
segment. -/
def recoveredRun : List LLHLSAction :=
  [.start videoSetup [keyframeAt 0], .frame (interframeAt 100),
    .frame (keyframeAt 400), .frame (interframeAt 700),
    .overwritten (some videoSetup), .frame (keyframeAt 2000),
    .frame (keyframeAt 3000), .finish]

/-- The number 1 is thrown away in this run and never served again. -/
theorem llhls_uris_immutable_recovered :
    ∃ r, runFrom (LLHLSRun.step lowLatencyConfig) {} recoveredRun = some r ∧
      (∃ m ∈ r.segmenter.observed, (m.getPartialSegment 1 0).isSome) ∧
      r.segmenter.manager.discarded = [1] ∧
      r.segmenter.observed.Pairwise fun m m' => ∀ msn ∈ m.discarded,
        (∀ idx, m'.getPartialSegment msn idx = none) ∧ m'.getFullSegment msn = none := by
  refine ⟨_, rfl, ?_, ?_, (llhls_uris_immutable lowLatencyConfig recoveredRun _ rfl).2.2⟩
  · decide
  · decide

end LiveForge.HttpStream
