import LiveForge.HttpStream.HlsMoves
import LiveForge.HttpStream.Numbering

/-!
# Discontinuity numbers

A client numbers the discontinuities of a playlist from what its head says.  HLS
playlists say nothing, and low-latency playlists say how many discontinuities
are in the segments they skip.  Neither counts those in segments that have left
the window, so the number of a segment falls when a segment with a discontinuity
leaves before it.
-/

namespace LiveForge.HttpStream

open Support

/-! ## The property -/

/-- A segment has one number in all playlists that list it. -/
def DiscontinuityStable (playlists : Set (List PlaylistLine)) : Prop :=
  ∀ lines ∈ playlists, ∀ lines' ∈ playlists,
    ∀ e ∈ playlistEntries lines, ∀ e' ∈ playlistEntries lines',
      e.part = none → e'.part = none → e.msn = e'.msn → e.discontinuity = e'.discontinuity

/-- The playlists of the states a low-latency manager left behind. -/
def LLHLSSegmenter.playlists (cfg : LLHLSConfig) (s : LLHLSSegmenter) :
    Set (List PlaylistLine) :=
  { lines | ∃ m ∈ s.observed, ∃ skip blocking,
    lines = m.generatePlaylist cfg skip blocking }

def HLSWorker.playlists (w : HLSWorker) : Set (List PlaylistLine) :=
  { lines | ∃ m ∈ w.observed, lines = m.generateM3U8 }

/-! ## Playlists of windows -/

variable {n discontinuity : ℕ} {e : PlaylistEntry} {m : LLHLSManager}

section Windows

variable {α : Type*} {key : α → ℕ} {p : α → Bool} {playlists : Set (List PlaylistLine)}

/-- What the playlist lists is in the window, and the number a client gives it
counts the marked items. -/
def ListsOnly (key : α → ℕ) (p : α → Bool) (w : Window α) (lines : List PlaylistLine) : Prop :=
  ∀ e ∈ playlistEntries lines, e.part = none →
    ∃ i x, w.kept[i]? = some x ∧ key x = e.msn ∧ w.marks p i = e.discontinuity

def ListsAll (key : α → ℕ) (p : α → Bool) (w : Window α) (lines : List PlaylistLine) : Prop :=
  ∀ i x, w.kept[i]? = some x → ∃ e ∈ playlistEntries lines,
      e.part = none ∧ e.msn = key x ∧ e.discontinuity = w.marks p i

theorem position_eq_of_key_eq {items : List α} (hkeys : (items.map key).Pairwise (· < ·))
    {i j : ℕ} {x y : α} (hx : items[i]? = some x) (hy : items[j]? = some y) (hkey : key x = key y) :
    i = j := by
  rw [List.pairwise_map] at hkeys
  rw [List.pairwise_iff_getElem] at hkeys
  obtain ⟨hi, rfl⟩ := List.getElem?_eq_some_iff.mp hx
  obtain ⟨hj, rfl⟩ := List.getElem?_eq_some_iff.mp hy
  rcases Nat.lt_trichotomy i j with hlt | heq | hgt
  · exact absurd hkey (hkeys i j hi hj hlt).ne
  · exact heq
  · exact absurd hkey.symm (hkeys j i hj hi hgt).ne

variable {seen : List (Window α)} {w : Window α}

/-- Numbers are stable in the playlists exactly if the counts are. -/
theorem discontinuityStable_iff_marksStable (h : Window.History n seen w)
    (hkeys : (w.all.map key).Pairwise (· < ·))
    (hof : ∀ lines ∈ playlists, ∃ v ∈ seen, ListsOnly key p v lines)
    (hfor : ∀ v ∈ seen, ∃ lines ∈ playlists, ListsAll key p v lines) :
    DiscontinuityStable playlists ↔ Window.MarksStable p seen := by
  constructor
  · intro hstable v hv v' hv' i i' hi hi' hposition
    obtain ⟨lines, hlines, hlist⟩ := hfor v hv
    obtain ⟨lines', hlines', hlist'⟩ := hfor v' hv'
    have hx := List.getElem?_eq_getElem hi
    have hx' := List.getElem?_eq_getElem hi'
    have hsame : v.kept[i] = v'.kept[i'] := by
      have hall := h.all_getElem? hv hx
      rw [hposition, h.all_getElem? hv' hx'] at hall
      exact (Option.some.inj hall).symm
    obtain ⟨e, he, hpart, hmsn, hnumber⟩ := hlist i _ hx
    obtain ⟨e', he', hpart', hmsn', hnumber'⟩ := hlist' i' _ hx'
    rw [← hnumber, ← hnumber']
    refine hstable lines hlines lines' hlines' e he e' he' hpart hpart' ?_
    rw [hmsn, hmsn', hsame]
  · intro hstable lines hlines lines' hlines' e he e' he' hpart hpart' hmsn
    obtain ⟨v, hv, hlist⟩ := hof lines hlines
    obtain ⟨v', hv', hlist'⟩ := hof lines' hlines'
    obtain ⟨i, x, hx, hkey, hnumber⟩ := hlist e he hpart
    obtain ⟨i', x', hx', hkey', hnumber'⟩ := hlist' e' he' hpart'
    rw [← hnumber, ← hnumber']
    refine hstable v hv v' hv' i i' (List.getElem?_eq_some_iff.mp hx).1
      (List.getElem?_eq_some_iff.mp hx').1 ?_
    refine position_eq_of_key_eq hkeys (h.all_getElem? hv hx) (h.all_getElem? hv' hx') ?_
    rw [hkey, hkey', hmsn]

theorem discontinuityStable_iff_evicted (h : Window.History n seen w)
    (hkeys : (w.all.map key).Pairwise (· < ·))
    (hof : ∀ lines ∈ playlists, ∃ v ∈ seen, ListsOnly key p v lines)
    (hfor : ∀ v ∈ seen, ∃ lines ∈ playlists, ListsAll key p v lines) :
    ((∀ x ∈ w.evicted, p x = false) → DiscontinuityStable playlists) ∧
      (2 ≤ n → DiscontinuityStable playlists → ∀ x ∈ w.evicted, p x = false) := by
  rw [discontinuityStable_iff_marksStable h hkeys hof hfor]
  exact ⟨h.marksStable, h.evicted_unmarked⟩

def windowEntries (key : α → ℕ) (p : α → Bool) (number discontinuity : ℕ) :
    List α → List PlaylistEntry
  | [] => []
  | x :: rest =>
    { msn := key x, part := none, listed := true, number
      discontinuity := discontinuity + (p x).toNat } ::
      windowEntries key p (number + 1) (discontinuity + (p x).toNat) rest

theorem mem_windowEntries {number : ℕ} {items : List α} :
    e ∈ windowEntries key p number discontinuity items ↔
      ∃ i x, items[i]? = some x ∧
        e = { msn := key x, part := none, listed := true, number := number + i
              discontinuity := discontinuity +
                (items.take (i + 1)).countP p } := by
  induction items generalizing number discontinuity with
  | nil => simp [windowEntries]
  | cons first rest ih =>
    have hcount : ∀ i, discontinuity + ((first :: rest).take (i + 1)).countP p =
        discontinuity + (p first).toNat + (rest.take i).countP p := by
      intro i
      rw [List.take_succ_cons, List.countP_cons, Nat.add_assoc, Nat.add_comm (p first).toNat]
      cases p first <;> rfl
    rw [windowEntries, List.mem_cons, ih]
    constructor
    · rintro (rfl | ⟨i, x, hx, rfl⟩)
      · refine ⟨0, first, rfl, ?_⟩
        rfl
      · refine ⟨i + 1, x, hx, ?_⟩
        rw [hcount, Nat.add_assoc number 1 i, Nat.add_comm 1 i]
    · rintro ⟨i, x, hx, rfl⟩
      cases i with
      | zero =>
        left
        cases hx
        rfl
      | succ i =>
        right
        refine ⟨i, x, hx, ?_⟩
        rw [hcount, Nat.add_assoc number 1 i, Nat.add_comm 1 i]

end Windows

/-! ## Low-latency playlists -/

def LLHLSManager.window (m : LLHLSManager) : Window LLHLSSegment :=
  ⟨m.evicted, m.segments⟩

/-- The entries of the completed segments; all others are parts. -/
theorem mem_segmentEntries_segment {currentParts : List LLHLSPart}
    {currentMSN number : ℕ} {withParts : Bool} {segments : List LLHLSSegment} :
    e ∈ segmentEntries currentParts currentMSN withParts number discontinuity
        segments ∧ e.part = none ↔
      e ∈ windowEntries LLHLSSegment.msn LLHLSSegment.discontinuity number
        discontinuity segments := by
  have hnone {parts : List LLHLSPart} {msn n d : ℕ}
      (he : e ∈ partEntries msn n d parts) : e.part ≠ none := by
    obtain ⟨-, -, part, -, hsome⟩ := mem_partEntries he
    simp [hsome]
  induction segments generalizing number discontinuity with
  | nil =>
    refine ⟨fun ⟨he, hpart⟩ => ?_, fun he => absurd he List.not_mem_nil⟩
    rcases List.mem_append.mp he with hp | hhint
    · exact absurd hpart (hnone hp)
    · rw [List.mem_singleton.mp hhint] at hpart
      simp at hpart
  | cons first rest ih =>
    rw [segmentEntries, windowEntries, List.mem_append, List.mem_cons, List.mem_cons]
    constructor
    · rintro ⟨hp | rfl | he, hpart⟩
      · split at hp
        · exact absurd hpart (hnone hp)
        · simp at hp
      · exact .inl rfl
      · exact .inr (ih.mp ⟨he, hpart⟩)
    · rintro (rfl | he)
      · exact ⟨.inr (.inl rfl), rfl⟩
      · exact ⟨.inr (.inr (ih.mpr he).1), (ih.mpr he).2⟩

/-- With or without skipping, the numbers count the discontinuities of the
window. -/
theorem listsOnly_generatePlaylist (hmarked : WellMarked m)
    (cfg : LLHLSConfig) (skip blocking : Bool) :
    ListsOnly LLHLSSegment.msn LLHLSSegment.discontinuity m.window
      (m.generatePlaylist cfg skip blocking) := by
  intro e he hpart
  rw [LLHLSManager.generatePlaylist, playlistEntries_generate _ hmarked.segments] at he
  generalize LLHLSPlaylist.skipCount m.segments skip = startIdx at he
  obtain ⟨i, seg, hseg, rfl⟩ := mem_windowEntries.mp (mem_segmentEntries_segment.mp ⟨he, hpart⟩)
  rw [List.getElem?_drop] at hseg
  refine ⟨startIdx + i, seg, hseg, rfl, ?_⟩
  rw [← List.countP_append, ← List.take_add]
  rfl

theorem listsAll_generatePlaylist (hmarked : WellMarked m)
    (cfg : LLHLSConfig) (blocking : Bool) :
    ListsAll LLHLSSegment.msn LLHLSSegment.discontinuity m.window
      (m.generatePlaylist cfg false blocking) := by
  intro i seg hseg
  rw [LLHLSManager.generatePlaylist, playlistEntries_generate _ hmarked.segments]
  exact ⟨_, (mem_segmentEntries_segment.mpr
    (mem_windowEntries.mpr ⟨i, seg, hseg, rfl⟩)).1, rfl, rfl, Nat.zero_add _⟩

/-- The window of a manager that numbers its segments upwards. -/
structure LLHLSWindows (count : ℕ) (c : LLHLSCore) : Prop where
  aligned : Aligned c
  history : Window.History count (c.observed.map LLHLSManager.window) c.manager.window
  keys : (c.manager.window.all.map LLHLSSegment.msn ++ [c.manager.currentMSN]).Pairwise (· < ·)

variable {count size : ℕ} {c : LLHLSCore} {acts : List LLHLSAction} {cfg : LLHLSConfig}
  {r : LLHLSRun} {numbers : List ℕ}

theorem LLHLSWindows.history_call (h : LLHLSWindows count c) {manager : LLHLSManager}
    (hwindow : manager.window = c.manager.window) :
    Window.History count ((c.observed ++ [manager]).map LLHLSManager.window) manager.window := by
  rw [List.map_append, List.map_singleton, hwindow]
  exact h.history.stay

theorem pairwise_lt_concat_concat (h : (numbers ++ [n]).Pairwise (· < ·)) :
    (numbers ++ [n] ++ [n + 1]).Pairwise (· < ·) := by
  refine List.pairwise_append.mpr ⟨h, List.pairwise_singleton _ _, fun a ha b hb => ?_⟩
  rw [List.mem_singleton.mp hb]
  rcases List.mem_append.mp ha with hold | hlast
  · exact ((List.pairwise_append.mp h).2.2 a hold n (List.mem_singleton_self n)).trans
      (Nat.lt_succ_self n)
  · exact (List.mem_singleton.mp hlast).trans_lt (Nat.lt_succ_self n)

theorem LLHLSWindows.move {c' : LLHLSCore} (h : LLHLSWindows count c)
    (hmove : LLHLSMove count c c') :
    LLHLSWindows count c' := by
  have haligned := h.aligned.move hmove
  cases hmove with
  | part part hindex hdisc hversion | init data =>
    exact ⟨haligned, h.history_call rfl, h.keys⟩
  | segment duration hparts =>
    have hpush : (c.manager.onSegment count (c.segmentOf duration)).window =
        c.manager.window.push count (c.manager.stampSegment (c.segmentOf duration)) := rfl
    refine ⟨haligned, ?_, ?_⟩
    · show Window.History count ((c.observed ++ [_]).map LLHLSManager.window) _
      rw [List.map_append, List.map_singleton]
      exact h.history.push _
    · show (Window.all (LLHLSManager.window (c.manager.onSegment _ _)) |>.map
        LLHLSSegment.msn) ++ [c.segMSN + 1] |>.Pairwise (· < ·)
      rw [hpush, Window.all_push, List.map_append, ← h.aligned.msn]
      have hmsn : (c.manager.stampSegment (c.segmentOf duration)).msn =
          c.manager.currentMSN := h.aligned.msn.symm
      rw [List.map_singleton, hmsn]
      exact pairwise_lt_concat_concat h.keys

theorem LLHLSWindows.recover (h : LLHLSWindows count c) : LLHLSWindows count c.recover := by
  have haligned := h.aligned.recover
  unfold LLHLSCore.recover at haligned ⊢
  split
  next hpending =>
    rw [if_pos hpending] at haligned
    exact ⟨haligned, h.history, h.keys⟩
  next hpending =>
    rw [if_neg hpending] at haligned
    have hkeys := (pairwise_lt_concat_concat h.keys).sublist
      ((List.sublist_append_left _ _).append_right _)
    exact ⟨haligned, h.history_call rfl, hkeys⟩

theorem LLHLSRun.windows (hrun : runFrom (LLHLSRun.step cfg) {} acts = some r) :
    LLHLSWindows cfg.segmentCount r.segmenter.core :=
  LLHLSRun.invariant (LLHLSWindows cfg.segmentCount)
    ⟨aligned_initial, .start, List.pairwise_singleton _ _⟩ (fun _ _ => LLHLSWindows.move)
    (fun _ => LLHLSWindows.recover) hrun

theorem LLHLSRun.discontinuityStable (hrun : runFrom (LLHLSRun.step cfg) {} acts = some r) :
    ((∀ seg ∈ r.segmenter.manager.evicted, seg.discontinuity = false) →
      DiscontinuityStable (r.segmenter.playlists cfg)) ∧
    (2 ≤ cfg.segmentCount → DiscontinuityStable (r.segmenter.playlists cfg) →
        ∀ seg ∈ r.segmenter.manager.evicted, seg.discontinuity = false) := by
  have hwindows := windows hrun
  have hmarked := (allMarked hrun).observed
  refine discontinuityStable_iff_evicted hwindows.history
    (List.pairwise_append.mp hwindows.keys).1 ?_ ?_
  · rintro lines ⟨m, hm, skip, blocking, rfl⟩
    exact ⟨m.window, List.mem_map_of_mem hm,
      listsOnly_generatePlaylist (hmarked m hm) cfg skip blocking⟩
  · intro v hv
    obtain ⟨m, hm, rfl⟩ := List.mem_map.mp hv
    exact ⟨_, ⟨m, hm, false, false, rfl⟩,
      listsAll_generatePlaylist (hmarked m hm) cfg false⟩

/-! ## HLS playlists -/

theorem readPlaylist_hlsSegmentLines (segments : List HLSSegment) (number discontinuity : ℕ) :
    readPlaylist number discontinuity (segments.flatMap HLSManager.segmentLines) =
      windowEntries HLSSegment.seqNum HLSSegment.discontinuity number discontinuity segments := by
  induction segments generalizing number discontinuity with
  | nil => rfl
  | cons first rest ih =>
    rw [List.flatMap_cons, HLSManager.segmentLines, windowEntries, ← ih]
    cases first.discontinuity <;> rfl

theorem listsOnly_generateM3U8 (m : HLSManager) :
    ListsOnly HLSSegment.seqNum HLSSegment.discontinuity m.window m.generateM3U8 := by
  intro e he _
  rw [playlistEntries, HLSManager.generateM3U8, readPlaylist, readPlaylist_hlsSegmentLines] at he
  obtain ⟨i, seg, hseg, rfl⟩ := mem_windowEntries.mp he
  exact ⟨i, seg, hseg, rfl, (Nat.zero_add _).symm⟩

theorem listsAll_generateM3U8 (m : HLSManager) :
    ListsAll HLSSegment.seqNum HLSSegment.discontinuity m.window m.generateM3U8 := by
  intro i seg hseg
  rw [playlistEntries, HLSManager.generateM3U8, readPlaylist, readPlaylist_hlsSegmentLines]
  exact ⟨_, mem_windowEntries.mpr ⟨i, seg, hseg, rfl⟩, rfl, rfl, Nat.zero_add _⟩

structure HLSWindows (size : ℕ) (c : HLSCore) : Prop where
  history : Window.History size (c.observed.map HLSManager.window) c.manager.window
  keys : c.manager.window.all.map HLSSegment.seqNum = List.range c.manager.nextSeqNum

theorem HLSWindows.prepare {c : HLSCore} (h : HLSWindows size c) (a : HLSAction) :
    HLSWindows size (a.prepare c) := by
  unfold HLSAction.prepare
  split <;> exact ⟨h.history, h.keys⟩

theorem HLSWindows.move {frames : ℕ × AVFrame → Prop} {c c' : HLSCore} (h : HLSWindows size c)
    (hmove : HLSMove size frames c c') :
    HLSWindows size c' := by
  cases hmove with
  | tables hbuf | write placed hframe => exact ⟨h.history, h.keys⟩
  | cut seg hseqNum hdata hplaced =>
    have hpush : (c.manager.add size seg).window =
        c.manager.window.push size seg := rfl
    constructor
    · show Window.History size ((c.observed ++ [_]).map HLSManager.window) _
      rw [List.map_append]
      exact h.history.push seg
    · show ((c.manager.add size seg).window.all.map HLSSegment.seqNum) =
        List.range (c.manager.nextSeqNum + 1)
      rw [hpush, Window.all_push, List.map_append, h.keys, List.map_singleton,
        hseqNum, List.range_succ]

theorem HLSRun.discontinuityStable {cfg : HLSConfig} {acts : List HLSAction}
    {r : HLSRun} (hrun : runFrom (HLSRun.step cfg) {} acts = some r) :
    ((∀ seg ∈ r.worker.manager.evicted, seg.discontinuity = false) →
      DiscontinuityStable r.worker.playlists) ∧
    (2 ≤ cfg.windowSize → DiscontinuityStable r.worker.playlists →
      ∀ seg ∈ r.worker.manager.evicted, seg.discontinuity = false) := by
  have hwindows : HLSWindows cfg.windowSize r.worker.core :=
    HLSRun.invariant (HLSWindows cfg.windowSize) ⟨.start, rfl⟩
      (fun a _ h => h.prepare a) (fun _ _ _ => HLSWindows.move) hrun
  have hkeys : (r.worker.core.manager.window.all.map HLSSegment.seqNum).Pairwise (· < ·) := by
    rw [hwindows.keys]
    exact List.pairwise_lt_range
  refine discontinuityStable_iff_evicted hwindows.history hkeys ?_ ?_
  · rintro lines ⟨m, hm, rfl⟩
    exact ⟨m.window, List.mem_map_of_mem hm, listsOnly_generateM3U8 m⟩
  · intro v hv
    obtain ⟨m, hm, rfl⟩ := List.mem_map.mp hv
    exact ⟨_, ⟨m, hm, rfl⟩, listsAll_generateM3U8 m⟩

/-! ## Both -/

/-- Discontinuity numbers are stable as long as no segment that starts after a
discontinuity leaves the window, and with room for two segments only then. -/
theorem discontinuity_numbers_stable (hls : HLSConfig) (hlsActs : List HLSAction)
    (llhls : LLHLSConfig) (llhlsActs : List LLHLSAction) :
    (∀ r, runFrom (HLSRun.step hls) {} hlsActs = some r →
      ((∀ seg ∈ r.worker.manager.evicted, seg.discontinuity = false) →
        DiscontinuityStable r.worker.playlists) ∧
      (2 ≤ hls.windowSize → DiscontinuityStable r.worker.playlists →
        ∀ seg ∈ r.worker.manager.evicted, seg.discontinuity = false)) ∧
    ∀ r, runFrom (LLHLSRun.step llhls) {} llhlsActs = some r →
      ((∀ seg ∈ r.segmenter.manager.evicted, seg.discontinuity = false) →
        DiscontinuityStable (r.segmenter.playlists llhls)) ∧
      (2 ≤ llhls.segmentCount → DiscontinuityStable (r.segmenter.playlists llhls) →
          ∀ seg ∈ r.segmenter.manager.evicted, seg.discontinuity = false) :=
  ⟨fun _ => HLSRun.discontinuityStable, fun _ => LLHLSRun.discontinuityStable⟩

def twoSegments : HLSConfig where
  maxSegments := 2
  targetElapsed := fun ms => 6000 ≤ ms

/-- A segment, a recovery and two segments behind it. -/
def hlsRecovered : List HLSAction :=
  [.start videoSetup [(0, keyframeAt 0)], .frame 1 (keyframeAt 400),
    .overwritten (some videoSetup), .frame 9 (keyframeAt 2000),
    .frame 10 (keyframeAt 3000), .frame 11 (keyframeAt 4000)]

/-- The same with parts. -/
def llhlsRecovered : List LLHLSAction :=
  [.start videoSetup [keyframeAt 0], .frame (keyframeAt 400),
    .overwritten (some videoSetup), .frame (keyframeAt 2000),
    .frame (keyframeAt 3000), .frame (keyframeAt 4000)]

/-- The first segment has left, and both segments behind the recovery have
number 1 still. -/
theorem discontinuity_numbers_stable_recovered :
    (∃ r, runFrom (HLSRun.step twoSegments) {} hlsRecovered = some r ∧
      r.worker.manager.segments.map HLSSegment.discontinuity = [true, false] ∧
      r.worker.manager.evicted.length = 1 ∧ DiscontinuityStable r.worker.playlists) ∧
    ∃ r, runFrom (LLHLSRun.step lowLatencyConfig) {} llhlsRecovered = some r ∧
      r.segmenter.manager.segments.map LLHLSSegment.discontinuity = [true, false] ∧
      r.segmenter.manager.evicted.length = 1 ∧
      DiscontinuityStable (r.segmenter.playlists lowLatencyConfig) := by
  have hstable :=
    discontinuity_numbers_stable twoSegments hlsRecovered lowLatencyConfig llhlsRecovered
  refine ⟨⟨_, rfl, by decide, by decide, ?_⟩, _, rfl, by decide, by decide, ?_⟩
  · exact (hstable.1 _ rfl).1 (by decide)
  · exact (hstable.2 _ rfl).1 (by decide)

/-- One more segment, and the segment before it has lost its number. -/
theorem discontinuity_number_lost :
    (∃ r, runFrom (HLSRun.step twoSegments) {}
        (hlsRecovered ++ [.frame 12 (keyframeAt 5000)]) = some r ∧
      ¬ DiscontinuityStable r.worker.playlists) ∧
    ∃ r, runFrom (LLHLSRun.step lowLatencyConfig) {}
        (llhlsRecovered ++ [.frame (keyframeAt 5000)]) = some r ∧
      ¬ DiscontinuityStable (r.segmenter.playlists lowLatencyConfig) := by
  constructor
  · refine exists_of_any (p := fun r =>
      ∃ m ∈ r.worker.observed, ∃ m' ∈ r.worker.observed, ∃ e ∈ playlistEntries m.generateM3U8,
        ∃ e' ∈ playlistEntries m'.generateM3U8, e.part = none ∧ e'.part = none ∧ e.msn = e'.msn ∧
            e.discontinuity ≠ e'.discontinuity) (by decide +kernel) ?_
    rintro r ⟨m, hm, m', hm', e, he, e', he', hpart, hpart', hmsn, hne⟩ hstable
    exact hne (hstable _ ⟨m, hm, rfl⟩ _ ⟨m', hm', rfl⟩ e he e' he' hpart hpart' hmsn)
  · refine exists_of_any (p := fun r =>
      ∃ m ∈ r.segmenter.observed, ∃ m' ∈ r.segmenter.observed,
        ∃ e ∈ playlistEntries (m.generatePlaylist lowLatencyConfig false false),
        ∃ e' ∈ playlistEntries (m'.generatePlaylist lowLatencyConfig false false),
          e.part = none ∧ e'.part = none ∧ e.msn = e'.msn ∧
            e.discontinuity ≠ e'.discontinuity) (by decide +kernel) ?_
    rintro r ⟨m, hm, m', hm', e, he, e', he', hpart, hpart', hmsn, hne⟩ hstable
    exact hne (hstable _ ⟨m, hm, _, _, rfl⟩ _ ⟨m', hm', _, _, rfl⟩ e he e' he' hpart hpart' hmsn)

/-- In every run, whatever recoveries are in it, at most as many segments are
listed as are configured, with increasing numbers below the current one. -/
theorem llhls_window_increases (cfg : LLHLSConfig) (acts : List LLHLSAction) (r : LLHLSRun)
    (hrun : runFrom (LLHLSRun.step cfg) {} acts = some r) :
    r.segmenter.manager.segments.length ≤ cfg.segmentCount ∧
      (r.segmenter.manager.segments.map LLHLSSegment.msn ++
        [r.segmenter.manager.currentMSN]).Pairwise (· < ·) := by
  have hwindows := LLHLSRun.windows hrun
  refine ⟨hwindows.history.length_kept_le, hwindows.keys.sublist ?_⟩
  exact ((List.sublist_append_right _ _).map _).append_right _

theorem llhls_window_increases_recovered :
    ∃ r, runFrom (LLHLSRun.step lowLatencyConfig) {} llhlsRecovered = some r ∧
      r.segmenter.manager.segments.length ≤ 2 :=
  ⟨_, rfl, (llhls_window_increases lowLatencyConfig llhlsRecovered _ rfl).1⟩

end LiveForge.HttpStream
