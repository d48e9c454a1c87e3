import LiveForge.Stream.Trace

/-!
# Joining a stream without a gap

A subscriber that joins late gets a startup snapshot: frames to replay, and
the ring position at which live reading continues.  The replay comes from the
GOP cache when the cache reaches up to live, and from the ring when it does
not.  In both cases it is exactly the media written from the source cursor to
the live cursor.
-/

namespace LiveForge.Core

open Support LiveForge.Ring StreamTrace

/-! ## Ring, log and cache along a run -/

/-- The ring and the cache both hold parts of one log, and the history records
where each frame of it was stored. -/
structure HistoryInv (t : StreamTrace) : Prop where
  holds : t.stream.ringBuffer.Holds (t.log.map some)
  positions : t.written.map WriteRecord.position = List.range t.written.length
  gop : t.stream.toGopState.HoldsOf t.log
  ringOpen : t.stream.state ≠ .destroying → t.stream.ringBuffer.closed = false

theorem GenerationState.publishing_of_matches {g : GenerationState} {pub : Option Publisher}
    (h : g.publisherMatches pub = true) :
    g.state = .publishing := by
  unfold GenerationState.publisherMatches at h
  split at h
  · assumption
  · simp at h

namespace HistoryInv

variable {t t' : StreamTrace}

theorem initial (key : String) (instanceID : ℕ) (cfg : StreamConfig) (limits : LimitsConfig) :
    HistoryInv (initial key instanceID cfg limits) where
  holds := RingBuffer.holds_new _
  positions := rfl
  gop := trivial
  ringOpen := fun _ => rfl

theorem writeCursor_eq (h : HistoryInv t) : t.stream.writeCursor = t.written.length := by
  have hcursor := h.holds.cursor
  simpa [Stream.writeCursor, log] using hcursor

theorem writeCursor_eq_log (h : HistoryInv t) : t.stream.writeCursor = t.log.length := by
  simpa [log] using h.writeCursor_eq

/-- A change that leaves ring and history alone and loses at most cache
entries. -/
theorem kept (h : HistoryInv t)
    (hring : t'.stream.ringBuffer = t.stream.ringBuffer ∨
      t'.stream.ringBuffer = t.stream.ringBuffer.close ∧ t'.stream.state = .destroying)
    (hstate : t'.stream.state ≠ .destroying → t.stream.state ≠ .destroying)
    (hwritten : t'.written = t.written) (hgop : GopKept t.stream t'.stream) :
    HistoryInv t' := by
  have hlog : t'.log = t.log := by rw [log, hwritten, log]
  refine ⟨?_, ?_, ?_, ?_⟩
  · rw [hlog]
    rcases hring with hring | ⟨hring, -⟩
    · rw [hring]
      exact h.holds
    · rw [hring]
      exact h.holds.close
  · rw [hwritten]
    exact h.positions
  · rw [hlog]
    exact hgop _ h.gop
  · intro halive
    rcases hring with hring | ⟨-, hdead⟩
    · rw [hring]
      exact h.ringOpen (hstate halive)
    · exact absurd hdead halive

theorem step (h : HistoryInv t) {a : StreamAction} (hstep : t.step a = some t') :
    HistoryInv t' := by
  cases effect_of_step hstep with
  | quiet hgen hring hwritten _ hgop =>
    exact h.kept (.inl hring) (by rw [hgen]; exact id) hwritten hgop
  | install pub _ _ hvacant _ hgen hring hwritten _ hgop =>
    exact h.kept (.inl hring) (fun _ => hvacant.2) hwritten hgop
  | detach halive hgen hring hwritten _ hgop =>
    exact h.kept (.inl hring) (fun _ => halive) hwritten hgop
  | retire halive hgen hring hwritten _ hgop =>
    have hdead : t'.stream.state = .destroying := by
      rw [hgen]
      rfl
    exact h.kept (hring.imp_right fun hclose => ⟨hclose, hdead⟩) (fun _ => halive) hwritten hgop
  | expire hvacant hgen hring hwritten _ hgop =>
    have hdead : t'.stream.state = .destroying := by
      rw [hgen]
      rfl
    exact h.kept (.inl hring) (fun halive => absurd hdead halive) hwritten hgop
  | closeRing hdead hgen hring hwritten _ hgop =>
    have hdead' : t'.stream.state = .destroying := by
      rw [hgen]
      exact hdead
    exact h.kept (.inr ⟨hring, hdead'⟩) (fun halive => absurd hdead' halive) hwritten hgop
  | write pub frame _ howner hgen hring hwritten _ hgop =>
    have hpublishing := GenerationState.publishing_of_matches howner
    have hopen : t.stream.ringBuffer.closed = false := h.ringOpen (by rw [hpublishing]; decide)
    have hlog : t'.log = t.log ++ [frame] := by
      rw [log, hwritten]
      simp [log]
    have hcursor := h.writeCursor_eq_log
    refine ⟨?_, ?_, ?_, ?_⟩
    · rw [hlog, hring, List.map_append]
      exact h.holds.write hopen (some frame)
    · rw [hwritten, List.map_append, h.positions, List.length_append,
        List.length_singleton, List.range_succ]
      simp [h.writeCursor_eq]
    · rw [hlog, hgop, hcursor]
      exact h.gop.writeFrame frame
    · intro _
      rw [hring, RingBuffer.write_closed]
      exact hopen

end HistoryInv

variable {t : StreamTrace} {rb : RingBuffer (Option AVFrame)} {acts : List StreamAction}
  {replay : List AVFrame}

theorem historyInv_run {key : String} {instanceID : ℕ} {cfg : StreamConfig}
    {limits : LimitsConfig}
    (hrun : runFrom step (initial key instanceID cfg limits) acts = some t) :
    HistoryInv t :=
  runFrom_invariant (fun _ _ _ h hstep => h.step hstep)
    (HistoryInv.initial key instanceID cfg limits) hrun

theorem StreamTrace.written_append_of_run {t' : StreamTrace}
    (hrun : runFrom step t acts = some t') :
    ∃ more, t'.written = t.written ++ more := by
  refine runFrom_related (R := fun t t' : StreamTrace =>
    ∃ more, t'.written = t.written ++ more) ?_ ?_ ?_ hrun
  · intro s
    exact ⟨[], by simp⟩
  · rintro s u v ⟨first, hfirst⟩ ⟨second, hsecond⟩
    exact ⟨first ++ second, by rw [hsecond, hfirst, List.append_assoc]⟩
  · intro s a s' hstep
    cases effect_of_step hstep with
    | write pub frame _ _ _ _ hwritten => exact ⟨_, hwritten⟩
    | quiet _ _ hwritten | install _ _ _ _ _ _ _ hwritten | detach _ _ _ hwritten
    | retire _ _ _ hwritten | expire _ _ _ hwritten | closeRing _ _ _ hwritten =>
      exact ⟨[], by simp [hwritten]⟩

theorem HistoryInv.mediaAt_eq (h : HistoryInv t) (start stop : ℕ) :
    t.mediaAt start stop = keptBetween AVFrame.isMedia t.log start stop := by
  have hpos : t.written.map WriteRecord.position = List.range' 0 t.written.length := by
    rw [← List.range_eq_range']
    exact h.positions
  rw [mediaAt, filter_position_eq hpos, keptBetween, log]
  simp [List.map_take]

/-! ## Recovering a replay from the ring -/

section Replay

variable {log : List AVFrame}

theorem frame_of_read (h : rb.Holds (log.map some)) {readCursor : ℕ} {frame : AVFrame}
    (hok : (tryReadResult rb readCursor).1.ok = true)
    (hnone : (tryReadResult rb readCursor).1.overwritten = 0)
    (hvalue : (tryReadResult rb readCursor).1.value = some frame) :
    log[readCursor]? = some frame ∧ (tryReadResult rb readCursor).2 = readCursor + 1 := by
  obtain ⟨hget, hnext⟩ := tryReadResult_of_holds h hok hnone
  rw [hvalue, List.getElem?_map, Option.map_eq_some_iff] at hget
  obtain ⟨x, hx, hsome⟩ := hget
  exact ⟨by rw [hx, Option.some.inj hsome], hnext⟩

theorem readRetained_eq (h : rb.Holds (log.map some)) {n readCursor : ℕ} {frames : List AVFrame}
    (hread : readRetained rb readCursor n = some frames) :
    frames = keptBetween AVFrame.isMedia log readCursor (readCursor + n) := by
  induction n generalizing readCursor frames with
  | zero =>
    simp only [readRetained, Option.some.injEq] at hread
    simp [← hread]
  | succ n ih =>
    simp only [readRetained] at hread
    split at hread
    next frame hok hnone hvalue =>
      obtain ⟨hget, hnext⟩ := frame_of_read h hok hnone hvalue
      rw [hnext] at hread
      split at hread
      · simp at hread
      next rest hrest =>
        simp only [Option.some.injEq] at hread
        have hkept := ih hrest
        rw [Nat.add_assoc, Nat.add_comm 1 n] at hkept
        rw [keptBetween_cons hget (by omega), ← hkept, hread]
    · simp at hread

theorem replayFrom_eq (h : rb.Holds (log.map some)) {liveCursor start : ℕ}
    (hstart : start < liveCursor) (hreplay : replayFrom rb liveCursor start = some replay) :
    replay = keptBetween AVFrame.isMedia log start liveCursor ∧ replay.head? = log[start]? := by
  simp only [replayFrom] at hreplay
  split at hreplay
  next key hok hnone hvalue =>
    obtain ⟨hget, hnext⟩ := frame_of_read h hok hnone hvalue
    rw [hnext] at hreplay
    split_ifs at hreplay with hkey
    split at hreplay
    · simp at hreplay
    next rest hrest =>
      simp only [Option.some.injEq] at hreplay
      have hkept := readRetained_eq h hrest
      have hmedia : key.isMedia = true := by
        simp [AVFrame.isMedia, FrameType.isKeyframe_eq_true.mp hkey]
      rw [Nat.add_sub_cancel' (by omega)] at hkept
      rw [keptBetween_cons hget hstart, if_pos hmedia, ← hkept, ← hreplay, hget]
      exact ⟨rfl, rfl⟩
  · simp at hreplay

/-- The search over the cached starts either finds a replay or gives up at the
live cursor. -/
theorem retainedStartupReplay_cases (rb : RingBuffer (Option AVFrame)) (liveCursor : ℕ)
    (starts : List ℕ) :
    retainedStartupReplay rb liveCursor starts = ([], liveCursor) ∨
      ∃ start ∈ starts, ∃ replay, replayFrom rb liveCursor start = some replay ∧
        retainedStartupReplay rb liveCursor starts = (replay, start) := by
  induction starts with
  | nil => exact .inl rfl
  | cons start starts ih =>
    simp only [retainedStartupReplay]
    cases hreplay : replayFrom rb liveCursor start with
    | some replay => exact .inr ⟨start, by simp, replay, hreplay, rfl⟩
    | none =>
      rcases ih with hnone | ⟨start', hmem, replay, hfound, heq⟩
      · exact .inl hnone
      · exact .inr ⟨start', by simp [hmem], replay, hfound, heq⟩

end Replay

/-! ## The snapshot -/

/-- What a replay up to the live cursor has to be. -/
structure GapFree (t : StreamTrace) (replay : List AVFrame)
    (sourceCursor liveCursor : ℕ) : Prop where
  exactMedia : replay = t.mediaAt sourceCursor liveCursor
  ordered : sourceCursor ≤ liveCursor
  atKeyframe : replay = [] ∧ sourceCursor = liveCursor ∨
    ∃ key, replay.head? = some key ∧ key.isVideoKeyframe

theorem HistoryInv.start_keyframe (h : HistoryInv t) {start : ℕ}
    (hstart : start ∈ t.stream.gopStarts) :
    start < t.stream.writeCursor ∧ ∃ key, t.log[start]? = some key ∧ key.isVideoKeyframe := by
  obtain ⟨key, hkey, hget⟩ := Covers.start_spec h.gop hstart
  have hlt : start < t.log.length := (List.getElem?_eq_some_iff.mp hget).1
  have hcursor := h.writeCursor_eq_log
  exact ⟨by rw [hcursor]; exact hlt, key, hget, hkey⟩

theorem HistoryInv.gapFree_retained (h : HistoryInv t) :
    let found := retainedStartupReplay t.stream.ringBuffer t.stream.writeCursor t.stream.gopStarts
    GapFree t found.1 found.2 t.stream.writeCursor := by
  rcases retainedStartupReplay_cases t.stream.ringBuffer t.stream.writeCursor
    t.stream.gopStarts with hnone | ⟨start, hmem, replay, hfound, heq⟩
  · rw [hnone]
    exact ⟨by simp [h.mediaAt_eq], le_rfl, .inl ⟨rfl, rfl⟩⟩
  · rw [heq]
    obtain ⟨hlt, key, hget, hkey⟩ := h.start_keyframe hmem
    obtain ⟨hreplay, hhead⟩ := replayFrom_eq h.holds hlt hfound
    exact ⟨by rw [h.mediaAt_eq]; exact hreplay, hlt.le, .inr ⟨key, by rw [hhead, hget], hkey⟩⟩

/-- A cache that is not shorter than the log behind its first start misses
nothing. -/
theorem HistoryInv.gapFree_cached (h : HistoryInv t)
    (hlen : ¬ t.stream.gopCache.flatten.length <
      t.stream.writeCursor - t.stream.gopStarts.headD t.stream.writeCursor) :
    GapFree t t.stream.gopCache.flatten
      (t.stream.gopStarts.headD t.stream.writeCursor) t.stream.writeCursor := by
  have hcursor := h.writeCursor_eq_log
  have hgop := h.gop
  cases hstarts : t.stream.gopStarts with
  | nil =>
    have hcache : t.stream.gopCache = [] := by
      have hlength := Covers.length_eq hgop
      rw [hstarts] at hlength
      exact List.length_eq_zero_iff.mp hlength
    rw [hcache]
    exact ⟨by simp [h.mediaAt_eq], le_rfl, .inl ⟨rfl, rfl⟩⟩
  | cons start starts =>
    have hmem : start ∈ t.stream.gopStarts := by simp [hstarts]
    rw [GopState.HoldsOf, hstarts] at hgop
    simp only [hstarts, List.headD_cons] at hlen ⊢
    obtain ⟨hexact, key, hhead, hkey⟩ := Covers.flatten_eq_of_length hgop (by omega)
    exact ⟨by rw [h.mediaAt_eq, hcursor]; exact hexact,
      (h.start_keyframe hmem).1.le, .inr ⟨key, hhead, hkey⟩⟩

theorem HistoryInv.gapFree (h : HistoryInv t) :
    GapFree t t.stream.startupSnapshot.replayFrames t.stream.startupSnapshot.sourceCursor
      t.stream.startupSnapshot.liveCursor := by
  simp only [Stream.startupSnapshot, Stream.startupReplay]
  split
  · exact h.gapFree_retained
  next hlen => exact h.gapFree_cached hlen

/-- In every run, at every moment, the replay of a snapshot is the list of
media frames written at the positions from the source cursor to the live
cursor, and it is empty or begins with a video keyframe.  Replaying it and then
reading from the live cursor, however the run goes on, yields every media frame
from the source cursor on once. -/
theorem startupSnapshot_gapFree (key : String) (instanceID : ℕ) (cfg : StreamConfig)
    (limits : LimitsConfig) (acts : List StreamAction) (t : StreamTrace)
    (hrun : runFrom StreamTrace.step
      (StreamTrace.initial key instanceID cfg limits) acts = some t) :
    let snap := t.stream.startupSnapshot
    snap.replayFrames = t.mediaAt snap.sourceCursor snap.liveCursor ∧
      snap.liveCursor = t.written.length ∧
      (snap.replayFrames = [] ∧ snap.sourceCursor = snap.liveCursor ∨
        ∃ frame, snap.replayFrames.head? = some frame ∧ frame.isVideoKeyframe) ∧
      ∀ more t', runFrom StreamTrace.step t more = some t' →
        snap.replayFrames ++ t'.mediaAt snap.liveCursor t'.written.length =
          t'.mediaAt snap.sourceCursor t'.written.length := by
  have hinv : HistoryInv t := historyInv_run hrun
  have hgap := hinv.gapFree
  have hlive : t.stream.startupSnapshot.liveCursor = t.written.length := hinv.writeCursor_eq
  refine ⟨hgap.exactMedia, hlive, hgap.atKeyframe, ?_⟩
  intro more t' hmore
  have hinv' : HistoryInv t' := runFrom_invariant (fun _ _ _ h hstep => h.step hstep) hinv hmore
  obtain ⟨later, hlater⟩ := written_append_of_run hmore
  have hlog : t'.log = t.log ++ later.map WriteRecord.frame := by
    simp [log, hlater]
  have hbound : t.stream.startupSnapshot.liveCursor ≤ t.log.length := by
    rw [hlive]
    simp [log]
  have hreplay : t.stream.startupSnapshot.replayFrames = keptBetween AVFrame.isMedia t'.log
        t.stream.startupSnapshot.sourceCursor
        t.stream.startupSnapshot.liveCursor := by
    rw [hlog, keptBetween_append_left _ hbound, ← hinv.mediaAt_eq]
    exact hgap.exactMedia
  rw [hinv'.mediaAt_eq, hinv'.mediaAt_eq, hreplay]
  apply keptBetween_join hgap.ordered
  rw [hlive, hlater]
  simp

def smallCache : StreamConfig :=
  { gopCache := true
    gopCacheNum := 1
    gopCacheMaxFrames := 2
    gopCacheMaxDuration := 0
    gopCacheMaxBytes := 0
    ringBufferSize := 8
    idleTimeout := 0
    noPublisherTimeout := 0 }

def noLimits : LimitsConfig := ⟨0, 0, 0⟩

def camera : Publisher := ⟨"camera", some 0, none⟩

/-- The third frame no longer fits the cache. -/
def outgrownCache : List StreamAction :=
  [.setPublisher (some camera) 0, .writeFrameForPublisher (some camera) ⟨0, 0⟩
      (some (newAVFrame .video .h264 .sequenceHeader 0 0 [1])),
    .writeFrameForPublisher (some camera) ⟨0, 0⟩ (some (newAVFrame .video .h264 .keyframe 0 0 [2])),
    .writeFrameForPublisher (some camera) ⟨0, 0⟩
      (some (newAVFrame .audio .aac .interframe 10 10 [3])),
    .writeFrameForPublisher (some camera) ⟨0, 0⟩
      (some (newAVFrame .video .h264 .interframe 20 20 [4]))]

theorem startupSnapshot_gapFree_outgrown :
    ∃ t, runFrom StreamTrace.step
        (StreamTrace.initial "live" 1 smallCache noLimits) outgrownCache = some t ∧
      t.stream.gopCache.flatten.length = 2 ∧ t.stream.startupSnapshot.sourceCursor = 1 ∧
      t.stream.startupSnapshot.replayFrames.length = 3 ∧
      t.stream.startupSnapshot.replayFrames =
        t.mediaAt t.stream.startupSnapshot.sourceCursor t.stream.startupSnapshot.liveCursor :=
  ⟨_, rfl, by decide, by decide, by decide,
    (startupSnapshot_gapFree "live" 1 smallCache noLimits outgrownCache _ rfl).1⟩

/-! ## Reading from the source cursor -/

/-- The cache lacks frames before live, or all it has fits into the ring. -/
def Stream.CacheFitsRing (s : Stream) : Prop :=
  s.gopCache.flatten.length < s.writeCursor - s.gopStarts.headD s.writeCursor ∨
    s.gopCache.flatten.length ≤ s.ringBuffer.size

/-- What a reader that starts at `sourceCursor` meets when nothing is written
in between. -/
structure FirstReadAt (t : StreamTrace) (sourceCursor : ℕ) : Prop where
  retained : t.stream.writeCursor ≤ sourceCursor + t.stream.ringBuffer.size
  whole : (tryReadResult t.stream.ringBuffer sourceCursor).1.overwritten = 0
  found : sourceCursor < t.stream.writeCursor →
    (tryReadResult t.stream.ringBuffer sourceCursor).1.ok = true ∧ t.log[sourceCursor]? =
        (tryReadResult t.stream.ringBuffer sourceCursor).1.value

theorem HistoryInv.firstReadAt (h : HistoryInv t) {sourceCursor : ℕ}
    (hretained : t.stream.writeCursor ≤ sourceCursor + t.stream.ringBuffer.size) :
    FirstReadAt t sourceCursor := by
  obtain ⟨hwhole, hfound⟩ := tryReadResult_of_retained hretained
  refine ⟨hretained, hwhole, ?_⟩
  intro hlt
  have hok := hfound hlt
  have hlog := (tryReadResult_of_holds h.holds hok hwhole).1
  rw [List.getElem?_map, Option.map_eq_some_iff] at hlog
  obtain ⟨frame, hframe, hvalue⟩ := hlog
  exact ⟨hok, by rw [hframe, hvalue]⟩

/-- The ring still has every start that a replay was recovered from. -/
theorem retained_of_replayFrom {liveCursor start : ℕ}
    (h : replayFrom rb liveCursor start = some replay) :
    rb.writeCursor ≤ start + rb.size := by
  simp only [replayFrom] at h
  split at h
  next key hok hnone _ =>
    exact retained_of_tryReadResult hok hnone
  · simp at h

/-- The cached frames stand at different positions from the first start on. -/
theorem HistoryInv.cached_length_le (h : HistoryInv t) :
    t.stream.gopCache.flatten.length ≤
      t.stream.writeCursor - t.stream.gopStarts.headD t.stream.writeCursor := by
  have hcursor := h.writeCursor_eq_log
  have hgop := h.gop
  rw [GopState.HoldsOf] at hgop
  cases hcache : t.stream.gopCache with
  | nil => simp
  | cons gop gops =>
    cases hstarts : t.stream.gopStarts with
    | nil =>
      rw [hcache, hstarts] at hgop
      exact hgop.elim
    | cons start starts =>
      rw [hcache, hstarts] at hgop
      rw [hcursor]
      exact (Covers.flatten_sublist hgop).length_le.trans keptBetween_length_le

/-- In every run, at every moment, the ring still has the source cursor of a
snapshot, so that a reader started there reads that position first, exactly
when the frames of a cache without a hole fit into the ring. -/
theorem startupSnapshot_readable_iff (key : String) (instanceID : ℕ) (cfg : StreamConfig)
    (limits : LimitsConfig) (acts : List StreamAction) (t : StreamTrace)
    (hrun : runFrom StreamTrace.step
      (StreamTrace.initial key instanceID cfg limits) acts = some t) :
    FirstReadAt t t.stream.startupSnapshot.sourceCursor ↔
      t.stream.CacheFitsRing := by
  have h : HistoryInv t := historyInv_run hrun
  simp only [Stream.startupSnapshot, Stream.startupReplay]
  split
  next hhole =>
    refine iff_of_true (h.firstReadAt ?_) (.inl hhole)
    -- this path looks into the ring itself
    rcases retainedStartupReplay_cases t.stream.ringBuffer t.stream.writeCursor
      t.stream.gopStarts with hnone | ⟨start, -, replay, hfound, heq⟩
    · rw [hnone]
      exact Nat.le_add_right _ _
    · rw [heq]
      exact retained_of_replayFrom hfound
  next hwhole =>
    have hle := h.cached_length_le
    constructor
    · intro hread
      have hretained := hread.retained
      right
      omega
    · rintro (hhole | hfits)
      · exact absurd hhole hwhole
      · apply h.firstReadAt
        omega

/-- A GOP of three frames is in the cache, but the ring has two slots. -/
def gopBeyondRing : List StreamAction :=
  [.setPublisher (some camera) 0, .writeFrameForPublisher (some camera) ⟨0, 0⟩
      (some (newAVFrame .video .h264 .keyframe 0 0 [2])),
    .writeFrameForPublisher (some camera) ⟨0, 0⟩
      (some (newAVFrame .video .h264 .interframe 10 10 [3])),
    .writeFrameForPublisher (some camera) ⟨0, 0⟩
      (some (newAVFrame .video .h264 .interframe 20 20 [4]))]

def twoSlots : StreamConfig :=
  { smallCache with gopCacheMaxFrames := 300, ringBufferSize := 2 }

theorem source_cursor_overwritten :
    ∃ t, runFrom StreamTrace.step
        (StreamTrace.initial "live" 1 twoSlots noLimits) gopBeyondRing = some t ∧
      t.stream.startupSnapshot.sourceCursor = 0 ∧ t.stream.startupSnapshot.liveCursor = 3 ∧
      t.stream.ringBuffer.size = 2 ∧
      (tryReadResult t.stream.ringBuffer t.stream.startupSnapshot.sourceCursor).1.overwritten = 1 :=
  ⟨_, rfl, by decide, by decide, by decide, by decide⟩

theorem startupSnapshot_readable_outgrown :
    ∃ t, runFrom StreamTrace.step
        (StreamTrace.initial "live" 1 smallCache noLimits) outgrownCache = some t ∧
      t.stream.startupSnapshot.sourceCursor = 1 ∧
      FirstReadAt t t.stream.startupSnapshot.sourceCursor :=
  ⟨_, rfl, by decide, (startupSnapshot_readable_iff "live" 1 smallCache noLimits outgrownCache _
      rfl).mpr (Or.inr (by decide))⟩

end LiveForge.Core
