import LiveForge.HttpStream.Dash
import LiveForge.Support.Timeline

/-!
# What DASH manifests address

A client counts the entries of a timeline to know the number of a segment, and
adds up their durations to know its time.  Both come out right while every
piece that is cut has the same tracks as those before it.  A piece without audio
uses up a number that the audio timeline does not count.
-/

namespace LiveForge.HttpStream

open Support DASHSegment DASHManager

/-! ## The property -/

/-- The entry has the number of a segment that is served, and its start, from
the base of all times, and its length. -/
def Names (base : Option ℤ) (segments : List DASHSegment)
    (get : ℕ → Option Bytes) (entry : ℕ × ℤ × ℤ) : Prop :=
  ∃ seg ∈ segments, entry.1 = seg.seqNum + 1 ∧ get seg.seqNum = some seg.data ∧
    base = some (seg.startDTS - entry.2.1) ∧
    entry.2.2 = seg.endDTS - seg.startDTS

instance (base : Option ℤ) (segments : List DASHSegment) (get : ℕ → Option Bytes)
    (entry : ℕ × ℤ × ℤ) : Decidable (Names base segments get entry) :=
  inferInstanceAs (Decidable (∃ seg ∈ segments, _ ∧ _))

structure DASHManager.Addressed (m : DASHManager) : Prop where
  video : ∀ set, m.generateMPD.video = some set → ∀ entry ∈ set.entries,
    Names m.dtsBase m.videoSegments m.getSegment entry
  audio : ∀ set, m.generateMPD.audio = some set → ∀ entry ∈ set.entries,
    Names m.dtsBase m.audioSegments m.getAudioSegment entry

/-! ## Reading a timeline -/

namespace DASHSegment

def span (seg : DASHSegment) : Span :=
  ⟨seg.seqNum, seg.startDTS, seg.endDTS⟩

def entry (base : ℤ) (seg : DASHSegment) : ℕ × ℤ × ℤ :=
  (seg.seqNum + 1, seg.startDTS - base, seg.duration)

end DASHSegment

variable {segments : List DASHSegment} {spans : List Span} {cfg : DASHConfig} {data : Bytes}

section Reading

variable {n n' : ℕ} {base t t' : ℤ}

theorem totalDuration_eq (segments : List DASHSegment) :
    DASHManager.totalDuration segments = Span.total (segments.map span) := by
  rw [totalDuration, Span.total, List.map_map]
  congr 1
  exact List.map_congr_left fun seg _ => seg.duration_eq

theorem readTimeline_map (hcovers : Span.Covers n (base + t) (segments.map span) n' t') :
    readTimeline (n + 1) t (segments.map fun seg => { t := none, d := seg.duration }) =
      segments.map (entry base) := by
  induction segments generalizing n t with
  | nil => rfl
  | cons seg segments ih =>
    obtain ⟨hnumber, hstart, hrest⟩ := hcovers
    have hend : seg.span.stop = base + (t + seg.duration) := by
      rw [seg.duration_eq]
      change seg.startDTS = base + t at hstart
      change seg.endDTS = _
      omega
    rw [hend] at hrest
    have hentry : seg.entry base = (n + 1, t, seg.duration) := by
      change seg.seqNum = n at hnumber
      change seg.startDTS = base + t at hstart
      rw [entry]
      congr 2
      omega
    rw [List.map_cons, List.map_cons, hentry, ← ih hrest]
    rfl

theorem readTimeline_segmentTimeline
    (hcovers : Span.Covers n (base + t) (segments.map span) n' t') :
    readTimeline (startNumber segments) 0 (segmentTimeline t segments) =
      segments.map (entry base) := by
  cases segments with
  | nil => rfl
  | cons seg segments =>
    have hnumber : startNumber (seg :: segments) = n + 1 := congrArg (· + 1) hcovers.1
    rw [← readTimeline_map hcovers, hnumber]
    rfl

/-- Numbers are not used twice, so a segment is found by its own. -/
theorem find_of_mem (hcovers : Span.Covers n t (segments.map span) n' t') {seg : DASHSegment}
    (hseg : seg ∈ segments) :
    DASHManager.find segments seg.seqNum = some seg.data := by
  induction segments generalizing n t with
  | nil => cases hseg
  | cons first segments ih =>
    obtain ⟨hnumber, -, hrest⟩ := hcovers
    obtain rfl | hseg := List.mem_cons.mp hseg
    · simp [find]
    · have hle := hrest.le_number (List.mem_map_of_mem hseg)
      have hne : first.seqNum ≠ seg.seqNum := by
        change first.seqNum = n at hnumber
        change n + 1 ≤ seg.seqNum at hle
        omega
      rw [← ih hrest hseg, find, find, List.find?_cons_of_neg (by simpa using hne)]

theorem names_of_mem (hcovers : Span.Covers n (base + t) (segments.map span) n' t')
    {entry : ℕ × ℤ × ℤ}
    (hentry : entry ∈ readTimeline (startNumber segments) 0 (segmentTimeline t segments)) :
    Names (some base) segments (DASHManager.find segments) entry := by
  rw [readTimeline_segmentTimeline hcovers] at hentry
  obtain ⟨seg, hseg, rfl⟩ := List.mem_map.mp hentry
  refine ⟨seg, hseg, rfl, find_of_mem hcovers hseg, ?_, seg.duration_eq⟩
  rw [entry, sub_sub_cancel]

end Reading

/-! ## Managers whose lists are aligned -/

/-- The list has all the pieces, or it has none at all. -/
def Follows (segments : List DASHSegment) (spans : List Span) : Prop :=
  segments = [] ∨ segments.map DASHSegment.span = spans

namespace DASHManager

/-- The pieces that are kept lead from the time base to `t`. -/
def Aligned (m : DASHManager) (t : ℤ) : Prop :=
  (m.videoSegments = [] ∧ m.audioSegments = []) ∨ ∃ base n spans, m.dtsBase = some base ∧
      Span.Covers n (base + m.timeBase) spans m.nextSeqNum t ∧
      Follows m.videoSegments spans ∧ Follows m.audioSegments spans

variable {m : DASHManager} {t : ℤ}

theorem Aligned.addressed (h : m.Aligned t) : m.Addressed := by
  obtain ⟨hvideo, haudio⟩ | ⟨base, n, spans, hbase, hcovers, hvideo, haudio⟩ := h
  · constructor
    · intro set hset entry hentry
      simp only [generateMPD, hvideo] at hset
      split_ifs at hset
      cases hset
      cases hentry
    · intro set hset
      simp [generateMPD, haudio] at hset
  · constructor
    · intro set hset entry hentry
      simp only [generateMPD] at hset
      split at hset
      · cases hset
        by_cases hempty : m.videoSegments = []
        · rw [hempty] at hentry
          cases hentry
        · simp only [if_neg hempty] at hentry
          have hspans := hvideo.resolve_left hempty
          rw [hbase]
          exact names_of_mem (hspans ▸ hcovers) hentry
      · cases hset
    · intro set hset entry hentry
      simp only [generateMPD] at hset
      split_ifs at hset with hsome
      cases hset
      have hspans := haudio.resolve_left hsome.2
      rw [hbase]
      exact names_of_mem (hspans ▸ hcovers) hentry

/-- Trimming drops the same pieces from both lists, and moves the time base over
them. -/
theorem Aligned.trim {keepCount : ℕ} (hkeep : 0 < keepCount) (h : m.Aligned t) :
    (m.trim keepCount).Aligned t := by
  obtain ⟨hvideo, haudio⟩ | ⟨base, n, spans, hbase, hcovers, hvideo, haudio⟩ := h
  · left
    simp [DASHManager.trim, hvideo, haudio]
  by_cases hnoVideo : m.videoSegments = []
  · obtain hnoAudio | haudio := haudio
    · left
      simp [DASHManager.trim, hnoVideo, hnoAudio]
    · right
      obtain ⟨k, hk⟩ := hcovers.drop (m.audioSegments.length - keepCount)
      have htime : base + (m.trim keepCount).timeBase = base + m.timeBase +
          Span.total (spans.take (m.audioSegments.length - keepCount)) := by
        simp only [DASHManager.trim, hnoVideo, List.drop_nil, List.take_nil,
          if_true, totalDuration_eq, List.map_take, haudio, List.map_nil,
          Span.total_nil]
        omega
      refine ⟨base, k, _, hbase, htime ▸ hk, .inl ?_, .inr ?_⟩
      · simp [DASHManager.trim, hnoVideo]
      · rw [← haudio, ← List.map_drop]
        rfl
  · right
    have hvideo := hvideo.resolve_left hnoVideo
    obtain ⟨k, hk⟩ := hcovers.drop (m.videoSegments.length - keepCount)
    have hleft : m.videoSegments.drop (m.videoSegments.length - keepCount) ≠ [] := by
      have hpos := List.length_pos_iff.mpr hnoVideo
      rw [Ne, List.drop_eq_nil_iff]
      omega
    have htime : base + (m.trim keepCount).timeBase = base + m.timeBase +
        Span.total (spans.take (m.videoSegments.length - keepCount)) := by
      simp only [DASHManager.trim, if_neg hleft, totalDuration_eq, List.map_take, hvideo]
      omega
    refine ⟨base, k, _, hbase, htime ▸ hk, .inr ?_, ?_⟩
    · rw [← hvideo, ← List.map_drop]
      rfl
    · obtain hnoAudio | haudio := haudio
      · left
        simp [DASHManager.trim, hnoAudio]
      · right
        have hlength : m.videoSegments.length = m.audioSegments.length := by
          simpa using congrArg List.length (hvideo.trans haudio.symm)
        rw [hlength, ← haudio, ← List.map_drop]
        rfl

def Joins (segments : List DASHSegment) (spans : List Span) (data : Bytes) : Prop :=
  if data = [] then segments = []
  else segments.map DASHSegment.span = spans

theorem Joins.follows (h : Joins segments spans data) (m : DASHManager) (startDTS endDTS : ℤ) :
    Follows (segments ++ m.segment startDTS endDTS data)
      (spans ++ [⟨m.nextSeqNum, startDTS, endDTS⟩]) := by
  unfold Joins at h
  unfold segment
  split
  next hdata =>
    rw [if_pos hdata] at h
    exact .inl (by simp [h])
  next hdata =>
    rw [if_neg hdata] at h
    exact .inr (by simp [h, span])

theorem aligned_add {keepCount n : ℕ} {base startDTS : ℤ}
    {videoData audioData : Bytes} (hkeep : 0 < keepCount) (hbase : m.dtsBase = some base)
    (hcovers : Span.Covers n (base + m.timeBase) spans m.nextSeqNum startDTS)
    (hvideo : Joins m.videoSegments spans videoData)
    (haudio : Joins m.audioSegments spans audioData) (endDTS : ℤ) :
    (m.add keepCount startDTS endDTS videoData audioData).Aligned endDTS := by
  apply Aligned.trim hkeep
  exact .inr ⟨base, n, spans ++ [⟨m.nextSeqNum, startDTS, endDTS⟩], hbase,
    hcovers.append ⟨rfl, rfl, rfl, rfl⟩, hvideo.follows m startDTS endDTS,
    haudio.follows m startDTS endDTS⟩

end DASHManager

/-! ## Pieces -/

namespace DASHWorker

/-- The piece that ends with `stop` has video and audio if those before it had,
and only then. -/
def SameTracks (w : DASHWorker) (stop : ℤ) : Prop :=
  0 < w.manager.nextSeqNum → (w.currentVideoFrames = [] ↔ w.manager.videoSegments = []) ∧
    ((w.audioMuxer = none ∨ w.segAudio stop = []) ↔ w.manager.audioSegments = [])

instance (w : DASHWorker) (stop : ℤ) : Decidable (w.SameTracks stop) :=
  inferInstanceAs (Decidable (_ → _ ∧ _))

structure Timed (w : DASHWorker) : Prop where
  addressed : ∀ m ∈ w.observed, m.Addressed
  aligned : w.manager.Aligned w.segStartDTS
  fresh : w.manager.nextSeqNum = 0 → w.manager.videoSegments = [] ∧
    w.manager.audioSegments = [] ∧ w.manager.dtsBase = none ∧
    w.manager.timeBase = 0
  started : w.hasData = false → w.manager.nextSeqNum = 0

/-- With video, pieces start with keyframes. -/
structure Opened (w : DASHWorker) : Prop where
  keyframe : w.videoCodec.isVideo = true → w.hasData = true → w.segStartDTS ∈ w.keyframes
  hasData : w.videoCodec.isVideo = true → w.gotFirstKeyframe = true → w.hasData = true

variable {w : DASHWorker} {frame : AVFrame} {base stop : ℤ}

theorem buildMediaSegment_eq_nil_iff {frames : List AVFrame} {n k : ℕ} {a b c : ℤ} :
    Fmp4.buildMediaSegment frames n k a b c = [] ↔ frames = [] := by
  unfold Fmp4.buildMediaSegment
  split
  next h => simp [h]
  next h => simp [h, Fmp4.writeBox, be32Bytes]

theorem cutVideo_eq_nil_iff : (w.cutVideo base stop).2 = [] ↔ w.currentVideoFrames = [] := by
  unfold cutVideo
  split
  next h => simp [h]
  next h => simp [Fmp4.Muxer.writeSegmentUntil, Fmp4.Muxer.writeWith, buildMediaSegment_eq_nil_iff]

theorem cutAudio_eq_nil_iff :
    (w.cutAudio base stop).2 = [] ↔ w.audioMuxer = none ∨ w.segAudio stop = [] := by
  unfold cutAudio
  split
  next h => simp [h]
  next muxer h =>
    split
    next hempty => simp [hempty]
    next hempty => simp [h, Fmp4.Muxer.writeSegment,
        Fmp4.Muxer.writeWith, buildMediaSegment_eq_nil_iff]

/-- A list that has no piece yet, and one that has them all. -/
theorem joins_of_iff (hfollows : Follows segments spans) (hsame : data = [] ↔ segments = []) :
    DASHManager.Joins segments spans data := by
  unfold DASHManager.Joins
  split
  next hdata => exact hsame.mp hdata
  next hdata => exact hfollows.resolve_left (mt hsame.mpr hdata)

theorem Timed.aligned_finalize (h : w.Timed) {endDTS : ℤ}
    (hempty : w.isEmpty = false) (hsame : w.SameTracks (w.pieceEnd endDTS)) :
    (w.finalize cfg endDTS).manager.Aligned (w.pieceEnd endDTS) := by
  rw [finalize, if_neg (by simp [hempty])]
  obtain hzero | hpos := Nat.eq_zero_or_pos w.manager.nextSeqNum
  · -- the first piece sets the base
    obtain ⟨hvideo, haudio, hbase, htime⟩ := h.fresh hzero
    have hjoins (data : Bytes) : DASHManager.Joins [] [] data := by
      unfold DASHManager.Joins
      split <;> rfl
    have hcovers : Span.Covers 0 (w.segStartDTS + w.manager.timeBase) []
        w.manager.nextSeqNum w.segStartDTS :=
      ⟨hzero.symm, htime ▸ add_zero _⟩
    have hget : w.manager.dtsBase.getD w.segStartDTS = w.segStartDTS := by
      rw [hbase]
      rfl
    rw [hget]
    exact aligned_add (m := { w.manager with dtsBase := some w.segStartDTS })
      (Nat.succ_pos _) rfl hcovers (hvideo ▸ hjoins _) (haudio ▸ hjoins _) _
  · obtain ⟨hsameVideo, hsameAudio⟩ := hsame hpos
    obtain ⟨hvideo, haudio⟩ | ⟨base, n, spans, hbase, hcovers, hvideo, haudio⟩ := h.aligned
    · left
      simp only [add, DASHManager.trim, DASHManager.segment, hvideo,
        haudio, cutVideo_eq_nil_iff.mpr (hsameVideo.mpr hvideo),
        cutAudio_eq_nil_iff.mpr (hsameAudio.mpr haudio)]
      simp
    · have hget : w.manager.dtsBase.getD w.segStartDTS = base := by
        rw [hbase]
        rfl
      rw [hget]
      exact aligned_add (m := { w.manager with dtsBase := some base })
        (Nat.succ_pos _) rfl hcovers
        (joins_of_iff hvideo (cutVideo_eq_nil_iff.trans hsameVideo))
        (joins_of_iff haudio (cutAudio_eq_nil_iff.trans hsameAudio)) _

theorem observed_finalize (h : ∀ m ∈ w.observed, m.Addressed) {endDTS : ℤ}
    (haligned : w.isEmpty = false → (w.finalize cfg endDTS).manager.Aligned stop) :
    ∀ m ∈ (w.finalize cfg endDTS).observed, m.Addressed := by
  unfold finalize at haligned ⊢
  split
  · exact h
  next hempty =>
    rw [if_neg hempty] at haligned
    intro m hm
    obtain hm | rfl := by simpa using hm
    · exact h m hm
    · exact (haligned (by simpa using hempty)).addressed

theorem nextSeqNum_finalize (h : w.isEmpty = false) (endDTS : ℤ) :
    (w.finalize cfg endDTS).manager.nextSeqNum = w.manager.nextSeqNum + 1 := by
  rw [finalize, if_neg (by simp [h])]
  rfl

theorem finalize_frame (w : DASHWorker) (endDTS : ℤ) :
    (w.finalize cfg endDTS).hasData = w.hasData ∧
      (w.finalize cfg endDTS).videoCodec = w.videoCodec := by
  unfold finalize
  split <;> exact ⟨rfl, rfl⟩

theorem Timed.no_segments (h : w.Timed) (hempty : w.isEmpty = true) (hsame : w.SameTracks stop) :
    w.manager.videoSegments = [] ∧ w.manager.audioSegments = [] := by
  obtain hzero | hpos := Nat.eq_zero_or_pos w.manager.nextSeqNum
  · obtain ⟨hvideo, haudio, -⟩ := h.fresh hzero
    exact ⟨hvideo, haudio⟩
  · obtain ⟨hvideo, haudio⟩ := hsame hpos
    simp only [isEmpty, Bool.and_eq_true, List.isEmpty_iff] at hempty
    exact ⟨hvideo.mp hempty.1, haudio.mp (.inr (by simp [segAudio, hempty.2]))⟩

theorem Timed.cutAt (h : w.Timed) (hdata : w.hasData = true) (hlater : w.segStartDTS < frame.dts)
    (hsame : w.SameTracks frame.dts) :
    (w.cutAt cfg frame).Timed := by
  have hend : w.pieceEnd frame.dts = frame.dts := if_neg (not_le.mpr hlater)
  have haligned (hempty : w.isEmpty = false) :
      (w.finalize cfg frame.dts).manager.Aligned frame.dts := by
    have := @Timed.aligned_finalize cfg w h frame.dts hempty
    rw [hend] at this
    exact this hsame
  have hstarted : (w.cutAt cfg frame).hasData = true := (w.finalize_frame frame.dts).1.trans hdata
  refine ⟨observed_finalize h.addressed haligned, ?_, ?_, by simp [hstarted]⟩
  · cases hempty : w.isEmpty with
    | false => exact haligned hempty
    | true =>
      left
      rw [DASHWorker.cutAt, finalize, if_pos hempty]
      exact h.no_segments hempty hsame
  · cases hempty : w.isEmpty with
    | false =>
      intro hzero
      have := @nextSeqNum_finalize cfg w hempty frame.dts
      exact absurd (this.symm.trans hzero) (Nat.succ_ne_zero _)
    | true =>
      rw [DASHWorker.cutAt, finalize, if_pos hempty]
      exact h.fresh

theorem Timed.take (h : w.Timed) (frame : AVFrame) : (w.take frame).Timed := by
  refine ⟨h.addressed, ?_, h.fresh, fun hno => absurd hno.symm Bool.false_ne_true⟩
  cases hdata : w.hasData with
  | false =>
    obtain ⟨hvideo, haudio, -⟩ := h.fresh (h.started hdata)
    exact .inl ⟨hvideo, haudio⟩
  | true =>
    change w.manager.Aligned (if w.hasData then _ else _)
    rw [if_pos hdata]
    exact h.aligned

theorem Opened.take (h : w.Opened) (hwants : w.wants frame = true) : (w.take frame).Opened := by
  refine ⟨fun hvideo _ => ?_, fun _ _ => rfl⟩
  cases hdata : w.hasData with
  | true =>
    have hmem := h.keyframe hvideo hdata
    simp only [DASHWorker.take]
    split
    · exact List.mem_append_left _ hmem
    · exact hmem
  | false =>
    -- nothing was taken yet, so this is the first keyframe
    have hfirst : ¬w.gotFirstKeyframe = true := fun hgot =>
      Bool.false_ne_true (hdata.symm.trans (h.hasData hvideo hgot))
    simp only [wants, Bool.and_eq_true, Bool.or_eq_true] at hwants
    have hkey := hwants.2.resolve_left hfirst
    simp [DASHWorker.take, hdata, hkey]

theorem timed_replay (replay : List AVFrame) (h : w.Timed ∧ w.Opened) :
    (replay.foldl addCached w).Timed ∧ (replay.foldl addCached w).Opened := by
  induction replay generalizing w with
  | nil => exact h
  | cons frame replay ih =>
    apply ih
    unfold addCached
    split
    next hwants => exact ⟨h.1.take frame, h.2.take hwants⟩
    · exact h

theorem timed_configure (setup : SegmentSetup) (mpdAudio : Bool) :
    (configure {} setup mpdAudio).Timed ∧ (configure {} setup mpdAudio).Opened := by
  refine ⟨⟨?_, .inl ⟨rfl, rfl⟩, fun _ => ⟨rfl, rfl, rfl, rfl⟩, fun _ => rfl⟩,
    ⟨fun _ hno => absurd hno Bool.false_ne_true, ?_⟩⟩
  · intro m hm
    have hempty : m.videoSegments = [] ∧ m.audioSegments = [] := by
      obtain rfl | rfl := by simpa [configure] using hm
      · exact ⟨rfl, rfl⟩
      · exact ⟨rfl, rfl⟩
    exact DASHManager.Aligned.addressed (t := 0) (.inl hempty)
  · intro hvideo hfirst
    change (!setup.videoCodec.isVideo) = true at hfirst
    change setup.videoCodec.isVideo = true at hvideo
    simp [hvideo] at hfirst

/-- What is asked of a frame that the worker takes: keyframes come in order, and
only if there is video, and a piece that the frame ends has the same tracks as
those before it. -/
structure FrameFits (cfg : DASHConfig) (w : DASHWorker) (frame : AVFrame) : Prop where
  increasing : isKeyframe frame = true → ∀ dts ∈ w.keyframes, dts < frame.dts
  video : isKeyframe frame = true → w.videoCodec.isVideo = true
  sameTracks : (w.cutsByTime cfg frame || w.cutsAtKeyframe frame) = true → w.SameTracks frame.dts

instance (cfg : DASHConfig) (w : DASHWorker) (frame : AVFrame) :
    Decidable (FrameFits cfg w frame) :=
  decidable_of_iff (_ ∧ _ ∧ _) ⟨fun h => ⟨h.1, h.2.1, h.2.2⟩, fun h => ⟨h.1, h.2, h.3⟩⟩

/-- A stream is cut by time or by its keyframes, never both. -/
theorem FrameFits.addLive_eq (h : FrameFits cfg w frame) :
    w.addLive cfg frame =
      (if (w.cutsByTime cfg frame || w.cutsAtKeyframe frame) = true then w.cutAt cfg frame
      else w).take frame := by
  cases hkey : isKeyframe frame with
  | false => simp [addLive, cutsAtKeyframe, hkey]
  | true => simp [addLive, cutsByTime, h.video hkey]

theorem FrameFits.later (h : FrameFits cfg w frame) (hopened : w.Opened)
    (hcuts : (w.cutsByTime cfg frame || w.cutsAtKeyframe frame) = true) :
    w.hasData = true ∧ w.segStartDTS < frame.dts := by
  obtain hcuts | hcuts := Bool.or_eq_true_iff.mp hcuts
  · simp only [cutsByTime, Bool.and_eq_true] at hcuts
    have := cfg.pos_of_targetElapsed _ hcuts.2
    exact ⟨hcuts.1.2, by omega⟩
  · simp only [cutsAtKeyframe, Bool.and_eq_true] at hcuts
    obtain ⟨⟨hkey, hdata⟩, -⟩ := hcuts
    exact ⟨hdata, h.increasing hkey _ (hopened.keyframe (h.video hkey) hdata)⟩

theorem timed_addLive (h : FrameFits cfg w frame) (htimed : w.Timed)
    (hopened : w.Opened) (hwants : w.wants frame = true) :
    (w.addLive cfg frame).Timed ∧ (w.addLive cfg frame).Opened := by
  rw [h.addLive_eq]
  split
  next hcuts =>
    obtain ⟨hdata, hlater⟩ := h.later hopened hcuts
    refine ⟨(htimed.cutAt hdata hlater (h.sameTracks hcuts)).take frame, ?_⟩
    refine ⟨fun hvideo _ => ?_, fun _ _ => rfl⟩
    rw [DASHWorker.take, DASHWorker.cutAt, (w.finalize_frame frame.dts).2] at hvideo
    have hkey : isKeyframe frame = true := by
      simp only [cutsByTime, hvideo, cutsAtKeyframe, Bool.not_true,
        Bool.false_and, Bool.false_or, Bool.and_eq_true] at hcuts
      exact hcuts.1.1
    simp only [DASHWorker.take, if_pos hkey]
    refine List.mem_append_right _ (List.mem_singleton.mpr ?_)
    exact if_pos ((w.finalize_frame frame.dts).1.trans hdata)
  · exact ⟨htimed.take frame, hopened.take hwants⟩

end DASHWorker

/-! ## Runs -/

namespace DASHRun

def Fits (cfg : DASHConfig) (r : DASHRun) (action : DASHAction) : Prop :=
  match r.phase, action with
  | .running cachedEndDTS, .frame f => takes cachedEndDTS r.worker f = true →
      DASHWorker.FrameFits cfg r.worker f
  | .running _, .finish => r.worker.isEmpty = false →
      r.worker.SameTracks (r.worker.pieceEnd r.worker.segStartDTS)
  | _, _ => True

instance (cfg : DASHConfig) (r : DASHRun) (action : DASHAction) :
    Decidable (Fits cfg r action) :=
  match r, action with
  | ⟨.running _, _⟩, .frame _ => inferInstanceAs (Decidable (_ → _))
  | ⟨.running _, _⟩, .finish => inferInstanceAs (Decidable (_ → _))
  | ⟨.running _, _⟩, .start _ _ _ | ⟨.running _, _⟩, .retire
  | ⟨.running _, _⟩, .leave | ⟨.idle, _⟩, _ | ⟨.stopped, _⟩, _ => isTrue trivial

/-- A worker that runs is between pieces; one that has stopped only leaves
manifests behind. -/
def Inv (r : DASHRun) : Prop :=
  match r.phase with
  | .idle => r.worker = {}
  | .running _ => r.worker.Timed ∧ r.worker.Opened
  | .stopped => ∀ m ∈ r.worker.observed, m.Addressed

variable {r r' : DASHRun} {action : DASHAction}

theorem Inv.step (h : Inv r) (hfits : Fits cfg r action) (hstep : r.step cfg action = some r') :
    Inv r' := by
  unfold DASHRun.step at hstep
  unfold Inv at h
  unfold Fits at hfits
  split at hstep
  next setup mpdAudio replay hphase =>
    rw [hphase] at h
    cases hstep
    rw [show r.worker = {} from h]
    exact DASHWorker.timed_replay replay (DASHWorker.timed_configure setup mpdAudio)
  next cachedEndDTS f hphase =>
    rw [hphase] at h hfits
    split at hstep
    next htakes =>
      cases hstep
      have hwants : r.worker.wants f = true := (Bool.and_eq_true_iff.mp htakes).2
      rw [hphase]
      exact DASHWorker.timed_addLive (hfits htakes) h.1 h.2 hwants
    · cases hstep
      unfold Inv
      rw [hphase]
      exact h
  next hphase =>
    rw [hphase] at h
    cases hstep
    intro m hm
    obtain hm | rfl := by simpa [DASHWorker.retire] using hm
    · exact h.1.addressed m hm
    · exact DASHManager.Aligned.addressed
        (m := { r.worker.manager with retired := true }) h.1.aligned
  next hphase =>
    rw [hphase] at h hfits
    cases hstep
    exact DASHWorker.observed_finalize h.1.addressed fun hempty =>
      h.1.aligned_finalize hempty (hfits hempty)
  next hphase =>
    rw [hphase] at h
    cases hstep
    exact h.1.addressed
  · exact absurd hstep (by simp)

end DASHRun

/-- While every piece has the same tracks as those before it, every manifest
addresses the segments that are there, with their own times. -/
theorem dash_manifests_address_segments (cfg : DASHConfig) (actions : List DASHAction) {r : DASHRun}
    (hfits : StepsMeet (DASHRun.Fits cfg) (DASHRun.step cfg) {} actions)
    (hrun : runFrom (DASHRun.step cfg) {} actions = some r) :
    ∀ m ∈ r.worker.observed, m.Addressed := by
  have hinv := runFrom_invariant_of_stepsMeet (fun _ _ _ h hf hs => DASHRun.Inv.step h hf hs)
    (show DASHRun.Inv {} from rfl) hfits hrun
  unfold DASHRun.Inv at hinv
  split at hinv
  · rw [hinv]
    intro m hm
    obtain rfl := List.mem_singleton.mp hm
    exact DASHManager.Aligned.addressed (t := 0) (.inl ⟨rfl, rfl⟩)
  · exact hinv.1.addressed
  · exact hinv

/-- Six seconds and one segment, so that six are kept. -/
def oneSegment : DASHConfig where
  maxSegments := 1
  targetElapsed := fun ms => 6000 ≤ ms
  pos_of_targetElapsed := fun _ h => by
    have := of_decide_eq_true h
    omega

/-- A stream with video and audio, and its frames. -/
def dashSetup : SegmentSetup where
  videoSequenceHeader := some (newAVFrame .video .vp9 .sequenceHeader 0 0 [])
  audioPlan := ⟨.passthrough, .aac⟩
  audioSequenceHeader := none
  sampleRate := 0

def dashKeyframe (dts : ℤ) : DASHAction :=
  .frame (newAVFrame .video .vp9 .keyframe dts dts [1])

def dashAudio (dts : ℤ) : DASHAction :=
  .frame (newAVFrame .audio .aac .interframe dts dts [2])

/-- Seven pieces, of which the first is dropped, with audio in all of them. -/
def steadyAudio : List DASHAction :=
  .start dashSetup true [] :: dashKeyframe 0 :: ((List.range 7).map fun (i : ℕ) =>
      [dashAudio (1000 * i + 10), dashKeyframe (1000 * (i + 1))]).flatten

theorem dash_manifests_address_segments_steady :
    ∃ r, runFrom (DASHRun.step oneSegment) {} steadyAudio = some r ∧
      r.worker.manager.timeBase = 1000 ∧
      r.worker.manager.generateMPD.audio.map AdaptationSet.startNumber = some 2 ∧
      ∀ m ∈ r.worker.observed, m.Addressed :=
  ⟨_, rfl, by decide +kernel, by decide +kernel,
    dash_manifests_address_segments oneSegment steadyAudio (by decide +kernel)
      rfl⟩

/-- The second of three pieces has no audio.  The audio list then has the
segments 0 and 2, and the second entry names 1, which is not there. -/
theorem dash_audio_entry_names_nothing :
    ∃ r, runFrom (DASHRun.step oneSegment) {}
      [.start dashSetup true [], dashKeyframe 0, dashAudio 10, dashKeyframe 1000, dashKeyframe 2000,
        dashAudio 2010, dashKeyframe 3000] = some r ∧
      r.worker.keyframes = [0, 1000, 2000, 3000] ∧
      ∃ m ∈ r.worker.observed, ∃ set, m.generateMPD.audio = some set ∧
        set.entries = [(1, 0, 1000), (2, 1000, 1000)] ∧ m.getAudioSegment 1 = none ∧
        ¬m.Addressed := by
  refine exists_of_any (p := fun r =>
    r.worker.keyframes = [0, 1000, 2000, 3000] ∧ ∃ m ∈ r.worker.observed,
      m.generateMPD.audio.map AdaptationSet.entries = some [(1, 0, 1000), (2, 1000, 1000)] ∧
      m.getAudioSegment 1 = none ∧
      ¬Names m.dtsBase m.audioSegments m.getAudioSegment (2, 1000, 1000))
    (by decide +kernel) ?_
  rintro r ⟨hkeyframes, m, hm, hentries, hnone, hnames⟩
  obtain ⟨set, hset, hentries⟩ := Option.map_eq_some_iff.mp hentries
  refine ⟨hkeyframes, m, hm, set, hset, hentries, hnone, fun h => hnames ?_⟩
  exact h.audio set hset _ (by rw [hentries]; simp)

end LiveForge.HttpStream
