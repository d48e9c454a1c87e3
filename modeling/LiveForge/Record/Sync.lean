import LiveForge.Fmp4.Exact
import LiveForge.Record.Writer
import Mathlib.Algebra.Order.Field.Rat
import Mathlib.Algebra.Order.Ring.Abs
import Mathlib.Tactic.FieldSimp
import Mathlib.Tactic.Linarith
import Mathlib.Tactic.Ring

/-!
# Audio and video of a recording

What the frames of a recording become: behind the init segment, fragments that
together hold every frame, each with the bases of the two tracks.  The first
sample of a fragment is where the clock of a track counts from its base.  A
recording keeps audio and video together if both tracks start at the same time,
and at the sample rates in use only then.
-/

namespace LiveForge.Record

open Support Fmp4

/-! ## The first time of a track -/

def firstDTS (mediaType : MediaType) (frames : List AVFrame) : Option ℤ :=
  (frames.find? fun f => f.mediaType = mediaType).map AVFrame.dts

theorem firstDTS_append (mediaType : MediaType) (frames more : List AVFrame) :
    firstDTS mediaType (frames ++ more) =
      (firstDTS mediaType frames).or (firstDTS mediaType more) := by
  rw [firstDTS, List.find?_append, Option.map_or]
  rfl

variable {mediaType : MediaType} {frames seen : List AVFrame} {f : AVFrame} {file : List Chunk}
  {segment : InitSegment} {dts base : ℤ} {rate : ℕ} {chunk : Chunk}

theorem firstDTS_append_of_some (h : firstDTS mediaType frames = some dts) (more : List AVFrame) :
    firstDTS mediaType (frames ++ more) = some dts := by
  rw [firstDTS_append, h, Option.some_or]

theorem exists_firstDTS (hf : f ∈ frames) (htype : f.mediaType = mediaType) :
    ∃ dts, firstDTS mediaType frames = some dts := by
  have hfound : (frames.find? fun f => f.mediaType = mediaType).isSome := by
    rw [List.find?_isSome]
    exact ⟨f, hf, by simpa using htype⟩
  obtain ⟨g, hg⟩ := Option.isSome_iff_exists.mp hfound
  exact ⟨g.dts, by rw [firstDTS, hg, Option.map_some]⟩

/-! ## What a recording looks like -/

/-- A fragment of some of the frames, with the bases of its tracks. -/
def Written (rate : ℕ) (seen : List AVFrame) (chunk : Chunk) : Prop :=
  ∃ frames sequenceNumber videoBase audioBase,
    chunk = .media frames (buildMediaSegment frames sequenceNumber rate 0 videoBase audioBase) ∧
    (∀ f ∈ frames, f.mediaType = .video → firstDTS .video seen = some videoBase) ∧
    ∀ f ∈ frames, f.mediaType = .audio → firstDTS .audio seen = some audioBase

theorem Written.append (h : Written rate seen chunk) (more : List AVFrame) :
    Written rate (seen ++ more) chunk := by
  obtain ⟨frames, sequenceNumber, videoBase, audioBase, hchunk, hvideo, haudio⟩ := h
  exact ⟨frames, sequenceNumber, videoBase, audioBase, hchunk,
    fun f hf htype => firstDTS_append_of_some (hvideo f hf htype) more,
    fun f hf htype => firstDTS_append_of_some (haudio f hf htype) more⟩

/-- Behind the init segment there are fragments of the frames. -/
def FileOf (segment : InitSegment) (seen : List AVFrame) (file : List Chunk) : Prop :=
  1 ≤ segment.sampleRate ∧ ∃ rest, file = .init segment :: rest ∧
      ∀ chunk ∈ rest, Written segment.sampleRate seen chunk

theorem FileOf.append (h : FileOf segment seen file) (more : List AVFrame) :
    FileOf segment (seen ++ more) file := by
  obtain ⟨hrate, rest, hfile, hrest⟩ := h
  exact ⟨hrate, rest, hfile, fun chunk hchunk => (hrest chunk hchunk).append more⟩

theorem FileOf.snoc (h : FileOf segment seen file)
    (hchunk : Written segment.sampleRate seen chunk) :
    FileOf segment seen (file ++ [chunk]) := by
  obtain ⟨hrate, rest, rfl, hrest⟩ := h
  refine ⟨hrate, rest ++ [chunk], rfl, ?_⟩
  exact forall_mem_concat hrest hchunk

/-- A writer behind its init segment; what is not in the file yet is in the
buffer. -/
structure Started (segment : InitSegment) (seen : List AVFrame)
    (w : Fmp4FrameWriter) (file : List Chunk) : Prop where
  initDone : w.initDone = true
  muxer : ∃ m, w.muxer = some m ∧ m.audioSampleRate = segment.sampleRate
  videoBase : firstDTS .video seen =
    if w.videoBaseSet then some w.videoBaseDTS else none
  audioBase : firstDTS .audio seen =
    if w.audioBaseSet then some w.audioBaseDTS else none
  media : FileOf segment seen file
  frames : file.flatMap Chunk.frames ++ w.gopBuffer = seen

structure Waiting (seen : List AVFrame) (w : Fmp4FrameWriter) (file : List Chunk) : Prop where
  initDone : w.initDone = false
  gopBuffer : w.gopBuffer = []
  file : file = []
  videoBaseSet : w.videoBaseSet = false
  audioBaseSet : w.audioBaseSet = false
  pending : w.pendingFrames = seen
  ready : seen ≠ [] → w.expectedTracksSet = true ∧ w.tracksReady = false

theorem boundedAudioSampleRate_pos (sampleRate : ℤ) : 1 ≤ boundedAudioSampleRate sampleRate := by
  unfold boundedAudioSampleRate
  split
  · decide
  · omega

namespace Fmp4FrameWriter

variable {refuses : List Chunk → Bool}

/-! ## Steps -/

variable {w w' : Fmp4FrameWriter} {file' : List Chunk} {segment : InitSegment} {frame : AVFrame}
  {state state' : Fmp4FrameWriter × List Chunk}

theorem writeSegment_eq_ok {error : WriteError} {toWrite : List AVFrame}
    {m m' : Muxer} (hmuxer : w.muxer = some m)
    (h : w.writeSegment refuses error toWrite file = .ok (m', file')) :
    m'.audioSampleRate = m.audioSampleRate ∧
      file' = file ++ [.media toWrite (buildMediaSegment toWrite
        m'.sequenceNumber m.audioSampleRate 0 w.videoBaseDTS w.audioBaseDTS)] := by
  rw [writeSegment, hmuxer] at h
  obtain ⟨written, hwritten, heq⟩ := map_eq_ok.mp h
  obtain ⟨rfl, rfl⟩ := heq
  exact ⟨rfl, writeChunk_eq_ok hwritten⟩

theorem setBase_bases (w : Fmp4FrameWriter) (frame : AVFrame) (seen : List AVFrame)
    (hvideo : firstDTS .video seen = if w.videoBaseSet then some w.videoBaseDTS else none)
    (haudio : firstDTS .audio seen = if w.audioBaseSet then some w.audioBaseDTS else none) :
    (firstDTS .video (seen ++ [frame]) =
      if (w.setBase frame).videoBaseSet then some (w.setBase frame).videoBaseDTS else none) ∧
    firstDTS .audio (seen ++ [frame]) =
      if (w.setBase frame).audioBaseSet then some (w.setBase frame).audioBaseDTS else none := by
  rw [firstDTS_append, hvideo, firstDTS_append, haudio]
  unfold setBase
  cases htype : frame.mediaType <;> cases hvideo : w.videoBaseSet <;>
    cases haudio : w.audioBaseSet <;> simp [firstDTS, htype, hvideo, haudio]

theorem setBase_rest (w : Fmp4FrameWriter) (frame : AVFrame) :
    (w.setBase frame).muxer = w.muxer ∧ (w.setBase frame).initDone = w.initDone ∧
      (w.setBase frame).gopBuffer = w.gopBuffer ∧
      (w.setBase frame).pendingFrames = w.pendingFrames := by
  unfold setBase
  split
  · exact ⟨rfl, rfl, rfl, rfl⟩
  · split <;> exact ⟨rfl, rfl, rfl, rfl⟩

theorem base_of_mem {gop : List AVFrame} {set : Bool}
    (hgop : ∀ f ∈ gop, f ∈ seen) (h : firstDTS mediaType seen = if set then some base else none) :
    ∀ f ∈ gop, f.mediaType = mediaType → firstDTS mediaType seen = some base := by
  intro f hf htype
  obtain ⟨dts, hdts⟩ := exists_firstDTS (hgop f hf) htype
  rw [h] at hdts
  split_ifs at hdts with hset
  rw [h, if_pos hset]

theorem written_gopBuffer {sequenceNumber : ℕ} (hrate : rate = segment.sampleRate)
    (hvideo : firstDTS .video seen = if w.videoBaseSet then some w.videoBaseDTS else none)
    (haudio : firstDTS .audio seen = if w.audioBaseSet then some w.audioBaseDTS else none)
    (hgop : ∀ f ∈ w.gopBuffer, f ∈ seen) :
    Written segment.sampleRate seen (.media w.gopBuffer
      (buildMediaSegment w.gopBuffer sequenceNumber rate 0 w.videoBaseDTS w.audioBaseDTS)) :=
  ⟨w.gopBuffer, sequenceNumber, w.videoBaseDTS, w.audioBaseDTS, by rw [hrate],
    base_of_mem hgop hvideo, base_of_mem hgop haudio⟩

theorem started_writeMediaFrame (hw : Started segment seen w file)
    (h : w.writeMediaFrame refuses frame file = .ok (w', file')) :
    Started segment (seen ++ [frame]) w' file' ∧ w'.pendingFrames = w.pendingFrames := by
  obtain ⟨m, hmuxer, hrate⟩ := hw.muxer
  obtain ⟨hsame, hdone, hgop, hpending⟩ := w.setBase_rest frame
  obtain ⟨hvideo, haudio⟩ := w.setBase_bases frame seen hw.videoBase hw.audioBase
  unfold writeMediaFrame at h
  dsimp only at h
  split at h
  · obtain ⟨⟨m', file''⟩, hwritten, heq⟩ := map_eq_ok.mp h
    obtain ⟨rfl, rfl⟩ := heq
    obtain ⟨hrate', rfl⟩ := writeSegment_eq_ok (hsame.trans hmuxer) hwritten
    have hmem : ∀ f ∈ (w.setBase frame).gopBuffer, f ∈ seen ++ [frame] := by
      intro f hf
      rw [hgop] at hf
      rw [← hw.frames]
      exact List.mem_append_left _ (List.mem_append_right _ hf)
    refine ⟨⟨hdone.trans hw.initDone, ⟨m', rfl, hrate'.trans hrate⟩, hvideo,
      haudio, (hw.media.append [frame]).snoc
        (written_gopBuffer hrate hvideo haudio hmem), ?_⟩, hpending⟩
    rw [List.flatMap_append, List.flatMap_singleton, Chunk.frames, hgop, hw.frames]
  · cases h
    refine ⟨⟨hdone.trans hw.initDone, ⟨m, hsame.trans hmuxer, hrate⟩, hvideo,
      haudio, hw.media.append [frame], ?_⟩, hpending⟩
    rw [hgop, ← List.append_assoc, hw.frames]

theorem started_writeMediaFrames (hw : Started segment seen w file)
    (h : writeMediaFrames refuses frames (w, file) = .ok state) :
    Started segment (seen ++ frames) state.1 state.2 := by
  induction frames generalizing seen w file with
  | nil =>
    cases h
    rw [List.append_nil]
    exact hw
  | cons frame frames ih =>
    obtain ⟨⟨w', file'⟩, hstep, hrest⟩ := bind_eq_ok.mp h
    have hnext := ih (started_writeMediaFrame hw hstep).1 hrest
    rwa [List.append_assoc] at hnext

theorem started_initializeFile {frame : Option AVFrame}
    (hgop : w.gopBuffer = []) (hfile : file = []) (hvideo : w.videoBaseSet = false)
    (haudio : w.audioBaseSet = false) (h : w.initializeFile refuses frame file = .ok (w', file')) :
    Started (w.initialMuxer frame).2 [] w' file' := by
  obtain ⟨written, hwritten, heq⟩ := map_eq_ok.mp h
  cases heq
  obtain rfl := writeChunk_eq_ok hwritten
  subst hfile
  refine ⟨rfl, ⟨_, rfl, rfl⟩, ?_, ?_, ⟨boundedAudioSampleRate_pos _, [], rfl, by simp⟩, ?_⟩
  · rw [hvideo]
    rfl
  · rw [haudio]
    rfl
  · rw [hgop]
    rfl

/-! ## Runs -/

def mediaFrames (frames : List AVFrame) : List AVFrame :=
  frames.filter fun f => f.frameType ≠ .sequenceHeader

inductive Recording (seen : List AVFrame) (w : Fmp4FrameWriter)
    (file : List Chunk) : Prop where
  | waiting (h : Waiting seen w file)
  | started (segment : InitSegment) (h : Started segment seen w file)
      (hpending : w.pendingFrames = [])

theorem noteHeader_eq (w : Fmp4FrameWriter) (frame : AVFrame) :
    ∃ videoSeq audioSeq, w.noteHeader frame = { w with videoSeq, audioSeq } := by
  unfold noteHeader
  split
  · exact ⟨some frame, w.audioSeq, rfl⟩
  · exact ⟨w.videoSeq, some frame, rfl⟩
  · exact ⟨w.videoSeq, w.audioSeq, rfl⟩

theorem started_noteHeader (frame : AVFrame) (hw : Started segment seen w file) :
    Started segment seen (w.noteHeader frame) file := by
  obtain ⟨videoSeq, audioSeq, heq⟩ := w.noteHeader_eq frame
  rw [heq]
  exact { hw with }

theorem recording_header (hheader : frame.frameType = .sequenceHeader)
    (hstate : Recording seen state.1 state.2) (h : writeFrame refuses state frame = .ok state') :
    Recording seen state'.1 state'.2 := by
  obtain ⟨videoSeq, audioSeq, heq⟩ := state.1.noteHeader_eq frame
  rw [writeFrame, if_pos hheader] at h
  dsimp only at h
  split at h
  next hready =>
    obtain ⟨started, hinit, hrest⟩ := bind_eq_ok.mp h
    obtain ⟨written, hwritten, hret⟩ := bind_eq_ok.mp hrest
    cases hret
    cases hstate with
    | waiting hw =>
      have hstarted := started_initializeFile (by rw [heq, hw.gopBuffer])
        hw.file (by rw [heq, hw.videoBaseSet]) (by rw [heq, hw.audioBaseSet])
        hinit
      have hfinal := started_writeMediaFrames hstarted hwritten
      rw [heq, hw.pending] at hfinal
      exact .started _ { hfinal with } rfl
    | started segment hw hpending =>
      rw [heq] at hready
      exact absurd hpending hready.2.2
  next hready =>
    cases h
    cases hstate with
    | waiting hw =>
      refine .waiting ?_
      rw [heq] at hready ⊢
      refine { hw with ready := ?_ }
      intro hseen
      have hexpected := (hw.ready hseen).1
      refine ⟨hexpected, Bool.eq_false_iff.mpr fun htracks => hready ?_⟩
      exact ⟨hexpected, htracks, by rw [hw.pending]; exact hseen⟩
    | started segment hw hpending =>
      exact .started segment (started_noteHeader frame hw) (by rw [heq, hpending])

theorem recording_media (hmedia : frame.frameType ≠ .sequenceHeader)
    (hstate : Recording seen state.1 state.2) (h : writeFrame refuses state frame = .ok state') :
    Recording (seen ++ [frame]) state'.1 state'.2 := by
  rw [writeFrame, if_neg hmedia] at h
  cases hstate with
  | started segment hw hpending =>
    rw [if_pos hw.initDone] at h
    obtain ⟨hnext, hsame⟩ := started_writeMediaFrame hw h
    exact .started segment hnext (hsame.trans hpending)
  | waiting hw =>
    rw [if_neg (by rw [hw.initDone]; decide)] at h
    split at h
    next hwait =>
      cases h
      refine .waiting ⟨hw.initDone, hw.gopBuffer, hw.file, hw.videoBaseSet,
        hw.audioBaseSet, by rw [hw.pending], fun _ => ⟨hwait.1, ?_⟩⟩
      exact Bool.eq_false_iff.mpr hwait.2
    next hready =>
      -- nothing can be waiting when the tracks are known
      have hnone : seen = [] := by
        by_contra hseen
        obtain ⟨hexpected, htracks⟩ := hw.ready hseen
        exact hready ⟨hexpected, by rw [htracks]; decide⟩
      obtain ⟨started, hinit, hrest⟩ := bind_eq_ok.mp h
      have hstarted := started_initializeFile hw.gopBuffer hw.file
        hw.videoBaseSet hw.audioBaseSet hinit
      obtain ⟨hnext, hsame⟩ := started_writeMediaFrame hstarted hrest
      rw [hnone]
      refine .started _ hnext (hsame.trans ?_)
      obtain ⟨written, -, rfl⟩ := map_eq_ok.mp hinit
      rw [hw.pending, hnone]

theorem recording_writeFrames (hstate : Recording seen state.1 state.2)
    (h : frames.foldlM (writeFrame refuses) state = .ok state') :
    Recording (seen ++ mediaFrames frames) state'.1 state'.2 := by
  induction frames generalizing seen state with
  | nil =>
    cases h
    rw [mediaFrames, List.filter_nil, List.append_nil]
    exact hstate
  | cons frame frames ih =>
    obtain ⟨next, hstep, hrest⟩ := bind_eq_ok.mp h
    by_cases hheader : frame.frameType = .sequenceHeader
    · have hnext := ih (recording_header hheader hstate hstep) hrest
      rwa [mediaFrames, List.filter_cons_of_neg (by simpa using hheader)]
    · have hnext := ih (recording_media hheader hstate hstep) hrest
      rw [mediaFrames, List.filter_cons_of_pos (by simpa using hheader)]
      rwa [List.append_assoc] at hnext

def Fresh (w : Fmp4FrameWriter) : Prop :=
  w.initDone = false ∧ w.gopBuffer = [] ∧ w.pendingFrames = [] ∧
    w.videoBaseSet = false ∧ w.audioBaseSet = false

instance (w : Fmp4FrameWriter) : Decidable w.Fresh :=
  inferInstanceAs (Decidable (_ ∧ _))

theorem record_eq_ok (hw : w.Fresh) (h : w.record refuses frames = .ok file) :
    (file = [] ∧ mediaFrames frames = []) ∨ ∃ segment, FileOf segment (mediaFrames frames) file ∧
        file.flatMap Chunk.frames = mediaFrames frames := by
  obtain ⟨hdone, hgop, hpending, hvideo, haudio⟩ := hw
  obtain ⟨⟨w', file'⟩, hrun, hflush⟩ := bind_eq_ok.mp h
  have hstart : Recording [] (w, ([] : List Chunk)).1 (w, ([] : List Chunk)).2 :=
    .waiting ⟨hdone, hgop, rfl, hvideo, haudio, hpending, fun hne =>
      absurd rfl hne⟩
  have hend := recording_writeFrames hstart hrun
  rw [List.nil_append] at hend
  unfold flush at hflush
  cases hend with
  | waiting hw' =>
    rw [if_pos hw'.initDone] at hflush
    split_ifs at hflush with hnone
    cases hflush
    refine .inl ⟨hw'.file, ?_⟩
    rw [← hw'.pending]
    exact not_not.mp hnone
  | started segment hw' _ =>
    obtain ⟨m, hmuxer, hrate⟩ := hw'.muxer
    rw [if_neg (by rw [hw'.initDone]; decide)] at hflush
    refine .inr ⟨segment, ?_⟩
    split at hflush
    next hempty =>
      cases hflush
      have hbuffer : w'.gopBuffer = [] := by
        rcases hempty with hempty | hnil
        · exact hempty
        · rw [hmuxer] at hnil
          simp at hnil
      have hframes := hw'.frames
      rw [hbuffer, List.append_nil] at hframes
      exact ⟨hw'.media, hframes⟩
    · obtain ⟨⟨m', file''⟩, hwritten, rfl⟩ := map_eq_ok.mp hflush
      obtain ⟨-, rfl⟩ := writeSegment_eq_ok hmuxer hwritten
      have hmem : ∀ f ∈ w'.gopBuffer, f ∈ mediaFrames frames := by
        intro f hf
        rw [← hw'.frames]
        exact List.mem_append_right _ hf
      refine ⟨hw'.media.snoc (written_gopBuffer hrate hw'.videoBase hw'.audioBase hmem), ?_⟩
      rw [List.flatMap_append, List.flatMap_singleton]
      exact hw'.frames

end Fmp4FrameWriter

/-! ## Times in the file -/

def audioRate : List Chunk → ℕ
  | .init segment :: _ => segment.sampleRate
  | _ => 0

/-- The distance in decode time of a first video sample and a first audio
sample, in milliseconds, is that of their frames, up to a tick of each track. -/
def Synced (file : List Chunk) : Prop :=
  ∀ frames data frames' data', .media frames data ∈ file → .media frames' data' ∈ file →
    ∀ v ∈ (videoSamples frames).head?, ∀ a ∈ (audioSamples frames').head?,
      ∃ sv ∈ (samplesOf videoTrackID data).head?, ∃ sa ∈ (samplesOf audioTrackID data').head?,
          |(sv.time : ℚ) * 1000 / timescaleVideo -
              (sa.time : ℚ) * 1000 / audioRate file -
              ((v.dts : ℚ) - a.dts)| ≤
            1000 / timescaleVideo + 1000 / audioRate file

theorem synced_pair_iff (hrate : 1 ≤ rate) (tv ta : ℕ) (v a : ℤ) :
    |(tv : ℚ) * 1000 / timescaleVideo - (ta : ℚ) * 1000 / rate -
          ((v : ℚ) - a)| ≤ 1000 / timescaleVideo + 1000 / rate ↔
      |1000 * (tv : ℤ) * rate - 90000000 * ta - (v - a) * 90000 * rate| ≤
        1000 * rate + 90000000 := by
  have hratePos : (0 : ℚ) < rate := by exact_mod_cast hrate
  have hpos : (0 : ℚ) < 90000 * rate := by linarith
  have hvideo : (timescaleVideo : ℚ) = 90000 := by norm_num [timescaleVideo]
  have hleft :
      |1000 * (tv : ℚ) * rate - 90000000 * ta - (v - a) * 90000 * rate| =
        |(tv : ℚ) * 1000 / timescaleVideo - (ta : ℚ) * 1000 / rate -
          ((v : ℚ) - a)| * (90000 * rate) := by
    rw [← abs_of_pos hpos, ← abs_mul, hvideo]
    congr 1
    field_simp
    ring
  have hright : (1000 * (rate : ℚ) + 90000000) =
      (1000 / timescaleVideo + 1000 / rate) * (90000 * rate) := by
    rw [hvideo]
    field_simp
    ring
  have hcast :
      |1000 * (tv : ℤ) * rate - 90000000 * ta - (v - a) * 90000 * rate| ≤
        1000 * rate + 90000000 ↔
      |1000 * (tv : ℚ) * rate - 90000000 * ta - (v - a) * 90000 * rate| ≤
        1000 * rate + 90000000 := by
    exact_mod_cast Iff.rfl
  rw [hcast, hleft, hright, mul_le_mul_iff_left₀ hpos]

def InTrackOrder (frames : List AVFrame) : Prop :=
  frames.Pairwise fun f g => f.mediaType = g.mediaType → f.dts ≤ g.dts

theorem firstDTS_le (horder : InTrackOrder frames) (hbase : firstDTS mediaType frames = some base)
    (hf : f ∈ frames) (htype : f.mediaType = mediaType) :
    base ≤ f.dts := by
  induction frames with
  | nil => simp at hf
  | cons g frames ih =>
    obtain ⟨hhead, htail⟩ := List.pairwise_cons.mp horder
    by_cases hg : g.mediaType = mediaType
    · have : base = g.dts := by
        rw [firstDTS, List.find?_cons_of_pos (by simpa using hg)] at hbase
        exact (Option.some.inj hbase).symm
      rcases List.mem_cons.mp hf with rfl | hmem
      · exact this.le
      · exact this.trans_le (hhead f hmem (hg.trans htype.symm))
    · rw [firstDTS, List.find?_cons_of_neg (by simpa using hg)] at hbase
      rcases List.mem_cons.mp hf with rfl | hmem
      · exact absurd htype hg
      · exact ih htail hbase hmem

theorem mem_of_mem_videoSamples {v : AVFrame} (hv : v ∈ videoSamples frames) :
    ∃ f ∈ frames, f.mediaType = .video ∧ v.dts = f.dts := by
  obtain ⟨f, hf, rfl⟩ := List.mem_map.mp hv
  obtain ⟨hmem, hkeeps⟩ := List.mem_filter.mp hf
  have hvideo := (of_decide_eq_true hkeeps).2.1
  exact ⟨f, hmem, hvideo, rfl⟩

theorem head_timedSamples {timescale : ℕ} (hpos : 1 ≤ timescale)
    {baseDTS endDTS : ℤ} {samples : List AVFrame} (hf : f ∈ samples.head?)
    (hbase : baseDTS ≤ f.dts) (hfits : (f.dts - baseDTS) * timescale < 2 ^ 63) :
    ∃ s ∈ (timedSamples timescale endDTS (baseDecodeTime timescale baseDTS samples) samples).head?,
      (s.time : ℤ) = (f.dts - baseDTS) * timescale / 1000 := by
  cases samples with
  | nil => simp at hf
  | cons g rest =>
    obtain rfl := Option.mem_some.mp hf
    refine ⟨_, rfl, ?_⟩
    have hnonneg : 0 ≤ (g.dts - baseDTS) * (timescale : ℤ) :=
      Int.mul_nonneg (Int.sub_nonneg_of_le hbase) (Int.natCast_nonneg _)
    rw [baseDecodeTime, scaled_of_pos hpos, max_eq_left (Int.sub_nonneg_of_le hbase)]
    exact (wordOf_tdiv_eq_iff hnonneg).mpr (.inl hfits)

/-- What the numbers of a recording ask for: fragments below two gigabytes, and
times whose products fit 64 bits. -/
structure Representable (frames : List AVFrame) (file : List Chunk) : Prop where
  sizes : ∀ chunk ∈ file, fragmentSize chunk.frames < 2 ^ 31
  video : ∀ f ∈ frames, ∀ g ∈ frames, f.mediaType = .video →
    g.mediaType = .video → (g.dts - f.dts) * timescaleVideo < 2 ^ 63
  audio : ∀ f ∈ frames, ∀ g ∈ frames, f.mediaType = .audio →
    g.mediaType = .audio → (g.dts - f.dts) * audioRate file < 2 ^ 63

/-- If there is anything to see and to hear, both start at the same time. -/
def SameStart (frames : List AVFrame) : Prop :=
  (∃ f ∈ frames, keepsVideo f = true) →
    ∀ v ∈ firstDTS .video frames, ∀ a ∈ firstDTS .audio frames, v = a

theorem exists_mem_of_firstDTS (h : firstDTS mediaType frames = some dts) :
    ∃ f ∈ frames, f.mediaType = mediaType ∧ f.dts = dts := by
  obtain ⟨f, hf, rfl⟩ := Option.map_eq_some_iff.mp h
  exact ⟨f, List.mem_of_find?_eq_some hf, by simpa using List.find?_some hf, rfl⟩

section File

variable {group : List AVFrame}

/-- The first samples of a fragment: their times count from the first frames of
the recording. -/
theorem FileOf.first_samples (hfile : FileOf segment frames file)
    (hframes : file.flatMap Chunk.frames = frames) (horder : InTrackOrder frames)
    (hfits : Representable frames file) {data : Bytes} (hgroup : .media group data ∈ file) :
    (∀ v ∈ (videoSamples group).head?, ∃ base, firstDTS .video frames = some base ∧
      ∃ s ∈ (samplesOf videoTrackID data).head?, (s.time : ℤ) =
        (v.dts - base) * timescaleVideo / 1000) ∧
      ∀ a ∈ (audioSamples group).head?, ∃ base, firstDTS .audio frames = some base ∧
        ∃ s ∈ (samplesOf audioTrackID data).head?, (s.time : ℤ) =
          (a.dts - base) * segment.sampleRate / 1000 := by
  obtain ⟨hrate, rest, rfl, hrest⟩ := hfile
  have hgroupRest : .media group data ∈ rest := by
    simpa using hgroup
  obtain ⟨group', number, videoBase, audioBase, heq, hvideo, haudio⟩ := hrest _ hgroupRest
  obtain ⟨rfl, rfl⟩ := Chunk.media.inj heq
  have hsize : fragmentSize group < 2 ^ 31 := hfits.sizes _ hgroup
  obtain ⟨hreadVideo, hreadAudio⟩ := samplesOf_buildMediaSegment number
    segment.sampleRate 0 videoBase audioBase hsize
  have hsub : ∀ f ∈ group, f ∈ frames := by
    intro f hf
    rw [← hframes]
    exact List.mem_flatMap.mpr ⟨_, hgroup, hf⟩
  constructor
  · intro v hv
    obtain ⟨f, hf, htype, hdts⟩ := mem_of_mem_videoSamples (List.mem_of_mem_head? hv)
    have hbase := hvideo f hf htype
    obtain ⟨g, hg, hgtype, hgdts⟩ := exists_mem_of_firstDTS hbase
    have hle := firstDTS_le horder hbase (hsub f hf) htype
    have hproduct := hfits.video g hg f (hsub f hf) hgtype htype
    rw [hgdts] at hproduct
    rw [hreadVideo]
    exact ⟨videoBase, hbase, head_timedSamples (by decide) hv
      (by rw [hdts]; exact hle) (by rw [hdts]; exact hproduct)⟩
  · intro a ha
    obtain ⟨hf, hkeeps⟩ := List.mem_filter.mp (List.mem_of_mem_head? ha)
    have htype := (of_decide_eq_true hkeeps).2
    have hbase := haudio a hf htype
    obtain ⟨g, hg, hgtype, hgdts⟩ := exists_mem_of_firstDTS hbase
    have hle := firstDTS_le horder hbase (hsub a hf) htype
    have hproduct := hfits.audio g hg a (hsub a hf) hgtype htype
    rw [hgdts] at hproduct
    rw [hreadAudio]
    exact ⟨audioBase, hbase, head_timedSamples hrate ha hle hproduct⟩

/-- What is off between the tracks: the distance of their bases, and what was
cut off the time of the audio. -/
theorem distance_eq {v a videoBase audioBase : ℤ} {tv ta : ℕ}
    (htv : (tv : ℤ) = (v - videoBase) * timescaleVideo / 1000)
    (hta : (ta : ℤ) = (a - audioBase) * rate / 1000) :
    1000 * (tv : ℤ) * rate - 90000000 * ta - (v - a) * 90000 * rate =
      90000 * ((audioBase - videoBase) * rate + (a - audioBase) * rate % 1000) := by
  have hvideo : (tv : ℤ) = (v - videoBase) * 90 := by
    rw [htv, timescaleVideo]
    omega
  have haudio : 1000 * (ta : ℤ) = (a - audioBase) * rate - (a - audioBase) * rate % 1000 := by
    omega
  rw [hvideo, show 90000000 * (ta : ℤ) = 90000 * (1000 * ta) by ring, haudio]
  ring

theorem FileOf.synced (hfile : FileOf segment frames file)
    (hframes : file.flatMap Chunk.frames = frames) (horder : InTrackOrder frames)
    (hfits : Representable frames file) (hstart : SameStart frames) :
    Synced file := by
  intro group data group' data' hgroup hgroup' v hv a ha
  obtain ⟨videoBase, hvideoBase, sv, hsv, htv⟩ :=
    (hfile.first_samples hframes horder hfits hgroup).1 v hv
  obtain ⟨audioBase, haudioBase, sa, hsa, hta⟩ :=
    (hfile.first_samples hframes horder hfits hgroup').2 a ha
  obtain ⟨f, hf, -⟩ := List.mem_map.mp (List.mem_of_mem_head? hv)
  obtain ⟨hmem, hkeeps⟩ := List.mem_filter.mp hf
  have hin : f ∈ frames := by
    rw [← hframes]
    exact List.mem_flatMap.mpr ⟨_, hgroup, hmem⟩
  have hsame := hstart ⟨f, hin, hkeeps⟩ videoBase hvideoBase audioBase haudioBase
  refine ⟨sv, hsv, sa, hsa, ?_⟩
  obtain ⟨hrate, rest, rfl, -⟩ := hfile
  refine (synced_pair_iff hrate sv.time sa.time v.dts a.dts).mpr ?_
  rw [distance_eq htv hta, hsame, Int.sub_self, Int.zero_mul, abs_of_nonneg (by omega)]
  omega

theorem exists_chunk_firstDTS (h : firstDTS mediaType (file.flatMap Chunk.frames) = some dts) :
    ∃ chunk ∈ file, firstDTS mediaType chunk.frames = some dts := by
  induction file with
  | nil => simp [firstDTS] at h
  | cons chunk file ih =>
    rw [List.flatMap_cons, firstDTS_append] at h
    cases hhead : firstDTS mediaType chunk.frames with
    | some d =>
      rw [hhead, Option.some_or] at h
      exact ⟨chunk, List.mem_cons_self, by rw [hhead, h]⟩
    | none =>
      rw [hhead] at h
      obtain ⟨c, hc, hfirst⟩ := ih h
      exact ⟨c, List.mem_cons_of_mem _ hc, hfirst⟩

theorem head_audioSamples (hmedia : ∀ f ∈ group, f.frameType ≠ .sequenceHeader)
    (h : firstDTS .audio group = some dts) :
    ∃ a ∈ (audioSamples group).head?, a.dts = dts := by
  obtain ⟨a, ha, rfl⟩ := Option.map_eq_some_iff.mp h
  refine ⟨a, ?_, rfl⟩
  have hfilter : audioSamples group = group.filter fun f => f.mediaType = .audio := by
    apply List.filter_congr
    intro f hf
    simp [hmedia f hf]
  rw [hfilter, List.head?_filter]
  exact ha

theorem FileOf.sameStart (hfile : FileOf segment frames file)
    (hframes : file.flatMap Chunk.frames = frames)
    (hmedia : ∀ f ∈ frames, f.frameType ≠ .sequenceHeader) (horder : InTrackOrder frames)
    (hfits : Representable frames file) (hrate : 1012 ≤ audioRate file) (hsynced : Synced file) :
    SameStart frames := by
  rintro ⟨f, hf, hkeeps⟩ videoBase hvideoBase audioBase haudioBase
  -- a fragment with video, and the one with the first audio
  rw [← hframes] at hf
  obtain ⟨chunk, hchunk, hfchunk⟩ := List.mem_flatMap.mp hf
  obtain ⟨chunk', hchunk', hfirst⟩ := exists_chunk_firstDTS (hframes ▸ haudioBase)
  have hsub' : ∀ g ∈ chunk'.frames, g ∈ frames := by
    intro g hg
    rw [← hframes]
    exact List.mem_flatMap.mpr ⟨_, hchunk', hg⟩
  obtain ⟨a, ha, hadts⟩ := head_audioSamples (fun g hg => hmedia g (hsub' g hg)) hfirst
  have hne : videoSamples chunk.frames ≠ [] := by
    intro hnil
    have := List.mem_map_of_mem (f := fun f =>
      { f with payload := filterPayload f }) (List.mem_filter.mpr ⟨hfchunk, hkeeps⟩)
    rw [videoSamples] at hnil
    rw [hnil] at this
    simp at this
  obtain ⟨v, hv⟩ : ∃ v, (videoSamples chunk.frames).head? = some v :=
    Option.isSome_iff_exists.mp (List.isSome_head?.mpr hne)
  cases chunk with
  | init _ => simp [Chunk.frames] at hfchunk
  | media group data =>
    cases chunk' with
    | init _ => simp [Chunk.frames, firstDTS] at hfirst
    | media group' data' =>
      obtain ⟨sv, hsv, sa, hsa, hclose⟩ := hsynced _ _ _ _ hchunk hchunk' v hv a ha
      obtain ⟨vb, hvb, sv', hsv', htv⟩ := (hfile.first_samples hframes horder hfits hchunk).1 v hv
      obtain ⟨ab, hab, sa', hsa', hta⟩ := (hfile.first_samples hframes horder hfits hchunk').2 a ha
      obtain rfl := Option.mem_unique hsv hsv'
      obtain rfl := Option.mem_unique hsa hsa'
      obtain rfl := Option.mem_unique hvideoBase hvb
      obtain rfl := Option.mem_unique haudioBase hab
      obtain ⟨hpos, rest, rfl, -⟩ := hfile
      have hint := (synced_pair_iff hpos sv.time sa.time v.dts a.dts).mp hclose
      rw [distance_eq htv hta, hadts, Int.sub_self, Int.zero_mul,
        Int.zero_emod, Int.add_zero] at hint
      by_contra hdifferent
      have hapart : 1 ≤ |audioBase - videoBase| :=
        Int.one_le_abs (sub_ne_zero.mpr (Ne.symm hdifferent))
      have hfar : (segment.sampleRate : ℤ) ≤
          |audioBase - videoBase| * segment.sampleRate :=
        le_mul_of_one_le_left (Int.natCast_nonneg _) hapart
      rw [abs_mul, abs_mul, Nat.abs_cast, abs_of_pos (by decide)] at hint
      have hlarge : 1012 ≤ segment.sampleRate := hrate
      omega

end File

/-- A recording keeps audio and video together when both tracks start at the
same time, and with audio of 1012 Hz and more only then. -/
theorem record_synced (refuses : List Chunk → Bool) (w : Fmp4FrameWriter)
    (frames : List AVFrame) (file : List Chunk) (hw : w.Fresh)
    (hrun : w.record refuses frames = .ok file)
    (horder : InTrackOrder (Fmp4FrameWriter.mediaFrames frames))
    (hfits : Representable (Fmp4FrameWriter.mediaFrames frames) file) :
    (SameStart (Fmp4FrameWriter.mediaFrames frames) → Synced file) ∧
      (1012 ≤ audioRate file → Synced file → SameStart (Fmp4FrameWriter.mediaFrames frames)) := by
  have hmedia : ∀ f ∈ Fmp4FrameWriter.mediaFrames frames, f.frameType ≠ .sequenceHeader := by
    intro f hf
    simpa using (List.mem_filter.mp hf).2
  rcases Fmp4FrameWriter.record_eq_ok hw hrun with ⟨rfl, hnone⟩ | ⟨segment, hfile, hframes⟩
  · refine ⟨fun _ => by simp [Synced], ?_⟩
    rw [hnone]
    simp [SameStart]
  · exact ⟨hfile.synced hframes horder hfits, hfile.sameStart hframes hmedia horder hfits⟩

/-- A writer for H.264 and AAC. -/
def declared : Fmp4FrameWriter := Fmp4FrameWriter.setExpectedTracks {} .h264 .aac

def sequenceHeaders : List AVFrame :=
  [newAVFrame .video .h264 .sequenceHeader 0 0
      [1, 0x64, 0, 0x1F, 0xFF, 0xE1, 0, 4, 0x67, 0x64, 0, 0x1F, 1, 0, 2, 0x68, 0xEE],
    newAVFrame .audio .aac .sequenceHeader 0 0 [0x12, 0x10]]

def pictureAt (frameType : FrameType) (dts : ℤ) : AVFrame :=
  newAVFrame .video .h264 frameType dts dts
    [0, 0, 0, 2, if frameType = .keyframe then 0x65 else 0x41, 0x88]

/-- The audio starts 100 ms after the video and is played with it. -/
theorem record_late_audio_unsynced :
    ∃ file, declared.record (fun _ => false)
        (sequenceHeaders ++ [pictureAt .keyframe 0, audioAt 100]) = .ok file ∧
      ¬ Synced file := by
  refine ⟨_, rfl, fun hsynced => ?_⟩
  rcases Fmp4FrameWriter.record_eq_ok (by decide) (rfl : declared.record (fun _ => false)
      (sequenceHeaders ++ [pictureAt .keyframe 0, audioAt 100]) = .ok _) with
    ⟨-, hnone⟩ | ⟨segment, hfile, hframes⟩
  · exact absurd hnone (by decide)
  · have hstart := hfile.sameStart hframes (by decide)
      (by unfold InTrackOrder; decide) ⟨by decide +kernel, by decide, by decide⟩
      (by decide) hsynced
    exact absurd (hstart ⟨pictureAt .keyframe 0, by decide, by decide +kernel⟩ 0 rfl 100 rfl)
      (by decide)

theorem record_same_start_synced :
    ∃ file, declared.record (fun _ => false)
        (sequenceHeaders ++ [pictureAt .keyframe 40, audioAt 40, audioAt 63]) = .ok file ∧
      Synced file := by
  refine ⟨_, rfl, (record_synced (fun _ => false) declared
    (sequenceHeaders ++ [pictureAt .keyframe 40, audioAt 40, audioAt 63]) _ (by decide) rfl
    (by unfold InTrackOrder; decide) ⟨by decide +kernel, by decide, by decide⟩).1 ?_⟩
  rintro - v hv a ha
  exact Option.mem_unique hv ha

end LiveForge.Record
