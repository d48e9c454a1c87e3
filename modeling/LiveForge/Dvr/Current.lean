import LiveForge.Dvr.Session
import LiveForge.HttpStream.HlsCurrent

/-!
# Parameter sets in recorded segments

A DVR session on the frames of one publisher.  It notes the sequence headers it
reads, but makes its muxer only once.  With HLS it shares the defect that a
header which changes is not used, and the condition under which this does not
matter.
-/

namespace LiveForge.Dvr

open Support LiveForge.Core Ts Session

/-! ## A session on a feed -/

def snapshotAt (feed : Feed) (i : ℕ) (transcoder : Option Bytes) : DVRSnapshot where
  videoCodec := (feed.startupAt i).mediaInfo.videoCodec
  audioCodec := (feed.startupAt i).mediaInfo.audioCodec
  videoSequenceHeader := (feed.startupAt i).videoSeqHeader
  audioSequenceHeader := (feed.startupAt i).audioSeqHeader
  hasGeneration := true
  transcoder := transcoder

def inputsAt (feed : Feed) (positions : List (ℕ × Storage)) : List Input :=
  positions.filterMap fun p => feed.log[p.1]?.map fun f => ⟨p.1, f, p.2⟩

structure DVRFeed where
  feed : Feed
  cursor : ℕ := 0
  run : SessionRun := {}

/-- A frame is written, or the session starts with the cached frames at some
positions, reads the next frame, gets audio from a transcoder, or ends. -/
inductive DVRFeedAction where
  | write (f : AVFrame)
  | start (transcoder : Option Bytes) (cursor : ℕ)
      (replay : List (ℕ × Storage))
  | read (storage : Storage)
  | transcoded (f : AVFrame) (storage : Storage)
  | overwritten (storage : Storage)
  | stop (storage : Storage)

namespace DVRFeed

/-- What the session meets, and where it reads next. -/
def input (s : DVRFeed) : DVRFeedAction → Option (SessionAction × ℕ)
  | .write _ => none
  | .start transcoder cursor replay =>
    if cursor ≤ s.feed.log.length then
      some (.start (snapshotAt s.feed s.feed.log.length transcoder)
        (inputsAt s.feed replay), cursor)
    else none
  | .read storage => s.feed.log[s.cursor]?.map fun f =>
    (.frame ⟨s.cursor, f, storage⟩, s.cursor + 1)
  | .transcoded f storage =>
    if f.mediaType = .audio then
      some (.frame ⟨s.cursor, f, storage⟩, s.cursor)
    else none
  | .overwritten storage => some (.overwritten storage, s.cursor)
  | .stop storage => some (.stop storage, s.cursor)

def step (cfg : DVRConfig) (s : DVRFeed) (a : DVRFeedAction) : Option DVRFeed :=
  match a with
  | .write f => some { s with feed := s.feed.write f }
  | a => do
      let (action, cursor) ← s.input a
      let run ← SessionRun.step cfg s.run action
      return { s with cursor, run }

/-- Written frames repeat the header, and the first one does not come after the
session has started. -/
def Fits (s : DVRFeed) : DVRFeedAction → Prop
  | .write f => s.feed.Repeats f ∧
      (isVideoHeader f = true → s.run.phase ≠ .idle → s.feed.headers ≠ [])
  | _ => True

instance (s : DVRFeed) (a : DVRFeedAction) : Decidable (s.Fits a) :=
  match a with
  | .write _ => inferInstanceAs (Decidable (_ ∧ _))
  | .start .. | .read _ | .transcoded .. | .overwritten _ | .stop _ =>
    inferInstanceAs (Decidable True)

end DVRFeed

/-! ## What the session keeps -/

/-- The open file and the segments hold what they say. -/
structure Kept (feed : Feed) (s : Session) : Prop where
  file : ∀ file ∈ s.segFile, Holds feed file.data file.placed
  index : ∀ seg ∈ s.index, Holds feed seg.data seg.placed

/-- The session has the header of the feed, and so has its muxer. -/
structure Prepared (feed : Feed) (s : Session) : Prop where
  header : ∀ h ∈ feed.headers, s.videoCodec = h.codec ∧ s.videoSeq = h.payload
  muxer : ∀ m ∈ s.muxer, Configured feed m

variable {feed : Feed} {s : Session} {position : ℕ} {frame : AVFrame} {input : Input}

theorem Kept.closeSegment (h : Kept feed s) (failed : Bool) (storage : Storage) :
    Kept feed (s.closeSegment failed storage) := by
  unfold Session.closeSegment
  split
  · exact h
  next file hfile =>
    split
    · exact ⟨by simp [resetSegment], h.index⟩
    · exact ⟨by simp [resetSegment], forall_mem_concat h.index (h.file file hfile)⟩

theorem Kept.rotate (cfg : DVRConfig) (h : Kept feed s) (frame : AVFrame) (storage : Storage) :
    Kept feed (s.rotate cfg frame storage) := by
  unfold Session.rotate
  split
  · have hclosed := h.closeSegment false storage
    unfold Session.openSegment
    split
    · refine ⟨fun file hfile => ?_, hclosed.index⟩
      rw [← Option.some.inj hfile]
      exact holds_nil feed
    · exact ⟨hclosed.file, hclosed.index⟩
  · exact h

theorem Kept.append (h : Kept feed s) {m : Muxer} (hm : Configured feed m)
    (hlocated : frame.mediaType = .video → feed.log[position]? = some frame) (storage : Storage) :
    Kept feed (s.append position frame (m.writeFrame frame).2 storage) := by
  unfold Session.append
  split
  · exact ⟨h.file, h.index⟩
  next file hfile =>
    split
    · exact ⟨h.file, h.index⟩
    next hdata =>
      split
      · refine ⟨fun f hf => ?_, h.index⟩
        rw [← Option.some.inj hf]
        have hholds := (h.file file hfile).writeFrame hm
          (show ((position, frame) : ℕ × AVFrame).2.mediaType = .video →
            feed.log[position]? = some frame from hlocated)
        rwa [if_neg hdata] at hholds
      · exact h.closeSegment true storage

/-- What a session notes about its tracks stays the same while files change. -/
theorem rotate_tracks (cfg : DVRConfig) (s : Session) (frame : AVFrame) (storage : Storage) :
    (s.rotate cfg frame storage).videoCodec = s.videoCodec ∧
      (s.rotate cfg frame storage).videoSeq = s.videoSeq := by
  unfold Session.rotate Session.openSegment Session.closeSegment resetSegment
  repeat' split
  all_goals exact ⟨rfl, rfl⟩

theorem append_tracks (s : Session) (position : ℕ) (frame : AVFrame) (data : Bytes)
    (storage : Storage) :
    (s.append position frame data storage).videoCodec = s.videoCodec ∧
      (s.append position frame data storage).videoSeq = s.videoSeq ∧
      (s.append position frame data storage).muxer = s.muxer := by
  unfold Session.append Session.closeSegment resetSegment noteTimes
  repeat' split
  all_goals exact ⟨rfl, rfl, rfl⟩

theorem Prepared.currentMuxer (h : Prepared feed s) : Configured feed s.currentMuxer := by
  unfold Session.currentMuxer
  cases hmuxer : s.muxer with
  | some m => exact h.muxer m hmuxer
  | none =>
    intro header hheader
    obtain ⟨hcodec, hseq⟩ := h.header header hheader
    refine ⟨hcodec, ?_⟩
    show parameterSets s.videoCodec s.videoSeq = _
    rw [hcodec, hseq]

theorem Prepared.noteHeader (hsteady : feed.Steady) (h : Prepared feed s)
    (hheader : frame.frameType = .sequenceHeader)
    (hlocated : frame.mediaType = .video → feed.log[position]? = some frame) :
    Prepared feed (s.noteHeader frame) := by
  unfold Session.noteHeader
  split
  next hvideo =>
    refine ⟨fun g hg => ?_, h.muxer⟩
    have hmem : frame ∈ feed.headers := by
      refine List.mem_append_right _ (List.mem_filter.mpr ⟨?_, ?_⟩)
      · exact List.mem_of_getElem? (hlocated hvideo)
      · exact isVideoHeader_eq_true.mpr ⟨hvideo, hheader⟩
    exact hsteady.same frame hmem g hg
  · exact ⟨h.header, h.muxer⟩
  · exact h

theorem processFrame_keeps (hsteady : feed.Steady) (cfg : DVRConfig)
    (h : Kept feed s ∧ Prepared feed s)
    (hlocated : frame.mediaType = .video → feed.log[position]? = some frame) (storage : Storage) :
    Kept feed (s.processFrame cfg position frame storage) ∧
      Prepared feed (s.processFrame cfg position frame storage) := by
  obtain ⟨hkept, hprepared⟩ := h
  unfold processFrame
  split
  next hheader =>
    refine ⟨?_, hprepared.noteHeader hsteady hheader hlocated⟩
    unfold Session.noteHeader
    split <;> exact ⟨hkept.file, hkept.index⟩
  · dsimp only
    have hmuxer := hprepared.currentMuxer
    have hrotated := Kept.rotate cfg (show Kept feed { s with muxer := some s.currentMuxer } from
        ⟨hkept.file, hkept.index⟩) frame storage
    obtain ⟨hcodec, hseq⟩ := rotate_tracks cfg { s with muxer := some s.currentMuxer } frame storage
    generalize Session.rotate cfg { s with muxer := some s.currentMuxer } frame
      storage = rotated at hrotated hcodec hseq ⊢
    have hfile : Kept feed { rotated with muxer := some (s.currentMuxer.writeFrame frame).1 } :=
      ⟨hrotated.file, hrotated.index⟩
    obtain ⟨hcodec', hseq', hmuxer'⟩ := append_tracks
      { rotated with muxer := some (s.currentMuxer.writeFrame frame).1 }
      position frame (s.currentMuxer.writeFrame frame).2 storage
    refine ⟨hfile.append hmuxer hlocated storage, ?_, ?_⟩
    · intro header hheader
      rw [hcodec', hseq']
      rw [hcodec, hseq]
      exact hprepared.header header hheader
    · intro m hm
      rw [hmuxer'] at hm
      rw [← Option.some.inj hm]
      exact hmuxer.writeFrame frame

def Located (feed : Feed) (input : Input) : Prop :=
  input.frame.mediaType = .video → feed.log[input.position]? = some input.frame

theorem accept_keeps (hsteady : feed.Steady) (cfg : DVRConfig)
    (h : Kept feed s ∧ Prepared feed s) (hlocated : Located feed input) :
    Kept feed (s.accept cfg input) ∧ Prepared feed (s.accept cfg input) := by
  unfold accept
  split
  · exact processFrame_keeps hsteady cfg h hlocated input.storage
  · exact h

theorem accept_foldl_keeps (hsteady : feed.Steady) (cfg : DVRConfig) {inputs : List Input}
    (hinputs : ∀ input ∈ inputs, Located feed input) (h : Kept feed s ∧ Prepared feed s) :
    Kept feed (inputs.foldl (Session.accept cfg) s) ∧
      Prepared feed (inputs.foldl (Session.accept cfg) s) := by
  induction inputs generalizing s with
  | nil => exact h
  | cons input inputs ih =>
    refine ih (fun i hi => hinputs i (List.mem_cons_of_mem _ hi)) ?_
    exact accept_keeps hsteady cfg h (hinputs input List.mem_cons_self)

/-! ## Runs -/

theorem located_of_mem_inputsAt {positions : List (ℕ × Storage)}
    (h : input ∈ inputsAt feed positions) :
    Located feed input := by
  obtain ⟨p, -, hp⟩ := List.mem_filterMap.mp h
  obtain ⟨f, hf, rfl⟩ := Option.map_eq_some_iff.mp hp
  exact fun _ => hf

def SessionAction.LocatedIn (feed : Feed) : SessionAction → Prop
  | .start snapshot replay =>
    (∃ transcoder, snapshot = snapshotAt feed feed.log.length transcoder) ∧
      ∀ input ∈ replay, Located feed input
  | .frame input => Located feed input
  | _ => True

theorem prepared_configure (hsteady : feed.Steady) (hmuxer : s.muxer = none)
    (transcoder : Option Bytes) :
    Prepared feed (s.configure (snapshotAt feed feed.log.length transcoder)) := by
  constructor
  · intro h hh
    refine ⟨hsteady.codec h hh, ?_⟩
    show (((feed.startupAt feed.log.length).videoSeqHeader.map
      AVFrame.payload).getD s.videoSeq) = h.payload
    rw [Feed.startupAt_videoSeqHeader]
    cases hlast : feed.headerAt feed.log.length with
    | none =>
      rw [Feed.headerAt_length_eq_none.mp hlast] at hh
      simp at hh
    | some last =>
      exact (hsteady.same last (Feed.mem_headers_of_headerAt hlast) h hh).2
  · intro m hm
    have hnone : s.muxer = some m := hm
    rw [hmuxer] at hnone
    simp at hnone

namespace DVRFeed

/-- The session has kept everything; one that has not started has no muxer, and
one that has is prepared for the header of the feed. -/
structure Inv (s : DVRFeed) : Prop where
  steady : s.feed.Steady
  kept : Kept s.feed s.run.session
  idle : s.run.phase = .idle → s.run.session.muxer = none
  started : s.run.phase ≠ .idle → Prepared s.feed s.run.session

variable {s : DVRFeed} {cfg : DVRConfig} {a : DVRFeedAction} {action : SessionAction} {cursor : ℕ}

theorem Inv.write (h : s.Inv) {f : AVFrame} (hfits : s.Fits (.write f)) :
    Inv { s with feed := s.feed.write f } := by
  obtain ⟨hrepeats, hknown⟩ := hfits
  have hkept : Kept (s.feed.write f) s.run.session :=
    ⟨fun file hfile => (h.kept.file file hfile).write f,
      fun seg hseg => (h.kept.index seg hseg).write f⟩
  refine ⟨h.steady.write hrepeats, hkept, h.idle, fun hphase => ?_⟩
  have hprepared := h.started hphase
  refine ⟨fun g hg => ?_, fun m hm => (hprepared.muxer m hm).write hrepeats
    fun hheader => hknown hheader hphase⟩
  -- all headers are the same, and an old one is known
  obtain ⟨old, hold⟩ : ∃ old, old ∈ s.feed.headers := by
    rw [Feed.headers_write] at hg
    rcases List.mem_append.mp hg with hg | hg
    · exact ⟨g, hg⟩
    · split at hg
      next hheader => exact List.exists_mem_of_ne_nil _ (hknown hheader hphase)
      · simp at hg
  have hsame := (h.steady.write hrepeats).same old
    (by rw [Feed.headers_write]; exact List.mem_append_left _ hold) g hg
  obtain ⟨hcodec, hseq⟩ := hprepared.header old hold
  exact ⟨hcodec.trans hsame.1, hseq.trans hsame.2⟩

theorem locatedIn_of_input (h : s.input a = some (action, cursor)) : action.LocatedIn s.feed := by
  unfold input at h
  split at h
  · simp at h
  next transcoder _ replay =>
    split_ifs at h
    cases h
    exact ⟨⟨transcoder, rfl⟩, fun _ => located_of_mem_inputsAt⟩
  next storage =>
    obtain ⟨f, hf, heq⟩ := Option.map_eq_some_iff.mp h
    cases heq
    exact fun _ => hf
  next f storage =>
    split_ifs at h with haudio
    cases h
    intro hvideo
    rw [haudio] at hvideo
    simp at hvideo
  all_goals
    cases h
    trivial

theorem Inv.close (h : s.Inv) (hphase : s.run.phase = .running) (failed : Bool)
    (storage : Storage) (cursor : ℕ) :
    Inv { s with
      cursor
      run := ⟨.stopped, s.run.session.closeSegment failed storage⟩ } := by
  have hprepared := h.started (by simp [hphase])
  refine ⟨h.steady, h.kept.closeSegment failed storage, by simp, fun _ => ?_⟩
  unfold Session.closeSegment
  split
  · exact hprepared
  · split <;> exact ⟨hprepared.header, hprepared.muxer⟩

theorem Inv.run (h : s.Inv) {run : SessionRun}
    (haction : action.LocatedIn s.feed) (hrun : SessionRun.step cfg s.run action = some run) :
    Inv { s with cursor, run } := by
  unfold SessionRun.step at hrun
  split at hrun
  next snapshot replay hidle =>
    cases hrun
    obtain ⟨⟨transcoder, rfl⟩, hreplay⟩ := haction
    have hinputs : ∀ input ∈ (if (snapshotAt s.feed s.feed.log.length
        transcoder).transcodes then [] else replay), Located s.feed input := by
      split
      · simp
      · exact hreplay
    have hkept : Kept s.feed (s.run.session.configure
        (snapshotAt s.feed s.feed.log.length transcoder)) :=
      ⟨h.kept.file, h.kept.index⟩
    obtain ⟨hkept, hprepared⟩ := accept_foldl_keeps h.steady cfg hinputs
      ⟨hkept, prepared_configure h.steady (h.idle hidle) transcoder⟩
    exact ⟨h.steady, hkept, by simp, fun _ => hprepared⟩
  next input hphase =>
    cases hrun
    have hrunning : s.run.phase ≠ .idle := by simp [hphase]
    obtain ⟨hkept, hprepared⟩ := accept_keeps h.steady cfg ⟨h.kept, h.started hrunning⟩ haction
    exact ⟨h.steady, hkept, fun hidle => absurd hidle hrunning, fun _ => hprepared⟩
  next storage hphase =>
    cases hrun
    exact h.close hphase true storage cursor
  next storage hphase =>
    cases hrun
    exact h.close hphase false storage cursor
  · simp at hrun

theorem Inv.step {s' : DVRFeed} (h : s.Inv) (hfits : s.Fits a)
    (hstep : DVRFeed.step cfg s a = some s') :
    s'.Inv := by
  unfold DVRFeed.step at hstep
  split at hstep
  next f =>
    cases hstep
    exact h.write hfits
  · obtain ⟨⟨action, cursor⟩, hinput, hrest⟩ := Option.bind_eq_some_iff.mp hstep
    obtain ⟨run, hrun, hs'⟩ := Option.bind_eq_some_iff.mp hrest
    cases hs'
    exact h.run (locatedIn_of_input hinput) hrun

theorem current_of_run {info : Option MediaInfo} {acts : List DVRFeedAction}
    (hfits : StepsMeet DVRFeed.Fits (DVRFeed.step cfg) { feed := { info } } acts)
    (hrun : runFrom (DVRFeed.step cfg) { feed := { info } } acts = some s) :
    ∀ seg ∈ s.run.session.index, Current s.feed seg.data seg.placed := by
  have hempty : Kept { info } {} := ⟨by simp, by simp⟩
  have hinitial : Inv { feed := { info } } :=
    ⟨Feed.steady_initial info, hempty, fun _ => rfl, fun hphase => absurd rfl hphase⟩
  have hinv : s.Inv := @runFrom_invariant_of_stepsMeet _ _ _ Inv DVRFeed.Fits
    (fun _ _ _ h hf hs => h.step hf hs) _ _ _ hinitial hfits hrun
  intro seg hseg
  exact (hinv.kept.index seg hseg).current

end DVRFeed

/-! ## Both -/

/-- A publisher that only repeats its sequence header gets it in front of every
keyframe, live and recorded. -/
theorem keyframes_carry_current_sets (info : Option MediaInfo) (hls : HttpStream.HLSConfig)
    (hlsActs : List HttpStream.HLSFeedAction) (dvr : DVRConfig) (dvrActs : List DVRFeedAction) :
    (∀ s, StepsMeet HttpStream.HLSFeed.Fits (HttpStream.HLSFeed.step hls) { feed := { info } }
        hlsActs → runFrom (HttpStream.HLSFeed.step hls) { feed := { info } } hlsActs = some s →
      ∀ m ∈ s.run.worker.observed, ∀ seg ∈ m.segments, Current s.feed seg.data seg.placed) ∧
    ∀ s, StepsMeet DVRFeed.Fits (DVRFeed.step dvr) { feed := { info } } dvrActs →
      runFrom (DVRFeed.step dvr) { feed := { info } } dvrActs = some s →
        ∀ seg ∈ s.run.session.index, Current s.feed seg.data seg.placed :=
  ⟨fun _ => HttpStream.HLSFeed.current_of_run, fun _ => DVRFeed.current_of_run⟩

/-- A record with one parameter set of each kind. -/
def avcRecord (sps pps : Bytes) : Bytes :=
  [0x01, 0x64, 0x00, 0x1F, 0xFF, 0xE1] ++ be16Bytes sps.length ++ sps ++
    [0x01] ++ be16Bytes pps.length ++ pps

/-- The level tells the headers apart. -/
def avcHeader (level : UInt8) : AVFrame :=
  newAVFrame .video .h264 .sequenceHeader 0 0 (avcRecord [0x67, 0x64, 0x00, level] [0x68, 0xEE])

def idrAt (dts : ℤ) : AVFrame :=
  newAVFrame .video .h264 .keyframe dts dts [0x00, 0x00, 0x00, 0x02, 0x65, 0x88]

/-- A worker that starts behind the first keyframe, another header of this
level, and two more keyframes. -/
def hlsHeaders (level : UInt8) : List HttpStream.HLSFeedAction :=
  [.write (avcHeader 31), .write (idrAt 0), .start {} 2 [1],
    .write (avcHeader level), .write (idrAt 1000), .read, .read,
    .write (idrAt 2000), .read]

def dvrHeaders (level : UInt8) : List DVRFeedAction :=
  [.write (avcHeader 31), .write (idrAt 0), .start none 2 [(1, {})],
    .write (avcHeader level), .write (idrAt 1000), .read {}, .read {},
    .write (idrAt 2000), .read {}]

def fiveSegments : HttpStream.HLSConfig := ⟨5, fun ms => 6000 ≤ ms⟩

def oneSecond : DVRConfig := ⟨1000000000⟩

theorem keyframes_carry_current_sets_repeated :
    (∃ s, runFrom (HttpStream.HLSFeed.step fiveSegments)
        { feed := { info := none } } (hlsHeaders 31) = some s ∧
      (∃ m ∈ s.run.worker.observed, ∃ seg ∈ m.segments, (3, idrAt 1000) ∈ seg.placed) ∧
      ∀ m ∈ s.run.worker.observed, ∀ seg ∈ m.segments, Current s.feed seg.data seg.placed) ∧
    ∃ s, runFrom (DVRFeed.step oneSecond) { feed := { info := none } } (dvrHeaders 31) = some s ∧
      (∃ seg ∈ s.run.session.index, (3, idrAt 1000) ∈ seg.placed) ∧
      ∀ seg ∈ s.run.session.index, Current s.feed seg.data seg.placed := by
  have hcurrent :=
    keyframes_carry_current_sets none fiveSegments (hlsHeaders 31) oneSecond (dvrHeaders 31)
  refine ⟨⟨_, rfl, by decide, ?_⟩, _, rfl, by decide, ?_⟩
  · exact hcurrent.1 _ (by decide) rfl
  · exact hcurrent.2 _ (by decide) rfl

/-- A header with another level is nowhere in the segment of the keyframe behind
it. -/
theorem changed_header_not_carried :
    (∃ s, runFrom (HttpStream.HLSFeed.step fiveSegments)
        { feed := { info := none } } (hlsHeaders 40) = some s ∧
      s.feed.headerAt 3 = some (avcHeader 40) ∧
      ∃ m ∈ s.run.worker.observed, ∃ seg ∈ m.segments, (3, idrAt 1000) ∈ seg.placed ∧
        ¬ parameterSets .h264 (avcHeader 40).payload <:+: elementary pidVideo seg.data ∧
        ¬ Current s.feed seg.data seg.placed) ∧
    ∃ s, runFrom (DVRFeed.step oneSecond) { feed := { info := none } } (dvrHeaders 40) = some s ∧
      s.feed.headerAt 3 = some (avcHeader 40) ∧
      ∃ seg ∈ s.run.session.index, (3, idrAt 1000) ∈ seg.placed ∧
        ¬ parameterSets .h264 (avcHeader 40).payload <:+: elementary pidVideo seg.data ∧
        ¬ Current s.feed seg.data seg.placed := by
  -- the keyframe would have to be behind the sets of the header
  have hnot : ∀ (feed : Feed) (data : Bytes) (placed : List (ℕ × AVFrame)),
      feed.headerAt 3 = some (avcHeader 40) → (3, idrAt 1000) ∈ placed →
      ¬ parameterSets .h264 (avcHeader 40).payload <:+:
        elementary pidVideo data → ¬ Current feed data placed := by
    intro feed data placed hheader hplaced hsets hcurrent
    refine hsets (List.IsInfix.trans ?_ (hcurrent _ hplaced ⟨rfl, rfl⟩ (.inl rfl) _ hheader))
    exact (List.prefix_append _ _).isInfix
  constructor
  · refine exists_of_any (p := fun s =>
      s.feed.headerAt 3 = some (avcHeader 40) ∧
      ∃ m ∈ s.run.worker.observed, ∃ seg ∈ m.segments, (3, idrAt 1000) ∈ seg.placed ∧
        ¬ parameterSets .h264 (avcHeader 40).payload <:+:
          elementary pidVideo seg.data) (by decide +kernel) ?_
    rintro s ⟨hheader, m, hm, seg, hseg, hplaced, hsets⟩
    exact ⟨hheader, m, hm, seg, hseg, hplaced, hsets, hnot _ _ _ hheader hplaced hsets⟩
  · refine exists_of_any (p := fun s =>
      s.feed.headerAt 3 = some (avcHeader 40) ∧
      ∃ seg ∈ s.run.session.index, (3, idrAt 1000) ∈ seg.placed ∧
        ¬ parameterSets .h264 (avcHeader 40).payload <:+:
          elementary pidVideo seg.data) (by decide +kernel) ?_
    rintro s ⟨hheader, seg, hseg, hplaced, hsets⟩
    exact ⟨hheader, seg, hseg, hplaced, hsets, hnot _ _ _ hheader hplaced hsets⟩

end LiveForge.Dvr
