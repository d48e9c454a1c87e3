import LiveForge.HttpStream.Timing

/-!
# DASH

`dash.go` and `dash_mpd.go` of `module/httpstream`.  The worker cuts the frames
at every keyframe, or by time if there is no video, and muxes the video and the
audio of each piece on their own.  The manager keeps the two lists of segments,
numbered together, and writes a manifest with a timeline for each list.

Durations are whole milliseconds.  Of the manifest only the timelines are
modelled; codecs, picture sizes, init segments and update periods are left out.
Every segment notes the interval it was cut from, which nothing reads, and the
worker the times of the keyframes it took and the states of its manager.
-/

namespace LiveForge.HttpStream

open Support

/-! ## The manager -/

/-- `startDTS` and `endDTS` are the interval the segment was cut from. -/
structure DASHSegment where
  seqNum : ℕ
  duration : ℤ
  data : Bytes
  startDTS : ℤ
  endDTS : ℤ
  duration_eq : duration = endDTS - startDTS

structure DASHManager where
  videoSegments : List DASHSegment := []
  audioSegments : List DASHSegment := []
  nextSeqNum : ℕ := 0
  dtsBase : Option ℤ := none
  timeBase : ℤ := 0
  hasVideo : Bool := false
  hasAudio : Bool := false
  retired : Bool := false

/-- `targetElapsed` says whether so many milliseconds reach the target, which
is not zero. -/
structure DASHConfig where
  maxSegments : ℤ
  targetElapsed : ℤ → Bool
  pos_of_targetElapsed : ∀ ms, targetElapsed ms = true → 0 < ms

/-- `NewDASHManager` has a default for a size that makes no sense, and a few
segments are kept beyond it. -/
def DASHConfig.keepCount (cfg : DASHConfig) : ℕ :=
  (if cfg.maxSegments ≤ 0 then 30 else cfg.maxSegments.toNat) + 5

namespace DASHManager

def totalDuration (segments : List DASHSegment) : ℤ :=
  (segments.map DASHSegment.duration).sum

/-- The video list is cut first and moves the start of the timelines.  The audio
list does so only without video. -/
def trim (keepCount : ℕ) (m : DASHManager) : DASHManager :=
  let videoExcess := m.videoSegments.length - keepCount
  let audioExcess := m.audioSegments.length - keepCount
  let videoSegments := m.videoSegments.drop videoExcess
  { m with
    videoSegments
    audioSegments := m.audioSegments.drop audioExcess
    timeBase := m.timeBase +
      totalDuration (m.videoSegments.take videoExcess) +
      if videoSegments = [] then
        totalDuration (m.audioSegments.take audioExcess)
      else 0 }

def segment (m : DASHManager) (startDTS endDTS : ℤ) (data : Bytes) : List DASHSegment :=
  if data = [] then []
  else
    [{ seqNum := m.nextSeqNum, duration := endDTS - startDTS, data
       startDTS, endDTS, duration_eq := rfl }]

/-- The critical section of `finalize`.  The number is used up also if there is
a segment for one list only. -/
def add (keepCount : ℕ) (m : DASHManager) (startDTS endDTS : ℤ)
    (videoData audioData : Bytes) : DASHManager :=
  ({ m with
    videoSegments := m.videoSegments ++ m.segment startDTS endDTS videoData
    audioSegments := m.audioSegments ++ m.segment startDTS endDTS audioData
    nextSeqNum := m.nextSeqNum + 1 } : DASHManager).trim keepCount

def find (segments : List DASHSegment) (seqNum : ℕ) : Option Bytes :=
  (segments.find? fun seg => seg.seqNum = seqNum).map DASHSegment.data

def getSegment (m : DASHManager) (seqNum : ℕ) : Option Bytes :=
  find m.videoSegments seqNum

def getAudioSegment (m : DASHManager) (seqNum : ℕ) : Option Bytes :=
  find m.audioSegments seqNum

end DASHManager

/-! ## Manifests -/

/-- An element `S`; only the first of a timeline has a start. -/
structure SElement where
  t : Option ℤ
  d : ℤ

structure AdaptationSet where
  startNumber : ℕ
  timeline : List SElement

structure MPD where
  video : Option AdaptationSet
  audio : Option AdaptationSet

def segmentTimeline (timeBase : ℤ) : List DASHSegment → List SElement
  | [] => []
  | first :: rest =>
    { t := some timeBase, d := first.duration } ::
      rest.map fun seg => { t := none, d := seg.duration }

/-- Numbers in URLs start from one. -/
def startNumber (segments : List DASHSegment) : ℕ :=
  (segments.head?.map fun seg => seg.seqNum + 1).getD 1

def DASHManager.generateMPD (m : DASHManager) : MPD where
  video :=
    if m.hasVideo ∨ m.videoSegments ≠ [] then
      some
        { startNumber := startNumber
            (if m.videoSegments = [] then m.audioSegments else m.videoSegments)
          timeline := segmentTimeline m.timeBase m.videoSegments }
    else none
  audio :=
    if m.hasAudio ∧ m.audioSegments ≠ [] then
      some
        { startNumber := startNumber m.audioSegments
          timeline := segmentTimeline m.timeBase m.audioSegments }
    else none

/-- What a client reads from a timeline: number, start and duration. -/
def readTimeline (number : ℕ) (time : ℤ) : List SElement → List (ℕ × ℤ × ℤ)
  | [] => []
  | s :: rest =>
    let start := s.t.getD time
    (number, start, s.d) :: readTimeline (number + 1) (start + s.d) rest

def AdaptationSet.entries (set : AdaptationSet) : List (ℕ × ℤ × ℤ) :=
  readTimeline set.startNumber 0 set.timeline

/-! ## The worker -/

structure DASHWorker where
  videoCodec : CodecType := .none
  audioPlan : MuxerAudioPlan := .none
  videoMuxer : Fmp4.Muxer := Fmp4.newMuxer .none .none
  audioMuxer : Option Fmp4.Muxer := none
  currentVideoFrames : List AVFrame := []
  currentAudioFrames : List AVFrame := []
  segStartDTS : ℤ := 0
  hasData : Bool := false
  gotFirstKeyframe : Bool := false
  mediaClock : SegmentMediaClock := {}
  keyframes : List ℤ := []
  manager : DASHManager := {}
  observed : List DASHManager := [{}]

namespace DASHWorker

def audioConfig (setup : SegmentSetup) : ℤ × ℤ :=
  let parsed := parseAudioSeqHeader setup.audioSeqHeader
  if 0 < parsed.1 then parsed else (44100, 2)

/-- `mpdAudio` is whether the manifest was made for audio, which may turn out
not to be there. -/
def configure (w : DASHWorker) (setup : SegmentSetup) (mpdAudio : Bool) : DASHWorker :=
  let manager :=
    { w.manager with
      hasVideo := setup.videoCodec.isVideo
      hasAudio := mpdAudio }
  { w with
    videoCodec := setup.videoCodec
    audioPlan := setup.audioPlan
    videoMuxer := ((Fmp4.newMuxer setup.videoCodec .none).init setup.videoSequenceHeader none 0 0).1
    audioMuxer :=
      if setup.audioCodec = .none then none
      else
        some ((Fmp4.newMuxer .none setup.audioCodec).init none
          setup.audioSeqHeader (audioConfig setup).1 (audioConfig setup).2).1
    gotFirstKeyframe := !setup.videoCodec.isVideo
    mediaClock :=
      { hasVideo := setup.videoCodec.isVideo
        audioSampleRate := (audioConfig setup).1 }
    manager
    observed := w.observed ++ [manager] }

def rebase (base : ℤ) (frame : AVFrame) : AVFrame :=
  { frame with dts := frame.dts - base, pts := frame.pts - base }

/-- Audio that lies before the end, and audio that is carried over. -/
def segAudio (w : DASHWorker) (endDTS : ℤ) : List AVFrame :=
  w.currentAudioFrames.filter fun f => f.dts < endDTS

def carryOver (w : DASHWorker) (endDTS : ℤ) : List AVFrame :=
  w.currentAudioFrames.filter fun f => endDTS ≤ f.dts

def isEmpty (w : DASHWorker) : Bool :=
  w.currentVideoFrames.isEmpty && w.currentAudioFrames.isEmpty

/-- The video of the piece; its muxer is left alone if there is none. -/
def cutVideo (w : DASHWorker) (base endDTS : ℤ) : Fmp4.Muxer × Bytes :=
  if w.currentVideoFrames = [] then (w.videoMuxer, [])
  else
    w.videoMuxer.writeSegmentUntil (w.currentVideoFrames.map (rebase base)) (endDTS - base)

def cutAudio (w : DASHWorker) (base endDTS : ℤ) : Option Fmp4.Muxer × Bytes :=
  match w.audioMuxer with
  | none => (none, [])
  | some muxer =>
    if w.segAudio endDTS = [] then (some muxer, [])
    else
      let written :=
        muxer.writeSegment ((w.segAudio endDTS).map (rebase base))
      (some written.1, written.2)

def pieceEnd (w : DASHWorker) (endDTS : ℤ) : ℤ :=
  w.mediaClock.endAfter w.segStartDTS endDTS

/-- The first piece sets the base of all times.  Audio that is carried over
stays for the next piece. -/
def finalize (cfg : DASHConfig) (w : DASHWorker) (endDTS : ℤ) : DASHWorker :=
  if w.isEmpty then w
  else
    let stop := w.pieceEnd endDTS
    let base := w.manager.dtsBase.getD w.segStartDTS
    let video := w.cutVideo base stop
    let audio := w.cutAudio base stop
    let manager := ({ w.manager with dtsBase := some base } : DASHManager).add
      cfg.keepCount w.segStartDTS stop video.2 audio.2
    { w with
      videoMuxer := video.1
      audioMuxer := audio.1
      manager
      observed := w.observed ++ [manager]
      currentVideoFrames := []
      currentAudioFrames := w.carryOver stop
      mediaClock := (w.carryOver stop).foldl SegmentMediaClock.observe
        w.mediaClock.reset }

def isKeyframe (frame : AVFrame) : Bool :=
  frame.mediaType.isVideo && frame.frameType.isKeyframe

/-- The frame is not one that is left out, and with video a keyframe came. -/
def wants (w : DASHWorker) (frame : AVFrame) : Bool :=
  decide (frame.frameType ≠ .sequenceHeader) && w.audioPlan.accepts frame &&
    (w.gotFirstKeyframe || isKeyframe frame)

/-- The frame joins the piece; the first one sets its start. -/
def take (w : DASHWorker) (frame : AVFrame) : DASHWorker :=
  { w with
    gotFirstKeyframe := true
    segStartDTS := if w.hasData then w.segStartDTS else frame.dts
    hasData := true
    currentVideoFrames :=
      if frame.mediaType.isVideo then w.currentVideoFrames ++ [frame]
      else w.currentVideoFrames
    currentAudioFrames :=
      if frame.mediaType.isAudio then w.currentAudioFrames ++ [frame]
      else w.currentAudioFrames
    mediaClock := w.mediaClock.observe frame
    keyframes :=
      if isKeyframe frame then w.keyframes ++ [frame.dts] else w.keyframes }

def addCached (w : DASHWorker) (frame : AVFrame) : DASHWorker :=
  if w.wants frame then w.take frame else w

def cutsByTime (cfg : DASHConfig) (w : DASHWorker) (frame : AVFrame) : Bool :=
  !w.videoCodec.isVideo && w.hasData && cfg.targetElapsed (frame.dts - w.segStartDTS)

def cutsAtKeyframe (w : DASHWorker) (frame : AVFrame) : Bool :=
  isKeyframe frame && w.hasData && !w.isEmpty

def cutAt (cfg : DASHConfig) (w : DASHWorker) (frame : AVFrame) : DASHWorker :=
  { w.finalize cfg frame.dts with segStartDTS := frame.dts }

def addLive (cfg : DASHConfig) (w : DASHWorker) (frame : AVFrame) : DASHWorker :=
  let w := if w.cutsByTime cfg frame then w.cutAt cfg frame else w
  let w := if w.cutsAtKeyframe frame then w.cutAt cfg frame else w
  w.take frame

/-- What is left of the piece is thrown away, and the manager is no longer
asked for more. -/
def retire (w : DASHWorker) : DASHWorker :=
  let manager := { w.manager with retired := true }
  { w with
    currentVideoFrames := []
    currentAudioFrames := []
    mediaClock := w.mediaClock.reset
    manager
    observed := w.observed ++ [manager] }

end DASHWorker

/-! ## Runs -/

/-- What the loop of a worker meets: a snapshot at the start with its replay; a
frame; overwritten frames or the end of the input while its generation goes on,
which retire the manager; the end of everything; and the end without a
generation to finish. -/
inductive DASHAction where
  | start (setup : SegmentSetup) (mpdAudio : Bool) (replay : List AVFrame)
  | frame (frame : AVFrame)
  | retire
  | finish
  | leave

structure DASHRun where
  phase : SegmentPhase := .idle
  worker : DASHWorker := {}

namespace DASHRun

def takes (cachedEndDTS : Option ℤ) (w : DASHWorker) (frame : AVFrame) : Bool :=
  !isCachedTranscodeVideo frame w.audioPlan cachedEndDTS && w.wants frame

def step (cfg : DASHConfig) (r : DASHRun) (action : DASHAction) : Option DASHRun :=
  match r.phase, action with
  | .idle, .start setup mpdAudio replay =>
    some
      { phase := .running (cachedVideoEndDTS replay)
        worker := replay.foldl DASHWorker.addCached
          (r.worker.configure setup mpdAudio) }
  | .running cachedEndDTS, .frame f =>
    if takes cachedEndDTS r.worker f then
      some { r with worker := r.worker.addLive cfg f }
    else some r
  | .running _, .retire =>
    some { phase := .stopped, worker := r.worker.retire }
  | .running _, .finish =>
    some
      { phase := .stopped
        worker := r.worker.finalize cfg r.worker.segStartDTS }
  | .running _, .leave => some { r with phase := .stopped }
  | _, _ => none

end DASHRun

end LiveForge.HttpStream
