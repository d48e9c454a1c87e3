import LiveForge.HttpStream.Timing
import LiveForge.Ts.Muxer

/-!
# Low-latency HLS

`llhls_segmenter.go` and `llhls_manager.go` of `module/httpstream`.  The
segmenter cuts the frames into parts and the parts into segments, and hands both
to the manager, which keeps the parts of the segment that is still open and a
window of segments.  Both count the media sequence number on their own: the
manager by what it is handed, the segmenter when it completes a segment and when
it starts over after frames were overwritten.

The calls of the segmenter into the manager are synchronous.  Every state the
manager leaves behind at the end of a call can be seen by a client; `observed`
records them in order and is read by no step.  Neither is `muxed`, the times and
durations of the frames in the order they are muxed, with `none` for each new
start.  The manager also records the segments it evicted and the numbers whose
parts were discarded.  The number of segments to keep is not negative here.
Floating-point comparisons of elapsed times are given by the configuration.
-/

namespace LiveForge.HttpStream

open Support

/-! ## Parts and segments -/

structure LLHLSPart where
  index : ℕ
  duration : ℤ
  independent : Bool
  data : Bytes
  discontinuity : Bool
  initVersion : Option Fmp4.InitSegment := none

structure LLHLSSegment where
  msn : ℕ
  duration : ℤ
  parts : List LLHLSPart
  discontinuity : Bool
  initVersion : Option Fmp4.InitSegment := none

/-! ## The manager -/

/-- The version of an init segment stands for its content, so the segment
itself is taken for it. -/
structure LLHLSManager where
  segments : List LLHLSSegment := []
  currentParts : List LLHLSPart := []
  currentMSN : ℕ := 0
  initVersion : Option Fmp4.InitSegment := none
  initSegments : List Fmp4.InitSegment := []
  evicted : List LLHLSSegment := []
  discarded : List ℕ := []

namespace LLHLSManager

def retainedVersions (m : LLHLSManager) : List Fmp4.InitSegment :=
  m.initVersion.toList ++ m.segments.filterMap LLHLSSegment.initVersion ++
    m.currentParts.filterMap LLHLSPart.initVersion

def pruneInitSegmentsLocked (m : LLHLSManager) : LLHLSManager :=
  { m with
    initSegments := m.initSegments.filter fun v => v ∈ m.retainedVersions }

def onInit (m : LLHLSManager) (data : Fmp4.InitSegment) : LLHLSManager :=
  ({ m with
    initVersion := some data
    initSegments := m.initSegments ++ [data] } :
    LLHLSManager).pruneInitSegmentsLocked

def stamp (m : LLHLSManager) (part : LLHLSPart) : LLHLSPart :=
  { part with initVersion := m.initVersion }

def onPart (m : LLHLSManager) (part : LLHLSPart) : LLHLSManager :=
  { m with currentParts := m.currentParts ++ [m.stamp part] }

/-- The segment with its version; parts without one get it too. -/
def stampSegment (m : LLHLSManager) (seg : LLHLSSegment) : LLHLSSegment :=
  { seg with
    initVersion := m.initVersion
    parts := seg.parts.map fun part =>
      { part with initVersion := part.initVersion.or m.initVersion } }

def onSegment (segmentCount : ℕ) (m : LLHLSManager) (seg : LLHLSSegment) : LLHLSManager :=
  let segments := m.segments ++ [m.stampSegment seg]
  let excess := segments.length - segmentCount
  ({ m with
    segments := segments.drop excess
    currentParts := []
    currentMSN := seg.msn + 1
    evicted := m.evicted ++ segments.take excess } :
    LLHLSManager).pruneInitSegmentsLocked

def onDiscontinuity (m : LLHLSManager) : LLHLSManager :=
  ({ m with
    currentParts := []
    currentMSN := m.currentMSN + 1
    discarded :=
      if m.currentParts = [] then m.discarded
      else m.discarded ++ [m.currentMSN] } :
    LLHLSManager).pruneInitSegmentsLocked

/-! ### Requests -/

def hasContent (m : LLHLSManager) (targetMSN targetPart : ℕ) : Bool :=
  m.segments.any (fun seg => targetMSN ≤ seg.msn) || targetMSN < m.currentMSN ||
    m.currentMSN = targetMSN && targetPart < m.currentParts.length

/-- Without a version the current one is meant. -/
def getInitSegmentVersion (m : LLHLSManager) (version : Option Fmp4.InitSegment) :
    Option Fmp4.InitSegment :=
  version.elim m.initVersion fun v => m.initSegments.find? fun kept => kept = v

def getPartialSegment (m : LLHLSManager) (msn partIdx : ℕ) : Option Bytes :=
  match m.segments.find? fun seg => seg.msn = msn with
  | some seg => seg.parts[partIdx]?.map LLHLSPart.data
  | none =>
    if m.currentMSN = msn then m.currentParts[partIdx]?.map LLHLSPart.data
    else none

def getFullSegment (m : LLHLSManager) (msn : ℕ) : Option Bytes :=
  (m.segments.find? fun seg => seg.msn = msn).map fun seg =>
    (seg.parts.map LLHLSPart.data).flatten

end LLHLSManager

/-! ## Muxing parts -/

inductive Container where
  | fmp4
  | ts
  | other
  deriving DecidableEq

/-- The muxer of the container and what it holds of the current part. -/
inductive PartMuxer where
  | fmp4 (muxer : Fmp4.Muxer) (partFrames : List AVFrame)
  | ts (muxer : Ts.Muxer) (partBuf : Bytes)
  | none

namespace PartMuxer

def write (p : PartMuxer) (frame : AVFrame) : PartMuxer :=
  match p with
  | .fmp4 muxer partFrames => .fmp4 muxer (partFrames ++ [frame])
  | .ts muxer partBuf =>
    let written := muxer.writeFrame frame
    .ts written.1 (partBuf ++ written.2)
  | .none => .none

/-- The bytes of the part.  The tables are in front of a keyframe already, so
they are written for the other parts of a segment and for audio alone. -/
def take (p : PartMuxer) (writeTables : Bool) : PartMuxer × Bytes :=
  match p with
  | .fmp4 muxer partFrames =>
    if partFrames = [] then (p, [])
    else
      let written := muxer.writeSegment partFrames
      (.fmp4 written.1 [], written.2)
  | .ts muxer partBuf =>
    if partBuf = [] then (p, [])
    else if writeTables then
      let tables := muxer.writePATAndPMT
      (.ts tables.1 [], tables.2 ++ partBuf)
    else (.ts muxer [], partBuf)
  | .none => (p, [])

def discard : PartMuxer → PartMuxer
  | .fmp4 muxer _ => .fmp4 muxer []
  | .ts muxer _ => .ts muxer []
  | .none => .none

end PartMuxer

/-! ## The segmenter -/

/-- `partElapsed` and `segmentElapsed` say whether so many milliseconds reach
the duration of a part and of a segment; `partDuration` is the former. -/
structure LLHLSConfig where
  container : Container
  segmentCount : ℕ
  partDuration : ℤ
  partElapsed : ℤ → Bool
  segmentElapsed : ℤ → Bool

structure LLHLSSegmenter where
  muxer : PartMuxer := .none
  partStartDTS : ℤ := 0
  partHasData : Bool := false
  partIndependent : Bool := false
  partIdx : ℕ := 0
  partMediaClock : SegmentMediaClock := {}
  segParts : List LLHLSPart := []
  segStartDTS : ℤ := 0
  segMSN : ℕ := 0
  segHasData : Bool := false
  hasVideo : Bool := false
  gotFirstKeyframe : Bool := false
  audioPlan : MuxerAudioPlan := .none
  recoveryPending : Bool := false
  manager : LLHLSManager := {}
  observed : List LLHLSManager := [{}]
  muxed : List (Option (ℤ × ℤ)) := []

namespace LLHLSSegmenter

def callback (s : LLHLSSegmenter) (manager : LLHLSManager) : LLHLSSegmenter :=
  { s with manager, observed := s.observed ++ [manager] }

/-! ### Flushing -/

def newPart (s : LLHLSSegmenter) (stop : ℤ) (data : Bytes) : LLHLSPart where
  index := s.partIdx
  duration := s.partMediaClock.endAfter s.partStartDTS stop - s.partStartDTS
  independent := s.partIndependent
  data := data
  discontinuity := s.recoveryPending

def resetPart (s : LLHLSSegmenter) : LLHLSSegmenter :=
  { s with
    partHasData := false
    partIndependent := false
    partMediaClock := s.partMediaClock.reset }

/-- The manager and the segmenter share the part, with the version the manager
notes in it. -/
def handPart (s : LLHLSSegmenter) (part : LLHLSPart) : LLHLSSegmenter :=
  ({ s with
    segParts := s.segParts ++ [s.manager.stamp part]
    partIdx := s.partIdx + 1
    recoveryPending := false } : LLHLSSegmenter).callback
    (s.manager.onPart part)

def flushCurrentPart (s : LLHLSSegmenter) (stop : ℤ) : LLHLSSegmenter :=
  if s.partHasData = false then s
  else
    let taken := s.muxer.take (0 < s.partIdx ∨ s.hasVideo = false)
    let flushed := { s with muxer := taken.1 }.resetPart
    if taken.2 = [] then flushed
    else flushed.handPart (s.newPart stop taken.2)

def newSegment (s : LLHLSSegmenter) : LLHLSSegment where
  msn := s.segMSN
  duration := (s.segParts.map LLHLSPart.duration).sum
  parts := s.segParts
  discontinuity := s.segParts.any LLHLSPart.discontinuity

def flushCurrentSegment (cfg : LLHLSConfig) (s : LLHLSSegmenter) : LLHLSSegmenter :=
  if s.segParts = [] then s
  else
    ({ s with
      segMSN := s.segMSN + 1
      segParts := []
      partIdx := 0
      segHasData := false } : LLHLSSegmenter).callback
      (s.manager.onSegment cfg.segmentCount s.newSegment)

/-! ### Frames -/

def muxFrame (s : LLHLSSegmenter) (frame : AVFrame) : LLHLSSegmenter :=
  { s with
    partMediaClock := s.partMediaClock.observe frame
    muxer := s.muxer.write frame
    muxed := s.muxed ++
      [some (frame.dts, frameDurationMilliseconds frame s.partMediaClock.audioSampleRate)] }

def isKeyframe (frame : AVFrame) : Bool :=
  frame.mediaType.isVideo && frame.frameType.isKeyframe

/-- A keyframe ends a segment.  Without video, time does. -/
def endsSegment (cfg : LLHLSConfig) (s : LLHLSSegmenter) (frame : AVFrame) : Bool :=
  s.segHasData && (isKeyframe frame || !s.hasVideo && !frame.mediaType.isVideo &&
        cfg.segmentElapsed (frame.dts - s.segStartDTS))

def endsPart (cfg : LLHLSConfig) (s : LLHLSSegmenter) (frame : AVFrame) : Bool :=
  s.partHasData && cfg.partElapsed (frame.dts - s.partStartDTS)

/-- The first frame of a part and of a segment sets its start. -/
def openPart (s : LLHLSSegmenter) (frame : AVFrame) : LLHLSSegmenter :=
  let s :=
    if s.partHasData then s
    else
      { s with
        partStartDTS := frame.dts
        partHasData := true
        partIndependent := isKeyframe frame || !s.hasVideo && s.recoveryPending }
  if s.segHasData then s
  else { s with segStartDTS := frame.dts, segHasData := true }

/-- What the frame ends is handed over. -/
def endBefore (cfg : LLHLSConfig) (s : LLHLSSegmenter) (frame : AVFrame) : LLHLSSegmenter :=
  let s :=
    if s.endsSegment cfg frame then
      (s.flushCurrentPart frame.dts).flushCurrentSegment cfg
    else s
  if s.endsPart cfg frame then s.flushCurrentPart frame.dts else s

/-- Nothing is made before the first keyframe of the video. -/
def processFrame (cfg : LLHLSConfig) (s : LLHLSSegmenter) (frame : AVFrame) : LLHLSSegmenter :=
  if s.audioPlan.accepts frame = false then s
  else if s.gotFirstKeyframe = false ∧ s.hasVideo ∧ isKeyframe frame = false then s
  else
    let s := { s with gotFirstKeyframe := true }
    ((s.endBefore cfg frame).openPart frame).muxFrame frame

/-! ### Starting over -/

def discardCurrent (s : LLHLSSegmenter) : LLHLSSegmenter :=
  { s with
    muxer := s.muxer.discard
    partStartDTS := 0
    partHasData := false
    partIndependent := false
    partIdx := 0
    partMediaClock := s.partMediaClock.reset
    segParts := []
    segStartDTS := 0
    segHasData := false
    gotFirstKeyframe := !s.hasVideo
    muxed := s.muxed ++ [none] }

def beginRecovery (s : LLHLSSegmenter) : LLHLSSegmenter :=
  let s := s.discardCurrent
  if s.recoveryPending then s
  else
    ({ s with segMSN := s.segMSN + 1, recoveryPending := true } :
      LLHLSSegmenter).callback s.manager.onDiscontinuity

def audioSampleRate (setup : SegmentSetup) : ℤ :=
  let parsed := (parseAudioSeqHeader setup.audioSeqHeader).1
  if 0 < parsed then parsed
  else if setup.sampleRate ≤ 0 then 44100
  else setup.sampleRate

def audioChannels (setup : SegmentSetup) : ℤ :=
  let parsed := parseAudioSeqHeader setup.audioSeqHeader
  if 0 < parsed.1 then parsed.2 else 2

def initMuxerSnapshot (cfg : LLHLSConfig) (s : LLHLSSegmenter)
    (setup : SegmentSetup) : LLHLSSegmenter :=
  let hasVideo := s.hasVideo || setup.videoSequenceHeader.isSome
  let s :=
    { s with
      audioPlan := setup.audioPlan
      hasVideo
      partMediaClock :=
        { hasVideo, audioSampleRate := audioSampleRate setup } }
  match cfg.container with
  | .fmp4 =>
    let started :=
      (Fmp4.newMuxer setup.videoCodec setup.audioCodec).init
        setup.videoSequenceHeader setup.audioSeqHeader (audioSampleRate setup)
        (audioChannels setup)
    ({ s with muxer := .fmp4 started.1 [] } : LLHLSSegmenter).callback (s.manager.onInit started.2)
  | .ts =>
    { s with
      muxer := .ts (Ts.newMuxer setup.videoCodec setup.audioCodec
        setup.videoSeqData setup.audioSeqData) [] }
  | .other => s

end LLHLSSegmenter

/-! ## Runs -/

/-- What the run loop meets: the snapshot of the stream at the start with its
cached frames; a frame; overwritten frames, with a new snapshot unless the
generation is over; the end of the input while its generation goes on; the end
of everything; and the end without a generation to finish. -/
inductive LLHLSAction where
  | start (setup : SegmentSetup) (gopCache : List AVFrame)
  | frame (frame : AVFrame)
  | overwritten (setup : Option SegmentSetup)
  | producerEnd
  | finish
  | leave

def LLHLSAction.isRecovery : LLHLSAction → Bool
  | .overwritten _ => true
  | .producerEnd => true
  | _ => false

structure LLHLSRun where
  phase : SegmentPhase := .idle
  segmenter : LLHLSSegmenter := {}

namespace LLHLSRun

/-- The cached frames become a part, and the segment stays open. -/
def publishCached (cfg : LLHLSConfig) (gopCache : List AVFrame)
    (s : LLHLSSegmenter) : LLHLSSegmenter :=
  let s := (gopCache.filter fun f => f.frameType ≠ .sequenceHeader).foldl
    (LLHLSSegmenter.processFrame cfg) s
  if s.segHasData then s.flushCurrentPart s.partStartDTS else s

def flushAll (cfg : LLHLSConfig) (s : LLHLSSegmenter) : LLHLSSegmenter :=
  (s.flushCurrentPart s.partStartDTS).flushCurrentSegment cfg

def restart (cfg : LLHLSConfig) (setup : SegmentSetup) (s : LLHLSSegmenter) : LLHLSSegmenter :=
  let s := ({ s with hasVideo := false } : LLHLSSegmenter).initMuxerSnapshot cfg
    setup
  { s with gotFirstKeyframe := !s.hasVideo }

def step (cfg : LLHLSConfig) (r : LLHLSRun) (action : LLHLSAction) : Option LLHLSRun :=
  match r.phase, action with
  | .idle, .start setup gopCache =>
    some
      { phase := .running (cachedVideoEndDTS gopCache)
        segmenter :=
          publishCached cfg gopCache (r.segmenter.initMuxerSnapshot cfg setup) }
  | .running cachedEndDTS, .frame f =>
    if f.frameType = .sequenceHeader ∨
        isCachedTranscodeVideo f r.segmenter.audioPlan cachedEndDTS then some r
    else some { r with segmenter := r.segmenter.processFrame cfg f }
  | .running _, .overwritten (some setup) =>
    some { r with segmenter := restart cfg setup r.segmenter.beginRecovery }
  | .running _, .overwritten none =>
    some { phase := .stopped, segmenter := r.segmenter.beginRecovery }
  | .running _, .producerEnd =>
    some { phase := .stopped, segmenter := r.segmenter.beginRecovery }
  | .running _, .finish =>
    some { phase := .stopped, segmenter := flushAll cfg r.segmenter }
  | .running _, .leave => some { r with phase := .stopped }
  | _, _ => none

end LLHLSRun

end LiveForge.HttpStream
