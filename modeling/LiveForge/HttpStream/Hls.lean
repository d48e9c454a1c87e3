import LiveForge.HttpStream.Playlist
import LiveForge.Support.SlidingWindow

/-!
# HLS

`hls.go` of `module/httpstream`.  The worker muxes the frames into a buffer and
cuts it at every keyframe, or by time if there is no video.  The manager keeps a
window of the segments.

A frame comes with the position it has in the stream.  Positions are read by no
step; with the frames they belong to they are noted in the segments, as are the
states of the manager and the segments it evicted.  Durations are whole
milliseconds, and whether a segment without video is long enough is given by the
configuration.
-/

namespace LiveForge.HttpStream

open Support

/-! ## The manager -/

/-- `placed` are the frames whose packets make up the data. -/
structure HLSSegment where
  seqNum : ℕ
  duration : ℤ
  data : Bytes
  discontinuity : Bool
  placed : List (ℕ × AVFrame)

structure HLSManager where
  segments : List HLSSegment := []
  nextSeqNum : ℕ := 0
  evicted : List HLSSegment := []

/-- `targetElapsed` says whether so many milliseconds reach the target. -/
structure HLSConfig where
  maxSegments : ℤ
  targetElapsed : ℤ → Bool

/-- `NewHLSManager` has a default for a size that makes no sense. -/
def HLSConfig.windowSize (cfg : HLSConfig) : ℕ :=
  if cfg.maxSegments ≤ 0 then 5 else cfg.maxSegments.toNat

namespace HLSManager

def window (m : HLSManager) : Window HLSSegment := ⟨m.evicted, m.segments⟩

/-- The critical section of `finalize`. -/
def add (maxSegments : ℕ) (m : HLSManager) (seg : HLSSegment) : HLSManager :=
  let moved := m.window.push maxSegments seg
  { segments := moved.kept
    nextSeqNum := m.nextSeqNum + 1
    evicted := moved.evicted }

def segmentLines (seg : HLSSegment) : List PlaylistLine :=
  (if seg.discontinuity then [.discontinuity] else []) ++
    [.extinf seg.duration, .segment seg.seqNum]

def generateM3U8 (m : HLSManager) : List PlaylistLine :=
  .mediaSequence ((m.segments.head?.map HLSSegment.seqNum).getD 0) ::
    m.segments.flatMap segmentLines

end HLSManager

/-! ## The worker -/

structure HLSWorker where
  videoCodec : CodecType := .none
  audioPlan : MuxerAudioPlan := .none
  muxer : Ts.Muxer := Ts.newMuxer .none .none [] []
  buf : Bytes := []
  placed : List (ℕ × AVFrame) := []
  segStartDTS : ℤ := 0
  hasData : Bool := false
  gotFirstKeyframe : Bool := false
  mediaClock : SegmentMediaClock := {}
  recoveryPending : Bool := false
  manager : HLSManager := {}
  observed : List HLSManager := [{}]

namespace HLSWorker

def sampleRate (setup : SegmentSetup) : ℤ :=
  let parsed := (parseAudioSeqHeader setup.audioSequenceHeader).1
  if 0 < parsed then parsed else setup.sampleRate

/-- The closure `initialize`. -/
def configure (w : HLSWorker) (setup : SegmentSetup) : HLSWorker :=
  { w with
    videoCodec := setup.videoCodec
    audioPlan := setup.audioPlan
    muxer := Ts.newMuxer setup.videoCodec setup.audioCodec setup.videoSeqData
      setup.audioSeqData
    gotFirstKeyframe := !setup.videoCodec.isVideo
    mediaClock :=
      { hasVideo := setup.videoCodec.isVideo
        audioSampleRate := sampleRate setup } }

def discardPartial (w : HLSWorker) : HLSWorker :=
  { w with
    buf := []
    placed := []
    segStartDTS := 0
    hasData := false
    gotFirstKeyframe := !w.videoCodec.isVideo
    mediaClock := w.mediaClock.reset }

def segment (w : HLSWorker) (endDTS : ℤ) : HLSSegment where
  seqNum := w.manager.nextSeqNum
  duration := w.mediaClock.endAfter w.segStartDTS endDTS - w.segStartDTS
  data := w.buf
  discontinuity := w.recoveryPending
  placed := w.placed

def finalize (cfg : HLSConfig) (w : HLSWorker) (endDTS : ℤ) : HLSWorker :=
  if w.buf = [] then w
  else
    let manager := w.manager.add cfg.windowSize (w.segment endDTS)
    { w with
      manager
      observed := w.observed ++ [manager]
      buf := []
      placed := []
      mediaClock := w.mediaClock.reset
      recoveryPending := false }

def openSegment (w : HLSWorker) (frame : AVFrame) : HLSWorker :=
  if w.hasData then w else { w with segStartDTS := frame.dts, hasData := true }

def write (w : HLSWorker) (position : ℕ) (frame : AVFrame) : HLSWorker :=
  let written := w.muxer.writeFrame frame
  { w with
    muxer := written.1
    buf := w.buf ++ written.2
    placed :=
      if written.2 = [] then w.placed else w.placed ++ [(position, frame)]
    mediaClock := w.mediaClock.observe frame }

def isKeyframe (frame : AVFrame) : Bool :=
  frame.mediaType.isVideo && frame.frameType.isKeyframe

/-- The frame is not one that is left out, and with video a keyframe came. -/
def wants (w : HLSWorker) (frame : AVFrame) : Bool :=
  decide (frame.frameType ≠ .sequenceHeader) && w.audioPlan.accepts frame &&
    (w.gotFirstKeyframe || isKeyframe frame)

/-- A frame of the replay; all of them go into the first segment. -/
def addCached (w : HLSWorker) (cached : ℕ × AVFrame) : HLSWorker :=
  if w.wants cached.2 then
    (({ w with gotFirstKeyframe := true } : HLSWorker).openSegment cached.2).write cached.1 cached.2
  else w

/-- Time cuts a segment without video. -/
def cutByTime (cfg : HLSConfig) (w : HLSWorker) (frame : AVFrame) : HLSWorker :=
  if w.videoCodec.isVideo = false ∧ w.hasData = true ∧
      cfg.targetElapsed (frame.dts - w.segStartDTS) = true then
    { w.finalize cfg frame.dts with segStartDTS := frame.dts }
  else w

def cutAtKeyframe (cfg : HLSConfig) (w : HLSWorker) (frame : AVFrame) : HLSWorker :=
  if isKeyframe frame = true ∧ w.hasData = true ∧ w.buf ≠ [] then
    { w.finalize cfg frame.dts with segStartDTS := frame.dts }
  else w

/-- A segment without video starts with the tables. -/
def writeTables (w : HLSWorker) : HLSWorker :=
  if w.videoCodec.isVideo = false ∧ w.buf = [] then
    let tables := w.muxer.writePATAndPMT
    { w with muxer := tables.1, buf := tables.2 }
  else w

def addLive (cfg : HLSConfig) (w : HLSWorker) (position : ℕ) (frame : AVFrame) : HLSWorker :=
  let w := ({ w with gotFirstKeyframe := true } : HLSWorker).cutByTime cfg frame
  let w := w.cutAtKeyframe cfg frame
  (w.openSegment frame).writeTables.write position frame

end HLSWorker

/-! ## Runs -/

/-- What the loop of a worker meets: a snapshot at the start with its replay; a
frame; overwritten frames, with a new snapshot unless the generation is over;
the end of the input while its generation goes on; the end of everything; and
the end without a generation to finish. -/
inductive HLSAction where
  | start (setup : SegmentSetup) (replay : List (ℕ × AVFrame))
  | frame (position : ℕ) (frame : AVFrame)
  | overwritten (setup : Option SegmentSetup)
  | producerEnd
  | finish
  | leave

structure HLSRun where
  phase : SegmentPhase := .idle
  worker : HLSWorker := {}

namespace HLSRun

def step (cfg : HLSConfig) (r : HLSRun) (action : HLSAction) : Option HLSRun :=
  match r.phase, action with
  | .idle, .start setup replay =>
    some
      { phase := .running (cachedVideoEndDTS (replay.map Prod.snd))
        worker := replay.foldl HLSWorker.addCached (r.worker.configure setup) }
  | .running cachedEndDTS, .frame position f =>
    if isCachedTranscodeVideo f r.worker.audioPlan cachedEndDTS = false ∧
        r.worker.wants f = true then
      some { r with worker := r.worker.addLive cfg position f }
    else some r
  | .running _, .overwritten (some setup) =>
    some
      { r with
        worker :=
          { r.worker.discardPartial.configure setup with
            recoveryPending := true } }
  | .running _, .overwritten none =>
    some { phase := .stopped, worker := r.worker.discardPartial }
  | .running _, .producerEnd =>
    some { phase := .stopped, worker := r.worker.discardPartial }
  | .running _, .finish =>
    some
      { phase := .stopped
        worker := r.worker.finalize cfg r.worker.segStartDTS }
  | .running _, .leave => some { r with phase := .stopped }
  | _, _ => none

end HLSRun

end LiveForge.HttpStream
