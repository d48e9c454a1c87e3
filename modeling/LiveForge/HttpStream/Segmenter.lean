import LiveForge.Ring.Blocking
import LiveForge.Stream.Boundary

/-!
# Segmenters

HLS, LL-HLS and DASH cut the frames of one publisher generation into segments.
Their run loops get the frames from `readSegmentFrame` of
`module/httpstream/muxer_worker.go`.  Modelled are the loops with an input that
reads the source ring itself, cut into the steps at which they look at the
ring, at the boundary of the generation, at the context of the read and at the
stream; what they do with a frame in a segment is not.

Two fields record history and are read by no step: the frames that
`readSegmentFrame` returned and those added to a segment, each with the ring
position it was read from.
-/

namespace LiveForge.HttpStream

open LiveForge.Core LiveForge.Ring Support

/-! ## Audio plans -/

inductive MuxerAudioMode where
  | drop
  | passthrough
  | transcode
  deriving DecidableEq

structure MuxerAudioPlan where
  mode : MuxerAudioMode
  codec : CodecType

namespace MuxerAudioPlan

/-- The zero value of the source. -/
def none : MuxerAudioPlan := ⟨.drop, .none⟩

def hasAudio (p : MuxerAudioPlan) : Bool :=
  decide (p.mode ≠ .drop) && decide (p.codec ≠ .none)

def accepts (p : MuxerAudioPlan) (frame : AVFrame) : Bool :=
  !frame.mediaType.isAudio || p.hasAudio && decide (frame.codec = p.codec)

end MuxerAudioPlan

inductive SegmenterKind where
  | hls
  | llhls
  | dash
  deriving DecidableEq

/-- The format of the segments, the audio codecs it can carry, those that can
be transcoded to AAC, and whether the transcode manager gives out a reader. -/
structure SegmenterConfig where
  kind : SegmenterKind
  compatible : CodecType → Bool
  canTranscode : CodecType → Bool
  transcodeReader : Bool

def selectMuxerAudioSnapshot (cfg : SegmenterConfig)
    (snapshot : StreamStartupSnapshot) : MuxerAudioPlan :=
  let sourceCodec := snapshot.mediaInfo.audioCodec
  if sourceCodec = .none then .none
  else if cfg.compatible sourceCodec then ⟨.passthrough, sourceCodec⟩
  else if cfg.canTranscode sourceCodec then ⟨.transcode, .aac⟩
  else .none

/-- `muxerLiveReaderSnapshot` falls back to the source ring without audio. -/
def degrade (plan : MuxerAudioPlan) : MuxerAudioPlan :=
  if plan.mode = .transcode then .none else plan

def segmentInputSourceChanged (current refreshed : MuxerAudioPlan) : Bool :=
  decide (current.mode = .transcode) != decide (refreshed.mode = .transcode)

/-- LL-HLS takes any video sequence header, the others look at its codec. -/
def snapshotHasVideo (cfg : SegmenterConfig) (snapshot : StreamStartupSnapshot) : Bool :=
  match snapshot.videoSequenceHeader with
  | .none => false
  | some header => decide (cfg.kind = .llhls) || header.codec.isVideo

def cachedVideoEndDTS (frames : List AVFrame) : Option ℤ :=
  frames.foldl (fun latest frame =>
    if !frame.mediaType.isVideo || decide (frame.frameType = .sequenceHeader)
    then latest
    else
      match latest with
      | .none => some frame.dts
      | some dts => some (max dts frame.dts)) .none

def isCachedTranscodeVideo (frame : AVFrame) (plan : MuxerAudioPlan)
    (cachedEndDTS : Option ℤ) : Bool :=
  match cachedEndDTS with
  | .none => false
  | some dts =>
    decide (plan.mode = .transcode) && frame.mediaType.isVideo &&
      decide (frame.frameType ≠ .sequenceHeader) && decide (frame.dts ≤ dts)

/-! ## The run loop -/

inductive SegmentPc where
  | checkDone
  | checkEnd
  | drain (endCursor : ℕ)
  | blockingRead (pc : BlockingPc)
  | recheckEnd
  | gap
  | checkCurrent (current : StreamStartupSnapshot)
  | recover (current : StreamStartupSnapshot)
  | gotFrame (position : ℕ) (frame : AVFrame)
  | checkGone (position : ℕ) (frame : AVFrame)
  | addFrame (position : ℕ) (frame : AVFrame)
  | transcoded
  | stopped

structure Segmenter where
  instanceID : ℕ
  generation : ℕ
  generationBoundary : Option ℕ
  cachedEndDTS : Option ℤ
  selectedAudioPlan : MuxerAudioPlan
  audioPlan : MuxerAudioPlan
  hasVideo : Bool
  gotFirstKeyframe : Bool
  readCursor : ℕ
  readCancelled : Bool
  done : Bool
  pc : SegmentPc
  returned : List (ℕ × AVFrame)
  added : List (ℕ × AVFrame)

/-- A run loop with an input that reads the source ring from `readCursor` on. -/
def newSegmenter (cfg : SegmenterConfig) (snapshot : StreamStartupSnapshot)
    (readCursor : ℕ) : Segmenter :=
  let selected := selectMuxerAudioSnapshot cfg snapshot
  { instanceID := snapshot.streamInstanceID
    generation := snapshot.generation
    generationBoundary := snapshot.generationBoundary
    cachedEndDTS := cachedVideoEndDTS snapshot.replayFrames
    selectedAudioPlan := selected
    audioPlan := degrade selected
    hasVideo := snapshotHasVideo cfg snapshot
    gotFirstKeyframe := false
    readCursor := readCursor
    readCancelled := false
    done := false
    pc := .checkDone
    returned := []
    added := [] }

def isPublisherGeneration (s : Stream) (generation : ℕ) : Bool :=
  decide (s.state = .publishing) && decide (s.publisherGeneration = generation)

namespace Segmenter

def goto (pc : SegmentPc) (seg : Segmenter) : Segmenter := { seg with pc }

/-- The first part of `currentSegmentSnapshot`: a snapshot of the generation of
the segmenter. -/
def currentSegmentSnapshot (s : Stream) (seg : Segmenter) : Option StreamStartupSnapshot :=
  let current := s.startupSnapshot
  if current.ready = false ∨ current.streamInstanceID ≠ seg.instanceID ∨
      current.generation ≠ seg.generation then .none
  else some current

/-- `readSegmentFrame` returns what the ring gave it. -/
def returnRead (result : RingReadResult (Option AVFrame)) (readCursor : ℕ)
    (seg : Segmenter) : Segmenter :=
  let moved := { seg with readCursor }
  if 0 < result.overwritten then moved.goto .gap
  else
    match result.value with
    | .none => moved.goto .stopped
    | some frame =>
      { moved with
        returned := seg.returned ++ [(readCursor - 1, frame)]
        pc := .gotFrame (readCursor - 1) frame }

/-- Skip what was buffered, take the plan of the new snapshot, and open another
input if that asks for one. -/
def recoverWith (cfg : SegmenterConfig) (s : Stream)
    (current : StreamStartupSnapshot) (seg : Segmenter) : Segmenter :=
  let refreshed := selectMuxerAudioSnapshot cfg current
  let restarted : Segmenter :=
    { seg with
      readCursor := max seg.readCursor s.writeCursor
      selectedAudioPlan := refreshed
      audioPlan := refreshed
      hasVideo := snapshotHasVideo cfg current
      gotFirstKeyframe := false
      pc := .checkDone }
  if segmentInputSourceChanged seg.selectedAudioPlan refreshed then
    if decide (refreshed.mode = .transcode) && cfg.transcodeReader then
      restarted.goto .transcoded
    else
      { restarted with
        audioPlan := degrade refreshed
        readCursor := current.liveCursor
        readCancelled := false }
  else restarted

def wants (frame : AVFrame) (seg : Segmenter) : Bool :=
  decide (frame.frameType ≠ .sequenceHeader) && seg.audioPlan.accepts frame &&
    !isCachedTranscodeVideo frame seg.audioPlan seg.cachedEndDTS &&
    (seg.gotFirstKeyframe || !seg.hasVideo || frame.mediaType.isVideo && frame.frameType.isKeyframe)

def add (position : ℕ) (frame : AVFrame) (seg : Segmenter) : Segmenter :=
  { seg with
    gotFirstKeyframe := true
    added := seg.added ++ [(position, frame)] }

def step (cfg : SegmenterConfig) (s : Stream) (seg : Segmenter) : Option Segmenter :=
  let ended := s.generationEndCursor seg.generationBoundary
  match seg.pc with
  | .checkDone =>
    some (seg.goto (if seg.done then .stopped else .checkEnd))
  | .checkEnd =>
    match ended with
    | some endCursor =>
      if endCursor ≤ seg.readCursor then some (seg.goto .stopped)
      else some (seg.goto (.drain endCursor))
    | .none => some (seg.goto (.blockingRead .entry))
  | .drain endCursor =>
    let read := tryReadResult s.ringBuffer seg.readCursor
    if read.1.ok = false ∨ read.1.overwritten = 0 ∧ endCursor < read.2 then
      some { seg with readCursor := read.2, pc := .stopped }
    else some (seg.returnRead read.1 read.2)
  | .blockingRead pc =>
    match readResultContextStep s.ringBuffer seg.readCursor false
        seg.readCancelled pc with
    | .none => .none
    | some (.goto pc) => some (seg.goto (.blockingRead pc))
    | some (.returned result readCursor) =>
      if result.ok then some (seg.returnRead result readCursor)
      else some { seg with readCursor, pc := .recheckEnd }
  | .recheckEnd =>
    match ended with
    | some _ => some (seg.goto .checkEnd)
    | .none => some (seg.goto .stopped)
  | .gap =>
    match cfg.kind, seg.currentSegmentSnapshot s with
    | .dash, _ => some (seg.goto .stopped)
    | _, .none => some (seg.goto .stopped)
    | _, some current => some (seg.goto (.checkCurrent current))
  | .checkCurrent current =>
    if isPublisherGeneration s seg.generation then
      some (seg.goto (.recover current))
    else some (seg.goto .stopped)
  | .recover current => some (seg.recoverWith cfg s current)
  | .gotFrame position frame =>
    if isPublisherGeneration s seg.generation then
      some (seg.goto (.addFrame position frame))
    else some (seg.goto (.checkGone position frame))
  | .checkGone position frame =>
    match ended with
    | some _ => some (seg.goto (.addFrame position frame))
    | .none => some (seg.goto .stopped)
  | .addFrame position frame =>
    if seg.wants frame then
      some ((seg.add position frame).goto .checkDone)
    else some (seg.goto .checkDone)
  | .transcoded => .none
  | .stopped => .none

/-- The context of the reads is cancelled once the manager stops or the
generation is over. -/
def cancelRead (s : Stream) (seg : Segmenter) : Option Segmenter :=
  if seg.readCancelled = false ∧ (seg.done = true ∨
      (s.generationEndCursor seg.generationBoundary).isSome) then
    some { seg with readCancelled := true }
  else .none

end Segmenter

/-! ## The system -/

/-- A stream and one segmenter on it.  Segmenters do not change the stream, so
another one would make no difference. -/
structure SegmentSystem where
  trace : StreamTrace
  segmenter : Option Segmenter

inductive SegmentAction where
  | stream (a : StreamAction)
  | start (readCursor : ℕ)
  | loop
  | cancelRead
  | stop

namespace SegmentSystem

def initial (key : String) (instanceID : ℕ) (cfg : StreamConfig)
    (limits : LimitsConfig) : SegmentSystem :=
  ⟨StreamTrace.initial key instanceID cfg limits, .none⟩

/-- The segmenter starts with a snapshot of a generation that is ready.  Its
input is opened at the live cursor; a reader that starts further back is
allowed, too. -/
def step (cfg : SegmenterConfig) (s : SegmentSystem) : SegmentAction → Option SegmentSystem
  | .stream a => (s.trace.step a).map fun trace => { s with trace }
  | .start readCursor =>
    let snapshot := s.trace.stream.startupSnapshot
    if s.segmenter.isNone ∧ s.trace.stream.startupAvailable = true ∧
        readCursor ≤ snapshot.liveCursor then
      some { s with segmenter := newSegmenter cfg snapshot readCursor }
    else .none
  | .loop =>
    (s.segmenter.bind (Segmenter.step cfg s.trace.stream)).map fun seg =>
      { s with segmenter := some seg }
  | .cancelRead =>
    (s.segmenter.bind (Segmenter.cancelRead s.trace.stream)).map fun seg =>
      { s with segmenter := some seg }
  | .stop =>
    s.segmenter.map fun seg =>
      { s with segmenter := some { seg with done := true } }

end SegmentSystem

end LiveForge.HttpStream
