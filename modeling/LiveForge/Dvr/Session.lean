import LiveForge.Ts.Muxer

/-!
# DVR sessions

`session.go` of `module/dvr`.  A session writes the frames of a stream into
files of transport stream packets, and closes a file at a keyframe once it is
long enough, or at any audio frame if there is no video.  What the file system
does in the meantime is given with each frame.

A frame comes with the position it has in the stream, which is noted in the
segments and read by no step.  Names, wall-clock times and sizes of the files,
metrics and the last error are left out; a segment that cannot be finished is
kept under another name by the source and is not a segment here.
-/

namespace LiveForge.Dvr

open Support

/-! ## Files -/

/-- `placed` are the frames whose packets make up the data. -/
structure Segment where
  seqNum : ℕ
  startDTS : ℤ
  duration : ℤ
  data : Bytes
  placed : List (ℕ × AVFrame)

/-- What the file system does while a frame is processed: whether the old file
is synced, closed and published; how many names are taken; whether a new file
can be made, and whether the data can be written to it. -/
structure Storage where
  publishes : Bool := true
  taken : ℕ := 0
  opens : Bool := true
  writes : Bool := true

structure SegmentFile where
  data : Bytes := []
  placed : List (ℕ × AVFrame) := []

/-! ## Sessions -/

structure Session where
  muxer : Option Ts.Muxer := none
  segFile : Option SegmentFile := none
  segStartDTS : ℤ := -1
  lastDTS : ℤ := -1
  segSeqNum : ℕ := 0
  videoSeq : Bytes := []
  audioSeq : Bytes := []
  videoCodec : CodecType := .none
  audioCodec : CodecType := .none
  audioOnly : Bool := false
  allowUndeclaredTracks : Bool := false
  index : List Segment := []

def isDVRSupportedAudio (codec : CodecType) : Bool :=
  codec = .aac ∨ codec = .mp3

/-- The duration of segments, in nanoseconds. -/
structure DVRConfig where
  segmentDuration : ℤ

def nanosPerMilli : ℤ := 1000000

namespace Session

def frameAccepted (s : Session) (frame : AVFrame) : Bool :=
  let header := s.allowUndeclaredTracks &&
    decide (frame.frameType = .sequenceHeader)
  match frame.mediaType with
  | .video =>
    header || decide (s.videoCodec ≠ .none) &&
      decide (frame.codec = s.videoCodec)
  | .audio =>
    header || decide (s.audioCodec ≠ .none) &&
      decide (frame.codec = s.audioCodec)
  | .other => false

def resetSegment (s : Session) : Session :=
  { s with segFile := none, segStartDTS := -1, segSeqNum := s.segSeqNum + 1 }

def finishedSegment (s : Session) (file : SegmentFile) : Segment where
  seqNum := s.segSeqNum
  startDTS := s.segStartDTS
  duration :=
    if 0 ≤ s.segStartDTS ∧ s.segStartDTS < s.lastDTS then
      s.lastDTS - s.segStartDTS
    else 0
  data := file.data
  placed := file.placed

def closeSegment (s : Session) (failed : Bool) (storage : Storage) : Session :=
  match s.segFile with
  | none => s
  | some file =>
    if failed || !storage.publishes then s.resetSegment
    else { s with index := s.index ++ [s.finishedSegment file] }.resetSegment

def openSegment (s : Session) (storage : Storage) : Session :=
  let s := { s with segSeqNum := s.segSeqNum + storage.taken }
  if storage.opens then { s with segFile := some {}, segStartDTS := -1 } else s

def shouldSplit (cfg : DVRConfig) (s : Session) : Bool :=
  let dur := if cfg.segmentDuration ≤ 0 then 6000 * nanosPerMilli
    else cfg.segmentDuration
  decide (0 ≤ s.segStartDTS) &&
    decide (dur ≤ (s.lastDTS - s.segStartDTS) * nanosPerMilli)

def shouldRotate (cfg : DVRConfig) (s : Session) (frame : AVFrame) : Bool :=
  if s.audioOnly && frame.mediaType.isAudio then s.shouldSplit cfg
  else
    frame.mediaType.isVideo && frame.frameType.isKeyframe && s.shouldSplit cfg

/-- Sequence headers are only noted. -/
def noteHeader (s : Session) (frame : AVFrame) : Session :=
  match frame.mediaType with
  | .video => { s with videoSeq := frame.payload, videoCodec := frame.codec }
  | .audio => { s with audioSeq := frame.payload, audioCodec := frame.codec }
  | .other => s

/-- The muxer is made with the first frame. -/
def currentMuxer (s : Session) : Ts.Muxer :=
  s.muxer.getD (Ts.newMuxer s.videoCodec s.audioCodec s.videoSeq s.audioSeq)

def rotate (cfg : DVRConfig) (s : Session) (frame : AVFrame) (storage : Storage) : Session :=
  if s.segFile = none ∨ s.shouldRotate cfg frame = true then
    (s.closeSegment false storage).openSegment storage
  else s

def noteTimes (s : Session) (frame : AVFrame) : Session :=
  { s with
    segStartDTS := if s.segStartDTS < 0 then frame.dts else s.segStartDTS
    lastDTS := frame.dts }

def append (s : Session) (position : ℕ) (frame : AVFrame) (data : Bytes)
    (storage : Storage) : Session :=
  match s.segFile with
  | none => s.noteTimes frame
  | some file =>
    if data = [] then s.noteTimes frame
    else if storage.writes then
      { s with
        segFile := some
          { data := file.data ++ data
            placed := file.placed ++ [(position, frame)] } }.noteTimes frame
    else s.closeSegment true storage

def processFrame (cfg : DVRConfig) (s : Session) (position : ℕ)
    (frame : AVFrame) (storage : Storage) : Session :=
  if frame.frameType = .sequenceHeader then s.noteHeader frame
  else
    let muxer := s.currentMuxer
    let s := ({ s with muxer := some muxer } : Session).rotate cfg frame storage
    let written := muxer.writeFrame frame
    { s with muxer := some written.1 }.append position frame written.2 storage

end Session

/-! ## Runs -/

/-- What a session takes from a snapshot: codecs and sequence headers, whether
there is a publisher, and the sequence header of an audio transcoder if one can
be had. -/
structure DVRSnapshot where
  videoCodec : CodecType
  audioCodec : CodecType
  videoSequenceHeader : Option AVFrame
  audioSequenceHeader : Option AVFrame
  hasGeneration : Bool
  transcoder : Option Bytes

namespace DVRSnapshot

def transcodes (snapshot : DVRSnapshot) : Bool :=
  decide (snapshot.audioCodec ≠ .none) &&
    !isDVRSupportedAudio snapshot.audioCodec && snapshot.transcoder.isSome

/-- Without a transcoder audio that is not supported is left out. -/
def sessionAudioCodec (snapshot : DVRSnapshot) : CodecType :=
  if snapshot.audioCodec = .none ∨ isDVRSupportedAudio snapshot.audioCodec then
    snapshot.audioCodec
  else if snapshot.transcodes then .aac
  else .none

def sessionAudioSeq (snapshot : DVRSnapshot) : Bytes :=
  match snapshot.audioSequenceHeader.filter fun header =>
      header.codec = snapshot.sessionAudioCodec with
  | some header => header.payload
  | none => if snapshot.transcodes then snapshot.transcoder.getD [] else []

end DVRSnapshot

def Session.configure (s : Session) (snapshot : DVRSnapshot) : Session :=
  { s with
    videoCodec := snapshot.videoCodec
    audioCodec := snapshot.sessionAudioCodec
    audioOnly := decide (snapshot.videoCodec = .none)
    allowUndeclaredTracks := !snapshot.hasGeneration &&
      decide (snapshot.videoCodec = .none) &&
      decide (snapshot.audioCodec = .none)
    videoSeq := (snapshot.videoSequenceHeader.map AVFrame.payload).getD s.videoSeq
    audioSeq := snapshot.sessionAudioSeq }

/-- A frame at its position, with what the file system does. -/
structure Input where
  position : ℕ
  frame : AVFrame
  storage : Storage := {}

/-- A frame that is not of the tracks of the session is left out. -/
def Session.accept (cfg : DVRConfig) (s : Session) (input : Input) : Session :=
  if s.frameAccepted input.frame then
    s.processFrame cfg input.position input.frame input.storage
  else s

inductive SessionAction where
  | start (snapshot : DVRSnapshot) (replay : List Input)
  | frame (input : Input)
  | overwritten (storage : Storage)
  | stop (storage : Storage)

inductive SessionPhase where
  | idle
  | running
  | stopped
  deriving DecidableEq

structure SessionRun where
  phase : SessionPhase := .idle
  session : Session := {}

/-- The replay is left to the transcoder if there is one. -/
def SessionRun.step (cfg : DVRConfig) (r : SessionRun) (action : SessionAction) :
    Option SessionRun :=
  match r.phase, action with
  | .idle, .start snapshot replay =>
    some
      { phase := .running
        session := (if snapshot.transcodes then [] else replay).foldl
          (Session.accept cfg) (r.session.configure snapshot) }
  | .running, .frame input =>
    some { r with session := r.session.accept cfg input }
  | .running, .overwritten storage =>
    some { phase := .stopped, session := r.session.closeSegment true storage }
  | .running, .stop storage =>
    some { phase := .stopped, session := r.session.closeSegment false storage }
  | _, _ => none

end LiveForge.Dvr
