import LiveForge.Stream.Gop
import Mathlib.Data.List.AList

/-!
# The parts of a stream

`core/stream.go` keeps the whole state of a stream in one record, guarded by
two mutexes.  The fields fall into groups that different methods change:
statistics, startup information, publisher generations, timers and
subscribers.  Each group is a structure of its own here, with the parts of the
methods that concern only it; `Stream.State` puts them together.

Every reading of the clock is an input.
-/

namespace LiveForge.Core

structure LimitsConfig where
  maxStreams : ℤ
  maxSubscribersPerStream : ℤ
  maxBitratePerStream : ℤ
  deriving DecidableEq

inductive StreamState where
  | idle
  | waitingPull
  | publishing
  | noPublisher
  | destroying
  deriving DecidableEq

/-- A publisher object.  `identity` stands for the object itself in the
comparison of two interface values; it is missing when the dynamic type cannot
be compared.  The nil publisher is `none` of `Option Publisher`. -/
structure Publisher where
  id : String
  identity : Option ℕ
  mediaInfo : Option MediaInfo
  deriving DecidableEq

def samePublisher (left right : Publisher) : Bool :=
  match left.identity, right.identity with
  | some a, some b => a == b
  | _, _ => false

/-! ## Statistics and the bitrate limit -/

/-- Times are nanoseconds of the wall clock. -/
structure StreamStats where
  bytesIn : ℤ
  videoFrames : ℤ
  audioFrames : ℤ
  startTime : ℤ
  windowBytes : ℤ
  windowVideo : ℤ
  windowStart : ℤ
  snapBytes : ℤ
  snapVideo : ℤ
  snapTime : ℤ

namespace StreamStats

def zero : StreamStats := ⟨0, 0, 0, 0, 0, 0, 0, 0, 0, 0⟩

def initStats (now : ℤ) (s : StreamStats) : StreamStats :=
  { s with
    startTime := now
    windowStart := now
    snapTime := now
    windowBytes := 0
    windowVideo := 0
    snapBytes := 0
    snapVideo := 0 }

def recordFrame (payloadSize : ℤ) (isVideo : Bool) (s : StreamStats) : StreamStats :=
  { s with
    bytesIn := s.bytesIn + payloadSize
    videoFrames := if isVideo then s.videoFrames + 1 else s.videoFrames
    audioFrames := if isVideo then s.audioFrames else s.audioFrames + 1
    windowBytes := s.windowBytes + payloadSize
    windowVideo := if isVideo then s.windowVideo + 1 else s.windowVideo }

def statsWindowDuration : ℤ := 2000000000

def kbps (bytes elapsed : ℤ) : ℤ :=
  let ms := elapsed.tdiv nanosPerMilli
  if 0 < ms then (bytes * 8).tdiv ms else 0

/-- The bitrate of `snapshot`, and the window rotation it may cause. -/
def snapshot (now : ℤ) (s : StreamStats) : ℤ × StreamStats :=
  let windowElapsed := now - s.windowStart
  if statsWindowDuration ≤ windowElapsed then
    (kbps s.windowBytes windowElapsed,
      { s with
        snapBytes := s.windowBytes
        snapVideo := s.windowVideo
        windowBytes := 0
        windowVideo := 0
        snapTime := s.windowStart
        windowStart := now })
  else if s.snapTime ≠ s.startTime ∨ 0 < windowElapsed then
    (kbps (s.snapBytes + s.windowBytes) (now - s.snapTime), s)
  else (kbps s.bytesIn (now - s.startTime), s)

end StreamStats

structure RateState where
  stats : StreamStats
  bitrateLimitKbps : ℤ
  bitrateLimitCheckedAt : ℤ
  bitrateLimitCheckedBytes : ℤ

namespace RateState

def initial : RateState := ⟨StreamStats.zero, 0, 0, 0⟩

/-- A new publisher restarts the window and empties the cache. -/
def restart (now : ℤ) (r : RateState) : RateState :=
  { stats := r.stats.initStats now
    bitrateLimitKbps := 0
    bitrateLimitCheckedAt := 0
    bitrateLimitCheckedBytes := 0 }

def refreshInterval : ℤ := 100 * nanosPerMilli

def refreshBytes : ℤ := 64 * 1024

/-- The two clock readings of one bitrate check. -/
structure Clock where
  now : ℤ
  snapshotNow : ℤ
  deriving DecidableEq

def bitrateLimitExceeded (clock : Clock) (maxKbps : ℤ) (r : RateState) : Bool × RateState :=
  let last := r.bitrateLimitCheckedAt
  let bytes := r.stats.bytesIn
  let refreshed :=
    if last = 0 ∨ refreshInterval ≤ clock.now - last ∨
        refreshBytes ≤ bytes - r.bitrateLimitCheckedBytes then
      let snap := r.stats.snapshot clock.snapshotNow
      { stats := snap.2
        bitrateLimitKbps := snap.1
        bitrateLimitCheckedAt := clock.now
        bitrateLimitCheckedBytes := bytes }
    else r
  (decide (maxKbps < refreshed.bitrateLimitKbps), refreshed)

/-- The check of `writeFrameLocked`; sequence headers are never rejected. -/
def admits (clock : Clock) (limits : LimitsConfig) (frame : AVFrame)
    (r : RateState) : Bool × RateState :=
  if 0 < limits.maxBitratePerStream ∧ frame.isMedia then
    let checked := r.bitrateLimitExceeded clock limits.maxBitratePerStream
    (!checked.1, checked.2)
  else (true, r)

def recordFrame (frame : AVFrame) (r : RateState) : RateState :=
  { r with
    stats := r.stats.recordFrame frame.payload.length frame.mediaType.isVideo }

end RateState

/-! ## Startup information -/

/-- `startupStateChanged` counts how often the channel of that name was closed
and replaced; `seqHeaderReady` tells whether that channel is closed. -/
structure StartupState where
  videoSeqHeader : Option AVFrame
  audioSeqHeader : Option AVFrame
  seqHeaderReady : Bool
  mediaInfo : MediaInfo
  audioCodecEpoch : ℕ
  startupStateChanged : ℕ
  startupReady : Bool

def trackReady (codec : CodecType) (hasSequenceHeader : Bool) : Bool :=
  match codec with
  | .h264 | .h265 | .aac => hasSequenceHeader
  | .mp3 | .g711a | .g711u | .g722 | .g729 | .av1 | .vp8 | .vp9 | .opus => true
  | .none | .speex | .other => false

namespace StartupState

def initial : StartupState :=
  { videoSeqHeader := none
    audioSeqHeader := none
    seqHeaderReady := false
    mediaInfo := {}
    audioCodecEpoch := 0
    startupStateChanged := 0
    startupReady := false }

def signal (s : StartupState) : StartupState :=
  { s with startupStateChanged := s.startupStateChanged + 1 }

def computeReady (s : StartupState) : Bool :=
  let videoReady := decide (s.mediaInfo.videoCodec = .none) ||
    trackReady s.mediaInfo.videoCodec
      (s.videoSeqHeader.isSome || !s.mediaInfo.videoSequenceHeader.isEmpty)
  let audioReady := decide (s.mediaInfo.audioCodec = .none) ||
    trackReady s.mediaInfo.audioCodec
      (s.audioSeqHeader.isSome || !s.mediaInfo.audioSequenceHeader.isEmpty)
  let hasTrack := decide (s.mediaInfo.videoCodec ≠ .none) ||
    decide (s.mediaInfo.audioCodec ≠ .none)
  videoReady && audioReady && hasTrack

def updateStartupReady (s : StartupState) : StartupState :=
  let ready := s.computeReady
  if ready = s.startupReady then s
  else { s with startupReady := ready }.signal

/-- The stream is no longer ready, and waiters are told. -/
def lose (s : StartupState) : StartupState :=
  { s with startupReady := false }.signal

def seqHeaderFrame (mediaType : MediaType) (codec : CodecType)
    (payload : Bytes) : Option AVFrame :=
  if payload ≠ [] ∧ codec ≠ .none then
    some (newAVFrame mediaType codec .sequenceHeader 0 0 payload)
  else none

/-- `mergePublisherMediaInfoLocked`, called on freshly reset information. -/
def mergePublisherMediaInfo (info : Option MediaInfo) (s : StartupState) : StartupState :=
  match info with
  | none => s
  | some info =>
    let video :=
      seqHeaderFrame .video info.videoCodec info.videoSequenceHeader
    let audio :=
      seqHeaderFrame .audio info.audioCodec info.audioSequenceHeader
    { s with
      mediaInfo := info
      videoSeqHeader := video
      audioSeqHeader := audio
      seqHeaderReady := video.isSome || audio.isSome }

def markSource (epoch : ℕ) (frame : AVFrame) : AVFrame :=
  { frame with audioCodecEpoch := epoch, audioProvenance := .source }

/-- A new publisher: forget the previous generation, take what the publisher
announces, and wake the waiters. -/
def restart (info : Option MediaInfo) (s : StartupState) : StartupState :=
  let merged := mergePublisherMediaInfo info
    { initial with startupStateChanged := s.startupStateChanged }
  let started :=
    if merged.mediaInfo.audioCodec ≠ .none then
      { merged with
        audioCodecEpoch := 1
        audioSeqHeader := merged.audioSeqHeader.map (markSource 1) }
    else merged
  { started with startupReady := started.computeReady }.signal

/-- What `writeFrameLocked` learns from the codec of a frame. -/
def noteCodec (frame : AVFrame) (s : StartupState) : StartupState :=
  if frame.mediaType.isVideo then
    { s with mediaInfo := { s.mediaInfo with videoCodec := frame.codec } }
  else if frame.mediaType.isAudio then
    let info := { s.mediaInfo with audioCodec := frame.codec }
    { s with
      audioCodecEpoch :=
        if s.audioCodecEpoch = 0 ∨ s.mediaInfo.audioCodec ≠ frame.codec then
          s.audioCodecEpoch + 1
        else s.audioCodecEpoch
      mediaInfo :=
        match frame.codec with
        | .g711a | .g711u => { info with sampleRate := 8000, channels := 1 }
        | _ => info }
  else s

/-- The frame as it is published: an audio frame carries the epoch of its
codec. -/
def annotate (frame : AVFrame) (s : StartupState) : AVFrame :=
  if frame.mediaType.isAudio then markSource s.audioCodecEpoch frame else frame

def storeSeqHeader (frame : AVFrame) (s : StartupState) : StartupState :=
  if frame.isMedia then s
  else if frame.mediaType.isVideo then
    { s with
      videoSeqHeader := some frame
      mediaInfo := { s.mediaInfo with videoSequenceHeader := frame.payload }
      seqHeaderReady := true }
  else if frame.mediaType.isAudio then
    { s with
      audioSeqHeader := some frame
      mediaInfo := { s.mediaInfo with audioSequenceHeader := frame.payload }
      seqHeaderReady := true }
  else { s with seqHeaderReady := true }

/-- All of this for one accepted frame. -/
def writeFrame (frame : AVFrame) (s : StartupState) : StartupState :=
  let noted := s.noteCodec frame
  (noted.storeSeqHeader (noted.annotate frame)).updateStartupReady

def published (frame : AVFrame) (s : StartupState) : AVFrame :=
  (s.noteCodec frame).annotate frame

def resetVideo (s : StartupState) : StartupState :=
  let reset := { s with
    videoSeqHeader := none
    mediaInfo := { s.mediaInfo with videoSequenceHeader := [] } }
  { reset with startupReady := reset.computeReady }.signal

end StartupState

end LiveForge.Core
