import LiveForge.Fmp4.Segment
import LiveForge.HttpStream.Segmenter

/-!
# What a segment ends with

`segment_timing.go` and `parseAudioSeqHeader` of `muxer_worker.go` in
`module/httpstream`.  A segment that no later frame ends lasts until its last
frame does, and how long that frame lasts is guessed from its codec.

Durations are whole milliseconds here; the source divides them by 1000 for the
texts it writes.
-/

namespace LiveForge.HttpStream

open Support

def opusPacketDurationSamples48k : Bytes → Option ℕ :=
  Fmp4.opusPacketDurationSamples

/-- The samples of an audio frame and the rate they are played at. -/
def audioFrameSamples (frame : AVFrame) (sampleRate : ℤ) : ℤ × ℤ :=
  match frame.codec with
  | .aac => (1024, if sampleRate ≤ 0 then 44100 else sampleRate)
  | .mp3 => (1152, if sampleRate ≤ 0 then 44100 else sampleRate)
  | .opus =>
    (((opusPacketDurationSamples48k frame.payload).getD 0 : ℕ), 48000)
  | _ => (0, sampleRate)

def frameDurationMilliseconds (frame : AVFrame) (sampleRate : ℤ) : ℤ :=
  if frame.mediaType = .video then 33
  else
    let (samples, rate) := audioFrameSamples frame sampleRate
    let duration := (samples * 1000 + rate / 2) / rate
    if 0 < samples ∧ 0 < rate ∧ 0 < duration then duration else 20

structure SegmentMediaClock where
  hasVideo : Bool := false
  audioSampleRate : ℤ := 0
  lastVideo : Option AVFrame := none
  lastAudio : Option AVFrame := none

namespace SegmentMediaClock

def observe (c : SegmentMediaClock) (frame : AVFrame) : SegmentMediaClock :=
  match frame.mediaType with
  | .video => { c with lastVideo := some frame }
  | .audio => { c with lastAudio := some frame }
  | .other => c

def reset (c : SegmentMediaClock) : SegmentMediaClock :=
  { c with lastVideo := none, lastAudio := none }

def endDTS (c : SegmentMediaClock) (startDTS : ℤ) : ℤ :=
  let last := if c.hasVideo then c.lastVideo.or c.lastAudio else c.lastAudio
  match last with
  | none => startDTS
  | some frame =>
    let stop := frame.dts + frameDurationMilliseconds frame c.audioSampleRate
    if stop ≤ startDTS then startDTS + 1 else stop

/-- An end that lies after the start, or else that of the last frame. -/
def endAfter (c : SegmentMediaClock) (startDTS endDTS : ℤ) : ℤ :=
  if endDTS ≤ startDTS then c.endDTS startDTS else endDTS

end SegmentMediaClock

/-- Sample rate and channels of a sequence header, zero if it does not say. -/
def parseAudioSeqHeader (frame : Option AVFrame) : ℤ × ℤ :=
  match frame with
  | none => (0, 0)
  | some f =>
    match f.codec with
    | .aac =>
      match AAC.parseAudioSpecificConfig f.payload with
      | .ok info => (info.sampleRate, info.channels)
      | .error _ => (0, 0)
    | .opus =>
      match f.payload with
      | [_, channels, _, _, a, b, c, d, _, _, _] =>
        (be32 a b c d, channels.toNat)
      | _ => (0, 0)
    | _ => (0, 0)

/-- What a segmenter takes from a snapshot of the stream: the tracks. -/
structure SegmentSetup where
  videoSequenceHeader : Option AVFrame
  audioPlan : MuxerAudioPlan
  audioSequenceHeader : Option AVFrame
  sampleRate : ℤ

namespace SegmentSetup

def videoCodec (setup : SegmentSetup) : CodecType :=
  (setup.videoSequenceHeader.map AVFrame.codec).getD .none

def videoSeqData (setup : SegmentSetup) : Bytes :=
  (setup.videoSequenceHeader.map AVFrame.payload).getD []

def audioCodec (setup : SegmentSetup) : CodecType :=
  if setup.audioPlan.hasAudio then setup.audioPlan.codec else .none

def audioSeqHeader (setup : SegmentSetup) : Option AVFrame :=
  if setup.audioPlan.hasAudio then setup.audioSequenceHeader else none

def audioSeqData (setup : SegmentSetup) : Bytes :=
  (setup.audioSeqHeader.map AVFrame.payload).getD []

end SegmentSetup

/-- Where a worker stands; a running one knows how far the cached video went. -/
inductive SegmentPhase where
  | idle
  | running (cachedEndDTS : Option ℤ)
  | stopped
  deriving DecidableEq

end LiveForge.HttpStream
