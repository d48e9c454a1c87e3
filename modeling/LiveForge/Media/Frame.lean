import Mathlib.Data.Int.Notation
import Mathlib.Data.List.Basic

/-!
# Media frames

The universal frame of `pkg/avframe`.  The three tags are bytes in the source
with a few named values; every value the source gives no name is collected in
`other`, because no function tells two of them apart.  The value zero has a
meaning of its own (a codec or frame type that is not known yet) and keeps its
own constructor.
-/

namespace LiveForge

abbrev Bytes := List UInt8

inductive MediaType where
  | video
  | audio
  | other
  deriving DecidableEq

namespace MediaType

def isVideo (m : MediaType) : Bool := m == .video

def isAudio (m : MediaType) : Bool := m == .audio

@[simp] theorem isVideo_eq_true {m : MediaType} : m.isVideo = true ↔ m = .video := by
  cases m <;> decide

@[simp] theorem isAudio_eq_true {m : MediaType} : m.isAudio = true ↔ m = .audio := by
  cases m <;> decide

end MediaType

inductive CodecType where
  | none
  | h264
  | h265
  | av1
  | vp8
  | vp9
  | aac
  | opus
  | mp3
  | g711a
  | g711u
  | g722
  | g729
  | speex
  | other
  deriving DecidableEq

namespace CodecType

def isVideo : CodecType → Bool
  | .h264 | .h265 | .av1 | .vp8 | .vp9 => true
  | _ => false

def isAudio : CodecType → Bool
  | .aac | .opus | .mp3 | .g711a | .g711u | .g722 | .g729 | .speex => true
  | _ => false

end CodecType

inductive FrameType where
  | none
  | keyframe
  | interframe
  | sequenceHeader
  | other
  deriving DecidableEq

namespace FrameType

def isKeyframe (f : FrameType) : Bool := f == .keyframe

@[simp] theorem isKeyframe_eq_true {f : FrameType} : f.isKeyframe = true ↔ f = .keyframe := by
  cases f <;> decide

end FrameType

inductive FrameProvenance where
  | unknown
  | source
  | transcoded
  deriving DecidableEq

/-- Timestamps are milliseconds. -/
structure AVFrame where
  mediaType : MediaType
  codec : CodecType
  frameType : FrameType
  dts : ℤ
  pts : ℤ
  payload : Bytes
  audioCodecEpoch : ℕ := 0
  audioProvenance : FrameProvenance := .unknown
  deriving DecidableEq

def newAVFrame (mediaType : MediaType) (codec : CodecType)
    (frameType : FrameType) (dts pts : ℤ) (payload : Bytes) : AVFrame :=
  { mediaType, codec, frameType, dts, pts, payload }

namespace AVFrame

def isVideoKeyframe (f : AVFrame) : Prop :=
  f.mediaType = .video ∧ f.frameType = .keyframe

instance (f : AVFrame) : Decidable f.isVideoKeyframe :=
  inferInstanceAs (Decidable (_ ∧ _))

/-- Every frame that is not a sequence header carries media. -/
def isMedia (f : AVFrame) : Bool := f.frameType != .sequenceHeader

end AVFrame

structure MediaInfo where
  videoCodec : CodecType := .none
  audioCodec : CodecType := .none
  width : ℤ := 0
  height : ℤ := 0
  videoSequenceHeader : Bytes := []
  audioSequenceHeader : Bytes := []
  sampleRate : ℤ := 0
  channels : ℤ := 0
  deriving DecidableEq

end LiveForge
