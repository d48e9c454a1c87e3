import LiveForge.Media.Frame
import LiveForge.Support.Bytes

/-!
# Writing FLV

`types.go` and `muxer.go` of `pkg/muxer/flv`.  A video or audio frame becomes
one tag: a header with the size of the body and the decode timestamp, the body,
and the size of the tag.  The body starts with a classic or an enhanced header,
depending on the mode and the codec.
-/

namespace LiveForge.Flv

open Support

/-! ## Codes -/

def tagTypeAudio : UInt8 := 8

def tagTypeVideo : UInt8 := 9

def tagTypeScript : UInt8 := 18

def videoFrameKeyframe : UInt8 := 1

def videoFrameInterframe : UInt8 := 2

inductive EncodingMode where
  | auto
  | classic
  | enhanced
  | other (value : UInt8)
  deriving DecidableEq

/-- The four bytes of a FourCC; all zero when the codec has none. -/
def videoCodecToFourCC : CodecType → Bytes
  | .vp8 => [0x76, 0x70, 0x30, 0x38]
  | .vp9 => [0x76, 0x70, 0x30, 0x39]
  | .h264 => [0x61, 0x76, 0x63, 0x31]
  | .h265 => [0x68, 0x76, 0x63, 0x31]
  | .av1 => [0x61, 0x76, 0x30, 0x31]
  | _ => [0, 0, 0, 0]

def audioCodecToFourCC : CodecType → Bytes
  | .aac => [0x6D, 0x70, 0x34, 0x61]
  | .opus => [0x4F, 0x70, 0x75, 0x73]
  | .mp3 => [0x2E, 0x6D, 0x70, 0x33]
  | _ => []

def videoCodecToFLV : CodecType → UInt8
  | .h264 => 7
  | .h265 => 12
  | .av1 => 13
  | _ => 0

def audioFormatExHeader : UInt8 := 9

def audioCodecToFLV : CodecType → UInt8
  | .aac => 10
  | .opus => 13
  | .mp3 => 2
  | _ => 0

def avFrameTypeToFLV (frameType : FrameType) : UInt8 :=
  if frameType = .keyframe ∨ frameType = .sequenceHeader then
    videoFrameKeyframe
  else videoFrameInterframe

/-! ## Errors -/

inductive MuxError where
  | unsupportedMediaType
  | unsupportedVideoMode (value : UInt8)
  | unsupportedAudioMode (value : UInt8)
  | unsupportedClassicVideo (codec : CodecType)
  | unsupportedEnhancedVideo (codec : CodecType)
  | unsupportedClassicAudio (codec : CodecType)
  | unsupportedEnhancedAudio (codec : CodecType)
  | compositionOffset (codec : CodecType)
  | si24Overflow (value : ℤ)

/-! ## Bodies -/

def encodeSI24 (value : ℤ) : Except MuxError Bytes :=
  if value < -8388608 ∨ 8388607 < value then .error (.si24Overflow value)
  else
    let encoded := if value < 0 then value + 2 ^ 24 else value
    .ok (be24Bytes encoded.toNat)

/-- The packet type of a sequence header or of coded data, in all headers. -/
def packetType (frame : AVFrame) : UInt8 :=
  if frame.frameType = .sequenceHeader then 0 else 1

def classicVideoBody (frame : AVFrame) : Except MuxError Bytes :=
  if frame.codec ≠ .h264 then .error (.unsupportedClassicVideo frame.codec)
  else do
    let cts ← encodeSI24 (frame.pts - frame.dts)
    let firstByte :=
      avFrameTypeToFLV frame.frameType <<< 4 ||| videoCodecToFLV frame.codec
    return [firstByte, packetType frame] ++ cts ++ frame.payload

def enhancedOffset (frame : AVFrame) : Except MuxError Bytes :=
  if packetType frame = 1 then
    if frame.codec = .h264 ∨ frame.codec = .h265 then
      encodeSI24 (frame.pts - frame.dts)
    else if frame.pts ≠ frame.dts then
      .error (.compositionOffset frame.codec)
    else .ok []
  else .ok []

def enhancedVideoBody (frame : AVFrame) : Except MuxError Bytes :=
  let fourCC := videoCodecToFourCC frame.codec
  if fourCC = [0, 0, 0, 0] then .error (.unsupportedEnhancedVideo frame.codec)
  else do
    let cts ← enhancedOffset frame
    let firstByte := (0x80 : UInt8) |||
      avFrameTypeToFLV frame.frameType <<< 4 ||| packetType frame
    return [firstByte] ++ fourCC ++ cts ++ frame.payload

def videoBody (frame : AVFrame) : EncodingMode → Except MuxError Bytes
  | .auto =>
    if frame.codec = .h264 then classicVideoBody frame
    else enhancedVideoBody frame
  | .classic => classicVideoBody frame
  | .enhanced => enhancedVideoBody frame
  | .other value => .error (.unsupportedVideoMode value)

def classicAudioBody (frame : AVFrame) : Except MuxError Bytes :=
  if frame.codec ≠ .aac ∧ frame.codec ≠ .mp3 then
    .error (.unsupportedClassicAudio frame.codec)
  else
    let firstByte := audioCodecToFLV frame.codec <<< 4 ||| 0x0F
    .ok ((if frame.codec = .aac then [firstByte, packetType frame]
      else [firstByte]) ++ frame.payload)

def enhancedAudioBody (frame : AVFrame) : Except MuxError Bytes :=
  let fourCC := audioCodecToFourCC frame.codec
  if fourCC = [] then .error (.unsupportedEnhancedAudio frame.codec)
  else
    .ok ([audioFormatExHeader <<< 4 ||| packetType frame] ++ fourCC ++ frame.payload)

def audioBody (frame : AVFrame) : EncodingMode → Except MuxError Bytes
  | .auto =>
    if frame.codec = .aac ∨ frame.codec = .mp3 then classicAudioBody frame
    else enhancedAudioBody frame
  | .classic => classicAudioBody frame
  | .enhanced => enhancedAudioBody frame
  | .other value => .error (.unsupportedAudioMode value)

/-! ## Tags -/

def tagHeaderSize : ℕ := 11

/-- The tag around a body.  Only the low 24 bits of the size of the body and
the low 32 bits of the timestamp are written. -/
def writeTag (tagType : UInt8) (dts : ℤ) (body : Bytes) : Bytes :=
  let ts := (dts % 2 ^ 32).toNat
  [tagType] ++ be24Bytes body.length ++
    [byteOf ts 16, byteOf ts 8, byteOf ts 0, byteOf ts 24] ++ [0, 0, 0] ++
      body ++ be32Bytes (tagHeaderSize + body.length)

structure Muxer where
  videoMode : EncodingMode
  audioMode : EncodingMode

def newMuxer : Muxer := ⟨.auto, .auto⟩

namespace Muxer

def writeHeader (hasVideo hasAudio : Bool) : Bytes :=
  let flags : UInt8 :=
    (if hasAudio then 0x04 else 0) ||| (if hasVideo then 0x01 else 0)
  [0x46, 0x4C, 0x56, 0x01, flags] ++ be32Bytes 9 ++ [0, 0, 0, 0]

def tagOf (m : Muxer) (frame : AVFrame) : Except MuxError (UInt8 × Bytes) :=
  match frame.mediaType with
  | .video => do
      let body ← videoBody frame m.videoMode
      return (tagTypeVideo, body)
  | .audio => do
      let body ← audioBody frame m.audioMode
      return (tagTypeAudio, body)
  | .other => .error .unsupportedMediaType

def writeFrame (m : Muxer) (frame : AVFrame) : Except MuxError Bytes := do
  let (tagType, body) ← m.tagOf frame
  return writeTag tagType frame.dts body

/-- Write frames one after the other; the first error ends it. -/
def writeFrames (m : Muxer) : List AVFrame → Except MuxError Bytes
  | [] => .ok []
  | frame :: frames => do
      let first ← m.writeFrame frame
      let rest ← m.writeFrames frames
      return first ++ rest

end Muxer

end LiveForge.Flv
