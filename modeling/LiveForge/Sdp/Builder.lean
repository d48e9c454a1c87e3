import LiveForge.Media.Frame

/-!
# The SDP of a stream

`BuildFromMediaInfo` of `pkg/sdp/builder.go`: one media section for each track,
with the payload type and the clock of the codec.  An `rtpmap` line is kept as
the values that are written into it.
-/

namespace LiveForge.Sdp

structure RTPInfo where
  name : String
  clockRate : ℤ
  pt : ℤ

/-- A clock rate of zero stands for the sample rate of the stream. -/
def codecRTPInfo : CodecType → Option RTPInfo
  | .h264 => some ⟨"H264", 90000, 96⟩
  | .h265 => some ⟨"H265", 90000, 97⟩
  | .vp8 => some ⟨"VP8", 90000, 98⟩
  | .vp9 => some ⟨"VP9", 90000, 99⟩
  | .av1 => some ⟨"AV1", 90000, 100⟩
  | .aac => some ⟨"MPEG4-GENERIC", 0, 101⟩
  | .opus => some ⟨"opus", 48000, 111⟩
  | .mp3 => some ⟨"MPA", 90000, 14⟩
  | .g711u => some ⟨"PCMU", 8000, 0⟩
  | .g711a => some ⟨"PCMA", 8000, 8⟩
  | .g722 => some ⟨"G722", 8000, 9⟩
  | .g729 => some ⟨"G729", 8000, 18⟩
  | .speex => some ⟨"speex", 0, 102⟩
  | .none | .other => none

/-- The line `rtpmap:<pt> <name>/<clock>[/<channels>]`. -/
structure RTPMap where
  payloadType : ℤ
  encodingName : String
  clockRate : ℤ
  channels : Option ℤ
  deriving DecidableEq

structure MediaDescription where
  type : MediaType
  formats : List ℤ
  rtpmap : Option RTPMap
  control : Option ℕ
  deriving DecidableEq

/-- A codec without an entry in the table gets a section without attributes. -/
def buildMediaDesc (mediaType : MediaType) (codec : CodecType)
    (sampleRate channels : ℤ) (trackIdx : ℕ) : MediaDescription :=
  match codecRTPInfo codec with
  | none => ⟨mediaType, [96], none, none⟩
  | some rtpInfo =>
    let clockRate :=
      if rtpInfo.clockRate = 0 then sampleRate else rtpInfo.clockRate
    let clockRate :=
      if clockRate = 0 ∧ codec = .aac then 44100 else clockRate
    { type := mediaType
      formats := [rtpInfo.pt]
      rtpmap := some
        { payloadType := rtpInfo.pt
          encodingName := rtpInfo.name
          clockRate
          channels :=
            if codec = .opus ∧ 0 < channels then some channels else none }
      control := some trackIdx }

@[simp] theorem buildMediaDesc_type (mediaType : MediaType) (codec : CodecType)
    (sampleRate channels : ℤ) (trackIdx : ℕ) :
    (buildMediaDesc mediaType codec sampleRate channels trackIdx).type = mediaType := by
  unfold buildMediaDesc
  split <;> rfl

/-- The media sections of the description; video comes first. -/
def buildFromMediaInfo (info : MediaInfo) : List MediaDescription :=
  let video :=
    if info.videoCodec ≠ .none then
      [buildMediaDesc .video info.videoCodec 0 0 0]
    else []
  let audio :=
    if info.audioCodec ≠ .none then
      [buildMediaDesc .audio info.audioCodec info.sampleRate info.channels video.length]
    else []
  video ++ audio

end LiveForge.Sdp
