import LiveForge.Flv.Muxer

/-!
# Reading FLV

`payload.go` and `demuxer.go` of `pkg/muxer/flv`.  Script tags and packets that
carry no frame are skipped; the input ends between two tags.
-/

namespace LiveForge.Flv

open Support

/-! ## Codes -/

def videoFourCCToCodec (fourCC : Bytes) : CodecType :=
  if fourCC = videoCodecToFourCC .vp8 then .vp8
  else if fourCC = videoCodecToFourCC .vp9 then .vp9
  else if fourCC = videoCodecToFourCC .h264 then .h264
  else if fourCC = videoCodecToFourCC .h265 then .h265
  else if fourCC = videoCodecToFourCC .av1 then .av1
  else .none

def audioFourCCToCodec (fourCC : Bytes) : CodecType :=
  if fourCC = audioCodecToFourCC .aac then .aac
  else if fourCC = audioCodecToFourCC .opus then .opus
  else if fourCC = audioCodecToFourCC .mp3 then .mp3
  else .none

def flvVideoCodecToAVFrame (id : UInt8) : CodecType :=
  if id = videoCodecToFLV .h264 then .h264
  else if id = videoCodecToFLV .h265 then .h265
  else if id = videoCodecToFLV .av1 then .av1
  else .none

def flvAudioCodecToAVFrame (id : UInt8) : CodecType :=
  if id = audioCodecToFLV .aac then .aac
  else if id = audioCodecToFLV .opus then .opus
  else if id = audioCodecToFLV .mp3 then .mp3
  else .none

def frameTypeFromFLV (frameType : UInt8) : FrameType :=
  if frameType = videoFrameKeyframe then .keyframe else .interframe

def decodeSI24 (a b c : UInt8) : ℤ :=
  if a &&& 0x80 ≠ 0 then (be24 a b c : ℤ) - 2 ^ 24 else be24 a b c

/-! ## Errors -/

inductive DemuxError where
  | input (error : InputError)
  | header (error : InputError)
  | signature (a b c : UInt8)
  | tagData (error : InputError)
  | previousTagSize (error : InputError)
  | unknownTagType (tagType : UInt8)
  | emptyVideo
  | emptyAudio
  | shortClassicVideo (length : ℕ)
  | classicVideoCodec (id : UInt8)
  | unsupportedClassicVideoPacket (packetType : UInt8)
  | shortClassicOffset (length : ℕ)
  | shortEnhancedVideo (length : ℕ)
  | unsupportedVideoFourCC (fourCC : Bytes)
  | shortEnhancedOffset (length : ℕ)
  | unsupportedEnhancedVideoPacket (packetType : UInt8)
  | classicAudioFormat (id : UInt8)
  | shortClassicAudio (length : ℕ)
  | unsupportedClassicAudioPacket (packetType : UInt8)
  | shortEnhancedAudio (length : ℕ)
  | unsupportedAudioFourCC (fourCC : Bytes)
  | unsupportedEnhancedAudioPacket (packetType : UInt8)

/-! ## Payloads

A result without a frame is a packet that is skipped. -/

abbrev ParseResult := Except DemuxError (Option AVFrame)

def parseClassicVideoPayload (data : Bytes) (dts : ℤ) : ParseResult :=
  let first := data.getD 0 0
  let packet := data.getD 1 0
  let codec := flvVideoCodecToAVFrame (first &&& 0x0F)
  if data.length < 2 then .error (.shortClassicVideo data.length)
  else if codec = .none then .error (.classicVideoCodec (first &&& 0x0F))
  else if packet = 2 then .ok none
  else if packet ≠ 0 ∧ packet ≠ 1 then
    .error (.unsupportedClassicVideoPacket packet)
  else if data.length < 5 then .error (.shortClassicOffset data.length)
  else
    let frameType :=
      if packet = 0 then .sequenceHeader else frameTypeFromFLV (first >>> 4)
    let cts := decodeSI24 (data.getD 2 0) (data.getD 3 0) (data.getD 4 0)
    .ok (some (newAVFrame .video codec frameType dts (dts + cts) (data.drop 5)))

def parseEnhancedVideoPayload (data : Bytes) (dts : ℤ) : ParseResult :=
  let first := data.getD 0 0
  let fourCC := (data.drop 1).take 4
  let codec := videoFourCCToCodec fourCC
  let packet := first &&& 0x0F
  let frameType := frameTypeFromFLV ((first >>> 4) &&& 0x07)
  if data.length < 5 then .error (.shortEnhancedVideo data.length)
  else if codec = .none then .error (.unsupportedVideoFourCC fourCC)
  else if packet = 0 then
    .ok (some (newAVFrame .video codec .sequenceHeader dts dts (data.drop 5)))
  else if packet = 1 then
    if codec = .h264 ∨ codec = .h265 then
      if data.length < 8 then .error (.shortEnhancedOffset data.length)
      else
        let cts := decodeSI24 (data.getD 5 0) (data.getD 6 0) (data.getD 7 0)
        .ok (some (newAVFrame .video codec frameType dts (dts + cts) (data.drop 8)))
    else
      .ok (some (newAVFrame .video codec frameType dts dts (data.drop 5)))
  else if packet = 3 then
    .ok (some (newAVFrame .video codec frameType dts dts (data.drop 5)))
  else if packet = 2 ∨ packet = 4 then .ok none
  else .error (.unsupportedEnhancedVideoPacket packet)

def parseVideoPayload (data : Bytes) (dts : ℤ) : ParseResult :=
  if data = [] then .error .emptyVideo
  else if data.getD 0 0 &&& 0x80 ≠ 0 then parseEnhancedVideoPayload data dts
  else parseClassicVideoPayload data dts

def parseClassicAudioPayload (data : Bytes) (dts : ℤ) : ParseResult :=
  let format := data.getD 0 0 >>> 4
  let packet := data.getD 1 0
  let codec := flvAudioCodecToAVFrame format
  if codec = .none then .error (.classicAudioFormat format)
  else if codec = .aac ∨ codec = .opus then
    if data.length < 2 then .error (.shortClassicAudio data.length)
    else if packet = 0 then
      .ok (some (newAVFrame .audio codec .sequenceHeader dts dts (data.drop 2)))
    else if packet = 1 then
      .ok (some (newAVFrame .audio codec .interframe dts dts (data.drop 2)))
    else .error (.unsupportedClassicAudioPacket packet)
  else .ok (some (newAVFrame .audio codec .interframe dts dts (data.drop 1)))

def parseEnhancedAudioPayload (data : Bytes) (dts : ℤ) : ParseResult :=
  let fourCC := (data.drop 1).take 4
  let codec := audioFourCCToCodec fourCC
  let packet := data.getD 0 0 &&& 0x0F
  if data.length < 5 then .error (.shortEnhancedAudio data.length)
  else if codec = .none then .error (.unsupportedAudioFourCC fourCC)
  else if packet = 0 then
    .ok (some (newAVFrame .audio codec .sequenceHeader dts dts (data.drop 5)))
  else if packet = 1 then
    .ok (some (newAVFrame .audio codec .interframe dts dts (data.drop 5)))
  else if packet = 2 then .ok none
  else .error (.unsupportedEnhancedAudioPacket packet)

def parseAudioPayload (data : Bytes) (dts : ℤ) : ParseResult :=
  if data = [] then .error .emptyAudio
  else if data.getD 0 0 >>> 4 = audioFormatExHeader then
    parseEnhancedAudioPayload data dts
  else parseClassicAudioPayload data dts

/-! ## Tags -/

def parseTag (tagType : UInt8) (data : Bytes) (timestamp : ℤ) : ParseResult :=
  if tagType = tagTypeVideo then parseVideoPayload data timestamp
  else if tagType = tagTypeAudio then parseAudioPayload data timestamp
  else if tagType = tagTypeScript then .ok none
  else .error (.unknownTagType tagType)

def readHeader (input : Bytes) : Except DemuxError Bytes := do
  let (header, input) ← (readFull 13 input).mapError DemuxError.header
  if header.getD 0 0 = 0x46 ∧ header.getD 1 0 = 0x4C ∧ header.getD 2 0 = 0x56
  then return input
  else .error (.signature (header.getD 0 0) (header.getD 1 0) (header.getD 2 0))

def readOneTag (input : Bytes) : Except DemuxError (Option AVFrame × Bytes) := do
  let (header, input) ← (readFull tagHeaderSize input).mapError DemuxError.input
  let dataSize := be24 (header.getD 1 0) (header.getD 2 0) (header.getD 3 0)
  let timestamp :=
    be24 (header.getD 4 0) (header.getD 5 0) (header.getD 6 0) ||| (header.getD 7 0).toNat <<< 24
  let (data, input) ← (readFull dataSize input).mapError DemuxError.tagData
  let (_, input) ← (readFull 4 input).mapError DemuxError.previousTagSize
  let frame ← parseTag (header.getD 0 0) data timestamp
  return (frame, input)

structure Demuxer where
  input : Bytes
  headerRead : Bool := false

variable {input rest : Bytes} {frame : AVFrame}

theorem readFull_length {n : ℕ} {data : Bytes} {error : InputError → DemuxError}
    (h : (readFull n input).mapError error = .ok (data, rest)) :
    rest.length + n = input.length := by
  obtain ⟨rfl, hlength⟩ := readFull_eq_ok (mapError_eq_ok.mp h)
  rw [List.length_append]
  omega

theorem readOneTag_length {frame : Option AVFrame} (h : readOneTag input = .ok (frame, rest)) :
    rest.length < input.length := by
  obtain ⟨⟨header, first⟩, hheader, hdata⟩ := bind_eq_ok.mp h
  obtain ⟨⟨data, second⟩, hread, hprevious⟩ := bind_eq_ok.mp hdata
  obtain ⟨⟨previous, third⟩, hsize, hparse⟩ := bind_eq_ok.mp hprevious
  obtain ⟨result, -, hresult⟩ := bind_eq_ok.mp hparse
  have hone := readFull_length hheader
  have htwo := readFull_length hread
  have hthree := readFull_length hsize
  cases hresult
  omega

/-- Read tags until one carries a frame. -/
def readFrame (input : Bytes) : Except DemuxError (AVFrame × Bytes) :=
  match _h : readOneTag input with
  | .error error => .error error
  | .ok (some frame, rest) => .ok (frame, rest)
  | .ok (none, rest) => readFrame rest
termination_by input.length
decreasing_by exact readOneTag_length ‹_›

theorem readFrame_of_some (h : readOneTag input = .ok (some frame, rest)) :
    readFrame input = .ok (frame, rest) := by
  rw [readFrame]
  split <;> simp_all

theorem readFrame_of_error {error : DemuxError} (h : readOneTag input = .error error) :
    readFrame input = .error error := by
  rw [readFrame]
  split <;> simp_all

theorem readFrame_length (h : readFrame input = .ok (frame, rest)) :
    rest.length < input.length := by
  fun_induction readFrame input with
  | case1 input error hread => simp at h
  | case2 input first last hread =>
    cases h
    exact readOneTag_length hread
  | case3 input last hread ih =>
    exact (ih h).trans (readOneTag_length hread)

namespace Demuxer

/-- The input behind the file header, which is read once. -/
def afterHeader (d : Demuxer) : Except DemuxError Bytes :=
  if d.headerRead then .ok d.input else readHeader d.input

def readTag (d : Demuxer) : Except DemuxError (AVFrame × Demuxer) := do
  let input ← d.afterHeader
  let (frame, rest) ← readFrame input
  return (frame, ⟨rest, true⟩)

variable {d d' : Demuxer}

theorem readTag_length (h : d.readTag = .ok (frame, d')) : d'.input.length < d.input.length := by
  obtain ⟨input, hinput, hframe⟩ := bind_eq_ok.mp h
  obtain ⟨⟨_, rest⟩, hread, hresult⟩ := bind_eq_ok.mp hframe
  have hlength := readFrame_length hread
  have hle : input.length ≤ d.input.length := by
    unfold afterHeader at hinput
    split at hinput
    · rw [Except.ok.inj hinput]
    · obtain ⟨⟨header, last⟩, hheader, hcheck⟩ := bind_eq_ok.mp hinput
      have hread := readFull_length hheader
      simp only at hcheck
      split_ifs at hcheck
      rw [← Except.ok.inj hcheck]
      omega
  cases hresult
  exact hlength.trans_le hle

/-- Call `ReadTag` until the input ends between two tags. -/
def readAll (d : Demuxer) : Except DemuxError (List AVFrame) :=
  match _h : d.readTag with
  | .error (.input .eof) => .ok []
  | .error error => .error error
  | .ok (frame, d') => (d'.readAll).map fun frames => frame :: frames
termination_by d.input.length
decreasing_by exact readTag_length ‹_›

theorem readTag_nil : readTag ⟨[], true⟩ = .error (.input .eof) := by
  rw [readTag, afterHeader, if_pos rfl, ok_bind, readFrame_of_error rfl]
  rfl

theorem readAll_of_eof (h : d.readTag = .error (.input .eof)) : d.readAll = .ok [] := by
  rw [readAll]
  split <;> simp_all

theorem readAll_of_frame (h : d.readTag = .ok (frame, d')) :
    d.readAll = (d'.readAll).map fun frames => frame :: frames := by
  rw [readAll]
  split <;> simp_all

theorem readAll_congr {e : Demuxer} (h : d.readTag = e.readTag) : d.readAll = e.readAll := by
  rw [readAll, readAll]
  split <;> split <;> simp_all

end Demuxer

end LiveForge.Flv
