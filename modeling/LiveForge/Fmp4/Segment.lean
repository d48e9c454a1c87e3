import LiveForge.Codec.AAC
import LiveForge.Support.Prefixed

/-!
# Media segments of fragmented MP4

`pkg/muxer/fmp4/media_segment.go` and the two writers of `box.go` it uses.  A
segment is a `moof` box with one `traf` for each track that has samples, and an
`mdat` box with the samples, video first.  Where the samples start is known only
when the `moof` is complete, so the offsets are put into its bytes afterwards.

Milliseconds are turned into units of the track's clock by a product in signed
64-bit numbers and a division that cuts towards zero.
-/

namespace LiveForge.Fmp4

open Support

/-! ## Boxes -/

structure BoxType where
  a : UInt8
  b : UInt8
  c : UInt8
  d : UInt8
  deriving DecidableEq

def BoxType.bytes (t : BoxType) : Bytes := [t.a, t.b, t.c, t.d]

def boxMoof : BoxType := ⟨0x6D, 0x6F, 0x6F, 0x66⟩

def boxMfhd : BoxType := ⟨0x6D, 0x66, 0x68, 0x64⟩

def boxTraf : BoxType := ⟨0x74, 0x72, 0x61, 0x66⟩

def boxTfhd : BoxType := ⟨0x74, 0x66, 0x68, 0x64⟩

def boxTfdt : BoxType := ⟨0x74, 0x66, 0x64, 0x74⟩

def boxTrun : BoxType := ⟨0x74, 0x72, 0x75, 0x6E⟩

def boxMdat : BoxType := ⟨0x6D, 0x64, 0x61, 0x74⟩

def writeBox (boxType : BoxType) (payload : Bytes) : Bytes :=
  be32Bytes (8 + payload.length) ++ boxType.bytes ++ payload

def writeFullBox (boxType : BoxType) (version : UInt8) (flags : ℕ) (payload : Bytes) : Bytes :=
  be32Bytes (12 + payload.length) ++ boxType.bytes ++ [version] ++ be24Bytes flags ++ payload

/-- The type of the box at the front, its content and what follows it; `none`
when the size does not fit the data. -/
def splitBox : Bytes → Option (BoxType × Bytes × Bytes)
  | a :: b :: c :: d :: e :: f :: g :: h :: rest =>
    let size := be32 a b c d
    if size < 8 ∨ 8 + rest.length < size then none
    else some (⟨e, f, g, h⟩, rest.take (size - 8), rest.drop (size - 8))
  | _ => none

theorem splitBox_length {data content rest : Bytes} {boxType : BoxType}
    (h : splitBox data = some (boxType, content, rest)) :
    rest.length + 8 ≤ data.length := by
  unfold splitBox at h
  split at h
  · dsimp only at h
    split_ifs at h with hsize
    simp only [Option.some.injEq, Prod.mk.injEq] at h
    rw [← h.2.2, List.length_drop]
    simp only [List.length_cons]
    omega
  · simp at h

/-! ## Payloads -/

def videoTrackID : ℕ := 1

def audioTrackID : ℕ := 2

def timescaleVideo : ℕ := 90000

/-- The units with their lengths, up to the first that is empty or that the
data does not hold. -/
def lengthPrefixed : Bytes → List Bytes
  | a :: b :: c :: d :: first :: rest =>
    let nalLen := be32 a b c d
    if nalLen = 0 ∨ 1 + rest.length < nalLen then []
    else
      (a :: b :: c :: d :: (first :: rest).take nalLen) ::
        lengthPrefixed ((first :: rest).drop nalLen)
  | _ => []
termination_by data => data.length
decreasing_by
  simp only [List.length_drop, List.length_cons]
  omega

def h264NALType (unit : Bytes) : UInt8 := unit.getD 4 0 &&& 0x1F

def h265NALType (unit : Bytes) : UInt8 := unit.getD 4 0 >>> 1 &&& 0x3F

/-- Only slices are kept, if there is a parameter set, a delimiter or a message
in between at all. -/
def filterH264VCLNALUs (data : Bytes) : Bytes :=
  let units := lengthPrefixed data
  if units.any fun unit =>
      h264NALType unit = 6 ∨ h264NALType unit = 7 ∨ h264NALType unit = 8 ∨ h264NALType unit = 9 then
    (units.filter fun unit =>
      1 ≤ h264NALType unit ∧ h264NALType unit ≤ 5).flatten
  else data

/-- The units with their lengths; `none` if one is too short or not held by the
data.  Less than six bytes at the end are left over. -/
def h265Units : Bytes → Option (List Bytes)
  | a :: b :: c :: d :: e :: f :: rest =>
    let nalLen := be32 a b c d
    if nalLen < 2 ∨ 2 + rest.length < nalLen then none
    else
      (h265Units ((e :: f :: rest).drop nalLen)).map fun units =>
        (a :: b :: c :: d :: (e :: f :: rest).take nalLen) :: units
  | _ => some []
termination_by data => data.length
decreasing_by
  simp only [List.length_drop, List.length_cons]
  omega

def isH265ParameterSet (unit : Bytes) : Bool :=
  32 ≤ h265NALType unit ∧ h265NALType unit ≤ 34

def filterH265ParameterSetNALUs (data : Bytes) : Bytes :=
  match h265Units data with
  | none => data
  | some units =>
    if units.any isH265ParameterSet then
      (units.filter fun unit => !isH265ParameterSet unit).flatten
    else data

def filterPayload (f : AVFrame) : Bytes :=
  match f.codec with
  | .h264 => filterH264VCLNALUs f.payload
  | .h265 => filterH265ParameterSetNALUs f.payload
  | _ => f.payload

/-- Frames of the two codecs of which nothing is left are dropped. -/
def keepsVideo (f : AVFrame) : Bool :=
  f.frameType ≠ .sequenceHeader ∧ f.mediaType = .video ∧
    ((f.codec = .h264 ∨ f.codec = .h265) → filterPayload f ≠ [])

def videoSamples (frames : List AVFrame) : List AVFrame :=
  (frames.filter keepsVideo).map fun f => { f with payload := filterPayload f }

def audioSamples (frames : List AVFrame) : List AVFrame :=
  frames.filter fun f =>
    f.frameType ≠ .sequenceHeader ∧ f.mediaType = .audio

/-! ## Durations -/

/-- Samples of an Opus packet at 48 kHz. -/
def opusPacketDurationSamples (payload : Bytes) : Option ℕ :=
  match payload with
  | [] => none
  | toc :: rest =>
    let config := (toc >>> 3).toNat
    let samplesPerFrame :=
      if config < 12 then [480, 960, 1920, 2880].getD (config % 4) 0
      else if config < 16 then 480 <<< (config % 2)
      else 120 <<< (config % 4)
    let frameCount :=
      match (toc &&& 0x03).toNat with
      | 0 => 1
      | 1 | 2 => 2
      | _ => (rest.headD 0 &&& 0x3F).toNat
    let duration := samplesPerFrame * frameCount
    if duration = 0 ∨ 5760 < duration then none else some duration

/-- A packet of another codec is taken for AAC. -/
def finalAudioSampleDuration (frame : AVFrame) (timescale : ℕ) : ℕ :=
  if frame.codec ≠ .opus then 1024
  else
    let samples := (opusPacketDurationSamples frame.payload).getD 960
    if timescale = 0 then max (samples * 1000 / 48000) 1
    else toU32 (samples * timescale / 48000 : ℕ)

/-- Milliseconds in units of a track; without a clock they stay as they are. -/
def scaled (timescale : ℕ) (ms : ℤ) : ℤ :=
  if timescale = 0 then ms else (wrap64 (ms * timescale)).tdiv 1000

/-- The time up to the next sample, or a guess for the last one. -/
def sampleDuration (timescale : ℕ) (endDTS : ℤ) (f : AVFrame) : Option AVFrame → ℕ
  | some next => toU32 (scaled timescale (next.dts - f.dts))
  | none =>
    if f.mediaType = .video ∧ f.dts < endDTS then
      toU32 ((wrap64 ((endDTS - f.dts) * timescale)).tdiv 1000)
    else if f.mediaType = .video then 3000
    else finalAudioSampleDuration f timescale

def sampleFlags (f : AVFrame) : ℕ :=
  if f.frameType.isKeyframe then 0x02000000 else 0x01010000

/-! ## Tracks -/

/-- The entries of the run: duration, size, flags and composition offset of
each sample. -/
def trunEntries (timescale : ℕ) (endDTS : ℤ) : List AVFrame → Bytes
  | [] => []
  | f :: rest =>
    be32Bytes (sampleDuration timescale endDTS f rest.head?) ++
      be32Bytes f.payload.length ++ be32Bytes (sampleFlags f) ++
      be32Bytes (toU32 (scaled timescale (f.pts - f.dts))) ++
      trunEntries timescale endDTS rest

def baseDecodeTime (timescale : ℕ) (baseDTS : ℤ) (frames : List AVFrame) : ℕ :=
  match frames with
  | [] => 0
  | f :: _ => wordOf (scaled timescale (max (f.dts - baseDTS) 0))

/-- The offset of the data is left open. -/
def writeTraf (trackID : ℕ) (frames : List AVFrame) (timescale : ℕ)
    (endDTS baseDTS : ℤ) : Bytes :=
  writeBox boxTraf (writeFullBox boxTfhd 0 0x020000 (be32Bytes trackID) ++ writeFullBox boxTfdt 1 0
        (be64Bytes (baseDecodeTime timescale baseDTS frames)) ++
      writeFullBox boxTrun 1 0x000F01
        (be32Bytes frames.length ++ be32Bytes 0 ++ trunEntries timescale endDTS frames))

/-! ## Offsets -/

/-- Bytes 16 to 19: behind the header of a box, its version and flags and the
number of samples. -/
def patchDataOffset (dataOffset : ℕ) (data : Bytes) : Bytes :=
  if 20 ≤ data.length then
    data.take 16 ++ be32Bytes dataOffset ++ data.drop 20
  else data

@[simp] theorem length_patchDataOffset (dataOffset : ℕ) (data : Bytes) :
    (patchDataOffset dataOffset data).length = data.length := by
  unfold patchDataOffset
  split
  next h =>
    simp only [List.length_append, List.length_take, List.length_drop,
      be32Bytes, List.length_cons, List.length_nil]
    omega
  · rfl

def fixTrun (dataOffset : ℕ) (data : Bytes) : Bytes :=
  match _h : splitBox data with
  | none => data
  | some (boxType, _, rest) =>
    let patched :=
      if boxType = boxTrun then patchDataOffset dataOffset data else data
    let size := data.length - rest.length
    patched.take size ++ fixTrun dataOffset (patched.drop size)
termination_by data.length
decreasing_by
  have := splitBox_length _h
  rw [List.length_drop]
  split
  · rw [length_patchDataOffset]
    omega
  · omega

/-- The first `traf` gets the offset of the video, the others that of the
audio. -/
def fixTrunDataOffsetsPerTrack (videoOffset audioOffset : ℕ) (trafIndex : ℕ)
    (data : Bytes) : Bytes :=
  match _h : splitBox data with
  | none => data
  | some (boxType, content, rest) =>
    let isTraf := boxType = boxTraf
    let dataOffset := if 0 < trafIndex then audioOffset else videoOffset
    let fixed := if isTraf then fixTrun dataOffset content else content
    data.take 8 ++ fixed ++ fixTrunDataOffsetsPerTrack videoOffset audioOffset
        (if isTraf then trafIndex + 1 else trafIndex) rest
termination_by data.length
decreasing_by
  have := splitBox_length _h
  omega

/-! ## Segments -/

def mdatPayload (frames : List AVFrame) : Bytes :=
  ((videoSamples frames ++ audioSamples frames).map AVFrame.payload).flatten

/-- The content of the `moof` before the offsets are known. -/
def moofBytes (frames : List AVFrame) (sequenceNumber audioTimescale : ℕ)
    (videoEndDTS videoBaseDTS audioBaseDTS : ℤ) : Bytes :=
  writeFullBox boxMfhd 0 0 (be32Bytes sequenceNumber) ++
    (if videoSamples frames = [] then []
      else writeTraf videoTrackID (videoSamples frames) timescaleVideo videoEndDTS videoBaseDTS) ++
    (if audioSamples frames = [] then []
      else writeTraf audioTrackID (audioSamples frames) audioTimescale 0 audioBaseDTS)

/-- Sums of sizes are 32-bit numbers. -/
def buildMediaSegment (frames : List AVFrame) (sequenceNumber audioTimescale : ℕ)
    (videoEndDTS videoBaseDTS audioBaseDTS : ℤ) : Bytes :=
  if frames = [] then []
  else
    let moof := moofBytes frames sequenceNumber audioTimescale videoEndDTS
      videoBaseDTS audioBaseDTS
    let videoDataSize :=
      ((videoSamples frames).map fun f => f.payload.length).sum
    let videoOffset := (8 + moof.length + 8) % 2 ^ 32
    let audioOffset := (videoOffset + videoDataSize) % 2 ^ 32
    writeBox boxMoof (fixTrunDataOffsetsPerTrack videoOffset audioOffset 0 moof) ++
      writeBox boxMdat (mdatPayload frames)

/-! ## The muxer -/

structure Muxer where
  videoCodec : CodecType
  audioCodec : CodecType
  audioSampleRate : ℕ := 0
  sequenceNumber : ℕ := 0

/-- What an init segment is made from; the dimensions of the picture, which
nothing here reads, are left out. -/
structure InitSegment where
  videoCodec : CodecType
  audioCodec : CodecType
  videoData : Bytes
  audioData : Bytes
  sampleRate : ℕ
  channels : ℕ
  deriving DecidableEq

def timescaleAudio : ℕ := 44100

/-- What is not known is taken from the record of the codec. -/
def resolveAudioConfig (codec : CodecType) (audioData : Bytes)
    (sampleRate channels : ℤ) : ℤ × ℤ :=
  let info := (AAC.parseAudioSpecificConfig audioData).toOption
  let recorded : ℕ :=
    match codec with
    | .aac => (info.map AAC.AACInfo.sampleRate).getD 0
    | .opus => 48000
    | .mp3 => 44100
    | _ => 0
  let recordedChannels : ℕ :=
    if codec = .aac then (info.map AAC.AACInfo.channels).getD 0 else 0
  (if 0 < sampleRate then sampleRate
    else if recorded = 0 then timescaleAudio else recorded,
   if 0 < channels then channels
    else if recordedChannels = 0 then 2 else recordedChannels)

def boundedAudioSampleRate (sampleRate : ℤ) : ℕ :=
  if sampleRate ≤ 0 then timescaleAudio
  else (min sampleRate (2 ^ 31 - 1)).toNat

def newMuxer (videoCodec audioCodec : CodecType) : Muxer :=
  { videoCodec, audioCodec }

namespace Muxer

def init (m : Muxer) (videoSeqHeader audioSeqHeader : Option AVFrame)
    (sampleRate channels : ℤ) : Muxer × InitSegment :=
  let videoData := (videoSeqHeader.map AVFrame.payload).getD []
  let audioData := (audioSeqHeader.map AVFrame.payload).getD []
  let resolved := resolveAudioConfig m.audioCodec audioData sampleRate channels
  let rate := boundedAudioSampleRate resolved.1
  ({ m with audioSampleRate := rate },
    { videoCodec := m.videoCodec
      audioCodec := m.audioCodec
      videoData
      audioData
      sampleRate := rate
      channels := resolved.2.toNat })

/-- What the three functions that write a segment have in common. -/
def writeWith (m : Muxer) (frames : List AVFrame)
    (videoEndDTS videoBaseDTS audioBaseDTS : ℤ) : Muxer × Bytes :=
  let m := { m with sequenceNumber := (m.sequenceNumber + 1) % 2 ^ 32 }
  (m, buildMediaSegment frames m.sequenceNumber m.audioSampleRate videoEndDTS
    videoBaseDTS audioBaseDTS)

def writeSegment (m : Muxer) (frames : List AVFrame) : Muxer × Bytes :=
  m.writeWith frames 0 0 0

def writeSegmentWithBaseDTS (m : Muxer) (frames : List AVFrame)
    (videoBaseDTS audioBaseDTS : ℤ) : Muxer × Bytes :=
  m.writeWith frames 0 videoBaseDTS audioBaseDTS

def writeSegmentUntil (m : Muxer) (frames : List AVFrame) (endDTS : ℤ) : Muxer × Bytes :=
  m.writeWith frames endDTS 0 0

end Muxer

/-! ## Slices -/

def nalUnitType (nal : Bytes) : UInt8 := nal.headD 0 &&& 0x1F

def isSlice (nal : Bytes) : Bool := 1 ≤ nalUnitType nal ∧ nalUnitType nal ≤ 5

variable {nals : List Bytes}

theorem h264NALType_append (nal : Bytes) :
    h264NALType (be32Bytes nal.length ++ nal) = nalUnitType nal := by
  cases nal <;> rfl

theorem lengthPrefixed_prefixed32 (h : ∀ nal ∈ nals, nal ≠ [] ∧ nal.length < 2 ^ 32) :
    lengthPrefixed (prefixed32 nals) = nals.map fun nal => be32Bytes nal.length ++ nal := by
  induction nals with
  | nil => simp [prefixed32, lengthPrefixed]
  | cons nal nals ih =>
    obtain ⟨⟨hne, hlt⟩, hrest⟩ := List.forall_mem_cons.mp h
    obtain ⟨first, tail, rfl⟩ := List.exists_cons_of_ne_nil hne
    have hsize := be32_byteOf (first :: tail).length
    rw [Nat.mod_eq_of_lt hlt] at hsize
    rw [prefixed32_cons, List.cons_append, lengthPrefixed, hsize, if_neg, ← List.cons_append,
      List.take_left, List.drop_left, ih hrest]
    · rfl
    · simp only [List.length_cons, List.length_append]
      omega

/-- Exactly the slices are left when the first scan finds a unit of the types
it looks for, and when there are only slices. -/
theorem filterH264VCLNALUs_slices_iff (nals : List Bytes)
    (h : ∀ nal ∈ nals, nal ≠ [] ∧ nal.length < 2 ^ 32) :
    filterH264VCLNALUs (prefixed32 nals) = prefixed32 (nals.filter isSlice) ↔
      (∃ nal ∈ nals, nalUnitType nal ∈ [6, 7, 8, 9]) ∨ ∀ nal ∈ nals, isSlice nal := by
  have hslices : ∀ nal ∈ nals.filter isSlice, nal ≠ [] ∧ nal.length < 2 ^ 32 :=
    fun nal hnal => h nal (List.mem_of_mem_filter hnal)
  simp only [filterH264VCLNALUs, lengthPrefixed_prefixed32 h, List.any_map, List.filter_map,
    Function.comp_def, h264NALType_append]
  split
  next hfound =>
    refine iff_of_true rfl (.inl ?_)
    simpa using hfound
  next hnone =>
    have hall : prefixed32 nals = prefixed32 (nals.filter isSlice) ↔ ∀ nal ∈ nals, isSlice nal := by
      refine ⟨fun heq => ?_, fun hall => by rw [List.filter_eq_self.mpr hall]⟩
      have hunits := congrArg (List.length ∘ lengthPrefixed) heq
      simp only [Function.comp_apply, lengthPrefixed_prefixed32 h,
        lengthPrefixed_prefixed32 hslices, List.length_map] at hunits
      exact List.length_filter_eq_length_iff.mp hunits.symm
    rw [hall, or_iff_right]
    simpa using hnone

theorem filterH264VCLNALUs_slices_iff_keyframe :
    filterH264VCLNALUs (prefixed32 [[0x67, 1], [0x65, 2]]) = prefixed32 [[0x65, 2]] :=
  (filterH264VCLNALUs_slices_iff [[0x67, 1], [0x65, 2]] (by simp)).mpr
    (.inl ⟨[0x67, 1], by simp, by decide⟩)

/-- Filler data alone is not looked for. -/
theorem filler_kept :
    filterH264VCLNALUs (prefixed32 [[0x0C, 0xFF], [0x61, 2]]) ≠ prefixed32 [[0x61, 2]] := by
  rw [filterH264VCLNALUs, lengthPrefixed_prefixed32 (by simp)]
  decide

end LiveForge.Fmp4
