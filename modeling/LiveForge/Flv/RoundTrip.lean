import LiveForge.Flv.Demuxer

/-!
# What the muxer writes, the demuxer reads

Every frame that the format can represent comes back unchanged.  The format
has no key frames for audio, no sequence header for MP3 in its classic form,
and 24 bits for the size of a body.
-/

namespace LiveForge.Flv

open Support Demuxer

/-! ## Fields -/

theorem and_signBit_ne_zero (a : UInt8) : a &&& 0x80 ≠ 0 ↔ 128 ≤ a.toNat :=
  forall_byte (p := fun a => a &&& 0x80 ≠ 0 ↔ 128 ≤ a.toNat) (by decide +kernel) a

variable {bytes : Bytes}

theorem decodeSI24_encodeSI24 {value : ℤ} (h : encodeSI24 value = .ok bytes) :
    ∃ a b c, bytes = [a, b, c] ∧ decodeSI24 a b c = value := by
  unfold encodeSI24 at h
  split at h
  · simp at h
  next hrange =>
    simp only [Except.ok.injEq] at h
    refine ⟨_, _, _, h.symm, ?_⟩
    rw [decodeSI24, be24_byteOf]
    simp only [and_signBit_ne_zero, toNat_byteOf]
    split <;> split <;> omega

theorem timestamp_writeTag (ts : ℕ) :
    be24 (byteOf ts 16) (byteOf ts 8) (byteOf ts 0) ||| (byteOf ts 24).toNat <<< 24 =
      ts % 2 ^ 32 := by
  rw [be24_byteOf, Nat.or_comm, ← Nat.shiftLeft_add_eq_or_of_lt
    (Nat.mod_lt _ (by decide)), toNat_byteOf]
  omega

variable {body fourCC : Bytes} {packet tagType first : UInt8} {codec : CodecType} {f : AVFrame}
  {mode : EncodingMode}

theorem readOneTag_writeTag {dts : ℤ} (hlow : 0 ≤ dts) (hhigh : dts < 2 ^ 32)
    (hbody : body.length < 2 ^ 24) (rest : Bytes) :
    readOneTag (writeTag tagType dts body ++ rest) =
      (parseTag tagType body dts).map fun frame => (frame, rest) := by
  have hheader : ([tagType] ++ be24Bytes body.length ++
      [byteOf (dts % 2 ^ 32).toNat 16, byteOf (dts % 2 ^ 32).toNat 8,
        byteOf (dts % 2 ^ 32).toNat 0, byteOf (dts % 2 ^ 32).toNat 24] ++
        [0, 0, 0]).length = tagHeaderSize := rfl
  have hsize : (be32Bytes (tagHeaderSize + body.length)).length = 4 := rfl
  rw [readOneTag, writeTag, List.append_assoc, List.append_assoc, readFull_append hheader]
  simp only [Except.mapError, ok_bind]
  have hread : be24 (byteOf body.length 16) (byteOf body.length 8)
      (byteOf body.length 0) = body.length := by
    rw [be24_byteOf, Nat.mod_eq_of_lt hbody]
  have htime : ((be24 (byteOf (dts % 2 ^ 32).toNat 16)
      (byteOf (dts % 2 ^ 32).toNat 8) (byteOf (dts % 2 ^ 32).toNat 0) |||
        (byteOf (dts % 2 ^ 32).toNat 24).toNat <<< 24 : ℕ) : ℤ) = dts := by
    rw [timestamp_writeTag]
    omega
  simp only [be24Bytes, List.cons_append, List.nil_append, List.getD_cons_zero,
    List.getD_cons_succ, hread, htime]
  rw [readFull_append rfl]
  simp only [ok_bind]
  rw [readFull_append hsize]
  cases parseTag tagType body dts <;> rfl

/-! ## Bodies -/

/-- What a media container keeps of a frame. -/
def mediaPart (f : AVFrame) : AVFrame :=
  newAVFrame f.mediaType f.codec f.frameType f.dts f.pts f.payload

def IsVideoFrameType (frameType : FrameType) : Prop :=
  frameType = .keyframe ∨ frameType = .interframe ∨ frameType = .sequenceHeader

instance (frameType : FrameType) : Decidable (IsVideoFrameType frameType) :=
  inferInstanceAs (Decidable (_ ∨ _ ∨ _))

theorem parseVideoPayload_classic (hclassic : first &&& 0x80 = 0)
    (hcodec : flvVideoCodecToAVFrame (first &&& 0x0F) = codec)
    (hknown : codec ≠ .none) (hpacket : packet = 0 ∨ packet = 1) (a b c : UInt8)
    (payload : Bytes) (dts : ℤ) :
    parseVideoPayload (first :: packet :: a :: b :: c :: payload) dts =
      .ok (some (newAVFrame .video codec
        (if packet = 0 then .sequenceHeader else frameTypeFromFLV (first >>> 4))
        dts (dts + decodeSI24 a b c) payload)) := by
  rw [parseVideoPayload, if_neg (by simp), if_neg (by simpa using hclassic),
    parseClassicVideoPayload]
  have hlonger : ¬ payload.length + 1 + 1 + 1 + 1 + 1 < 2 := by omega
  rcases hpacket with rfl | rfl <;> simp [hcodec, hknown, hlonger]

theorem parse_classicVideoBody (hvideo : f.mediaType = .video)
    (htype : IsVideoFrameType f.frameType) (h : classicVideoBody f = .ok body) :
    parseVideoPayload body f.dts = .ok (some (mediaPart f)) := by
  unfold classicVideoBody at h
  split_ifs at h with hcodec
  obtain ⟨cts, hcts, hbody⟩ := bind_eq_ok.mp h
  obtain ⟨a, b, c, rfl, hoffset⟩ := decodeSI24_encodeSI24 hcts
  have hcodec : f.codec = .h264 := by simpa using hcodec
  have hpts : f.dts + decodeSI24 a b c = f.pts := by omega
  cases hbody
  rw [mediaPart, hvideo, hcodec, ← hpts]
  rcases htype with htype | htype | htype <;>
  · simp only [packetType, htype]
    exact parseVideoPayload_classic (by decide) (by decide) (by decide)
      (by decide) a b c f.payload f.dts

section Enhanced

variable (henhanced : first &&& 0x80 ≠ 0) (hlength : fourCC.length = 4)
  (hcodec : videoFourCCToCodec fourCC = codec) (hknown : codec ≠ .none)

include henhanced hlength hcodec hknown

theorem parseVideoPayload_sequenceStart (hpacket : first &&& 0x0F = 0) (payload : Bytes) (dts : ℤ) :
    parseVideoPayload (first :: (fourCC ++ payload)) dts =
      .ok (some (newAVFrame .video codec .sequenceHeader dts dts payload)) := by
  rw [parseVideoPayload, if_neg (by simp), if_pos (by simpa using henhanced),
    parseEnhancedVideoPayload]
  simp [hpacket, hlength, hcodec, hknown]

theorem parseVideoPayload_codedFrames (hpacket : first &&& 0x0F = 1)
    (hplain : codec ≠ .h264 ∧ codec ≠ .h265) (payload : Bytes) (dts : ℤ) :
    parseVideoPayload (first :: (fourCC ++ payload)) dts = .ok (some (newAVFrame .video codec
        (frameTypeFromFLV ((first >>> 4) &&& 0x07)) dts dts payload)) := by
  rw [parseVideoPayload, if_neg (by simp), if_pos (by simpa using henhanced),
    parseEnhancedVideoPayload]
  simp [hpacket, hlength, hcodec, hknown, hplain]

theorem parseVideoPayload_codedFramesOffset (hpacket : first &&& 0x0F = 1)
    (hoffset : codec = .h264 ∨ codec = .h265) (a b c : UInt8) (payload : Bytes) (dts : ℤ) :
    parseVideoPayload (first :: (fourCC ++ (a :: b :: c :: payload))) dts =
      .ok (some (newAVFrame .video codec (frameTypeFromFLV ((first >>> 4) &&& 0x07)) dts
          (dts + decodeSI24 a b c) payload)) := by
  rw [parseVideoPayload, if_neg (by simp), if_pos (by simpa using henhanced),
    parseEnhancedVideoPayload]
  obtain ⟨w, x, y, z, rfl⟩ : ∃ w x y z, fourCC = [w, x, y, z] := by
    match fourCC, hlength with
    | [w, x, y, z], _ => exact ⟨w, x, y, z, rfl⟩
  have hlonger : ¬ payload.length + 1 + 1 + 1 + 1 + 1 + 1 + 1 + 1 < 8 := by
    omega
  simp [hpacket, hcodec, hknown, hoffset, hlonger]

end Enhanced

theorem videoFourCC_spec (h : videoCodecToFourCC codec ≠ [0, 0, 0, 0]) :
    (videoCodecToFourCC codec).length = 4 ∧
      videoFourCCToCodec (videoCodecToFourCC codec) = codec ∧ codec ≠ .none := by
  revert h
  cases codec <;> decide

theorem enhancedFirstByte (htype : IsVideoFrameType f.frameType) :
    let first := (0x80 : UInt8) ||| avFrameTypeToFLV f.frameType <<< 4 ||| packetType f
    first &&& 0x80 ≠ 0 ∧ first &&& 0x0F = packetType f ∧ (f.frameType ≠ .sequenceHeader →
        frameTypeFromFLV ((first >>> 4) &&& 0x07) = f.frameType) := by
  rcases htype with htype | htype | htype <;>
  · simp only [packetType, htype]
    decide

theorem parse_enhancedVideoBody (hvideo : f.mediaType = .video)
    (htype : IsVideoFrameType f.frameType) (hpts : f.frameType = .sequenceHeader → f.pts = f.dts)
    (h : enhancedVideoBody f = .ok body) :
    parseVideoPayload body f.dts = .ok (some (mediaPart f)) := by
  simp only [enhancedVideoBody] at h
  split_ifs at h with hfourCC
  obtain ⟨hlength, hcodec, hknown⟩ := videoFourCC_spec hfourCC
  obtain ⟨henhanced, hpacket, hframeType⟩ := enhancedFirstByte htype
  obtain ⟨cts, hcts, hbody⟩ := bind_eq_ok.mp h
  simp only [pure, Except.pure, Except.ok.injEq, List.append_assoc] at hbody
  subst hbody
  rw [mediaPart, hvideo]
  unfold enhancedOffset at hcts
  by_cases hsequence : f.frameType = .sequenceHeader
  · have hzero : packetType f = 0 := by rw [packetType, if_pos hsequence]
    rw [if_neg (by rw [hzero]; decide), Except.ok.injEq] at hcts
    subst hcts
    have hframe : newAVFrame .video f.codec f.frameType f.dts f.pts f.payload =
        newAVFrame .video f.codec .sequenceHeader f.dts f.dts f.payload := by
      rw [hsequence, hpts hsequence]
    rw [hframe]
    exact parseVideoPayload_sequenceStart henhanced hlength hcodec hknown
      (hpacket.trans hzero) f.payload f.dts
  · have hone : packetType f = 1 := by rw [packetType, if_neg hsequence]
    rw [if_pos hone] at hcts
    split at hcts
    next hoffset =>
      obtain ⟨a, b, c, rfl, hvalue⟩ := decodeSI24_encodeSI24 hcts
      have hsum : f.pts = f.dts + decodeSI24 a b c := by omega
      have hparsed := parseVideoPayload_codedFramesOffset henhanced hlength
        hcodec hknown (hpacket.trans hone) hoffset a b c f.payload f.dts
      rw [hframeType hsequence, ← hsum] at hparsed
      exact hparsed
    next hplain =>
      split_ifs at hcts with hsame
      have heq : f.pts = f.dts := by simpa using hsame
      cases hcts
      have hparsed := parseVideoPayload_codedFrames henhanced hlength hcodec
        hknown (hpacket.trans hone) (not_or.mp hplain) f.payload f.dts
      rw [hframeType hsequence] at hparsed
      rw [heq]
      exact hparsed

theorem parse_videoBody (hvideo : f.mediaType = .video) (htype : IsVideoFrameType f.frameType)
    (hpts : f.frameType = .sequenceHeader → f.pts = f.dts) (h : videoBody f mode = .ok body) :
    parseVideoPayload body f.dts = .ok (some (mediaPart f)) := by
  cases mode with
  | auto =>
    simp only [videoBody] at h
    split at h
    · exact parse_classicVideoBody hvideo htype h
    · exact parse_enhancedVideoBody hvideo htype hpts h
  | classic => exact parse_classicVideoBody hvideo htype h
  | enhanced => exact parse_enhancedVideoBody hvideo htype hpts h
  | other value => simp [videoBody] at h

/-- The frame types of audio in a mode: MP3 has no sequence header in the
classic form. -/
def IsAudioFrameType (mode : EncodingMode) (codec : CodecType) (frameType : FrameType) : Prop :=
  frameType = .interframe ∨ (frameType = .sequenceHeader ∧ (codec = .mp3 → mode = .enhanced))

instance (mode : EncodingMode) (codec : CodecType) (frameType : FrameType) :
    Decidable (IsAudioFrameType mode codec frameType) :=
  inferInstanceAs (Decidable (_ ∨ (_ ∧ (_ → _))))

theorem parseAudioPayload_aac (hpacket : packet = 0 ∨ packet = 1) (payload : Bytes) (dts : ℤ) :
    parseAudioPayload (0xAF :: packet :: payload) dts =
      .ok
        (some
          (newAVFrame .audio .aac (if packet = 0 then .sequenceHeader else .interframe) dts dts
            payload)) := by
  have hcodec : flvAudioCodecToAVFrame ((0xAF : UInt8) >>> 4) = .aac := by decide
  rw [parseAudioPayload, if_neg (by simp), if_neg (by simp; decide), parseClassicAudioPayload]
  rcases hpacket with rfl | rfl <;> simp [hcodec]

theorem parseAudioPayload_mp3 (payload : Bytes) (dts : ℤ) :
    parseAudioPayload (0x2F :: payload) dts =
      .ok (some (newAVFrame .audio .mp3 .interframe dts dts payload)) := by
  have hcodec : flvAudioCodecToAVFrame ((0x2F : UInt8) >>> 4) = .mp3 := by decide
  rw [parseAudioPayload, if_neg (by simp), if_neg (by simp; decide), parseClassicAudioPayload]
  simp [hcodec]

theorem parse_classicAudioBody (haudio : f.mediaType = .audio) (hmode : mode ≠ .enhanced)
    (htype : IsAudioFrameType mode f.codec f.frameType) (hpts : f.pts = f.dts)
    (h : classicAudioBody f = .ok body) :
    parseAudioPayload body f.dts = .ok (some (mediaPart f)) := by
  unfold classicAudioBody at h
  split at h
  · simp at h
  next hcodec =>
    cases h
    rw [mediaPart, haudio, hpts]
    by_cases haac : f.codec = .aac
    · rcases htype with htype | ⟨htype, -⟩ <;>
      · simp only [haac, htype, packetType]
        exact parseAudioPayload_aac (by decide) f.payload f.dts
    · have hmp3 : f.codec = .mp3 := by
        by_contra hne
        exact hcodec ⟨haac, hne⟩
      rcases htype with htype | ⟨-, himplies⟩
      · simp only [hmp3, htype]
        exact parseAudioPayload_mp3 f.payload f.dts
      · exact absurd (himplies hmp3) hmode

theorem audioFourCC_spec (h : audioCodecToFourCC codec ≠ []) :
    (audioCodecToFourCC codec).length = 4 ∧ audioFourCCToCodec (audioCodecToFourCC codec) = codec ∧
      codec ≠ .none := by
  revert h
  cases codec <;> decide

theorem parseAudioPayload_enhanced (hpacket : packet = 0 ∨ packet = 1)
    (hlength : fourCC.length = 4) (hcodec : audioFourCCToCodec fourCC = codec)
    (hknown : codec ≠ .none) (payload : Bytes) (dts : ℤ) :
    parseAudioPayload ((audioFormatExHeader <<< 4 ||| packet) :: (fourCC ++ payload)) dts =
      .ok
        (some
          (newAVFrame .audio codec (if packet = 0 then .sequenceHeader else .interframe) dts dts
            payload)) := by
  have hbits : (audioFormatExHeader <<< 4 ||| packet) >>> 4 = audioFormatExHeader ∧
        (audioFormatExHeader <<< 4 ||| packet) &&& 0x0F = packet := by
    rcases hpacket with rfl | rfl <;> decide
  rw [parseAudioPayload, if_neg (by simp), if_pos (by simpa using hbits.1),
    parseEnhancedAudioPayload]
  rcases hpacket with rfl | rfl <;>
  · simp only [List.getD_cons_zero, hbits.2]
    simp [hlength, hcodec, hknown]

theorem parse_enhancedAudioBody {body : Bytes} (haudio : f.mediaType = .audio)
    (htype : f.frameType = .interframe ∨ f.frameType = .sequenceHeader)
    (hpts : f.pts = f.dts) (h : enhancedAudioBody f = .ok body) :
    parseAudioPayload body f.dts = .ok (some (mediaPart f)) := by
  simp only [enhancedAudioBody] at h
  split_ifs at h with hfourCC
  obtain ⟨hlength, hcodec, hknown⟩ := audioFourCC_spec hfourCC
  simp only [Except.ok.injEq] at h
  subst h
  rw [mediaPart, haudio, hpts]
  rcases htype with htype | htype <;>
  · simp only [htype, packetType]
    exact parseAudioPayload_enhanced (by decide) hlength hcodec hknown f.payload f.dts

theorem parse_audioBody (haudio : f.mediaType = .audio)
    (htype : IsAudioFrameType mode f.codec f.frameType) (hpts : f.pts = f.dts)
    (h : audioBody f mode = .ok body) :
    parseAudioPayload body f.dts = .ok (some (mediaPart f)) := by
  have henhanced := @parse_enhancedAudioBody f body haudio (htype.imp_right And.left) hpts
  cases mode with
  | auto =>
    simp only [audioBody] at h
    split at h
    · exact parse_classicAudioBody haudio (by decide) htype hpts h
    · exact henhanced h
  | classic => exact parse_classicAudioBody haudio (by decide) htype hpts h
  | enhanced => exact henhanced h
  | other value => simp [audioBody] at h

/-! ## Frames -/

namespace Muxer

def bodySize (m : Muxer) (f : AVFrame) : ℕ :=
  match m.tagOf f with
  | .ok (_, body) => body.length
  | .error _ => 0

/-- The frame type has a code of its own in the header of its tag. -/
def HasFrameType (m : Muxer) (f : AVFrame) : Prop :=
  match f.mediaType with
  | .video => IsVideoFrameType f.frameType
  | _ => IsAudioFrameType m.audioMode f.codec f.frameType

instance (m : Muxer) (f : AVFrame) : Decidable (m.HasFrameType f) := by
  unfold HasFrameType
  split <;> infer_instance

/-- The times of a frame that a tag can carry: an audio frame and a sequence
header are presented when they are decoded. -/
def HasTimes (f : AVFrame) : Prop :=
  0 ≤ f.dts ∧ f.dts < 2 ^ 32 ∧
    (f.mediaType = .audio ∨ f.frameType = .sequenceHeader → f.pts = f.dts)

instance (f : AVFrame) : Decidable (HasTimes f) :=
  inferInstanceAs (Decidable (_ ∧ _ ∧ (_ → _)))

/-- A frame that its tag determines. -/
structure Represents (m : Muxer) (f : AVFrame) : Prop where
  times : HasTimes f
  frameType : m.HasFrameType f
  size : m.bodySize f < 2 ^ 24

instance (m : Muxer) (f : AVFrame) : Decidable (m.Represents f) :=
  decidable_of_iff (HasTimes f ∧ m.HasFrameType f ∧ m.bodySize f < 2 ^ 24)
    ⟨fun ⟨ht, hf, hs⟩ => ⟨ht, hf, hs⟩, fun ⟨ht, hf, hs⟩ => ⟨ht, hf, hs⟩⟩

variable {m : Muxer}

theorem parseTag_tagOf {body : Bytes} (hf : m.Represents f) (h : m.tagOf f = .ok (tagType, body)) :
    parseTag tagType body f.dts = .ok (some (mediaPart f)) := by
  have htype := hf.frameType
  obtain ⟨-, -, hpts⟩ := hf.times
  unfold tagOf at h
  unfold HasFrameType at htype
  cases hmedia : f.mediaType with
  | video =>
    rw [hmedia] at h htype
    obtain ⟨written, hbody, hpair⟩ := bind_eq_ok.mp h
    cases hpair
    exact parse_videoBody hmedia htype (fun hs => hpts (.inr hs)) hbody
  | audio =>
    rw [hmedia] at h htype
    obtain ⟨written, hbody, hpair⟩ := bind_eq_ok.mp h
    cases hpair
    exact parse_audioBody hmedia htype (hpts (.inl hmedia)) hbody
  | other =>
    rw [hmedia] at h
    simp at h

theorem readFrame_writeFrame (hf : m.Represents f) (h : m.writeFrame f = .ok bytes) (rest : Bytes) :
    readFrame (bytes ++ rest) = .ok (mediaPart f, rest) := by
  obtain ⟨⟨tagType, body⟩, htag, hbytes⟩ := bind_eq_ok.mp h
  have hsize : body.length < 2 ^ 24 := by
    have := hf.size
    rwa [bodySize, htag] at this
  have hread : readOneTag (writeTag tagType f.dts body ++ rest) =
      .ok (some (mediaPart f), rest) := by
    rw [readOneTag_writeTag hf.times.1 hf.times.2.1 hsize, parseTag_tagOf hf htag]
    rfl
  rw [← Except.ok.inj hbytes]
  exact readFrame_of_some hread

/-- The tags of a list of frames are read back up to the end of the input. -/
theorem readAll_writeFrames {frames : List AVFrame}
    (hframes : ∀ f ∈ frames, m.Represents f) (h : m.writeFrames frames = .ok bytes) :
    readAll ⟨bytes, true⟩ = .ok (frames.map mediaPart) := by
  induction frames generalizing bytes with
  | nil =>
    rw [← Except.ok.inj h]
    exact readAll_of_eof readTag_nil
  | cons f frames ih =>
    obtain ⟨first, hfirst, hmore⟩ := bind_eq_ok.mp h
    obtain ⟨rest, hrest, hbytes⟩ := bind_eq_ok.mp hmore
    have hread : readTag ⟨bytes, true⟩ = .ok (mediaPart f, ⟨rest, true⟩) := by
      rw [← Except.ok.inj hbytes, readTag, afterHeader, if_pos rfl, ok_bind,
        readFrame_writeFrame (hframes f List.mem_cons_self) hfirst rest]
      rfl
    rw [readAll_of_frame hread, ih (fun f hf => hframes f (List.mem_cons_of_mem _ hf)) hrest]
    rfl

end Muxer

/-! ## The round trip -/

theorem readAll_writeHeader (hasVideo hasAudio : Bool) (input : Bytes) :
    readAll { input := Muxer.writeHeader hasVideo hasAudio ++ input } = readAll ⟨input, true⟩ := by
  apply readAll_congr
  rfl

/-- A file of representable frames is read back frame by frame: the media
type, the codec, the frame type, both times and the payload. -/
theorem read_written_frames {m : Muxer} {frames : List AVFrame} {bytes : Bytes}
    (hasVideo hasAudio : Bool) (hwrite : m.writeFrames frames = .ok bytes)
    (hframes : ∀ f ∈ frames, m.Represents f) :
    Demuxer.readAll { input := Muxer.writeHeader hasVideo hasAudio ++ bytes } =
      .ok (frames.map mediaPart) := by
  rw [readAll_writeHeader]
  exact Muxer.readAll_writeFrames hframes hwrite

/-- The start of a stream: two sequence headers, a key frame presented later
than it is decoded, a frame presented earlier, and audio. -/
def openingFrames : List AVFrame :=
  [newAVFrame .video .h264 .sequenceHeader 0 0 [0x01, 0x42],
    newAVFrame .audio .aac .sequenceHeader 0 0 [0x12, 0x10],
    newAVFrame .video .h264 .keyframe 16777216 16777256 [0x65],
    newAVFrame .video .h265 .interframe 4294967295 4294967290 [0x02, 0x01],
    newAVFrame .video .av1 .interframe 40 40 [],
    newAVFrame .audio .opus .interframe 20 20 [0xFC]]

theorem read_written_frames_opening :
    ∃ bytes, newMuxer.writeFrames openingFrames = .ok bytes ∧
      (∀ f ∈ openingFrames, newMuxer.Represents f) ∧
        Demuxer.readAll { input := Muxer.writeHeader true true ++ bytes } =
          .ok openingFrames := by
  have hframes : ∀ f ∈ openingFrames, newMuxer.Represents f := by decide
  exact ⟨_, rfl, hframes, read_written_frames true true rfl hframes⟩

/-- Audio has no key frames in a tag: the writer takes one and the reader
returns an inter frame. -/
theorem audio_keyframe_read_as_interframe :
    let written := newAVFrame .audio .aac .keyframe 40 40 [0x21]
    let read := newAVFrame .audio .aac .interframe 40 40 [0x21]
    ∃ bytes, newMuxer.writeFrames [written] = .ok bytes ∧
      Muxer.HasTimes written ∧ newMuxer.bodySize written < 2 ^ 24 ∧
        Demuxer.readAll { input := Muxer.writeHeader false true ++ bytes } = .ok [read] ∧
          read.frameType ≠ written.frameType := by
  intro written read
  have hread : ∀ f ∈ [read], newMuxer.Represents f := by decide
  refine ⟨_, rfl, by decide, by decide, ?_, by decide⟩
  rw [readAll_writeHeader]
  exact Muxer.readAll_writeFrames hread rfl

end LiveForge.Flv
