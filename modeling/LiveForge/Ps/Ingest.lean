import LiveForge.Codec.Records
import LiveForge.Ps.Demuxer

/-!
# H.265 in a program stream without a map

Without a stream map the demuxer takes the codec from the first unit that is
evidence for one.  It looks for H.264 first, and most headers of H.265 are also
headers of H.264; the record it sends before the first keyframe is always one
of H.264.  Fed with PES packets of one access unit each, it therefore takes a
stream in as H.265 only if a VPS, or one of a few rare pictures, comes first
and no keyframe has parameter sets.
-/

namespace LiveForge.Ps

open Support AnnexB H265

/-! ## H.265 in PES packets -/

/-- A unit of H.265: the header has two bytes, and its first bit is zero. -/
structure H265Unit extends CodedUnit where
  two_le : 2 ≤ unit.length
  forbidden_zero : unit.getD 0 0 < 0x80

/-- A PES packet of a video stream that holds one access unit.  The length is
in it or zero. -/
structure AccessUnitPES where
  streamID : UInt8
  isVideo : 0xE0 ≤ streamID ∧ streamID ≤ 0xEF
  flags : UInt8 × UInt8
  header : Bytes
  header_short : header.length < 256
  units : List H265Unit
  ne_nil : units ≠ []
  sized : Bool
  fits : sized → 3 + header.length + (coded (units.map H265Unit.toCodedUnit)).length < 65536

namespace AccessUnitPES

variable (p : AccessUnitPES)

def nalus : List Bytes := p.units.map fun u => u.unit

def payload : Bytes := coded (p.units.map H265Unit.toCodedUnit)

def pesLen : ℕ := if p.sized then 3 + p.header.length + p.payload.length else 0

def bytes : Bytes :=
  [0, 0, 1, p.streamID, byteOf p.pesLen 8, byteOf p.pesLen 0, p.flags.1,
    p.flags.2, UInt8.ofNat p.header.length] ++ p.header ++ p.payload

theorem extractNALUs_payload : extractNALUs p.payload = p.nalus := by
  rw [payload, extractNALUs_coded, List.map_map]
  rfl

theorem splitNALs_payload : Rtp.splitNALs p.payload = p.nalus := by
  rw [payload, Rtp.splitNALs_coded (by simpa using p.ne_nil), List.map_map]
  rfl

theorem length_payload : 5 ≤ p.payload.length := by
  obtain ⟨u, units, hunits⟩ := List.exists_cons_of_ne_nil p.ne_nil
  have hcode : 3 ≤ u.startCode.length := by
    unfold CodedUnit.startCode
    split <;> decide
  have htwo := u.two_le
  rw [payload, hunits, coded, List.map_cons, List.flatMap_cons,
    List.length_append, List.length_append]
  omega

end AccessUnitPES

/-! ## What one access unit does -/

def codecAfter (codec : CodecType) (nalus : List Bytes) : CodecType :=
  if codec = .none then codecOfNALUs nalus else codec

theorem codecAfter_append (codec : CodecType) (nalus more : List Bytes) :
    codecAfter (codecAfter codec nalus) more = codecAfter codec (nalus ++ more) := by
  unfold codecAfter codecOfNALUs
  rw [List.map_append, List.find?_append]
  by_cases hcodec : codec = .none
  · cases hfound : (nalus.map naluCodec).find? (· ≠ .none) with
    | none => simp [hcodec]
    | some found =>
      have hne := List.find?_some hfound
      simp_all
  · simp [hcodec]

/-- Demuxer `d` becomes `d'` and gives `frames` for the units. -/
structure Fed (d : Demuxer) (nalus : List Bytes) (d' : Demuxer) (frames : List AVFrame) : Prop where
  codec : d'.videoCodec = codecAfter d.videoCodec nalus
  labelled : ∀ f ∈ frames, f.codec = d'.videoCodec ∧ d'.videoCodec ≠ .none
  header : (∀ nal ∈ nalus, Rtp.h264NALType nal ≠ 7) → ∀ f ∈ frames, f.frameType ≠ .sequenceHeader

namespace Demuxer

variable (d : Demuxer) (p : AccessUnitPES) (dts pts : ℤ)

theorem emitVideoSequenceHeader_fed (isKey : Bool) (hne : d.videoCodec ≠ .none) :
    ∃ d' frames, d.emitVideoSequenceHeader isKey p.payload dts pts = .ok (d', frames) ∧
      Fed d p.nalus d' frames := by
  have hcodec : d.videoCodec = codecAfter d.videoCodec p.nalus := (if_neg hne).symm
  unfold emitVideoSequenceHeader
  split
  · obtain ⟨config, hconfig⟩ := Rtp.safe_buildAVCDecoderConfig p.payload
    rw [hconfig]
    cases config with
    | none => exact ⟨_, _, rfl, hcodec, by simp, by simp⟩
    | some config =>
      refine ⟨_, _, rfl, hcodec, by simp [newAVFrame, hne], fun hno => ?_⟩
      have hfound : Rtp.firstOfH264Type 7 p.nalus = none :=
        List.find?_eq_none.mpr fun nal hnal => by simp [hno nal hnal]
      rw [Rtp.buildAVCDecoderConfig, Rtp.forEachNAL_eq, ok_bind,
        p.splitNALs_payload, hfound] at hconfig
      cases hconfig
  · exact ⟨_, _, rfl, hcodec, by simp, by simp⟩

theorem handleKnownVideo_fed (hne : d.videoCodec ≠ .none) :
    ∃ d' frames, d.handleKnownVideo p.payload dts pts = .ok (d', frames) ∧
      Fed d p.nalus d' frames := by
  rw [handleKnownVideo, isVideoKeyframe, H264.extractNALUs_eq]
  obtain ⟨d', frames, hemit, hfed⟩ := d.emitVideoSequenceHeader_fed p dts pts
    ((extractNALUs p.payload).any (isKeyNALU d.videoCodec)) hne
  simp only [pure, Except.pure, ok_bind, hemit, Rtp.annexBToAVCC_eq]
  have hcodec : d'.videoCodec ≠ .none := by
    rw [hfed.codec, codecAfter, if_neg hne]
    exact hne
  split
  · exact ⟨_, _, rfl, hfed⟩
  · refine ⟨_, _, rfl, hfed.codec, ?_, fun hno => ?_⟩
    · exact List.forall_mem_append.mpr ⟨hfed.labelled, by simp [newAVFrame, hcodec]⟩
    · refine List.forall_mem_append.mpr ⟨hfed.header hno, ?_⟩
      rw [newAVFrame]
      split <;> simp

theorem handleVideoPayload_fed :
    ∃ d' frames, d.handleVideoPayload p.payload dts pts = .ok (d', frames) ∧
      Fed d p.nalus d' frames := by
  have hdetect : (if d.videoCodec = .none then detectVideoCodec p.payload
      else pure d.videoCodec) = .ok (codecAfter d.videoCodec p.nalus) := by
    rw [codecAfter, detectVideoCodec, H264.extractNALUs_eq, p.extractNALUs_payload]
    split <;> rfl
  rw [handleVideoPayload, hdetect, ok_bind]
  split
  next hnone => exact ⟨_, _, rfl, rfl, by simp, by simp⟩
  next hne =>
    obtain ⟨d', frames, hknown, hfed⟩ := handleKnownVideo_fed
      { d with videoCodec := codecAfter d.videoCodec p.nalus } p dts pts hne
    refine ⟨d', frames, hknown, ?_, hfed.labelled, hfed.header⟩
    rw [hfed.codec, codecAfter, if_neg hne]

/-! ## The packet around it -/

theorem safe_readPESTimestamps (data : Bytes) (flags : UInt8) :
    Safe (readPESTimestamps data flags) := by
  have hat {low : ℕ} (h : low + 5 ≤ data.length) : Safe (timestampAt data low) := by
    unfold timestampAt
    rw [slice_of_le (Nat.le_add_right _ _) h, ok_bind]
    refine safe_ite fun hlong => ?_
    refine (safe_index (by omega)).bind fun _ _ => ?_
    refine (safe_index (by omega)).bind fun _ _ => ?_
    refine (safe_index (by omega)).bind fun _ _ => ?_
    refine (safe_index (by omega)).bind fun _ _ => ?_
    exact (safe_index (by omega)).bind fun _ _ => safe_pure _
  have hite {c : Prop} [Decidable c] {low n : ℕ} (h : c → low + 5 ≤ data.length) :
      Safe (if c then timestampAt data low else pure n) := by
    split
    next hc => exact hat (h hc)
    · exact safe_pure _
  exact (hite fun h => h.2).bind fun _ _ => (hite fun h => h.2).bind fun _ _ =>
    safe_pure _

theorem feed_bytes :
    ∃ d' frames, d.feed p.bytes = .ok (d', frames, none) ∧ Fed d p.nalus d' frames := by
  have hlength : p.bytes.length = 9 + p.header.length + p.payload.length := by
    simp [AccessUnitPES.bytes]
    omega
  have hpayload := p.length_payload
  have hheader : (UInt8.ofNat p.header.length).toNat = p.header.length :=
    Nat.mod_eq_of_lt p.header_short
  have hlow : 0xE0 ≤ p.streamID.toNat := p.isVideo.1
  have hhigh := p.streamID.toNat_lt
  have hpesLen : p.pesLen < 65536 ∧ min (if p.pesLen = 0 then p.bytes.length else 6 + p.pesLen)
        p.bytes.length = p.bytes.length := by
    have hfits := p.fits
    rw [← AccessUnitPES.payload] at hfits
    unfold AccessUnitPES.pesLen
    split
    next hsized =>
      have hfits := hfits hsized
      rw [if_neg (by omega)]
      omega
    · simp
  obtain ⟨⟨pts, dts⟩, htimes⟩ := safe_readPESTimestamps p.bytes (p.flags.2 >>> 6 &&& 0x03)
  obtain ⟨d', frames, hvideo, hfed⟩ := d.handleVideoPayload_fed p dts pts
  have hbody : d.parsePESBody p.bytes p.streamID p.bytes.length = .ok (d', frames) := by
    have hslice : slice p.bytes (9 + p.header.length) p.bytes.length = .ok p.payload := by
      rw [slice_of_le (by omega) (Nat.le_refl _), List.take_length]
      exact congrArg Except.ok (List.drop_left' (by simp; omega))
    have hid : ¬ (p.streamID = 0xBE ∨ p.streamID = 0xBF) := by
      rintro (h | h) <;> rw [h] at hlow <;> exact absurd hlow (by decide)
    have hseven : index p.bytes 7 = .ok p.flags.2 := rfl
    have height : index p.bytes 8 = .ok (UInt8.ofNat p.header.length) := rfl
    rw [parsePESBody, if_neg hid, hseven, ok_bind, height, ok_bind]
    rw [hheader, if_neg (by omega), htimes, ok_bind]
    dsimp only
    rw [hslice, ok_bind, if_neg (List.ne_nil_of_length_pos (by omega)), if_pos p.isVideo, hvideo]
  have hpes : d.parsePES p.bytes = .ok (.ok (d', frames, p.bytes.length)) := by
    have hthree : index p.bytes 3 = .ok p.streamID := rfl
    have hfour : be16At p.bytes 4 = .ok (be16 (byteOf p.pesLen 8) (byteOf p.pesLen 0)) := rfl
    have hlen : be16 (byteOf p.pesLen 8) (byteOf p.pesLen 0) = p.pesLen := by
      rw [be16_eq, toNat_byteOf, toNat_byteOf]
      omega
    rw [parsePES, hthree, ok_bind, hfour, ok_bind, hlen]
    dsimp only
    rw [hpesLen.2, hbody]
    rfl
  have hstep : d.feedStep p.bytes = .ok (.ok (d', frames, p.bytes.length)) := by
    have hcode := be32_eq 0 0 1 p.streamID
    simp only [UInt8.reduceToNat] at hcode
    have hprefix : p.bytes = 0 :: 0 :: 1 :: p.streamID :: p.bytes.drop 4 := rfl
    rw [feedStep, hprefix]
    simp only [index_cons_zero, index_cons_succ, ok_bind]
    rw [← hprefix, if_neg, if_neg, if_neg, if_pos, hpes]
    · rw [isPESStartCode, decide_eq_true_iff]
      omega
    all_goals
      simp only [packHeaderStartCode, systemHeaderStartCode, programStreamMapStartCode]
      omega
  refine ⟨d', frames, ?_, hfed⟩
  rw [feed, if_neg (by omega), feedLoop, if_neg (by omega)]
  split
  next h => simp [hstep] at h
  next h => simp [hstep] at h
  next h =>
    rw [hstep] at h
    cases h
    rw [List.drop_length, feedLoop]
    rfl

/-! ## Whole streams -/

def feedAll (d : Demuxer) : List Bytes → Checked (Demuxer × List AVFrame)
  | [] => return (d, [])
  | data :: rest => do
      let (d, frames, _) ← d.feed data
      let (d, more) ← d.feedAll rest
      return (d, frames ++ more)

theorem feedAll_fed (packets : List AccessUnitPES) :
    ∃ d' frames, d.feedAll (packets.map AccessUnitPES.bytes) = .ok (d', frames) ∧
      Fed d (packets.flatMap AccessUnitPES.nalus) d' frames := by
  induction packets generalizing d with
  | nil =>
    refine ⟨d, [], rfl, ?_, by simp, by simp⟩
    unfold codecAfter
    split
    next hnone => exact hnone
    · rfl
  | cons p packets ih =>
    obtain ⟨d₁, frames, hfeed, hfed⟩ := d.feed_bytes p
    obtain ⟨d₂, more, hrest, hmore⟩ := ih d₁
    refine ⟨d₂, frames ++ more, ?_, ?_, fun f hf => ?_, fun hno => ?_⟩
    · rw [List.map_cons, feedAll, hfeed, ok_bind]
      dsimp only
      rw [hrest]
      rfl
    · rw [hmore.codec, hfed.codec, codecAfter_append]
      rfl
    · rcases List.mem_append.mp hf with hf | hf
      · obtain ⟨hlabel, hne⟩ := hfed.labelled f hf
        rw [hmore.codec, codecAfter, if_neg hne]
        exact ⟨hlabel, hne⟩
      · exact hmore.labelled f hf
    · obtain ⟨hfirst, hothers⟩ := List.forall_mem_append.mp hno
      exact List.forall_mem_append.mpr ⟨hfed.header hfirst, hmore.header hothers⟩

end Demuxer

/-- Headers that are no evidence for either codec. -/
def isMute (header : UInt8) : Bool :=
  header = 0x00 ∨ header = 0x60 ∨ 13 ≤ header &&& 0x1F ∧ header ∉ [0x2D, 0x2E, 0x2F]

/-- The first unit that is evidence is a VPS or one of the few pictures whose
header is none of H.264. -/
def StartsAsH265 (packets : List AccessUnitPES) : Prop :=
  ∃ u, (packets.flatMap AccessUnitPES.units).find? (fun u => ¬ isMute (u.unit.getD 0 0)) = some u ∧
    u.unit.getD 0 0 ∈ [0x20, 0x2D, 0x2E, 0x2F, 0x40]

theorem naluCodec_header (u : H265Unit) :
    (naluCodec u.unit ≠ .none ↔ ¬ isMute (u.unit.getD 0 0)) ∧
      (naluCodec u.unit = .h265 ↔ u.unit.getD 0 0 ∈ [0x20, 0x2D, 0x2E, 0x2F, 0x40]) := by
  have hbyte : ∀ b : UInt8, b < 0x80 → (naluCodec [b] ≠ .none ↔ ¬ isMute b) ∧
        (naluCodec [b] = .h265 ↔ b ∈ [0x20, 0x2D, 0x2E, 0x2F, 0x40]) :=
    forall_byte (by decide +kernel)
  obtain ⟨b, rest, hunit⟩ := List.exists_cons_of_ne_nil u.isNAL.ne_nil
  have hzero := u.forbidden_zero
  rw [hunit] at hzero ⊢
  exact hbyte b hzero

variable {packets : List AccessUnitPES}

theorem codecOfNALUs_eq_h265 :
    codecOfNALUs (packets.flatMap AccessUnitPES.nalus) = .h265 ↔ StartsAsH265 packets := by
  have hunits : packets.flatMap AccessUnitPES.nalus =
      (packets.flatMap AccessUnitPES.units).map fun u => u.unit :=
    List.map_flatMap.symm
  have hfind : (fun codec => decide (codec ≠ .none)) ∘ naluCodec ∘ (fun u : H265Unit => u.unit) =
        fun u => decide (¬ isMute (u.unit.getD 0 0)) :=
    funext fun u => decide_eq_decide.mpr (naluCodec_header u).1
  rw [codecOfNALUs, hunits, List.map_map, List.find?_map, hfind, StartsAsH265]
  cases (packets.flatMap AccessUnitPES.units).find? _ with
  | none => simp
  | some u => simpa using (naluCodec_header u).2

namespace AccessUnitPES

def parameterSets (p : AccessUnitPES) : RecordSets where
  vps := firstOfType nalTypeVPS p.nalus
  sps := firstOfType nalTypeSPS p.nalus
  pps := firstOfType nalTypePPS p.nalus

/-- A BLA, IDR or CRA picture with all three parameter sets. -/
def IsFullKeyframe (p : AccessUnitPES) : Prop :=
  (∃ nal ∈ p.nalus, 16 ≤ nalType nal ∧ nalType nal ≤ 21) ∧
    p.parameterSets.vps.isSome ∧ p.parameterSets.sps.isSome ∧ p.parameterSets.pps.isSome

instance (p : AccessUnitPES) : Decidable p.IsFullKeyframe :=
  inferInstanceAs (Decidable (_ ∧ _))

end AccessUnitPES

/-- A stream taken in as H.265, with a sequence header in front of the first
keyframe that has parameter sets. -/
structure IngestedAsH265 (packets : List AccessUnitPES) (d : Demuxer)
    (frames : List AVFrame) : Prop where
  codec : d.videoCodec = .h265
  labels : ∀ f ∈ frames, f.codec ≠ .h264
  header : ∀ before p after, packets = before ++ p :: after →
    p.IsFullKeyframe → (∀ q ∈ before, ¬ q.IsFullKeyframe) →
    ∃ d' earlier key, newDemuxer.feedAll ((before ++ [p]).map AccessUnitPES.bytes) =
        .ok (d', earlier ++ [key]) ∧ key.frameType = .keyframe ∧
      ∃ f ∈ earlier, f.frameType = .sequenceHeader ∧ f.codec = .h265 ∧
        extractVPSSPSPPSFromHVCRecord f.payload = .ok p.parameterSets

theorem not_isFullKeyframe_of_ingested {d : Demuxer} {frames : List AVFrame}
    (hbase : ∀ p ∈ packets, ∀ u ∈ p.units, u.unit.getD 0 0 &&& 1 = 0)
    (h : IngestedAsH265 packets d frames) :
    ∀ p ∈ packets, ¬ p.IsFullKeyframe := by
  intro p hp hfull
  -- Of the access units with parameter sets, take the first.
  have hfound : (packets.find? (·.IsFullKeyframe)).isSome :=
    List.find?_isSome.mpr ⟨p, hp, by simpa using hfull⟩
  obtain ⟨q, hq⟩ := Option.isSome_iff_exists.mp hfound
  obtain ⟨hqfull, before, after, rfl, hbefore⟩ := List.find?_eq_some_iff_append.mp hq
  obtain ⟨d', earlier, key, hprefix, -, f, hf, htype, -⟩ :=
    h.header before q after rfl (by simpa using hqfull) (by simpa using hbefore)
  obtain ⟨d₁, frames₁, hrun, hfed⟩ := newDemuxer.feedAll_fed (before ++ [q])
  cases hprefix.symm.trans hrun
  refine hfed.header (fun nal hnal => ?_) f (List.mem_append_left _ hf) htype
  have hodd : ∀ b : UInt8, b &&& 1 = 0 → b &&& 0x1F ≠ 7 := forall_byte (by decide +kernel)
  obtain ⟨r, hr, hnal⟩ := List.mem_flatMap.mp hnal
  obtain ⟨u, hu, rfl⟩ := List.mem_map.mp hnal
  refine hodd _ (hbase r ?_ u hu)
  simp only [List.mem_append, List.mem_singleton] at hr
  rcases hr with hr | rfl
  · exact List.mem_append_left _ hr
  · simp

/-- A stream is taken in as H.265 if it starts as H.265 and never has a
keyframe with parameter sets; a stream of low layers is so only then. -/
theorem h265_ingest (packets : List AccessUnitPES) :
    ∃ d frames, newDemuxer.feedAll (packets.map AccessUnitPES.bytes) = .ok (d, frames) ∧
      (StartsAsH265 packets ∧ (∀ p ∈ packets, ¬ p.IsFullKeyframe) →
        IngestedAsH265 packets d frames) ∧
      ((∀ p ∈ packets, ∀ u ∈ p.units, u.unit.getD 0 0 &&& 1 = 0) → IngestedAsH265 packets d frames →
        StartsAsH265 packets ∧ ∀ p ∈ packets, ¬ p.IsFullKeyframe) := by
  obtain ⟨d, frames, hrun, hfed⟩ := newDemuxer.feedAll_fed packets
  have hcodec : d.videoCodec = .h265 ↔ StartsAsH265 packets := by
    rw [hfed.codec]
    exact codecOfNALUs_eq_h265
  refine ⟨d, frames, hrun, fun ⟨hstarts, hnone⟩ => ?_, fun hbase h => ?_⟩
  · refine ⟨hcodec.mpr hstarts, fun f hf => ?_, fun before p after hsplit hfull => ?_⟩
    · rw [(hfed.labelled f hf).1, hcodec.mpr hstarts]
      decide
    · exact absurd hfull (hnone p (by simp [hsplit]))
  · exact ⟨hcodec.mp h.codec, not_isFullKeyframe_of_ingested hbase h⟩

/-- A packet without timestamps, the length left open. -/
def openPacket (units : List H265Unit) (hne : units ≠ []) : AccessUnitPES where
  streamID := 0xE0
  isVideo := by decide
  flags := (0x80, 0x00)
  header := []
  header_short := by decide
  units
  ne_nil := hne
  sized := false
  fits := nofun

def shortUnit (header : UInt8) (h : header < 0x80) : H265Unit where
  long := true
  unit := [header, 0x01]
  isNAL := by
    revert h
    revert header
    exact forall_byte (by decide +kernel)
  two_le := Nat.le_refl 2
  forbidden_zero := h

def vps : H265Unit := shortUnit 0x40 (by decide)

def trailingPicture : H265Unit := shortUnit 0x02 (by decide)

/-- VPS, SPS, PPS and an IDR picture. -/
def firstUnits : List H265Unit :=
  [vps, shortUnit 0x42 (by decide), shortUnit 0x44 (by decide), shortUnit 0x26 (by decide)]

/-- A stream joined between keyframes, a VPS first. -/
theorem h265_ingest_vps :
    ∃ d frames, newDemuxer.feedAll
      ([openPacket [vps] (by decide), openPacket [trailingPicture] (by decide)].map
        AccessUnitPES.bytes) = .ok (d, frames) ∧ d.videoCodec = .h265 ∧
      ∀ f ∈ frames, f.codec ≠ .h264 := by
  obtain ⟨d, frames, hrun, hingest, -⟩ := h265_ingest
    [openPacket [vps] (by decide), openPacket [trailingPicture] (by decide)]
  have h := hingest ⟨⟨vps, rfl, by decide⟩, by decide⟩
  exact ⟨d, frames, hrun, h.codec, h.labels⟩

/-- An access unit delimiter or a trailing picture at the start makes the stream
one of H.264; no sequence header stands before a keyframe with parameter
sets. -/
theorem h265_not_ingested :
    (newDemuxer.feedAll [(openPacket (shortUnit 0x46 (by decide) :: firstUnits)
        (by decide)).bytes]).map (fun r => r.2.map (·.codec)) = .ok [.h264] ∧
    (newDemuxer.feedAll [(openPacket [trailingPicture] (by decide)).bytes]).map
        (fun r => r.2.map (·.codec)) = .ok [.h264] ∧
    (newDemuxer.feedAll [(openPacket firstUnits (by decide)).bytes]).map
        (fun r => r.2.map fun f => (f.codec, f.frameType)) = .ok [(.h265, .keyframe)] := by
  decide +kernel

end LiveForge.Ps
