import LiveForge.Rtp.Media

/-!
# Depacketizers collect what packets carry

What a depacketizer has given out of a unit, and what it still holds, is what
the packets of the unit carry, as long as every packet that meets a pending NAL
unit or frame continues it.  The assembler checks that before each packet; for
VP8 its check and the reader of descriptors have to agree.
-/

namespace LiveForge.Rtp

open Support AccessUnitAssembler

theorem mediaOf_append (frames more : List AVFrame) :
    mediaOf (frames ++ more) = mediaOf frames ++ mediaOf more := by
  simp [mediaOf]

/-! ## NAL units -/

/-- How a packet is taken, with what it completes and the buffer after it. -/
inductive Taken (fmt : NALFormat) (valid : Bytes → Prop) (fu : FragmentBuffer) (pkt : Packet) :
    List Bytes → FragmentBuffer → Prop
  | single (hkind : fmt.isSingle pkt.payload) (hvalid : valid pkt.payload) :
      Taken fmt valid fu pkt [pkt.payload] {}
  | aggregate {nals : List Bytes} (hkind : fmt.isAggregate pkt.payload)
      (hlayout : pkt.payload.drop fmt.aggregateHeader = prefixed16 nals)
      (hsize : ∀ nal ∈ nals, nal.length < 2 ^ 16) (hvalid : ∀ nal ∈ nals, valid nal) :
      Taken fmt valid fu pkt nals {}
  | fragment {nal : Option Bytes} {fu' : FragmentBuffer} (hkind : fmt.isFragment pkt.payload)
      (hboth : ¬ ((fmt.fragment pkt.payload).isStart ∧ (fmt.fragment pkt.payload).isEnd))
      (htake : fu.take pkt (fmt.fragment pkt.payload) = .ok (nal, fu'))
      (hvalid : ∀ unit ∈ nal, valid unit) : Taken fmt valid fu pkt nal.toList fu'

variable {pkts : List Packet} {pkt : Packet} {media : Bytes} {fu fu' : FragmentBuffer}
  {nals : List Bytes}

section Taken

variable {fmt : NALFormat} {valid : Bytes → Prop}

theorem Taken.forall_valid (h : Taken fmt valid fu pkt nals fu') : ∀ nal ∈ nals, valid nal := by
  cases h with
  | single _ hvalid => exact List.forall_mem_singleton.mpr hvalid
  | aggregate _ _ _ hvalid => exact hvalid
  | fragment _ _ _ hvalid => exact fun nal hnal => hvalid nal (Option.mem_toList.mp hnal)

/-- A packet of a unit either is a group or belongs to the fragments in the
buffer. -/
theorem HoldsNALs.taken (h : HoldsNALs fmt fu pkts media)
    (hguard : fu.buf.isSome → ¬ fmt.isSingle pkt.payload ∧ ¬ fmt.isAggregate pkt.payload ∧
      ¬ (fmt.fragment pkt.payload).isStart) (htaken : Taken fmt valid fu pkt nals fu') :
    HoldsNALs fmt fu' (pkts ++ [pkt]) (media ++ groupMedia fmt nals) := by
  rw [Option.isSome_iff_ne_none] at hguard
  cases htaken with
  | single hkind =>
    exact h.whole (by_contra fun hsome => (hguard hsome).1 hkind) (.single hkind)
  | aggregate hkind hlayout hsize =>
    exact h.whole (by_contra fun hsome => (hguard hsome).2.1 hkind) (.aggregate hkind hlayout hsize)
  | fragment hkind hboth htake =>
    exact h.fragment hkind hboth
      (fun hstart => by_contra fun hsome => (hguard hsome).2.2 hstart) htake

end Taken

/-! ## H.264 -/

variable {payload : Bytes}

theorem continues_h264 (h : isContinuation .h264 payload = true) :
    ¬ h264Format.isSingle payload ∧ ¬ h264Format.isAggregate payload ∧
      ¬ (h264Format.fragment payload).isStart := by
  obtain ⟨-, htype, hstart⟩ := of_decide_eq_true h
  change h264NALType payload = 28 at htype
  refine ⟨?_, ?_, by simpa [h264Format, h264Fragment] using hstart⟩ <;>
    simp only [h264Format, htype] <;> decide

theorem taken_h264 (h : h264NALs fu pkt = .ok (nals, fu')) :
    Taken h264Format (validateH264NAL · = .ok ()) fu pkt nals fu' := by
  simp only [h264NALs] at h
  split_ifs at h with hpayload hforbidden hsingle haggregate hfragment
  · obtain ⟨_, hvalid, hresult⟩ := bind_eq_ok.mp h
    cases hresult
    exact .single hsingle hvalid
  · obtain ⟨nals', hparse, hresult⟩ := bind_eq_ok.mp h
    cases hresult
    unfold parseH264STAPA at hparse
    split_ifs at hparse
    obtain ⟨hlayout, hnals⟩ := splitPrefixed16_eq_ok hparse
    refine .aggregate haggregate hlayout (fun nal hnal => (hnals nal hnal).2.1) ?_
    intro nal hnal
    obtain ⟨-, -, before, after, haccept⟩ := hnals nal hnal
    exact (bind_eq_ok.mp haccept).elim fun _ hvalid => hvalid.1
  · obtain ⟨f, hcheck, hrest⟩ := bind_eq_ok.mp h
    obtain ⟨⟨nal, after⟩, htake, hrest⟩ := bind_eq_ok.mp hrest
    obtain ⟨_, hvalid, hresult⟩ := bind_eq_ok.mp hrest
    cases hresult
    simp only [checkH264Fragment] at hcheck
    split_ifs at hcheck with hshort hinvalid hmarked
    cases hcheck
    refine .fragment ⟨hfragment, by omega⟩ (fun hboth => hinvalid (.inl hboth))
      (mapError_eq_ok.mp htake) fun unit hunit => ?_
    obtain rfl := hunit
    exact (bind_eq_ok.mp hvalid).elim fun _ hfirst => hfirst.1

theorem validateH264NAL_length {nal : Bytes} (h : validateH264NAL nal = .ok ()) :
    nal.length < 2 ^ 32 := by
  unfold validateH264NAL at h
  split_ifs at h with hheader hlong hparameter
  have hmax : maxNALBytes < 2 ^ 32 := by decide
  omega

variable {frames : List AVFrame}

namespace H264Depacketizer

variable {s : Scan}

theorem Scan.nal_spec (s : Scan) (nal : Bytes) (h : s.frameType ≠ .sequenceHeader) :
    (s.nal nal).hasVCL = (s.hasVCL || h264Format.isSlice nal) ∧
      (s.nal nal).depacketizer.fu = s.depacketizer.fu ∧
      (s.nal nal).frameType ≠ .sequenceHeader := by
  simp only [Scan.nal, h264Format]
  split_ifs <;> simp_all

theorem scan_spec (nals : List Bytes) (h : s.frameType ≠ .sequenceHeader) :
    (nals.foldl Scan.nal s).hasVCL = (s.hasVCL || nals.any h264Format.isSlice) ∧
      (nals.foldl Scan.nal s).depacketizer.fu = s.depacketizer.fu ∧
      (nals.foldl Scan.nal s).frameType ≠ .sequenceHeader := by
  induction nals generalizing s with
  | nil => simpa using h
  | cons nal nals ih =>
    obtain ⟨hvcl, hfu, htype⟩ := s.nal_spec nal h
    obtain ⟨hvcls, hfus, htypes⟩ := ih htype
    rw [List.any_cons, ← Bool.or_assoc, ← hvcl, ← hfu]
    exact ⟨hvcls, hfus, htypes⟩

theorem configFrames_fu (d : H264Depacketizer) : d.configFrames.2.fu = d.fu := by
  unfold configFrames
  split <;> rfl

theorem mediaOf_configFrames (d : H264Depacketizer) : mediaOf d.configFrames.1 = [] := by
  unfold configFrames
  split <;> rfl

theorem mediaOf_mediaFrames (hframe : s.frameType ≠ .sequenceHeader) (data : Bytes) :
    mediaOf (mediaFrames s data) = if s.hasVCL then data else [] := by
  unfold mediaFrames
  split
  · have hmedia : (if s.hasParameterSets then .keyframe
        else s.frameType) ≠ .sequenceHeader := by
      split
      · decide
      · exact hframe
    simp [mediaOf, isMedia, newAVFrame, hmedia]
  · rfl

theorem collects {d d' : H264Depacketizer} (h : HoldsNALs h264Format d.fu pkts media)
    (hguard : d.fu.buf.isSome → isContinuation .h264 pkt.payload)
    (hframes : d.depacketizeFrames pkt = (.ok frames, d')) :
    HoldsNALs h264Format d'.fu (pkts ++ [pkt]) (media ++ mediaOf frames) := by
  unfold depacketizeFrames depacketizePayload at hframes
  cases hnals : h264NALs d.fu pkt with
  | error e => simp [hnals] at hframes
  | ok result =>
    obtain ⟨nals, fu⟩ := result
    have htaken := taken_h264 hnals
    have hholds := h.taken (fun hsome => continues_h264 (hguard hsome)) htaken
    have hsplit := splitPrefixed32_prefixed32 fun nal hnal =>
      validateH264NAL_length (htaken.forall_valid nal hnal)
    simp only [hnals] at hframes
    split at hframes
    next hdata =>
      cases hframes
      have hnone : groupMedia h264Format nals = [] := by
        rw [groupMedia, hdata, ite_self]
      rw [hnone] at hholds
      exact hholds
    next hdata =>
      cases hframes
      obtain ⟨hvcl, hfu, htype⟩ :=
        scan_spec nals (s := ⟨{ d with fu := fu }, .interframe, false, false⟩) (by simp)
      rw [mediaOf_append, mediaOf_configFrames, configFrames_fu, scan, hsplit,
        mediaOf_mediaFrames htype, hvcl, hfu]
      exact hholds

end H264Depacketizer

/-! ## H.265 -/

theorem continues_h265 (h : isContinuation .h265 payload = true) :
    ¬ h265Format.isSingle payload ∧ ¬ h265Format.isAggregate payload ∧
      ¬ (h265Format.fragment payload).isStart := by
  obtain ⟨-, htype, hstart⟩ := of_decide_eq_true h
  change H265.nalType payload = 49 at htype
  refine ⟨?_, ?_, by simpa [h265Format, h265Fragment] using hstart⟩ <;>
    simp only [h265Format, htype]
  · exact fun hsingle => absurd hsingle.2 (by decide)
  · decide

theorem taken_h265 (h : h265NALs fu pkt = .ok (nals, fu')) :
    Taken h265Format (· ≠ []) fu pkt nals fu' := by
  simp only [h265NALs] at h
  split_ifs at h with hpayload hsingle haggregate hfragment
  · cases h
    exact .single ⟨by omega, hsingle⟩ (List.ne_nil_of_length_pos (by omega))
  · obtain ⟨nals', hparse, hresult⟩ := bind_eq_ok.mp h
    cases hresult
    unfold parseH265AggregationPacket at hparse
    split_ifs at hparse
    obtain ⟨nals', hsplit, hresult⟩ := bind_eq_ok.mp hparse
    split_ifs at hresult
    cases hresult
    obtain ⟨hlayout, hnals⟩ := splitPrefixed16_eq_ok hsplit
    refine .aggregate haggregate hlayout (fun nal hnal => (hnals nal hnal).2.1) ?_
    exact fun nal hnal => List.ne_nil_of_length_pos (by have := (hnals nal hnal).1; omega)
  · obtain ⟨f, hcheck, hrest⟩ := bind_eq_ok.mp h
    obtain ⟨⟨nal, after⟩, htake, hresult⟩ := bind_eq_ok.mp hrest
    cases hresult
    simp only [checkH265Fragment] at hcheck
    split_ifs at hcheck with hshort hinvalid hmarked
    cases hcheck
    refine .fragment ⟨hfragment, by omega⟩ (fun hboth => hinvalid (.inl hboth))
      (mapError_eq_ok.mp htake) fun unit hunit => ?_
    obtain rfl := hunit
    obtain ⟨base, -, hunit⟩ := FragmentBuffer.take_eq_ok (mapError_eq_ok.mp htake)
    split at hunit
    · rw [Option.some.inj hunit.1]
      refine List.append_ne_nil_of_right_ne_nil _ fun hnone => ?_
      have := List.drop_eq_nil_iff.mp hnone
      omega
    · simp at hunit

theorem h265NALUsToHVCC_eq {nalus : List Bytes} (h : ∀ nal ∈ nalus, nal ≠ []) :
    h265NALUsToHVCC nalus = prefixed32 nalus := by
  apply List.flatMap_congr
  intro nal hnal
  rw [if_neg (h nal hnal)]

namespace H265Depacketizer

variable {s : Scan}

theorem Scan.nal_spec (s : Scan) (nal : Bytes) (h : s.frameType ≠ .sequenceHeader) :
    (s.nal nal).hasVCL = (s.hasVCL || h265Format.isSlice nal) ∧
      (s.nal nal).depacketizer.fu = s.depacketizer.fu ∧
      (s.nal nal).frameType ≠ .sequenceHeader := by
  simp only [Scan.nal, h265Format]
  split_ifs with hshort hvps hsps hpps hvcl hkey
  · simp [Nat.not_le.mpr hshort, h]
  · simp [hvps, h, H265.nalTypeVPS]
  · simp [hsps, h, H265.nalTypeSPS]
  · simp [hpps, h, H265.nalTypePPS]
  · simp [hvcl, Nat.not_lt.mp hshort]
  · simp [hvcl, Nat.not_lt.mp hshort, h]
  · simp [hvcl, h]

theorem scan_spec (nals : List Bytes) (h : s.frameType ≠ .sequenceHeader) :
    (nals.foldl Scan.nal s).hasVCL = (s.hasVCL || nals.any h265Format.isSlice) ∧
      (nals.foldl Scan.nal s).depacketizer.fu = s.depacketizer.fu ∧
      (nals.foldl Scan.nal s).frameType ≠ .sequenceHeader := by
  induction nals generalizing s with
  | nil => simpa using h
  | cons nal nals ih =>
    obtain ⟨hvcl, hfu, htype⟩ := s.nal_spec nal h
    obtain ⟨hvcls, hfus, htypes⟩ := ih htype
    rw [List.any_cons, ← Bool.or_assoc, ← hvcl, ← hfu]
    exact ⟨hvcls, hfus, htypes⟩

theorem mediaOf_configFrames (s : Scan) : mediaOf (configFrames s) = [] := by
  simp only [configFrames]
  split
  · split <;> rfl
  · rfl

theorem mediaOf_mediaFrames (h : s.frameType ≠ .sequenceHeader) (nalus : List Bytes) :
    mediaOf (mediaFrames s nalus) = if s.hasVCL then h265NALUsToHVCC nalus else [] := by
  unfold mediaFrames
  split_ifs with hboth hvcl hvcl
  · simp [mediaOf, isMedia, newAVFrame, h]
  · exact absurd hboth.1 hvcl
  · exact (not_not.mp fun hne => hboth ⟨hvcl, hne⟩).symm
  · rfl

theorem collects {d d' : H265Depacketizer} (h : HoldsNALs h265Format d.fu pkts media)
    (hguard : d.fu.buf.isSome → isContinuation .h265 pkt.payload)
    (hframes : d.depacketizeFrames pkt = (.ok frames, d')) :
    HoldsNALs h265Format d'.fu (pkts ++ [pkt]) (media ++ mediaOf frames) := by
  unfold depacketizeFrames at hframes
  cases hnals : h265NALs d.fu pkt with
  | error e => simp [hnals] at hframes
  | ok result =>
    obtain ⟨nals, fu⟩ := result
    have htaken := taken_h265 hnals
    have hholds := h.taken (fun hsome => continues_h265 (hguard hsome)) htaken
    simp only [hnals] at hframes
    split at hframes
    next hempty =>
      cases hframes
      rw [hempty] at hholds
      exact hholds
    · cases hframes
      obtain ⟨hvcl, hfu, htype⟩ :=
        scan_spec nals (s := ⟨{ d with fu := fu }, .interframe, false, false⟩) (by simp)
      simp only [normalizeNALUs, scan]
      rw [mediaOf_append, mediaOf_configFrames, mediaOf_mediaFrames htype,
        h265NALUsToHVCC_eq htaken.forall_valid, hvcl, hfu]
      exact hholds

end H265Depacketizer

/-! ## VP8 -/

/-- The pieces given out and those in the buffer are those of the packets. -/
def HoldsPieces (piece : Packet → Bytes) (buf : Option Bytes)
    (pkts : List Packet) (media : Bytes) : Prop :=
  media ++ buf.getD [] = pkts.flatMap piece

variable {buf : Option Bytes}

/-- The next piece goes behind those in the buffer, and they stay there or are
all given out. -/
theorem HoldsPieces.piece {piece : Packet → Bytes} {buf' : Option Bytes}
    (h : HoldsPieces piece buf pkts media)
    (hframes : (mediaOf frames = [] ∧ buf' = some (buf.getD [] ++ piece pkt)) ∨
      (mediaOf frames = buf.getD [] ++ piece pkt ∧ buf' = none)) :
    HoldsPieces piece buf' (pkts ++ [pkt]) (media ++ mediaOf frames) := by
  unfold HoldsPieces at h ⊢
  rcases hframes with ⟨hmedia, rfl⟩ | ⟨hmedia, rfl⟩ <;> simp [hmedia, ← h]

theorem mediaOf_singleton {codec : CodecType} {frameType : FrameType}
    (h : frameType ≠ .sequenceHeader) (data : Bytes) :
    mediaOf [newAVFrame .video codec frameType 0 0 data] = data := by
  simp [mediaOf, isMedia, newAVFrame, h]

variable {unmarshal : VP8Unmarshal}

namespace VP8Depacketizer

theorem frameType_ne (data : Bytes) : frameType data ≠ .sequenceHeader := by
  unfold frameType
  split <;> decide

variable {d d' : VP8Depacketizer}

theorem join_buf {descriptor : VP8Packet} (h : d.join pkt descriptor = .ok d')
    (hagrees : d.buf.isSome → ¬ descriptor.StartsFrame) :
    d'.buf.getD [] = d.buf.getD [] := by
  unfold join at h
  split_ifs at h with hstart hnone hother
  · cases h
    have hempty : d.buf = none := by
      by_contra hsome
      exact hagrees (Option.isSome_iff_ne_none.mpr hsome) hstart
    rw [hempty]
    rfl
  · rw [Except.ok.inj h]

theorem append_eq_ok (h : d.append pkt payload = .ok (frames, d')) :
    (mediaOf frames = [] ∧ d'.buf = some (d.buf.getD [] ++ payload)) ∨
      (mediaOf frames = d.buf.getD [] ++ payload ∧ d'.buf = none) := by
  simp only [append] at h
  split_ifs at h with hlimit hmarker
  · cases h
    exact .inr ⟨mediaOf_singleton (frameType_ne _) _, rfl⟩
  · cases h
    exact .inl ⟨rfl, rfl⟩

theorem collects (h : HoldsPieces (vp8Media unmarshal) d.buf pkts media)
    (hagrees : d.buf.isSome → ∀ descriptor ∈ unmarshal pkt.payload, ¬ descriptor.StartsFrame)
    (hframes : d.depacketize unmarshal pkt = (.ok frames, d')) :
    HoldsPieces (vp8Media unmarshal) d'.buf (pkts ++ [pkt]) (media ++ mediaOf frames) := by
  unfold depacketize at hframes
  cases htake : d.take unmarshal pkt with
  | error e => simp [htake] at hframes
  | ok result =>
    simp only [htake] at hframes
    cases hframes
    unfold take at htake
    split at htake
    · cases htake
    next descriptor hdescriptor =>
      split_ifs at htake
      obtain ⟨joined, hjoin, happend⟩ := bind_eq_ok.mp htake
      have hbuf := join_buf hjoin fun hsome => hagrees hsome descriptor hdescriptor
      have hpiece : vp8Media unmarshal pkt = descriptor.payload := by
        rw [vp8Media, hdescriptor]
        rfl
      have hcases := append_eq_ok happend
      rw [hbuf, ← hpiece] at hcases
      exact h.piece hcases

end VP8Depacketizer

/-! ## VP9 and AV1 -/

/-- A packet that starts over drops nothing if it continues what there is. -/
theorem ite_nil_getD {c : Prop} [Decidable c] (h : buf.isSome → ¬ c) :
    (if c then [] else buf.getD []) = buf.getD [] := by
  cases buf with
  | none => exact ite_self _
  | some data => rw [if_neg (h rfl)]

namespace VP9Depacketizer

theorem collects {d d' : VP9Depacketizer} (h : HoldsPieces describedMedia d.buf pkts media)
    (hguard : d.buf.isSome → isContinuation .vp9 pkt.payload)
    (hframes : d.depacketize pkt = (some frames, d')) :
    HoldsPieces describedMedia d'.buf (pkts ++ [pkt]) (media ++ mediaOf frames) := by
  have hstart : (if pkt.payload.getD 0 0 &&& 0x08 ≠ 0 then [] else d.buf.getD []) = _ :=
    ite_nil_getD fun hsome => not_not.mpr (of_decide_eq_true (hguard hsome)).2
  simp only [depacketize, hstart] at hframes
  split at hframes
  · cases hframes
  · split at hframes
    · cases hframes
      exact h.piece (.inr ⟨mediaOf_singleton (by split <;> decide) _, rfl⟩)
    · cases hframes
      exact h.piece (.inl ⟨rfl, rfl⟩)

end VP9Depacketizer

theorem classifyAV1Frame_ne (data : Bytes) : classifyAV1Frame data ≠ .sequenceHeader := by
  fun_induction classifyAV1Frame data <;> simp_all

namespace AV1Depacketizer

theorem collects {d d' : AV1Depacketizer} (h : HoldsPieces describedMedia d.buf pkts media)
    (hguard : d.buf.isSome → isContinuation .av1 pkt.payload)
    (hframes : d.depacketize pkt = (some frames, d')) :
    HoldsPieces describedMedia d'.buf (pkts ++ [pkt]) (media ++ mediaOf frames) := by
  have hstart : (if pkt.payload.getD 0 0 &&& 0x80 = 0 then [] else d.buf.getD []) = _ :=
    ite_nil_getD fun hsome => (of_decide_eq_true (hguard hsome)).2
  simp only [depacketize, hstart] at hframes
  split_ifs at hframes with hshort hlast
  · cases hframes
  · cases hframes
    exact h.piece (.inr ⟨mediaOf_singleton (classifyAV1Frame_ne _) _, rfl⟩)
  · cases hframes
    exact h.piece (.inl ⟨rfl, rfl⟩)

end AV1Depacketizer

/-! ## All codecs -/

namespace Depacketizer

/-- The packets are those of a unit of which `media` has been given out; the
rest of what they carry is in the depacketizer. -/
def Holds (unmarshal : VP8Unmarshal) (pkts : List Packet) (media : Bytes) :
    Depacketizer → Prop
  | .h264 d => HoldsNALs h264Format d.fu pkts media
  | .h265 d => HoldsNALs h265Format d.fu pkts media
  | .vp8 d => HoldsPieces (vp8Media unmarshal) d.buf pkts media
  | .vp9 d => HoldsPieces describedMedia d.buf pkts media
  | .av1 d => HoldsPieces describedMedia d.buf pkts media

/-- A VP8 packet that is taken for a continuation is not one that makes the
depacketizer start over. -/
def Agrees (unmarshal : VP8Unmarshal) (pkt : Packet) (dp : Depacketizer) : Prop :=
  dp.codec = .vp8 → dp.pending → isContinuation .vp8 pkt.payload →
    ∀ descriptor ∈ unmarshal pkt.payload, ¬ descriptor.StartsFrame

instance (unmarshal : VP8Unmarshal) (pkt : Packet) (dp : Depacketizer) :
    Decidable (dp.Agrees unmarshal pkt) :=
  inferInstanceAs (Decidable (_ → _ → _ → _))

variable {dp dp' : Depacketizer}

theorem holds_nil (h : dp.pending = false) : dp.Holds unmarshal [] [] := by
  cases dp with
  | h264 d | h265 d =>
    have hbuf : d.fu.buf = none := by simpa [pending] using h
    rw [Holds, HoldsNALs, hbuf]
    exact .nil
  | vp8 d | vp9 d | av1 d => simp_all [Holds, HoldsPieces, pending]

/-- When nothing is pending, everything the packets carry has been given
out. -/
theorem Holds.carry (h : dp.Holds unmarshal pkts media) (hdone : dp.pending = false) :
    Carry unmarshal dp.codec pkts media := by
  cases dp with
  | h264 d | h265 d =>
    have hbuf : d.fu.buf = none := by simpa [pending] using hdone
    rw [Holds, HoldsNALs, hbuf] at h
    exact h
  | vp8 d | vp9 d | av1 d =>
    simp_all [Holds, HoldsPieces, pending, Carry, codec]

theorem depacketizeFrames_codec (unmarshal : VP8Unmarshal) (dp : Depacketizer) (pkt : Packet) :
    (depacketizeFrames unmarshal dp pkt).2.codec = dp.codec := by
  cases dp <;> rfl

/-- One packet: what is given out of it goes behind the media so far. -/
theorem Holds.step (h : dp.Holds unmarshal pkts media)
    (hguard : dp.pending → isContinuation dp.codec pkt.payload) (hagrees : dp.Agrees unmarshal pkt)
    (hframes : depacketizeFrames unmarshal dp pkt = (.ok frames, dp')) :
    dp'.Holds unmarshal (pkts ++ [pkt]) (media ++ mediaOf frames) := by
  obtain ⟨hfirst, rfl⟩ := Prod.ext_iff.mp hframes
  cases dp with
  | h264 d => exact H264Depacketizer.collects h hguard (Prod.ext (mapError_eq_ok.mp hfirst) rfl)
  | h265 d => exact H265Depacketizer.collects h hguard (Prod.ext (mapError_eq_ok.mp hfirst) rfl)
  | vp8 d =>
    exact VP8Depacketizer.collects h (fun hsome => hagrees rfl hsome (hguard hsome))
      (Prod.ext (mapError_eq_ok.mp hfirst) rfl)
  | vp9 d => exact VP9Depacketizer.collects h hguard (Prod.ext (elim_eq_ok.mp hfirst) rfl)
  | av1 d => exact AV1Depacketizer.collects h hguard (Prod.ext (elim_eq_ok.mp hfirst) rfl)

end Depacketizer

end LiveForge.Rtp
