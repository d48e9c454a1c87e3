import LiveForge.Rtp.AccessUnit

/-!
# The media that packets carry

What the packets of a unit carry, said without a depacketizer.  VP8, VP9 and
AV1 packets each carry a piece of the frame.  H.264 and H.265 packets fall into
groups, each of which carries whole NAL units: a packet with one unit, an
aggregate, or a run of fragments from the first to the last.  A group with a
coded slice is media, and its NAL units stand each behind its length; a group
of other NAL units (parameter sets, delimiters) is not.
-/

namespace LiveForge.Rtp

open Support

/-! ## Groups of packets -/

/-- How NAL units are laid out in packets. -/
structure NALFormat where
  isSingle : Bytes → Prop
  aggregateHeader : ℕ
  isAggregate : Bytes → Prop
  isFragment : Bytes → Prop
  fragment : Bytes → Fragment
  isSlice : Bytes → Bool

/-- The packets are the first fragments of a NAL unit, up to `nal`. -/
inductive Fragments (fmt : NALFormat) : List Packet → Bytes → Prop
  | start {pkt : Packet} (hkind : fmt.isFragment pkt.payload)
      (hstart : (fmt.fragment pkt.payload).isStart)
      (hend : ¬ (fmt.fragment pkt.payload).isEnd) :
      Fragments fmt [pkt] ((fmt.fragment pkt.payload).header ++ (fmt.fragment pkt.payload).data)
  | more {run : List Packet} {nal : Bytes} {pkt : Packet}
      (hrun : Fragments fmt run nal) (hkind : fmt.isFragment pkt.payload)
      (hstart : ¬ (fmt.fragment pkt.payload).isStart)
      (hend : ¬ (fmt.fragment pkt.payload).isEnd)
      (hheader : (fmt.fragment pkt.payload).header <+: nal) :
      Fragments fmt (run ++ [pkt]) (nal ++ (fmt.fragment pkt.payload).data)

/-- The packets are a group that carries the NAL units `nals`. -/
inductive Group (fmt : NALFormat) : List Packet → List Bytes → Prop
  | single {pkt : Packet} (hkind : fmt.isSingle pkt.payload) :
      Group fmt [pkt] [pkt.payload]
  | aggregate {pkt : Packet} {nals : List Bytes}
      (hkind : fmt.isAggregate pkt.payload)
      (hlayout : pkt.payload.drop fmt.aggregateHeader = prefixed16 nals)
      (hsize : ∀ nal ∈ nals, nal.length < 2 ^ 16) :
      Group fmt [pkt] nals
  | fragmented {run : List Packet} {nal : Bytes} {pkt : Packet}
      (hrun : Fragments fmt run nal) (hkind : fmt.isFragment pkt.payload)
      (hstart : ¬ (fmt.fragment pkt.payload).isStart)
      (hend : (fmt.fragment pkt.payload).isEnd)
      (hheader : (fmt.fragment pkt.payload).header <+: nal) :
      Group fmt (run ++ [pkt]) [nal ++ (fmt.fragment pkt.payload).data]

def groupMedia (fmt : NALFormat) (nals : List Bytes) : Bytes :=
  if nals.any fmt.isSlice then prefixed32 nals else []

/-- The packets are groups, one after the other, whose media is `media`. -/
inductive Grouped (fmt : NALFormat) : List Packet → Bytes → Prop
  | nil : Grouped fmt [] []
  | snoc {pkts group : List Packet} {media : Bytes} {nals : List Bytes}
      (hpkts : Grouped fmt pkts media) (hgroup : Group fmt group nals) :
      Grouped fmt (pkts ++ group) (media ++ groupMedia fmt nals)

def h264Format : NALFormat where
  isSingle payload := 0 < h264NALType payload ∧ h264NALType payload < 24
  aggregateHeader := 1
  isAggregate payload := h264NALType payload = 24
  isFragment payload := h264NALType payload = 28 ∧ 2 ≤ payload.length
  fragment := h264Fragment
  isSlice nal := h264NALType nal = 1 ∨ h264NALType nal = 5

def h265Format : NALFormat where
  isSingle payload := 2 ≤ payload.length ∧ H265.nalType payload ≤ 47
  aggregateHeader := 2
  isAggregate payload := H265.nalType payload = h265NALTypeAP
  isFragment payload := H265.nalType payload = h265NALTypeFU ∧ 4 ≤ payload.length
  fragment := h265Fragment
  isSlice nal := 2 ≤ nal.length ∧ H265.nalType nal ≤ 31

/-- The piece of the frame in a VP8 packet. -/
def vp8Media (unmarshal : VP8Unmarshal) (pkt : Packet) : Bytes :=
  (unmarshal pkt.payload).elim [] VP8Packet.payload

/-- The piece of the frame behind a descriptor of one byte. -/
def describedMedia (pkt : Packet) : Bytes := pkt.payload.drop 1

def Carry (unmarshal : VP8Unmarshal) (codec : CodecType)
    (pkts : List Packet) (media : Bytes) : Prop :=
  match codec with
  | .h264 => Grouped h264Format pkts media
  | .h265 => Grouped h265Format pkts media
  | .vp8 => media = pkts.flatMap (vp8Media unmarshal)
  | .vp9 | .av1 => media = pkts.flatMap describedMedia
  | _ => False

/-! ## NAL units -/

def mediaOf (frames : List AVFrame) : Bytes :=
  (frames.filter AccessUnitAssembler.isMedia).flatMap AVFrame.payload

/-- The packets are groups with the given media, followed by the fragments in
the buffer. -/
def HoldsNALs (fmt : NALFormat) (fu : FragmentBuffer) (pkts : List Packet)
    (media : Bytes) : Prop :=
  match fu.buf with
  | none => Grouped fmt pkts media
  | some nal => ∃ done run, pkts = done ++ run ∧ Grouped fmt done media ∧
      Fragments fmt run nal

theorem groupMedia_nil (fmt : NALFormat) : groupMedia fmt [] = [] := by
  simp [groupMedia]

section Formats

variable {fmt : NALFormat} {fu fu' : FragmentBuffer} {pkts : List Packet}
  {media : Bytes} {pkt : Packet}

theorem HoldsNALs.whole {nals : List Bytes}
    (h : HoldsNALs fmt fu pkts media) (hempty : fu.buf = none) (hgroup : Group fmt [pkt] nals) :
    HoldsNALs fmt {} (pkts ++ [pkt]) (media ++ groupMedia fmt nals) := by
  rw [HoldsNALs, hempty] at h
  exact .snoc h hgroup

/-- A fragment is added to those in the buffer, or completes them. -/
theorem HoldsNALs.fragment {nal : Option Bytes}
    (h : HoldsNALs fmt fu pkts media) (hkind : fmt.isFragment pkt.payload)
    (hboth : ¬ ((fmt.fragment pkt.payload).isStart ∧ (fmt.fragment pkt.payload).isEnd))
    (hnew : (fmt.fragment pkt.payload).isStart → fu.buf = none)
    (htake : fu.take pkt (fmt.fragment pkt.payload) = .ok (nal, fu')) :
    HoldsNALs fmt fu' (pkts ++ [pkt]) (media ++ groupMedia fmt nal.toList) := by
  obtain ⟨base, hjoins, hresult⟩ := FragmentBuffer.take_eq_ok htake
  unfold FragmentBuffer.Joins at hjoins
  by_cases hstart : (fmt.fragment pkt.payload).isStart
  · have hend : ¬ (fmt.fragment pkt.payload).isEnd := fun he =>
      hboth ⟨hstart, he⟩
    rw [if_pos hstart] at hjoins
    rw [if_neg hend] at hresult
    obtain ⟨rfl, hbuf⟩ := hresult
    rw [HoldsNALs, hnew hstart] at h
    rw [HoldsNALs, hbuf, hjoins, Option.toList_none, groupMedia_nil, List.append_nil]
    exact ⟨pkts, [pkt], rfl, h, .start hkind hstart hend⟩
  · rw [if_neg hstart] at hjoins
    obtain ⟨hbase, hheader⟩ := hjoins
    have hprefix : (fmt.fragment pkt.payload).header <+: base := hheader ▸ List.take_prefix _ base
    rw [HoldsNALs, hbase] at h
    obtain ⟨done, run, rfl, hdone, hrun⟩ := h
    rw [List.append_assoc]
    by_cases hend : (fmt.fragment pkt.payload).isEnd
    · rw [if_pos hend] at hresult
      obtain ⟨rfl, rfl⟩ := hresult
      exact .snoc hdone (.fragmented hrun hkind hstart hend hprefix)
    · rw [if_neg hend] at hresult
      obtain ⟨rfl, hbuf⟩ := hresult
      rw [HoldsNALs, hbuf, Option.toList_none, groupMedia_nil, List.append_nil]
      exact ⟨done, run ++ [pkt], rfl, hdone, .more hrun hkind hstart hend hprefix⟩

end Formats

end LiveForge.Rtp
