import LiveForge.Rtp.Collect
import Mathlib.Data.List.Chain

/-!
# What an H.264 depacketizer puts together

Whatever packets come, each NAL unit that is given out was in one packet, or in
fragments that came directly after each other.
-/

namespace LiveForge.Rtp

open Support FragmentBuffer

/-- The next packet of the same source, with the same time. -/
def Packet.Follows (a b : Packet) : Prop :=
  b.sequenceNumber = a.sequenceNumber + 1 ∧ b.key = a.key

/-- The source and the time of the fragments in the buffer. -/
def FragmentBuffer.key (b : FragmentBuffer) : UnitKey :=
  ⟨b.fuTimestamp, b.fuSSRC, b.fuPayloadType⟩

/-- The packets end with the fragments in the buffer. -/
def Buffered (fmt : NALFormat) (pkts : List Packet) (fu : FragmentBuffer) : Prop :=
  ∀ nal, fu.buf = some nal → nal.length ≤ maxNALBytes ∧ ∃ run last, run ++ [last] <:+ pkts ∧
    Fragments fmt (run ++ [last]) nal ∧ (run ++ [last]).IsChain Packet.Follows ∧
    last.sequenceNumber = fu.fuSequence ∧ last.key = fu.key

/-- The packets end with a group that carries the NAL units. -/
def EndWithGroup (fmt : NALFormat) (pkts : List Packet) (nals : List Bytes) : Prop :=
  ∃ group, group <:+ pkts ∧ Group fmt group nals ∧ group.IsChain Packet.Follows

variable {fmt : NALFormat} {valid : Bytes → Prop} {pkts : List Packet} {pkt : Packet}
  {nals : List Bytes} {fu fu' : FragmentBuffer}

theorem FragmentBuffer.take_checked {f : Fragment} {nal : Option Bytes}
    (h : fu.take pkt f = .ok (nal, fu')) :
    (f.isStart → f.header.length + f.data.length ≤ maxNALBytes) ∧
    (¬ f.isStart → pkt.sequenceNumber = fu.fuSequence + 1 ∧ pkt.key = fu.key ∧
      ∀ base ∈ fu.buf, base.length + f.data.length ≤ maxNALBytes) ∧
    (¬ f.isEnd → pkt.sequenceNumber = fu'.fuSequence ∧ pkt.key = fu'.key) := by
  obtain ⟨⟨base, joined⟩, hjoin, hresult⟩ := bind_eq_ok.mp h
  have hkept : ¬ f.isEnd → pkt.key = joined.key →
      pkt.sequenceNumber = fu'.fuSequence ∧ pkt.key = fu'.key := by
    intro hend hkey
    simp only [if_neg hend] at hresult
    cases hresult
    exact ⟨rfl, hkey⟩
  unfold join at hjoin
  split at hjoin
  next hstart =>
    unfold start at hjoin
    split_ifs at hjoin with hlong
    cases hjoin
    exact ⟨fun _ => Nat.not_lt.mp hlong, absurd hstart, fun hend => hkept hend rfl⟩
  next hstart =>
    unfold extend at hjoin
    split at hjoin
    · cases hjoin
    next buf hbuf =>
      split_ifs at hjoin with hother hmany hlong
      cases hjoin
      simp only [not_or, not_not] at hother
      obtain ⟨hseq, htime, hssrc, htype, -⟩ := hother
      have hkey : pkt.key = fu.key := by
        rw [Packet.key, htime, hssrc, htype, FragmentBuffer.key]
      refine ⟨fun h => absurd h hstart, fun _ => ⟨hseq, hkey, ?_⟩, fun hend => hkept hend hkey⟩
      exact fun base hbase => Option.mem_unique hbuf hbase ▸ Nat.not_lt.mp hlong

theorem buffered_empty : Buffered fmt pkts {} := by
  simp [Buffered]

/-- One packet: the buffer is filled from the packets, and so is what is given
out. -/
theorem Buffered.step (h : Buffered fmt pkts fu) (htaken : Taken fmt valid fu pkt nals fu') :
    Buffered fmt (pkts ++ [pkt]) fu' ∧ (nals = [] ∨ EndWithGroup fmt (pkts ++ [pkt]) nals) := by
  have hone : [pkt] <:+ pkts ++ [pkt] := List.suffix_append pkts [pkt]
  have halone : [pkt].IsChain Packet.Follows := List.isChain_singleton pkt
  cases htaken with
  | single hkind =>
    exact ⟨buffered_empty, .inr ⟨[pkt], hone, .single hkind, halone⟩⟩
  | aggregate hkind hlayout hsize =>
    exact ⟨buffered_empty, .inr ⟨[pkt], hone, .aggregate hkind hlayout hsize, halone⟩⟩
  | fragment hkind hboth htake =>
    obtain ⟨base, hjoins, hresult⟩ := take_eq_ok htake
    obtain ⟨hfirst, hnext, hlast⟩ := take_checked htake
    unfold Joins at hjoins
    by_cases hstart : (fmt.fragment pkt.payload).isStart
    · have hend : ¬ (fmt.fragment pkt.payload).isEnd := fun hend => hboth ⟨hstart, hend⟩
      rw [if_pos hstart] at hjoins
      rw [if_neg hend, hjoins] at hresult
      refine ⟨fun nal hbuf => ?_, .inl (by simp [hresult.1])⟩
      rw [Option.mem_unique hbuf hresult.2, List.length_append]
      exact ⟨hfirst hstart, [], pkt, hone, .start hkind hstart hend, halone, hlast hend⟩
    · rw [if_neg hstart] at hjoins
      obtain ⟨hbase, hheader⟩ := hjoins
      obtain ⟨-, run, last, ⟨before, rfl⟩, hrun, hchain, hseq, hkey⟩ := h base hbase
      obtain ⟨hnumber, hsource, hsize⟩ := hnext hstart
      have hprefix : (fmt.fragment pkt.payload).header <+: base := hheader ▸ List.take_prefix _ base
      have hsuffix : run ++ [last] ++ [pkt] <:+ before ++ (run ++ [last]) ++ [pkt] :=
        ⟨before, by simp⟩
      have hnext : last.Follows pkt := ⟨hseq ▸ hnumber, hsource.trans hkey.symm⟩
      have hlonger := hchain.append (List.isChain_singleton pkt) (by simpa using hnext)
      by_cases hend : (fmt.fragment pkt.payload).isEnd
      · rw [if_pos hend] at hresult
        obtain ⟨rfl, rfl⟩ := hresult
        have hgroup := Group.fragmented hrun hkind hstart hend hprefix
        exact ⟨buffered_empty, .inr ⟨_, hsuffix, hgroup, hlonger⟩⟩
      · rw [if_neg hend] at hresult
        refine ⟨fun nal hbuf => ?_, .inl (by simp [hresult.1])⟩
        rw [Option.mem_unique hbuf hresult.2, List.length_append]
        exact ⟨hsize base hbase, run ++ [last], pkt, hsuffix,
          .more hrun hkind hstart hend hprefix, hlonger, hlast hend⟩

namespace H264Depacketizer

def feed (pkts : List Packet) : H264Depacketizer :=
  pkts.foldl (fun d pkt => (d.depacketizeFrames pkt).2) {}

theorem depacketizeFrames_of_error {d : H264Depacketizer} {e : H264Error}
    (h : h264NALs d.fu pkt = .error e) :
    d.depacketizeFrames pkt = (.error e, d.resetFU) := by
  simp [depacketizeFrames, depacketizePayload, h]

theorem depacketizeFrames_of_ok {d : H264Depacketizer} (h : h264NALs d.fu pkt = .ok (nals, fu)) :
    (∃ frames, (d.depacketizeFrames pkt).1 = .ok frames) ∧ (d.depacketizeFrames pkt).2.fu = fu := by
  simp only [depacketizeFrames, depacketizePayload, h]
  split
  · exact ⟨⟨_, rfl⟩, rfl⟩
  · refine ⟨⟨_, rfl⟩, (configFrames_fu _).trans ?_⟩
    exact (scan_spec _ (by simp)).2.1

theorem buffered_feed (pkts : List Packet) : Buffered h264Format pkts (feed pkts).fu := by
  induction pkts using List.reverseRecOn with
  | nil => exact buffered_empty
  | append_singleton pkts pkt ih =>
    rw [feed, List.foldl_concat]
    change Buffered h264Format _ ((feed pkts).depacketizeFrames pkt).2.fu
    cases hnals : h264NALs (feed pkts).fu pkt with
    | error e =>
      rw [depacketizeFrames_of_error hnals]
      exact buffered_empty
    | ok result =>
      rw [(depacketizeFrames_of_ok hnals).2]
      exact (ih.step (taken_h264 hnals)).1

theorem payload_of_media {d : H264Depacketizer} {frames : List AVFrame} {frame : AVFrame}
    (h : (d.depacketizeFrames pkt).1 = .ok frames) (hmem : frame ∈ frames)
    (hmedia : frame.frameType ≠ .sequenceHeader) :
    (d.depacketizePayload pkt).1 = .ok frame.payload := by
  cases hnals : h264NALs d.fu pkt with
  | error e =>
    rw [depacketizeFrames_of_error hnals] at h
    cases h
  | ok result =>
    simp only [depacketizeFrames, depacketizePayload, hnals] at h ⊢
    split at h
    · cases h
      simp at hmem
    · cases h
      rcases List.mem_append.mp hmem with hconfig | hframe
      · unfold configFrames at hconfig
        split at hconfig
        · rw [List.mem_singleton.mp hconfig] at hmedia
          exact absurd rfl hmedia
        · simp at hconfig
      · unfold mediaFrames at hframe
        split at hframe
        · rw [List.mem_singleton.mp hframe]
          rfl
        · simp at hframe

theorem validateH264NAL_le {nal : Bytes} (h : validateH264NAL nal = .ok ()) :
    nal.length ≤ maxNALBytes := by
  unfold validateH264NAL at h
  split_ifs at h with hheader hlong
  exact Nat.not_lt.mp hlong

/-- After any packets: what the next one gives is exactly what it and the packets
before it carry, an error gives nothing and leaves only the parameter sets, and
no NAL unit is too long. -/
theorem h264_reassembles (pkts : List Packet) (pkt : Packet) :
    (∀ data, ((feed pkts).depacketizePayload pkt).1 = .ok data → data = [] ∨ ∃ nals,
      data = prefixed32 nals ∧ EndWithGroup h264Format (pkts ++ [pkt]) nals ∧
        ∀ nal ∈ nals, nal.length ≤ maxNALBytes) ∧
    (∀ frames, ((feed pkts).depacketizeFrames pkt).1 = .ok frames → ∀ frame ∈ frames,
      frame.frameType ≠ .sequenceHeader →
        ((feed pkts).depacketizePayload pkt).1 = .ok frame.payload) ∧
    (∀ e, ((feed pkts).depacketizeFrames pkt).1 = .error e →
      ((feed pkts).depacketizeFrames pkt).2 = { feed pkts with fu := {} }) ∧
    ∀ nal, (feed pkts).fu.buf = some nal → nal.length ≤ maxNALBytes := by
  have hbuffered := buffered_feed pkts
  refine ⟨fun data hdata => ?_, fun _ h _ => payload_of_media h, fun e herror => ?_,
    fun nal hnal => (hbuffered nal hnal).1⟩
  · cases hnals : h264NALs (feed pkts).fu pkt with
    | error e => simp [depacketizePayload, hnals] at hdata
    | ok result =>
      simp only [depacketizePayload, hnals] at hdata
      cases hdata
      have htaken := taken_h264 hnals
      rcases (hbuffered.step htaken).2 with hnone | hgroup
      · exact .inl (by rw [hnone]; rfl)
      · exact .inr ⟨_, rfl, hgroup, fun nal hnal =>
          validateH264NAL_le (htaken.forall_valid nal hnal)⟩
  · cases hnals : h264NALs (feed pkts).fu pkt with
    | error e => exact congrArg Prod.snd (depacketizeFrames_of_error hnals)
    | ok result =>
      obtain ⟨frames, hframes⟩ := (depacketizeFrames_of_ok hnals).1
      cases hframes.symm.trans herror

/-- A NAL unit in two fragments, where the sequence numbers wrap around. -/
theorem h264_reassembles_fragments :
    ∃ nals, [0, 0, 0, 3, 0x65, 1, 2] = prefixed32 nals ∧
      EndWithGroup h264Format
        [⟨false, 96, 65535, 0, 1, [0x7C, 0x85, 1]⟩, ⟨true, 96, 0, 0, 1, [0x7C, 0x45, 2]⟩] nals ∧
      ∀ nal ∈ nals, nal.length ≤ maxNALBytes :=
  ((h264_reassembles [⟨false, 96, 65535, 0, 1, [0x7C, 0x85, 1]⟩]
    ⟨true, 96, 0, 0, 1, [0x7C, 0x45, 2]⟩).1 _ (by decide)).resolve_left (by decide)

end H264Depacketizer

end LiveForge.Rtp
