import LiveForge.Rtp.Packetizer
import LiveForge.Rtp.Vpx

/-!
# The key frame flag of VP9 over one RTP hop

`VP9Depacketizer` takes a frame for a key frame unless the P bit of its last
descriptor is set, and `VP9Packetizer` never sets that bit.
-/

namespace LiveForge.Rtp

open Support

/-- The frames of packets received one after the other; a packet that is
refused gives none. -/
def VP9Depacketizer.deliver (d : VP9Depacketizer) : List Packet → List AVFrame
  | [] => []
  | pkt :: pkts => (d.depacketize pkt).1.getD [] ++ (d.depacketize pkt).2.deliver pkts

def vp9Hop (mtu : ℕ) (frame : AVFrame) : List AVFrame :=
  match vp9Packetize frame mtu with
  | .error _ => []
  | .ok pkts => VP9Depacketizer.deliver {} pkts

/-- Every frame in pieces comes out as a key frame. -/
theorem VP9Depacketizer.deliver_pieces {header : Bool → Bool → UInt8}
    (hheader : ∀ isFirst isLast, (header isFirst isLast &&& 0x08 ≠ 0 ↔ isFirst) ∧
      (header isFirst isLast &&& 0x04 ≠ 0 ↔ isLast) ∧ header isFirst isLast &&& 0x40 = 0)
    {d : VP9Depacketizer} {data : Bytes} {isFirst : Bool} {ps : List Bytes} (hne : ps ≠ [])
    (hps : ∀ piece ∈ ps, piece ≠ []) (hbuf : (if isFirst then [] else d.buf.getD []) = data) :
    d.deliver (piecePackets (fun isFirst isLast => [header isFirst isLast]) isFirst ps) =
      [newAVFrame .video .vp9 .keyframe 0 0 (data ++ ps.flatten)] := by
  induction ps generalizing d data isFirst with
  | nil => exact absurd rfl hne
  | cons piece ps ih =>
    obtain ⟨hpiece, hps⟩ := List.forall_mem_cons.mp hps
    obtain ⟨hfirst, hlast, htype⟩ := hheader isFirst ps.isEmpty
    have hpkt : d.depacketize (rawPacket ps.isEmpty ([header isFirst ps.isEmpty] ++ piece)) =
        if ps.isEmpty then
          (some [newAVFrame .video .vp9 .keyframe 0 0 (data ++ piece)], ⟨none⟩)
        else (some [], ⟨some (data ++ piece)⟩) := by
      have hlong : ¬ piece.length + 1 < 2 := by
        have := List.length_pos_of_ne_nil hpiece
        omega
      simp only [depacketize, rawPacket, List.singleton_append, List.getD_cons_zero, hfirst, hlast,
        htype, List.drop_one, List.tail_cons, List.length_cons, if_neg hlong, hbuf, if_true]
    rw [piecePackets, deliver, hpkt]
    cases ps with
    | nil => simp [piecePackets, deliver]
    | cons next rest =>
      have hrest := @ih ⟨some (data ++ piece)⟩ (data ++ piece) false (by simp) hps rfl
      simpa using hrest

/-- The frame that arrives has the type of the frame that was sent exactly if
that is a key frame. -/
theorem vp9Hop_frameType_iff {frame : AVFrame} {mtu : ℕ} (hne : frame.payload ≠ [])
    (hmtu : 2 ≤ mtu) :
    (∃ f, vp9Hop mtu frame = [f] ∧ f.frameType = frame.frameType) ↔
      frame.frameType = .keyframe := by
  have hsize : 0 < mtu - 1 := by omega
  have hcut : ∃ ps : List Bytes, ps ≠ [] ∧ (∀ piece ∈ ps, piece ≠ []) ∧
      ps.flatten = frame.payload ∧ vp9Packetize frame mtu = .ok (piecePackets
        (fun isFirst isLast => [if isFirst ∧ isLast then 0x0C else if isFirst then 0x08
          else if isLast then 0x04 else 0x00]) true ps) := by
    unfold vp9Packetize onePieceHeader
    rw [if_neg hne, if_neg (Nat.not_lt.mpr hmtu)]
    split
    · exact ⟨[frame.payload], by simp, by simpa using hne, by simp, rfl⟩
    · exact ⟨_, pieces_ne_nil hne hsize, fun _ => ne_nil_of_mem_pieces, flatten_pieces hsize _, rfl⟩
  obtain ⟨ps, hnil, hps, hflat, hpackets⟩ := hcut
  have hhop : vp9Hop mtu frame = [newAVFrame .video .vp9 .keyframe 0 0 frame.payload] := by
    rw [vp9Hop, hpackets, ← hflat]
    exact VP9Depacketizer.deliver_pieces (by decide) hnil hps rfl
  rw [hhop]
  exact ⟨fun ⟨f, hf, htype⟩ => by rw [← htype, ← List.singleton_inj.mp hf]; rfl,
    fun htype => ⟨_, rfl, htype.symm⟩⟩

/-- A key frame of three bytes in three packets. -/
theorem vp9Hop_frameType_key :
    ∃ f, vp9Hop 2 (newAVFrame .video .vp9 .keyframe 0 0 [1, 2, 3]) = [f] ∧
      f.frameType = .keyframe :=
  (@vp9Hop_frameType_iff (newAVFrame .video .vp9 .keyframe 0 0 [1, 2, 3]) 2 (by decide)
    le_rfl).mpr rfl

/-- An interframe arrives as a key frame. -/
theorem vp9Hop_interframe :
    vp9Hop 1400 (newAVFrame .video .vp9 .interframe 0 0 [1, 2, 3]) =
      [newAVFrame .video .vp9 .keyframe 0 0 [1, 2, 3]] := by
  decide

end LiveForge.Rtp
