import LiveForge.Rtp.Audio

/-!
# AAC access units in RTP packets

An RFC 3640 packet in AAC-hbr mode carries access units behind a list of
headers, one with 13 bits of size for each.  `AACDepacketizer` skips the list,
so that only a single unit comes out as it was, and `AACPacketizer` writes the
low 13 bits of any length.
-/

namespace LiveForge.Rtp

open Support

/-- Access units in the AAC-hbr layout: the length of the headers in bits, the
headers, the units. -/
def aacHbr (units : List Bytes) : Bytes :=
  be16Bytes (16 * units.length) ++ units.flatMap (fun unit => be16Bytes (unit.length <<< 3)) ++
    units.flatten

def auSize (payload : Bytes) : ℕ := be16 (payload.getD 2 0) (payload.getD 3 0) >>> 3

/-- The units of a packet come out apart exactly if there is one, and the size
that is written is the length of the payload exactly if 13 bits hold it. -/
theorem aac_units_iff (unmarshal : VP8Unmarshal) :
    (∀ (units : List Bytes) (pkt : Packet), units ≠ [] →
      (∀ unit ∈ units, 1 ≤ unit.length ∧ unit.length ≤ 8191) → pkt.payload = aacHbr units →
      (((TrackDepacketizer.audio .aac).depacketizeFrames unmarshal pkt).1 =
        .ok (units.map (audioFrame .aac)) ↔ units.length = 1)) ∧
    ∀ (frame : AVFrame) (pkts : List Packet), aacPacketize frame = .ok pkts →
      ((∀ pkt ∈ pkts, auSize pkt.payload = frame.payload.length) ↔
        frame.payload.length ≤ 8191) := by
  refine ⟨fun units pkt hne hunits hpkt => ⟨fun hframes => ?_, fun hone => ?_⟩,
    fun frame pkts hpkts => ?_⟩
  · obtain ⟨f, -, hf⟩ := map_eq_ok.mp (mapError_eq_ok.mp hframes)
    simpa using (congrArg List.length hf).symm
  · obtain ⟨unit, rfl⟩ := List.length_eq_one_iff.mp hone
    have hpayload : pkt.payload = 0 :: 16 :: byteOf (unit.length <<< 3) 8 ::
        byteOf (unit.length <<< 3) 0 :: unit := by
      rw [hpkt]
      simp [aacHbr, be16Bytes, byteOf]
    have hdepacketize : aacDepacketize pkt = .ok (audioFrame .aac unit) := by
      simp only [aacDepacketize, hpayload, List.getD_cons_zero, List.getD_cons_succ]
      rfl
    simp only [TrackDepacketizer.depacketizeFrames, AudioDepacketizer.depacketize, hdepacketize]
    rfl
  · unfold aacPacketize wholePacket at hpkts
    split_ifs at hpkts
    cases hpkts
    have hsize : auSize (be16Bytes 16 ++ be16Bytes (frame.payload.length <<< 3) ++ frame.payload) =
        frame.payload.length % 2 ^ 13 := by
      simp only [auSize, be16Bytes, List.cons_append, List.nil_append, List.getD_cons_succ,
        List.getD_cons_zero, be16_eq, toNat_byteOf]
      omega
    simp only [List.mem_singleton, forall_eq, rawPacket]
    omega

/-- One unit of three bytes, and the packet that is made of it. -/
theorem aac_units_single :
    ((TrackDepacketizer.audio .aac).depacketizeFrames (fun _ => none)
      (rawPacket true (aacHbr [[1, 2, 3]]))).1 = .ok [audioFrame .aac [1, 2, 3]] ∧
      ∀ pkt ∈ [rawPacket true [0, 16, 0, 24, 1, 2, 3]], auSize pkt.payload = 3 :=
  ⟨((aac_units_iff fun _ => none).1 [[1, 2, 3]] _ (by decide) (by decide) rfl).mpr rfl,
    ((aac_units_iff fun _ => none).2 (audioFrame .aac [1, 2, 3]) _ rfl).mpr (by decide)⟩

/-- Two units come out as one, and the size of 8192 bytes is written as zero. -/
theorem aac_units_joined :
    ((TrackDepacketizer.audio .aac).depacketizeFrames (fun _ => none)
      (rawPacket true (aacHbr [[1, 2], [3]]))).1 = .ok [audioFrame .aac [1, 2, 3]] ∧
      ∃ frame pkt, frame.payload.length = 8192 ∧ aacPacketize frame = .ok [pkt] ∧
        auSize pkt.payload = 0 := by
  have hlength : (0 :: List.replicate 8191 0 : Bytes).length = 8192 := by
    rw [List.length_cons, List.length_replicate]
  refine ⟨by decide, audioFrame .aac (0 :: List.replicate 8191 0), _, hlength, rfl, ?_⟩
  unfold auSize rawPacket be16Bytes audioFrame newAVFrame
  rw [hlength]
  rfl

end LiveForge.Rtp
