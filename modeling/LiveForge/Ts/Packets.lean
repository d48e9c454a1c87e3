import LiveForge.Ts.Muxer

/-!
# Packets of the muxer

Every packet the muxer writes has 188 bytes and carries a piece of its data
behind a header, which says the stream and whether a PES packet starts, and
behind an adaptation field, whose stuffing makes up for data that is too short.
The payloads of the packets of one stream, put together, are the elementary
stream again.
-/

namespace LiveForge.Ts

open Support

/-! ## One packet -/

/-- A whole packet of the stream `pid` with this payload. -/
structure IsPacket (pid : ℕ) (pusi : Bool) (payload pkt : Bytes) : Prop where
  length : pkt.length = packetSize
  sync : pkt[0]? = some syncByte
  content : ∃ adaptControl, Parser.packetHeader pkt = .ok ⟨pid, pusi, adaptControl⟩ ∧
      Parser.packetPayload pkt adaptControl = .ok (some payload)

variable {pid bound pid' : ℕ} {pkt data : Bytes}

theorem pidOf_pidHigh (hpid : pid < 2 ^ 13) (first : Bool) :
    pidOf (pidHigh (if first then 0x40 else 0x00) pid) (byteOf pid 0) = pid := by
  have hhigh : ∀ b : UInt8,
      (((if first then 0x40 else 0x00) ||| b &&& 0x1F) &&& 0x1F : UInt8).toNat =
        b.toNat % 32 := by
    cases first
    · exact forall_byte (by decide +kernel)
    · exact forall_byte (by decide +kernel)
  rw [pidOf, be16_eq, pidHigh, hhigh, toNat_byteOf, toNat_byteOf]
  omega

theorem pidHigh_start (pid : ℕ) (first : Bool) :
    decide (pidHigh (if first then 0x40 else 0x00) pid &&& 0x40 ≠ 0) = first := by
  have hbit : ∀ b : UInt8,
      decide (((if first then 0x40 else 0x00) ||| b &&& 0x1F) &&& 0x40 ≠ 0) =
        first := by
    cases first
    · exact forall_byte (by decide +kernel)
    · exact forall_byte (by decide +kernel)
  rw [pidHigh, hbit]

/-- The two kinds of packets: with payload only, and with both. -/
theorem adaptControl_eq (both : Bool) (continuityCounter : UInt8) :
    (((if both then 0x30 else 0x10) ||| continuityCounter &&& 0x0F) >>> 4) &&&
      0x03 = if both then 0x03 else 0x01 := by
  revert continuityCounter
  cases both
  · exact forall_byte (by decide +kernel)
  · exact forall_byte (by decide +kernel)

theorem packetHeader_eq (hpid : pid < 2 ^ 13) (first both : Bool) (continuityCounter : UInt8)
    (rest : Bytes) :
    Parser.packetHeader
      ([syncByte, pidHigh (if first then 0x40 else 0x00) pid, byteOf pid 0,
        (if both then 0x30 else 0x10) ||| continuityCounter &&& 0x0F] ++ rest) =
      .ok ⟨pid, first, if both then 0x03 else 0x01⟩ := by
  rw [Parser.packetHeader]
  simp only [List.cons_append, index_cons_succ, index_cons_zero, ok_bind]
  rw [pidOf_pidHigh hpid, pidHigh_start, adaptControl_eq]
  rfl

theorem packetPayload_one (hlength : pkt.length = packetSize) :
    Parser.packetPayload pkt 0x01 = .ok (some (pkt.drop 4)) := by
  have hslice : sliceFrom pkt 4 = .ok (pkt.drop 4) := sliceFrom_of_le (by rw [hlength]; decide)
  show (if packetSize ≤ 4 then pure none
    else sliceFrom pkt 4 >>= fun payload => pure (some payload)) = _
  rw [hslice]
  rfl

theorem packetPayload_three (hlength : pkt.length = packetSize) {adaptLen : UInt8}
    (hindex : index pkt 4 = .ok adaptLen) (hroom : 4 + (1 + adaptLen.toNat) < packetSize) :
    Parser.packetPayload pkt 0x03 = .ok (some (pkt.drop (4 + (1 + adaptLen.toNat)))) := by
  have hslice : sliceFrom pkt (4 + (1 + adaptLen.toNat)) =
      .ok (pkt.drop (4 + (1 + adaptLen.toNat))) :=
    sliceFrom_of_le (by rw [hlength]; exact hroom.le)
  rw [Parser.packetPayload, hindex]
  show (if packetSize ≤ 4 + (1 + adaptLen.toNat) then pure none
    else sliceFrom pkt (4 + (1 + adaptLen.toNat)) >>= fun payload =>
      pure (some payload)) = _
  rw [if_neg (Nat.not_le_of_lt hroom), hslice]
  rfl

/-- What an adaptation field leaves for the data: nothing is lost, and a packet
is filled. -/
structure IsAdaptation (adaptation : Bytes) (remaining : ℕ) : Prop where
  size : adaptation = [] ∨ ∃ body : Bytes, adaptation = UInt8.ofNat body.length :: body
  room : adaptation.length < packetSize - 4
  fills : packetSize - 4 ≤ adaptation.length + remaining

theorem length_adaptationBody (opts : PESPacketizeOptions) (stuffing : ℕ) :
    (adaptationBody opts stuffing).length = (adaptationBody opts 0).length + stuffing := by
  simp only [adaptationBody, List.length_append, List.length_replicate, Nat.add_zero]

theorem length_adaptationBody_zero_le (opts : PESPacketizeOptions) :
    (adaptationBody opts 0).length ≤ 7 := by
  simp only [adaptationBody, List.length_append, List.length_singleton]
  split
  · exact Nat.le_refl 7
  · exact Nat.le_add_right 1 6

theorem isAdaptation_adaptationField (opts : Option PESPacketizeOptions) {remaining : ℕ}
    (hpos : 0 < remaining) :
    IsAdaptation (adaptationField opts remaining) remaining := by
  unfold adaptationField
  split
  next o _ =>
    have hle := length_adaptationBody_zero_le o
    have hlength := length_adaptationBody o
      (packetSize - 5 - (adaptationBody o 0).length - remaining)
    refine ⟨.inr ⟨_, rfl⟩, ?_, ?_⟩
    · rw [List.length_cons, hlength, packetSize]
      omega
    · rw [List.length_cons, hlength]
      omega
  · split
    next hshort =>
      dsimp only
      rw [packetSize] at hshort ⊢
      split
      next hone => exact ⟨.inr ⟨[], rfl⟩, by simp [packetSize], by
        simp only [packetSize, List.length_singleton]; omega⟩
      next hmore =>
        refine ⟨.inr ⟨0x00 :: List.replicate (188 - 4 - remaining - 2) 0xFF, ?_⟩, ?_, ?_⟩
        · rw [List.length_cons, List.length_replicate]
          rw [show 188 - 4 - remaining - 2 + 1 = 188 - 4 - remaining - 1 by omega]
          rfl
        all_goals
          simp only [packetSize, List.length_append, List.length_cons,
            List.length_nil, List.length_replicate]
          omega
    next hlong =>
      rw [packetSize] at hlong
      refine ⟨.inl rfl, by simp [packetSize], ?_⟩
      rw [packetSize]
      omega

/-- A packet carries as much of the data as its adaptation field leaves. -/
theorem isPacket_pesPacket (hpid : pid < 2 ^ 13) (first : Bool)
    (continuityCounter : UInt8) {adaptation : Bytes} (h : IsAdaptation adaptation data.length) :
    IsPacket pid first (data.take (packetSize - 4 - adaptation.length))
      (pesPacket pid first continuityCounter adaptation data) := by
  have hroom := h.room
  have hfills := h.fills
  rw [packetSize] at hroom hfills
  have hlength : (pesPacket pid first continuityCounter adaptation data).length =
      packetSize := by
    simp only [pesPacket, packetSize, List.length_append, List.length_cons,
      List.length_nil, List.length_take]
    omega
  have hheader := packetHeader_eq hpid first (decide (adaptation ≠ [])) continuityCounter
    (adaptation ++ data.take (packetSize - 4 - adaptation.length))
  have hpkt : pesPacket pid first continuityCounter adaptation data =
      [syncByte, pidHigh (if first then 0x40 else 0x00) pid, byteOf pid 0,
        (if decide (adaptation ≠ []) then 0x30 else 0x10) ||| continuityCounter &&& 0x0F] ++
        (adaptation ++ data.take (packetSize - 4 - adaptation.length)) := by
    rw [pesPacket]
    by_cases hnil : adaptation = []
    · simp [hnil]
    · simp [hnil]
  rw [← hpkt] at hheader
  refine ⟨hlength, by rfl, _, hheader, ?_⟩
  rcases h.size with rfl | ⟨body, rfl⟩
  · -- no adaptation field
    refine (packetPayload_one hlength).trans ?_
    rfl
  · -- the field has its length in front
    rw [List.length_cons] at hroom
    have hbody : (UInt8.ofNat body.length).toNat = body.length := by
      rw [UInt8.toNat_ofNat']
      omega
    have hindex : index (pesPacket pid first continuityCounter
        (UInt8.ofNat body.length :: body) data) 4 =
        .ok (UInt8.ofNat body.length) := by
      rfl
    refine (packetPayload_three hlength hindex ?_).trans ?_
    · rw [packetSize]
      omega
    · rw [hbody, show 4 + (1 + body.length) = body.length + 5 by omega]
      exact congrArg (Except.ok ∘ some) List.drop_left

/-! ## Packets of a stream -/

/-- The data, cut into the packets of one stream. -/
inductive InPackets (pid : ℕ) : Bool → Bytes → Bytes → Prop where
  | nil (first : Bool) : InPackets pid first [] []
  | cons {first : Bool} {payload pkt rest more : Bytes}
      (hpkt : IsPacket pid first payload pkt)
      (hrest : InPackets pid false rest more) :
      InPackets pid first (payload ++ rest) (pkt ++ more)

theorem inPackets_packetizeLoop (hpid : pid < 2 ^ 13) (hbound : data.length ≤ bound)
    (first : Bool) (opts : Option PESPacketizeOptions) (continuityCounter : UInt8) :
    InPackets pid first data (packetizeLoop pid bound first opts continuityCounter data).2 := by
  induction bound generalizing data first opts continuityCounter with
  | zero =>
    rw [List.length_eq_zero_iff.mp (Nat.le_zero.mp hbound)]
    exact .nil first
  | succ bound ih =>
    rw [packetizeLoop]
    split
    next hnil =>
      rw [hnil]
      exact .nil first
    next hne =>
      have hpos : 0 < data.length := List.length_pos_iff.mpr hne
      have hadaptation := isAdaptation_adaptationField opts hpos
      have hroom := hadaptation.room
      have hpkt := isPacket_pesPacket hpid first continuityCounter hadaptation
      generalize adaptationField opts data.length = adaptation at hroom hpkt ⊢
      have hrest := ih (show (data.drop (packetSize - 4 - adaptation.length)).length ≤ bound
          by rw [List.length_drop]; omega)
        false none ((continuityCounter + 1) &&& 0x0F)
      have hcons := InPackets.cons hpkt hrest
      rwa [List.take_append_drop] at hcons

theorem inPackets_packetizePES (hpid : pid < 2 ^ 13) (data : Bytes)
    (continuityCounter : UInt8) (opts : Option PESPacketizeOptions) :
    InPackets pid true data (packetizePES pid data continuityCounter opts).2 :=
  inPackets_packetizeLoop hpid (Nat.le_refl _) true opts continuityCounter

/-! ## Elementary streams -/

/-- The payload of a packet, if it belongs to the stream. -/
def payloadOf (pid : ℕ) (pkt : Bytes) : Bytes :=
  match Parser.packetHeader pkt with
  | .error _ => []
  | .ok header =>
    if header.pid = pid then
      match Parser.packetPayload pkt header.adaptControl with
      | .ok (some payload) => payload
      | _ => []
    else []

/-- The payloads of so many packets at most. -/
def elementaryOf (pid : ℕ) : ℕ → Bytes → Bytes
  | 0, _ => []
  | bound + 1, data =>
    if data.length < packetSize then []
    else
      payloadOf pid (data.take packetSize) ++ elementaryOf pid bound (data.drop packetSize)

def elementary (pid : ℕ) (data : Bytes) : Bytes :=
  elementaryOf pid data.length data

@[simp] theorem elementary_nil (pid : ℕ) : elementary pid [] = [] := rfl

theorem elementaryOf_succ (hbound : data.length ≤ bound) :
    elementaryOf pid (bound + 1) data = elementaryOf pid bound data := by
  induction bound generalizing data with
  | zero =>
    rw [List.length_eq_zero_iff.mp (Nat.le_zero.mp hbound)]
    rfl
  | succ bound ih =>
    have hrest : (data.drop packetSize).length ≤ bound := by
      rw [List.length_drop, packetSize]
      omega
    rw [elementaryOf, ih hrest, elementaryOf]

theorem elementaryOf_eq (hbound : data.length ≤ bound) :
    elementaryOf pid bound data = elementary pid data := by
  induction bound, hbound using Nat.le_induction with
  | base => rfl
  | succ bound hbound ih => exact (elementaryOf_succ hbound).trans ih

theorem elementary_packet (hlength : pkt.length = packetSize) (rest : Bytes) :
    elementary pid (pkt ++ rest) = payloadOf pid pkt ++ elementary pid rest := by
  have hlong : (pkt ++ rest).length = rest.length + packetSize := by
    rw [List.length_append, hlength, Nat.add_comm]
  rw [elementary, hlong, packetSize, elementaryOf,
    if_neg (by omega), ← hlength, List.take_left, List.drop_left,
    elementaryOf_eq (Nat.le_add_right _ _)]

theorem IsPacket.payloadOf {pusi : Bool} {payload : Bytes} (h : IsPacket pid pusi payload pkt) :
    payloadOf pid' pkt = if pid = pid' then payload else [] := by
  obtain ⟨adaptControl, hheader, hpayload⟩ := h.content
  rw [Ts.payloadOf, hheader]
  dsimp only
  rw [hpayload]

/-- The packets of a stream give its data, and nothing of another stream. -/
theorem InPackets.elementary {first : Bool} {out : Bytes} (h : InPackets pid first data out)
    (rest : Bytes) :
    elementary pid' (out ++ rest) = (if pid = pid' then data else []) ++ elementary pid' rest := by
  induction h with
  | nil first =>
    split <;> rfl
  | cons hpkt _ ih =>
    rw [List.append_assoc, elementary_packet hpkt.length, hpkt.payloadOf, ih, ← List.append_assoc]
    split <;> rfl

/-! ## Frames -/

/-- Tables are whole packets of their own streams. -/
theorem isPacket_tablePacket (hpid : pid < 2 ^ 13) (continuityCounter : UInt8)
    {table : Bytes} (hlength : 9 + table.length ≤ packetSize) :
    ∃ payload, IsPacket pid true payload (tablePacket pid continuityCounter table) := by
  have htotal : (tablePacket pid continuityCounter table).length =
      packetSize := by
    simp only [tablePacket, List.length_append, List.length_cons,
      List.length_nil, length_be32Bytes, List.length_replicate]
    omega
  refine ⟨_, htotal, by rfl, 0x01, ?_, packetPayload_one htotal⟩
  exact packetHeader_eq hpid true false continuityCounter _

theorem length_pmtSection_le (videoType audioType : UInt8) :
    9 + (pmtSection videoType audioType).length ≤ packetSize := by
  have hentry : ∀ (type : UInt8) (pid : ℕ), (streamEntry type pid).length ≤ 5 := by
    intro type pid
    unfold streamEntry
    split
    · exact Nat.zero_le 5
    · exact Nat.le_refl 5
  have hvideo := hentry videoType pidVideo
  have haudio := hentry audioType pidAudio
  simp only [pmtSection, pmtBody, packetSize, List.length_append, List.length_cons, List.length_nil]
  omega

theorem elementary_rebuildPATandPMT (m : Muxer) {pid : ℕ} (hpat : pid ≠ pidPat)
    (hpmt : pid ≠ pidPmt) (rest : Bytes) :
    elementary pid (m.rebuildPATandPMT.2 ++ rest) = elementary pid rest := by
  obtain ⟨pat, hpatPacket⟩ := isPacket_tablePacket (show pidPat < 2 ^ 13 by decide) m.patContinuity
    (show 9 + patSection.length ≤ packetSize by decide)
  obtain ⟨pmt, hpmtPacket⟩ := isPacket_tablePacket (show pidPmt < 2 ^ 13 by decide) m.pmtContinuity
    (length_pmtSection_le (streamType m.videoCodec) (streamType m.audioCodec))
  rw [Muxer.rebuildPATandPMT, buildPAT, buildPMT, List.append_assoc,
    elementary_packet hpatPacket.length, hpatPacket.payloadOf,
    if_neg hpat.symm, List.nil_append, elementary_packet hpmtPacket.length,
    hpmtPacket.payloadOf, if_neg hpmt.symm, List.nil_append]

def Muxer.videoPES (m : Muxer) (frame : AVFrame) : Bytes :=
  buildPESHeader 0xE0 frame.pts frame.dts (m.videoPayload frame).length ++ m.videoPayload frame

/-- Out of the packets of a frame comes the PES packet of the frame if it is
one of the video. -/
theorem elementary_writeMedia (m : Muxer) (frame : AVFrame) (rest : Bytes) :
    elementary pidVideo ((m.writeMedia frame).2 ++ rest) =
      (if frame.mediaType = .video then m.videoPES frame else []) ++ elementary pidVideo rest := by
  unfold Muxer.writeMedia
  split
  next hvideo =>
    rw [if_pos hvideo]
    exact ((inPackets_packetizePES (by decide) _ _ _).elementary rest).trans (by rfl)
  next haudio =>
    rw [if_neg (by rw [haudio]; decide)]
    exact ((inPackets_packetizePES (by decide) _ _ _).elementary rest).trans
      (by rw [if_neg (by decide)])
  next hother =>
    rw [if_neg (by rw [hother]; decide)]
    rfl

theorem elementary_writeFrame (m : Muxer) (frame : AVFrame) (rest : Bytes) :
    elementary pidVideo ((m.writeFrame frame).2 ++ rest) =
      (if frame.mediaType = .video ∧ frame.frameType ≠ .sequenceHeader then
        m.videoPES frame else []) ++ elementary pidVideo rest := by
  unfold Muxer.writeFrame
  split
  next hheader =>
    rw [if_neg (by simp [hheader])]
    rfl
  next hmedia =>
    have hsame : (frame.mediaType = .video ∧ frame.frameType ≠ .sequenceHeader) =
        (frame.mediaType = .video) := by simp [hmedia]
    simp only [hsame]
    split
    · exact elementary_writeMedia m frame rest
    · split
      · rw [List.append_assoc, elementary_rebuildPATandPMT _ (by decide) (by decide)]
        exact elementary_writeMedia m frame rest
      · exact elementary_writeMedia m frame rest

end LiveForge.Ts
