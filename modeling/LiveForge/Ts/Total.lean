import LiveForge.Ts.Demuxer

/-!
# Panics of the transport stream demuxer

Of all the lengths that a transport stream carries only one is used unchecked:
the pointer field in front of a section of a table.  Everything else that the
demuxer reads lies inside the packet or the PES packet at hand.  So the demuxer
gets through an input exactly if the pointer field of every table packet that it
comes to points into the packet.
-/

namespace LiveForge.Ts

open Support

namespace Parser

/-! ## Video and audio -/

section Video

variable {codec : CodecType} {isSPS isIDR : Bytes → Bool}
  {buildConfig : Bytes → Checked (Option Bytes)} {convert : Bytes → Checked Bytes}

theorem safe_emitVideoSequenceHeader (hbuild : ∀ payload, Safe (buildConfig payload)) (p : Parser)
    (hasSPS : Bool) (payload : Bytes) (dts pts : ℤ) :
    Safe (p.emitVideoSequenceHeader codec buildConfig hasSPS payload dts pts) := by
  unfold emitVideoSequenceHeader
  split
  · refine (hbuild payload).bind fun config _ => ?_
    cases config with
    | none | some config => exact safe_pure _
  · exact safe_pure _

theorem safe_processNALUs (hbuild : ∀ payload, Safe (buildConfig payload))
    (hconvert : ∀ payload, Safe (convert payload)) (p : Parser) (payload : Bytes) (dts pts : ℤ) :
    Safe (p.processNALUs codec isSPS isIDR buildConfig convert payload dts pts) := by
  rw [processNALUs, H264.extractNALUs_eq, ok_bind]
  split
  · exact safe_pure _
  · refine (safe_emitVideoSequenceHeader hbuild ..).bind fun p' _ => ?_
    refine (hconvert payload).bind fun converted _ => ?_
    split
    · exact safe_pure _
    · exact safe_pure _

end Video

theorem safe_processVideo (p : Parser) (payload : Bytes) (dts pts : ℤ) :
    Safe (p.processVideo payload dts pts) := by
  unfold processVideo
  split
  · exact safe_processNALUs Rtp.safe_buildAVCDecoderConfig
      (fun payload => ⟨_, Rtp.annexBToAVCC_eq payload⟩) ..
  · exact safe_processNALUs (fun payload => ⟨_, H265.buildHVCCDecoderConfigChecked_eq payload⟩)
      (fun payload => ⟨_, H265.annexBToHVCC_eq payload⟩) ..
  · exact safe_pure _

theorem safe_parseADTSHeader (data : Bytes) : Safe (AAC.parseADTSHeader data) := by
  refine safe_ite fun hlong => ?_
  refine (safe_index (by omega)).bind fun b0 _ => ?_
  refine (safe_index (by omega)).bind fun b1 _ => safe_ite fun _ => safe_ite fun hheader => ?_
  refine (safe_index (by omega)).bind fun b2 _ => ?_
  refine (safe_index (by omega)).bind fun b3 _ => ?_
  dsimp only
  split <;> exact safe_pure _

/-- Behind an accepted header there are at least seven bytes, and the frame
ends inside the payload. -/
theorem safe_processAACLoop (payload : Bytes) (dts pts : ℤ) (p : Parser) (offset : ℕ) :
    Safe (processAACLoop payload dts pts p offset) := by
  fun_induction processAACLoop payload dts pts p offset with
  | case1 p offset hinside ih =>
    rw [sliceFrom_of_le hinside.le, ok_bind]
    split
    next e herror =>
      obtain ⟨a, ha⟩ := safe_parseADTSHeader (payload.drop offset)
      simp [ha] at herror
    · exact safe_pure _
    next info headerLen hheader =>
      obtain ⟨hseven, hlong⟩ := AAC.le_headerLen_of_parseADTSHeader hheader
      have hrest : (payload.drop offset).length = payload.length - offset := List.length_drop
      refine (safe_index (by omega)).bind fun b3 _ => ?_
      refine (safe_index (by omega)).bind fun b4 _ => ?_
      refine (safe_index (by omega)).bind fun b5 _ => ?_
      refine safe_ite fun hframe => ?_
      refine Safe.bind ⟨_, slice_of_le (by omega) (by omega)⟩ fun rawAAC _ => ?_
      exact ih _ info headerLen hheader b3 b4 b5 hframe rawAAC
  | case2 p offset hdone => exact safe_pure _

theorem safe_processAudio (p : Parser) (payload : Bytes) (dts pts : ℤ) :
    Safe (p.processAudio payload dts pts) := by
  unfold processAudio
  split
  · exact safe_processAACLoop payload dts pts p 0
  · exact safe_pure _

/-! ## PES packets -/

theorem safe_readTimestamp (buf : Bytes) : Safe (readTimestamp buf) := by
  refine safe_ite fun hlong => ?_
  refine (safe_index (by omega)).bind fun b0 _ => ?_
  refine (safe_index (by omega)).bind fun b1 _ => ?_
  refine (safe_index (by omega)).bind fun b2 _ => ?_
  refine (safe_index (by omega)).bind fun b3 _ => ?_
  exact (safe_index (by omega)).bind fun b4 _ => safe_pure _

theorem safe_readPESTimestamps {pesData : Bytes} {headerDataLen : ℕ} (ptsDTSFlags : UInt8)
    (hlong : 9 + headerDataLen ≤ pesData.length) :
    Safe (readPESTimestamps pesData ptsDTSFlags headerDataLen) := by
  have hsecond : ∀ (pts dts : ℤ) (headerOff : ℕ),
      Safe (if ptsDTSFlags = 3 ∧ headerOff + 5 ≤ 9 + headerDataLen then do
        let dts ← readTimestamp (← sliceFrom pesData headerOff)
        return (pts, dts)
      else return (pts, dts)) := by
    intro pts dts headerOff
    split
    · refine (safe_sliceFrom.mpr (by omega)).bind fun rest _ => ?_
      exact (safe_readTimestamp rest).bind fun _ _ => safe_pure _
    · exact safe_pure _
  unfold readPESTimestamps
  split
  · refine (safe_sliceFrom.mpr (by omega)).bind fun rest _ => ?_
    exact (safe_readTimestamp rest).bind fun pts _ => hsecond pts pts 14
  · exact hsecond 0 0 9

theorem safe_parsePES (p : Parser) (pesData : Bytes) : Safe (p.parsePES pesData) := by
  refine safe_ite fun hlong => ?_
  have hstart : 0 + ([0x00, 0x00, 0x01] : Bytes).length ≤ pesData.length := by
    simp only [List.length_cons, List.length_nil]
    omega
  refine Safe.bind ⟨_, matchesAt_of_le hstart⟩ fun isStart _ => ?_
  split
  · refine (safe_index (by omega)).bind fun streamID _ => ?_
    refine (safe_index (by omega)).bind fun b7 _ => ?_
    refine (safe_index (by omega)).bind fun b8 _ => safe_ite fun hheader => ?_
    refine (safe_readPESTimestamps _ (not_lt.mp hheader)).bind fun stamps _ => ?_
    refine (safe_sliceFrom.mpr (not_lt.mp hheader)).bind fun raw _ => safe_ite fun _ => ?_
    split_ifs
    · exact safe_processVideo ..
    · exact safe_processAudio ..
    · exact safe_pure _
  · exact safe_pure _

theorem safe_handlePES (p : Parser) (track : Track) (pusi : Bool) (payload : Bytes) :
    Safe (p.handlePES track pusi payload) := by
  unfold handlePES
  split
  · split
    · exact (safe_parsePES _ _).bind fun p' _ => safe_pure _
    · exact safe_pure _
  · exact safe_pure _

/-! ## Tables -/

theorem safe_parsePATLoop (payload : Bytes) (entryEnd : ℕ) (p : Parser) (i : ℕ) :
    Safe (parsePATLoop payload entryEnd p i) := by
  fun_induction parsePATLoop payload entryEnd p i with
  | case1 i hinside ih =>
    refine (safe_index (by omega)).bind fun b0 _ => ?_
    refine (safe_index (by omega)).bind fun b1 _ => ?_
    split
    · refine (safe_index (by omega)).bind fun b2 _ => ?_
      exact (safe_index (by omega)).bind fun b3 _ => safe_pure _
    next hzero => exact ih
  | case2 i hdone => exact safe_pure _

theorem safe_parsePMTLoop (payload : Bytes) (endOffset : ℕ) (p : Parser) (offset : ℕ) :
    Safe (parsePMTLoop payload endOffset p offset) := by
  fun_induction parsePMTLoop payload endOffset p offset with
  | case1 p offset hinside ih =>
    refine (safe_index (by omega)).bind fun streamType _ => ?_
    refine (safe_index (by omega)).bind fun b1 _ => ?_
    refine (safe_index (by omega)).bind fun b2 _ => ?_
    refine (safe_index (by omega)).bind fun b3 _ => ?_
    refine (safe_index (by omega)).bind fun b4 _ => ?_
    exact ih streamType b1 b2 b3 b4
  | case2 p offset hdone => exact safe_pure _

/-- A table is parsed exactly if its section can be found. -/
theorem safe_parsePAT_iff (p : Parser) (payload : Bytes) (pusi : Bool) :
    Safe (p.parsePAT payload pusi) ↔ Safe (skipPointerField payload pusi) := by
  rw [parsePAT, safe_bind]
  refine ⟨fun ⟨rest, hrest, _⟩ => ⟨rest, hrest⟩, fun ⟨rest, hrest⟩ => ⟨rest, hrest, ?_⟩⟩
  refine safe_ite fun hlong => ?_
  refine (safe_index (by omega)).bind fun b1 _ => ?_
  refine (safe_index (by omega)).bind fun b2 _ => ?_
  exact safe_ite fun _ => safe_parsePATLoop ..

theorem safe_parsePMT_iff (p : Parser) (payload : Bytes) (pusi : Bool) :
    Safe (p.parsePMT payload pusi) ↔ Safe (skipPointerField payload pusi) := by
  rw [parsePMT, safe_bind]
  refine ⟨fun ⟨rest, hrest, _⟩ => ⟨rest, hrest⟩, fun ⟨rest, hrest⟩ => ⟨rest, hrest, ?_⟩⟩
  refine safe_ite fun hlong => ?_
  refine (safe_index (by omega)).bind fun b1 _ => ?_
  refine (safe_index (by omega)).bind fun b2 _ => safe_ite fun hsection => ?_
  refine (safe_index (by omega)).bind fun b10 _ => ?_
  exact (safe_index (by omega)).bind fun b11 _ => safe_parsePMTLoop ..

theorem safe_skipPointerField_iff {payload : Bytes} (hne : payload ≠ []) (pusi : Bool) :
    Safe (skipPointerField payload pusi) ↔
      (pusi = true → 1 + (payload.headD 0).toNat ≤ payload.length) := by
  obtain ⟨b, rest, rfl⟩ := List.exists_cons_of_ne_nil hne
  cases pusi with
  | false => simp [skipPointerField]
  | true => simp [skipPointerField, ok_bind, safe_sliceFrom]

/-! ## Packets -/

variable {pkt : Bytes}

theorem safe_packetHeader (hlen : pkt.length = packetSize) : Safe (packetHeader pkt) := by
  rw [packetSize] at hlen
  refine (safe_index (by omega)).bind fun b1 _ => ?_
  refine (safe_index (by omega)).bind fun b2 _ => ?_
  exact (safe_index (by omega)).bind fun b3 _ => safe_pure _

/-- A payload is never empty. -/
theorem packetPayload_spec (hlen : pkt.length = packetSize) (adaptControl : UInt8) :
    ∃ payload, packetPayload pkt adaptControl = .ok payload ∧ payload ≠ some [] := by
  have hfrom : ∀ offset : ℕ, ∃ payload, (if adaptControl = 0x01 ∨ adaptControl = 0x03 then
        if packetSize ≤ offset then pure none
        else do
          let payload ← sliceFrom pkt offset
          return some payload
      else pure none : Checked (Option Bytes)) = .ok payload ∧
        payload ≠ some [] := by
    intro offset
    split_ifs with hpresent hbeyond
    · exact ⟨none, rfl, by simp⟩
    · rw [sliceFrom_of_le (by omega)]
      refine ⟨some (pkt.drop offset), rfl, ?_⟩
      rw [Ne, Option.some.injEq, List.drop_eq_nil_iff]
      omega
    · exact ⟨none, rfl, by simp⟩
  unfold packetPayload
  dsimp only
  split
  · have hfour : 4 < pkt.length := by
      rw [hlen]
      decide
    obtain ⟨adaptLen, hadapt⟩ := safe_index hfour
    rw [hadapt]
    exact hfrom (4 + (1 + adaptLen.toNat))
  · exact hfrom 4

def isTable (p : Parser) (pid : ℕ) : Prop :=
  pid = pidPat ∨ pid = p.pmtPID ∧ p.pmtPID ≠ 0

/-- The pointer field of a packet in which a section of a table begins points
into the packet. -/
def PointerInside (p : Parser) (pkt : Bytes) : Prop :=
  ∀ header payload, packetHeader pkt = .ok header →
    packetPayload pkt header.adaptControl = .ok (some payload) →
      p.isTable header.pid → header.pusi = true → 1 + (payload.headD 0).toNat ≤ payload.length

theorem safe_parsePacket_iff (hlen : pkt.length = packetSize) (p : Parser) :
    Safe (p.parsePacket pkt) ↔ PointerInside p pkt := by
  obtain ⟨header, hheader⟩ := safe_packetHeader hlen
  obtain ⟨payload?, hpayload, hne⟩ := packetPayload_spec hlen header.adaptControl
  rw [parsePacket, hheader, ok_bind, hpayload, ok_bind]
  have hinside : PointerInside p pkt ↔ ∀ payload, payload? = some payload →
      p.isTable header.pid → header.pusi = true →
        1 + (payload.headD 0).toNat ≤ payload.length := by
    constructor
    · intro h payload hsome
      exact h header payload hheader (hsome ▸ hpayload)
    · intro h header' payload hheader' hpayload'
      obtain rfl := Except.ok.inj (hheader.symm.trans hheader')
      exact h payload (Except.ok.inj (hpayload.symm.trans hpayload'))
  rw [hinside]
  cases payload? with
  | none => simp
  | some payload =>
    have hne' : payload ≠ [] := fun h => hne (by rw [h])
    simp only [Option.some.injEq, forall_eq']
    by_cases hpat : header.pid = pidPat
    · rw [if_pos hpat, safe_parsePAT_iff, safe_skipPointerField_iff hne']
      exact ⟨fun h _ => h, fun h => h (.inl hpat)⟩
    rw [if_neg hpat]
    by_cases hpmt : header.pid = p.pmtPID ∧ p.pmtPID ≠ 0
    · rw [if_pos hpmt, safe_parsePMT_iff, safe_skipPointerField_iff hne']
      exact ⟨fun h _ => h, fun h => h (.inr hpmt)⟩
    have hno : ¬ p.isTable header.pid := fun h => h.elim hpat hpmt
    refine iff_of_true ?_ fun h => absurd h hno
    split_ifs
    · exact safe_handlePES ..
    · exact safe_handlePES ..
    · exact safe_pure _

end Parser

/-! ## The demuxer -/

namespace Demuxer

/-- The packets that the loop of `Feed` finds in the data, and the bytes that
it keeps. -/
def cut (data : Bytes) : List Bytes × Bytes :=
  if packetSize ≤ data.length then
    if data.headD 0 ≠ syncByte then
      match (data.drop 1).findIdx? (· == syncByte) with
      | none => ([], [])
      | some i => cut (data.drop (i + 1))
    else
      (data.take packetSize :: (cut (data.drop packetSize)).1, (cut (data.drop packetSize)).2)
  else ([], data)
termination_by data.length
decreasing_by
  all_goals
    rw [List.length_drop, packetSize] at *
    omega

theorem index_zero_eq {data : Bytes} (h : packetSize ≤ data.length) :
    index data 0 = .ok (data.headD 0) := by
  cases data with
  | nil => cases h
  | cons b rest => rfl

/-- Cutting the data and parsing the packets are separate. -/
theorem feedLoop_eq (p : Parser) (data : Bytes) :
    feedLoop p data =
      ((cut data).1.foldlM Parser.parsePacket p).map fun p => (p, (cut data).2) := by
  fun_induction cut data generalizing p with
  | case1 data hlong hsync hnone =>
    rw [feedLoop, if_pos hlong, index_zero_eq hlong, ok_bind, if_pos hsync, hnone]
    rfl
  | case2 data hlong hsync i hsome ih =>
    have hi : i + 1 ≤ data.length := by
      have hlt := (List.findIdx?_eq_some_iff_findIdx_eq.mp hsome).1
      rw [List.length_drop] at hlt
      omega
    rw [feedLoop, if_pos hlong, index_zero_eq hlong, ok_bind, if_pos hsync, hsome, ← ih]
    dsimp only
    split
    next e herror => simp [sliceFrom_of_le hi] at herror
    next rest hrest => rw [(sliceFrom_eq_ok.mp hrest).2]
  | case3 data hlong hsync ih =>
    rw [feedLoop, if_pos hlong, index_zero_eq hlong, ok_bind, if_neg hsync,
      slice_of_le (Nat.zero_le _) hlong, ok_bind, List.drop_zero, List.foldlM_cons]
    cases hpkt : p.parsePacket (data.take packetSize) with
    | error e => rfl
    | ok p' =>
      rw [ok_bind, ok_bind, ← ih]
      split
      next e herror => simp [sliceFrom_of_le hlong] at herror
      next rest hrest => rw [(sliceFrom_eq_ok.mp hrest).2]
  | case4 data hshort =>
    rw [feedLoop, if_neg hshort]
    rfl

theorem length_of_mem_cut {data pkt : Bytes} (hmem : pkt ∈ (cut data).1) :
    pkt.length = packetSize := by
  fun_induction cut data with
  | case1 data hlong hsync hnone => simp at hmem
  | case2 data hlong hsync i hsome ih => exact ih hmem
  | case3 data hlong hsync ih =>
    rcases List.mem_cons.mp hmem with rfl | hrest
    · exact List.length_take_of_le hlong
    · exact ih hrest
  | case4 data hshort => simp at hmem

/-- The packets of consecutive calls that start with these bytes left over. -/
def packets (remainder : Bytes) : List Bytes → List Bytes
  | [] => []
  | chunk :: chunks =>
    (cut (remainder ++ chunk)).1 ++ packets (cut (remainder ++ chunk)).2 chunks

theorem length_of_mem_packets {remainder pkt : Bytes} {chunks : List Bytes}
    (hmem : pkt ∈ packets remainder chunks) :
    pkt.length = packetSize := by
  induction chunks generalizing remainder with
  | nil => simp [packets] at hmem
  | cons chunk chunks ih =>
    rcases List.mem_append.mp hmem with hfirst | hrest
    · exact length_of_mem_cut hfirst
    · exact ih hrest

theorem feed_eq (d : Demuxer) (data : Bytes) :
    d.feed data =
      ((cut (d.remainder ++ data)).1.foldlM Parser.parsePacket d.toParser).map fun p =>
        ⟨p, (cut (d.remainder ++ data)).2⟩ := by
  rw [feed, feedLoop_eq]
  cases (cut (d.remainder ++ data)).1.foldlM Parser.parsePacket d.toParser with
  | error e | ok p => rfl

theorem feedAll_toParser (d : Demuxer) (chunks : List Bytes) :
    (d.feedAll chunks).map toParser =
      (packets d.remainder chunks).foldlM Parser.parsePacket d.toParser := by
  induction chunks generalizing d with
  | nil => rfl
  | cons chunk chunks ih =>
    rw [feedAll, List.foldlM_cons, feed_eq, packets, List.foldlM_append]
    cases (cut (d.remainder ++ chunk)).1.foldlM Parser.parsePacket d.toParser with
    | error e => rfl
    | ok p => exact ih ⟨p, (cut (d.remainder ++ chunk)).2⟩

theorem safe_feedAll_iff (d : Demuxer) (chunks : List Bytes) :
    Safe (d.feedAll chunks) ↔
      Safe ((packets d.remainder chunks).foldlM Parser.parsePacket d.toParser) := by
  rw [← feedAll_toParser]
  cases d.feedAll chunks with
  | error e => simp [Safe, Except.map]
  | ok d => simp [Safe, Except.map]

def packetStep (p : Parser) (pkt : Bytes) : Option Parser :=
  (p.parsePacket pkt).toOption

/-- Whatever the bytes and however they are cut, the calls end without a panic
exactly if the pointer fields of all table packets point into their packets. -/
theorem feedAll_safe_iff_pointerInside (d : Demuxer) (chunks : List Bytes) :
    Safe (d.feedAll chunks) ↔ StepsMeet Parser.PointerInside packetStep d.toParser
        (packets d.remainder chunks) := by
  rw [safe_feedAll_iff]
  exact safe_foldlM_iff
    (fun p pkt hmem => Parser.safe_parsePacket_iff (length_of_mem_packets hmem) p)
    d.toParser

/-- A packet of the program table whose pointer field is 255. -/
def pointerBeyond : Bytes := [0x47, 0x40, 0x00, 0x10, 0xFF] ++ List.replicate 183 0

theorem feed_pointerBeyond_panics : newDemuxer.feed pointerBeyond = .error .sliceOutOfRange := by
  have hlength : pointerBeyond.length = packetSize := by
    rfl
  have hpkt : Parser.parsePacket {} pointerBeyond = .error .sliceOutOfRange := by
    decide +kernel
  have hrest : cut [] = ([], []) := by
    rw [cut, if_neg (by decide)]
  have hcut : cut pointerBeyond = ([pointerBeyond], []) := by
    have hsync : ¬ pointerBeyond.headD 0 ≠ syncByte := not_not.mpr rfl
    rw [cut, if_pos hlength.ge, if_neg hsync, List.drop_of_length_le hlength.le,
      hrest, List.take_of_length_le hlength.le]
  have hdata : newDemuxer.remainder ++ pointerBeyond = pointerBeyond := rfl
  rw [feed_eq, hdata, hcut]
  exact congrArg (fun x => Except.map _ (x >>= _)) hpkt

end Demuxer

end LiveForge.Ts
