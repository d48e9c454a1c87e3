import LiveForge.Rtp.Collect
import LiveForge.Rtp.Packetizer

/-!
# H.265 over one RTP hop

`H265Packetizer` takes the payload of a frame for one NAL unit, cuts it into
fragmentation units when it is too long, and `H265Depacketizer` puts the unit
together again and writes it behind its length.  Frames inside a stream are
already a list of NAL units behind their lengths, so the hop gives such a frame
a second length prefix.
-/

namespace LiveForge.Rtp

open Support FragmentBuffer H265Depacketizer

/-! ## The hop -/

namespace H265Depacketizer

/-- The frames of packets received one after the other; a packet that is
refused gives none. -/
def deliver (d : H265Depacketizer) : List Packet → List AVFrame
  | [] => []
  | pkt :: pkts =>
    ((d.depacketizeFrames pkt).1.toOption.getD []) ++ (d.depacketizeFrames pkt).2.deliver pkts

end H265Depacketizer

/-- Packetize a frame, number and stamp the packets, and depacketize them with
a new depacketizer. -/
def h265Hop (s : Session) (mtu : ℕ) (frame : AVFrame) : List AVFrame :=
  match h265Packetize frame mtu with
  | .error _ => []
  | .ok pkts =>
    H265Depacketizer.deliver {} (s.wrapPackets frame.dts pkts).1

/-- One media frame comes out, with the payload and the key frame flag asked
for. -/
def ArrivesAs (payload : Bytes) (isKeyframe : Bool) (out : List AVFrame) : Prop :=
  ∃ f, out = [f] ∧ f.isMedia = true ∧ f.payload = payload ∧ f.frameType.isKeyframe = isKeyframe

/-- A NAL unit of a media frame: a type of coded slices and a temporal id. -/
structure IsSliceNAL (nal : Bytes) : Prop where
  length : 2 ≤ nal.length
  type : H265.nalType nal ≤ 31
  tid : nal.getD 1 0 &&& 7 ≠ 0

instance (nal : Bytes) : Decidable (IsSliceNAL nal) :=
  decidable_of_iff (2 ≤ nal.length ∧ H265.nalType nal ≤ 31 ∧ nal.getD 1 0 &&& 7 ≠ 0)
    ⟨fun ⟨hlength, htype, htid⟩ => ⟨hlength, htype, htid⟩, fun h => ⟨h.length, h.type, h.tid⟩⟩

/-! ## Fragments -/

def typeBits (b : UInt8) : UInt8 := (b >>> 1) &&& 0x3F

/-- What the two header bytes of a fragment say about the unit's first byte. -/
structure FUBits (isFirst isLast : Bool) (b : UInt8) : Prop where
  type : typeBits (h265FUFirst b) = h265NALTypeFU
  unit_type : h265FUByte (typeBits b) isFirst isLast &&& 0x3F = typeBits b
  restored : (h265FUFirst b &&& 0x81) ||| ((typeBits b) <<< (1 : UInt8)) = b
  isStart : decide (h265FUByte (typeBits b) isFirst isLast &&& 0x80 ≠ 0) = isFirst
  isEnd : decide (h265FUByte (typeBits b) isFirst isLast &&& 0x40 ≠ 0) = isLast
  forbidden : h265FUFirst b &&& 0x80 = b &&& 0x80

instance (isFirst isLast : Bool) (b : UInt8) : Decidable (FUBits isFirst isLast b) :=
  decidable_of_iff (_ ∧ _ ∧ _ ∧ _ ∧ _ ∧ _)
    ⟨fun ⟨h₁, h₂, h₃, h₄, h₅, h₆⟩ => ⟨h₁, h₂, h₃, h₄, h₅, h₆⟩,
      fun h => ⟨h.type, h.unit_type, h.restored, h.isStart, h.isEnd, h.forbidden⟩⟩

theorem fuBits (isFirst isLast : Bool) (b : UInt8) : FUBits isFirst isLast b := by
  refine forall_byte ?_ b
  cases isFirst <;> cases isLast <;> decide +kernel

/-- The headers of a fragment restore the unit's own header and tell its
place. -/
theorem h265Fragment_fuHeader (nal piece : Bytes) (isFirst isLast : Bool) :
    h265Fragment (h265FUHeader nal isFirst isLast ++ piece) =
      ⟨isFirst, isLast, [nal.getD 0 0, nal.getD 1 0], piece⟩ := by
  have hbits := fuBits isFirst isLast (nal.getD 0 0)
  have hrestored := hbits.restored
  rw [← hbits.unit_type] at hrestored
  have htype : H265.nalType nal = typeBits (nal.getD 0 0) := rfl
  simp only [h265Fragment, h265FUHeader, htype, List.cons_append,
    List.nil_append, List.getD_cons_zero, List.getD_cons_succ,
    List.drop_succ_cons, List.drop_zero]
  rw [hrestored, hbits.isStart, hbits.isEnd]

/-- A unit whose fragments the receiver does not refuse for their headers. -/
structure HasLegalHeader (nal : Bytes) : Prop where
  forbidden : nal.getD 0 0 &&& 0x80 = 0
  type : H265.nalType nal ≤ 47
  tid : nal.getD 1 0 &&& 7 ≠ 0

instance (nal : Bytes) : Decidable (HasLegalHeader nal) :=
  decidable_of_iff (nal.getD 0 0 &&& 0x80 = 0 ∧ H265.nalType nal ≤ 47 ∧ nal.getD 1 0 &&& 7 ≠ 0)
    ⟨fun ⟨hforbidden, htype, htid⟩ => ⟨hforbidden, htype, htid⟩,
      fun h => ⟨h.forbidden, h.type, h.tid⟩⟩

variable {fu : FragmentBuffer} {nal piece : Bytes} {nalus : List Bytes} {d : H265Depacketizer}
  {count : ℕ}

section Piece

variable {isFirst isLast : Bool} {pkt : Packet}

/-- The packet of a piece is checked by the header of the unit alone. -/
theorem checkH265Fragment_piece
    (hpayload : pkt.payload = h265FUHeader nal isFirst isLast ++ piece)
    (hmarker : pkt.marker = isLast) (hpiece : piece ≠ []) (hpart : ¬ (isFirst ∧ isLast)) :
    checkH265Fragment pkt =
      if HasLegalHeader nal then .ok ⟨isFirst, isLast, [nal.getD 0 0, nal.getD 1 0], piece⟩
      else .error .invalidFU := by
  have hbits := fuBits isFirst isLast (nal.getD 0 0)
  have hlength : ¬ pkt.payload.length < 4 := by
    have hpos := List.length_pos_of_ne_nil hpiece
    simp only [hpayload, h265FUHeader, List.length_append, List.length_cons]
    omega
  have hmarked : ¬ (isLast = true ∧ ¬ isLast = true) := fun h => h.2 h.1
  have hunit : pkt.payload.getD 2 0 &&& 0x3F = H265.nalType nal := by
    rw [hpayload]
    exact hbits.unit_type
  have hforbidden : pkt.payload.getD 0 0 &&& 0x80 = nal.getD 0 0 &&& 0x80 := by
    rw [hpayload]
    exact hbits.forbidden
  unfold checkH265Fragment
  rw [if_neg hlength, hunit, hforbidden, hmarker, hpayload, h265Fragment_fuHeader]
  rw [if_neg hmarked]
  by_cases hlegal : HasLegalHeader nal
  · rw [if_pos hlegal, if_neg]
    simp only [not_or]
    exact ⟨hpart, UInt8.not_lt.mpr hlegal.type, not_not.mpr hlegal.forbidden, hlegal.tid⟩
  · rw [if_neg hlegal, if_pos]
    by_contra hgood
    simp only [not_or] at hgood
    exact hlegal ⟨not_not.mp hgood.2.2.1, UInt8.not_lt.mp hgood.2.1, hgood.2.2.2⟩

theorem h265NALs_piece
    (hpayload : pkt.payload = h265FUHeader nal isFirst isLast ++ piece) :
    h265NALs fu pkt = (do
      let f ← checkH265Fragment pkt
      let (nal, fu) ← (fu.take pkt f).mapError H265Error.fragment
      return (nal.toList, fu)) := by
  have htype : H265.nalType pkt.payload = h265NALTypeFU := by
    rw [hpayload]
    exact (fuBits isFirst isLast _).type
  have hlength : ¬ pkt.payload.length < 2 := by
    simp [hpayload, h265FUHeader]
  unfold h265NALs
  rw [htype, if_neg hlength, if_neg (by decide), if_neg (by decide), if_pos rfl]

end Piece

/-! ## The buffer of the receiver -/

/-- The buffer holds `count` fragments and the session's next packet follows
them. -/
structure Awaits (fu : FragmentBuffer) (s : Session) (dts : ℤ) (buf : Bytes)
    (count : ℕ) : Prop where
  buf : fu.buf = some buf
  seq : s.seqNum = fu.fuSequence + 1
  timestamp : rtpTimestamp dts s.clockRate = fu.fuTimestamp
  ssrc : s.ssrc = fu.fuSSRC
  payloadType : s.payloadType = fu.fuPayloadType
  fragments : fu.fuFragments = count

/-- The buffer after the session's packet has been put into it. -/
def holding (fu : FragmentBuffer) (s : Session) (buf : Bytes) (count : ℕ) : FragmentBuffer :=
  { fu with buf := some buf, fuSequence := s.seqNum, fuFragments := count }

section Buffer

variable {s : Session} {dts : ℤ} {buf : Bytes} {raw : Packet} {f : Fragment}

/-- The next fragment of a buffered unit is refused only for the receiver's
bounds. -/
theorem Awaits.take_eq (h : Awaits fu s dts buf count)
    (hstart : f.isStart = false) (hheader : f.header = buf.take f.header.length) :
    fu.take (s.wrap dts raw) f =
      if maxFUFragments ≤ count then .error .tooMany
      else if maxNALBytes < buf.length + f.data.length then .error .tooLong
      else .ok (if f.isEnd then (some (buf ++ f.data), {})
        else (none, holding fu s (buf ++ f.data) (count + 1))) := by
  have hextend : fu.extend (s.wrap dts raw) f =
      if maxFUFragments ≤ count then .error .tooMany
      else if maxNALBytes < buf.length + f.data.length then .error .tooLong
      else .ok (buf, fu) := by
    have hsame : ¬ (s.seqNum ≠ fu.fuSequence + 1 ∨
        rtpTimestamp dts s.clockRate ≠ fu.fuTimestamp ∨ s.ssrc ≠ fu.fuSSRC ∨
        s.payloadType ≠ fu.fuPayloadType ∨
        f.header ≠ buf.take f.header.length) := by
      simp only [not_or, not_not]
      exact ⟨h.seq, h.timestamp, h.ssrc, h.payloadType, hheader⟩
    unfold extend
    rw [h.buf, ← h.fragments]
    exact if_neg hsame
  unfold take join
  rw [hstart, if_neg Bool.false_ne_true, hextend]
  split
  · rfl
  · split
    · rfl
    · rw [← h.fragments]
      cases f.isEnd <;> rfl

theorem Awaits.next (h : Awaits fu s dts buf count) (data : Bytes) :
    Awaits (holding fu s (buf ++ data) (count + 1)) s.next dts (buf ++ data) (count + 1) :=
  ⟨rfl, rfl, h.timestamp, h.ssrc, h.payloadType, rfl⟩

theorem take_start (hstart : f.isStart = true) (hend : f.isEnd = false) :
    if maxNALBytes < f.header.length + f.data.length then
      fu.take (s.wrap dts raw) f = .error .tooLong
    else
      ∃ fu', fu.take (s.wrap dts raw) f = .ok (none, fu') ∧
        Awaits fu' s.next dts (f.header ++ f.data) 1 := by
  unfold take join start
  rw [hstart, hend]
  split
  · rfl
  · exact ⟨_, rfl, rfl, rfl, rfl, rfl, rfl, rfl⟩

end Buffer

/-! ## The frames of a unit in fragments -/

theorem take_two_eq (hlength : 2 ≤ nal.length) : nal.take 2 = [nal.getD 0 0, nal.getD 1 0] := by
  match nal, hlength with
  | a :: b :: rest, _ => rfl

namespace H265Depacketizer

variable {pkt : Packet}

theorem depacketizeFrames_of_error {e : H265Error} (h : h265NALs d.fu pkt = .error e) :
    d.depacketizeFrames pkt = (.error e, d.resetFU) := by
  unfold depacketizeFrames
  rw [h]

theorem depacketizeFrames_of_nil (h : h265NALs d.fu pkt = .ok ([], fu)) :
    d.depacketizeFrames pkt = (.ok [], { d with fu := fu }) := by
  unfold depacketizeFrames
  rw [h]
  rfl

theorem depacketizeFrames_of_ne_nil (h : h265NALs d.fu pkt = .ok (nalus, fu)) (hne : nalus ≠ []) :
    (d.depacketizeFrames pkt).1 = .ok ({ d with fu := fu }.normalizeNALUs nalus).1 := by
  unfold depacketizeFrames
  rw [h]
  dsimp only
  rw [if_neg hne]

variable {s : Session} {ps : List Bytes} {done : Bytes}

/-- Without the first fragment nothing comes out of the others. -/
theorem deliver_lost {dts : ℤ} (hbuf : d.fu.buf = none) (hps : ∀ piece ∈ ps, piece ≠ []) :
    d.deliver (s.wrapPackets dts (piecePackets (h265FUHeader nal) false ps)).1 = [] := by
  induction ps generalizing d s with
  | nil => rfl
  | cons piece rest ih =>
    obtain ⟨hpiece, hrest⟩ := List.forall_mem_cons.mp hps
    have herror : ∃ e, h265NALs d.fu (s.wrap dts (rawPacket rest.isEmpty
        (h265FUHeader nal false rest.isEmpty ++ piece))) = .error e := by
      rw [h265NALs_piece rfl, checkH265Fragment_piece rfl rfl hpiece (by simp)]
      split
      · refine ⟨.fragment .withoutStart, ?_⟩
        simp only [take, join, extend, hbuf]
        rfl
      · exact ⟨_, rfl⟩
    obtain ⟨e, he⟩ := herror
    simp only [piecePackets, Session.wrapPackets, deliver]
    rw [depacketizeFrames_of_error he]
    exact ih rfl hrest

theorem h265NALs_awaits {dts : ℤ} {isLast : Bool} (hlength : 2 ≤ nal.length)
    (h : Awaits fu s dts (nal.take 2 ++ done) count) (hpiece : piece ≠ []) :
    h265NALs fu (s.wrap dts (rawPacket isLast (h265FUHeader nal false isLast ++ piece))) =
      if HasLegalHeader nal then
        if maxFUFragments ≤ count then .error (.fragment .tooMany)
        else if maxNALBytes < (nal.take 2 ++ done).length + piece.length then
          .error (.fragment .tooLong)
        else if isLast then .ok ([nal.take 2 ++ done ++ piece], {})
        else .ok ([], holding fu s (nal.take 2 ++ done ++ piece) (count + 1))
      else .error .invalidFU := by
  have hheader : [nal.getD 0 0, nal.getD 1 0] = (nal.take 2 ++ done).take 2 := by
    rw [← take_two_eq hlength, List.take_append_of_le_length (by simp [hlength]), List.take_take,
      Nat.min_self]
  rw [h265NALs_piece rfl, checkH265Fragment_piece rfl rfl hpiece (by simp)]
  by_cases hlegal : HasLegalHeader nal
  · rw [if_pos hlegal, ok_bind, h.take_eq rfl hheader]
    split
    · rfl
    · split
      · rfl
      · cases isLast <;> rfl
  · rw [if_neg hlegal, if_neg hlegal]
    rfl

/-- Whether the fragments after the first complete a unit depends on the
unit's header, its length and their number. -/
theorem deliver_rest {dts : ℤ} (hlength : 2 ≤ nal.length)
    (h : Awaits d.fu s dts (nal.take 2 ++ done) count)
    (hsplit : nal.drop 2 = done ++ ps.flatten) (hne : ps ≠ [])
    (hps : ∀ piece ∈ ps, piece ≠ []) :
    d.deliver (s.wrapPackets dts
        (piecePackets (h265FUHeader nal) false ps)).1 =
      if HasLegalHeader nal ∧ nal.length ≤ maxNALBytes ∧ count + ps.length ≤ maxFUFragments then
        ({ d with fu := {} }.normalizeNALUs [nal]).1
      else [] := by
  induction ps generalizing d s done count with
  | nil => exact absurd rfl hne
  | cons piece rest ih =>
    obtain ⟨hpiece, hrest⟩ := List.forall_mem_cons.mp hps
    have hnext : nal.drop 2 = (done ++ piece) ++ rest.flatten := by
      rw [hsplit, List.flatten_cons, List.append_assoc]
    have hjoined : nal.take 2 ++ done ++ piece ++ rest.flatten = nal := by
      rw [List.append_assoc, List.append_assoc, ← List.append_assoc done,
        ← hnext, List.take_append_drop]
    have hlengths := congrArg List.length hjoined
    rw [List.length_append, List.length_append] at hlengths
    have hnals : h265NALs d.fu (s.wrap dts (rawPacket rest.isEmpty
        (h265FUHeader nal false rest.isEmpty ++ piece))) = _ :=
      h265NALs_awaits hlength h hpiece
    simp only [piecePackets, Session.wrapPackets, deliver]
    -- a fragment that is refused loses the unit
    split_ifs at hnals with hlegal hmany hlong hlast
    · rw [depacketizeFrames_of_error hnals, if_neg]
      · exact deliver_lost rfl hrest
      · rw [List.length_cons]
        omega
    · rw [depacketizeFrames_of_error hnals, if_neg (by omega)]
      exact deliver_lost rfl hrest
    · obtain rfl := List.isEmpty_iff.mp hlast
      rw [List.flatten_nil, List.append_nil] at hjoined
      rw [hjoined] at hnals
      rw [depacketizeFrames_of_ne_nil hnals (by simp), if_pos]
      · exact List.append_nil _
      · rw [List.flatten_nil, List.length_nil] at hlengths
        refine ⟨hlegal, by omega, ?_⟩
        rw [List.length_singleton]
        omega
    · rw [depacketizeFrames_of_nil hnals]
      have hbuf := h.next piece
      rw [List.append_assoc] at hbuf hnals ⊢
      have hcount : count + (piece :: rest).length = count + 1 + rest.length := by
        rw [List.length_cons]
        omega
      rw [hcount]
      have hne : rest ≠ [] := fun hnil => hlast (by rw [hnil]; rfl)
      have hcase := ih (d := { d with fu := holding d.fu s _ _ }) hbuf hnext hne hrest
      exact hcase
    · rw [depacketizeFrames_of_error hnals, if_neg fun hall => hlegal hall.1]
      exact deliver_lost rfl hrest

theorem h265NALs_first {s : Session} {dts : ℤ} (hpiece : piece ≠ []) :
    if HasLegalHeader nal ∧ 2 + piece.length ≤ maxNALBytes then
      ∃ fu', h265NALs fu (s.wrap dts (rawPacket false (h265FUHeader nal true false ++ piece))) =
        .ok ([], fu') ∧ Awaits fu' s.next dts ([nal.getD 0 0, nal.getD 1 0] ++ piece) 1
    else
      ∃ e, h265NALs fu (s.wrap dts (rawPacket false (h265FUHeader nal true false ++ piece))) =
        .error e := by
  have hcheck := @checkH265Fragment_piece nal piece true false (s.wrap dts
    (rawPacket false (h265FUHeader nal true false ++ piece))) rfl rfl hpiece
    (by simp)
  rw [h265NALs_piece rfl, hcheck]
  by_cases hlegal : HasLegalHeader nal
  · rw [if_pos hlegal, ok_bind]
    have hstart := @take_start fu s dts (rawPacket false (h265FUHeader nal true false ++ piece))
      ⟨true, false, [nal.getD 0 0, nal.getD 1 0], piece⟩ rfl rfl
    split at hstart
    next hlong =>
      rw [hstart, if_neg fun hall => Nat.not_lt.mpr hall.2 hlong]
      exact ⟨_, rfl⟩
    next hlong =>
      obtain ⟨fu', htake, hbuf⟩ := hstart
      rw [htake, if_pos ⟨hlegal, Nat.not_lt.mp hlong⟩]
      exact ⟨fu', rfl, hbuf⟩
  · rw [if_neg hlegal, if_neg fun hall => hlegal hall.1]
    exact ⟨_, rfl⟩

/-- A unit in two or more fragments comes out as if it had arrived whole, or
not at all. -/
theorem deliver_pieces (s : Session) (dts : ℤ) (hlength : 2 ≤ nal.length)
    (hsplit : nal.drop 2 = ps.flatten) (htwo : 2 ≤ ps.length)
    (hps : ∀ piece ∈ ps, piece ≠ []) :
    d.deliver (s.wrapPackets dts
        (piecePackets (h265FUHeader nal) true ps)).1 =
      if HasLegalHeader nal ∧ nal.length ≤ maxNALBytes ∧ ps.length ≤ maxFUFragments then
        ({ d with fu := {} }.normalizeNALUs [nal]).1
      else [] := by
  match ps, htwo with
  | piece :: second :: rest, _ =>
    obtain ⟨hpiece, hrest⟩ := List.forall_mem_cons.mp hps
    have hlengths := congrArg List.length hsplit
    rw [List.flatten_cons, List.length_append, List.length_drop] at hlengths
    have hfirst := @h265NALs_first d.fu nal piece s dts hpiece
    rw [piecePackets]
    simp only [Session.wrapPackets, deliver, List.isEmpty_cons]
    split at hfirst
    next hbounds =>
      obtain ⟨fu', hnals, hbuf⟩ := hfirst
      rw [depacketizeFrames_of_nil hnals]
      rw [← take_two_eq hlength] at hbuf
      have hrest := deliver_rest (d := { d with fu := fu' }) hlength hbuf hsplit (by simp) hrest
      rw [Nat.add_comm] at hrest
      exact hrest
    next hbounds =>
      obtain ⟨e, hnals⟩ := hfirst
      rw [depacketizeFrames_of_error hnals, if_neg]
      · exact deliver_lost rfl hrest
      · intro hall
        exact hbounds ⟨hall.1, by omega⟩

end H265Depacketizer

/-! ## What the hop keeps -/

def isRandomAccess (nal : Bytes) : Bool :=
  16 ≤ H265.nalType nal ∧ H265.nalType nal ≤ 23

theorem length_prefixed32_singleton (nal : Bytes) : (prefixed32 [nal]).length = nal.length + 4 := by
  simp [prefixed32, be32Bytes]

namespace H265Depacketizer

/-- A media frame holds the NAL units it was made from. -/
theorem payload_of_mem_normalizeNALUs {f : AVFrame} (hnalus : ∀ nal ∈ nalus, nal ≠ [])
    (hf : f ∈ (d.normalizeNALUs nalus).1) (hmedia : f.isMedia = true) :
    f.payload = prefixed32 nalus := by
  rcases List.mem_append.mp hf with hconfig | hmem
  · unfold configFrames at hconfig
    dsimp only at hconfig
    split at hconfig
    · split at hconfig
      · simp at hconfig
      · rw [List.mem_singleton.mp hconfig] at hmedia
        simp [AVFrame.isMedia, newAVFrame] at hmedia
    · simp at hconfig
  · unfold mediaFrames at hmem
    split at hmem
    · rw [List.mem_singleton.mp hmem, ← h265NALUsToHVCC_eq hnalus]
      rfl
    · simp at hmem

theorem normalizeNALUs_slice (d : H265Depacketizer) (h : IsSliceNAL nal) :
    (d.normalizeNALUs [nal]).1 =
      [newAVFrame .video .h265 (if isRandomAccess nal then .keyframe else .interframe) 0 0
        (prefixed32 [nal])] := by
  have hne : nal ≠ [] := List.ne_nil_of_length_pos (by have := h.length; omega)
  have hpayload : h265NALUsToHVCC [nal] = prefixed32 [nal] :=
    h265NALUsToHVCC_eq (by simpa using hne)
  have hother : ∀ type : UInt8, 31 < type → H265.nalType nal ≠ type := by
    intro type hlt heq
    rw [← heq] at hlt
    exact UInt8.not_lt.mpr h.type hlt
  have hscan : d.scan [nal] =
      { depacketizer := d
        hasVCL := true
        frameType :=
          if isRandomAccess nal then .keyframe else .interframe } := by
    unfold scan
    rw [List.foldl_cons]
    unfold Scan.nal
    rw [if_neg (Nat.not_lt.mpr h.length), if_neg (hother _ (by decide)),
      if_neg (hother _ (by decide)), if_neg (hother _ (by decide)),
      if_pos h.type]
    simp [isRandomAccess]
  have hprefixed : prefixed32 [nal] ≠ [] :=
    List.ne_nil_of_length_pos (by rw [length_prefixed32_singleton]; omega)
  unfold normalizeNALUs
  rw [hscan]
  simp only [configFrames, mediaFrames, hpayload, Bool.false_eq_true,
    if_false, List.nil_append, true_and]
  rw [if_pos hprefixed]

end H265Depacketizer

/-- The units of a packet that arrives whole, at a receiver that holds no
fragments, are not what the packet carries in length-prefixed form. -/
theorem prefixed32_ne_payload {pkt : Packet} (hne : nalus ≠ [])
    (h : h265NALs {} pkt = .ok (nalus, fu)) :
    prefixed32 nalus ≠ pkt.payload := by
  cases taken_h265 h with
  | single =>
    intro heq
    have hlength := congrArg List.length heq
    rw [length_prefixed32_singleton] at hlength
    omega
  | aggregate haggregate _ hsizes =>
    -- a unit of an aggregation packet has a length of two bytes
    intro heq
    obtain ⟨nal, rest, rfl⟩ := List.exists_cons_of_ne_nil hne
    have hsize := hsizes nal (by simp)
    have hzero : byteOf nal.length 24 = 0 := by
      unfold byteOf
      rw [Nat.shiftRight_eq_zero _ _ (by omega)]
      rfl
    have hhead : pkt.payload.getD 0 0 = 0 := by
      rw [← heq, ← hzero]
      rfl
    simp only [h265Format, H265.nalType, hhead] at haggregate
    exact absurd haggregate (by decide)
  | fragment _ hboth htake =>
    -- a lone fragment completes nothing
    obtain ⟨base, hjoins, hunit⟩ := take_eq_ok htake
    unfold FragmentBuffer.Joins at hjoins
    split at hjoins
    next hstart =>
      rw [if_neg fun hend => hboth ⟨hstart, hend⟩] at hunit
      rw [hunit.1] at hne
      exact absurd rfl hne
    · simp at hjoins

/-- The bounds within which a NAL unit reaches the receiver: it fits one
packet, or its forbidden bit is clear and neither its length nor the number of
its fragments is beyond what the receiver holds. -/
def Sendable (mtu : ℕ) (nal : Bytes) : Prop :=
  nal.length ≤ mtu ∨ nal.getD 0 0 &&& 0x80 = 0 ∧ nal.length ≤ maxNALBytes ∧
    (pieces (mtu - 3) (nal.drop 2)).length ≤ maxFUFragments

section Hop

variable {s : Session} {mtu : ℕ} {frame : AVFrame}

theorem h265Hop_of_le (hmtu : 4 ≤ mtu) (hlength : 2 ≤ frame.payload.length)
    (hfits : frame.payload.length ≤ mtu) :
    h265Hop s mtu frame =
      (H265Depacketizer.depacketizeFrames {}
        (s.wrap frame.dts (rawPacket true frame.payload))).1.toOption.getD [] := by
  unfold h265Hop h265Packetize
  rw [if_neg (Nat.not_lt.mpr hlength), if_neg (Nat.not_lt.mpr hmtu), if_pos hfits]
  exact List.append_nil _

theorem h265Hop_of_lt (hmtu : 4 ≤ mtu) (hlength : 2 ≤ frame.payload.length)
    (hlong : mtu < frame.payload.length) :
    h265Hop s mtu frame =
      if HasLegalHeader frame.payload ∧ frame.payload.length ≤ maxNALBytes ∧
          (pieces (mtu - 3) (frame.payload.drop 2)).length ≤ maxFUFragments then
        (H265Depacketizer.normalizeNALUs {} [frame.payload]).1
      else [] := by
  have hsize : 0 < mtu - 3 := by omega
  have htwo : 2 ≤ (pieces (mtu - 3) (frame.payload.drop 2)).length := by
    apply two_le_length_pieces hsize
    rw [List.length_drop]
    omega
  unfold h265Hop h265Packetize
  rw [if_neg (Nat.not_lt.mpr hlength), if_neg (Nat.not_lt.mpr hmtu), if_neg (Nat.not_le.mpr hlong)]
  exact deliver_pieces s frame.dts hlength
    (flatten_pieces hsize _).symm htwo fun _ => ne_nil_of_mem_pieces

/-- No payload arrives as it was sent. -/
theorem h265Hop_payload_ne (hmtu : 4 ≤ mtu) (hlength : 2 ≤ frame.payload.length) :
    ∀ f ∈ h265Hop s mtu frame, f.isMedia = true → f.payload ≠ frame.payload := by
  intro f hf hmedia
  by_cases hfits : frame.payload.length ≤ mtu
  · rw [h265Hop_of_le hmtu hlength hfits] at hf
    generalize hpkt : s.wrap frame.dts (rawPacket true frame.payload) = pkt at hf
    have hpayload : frame.payload = pkt.payload := by rw [← hpkt]; rfl
    rw [hpayload]
    cases hnals : h265NALs (fu {}) pkt with
    | error e =>
      rw [depacketizeFrames_of_error hnals] at hf
      simp [Except.toOption] at hf
    | ok result =>
      obtain ⟨nalus, fu⟩ := result
      by_cases hne : nalus = []
      · rw [hne] at hnals
        rw [depacketizeFrames_of_nil hnals] at hf
        simp [Except.toOption] at hf
      · rw [depacketizeFrames_of_ne_nil hnals hne] at hf
        rw [payload_of_mem_normalizeNALUs (taken_h265 hnals).forall_valid hf hmedia]
        exact prefixed32_ne_payload hne hnals
  · rw [h265Hop_of_lt hmtu hlength (Nat.not_le.mp hfits)] at hf
    split at hf
    · have hne : frame.payload ≠ [] := List.ne_nil_of_length_pos (by omega)
      intro heq
      have hbytes := congrArg List.length (payload_of_mem_normalizeNALUs
          (by simpa using hne) hf hmedia)
      rw [length_prefixed32_singleton, heq] at hbytes
      omega
    · simp at hf

/-- A coded slice arrives as one frame or not at all. -/
theorem h265Hop_slice (hmtu : 4 ≤ mtu) (hslice : IsSliceNAL frame.payload) :
    (Sendable mtu frame.payload → h265Hop s mtu frame = [newAVFrame .video .h265
        (if isRandomAccess frame.payload then .keyframe else .interframe) 0 0
        (prefixed32 [frame.payload])]) ∧
    (¬ Sendable mtu frame.payload → h265Hop s mtu frame = []) := by
  by_cases hfits : frame.payload.length ≤ mtu
  · refine ⟨fun _ => ?_, fun hnot => absurd (.inl hfits) hnot⟩
    have htype : H265.nalType frame.payload ≤ 47 := UInt8.le_trans hslice.type (by decide)
    have hnals : h265NALs (fu {}) (s.wrap frame.dts
        (rawPacket true frame.payload)) = .ok ([frame.payload], {}) := by
      exact (if_neg (Nat.not_lt.mpr hslice.length)).trans (if_pos htype)
    rw [h265Hop_of_le hmtu hslice.length hfits, depacketizeFrames_of_ne_nil hnals (by simp)]
    exact normalizeNALUs_slice _ hslice
  · have hlegal : HasLegalHeader frame.payload ↔ frame.payload.getD 0 0 &&& 0x80 = 0 :=
      ⟨fun h => h.forbidden, fun h =>
        ⟨h, UInt8.le_trans hslice.type (by decide), hslice.tid⟩⟩
    rw [h265Hop_of_lt hmtu hslice.length (Nat.not_le.mp hfits), normalizeNALUs_slice _ hslice]
    simp only [Sendable, hfits, false_or, ← hlegal]
    exact ⟨fun h => if_pos h, fun h => if_neg h⟩

end Hop

/-- A frame that carries the coded slices `units`, in the internal form of a
stream or as one bare NAL unit, arrives in the internal form with its key frame
flag exactly if it is a bare unit, its flag is that of the unit's type and the
unit is within the receiver's bounds.  No frame in the internal form arrives. -/
theorem h265Hop_arrives_iff (s : Session) (mtu : ℕ) (hmtu : 4 ≤ mtu)
    (frame : AVFrame) (units : List Bytes) (hne : units ≠ [])
    (hslices : ∀ unit ∈ units, IsSliceNAL unit)
    (hcarries : frame.payload = prefixed32 units ∨ units = [frame.payload]) :
    ArrivesAs (prefixed32 units) frame.frameType.isKeyframe (h265Hop s mtu frame) ↔
      units = [frame.payload] ∧ Sendable mtu frame.payload ∧
        frame.frameType.isKeyframe = isRandomAccess frame.payload := by
  constructor
  · rintro ⟨f, hout, hmedia, hpayload, hkey⟩
    have hunits : units = [frame.payload] := by
      rcases hcarries with hinternal | hbare
      · have hlength : 2 ≤ frame.payload.length := by
          rw [hinternal]
          match units, hne with
          | unit :: rest, _ => simp [prefixed32, be32Bytes]
        refine absurd (hpayload.trans hinternal.symm)
          (h265Hop_payload_ne (s := s) hmtu hlength f ?_ hmedia)
        rw [hout]
        exact List.mem_singleton_self f
      · exact hbare
    have hslice : IsSliceNAL frame.payload := hslices _ (by simp [hunits])
    obtain ⟨hsent, hlost⟩ := h265Hop_slice (s := s) hmtu hslice
    have hsendable : Sendable mtu frame.payload := by
      by_contra hnot
      rw [hlost hnot] at hout
      simp at hout
    refine ⟨hunits, hsendable, ?_⟩
    rw [hsent hsendable] at hout
    rw [← hkey, ← List.singleton_inj.mp hout]
    cases isRandomAccess frame.payload <;> rfl
  · rintro ⟨hunits, hsendable, hkey⟩
    have hslice : IsSliceNAL frame.payload := hslices _ (by simp [hunits])
    refine ⟨_, (h265Hop_slice hmtu hslice).1 hsendable, ?_, ?_, ?_⟩
    · cases isRandomAccess frame.payload <;> rfl
    · rw [hunits]
      rfl
    · rw [hkey]
      cases isRandomAccess frame.payload <;> rfl

/-- A key frame of five bytes in three fragments. -/
theorem h265Hop_arrives_fragments :
    ArrivesAs [0, 0, 0, 5, 0x26, 0x01, 7, 8, 9] true
      (h265Hop (newSession 1 96 90000) 4
        (newAVFrame .video .h265 .keyframe 0 0 [0x26, 0x01, 7, 8, 9])) := by
  have hslice : IsSliceNAL [0x26, 0x01, 7, 8, 9] := by decide
  have hcount : (pieces 1 [(7 : UInt8), 8, 9]).length ≤ maxFUFragments :=
    (length_pieces_le _).trans (by decide)
  exact (h265Hop_arrives_iff (newSession 1 96 90000) 4 (by decide)
    (newAVFrame .video .h265 .keyframe 0 0 [0x26, 0x01, 7, 8, 9])
    [[0x26, 0x01, 7, 8, 9]] (by decide) (List.forall_mem_singleton.mpr hslice)
    (.inr rfl)).mpr ⟨rfl, .inr ⟨rfl, by decide, hcount⟩, rfl⟩

/-- The same picture in the internal form comes out behind a second length,
and is no key frame any more. -/
theorem h265Hop_prefixed_twice :
    IsSliceNAL [0x26, 0x01, 7, 8, 9] ∧
      h265Hop (newSession 1 96 90000) 1400
        (newAVFrame .video .h265 .keyframe 0 0 (prefixed32 [[0x26, 0x01, 7, 8, 9]])) =
        [newAVFrame .video .h265 .interframe 0 0
          (prefixed32 [prefixed32 [[0x26, 0x01, 7, 8, 9]]])] := by
  decide

end LiveForge.Rtp
