import LiveForge.Codec.AnnexB
import LiveForge.Rtp.Packet
import LiveForge.Support.Clock
import LiveForge.Support.Pieces

/-!
# RTP packetizers and sessions

The packetizers of `pkg/rtp` turn a frame into packets without numbers or
stamps, and a `Session` numbers and stamps them.  H.264 payloads are cut by a
library; its payloader is a parameter.  Every other packetizer either sends the
payload whole behind a fixed header or cuts it into pieces, each behind a header
that tells the first and the last piece from the others.
-/

namespace LiveForge.Rtp

open Support

def defaultMTU : ℕ := 1400

/-- The texts say which frame was empty. -/
inductive PacketizeError where
  | emptyPayload
  | emptyFrame (name : String)
  | emptyFramePayload (name : String)
  | mtuTooSmall (mtu : ℕ)
  | h265TooShort
  | h265MTUTooSmall

/-- A packet that no session has numbered and stamped. -/
def rawPacket (marker : Bool) (payload : Bytes) : Packet where
  marker := marker
  payloadType := 0
  sequenceNumber := 0
  timestamp := 0
  ssrc := 0
  payload := payload

/-! ## Whole frames -/

/-- One packet, the frame's payload behind a header. -/
def wholePacket (name : String) (header : Bytes) (frame : AVFrame) :
    Except PacketizeError (List Packet) :=
  if frame.payload = [] then .error (.emptyFrame name)
  else .ok [rawPacket true (header ++ frame.payload)]

/-- The size in the AU header keeps the low 13 bits of the frame's length. -/
def aacPacketize (frame : AVFrame) : Except PacketizeError (List Packet) :=
  wholePacket "AAC" (be16Bytes 16 ++ be16Bytes (frame.payload.length <<< 3)) frame

def opusPacketize : AVFrame → Except PacketizeError (List Packet) :=
  wholePacket "Opus" []

def g711Packetize : AVFrame → Except PacketizeError (List Packet) :=
  wholePacket "G.711" []

def mp3Packetize : AVFrame → Except PacketizeError (List Packet) :=
  wholePacket "MP3" [0, 0, 0, 0]

def g722Packetize : AVFrame → Except PacketizeError (List Packet) :=
  wholePacket "G.722" []

def g729Packetize : AVFrame → Except PacketizeError (List Packet) :=
  wholePacket "G.729" []

def speexPacketize : AVFrame → Except PacketizeError (List Packet) :=
  wholePacket "Speex" []

/-! ## Frames in pieces -/

/-- One packet for each piece; the header says whether it is the first and the
last, and the last one has the marker. -/
def piecePackets (header : Bool → Bool → Bytes) (isFirst : Bool) : List Bytes → List Packet
  | [] => []
  | piece :: rest =>
    rawPacket rest.isEmpty (header isFirst rest.isEmpty ++ piece) :: piecePackets header false rest

/-- VP8, VP9 and AV1 put one byte before the data of each packet. -/
def onePieceHeader (name : String) (whole : UInt8) (header : Bool → Bool → UInt8) (frame : AVFrame)
    (mtu : ℕ) : Except PacketizeError (List Packet) :=
  if frame.payload = [] then .error (.emptyFramePayload name)
  else if mtu < 2 then .error (.mtuTooSmall mtu)
  else if frame.payload.length ≤ mtu - 1 then
    .ok [rawPacket true (whole :: frame.payload)]
  else
    .ok (piecePackets (fun isFirst isLast => [header isFirst isLast]) true
      (pieces (mtu - 1) frame.payload))

def vp8Packetize (frame : AVFrame) (mtu : ℕ) : Except PacketizeError (List Packet) :=
  onePieceHeader "VP8" 0x10 (fun isFirst _ => if isFirst then 0x10 else 0x00)
    frame mtu

def vp9Packetize (frame : AVFrame) (mtu : ℕ) : Except PacketizeError (List Packet) :=
  onePieceHeader "VP9" 0x0C (fun isFirst isLast =>
      if isFirst ∧ isLast then 0x0C
      else if isFirst then 0x08
      else if isLast then 0x04
      else 0x00)
    frame mtu

def av1Packetize (frame : AVFrame) (mtu : ℕ) : Except PacketizeError (List Packet) :=
  onePieceHeader "AV1" 0x10 (fun isFirst _ => if isFirst then 0x00 else 0x80)
    frame mtu

/-- The first byte of a fragment's payload header, from that of the unit. -/
def h265FUFirst (b : UInt8) : UInt8 :=
  (b &&& 0x81) ||| (49 : UInt8) <<< (1 : UInt8)

/-- The FU header: the type of the unit, and whether the piece is the first and
the last. -/
def h265FUByte (nalType : UInt8) (isFirst isLast : Bool) : UInt8 :=
  nalType ||| (if isFirst then 0x80 else 0) ||| (if isLast then 0x40 else 0)

/-- The headers of a fragmentation unit of the NAL unit. -/
def h265FUHeader (nal : Bytes) (isFirst isLast : Bool) : Bytes :=
  [h265FUFirst (nal.getD 0 0), nal.getD 1 0, h265FUByte (H265.nalType nal) isFirst isLast]

/-- The payload is taken for one NAL unit. -/
def h265Packetize (frame : AVFrame) (mtu : ℕ) : Except PacketizeError (List Packet) :=
  let nal := frame.payload
  if nal.length < 2 then .error .h265TooShort
  else if mtu < 4 then .error .h265MTUTooSmall
  else if nal.length ≤ mtu then .ok [rawPacket true nal]
  else .ok (piecePackets (h265FUHeader nal) true (pieces (mtu - 3) (nal.drop 2)))

/-! ## H.264 -/

/-- The units of length-prefixed data; none when a length is zero or does not
fit. -/
def avccUnits (data : Bytes) : Option (List Bytes) :=
  if data = [] then some []
  else if data.length < 4 then none
  else
    let size := be32 (data.getD 0 0) (data.getD 1 0) (data.getD 2 0)
      (data.getD 3 0)
    let rest := data.drop 4
    if size = 0 ∨ rest.length < size then none
    else (avccUnits (rest.drop size)).map (rest.take size :: ·)
termination_by data.length
decreasing_by
  simp only [List.length_drop]
  omega

/-- Parameter sets of a configuration record, and the rest of the record when
it was long enough. -/
def parameterSets : ℕ → Bytes → List Bytes × Option Bytes
  | 0, data => ([], some data)
  | n + 1, data =>
    let size := be16 (data.getD 0 0) (data.getD 1 0)
    let rest := data.drop 2
    if data.length < 2 ∨ rest.length < size then ([], none)
    else
      let (sets, after) := parameterSets n (rest.drop size)
      (rest.take size :: sets, after)

/-- A record that ends early gives the sets before its end. -/
def avcDecoderConfigToAnnexB (data : Bytes) : Bytes :=
  if data.length < 8 then data
  else
    let numSPS := (data.getD 5 0 &&& 0x1F).toNat
    match parameterSets numSPS (data.drop 6) with
    | (sps, some (numPPS :: rest)) =>
      AnnexB.annexB (sps ++ (parameterSets numPPS.toNat rest).1)
    | (sps, _) => AnnexB.annexB sps

def hasAnnexBStartCode (data : Bytes) : Bool :=
  [0, 0, 0, 1] <+: data ∨ [0, 0, 1] <+: data

/-- A payload that is neither length-prefixed nor in Annex B is taken for one
NAL unit. -/
def toAnnexB (data : Bytes) (isSequenceHeader : Bool) : Bytes :=
  if data = [] then data
  else if isSequenceHeader ∧ 8 ≤ data.length ∧ data.getD 0 0 = 1 then
    avcDecoderConfigToAnnexB data
  else
    match avccUnits data with
    | some units => AnnexB.annexB units
    | none =>
      if hasAnnexBStartCode data then data else AnnexB.startCode ++ data

/-- The library's payloader: the payload size and the Annex B data. -/
abbrev H264Payload := ℤ → Bytes → List Bytes

def h264Packetize (payloader : H264Payload) (frame : AVFrame) (mtu : ℕ) :
    Except PacketizeError (List Packet) :=
  if frame.payload = [] then .error .emptyPayload
  else if mtu < 3 then .error (.mtuTooSmall mtu)
  else
    .ok (piecePackets (fun _ _ => []) true (payloader (mtu - 12)
      (toAnnexB frame.payload (frame.frameType = .sequenceHeader))))

/-! ## The packetizer of a codec -/

inductive Packetizer where
  | h264
  | h265
  | aac
  | opus
  | g711
  | mp3
  | g722
  | g729
  | speex
  | vp8
  | vp9
  | av1

def newPacketizer : CodecType → Option Packetizer
  | .h264 => some .h264
  | .h265 => some .h265
  | .aac => some .aac
  | .opus => some .opus
  | .g711u => some .g711
  | .g711a => some .g711
  | .mp3 => some .mp3
  | .g722 => some .g722
  | .g729 => some .g729
  | .speex => some .speex
  | .vp8 => some .vp8
  | .vp9 => some .vp9
  | .av1 => some .av1
  | .none | .other => none

def Packetizer.packetize (payloader : H264Payload) (p : Packetizer)
    (frame : AVFrame) (mtu : ℕ) : Except PacketizeError (List Packet) :=
  match p with
  | .h264 => h264Packetize payloader frame mtu
  | .h265 => h265Packetize frame mtu
  | .aac => aacPacketize frame
  | .opus => opusPacketize frame
  | .g711 => g711Packetize frame
  | .mp3 => mp3Packetize frame
  | .g722 => g722Packetize frame
  | .g729 => g729Packetize frame
  | .speex => speexPacketize frame
  | .vp8 => vp8Packetize frame mtu
  | .vp9 => vp9Packetize frame mtu
  | .av1 => av1Packetize frame mtu

/-- How many bytes a payload must have for packets to come of it. -/
def minPayload (codec : CodecType) : ℕ := if codec = .h265 then 2 else 1

theorem piecePackets_ne_nil {header : Bool → Bool → Bytes} {isFirst : Bool} {ps : List Bytes}
    (hne : ps ≠ []) :
    piecePackets header isFirst ps ≠ [] := by
  match ps, hne with
  | piece :: rest, _ => exact List.cons_ne_nil _ _

variable {frame : AVFrame} {name : String} {clockRate : UInt32} {dtsMsec : ℤ}

theorem wholePacket_sends {header : Bytes} :
    (∃ pkts, wholePacket name header frame = .ok pkts ∧ pkts ≠ []) ↔ 1 ≤ frame.payload.length := by
  rw [Nat.succ_le_iff, List.length_pos_iff]
  unfold wholePacket
  split
  next hempty => simp [hempty]
  next hne => simp [hne]

theorem onePieceHeader_sends {whole : UInt8} {header : Bool → Bool → UInt8} {mtu : ℕ}
    (hmtu : 2 ≤ mtu) :
    (∃ pkts, onePieceHeader name whole header frame mtu = .ok pkts ∧ pkts ≠ []) ↔
      1 ≤ frame.payload.length := by
  rw [Nat.succ_le_iff, List.length_pos_iff]
  unfold onePieceHeader
  split
  next hempty => simp [hempty]
  next hne =>
    rw [if_neg (Nat.not_lt.mpr hmtu)]
    split
    · simp [hne]
    · have hpieces := pieces_ne_nil hne (show 0 < mtu - 1 by omega)
      exact ⟨fun _ => hne, fun _ => ⟨_, rfl, piecePackets_ne_nil hpieces⟩⟩

theorem h265Packetize_sends {mtu : ℕ} (hmtu : 4 ≤ mtu) :
    (∃ pkts, h265Packetize frame mtu = .ok pkts ∧ pkts ≠ []) ↔ 2 ≤ frame.payload.length := by
  unfold h265Packetize
  dsimp only
  split
  next hshort => simp [Nat.not_le.mpr hshort]
  next hlong =>
    rw [if_neg (Nat.not_lt.mpr hmtu)]
    refine ⟨fun _ => Nat.not_lt.mp hlong, fun _ => ?_⟩
    split
    · exact ⟨_, rfl, List.cons_ne_nil _ _⟩
    next hsplit =>
      have hne : frame.payload.drop 2 ≠ [] := by
        rw [ne_eq, List.drop_eq_nil_iff]
        omega
      have hpieces := pieces_ne_nil hne (show 0 < mtu - 3 by omega)
      exact ⟨_, rfl, piecePackets_ne_nil hpieces⟩

/-- Apart from H.264, whose packets a library makes, the length of the payload
alone tells whether a frame gives packets. -/
theorem packetize_sends {payloader : H264Payload} {codec : CodecType}
    {p : Packetizer} (hcodec : codec ≠ .h264) (hp : newPacketizer codec = some p) :
    (∃ pkts, p.packetize payloader frame defaultMTU = .ok pkts ∧
      pkts ≠ []) ↔ minPayload codec ≤ frame.payload.length := by
  cases codec <;> simp only [newPacketizer] at hp <;>
    cases hp
  case h264 => exact absurd rfl hcodec
  case h265 => exact h265Packetize_sends (by decide)
  case vp8 | vp9 | av1 => exact onePieceHeader_sends (by decide)
  all_goals exact wholePacket_sends

/-! ## Sessions -/

structure Session where
  ssrc : UInt32
  payloadType : UInt8
  clockRate : UInt32
  seqNum : UInt16 := 0

/-- The random source identifier is an argument. -/
def newSession (ssrc : UInt32) (pt : UInt8) (clockRate : UInt32) : Session :=
  { ssrc, payloadType := pt, clockRate }

/-- A time in milliseconds on the RTP clock: the product is a 64-bit number,
its quotient is cut to 32 bits. -/
def rtpTimestamp (dtsMsec : ℤ) (clockRate : UInt32) : UInt32 :=
  stamp ((Int64.ofInt (dtsMsec * clockRate.toNat)).toInt.tdiv 1000)

/-- The product of a time and a clock rate is a 64-bit number. -/
def FitsClock (dtsMsec : ℤ) (clockRate : UInt32) : Prop :=
  -2 ^ 63 ≤ dtsMsec * clockRate.toNat ∧ dtsMsec * clockRate.toNat < 2 ^ 63

theorem rtpTimestamp_of_fits (hfits : FitsClock dtsMsec clockRate) :
    rtpTimestamp dtsMsec clockRate = stamp ((dtsMsec * clockRate.toNat).tdiv 1000) := by
  rw [rtpTimestamp, Int64.toInt_ofInt_of_le hfits.1 hfits.2]

/-- The stamps of two times are as far apart as the times, to one tick. -/
theorem nearTicks_rtpTimestamp {dts dts' : ℤ} (hfits : FitsClock dts clockRate)
    (hfits' : FitsClock dts' clockRate) (hle : dts ≤ dts') :
    NearTicks 1 ((dts' - dts) * clockRate.toNat / 1000)
      (rtpTimestamp dts' clockRate - rtpTimestamp dts clockRate) := by
  rw [rtpTimestamp_of_fits hfits, rtpTimestamp_of_fits hfits', Int.sub_mul]
  exact nearTicks_tdiv (Int.mul_le_mul_of_nonneg_right hle (Int.natCast_nonneg _))

namespace Session

def wrap (s : Session) (dtsMsec : ℤ) (pkt : Packet) : Packet :=
  { pkt with
    ssrc := s.ssrc
    payloadType := s.payloadType
    timestamp := rtpTimestamp dtsMsec s.clockRate
    sequenceNumber := s.seqNum }

def next (s : Session) : Session := { s with seqNum := s.seqNum + 1 }

def wrapPackets (s : Session) (dtsMsec : ℤ) : List Packet → List Packet × Session
  | [] => ([], s)
  | pkt :: pkts =>
    let (wrapped, s') := s.next.wrapPackets dtsMsec pkts
    (s.wrap dtsMsec pkt :: wrapped, s')

/-- Every packet has the session's payload type and the stamp of the frame. -/
theorem wrapPackets_spec {s : Session} {pkts : List Packet} {pkt : Packet}
    (hpkt : pkt ∈ (s.wrapPackets dtsMsec pkts).1) :
    pkt.payloadType = s.payloadType ∧ pkt.timestamp = rtpTimestamp dtsMsec s.clockRate := by
  induction pkts generalizing s with
  | nil => simp [wrapPackets] at hpkt
  | cons head pkts ih =>
    rcases List.mem_cons.mp hpkt with rfl | hrest
    · exact ⟨rfl, rfl⟩
    · have hspec := ih hrest
      exact hspec

theorem wrapPackets_session (s : Session) (dtsMsec : ℤ) (pkts : List Packet) :
    ∃ seqNum, (s.wrapPackets dtsMsec pkts).2 = { s with seqNum } := by
  induction pkts generalizing s with
  | nil => exact ⟨s.seqNum, rfl⟩
  | cons head pkts ih => exact ih s.next

theorem length_wrapPackets (s : Session) (dtsMsec : ℤ) (pkts : List Packet) :
    (s.wrapPackets dtsMsec pkts).1.length = pkts.length := by
  induction pkts generalizing s with
  | nil => rfl
  | cons head pkts ih => simp [wrapPackets, ih]

end Session

end LiveForge.Rtp
