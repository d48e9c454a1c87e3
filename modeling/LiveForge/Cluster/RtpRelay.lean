import LiveForge.Rtsp.Publisher
import LiveForge.Sdp.Builder

/-!
# The RTP relay

A stream sent by `sendRTPFrame` of `module/cluster/transport_rtp.go` and
received by the loops of `Pull` and `receiveRTP`.  The sender stamps the packets
of a frame with the frame's DTS; the receiver hands the frames of its
depacketizers to the stream as they are, and those have no timestamps.
-/

namespace LiveForge.Cluster

open Support Rtp Sdp
open Rtsp (WriteOutcome)

/-! ## The sender -/

/-- The session of the first section of the kind: the first payload type it
lists, at the clock of its `rtpmap`. -/
def relayMediaSession (ssrc : UInt32) (sd : List MediaDescription)
    (kind : MediaType) : Option Session :=
  match sd.find? fun md => md.type = kind ∧ md.formats ≠ [] with
  | none => none
  | some md =>
    let pt := md.formats.headD 0
    if pt < 0 ∨ 127 < pt then none
    else
      match md.rtpmap.filter fun map => map.payloadType = pt with
      | none => some (newSession ssrc (UInt8.ofNat pt.toNat) 90000)
      | some map =>
        if map.clockRate < 1 ∨ 2 ^ 32 - 1 < map.clockRate then none
        else
          some (newSession ssrc (UInt8.ofNat pt.toNat) (stamp map.clockRate))

inductive SendError where
  | nilPacketizer
  | nilSession
  | packetize (error : PacketizeError)
  | noPackets
  | write (index : ℕ)

/-- What the network and the destination stream do with a packet and with the
frame it completes. -/
structure RelayEnv where
  /-- The packet is serialized and written whole before the context ends. -/
  writes : Packet → Bool := fun _ => true
  outcome : Packet → WriteOutcome := fun _ => .written

/-- Write packets from the `index`-th on, up to the first that fails. -/
def writeRTP (env : RelayEnv) (index : ℕ) : List Packet → List Packet × Option SendError
  | [] => ([], none)
  | pkt :: rest =>
    if env.writes pkt then
      let (sent, error) := writeRTP env (index + 1) rest
      (pkt :: sent, error)
    else ([], some (.write index))

structure Sending where
  packets : List Packet
  error : Option SendError
  session : Option Session

def sendRTPFrame (payloader : H264Payload) (env : RelayEnv) (packetizer : Option Packetizer)
    (session : Option Session) (frame : AVFrame) : Sending :=
  match packetizer, session with
  | none, _ => ⟨[], some .nilPacketizer, session⟩
  | some _, none => ⟨[], some .nilSession, session⟩
  | some packetizer, some s =>
    match packetizer.packetize payloader frame defaultMTU with
    | .error e => ⟨[], some (.packetize e), session⟩
    | .ok [] => ⟨[], some .noPackets, session⟩
    | .ok pkts =>
      let (wrapped, s) := s.wrapPackets frame.dts pkts
      let (sent, error) := writeRTP env 0 wrapped
      ⟨sent, error, some s⟩

/-! ## The receiver -/

abbrev RelayDepacketizers := UInt8 → Option TrackDepacketizer

/-- The receiver's buffer, less the header of a packet without extensions. -/
def maxReceived : ℕ := 2048 - 12

/-- A packet as it is read again: the payload type keeps seven bits, the eighth
is the marker, and the receiver's buffer cuts the payload. -/
def receivedPacket (pkt : Packet) : Packet :=
  { pkt with
    marker := pkt.marker || 0x80 ≤ pkt.payloadType
    payloadType := pkt.payloadType &&& 0x7F
    payload := pkt.payload.take maxReceived }

def secondByte (pkt : Packet) : UInt8 :=
  pkt.payloadType ||| if pkt.marker then 0x80 else 0

structure Receiving where
  depacketizers : RelayDepacketizers
  written : List AVFrame := []
  /-- The publisher has lost the stream. -/
  stops : Bool := false

/-- Packets that look like RTCP are skipped, and so are unknown payload types
and damaged packets. -/
def receivePacket (unmarshal : VP8Unmarshal) (env : RelayEnv)
    (dps : RelayDepacketizers) (pkt : Packet) : Receiving :=
  if 200 ≤ secondByte pkt ∧ secondByte pkt ≤ 204 then ⟨dps, [], false⟩
  else
    let pkt := receivedPacket pkt
    match dps pkt.payloadType with
    | none => ⟨dps, [], false⟩
    | some dp =>
      let (result, dp) := dp.depacketize unmarshal pkt
      let dps := Function.update dps pkt.payloadType (some dp)
      match result with
      | .ok (some frame) =>
        match env.outcome pkt with
        | .written => ⟨dps, [frame], false⟩
        | .refused => ⟨dps, [], false⟩
        | .lost => ⟨dps, [], true⟩
      | _ => ⟨dps, [], false⟩

def receivePackets (unmarshal : VP8Unmarshal) (env : RelayEnv)
    (dps : RelayDepacketizers) : List Packet → Receiving
  | [] => ⟨dps, [], false⟩
  | pkt :: rest =>
    let first := receivePacket unmarshal env dps pkt
    if first.stops then first
    else
      let later := receivePackets unmarshal env first.depacketizers rest
      { later with written := first.written ++ later.written }

/-! ## The relay -/

/-- Each frame that is sent, with the frames written when its packets arrive,
in order and without loss.  The sender stops at its first error. -/
def relay (payloader : H264Payload) (unmarshal : VP8Unmarshal) (env : RelayEnv)
    (packetizer : Option Packetizer) (session : Option Session) (dps : RelayDepacketizers) :
    List AVFrame → List (AVFrame × List AVFrame)
  | [] => []
  | frame :: rest =>
    let sending := sendRTPFrame payloader env packetizer session frame
    let receiving := receivePackets unmarshal env dps sending.packets
    (frame, receiving.written) ::
      if sending.error = none ∧ ¬ receiving.stops then
        relay payloader unmarshal env packetizer sending.session receiving.depacketizers rest
      else []

/-- The times of any two written frames are as far apart as those of the frames
they were made from, up to one tick of the clock in milliseconds. -/
def KeepsTiming (clockRate : UInt32) (out : List (AVFrame × List AVFrame)) : Prop :=
  ∀ a ∈ out, ∀ b ∈ out, ∀ f ∈ a.2, ∀ g ∈ b.2,
    clockRate.toNat * ((g.dts - f.dts) - (b.1.dts - a.1.dts)).natAbs ≤ 1000

/-- All frames lie within one tick of each other. -/
def OneInstant (clockRate : UInt32) (frames : List AVFrame) : Prop :=
  ∀ a ∈ frames, ∀ b ∈ frames, clockRate.toNat * (b.dts - a.dts).natAbs ≤ 1000

/-! ## Timing -/

variable {dps : RelayDepacketizers} {unmarshal : VP8Unmarshal} {frames : List AVFrame}
  {payloader : H264Payload}

section Timing

variable {env : RelayEnv}

theorem receivePacket_unstamped {pkt : Packet} :
    ∀ f ∈ (receivePacket unmarshal env dps pkt).written, f.dts = 0 := by
  intro f hf
  unfold receivePacket at hf
  split at hf
  · simp at hf
  · dsimp only at hf
    split at hf
    · simp at hf
    next dp hdp =>
      split at hf
      next frame hframe =>
        split at hf
        · obtain ⟨frames, hframes, hlast⟩ := map_eq_ok.mp hframe
          rw [List.mem_singleton.mp hf]
          exact dp.unstamped hframes frame (List.mem_of_getLast? hlast)
        · simp at hf
        · simp at hf
      · simp at hf

theorem receivePackets_unstamped {pkts : List Packet} :
    ∀ f ∈ (receivePackets unmarshal env dps pkts).written, f.dts = 0 := by
  induction pkts generalizing dps with
  | nil => simp [receivePackets]
  | cons pkt rest ih =>
    unfold receivePackets
    dsimp only
    split
    · exact receivePacket_unstamped
    · exact List.forall_mem_append.mpr ⟨receivePacket_unstamped, ih⟩

variable {packetizer : Option Packetizer} {session : Option Session} {clockRate : UInt32}

/-- Written frames have no time, and come from the frames that were sent. -/
theorem relay_unstamped :
    ∀ a ∈ relay payloader unmarshal env packetizer session dps frames, a.1 ∈ frames ∧
      ∀ f ∈ a.2, f.dts = 0 := by
  induction frames generalizing session dps with
  | nil => simp [relay]
  | cons frame rest ih =>
    intro a ha
    unfold relay at ha
    rcases List.mem_cons.mp ha with rfl | hlater
    · exact ⟨List.mem_cons_self, receivePackets_unstamped⟩
    · split at hlater
      · obtain ⟨hmem, hzero⟩ := ih a hlater
        exact ⟨List.mem_cons_of_mem _ hmem, hzero⟩
      · simp at hlater

theorem keepsTiming_of_oneInstant (h : OneInstant clockRate frames) :
    KeepsTiming clockRate (relay payloader unmarshal env packetizer session dps frames) := by
  intro a ha b hb f hf g hg
  obtain ⟨hamem, hazero⟩ := relay_unstamped a ha
  obtain ⟨hbmem, hbzero⟩ := relay_unstamped b hb
  rw [hazero f hf, hbzero g hg, Int.sub_self, Int.zero_sub, Int.natAbs_neg]
  exact h a.1 hamem b.1 hbmem

/-- Where every frame arrives, its time is lost with the others'. -/
theorem oneInstant_of_keepsTiming
    (hdelivered : ∀ frame ∈ frames, ∃ g gs,
      (frame, g :: gs) ∈ relay payloader unmarshal env packetizer session dps frames)
    (h : KeepsTiming clockRate (relay payloader unmarshal env packetizer session dps frames)) :
    OneInstant clockRate frames := by
  intro a ha b hb
  obtain ⟨f, fs, hf⟩ := hdelivered a ha
  obtain ⟨g, gs, hg⟩ := hdelivered b hb
  have htimes := h _ hf _ hg f List.mem_cons_self g List.mem_cons_self
  have hfzero := (relay_unstamped _ hf).2 f List.mem_cons_self
  have hgzero := (relay_unstamped _ hg).2 g List.mem_cons_self
  rw [hfzero, hgzero, Int.sub_self, Int.zero_sub, Int.natAbs_neg] at htimes
  exact htimes

end Timing

/-! ## Audio arrives -/

section Audio

variable {codec : CodecType} {p : Packetizer} {d : AudioDepacketizer} {frame : AVFrame}

/-- A whole frame behind a header of `n` bytes is longer than the header at the
receiver, even when its buffer has cut the packet. -/
theorem lt_length_received {header data : Bytes} {pkt : Packet}
    (hpayload : pkt.payload = header ++ data) (hdata : data ≠ [])
    (hheader : header.length < maxReceived) :
    header.length < (receivedPacket pkt).payload.length := by
  have hpos := List.length_pos_of_ne_nil hdata
  simp only [receivedPacket, hpayload, List.length_take, List.length_append]
  omega

theorem depacketizeWhole_received {name : String} {pkt : Packet}
    (hpayload : pkt.payload = frame.payload) (hdata : frame.payload ≠ []) :
    ∃ f, depacketizeWhole name codec (receivedPacket pkt) = .ok f := by
  have hlength := @lt_length_received [] frame.payload pkt hpayload hdata (by decide)
  unfold depacketizeWhole
  rw [if_neg (List.ne_nil_of_length_pos hlength)]
  exact ⟨_, rfl⟩

/-- An audio frame is one packet, and the receiver makes a frame of it. -/
theorem audio_packet (payloader : H264Payload) (hp : newPacketizer codec = some p)
    (hd : newAudioDepacketizer codec = some d) (hdata : frame.payload ≠ []) :
    ∃ payload, p.packetize payloader frame defaultMTU = .ok [rawPacket true payload] ∧
      ∀ pkt : Packet, pkt.payload = payload → ∃ f, d.depacketize (receivedPacket pkt) = .ok f := by
  have hwhole : ∀ name header, wholePacket name header frame =
      .ok [rawPacket true (header ++ frame.payload)] :=
    fun name header => if_neg hdata
  cases codec <;> simp only [newAudioDepacketizer, reduceCtorEq] at hd <;>
    obtain rfl := Option.some.inj hd <;>
    cases hp
  case aac =>
    refine ⟨_, hwhole _ _, fun pkt hpayload => ?_⟩
    have hheader : ∀ n, be16Bytes 16 ++ be16Bytes n =
        [0, 16, byteOf n 8, byteOf n 0] := fun _ => rfl
    rw [hheader] at hpayload
    have hlength : 4 < (receivedPacket pkt).payload.length :=
      lt_length_received hpayload hdata (by simp [maxReceived])
    have hfirst : (receivedPacket pkt).payload.getD 0 0 = 0 ∧
        (receivedPacket pkt).payload.getD 1 0 = 16 := by
      simp only [receivedPacket, hpayload]
      exact ⟨rfl, rfl⟩
    simp only [AudioDepacketizer.depacketize, aacDepacketize, hfirst]
    rw [if_neg (by omega), if_neg]
    · exact ⟨_, rfl⟩
    · have hsize : 2 + (be16 0 16 + 7) / 8 = 4 := by decide
      omega
  case mp3 =>
    refine ⟨_, hwhole _ _, fun pkt hpayload => ?_⟩
    have hlength := lt_length_received hpayload hdata (by decide)
    refine ⟨_, if_neg (Nat.not_le.mpr hlength)⟩
  all_goals
    exact ⟨_, hwhole _ _, fun pkt hpayload =>
      depacketizeWhole_received hpayload hdata⟩

/-- A payload type of seven bits that a marker does not turn into RTCP. -/
def IsMediaPT (pt : UInt8) : Prop :=
  pt &&& 0x7F = pt ∧ ¬ (200 ≤ pt ||| 0x80 ∧ pt ||| 0x80 ≤ 204)

instance (pt : UInt8) : Decidable (IsMediaPT pt) :=
  inferInstanceAs (Decidable (_ ∧ _))

theorem receivePackets_audio {pkt : Packet} {f : AVFrame} (hmarker : pkt.marker = true)
    (hpt : IsMediaPT pkt.payloadType) (hdp : dps pkt.payloadType = some (.audio d))
    (hf : d.depacketize (receivedPacket pkt) = .ok f) :
    receivePackets unmarshal {} dps [pkt] = ⟨dps, [f], false⟩ := by
  have hsecond : secondByte pkt = pkt.payloadType ||| 0x80 := by
    rw [secondByte, hmarker]
    rfl
  have hreceived : (receivedPacket pkt).payloadType = pkt.payloadType := hpt.1
  have hresult : TrackDepacketizer.depacketize unmarshal (.audio d)
      (receivedPacket pkt) = (.ok (some f), .audio d) := by
    simp only [TrackDepacketizer.depacketize, TrackDepacketizer.depacketizeFrames, hf]
    rfl
  have hone : receivePacket unmarshal {} dps pkt = ⟨dps, [f], false⟩ := by
    unfold receivePacket
    rw [hsecond, if_neg hpt.2]
    simp only [hreceived, hdp, hresult]
    rw [← hdp, Function.update_eq_self]
  simp only [receivePackets, hone]
  rfl

variable {session : Session} {ssrc : UInt32}

theorem relay_audio_delivers (hp : newPacketizer codec = some p)
    (hd : newAudioDepacketizer codec = some d) (hpt : IsMediaPT session.payloadType)
    (hdp : dps session.payloadType = some (.audio d))
    (hdata : ∀ frame ∈ frames, frame.payload ≠ []) :
    ∀ frame ∈ frames, ∃ g gs, (frame, g :: gs) ∈
      relay payloader unmarshal {} (some p) (some session) dps frames := by
  induction frames generalizing session with
  | nil => simp
  | cons head rest ih =>
    obtain ⟨hhead, hrest⟩ := List.forall_mem_cons.mp hdata
    obtain ⟨payload, hpkts, hreceive⟩ := audio_packet payloader hp hd hhead
    obtain ⟨f, hf⟩ := hreceive (session.wrap head.dts (rawPacket true payload)) rfl
    have hsend : sendRTPFrame payloader {} (some p) (some session) head =
        ⟨[session.wrap head.dts (rawPacket true payload)], none,
          some session.next⟩ := by
      simp only [sendRTPFrame, hpkts]
      rfl
    have hreceived : receivePackets unmarshal {} dps
        [session.wrap head.dts (rawPacket true payload)] =
          ⟨dps, [f], false⟩ := receivePackets_audio rfl hpt hdp hf
    have hstep : relay payloader unmarshal {} (some p) (some session) dps
        (head :: rest) = (head, [f]) ::
          relay payloader unmarshal {} (some p) (some session.next) dps
            rest := by
      rw [relay]
      simp only [hsend, hreceived]
      rfl
    rw [hstep]
    intro frame hframe
    rcases List.mem_cons.mp hframe with rfl | hlater
    · exact ⟨f, [], List.mem_cons_self⟩
    · obtain ⟨g, gs, hmem⟩ := @ih session.next hpt hdp hrest frame hlater
      exact ⟨g, gs, List.mem_cons_of_mem _ hmem⟩

theorem relayMediaSession_eq_some {sd : List MediaDescription}
    {kind : MediaType} (h : relayMediaSession ssrc sd kind = some session) :
    ∃ md ∈ sd, md.type = kind ∧ session.payloadType = UInt8.ofNat (md.formats.headD 0).toNat := by
  unfold relayMediaSession at h
  split at h
  · simp at h
  next md hfind =>
    have hkind := List.find?_some hfind
    refine ⟨md, List.mem_of_find?_eq_some hfind, (of_decide_eq_true hkind).1, ?_⟩
    dsimp only at h
    split_ifs at h
    split at h
    · rw [← Option.some.inj h]; rfl
    · split_ifs at h
      rw [← Option.some.inj h]
      rfl

theorem relayMediaSession_audio {info : MediaInfo} (haudio : info.audioCodec.isAudio = true)
    (hsession : relayMediaSession ssrc (buildFromMediaInfo info) .audio = some session) :
    IsMediaPT session.payloadType := by
  obtain ⟨md, hmd, hkind, hpt⟩ := relayMediaSession_eq_some hsession
  rw [hpt]
  rcases List.mem_append.mp hmd with hvideo | hmd
  · split at hvideo
    · rw [List.mem_singleton.mp hvideo, buildMediaDesc_type] at hkind
      exact absurd hkind (by decide)
    · simp at hvideo
  · split at hmd
    · rw [List.mem_singleton.mp hmd]
      generalize info.audioCodec = codec at haudio
      revert haudio
      cases codec <;>
        simp only [buildMediaDesc, codecRTPInfo] <;>
        decide
    · simp at hmd

end Audio

/-- The relay keeps the timing of frames that lie within one tick of each
other.  When every frame arrives it keeps the timing of no others; audio frames
that are not empty do arrive. -/
theorem relay_keepsTiming_oneInstant (payloader : H264Payload) (unmarshal : VP8Unmarshal)
    (session : Session) (dps : RelayDepacketizers) (frames : List AVFrame) :
    (∀ env packetizer, OneInstant session.clockRate frames →
      KeepsTiming session.clockRate
        (relay payloader unmarshal env packetizer (some session) dps frames)) ∧
      (∀ env packetizer, (∀ frame ∈ frames, ∃ g gs, (frame, g :: gs) ∈
        relay payloader unmarshal env packetizer (some session) dps frames) →
        KeepsTiming session.clockRate
          (relay payloader unmarshal env packetizer (some session) dps frames) →
        OneInstant session.clockRate frames) ∧
      (∀ ssrc info, info.audioCodec.isAudio = true →
        relayMediaSession ssrc (buildFromMediaInfo info) .audio = some session →
        dps session.payloadType = newTrackDepacketizer info.audioCodec →
        (∀ frame ∈ frames, frame.payload ≠ []) →
        (KeepsTiming session.clockRate
          (relay payloader unmarshal {} (newPacketizer info.audioCodec) (some session) dps frames) ↔
          OneInstant session.clockRate frames)) := by
  refine ⟨fun _ _ => keepsTiming_of_oneInstant, fun _ _ => oneInstant_of_keepsTiming, ?_⟩
  intro ssrc info haudio hsession hdp hdata
  obtain ⟨p, d, hp, hd, htrack⟩ : ∃ p d, newPacketizer info.audioCodec = some p ∧
      newAudioDepacketizer info.audioCodec = some d ∧
      newTrackDepacketizer info.audioCodec = some (.audio d) := by
    generalize info.audioCodec = codec at haudio
    revert haudio
    cases codec <;>
      simp [CodecType.isAudio, newPacketizer, newAudioDepacketizer,
        newTrackDepacketizer, newDepacketizer]
  rw [hp]
  exact ⟨oneInstant_of_keepsTiming (relay_audio_delivers hp hd
      (relayMediaSession_audio haudio hsession) (hdp.trans htrack) hdata),
    keepsTiming_of_oneInstant⟩

/-- Two Opus frames of the same millisecond. -/
theorem relay_keepsTiming_same_instant :
    KeepsTiming 48000
      (relay (fun _ data => [data]) (fun _ => none) {} (some .opus) (some (newSession 1 111 48000))
        (fun _ => some (.audio .opus))
        [newAVFrame .audio .opus .interframe 20 20 [1],
          newAVFrame .audio .opus .interframe 20 20 [2]]) := by
  refine (relay_keepsTiming_oneInstant (fun _ data => [data]) (fun _ => none)
    (newSession 1 111 48000) (fun _ => some (.audio .opus)) _).1 {}
    (some .opus) ?_
  unfold OneInstant
  decide

/-- Two Opus frames 20 milliseconds apart arrive with the same time. -/
theorem relay_loses_timing :
    relay (fun _ data => [data]) (fun _ => none) {} (some .opus) (some (newSession 1 111 48000))
      (fun _ => some (.audio .opus))
      [newAVFrame .audio .opus .interframe 0 0 [1], newAVFrame .audio .opus .interframe 20 20 [2]] =
      [(newAVFrame .audio .opus .interframe 0 0 [1], [newAVFrame .audio .opus .none 0 0 [1]]),
        (newAVFrame .audio .opus .interframe 20 20 [2], [newAVFrame .audio .opus .none 0 0 [2]])] ∧
      ¬ KeepsTiming 48000
        (relay (fun _ data => [data]) (fun _ => none) {} (some .opus)
          (some (newSession 1 111 48000)) (fun _ => some (.audio .opus))
          [newAVFrame .audio .opus .interframe 0 0 [1],
            newAVFrame .audio .opus .interframe 20 20 [2]]) := by
  unfold KeepsTiming
  decide

end LiveForge.Cluster
