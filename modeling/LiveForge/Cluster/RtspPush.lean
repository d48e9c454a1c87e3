import LiveForge.Rtp.Packetizer
import LiveForge.Sdp.Builder

/-!
# Pushing a stream over RTSP

`RTSPTransport.Push` of `module/cluster/transport_rtsp.go`.  The transport
announces the SDP of the stream, sets a channel up for each of its media
sections, and sends every frame with an RTP session of the frame's track.  The
sessions do not read the SDP: their payload types are 96 and 97, and their
clocks are 90000 and the sample rate.

What the peer, the network and the stream do is an argument: whether the
handshake goes through, whether the publisher is still the one the push began
with, and which packets can be written.
-/

namespace LiveForge.Cluster

open Support Rtp Sdp

/-! ## Tracks -/

/-- A track for which a packetizer and a channel were found. -/
structure RtspTrack where
  packetizer : Packetizer
  session : Session
  channel : UInt8

abbrev RtspTracks := MediaType → Option RtspTrack

/-- The channels that the sections are set up with, two apart; the last section
of a kind counts. -/
def setupChannels (channel : UInt8) (channels : MediaType → Option UInt8) :
    List MediaDescription → MediaType → Option UInt8
  | [] => channels
  | md :: rest =>
    setupChannels (channel + 2) (Function.update channels md.type (some channel)) rest

def videoSession (ssrc : UInt32) : Session := newSession ssrc 96 90000

def audioSession (ssrc : UInt32) (info : MediaInfo) : Session :=
  let clockRate := stamp info.sampleRate
  newSession ssrc 97 (if clockRate = 0 then 48000 else clockRate)

/-- The random source identifiers are arguments. -/
def newTracks (ssrc : MediaType → UInt32) (info : MediaInfo) : RtspTracks :=
  let channels := setupChannels 0 (fun _ => none) (buildFromMediaInfo info)
  fun
    | .video => do
        let packetizer ← newPacketizer info.videoCodec
        let channel ← channels .video
        return ⟨packetizer, videoSession (ssrc .video), channel⟩
    | .audio => do
        let packetizer ← newPacketizer info.audioCodec
        let channel ← channels .audio
        return ⟨packetizer, audioSession (ssrc .audio) info, channel⟩
    | .other => none

/-! ## Sending -/

structure PushEnv where
  ssrc : MediaType → UInt32 := fun _ => 0
  /-- The connection and every request succeed, with the publisher in place. -/
  connects : Bool := true
  /-- The publisher is in place before the frame with this number. -/
  current : ℕ → Bool := fun _ => true
  marshals : Packet → Bool := fun _ => true
  /-- The write of a packet, by the numbers of the frame and the packet. -/
  writes : ℕ → ℕ → Bool := fun _ _ => true

/-- A packet on the wire, with the time of the frame it was made from. -/
structure Interleaved where
  channel : UInt8
  dts : ℤ
  packet : Packet

/-- Write the packets of a frame from the `j`-th on, up to the first write that
fails. -/
def writePackets (env : PushEnv) (i : ℕ) (channel : UInt8) (dts : ℤ) (j : ℕ) :
    List Packet → List Interleaved × Bool
  | [] => ([], true)
  | p :: rest =>
    if env.marshals p then
      if env.writes i j then
        let (sent, ok) := writePackets env i channel dts (j + 1) rest
        (⟨channel, dts, p⟩ :: sent, ok)
      else ([], false)
    else writePackets env i channel dts (j + 1) rest

/-- A frame that cannot be packetized is skipped. -/
def sendRTSPFrame (payloader : H264Payload) (env : PushEnv) (i : ℕ) (track : RtspTrack)
    (frame : AVFrame) : (List Interleaved × Bool) × RtspTrack :=
  match track.packetizer.packetize payloader frame defaultMTU with
  | .error _ => (([], true), track)
  | .ok pkts =>
    let (wrapped, session) := track.session.wrapPackets frame.dts pkts
    (writePackets env i track.channel frame.dts 0 wrapped, { track with session })

/-- The frames of the snapshot and then those of the ring, from the `i`-th
on. -/
def pushFrames (payloader : H264Payload) (env : PushEnv) (i : ℕ)
    (tracks : RtspTracks) : List AVFrame → List Interleaved
  | [] => []
  | frame :: rest =>
    if env.current i then
      if frame.isMedia then
        match tracks frame.mediaType with
        | none => pushFrames payloader env (i + 1) tracks rest
        | some track =>
          let (result, track) := sendRTSPFrame payloader env i track frame
          result.1 ++
            if result.2 then
              pushFrames payloader env (i + 1)
                (Function.update tracks frame.mediaType (some track)) rest
            else []
      else pushFrames payloader env (i + 1) tracks rest
    else []

def push (payloader : H264Payload) (env : PushEnv) (info : MediaInfo)
    (frames : List AVFrame) : List Interleaved :=
  if env.connects then
    pushFrames payloader env 0 (newTracks env.ssrc info) frames
  else []

/-! ## What is sent -/

/-- The packet was made from the frame and stamped by the session of the
frame's track. -/
structure SentFor (payloader : H264Payload) (tracks : RtspTracks)
    (frame : AVFrame) (x : Interleaved) (track : RtspTrack) : Prop where
  media : frame.isMedia = true
  served : tracks frame.mediaType = some track
  sends : ∃ pkts, track.packetizer.packetize payloader frame defaultMTU = .ok pkts ∧ pkts ≠ []
  channel : x.channel = track.channel
  dts : x.dts = frame.dts
  payloadType : x.packet.payloadType = track.session.payloadType
  timestamp : x.packet.timestamp = rtpTimestamp frame.dts track.session.clockRate

def RtspTrack.renumbered (track : RtspTrack) (seqNum : UInt16) : RtspTrack :=
  { track with session := { track.session with seqNum } }

variable {frames : List AVFrame} {payloader : H264Payload} {info : MediaInfo}

section Sending

variable {env : PushEnv} {x : Interleaved} {tracks : RtspTracks}

theorem mem_writePackets {i j : ℕ} {channel : UInt8} {dts : ℤ}
    {pkts : List Packet} (hx : x ∈ (writePackets env i channel dts j pkts).1) :
    x.channel = channel ∧ x.dts = dts ∧ x.packet ∈ pkts := by
  induction pkts generalizing j with
  | nil => simp [writePackets] at hx
  | cons p rest ih =>
    unfold writePackets at hx
    split at hx
    · split at hx
      · rcases List.mem_cons.mp hx with rfl | hrest
        · exact ⟨rfl, rfl, List.mem_cons_self⟩
        · obtain ⟨hchannel, hdts, hmem⟩ := ih hrest
          exact ⟨hchannel, hdts, List.mem_cons_of_mem _ hmem⟩
      · simp at hx
    · obtain ⟨hchannel, hdts, hmem⟩ := ih hx
      exact ⟨hchannel, hdts, List.mem_cons_of_mem _ hmem⟩

/-- Sending a frame leaves the track as it was, apart from the numbering. -/
theorem sendRTSPFrame_track (i : ℕ) (track : RtspTrack) (frame : AVFrame) :
    ∃ seqNum, (sendRTSPFrame payloader env i track frame).2 = track.renumbered seqNum := by
  unfold sendRTSPFrame
  split
  · exact ⟨track.session.seqNum, rfl⟩
  next pkts hpkts =>
    obtain ⟨seqNum, hsession⟩ := track.session.wrapPackets_session frame.dts pkts
    exact ⟨seqNum, by simp only [hsession, RtspTrack.renumbered]⟩

theorem mem_sendRTSPFrame {i : ℕ} {track : RtspTrack} {frame : AVFrame}
    {x : Interleaved} (hmedia : frame.isMedia = true) (htrack : tracks frame.mediaType = some track)
    (hx : x ∈ (sendRTSPFrame payloader env i track frame).1.1) :
    SentFor payloader tracks frame x track := by
  unfold sendRTSPFrame at hx
  split at hx
  · simp at hx
  next pkts hpkts =>
    obtain ⟨hchannel, hdts, hmem⟩ := mem_writePackets hx
    obtain ⟨hpt, hts⟩ := Session.wrapPackets_spec hmem
    refine ⟨hmedia, htrack, ⟨pkts, hpkts, ?_⟩, hchannel, hdts, hpt, hts⟩
    rintro rfl
    simp [Session.wrapPackets] at hmem

/-- What a later track has sent could have been sent by the track before. -/
theorem SentFor.of_update {kind : MediaType} {before track : RtspTrack}
    {seqNum : UInt16} {frame : AVFrame} (hbefore : tracks kind = some before)
    (h : SentFor payloader (Function.update tracks kind
      (some (before.renumbered seqNum))) frame x track) :
    ∃ track, SentFor payloader tracks frame x track := by
  by_cases hkind : frame.mediaType = kind
  · have htrack := h.served
    rw [hkind, Function.update_self] at htrack
    cases htrack
    exact ⟨before, { h with served := hkind ▸ hbefore }⟩
  · have htrack := h.served
    rw [Function.update_of_ne hkind] at htrack
    exact ⟨track, { h with served := htrack }⟩

/-- Every packet belongs to a media frame and carries the constants of the
session its track began with. -/
theorem sentFor_of_mem_pushFrames {i : ℕ} (hx : x ∈ pushFrames payloader env i tracks frames) :
    ∃ frame ∈ frames, ∃ track, SentFor payloader tracks frame x track := by
  induction frames generalizing i tracks with
  | nil => simp [pushFrames] at hx
  | cons frame rest ih =>
    have hlater : ∀ {tracks' : RtspTracks} {i' : ℕ}, x ∈ pushFrames payloader env i' tracks' rest →
        (∀ {f track}, SentFor payloader tracks' f x track →
          ∃ track, SentFor payloader tracks f x track) →
        ∃ f ∈ frame :: rest, ∃ track, SentFor payloader tracks f x track := by
      intro tracks' i' hmem hback
      obtain ⟨f, hf, track, hsent⟩ := ih hmem
      exact ⟨f, List.mem_cons_of_mem _ hf, hback hsent⟩
    unfold pushFrames at hx
    split at hx
    · split at hx
      next hmedia =>
        split at hx
        · exact hlater hx fun h => ⟨_, h⟩
        next track htrack =>
          obtain ⟨seqNum, hafter⟩ := @sendRTSPFrame_track payloader env i track frame
          have hhere := @mem_sendRTSPFrame payloader env tracks i track frame x hmedia htrack
          generalize sendRTSPFrame payloader env i track frame = result at hx hafter hhere
          obtain ⟨⟨sent, ok⟩, after⟩ := result
          rcases List.mem_append.mp hx with hsent | hrest
          · exact ⟨frame, List.mem_cons_self, track, hhere hsent⟩
          · cases ok with
            | false => simp at hrest
            | true =>
              obtain rfl := hafter
              exact hlater hrest fun h => h.of_update htrack
      · exact hlater hx fun h => ⟨_, h⟩
    · simp at hx

theorem writePackets_all (i : ℕ) (channel : UInt8) (dts : ℤ) (j : ℕ) (pkts : List Packet) :
    writePackets {} i channel dts j pkts = (pkts.map fun p => ⟨channel, dts, p⟩, true) := by
  induction pkts generalizing j with
  | nil => rfl
  | cons p rest ih => simp [writePackets, ih]

theorem sendRTSPFrame_all (i : ℕ) (track : RtspTrack) (frame : AVFrame) :
    (sendRTSPFrame payloader {} i track frame).1.2 = true ∧
      ∀ pkts, track.packetizer.packetize payloader frame defaultMTU = .ok pkts →
        (sendRTSPFrame payloader {} i track frame).1.1.length = pkts.length := by
  unfold sendRTSPFrame
  split
  next e he => exact ⟨rfl, fun pkts hpkts => by simp [he] at hpkts⟩
  next pkts hpkts =>
    simp only [writePackets_all, List.length_map, Session.length_wrapPackets]
    refine ⟨trivial, fun pkts' hpkts' => ?_⟩
    rw [Except.ok.inj (hpkts.symm.trans hpkts')]

theorem exists_sentFor {i : ℕ} {frame : AVFrame}
    {track : RtspTrack} (hframe : frame ∈ frames) (hmedia : frame.isMedia = true)
    (htrack : tracks frame.mediaType = some track)
    (hsends : ∃ pkts,
      track.packetizer.packetize payloader frame defaultMTU = .ok pkts ∧ pkts ≠ []) :
    ∃ x ∈ pushFrames payloader {} i tracks frames, ∃ track,
      SentFor payloader tracks frame x track := by
  induction frames generalizing i tracks track with
  | nil => simp at hframe
  | cons head rest ih =>
    unfold pushFrames
    by_cases hhead : head.isMedia = true
    · rw [if_pos hhead]
      cases hserved : tracks head.mediaType with
      | none =>
        rcases List.mem_cons.mp hframe with rfl | hrest
        · simp [hserved] at htrack
        · exact ih hrest htrack hsends
      | some served =>
        obtain ⟨hok, hlength⟩ := @sendRTSPFrame_all payloader i served head
        obtain ⟨seqNum, hafter⟩ := @sendRTSPFrame_track payloader {} i served head
        have hhere := @mem_sendRTSPFrame payloader {} tracks i served head
        dsimp only
        generalize sendRTSPFrame payloader {} i served head = result at hok hlength hafter hhere ⊢
        obtain ⟨⟨sent, ok⟩, after⟩ := result
        obtain rfl : ok = true := hok
        obtain rfl := hafter
        rcases List.mem_cons.mp hframe with rfl | hrest
        · obtain rfl := Option.mem_unique hserved htrack
          obtain ⟨pkts, hpkts, hne⟩ := hsends
          have hsent : sent ≠ [] := by
            have hpos := List.length_pos_of_ne_nil hne
            rw [← hlength pkts hpkts] at hpos
            exact List.ne_nil_of_length_pos hpos
          obtain ⟨x, hx⟩ := List.exists_mem_of_ne_nil sent hsent
          exact ⟨x, List.mem_append_left _ hx, served, hhere hmedia hserved hx⟩
        · have hlater : ∃ track', Function.update tracks head.mediaType
              (some (served.renumbered seqNum)) frame.mediaType = some track' ∧
                track'.packetizer = track.packetizer := by
            by_cases hkind : frame.mediaType = head.mediaType
            · obtain rfl := Option.some.inj (hserved.symm.trans (hkind ▸ htrack))
              exact ⟨served.renumbered seqNum, by rw [hkind, Function.update_self], rfl⟩
            · exact ⟨track, by rw [Function.update_of_ne hkind, htrack], rfl⟩
          obtain ⟨track', htrack', hpacketizer⟩ := hlater
          rw [← hpacketizer] at hsends
          obtain ⟨x, hx, _, hsent⟩ := ih (i := i + 1) hrest htrack' hsends
          exact ⟨x, List.mem_append_right _ hx, hsent.of_update hserved⟩
    · rw [if_neg hhead]
      rcases List.mem_cons.mp hframe with rfl | hrest
      · exact absurd hmedia hhead
      · exact ih hrest htrack hsends

end Sending

/-! ## The announced sections -/

/-- The section a channel was set up for. -/
def sectionOf (info : MediaInfo) (channel : UInt8) : Option MediaDescription :=
  (buildFromMediaInfo info)[channel.toNat / 2]?

/-- Every packet has a payload type that the section of its channel lists, and
from an earlier to a later frame the stamps advance at the clock of the
section's `rtpmap`, up to one tick. -/
def ObeysSDP (info : MediaInfo) (sent : List Interleaved) : Prop :=
  ∀ x ∈ sent, ∃ md map, sectionOf info x.channel = some md ∧
    md.rtpmap = some map ∧ (x.packet.payloadType.toNat : ℤ) ∈ md.formats ∧
    ∀ y ∈ sent, y.channel = x.channel → x.dts ≤ y.dts →
      NearTicks 1 ((y.dts - x.dts) * map.clockRate / 1000) (y.packet.timestamp - x.packet.timestamp)

/-- The codecs of a stream are codecs of their kind. -/
structure SupportedCodecs (info : MediaInfo) : Prop where
  video : info.videoCodec = .none ∨ info.videoCodec.isVideo = true
  audio : info.audioCodec = .none ∨ info.audioCodec.isAudio = true

/-- No audio frame gives packets, and no video frame does unless the video is
H.264. -/
structure OnlyH264 (info : MediaInfo) (frames : List AVFrame) : Prop where
  audio : info.audioCodec ≠ .none → ∀ frame ∈ frames, frame.isMedia = true →
    frame.mediaType = .audio → frame.payload = []
  video : info.videoCodec ≠ .none → info.videoCodec ≠ .h264 →
    ∀ frame ∈ frames, frame.isMedia = true → frame.mediaType = .video →
      frame.payload.length < minPayload info.videoCodec

section Sections

variable {ssrc : MediaType → UInt32}

def audioChannel (info : MediaInfo) : UInt8 :=
  if info.videoCodec = .none then 0 else 2

theorem setupChannels_build (kind : MediaType) :
    setupChannels 0 (fun _ => none) (buildFromMediaInfo info) kind =
      match kind with
      | .video => if info.videoCodec = .none then none else some 0
      | .audio =>
        if info.audioCodec = .none then none else some (audioChannel info)
      | .other => none := by
  unfold buildFromMediaInfo audioChannel
  by_cases hvideo : info.videoCodec = .none <;>
    by_cases haudio : info.audioCodec = .none <;>
    cases kind <;>
    simp [hvideo, haudio, setupChannels]

theorem newTracks_video :
    newTracks ssrc info .video =
      (newPacketizer info.videoCodec).map (⟨·, videoSession (ssrc .video), 0⟩) := by
  simp only [newTracks, setupChannels_build]
  split
  next hnone => rw [hnone]; rfl
  · cases newPacketizer info.videoCodec <;> rfl

theorem newTracks_audio :
    newTracks ssrc info .audio =
      (newPacketizer info.audioCodec).map
        (⟨·, audioSession (ssrc .audio) info, audioChannel info⟩) := by
  simp only [newTracks, setupChannels_build]
  split
  next hnone => rw [hnone]; rfl
  · cases newPacketizer info.audioCodec <;> rfl

theorem sectionOf_video (hvideo : info.videoCodec ≠ .none) :
    sectionOf info 0 = some (buildMediaDesc .video info.videoCodec 0 0 0) := by
  simp [sectionOf, buildFromMediaInfo, hvideo]

theorem sectionOf_audio (haudio : info.audioCodec ≠ .none) :
    ∃ i, sectionOf info (audioChannel info) =
      some (buildMediaDesc .audio info.audioCodec info.sampleRate info.channels i) := by
  unfold sectionOf buildFromMediaInfo audioChannel
  by_cases hvideo : info.videoCodec = .none
  · exact ⟨0, by simp [hvideo, haudio]⟩
  · exact ⟨1, by simp [hvideo, haudio]⟩

/-- No audio codec is announced with the payload type the packets carry. -/
theorem audio_payloadType_not_mem {rate channels : ℤ} {i : ℕ}
    (haudio : info.audioCodec.isAudio = true) :
    (97 : ℤ) ∉ (buildMediaDesc .audio info.audioCodec rate channels i).formats := by
  generalize info.audioCodec = codec at haudio
  revert haudio
  cases codec <;> simp [CodecType.isAudio, buildMediaDesc, codecRTPInfo]

/-- H.264 is the only video codec announced with the payload type the packets
carry. -/
theorem video_payloadType_not_mem (hvideo : info.videoCodec.isVideo = true)
    (hne : info.videoCodec ≠ .h264) :
    (96 : ℤ) ∉ (buildMediaDesc .video info.videoCodec 0 0 0).formats := by
  generalize info.videoCodec = codec at hvideo hne
  revert hvideo hne
  cases codec <;> simp [CodecType.isVideo, buildMediaDesc, codecRTPInfo]

end Sections

/-! ## Packets and their section -/

section Obeys

variable {ssrc : MediaType → UInt32} {frame : AVFrame} {x : Interleaved} {track : RtspTrack}

theorem OnlyH264.sentFor (hcodecs : SupportedCodecs info) (hcond : OnlyH264 info frames)
    (hframe : frame ∈ frames) (h : SentFor payloader (newTracks ssrc info) frame x track) :
    frame.mediaType = .video ∧ info.videoCodec = .h264 ∧
      track.session = videoSession (ssrc .video) ∧ track.channel = 0 := by
  have hserved := h.served
  cases hkind : frame.mediaType with
  | other =>
    rw [hkind] at hserved
    exact absurd hserved (by simp [newTracks])
  | audio =>
    rw [hkind, newTracks_audio, Option.map_eq_some_iff] at hserved
    obtain ⟨p, hp, rfl⟩ := hserved
    have hne : info.audioCodec ≠ .none := by
      intro hnone
      simp [hnone, newPacketizer] at hp
    have hh264 : info.audioCodec ≠ .h264 := by
      intro heq
      rcases hcodecs.audio with hnone | haudio
      · exact hne hnone
      · simp [heq, CodecType.isAudio] at haudio
    have hlength := (packetize_sends hh264 hp).mp h.sends
    rw [hcond.audio hne frame hframe h.media hkind] at hlength
    unfold minPayload at hlength
    split at hlength <;> simp at hlength
  | video =>
    rw [hkind, newTracks_video, Option.map_eq_some_iff] at hserved
    obtain ⟨p, hp, rfl⟩ := hserved
    refine ⟨rfl, ?_, rfl, rfl⟩
    by_contra hh264
    have hne : info.videoCodec ≠ .none := by
      intro hnone
      simp [hnone, newPacketizer] at hp
    have hlength := (packetize_sends hh264 hp).mp h.sends
    have hshort := hcond.video hne hh264 frame hframe h.media hkind
    omega

theorem obeysSDP_push (hcodecs : SupportedCodecs info) (hcond : OnlyH264 info frames)
    (hfits : ∀ frame ∈ frames, frame.isMedia = true → frame.mediaType = .video →
      FitsClock frame.dts 90000) (env : PushEnv) :
    ObeysSDP info (push payloader env info frames) := by
  -- every packet is one of H.264 video
  have hall : ∀ x ∈ push payloader env info frames, info.videoCodec = .h264 ∧ x.channel = 0 ∧
        x.packet.payloadType = 96 ∧ FitsClock x.dts 90000 ∧
        x.packet.timestamp = rtpTimestamp x.dts 90000 := by
    intro x hx
    unfold push at hx
    split at hx
    · obtain ⟨frame, hframe, track, hsent⟩ := sentFor_of_mem_pushFrames hx
      obtain ⟨hkind, hcodec, hsession, hchannel⟩ := hcond.sentFor hcodecs hframe hsent
      have hfit := hfits frame hframe hsent.media hkind
      refine ⟨hcodec, hsent.channel.trans hchannel, ?_, ?_, ?_⟩
      · rw [hsent.payloadType, hsession]
        rfl
      · rw [hsent.dts]
        exact hfit
      · rw [hsent.timestamp, hsession, hsent.dts]
        rfl
    · simp at hx
  intro x hx
  obtain ⟨hcodec, hchannel, hpt, hfit, hts⟩ := hall x hx
  refine ⟨buildMediaDesc .video .h264 0 0 0, ⟨96, "H264", 90000, none⟩, ?_, rfl, ?_, ?_⟩
  · rw [hchannel, sectionOf_video (by simp [hcodec]), hcodec]
  · rw [hpt]
    exact List.mem_singleton_self _
  · intro y hy _ hle
    obtain ⟨-, -, -, hfit', hts'⟩ := hall y hy
    rw [hts, hts']
    exact nearTicks_rtpTimestamp hfit hfit' hle

/-- A frame that gives packets shows which payload type its section lists. -/
theorem ObeysSDP.mem_formats {md : MediaDescription}
    (hobeys : ObeysSDP info (push payloader {} info frames))
    (hframe : frame ∈ frames) (hmedia : frame.isMedia = true)
    (hserved : newTracks (fun _ => 0) info frame.mediaType = some track)
    (hsends : ∃ pkts,
      track.packetizer.packetize payloader frame defaultMTU = .ok pkts ∧ pkts ≠ [])
    (hsection : sectionOf info track.channel = some md) :
    (track.session.payloadType.toNat : ℤ) ∈ md.formats := by
  obtain ⟨x, hx, track', hsent⟩ := exists_sentFor (i := 0) hframe hmedia hserved hsends
  obtain rfl := Option.mem_unique hserved hsent.served
  obtain ⟨md', map, hmd, -, hmem, -⟩ := hobeys x hx
  rw [hsent.channel, hsection] at hmd
  cases hmd
  rw [← hsent.payloadType]
  exact hmem

theorem onlyH264_of_obeysSDP (hcodecs : SupportedCodecs info)
    (hobeys : ObeysSDP info (push payloader {} info frames)) :
    OnlyH264 info frames := by
  constructor
  · intro hne frame hframe hmedia hkind
    by_contra hpayload
    have haudio := hcodecs.audio.resolve_left hne
    obtain ⟨p, hp⟩ : ∃ p, newPacketizer info.audioCodec = some p := by
      revert haudio
      cases info.audioCodec <;> simp [CodecType.isAudio, newPacketizer]
    have hother : ∀ codec, codec.isAudio = false → info.audioCodec ≠ codec := by
      rintro codec hnot rfl
      simp [haudio] at hnot
    have hmin : minPayload info.audioCodec ≤ frame.payload.length := by
      rw [minPayload, if_neg (hother .h265 rfl)]
      exact List.length_pos_of_ne_nil hpayload
    have hserved := @newTracks_audio info (fun _ => 0)
    rw [hp, ← hkind] at hserved
    obtain ⟨i, hsection⟩ := sectionOf_audio hne
    exact audio_payloadType_not_mem haudio (hobeys.mem_formats hframe hmedia hserved
        ((packetize_sends (hother .h264 rfl) hp).mpr hmin) hsection)
  · intro hne hh264 frame hframe hmedia hkind
    by_contra hpayload
    have hvideo := hcodecs.video.resolve_left hne
    obtain ⟨p, hp⟩ : ∃ p, newPacketizer info.videoCodec = some p := by
      revert hvideo
      cases info.videoCodec <;> simp [CodecType.isVideo, newPacketizer]
    have hserved := @newTracks_video info (fun _ => 0)
    rw [hp, ← hkind] at hserved
    exact video_payloadType_not_mem hvideo hh264 (hobeys.mem_formats hframe hmedia hserved
        ((packetize_sends hh264 hp).mpr (Nat.not_lt.mp hpayload))
        (sectionOf_video hne))

end Obeys

/-- Whatever the peer and the network do, the packets obey the SDP when no
audio frame gives packets and the video is H.264, or gives no packets either,
as long as the times of the video frames fit the 64-bit clock arithmetic; and
they do so in every run only then. -/
theorem push_obeysSDP_onlyH264 (payloader : H264Payload) (info : MediaInfo)
    (hcodecs : SupportedCodecs info) (frames : List AVFrame) :
    (OnlyH264 info frames →
      (∀ frame ∈ frames, frame.isMedia = true → frame.mediaType = .video →
        FitsClock frame.dts 90000) → ∀ env, ObeysSDP info (push payloader env info frames)) ∧
      ((∀ env, ObeysSDP info (push payloader env info frames)) → OnlyH264 info frames) :=
  ⟨fun hcond hfits env => obeysSDP_push hcodecs hcond hfits env,
    fun hobeys => onlyH264_of_obeysSDP hcodecs (hobeys {})⟩

/-- Two H.264 frames, 40 milliseconds apart. -/
theorem push_obeysSDP_h264_video :
    ObeysSDP { videoCodec := .h264 }
      (push (fun _ data => [data.drop 4]) {} { videoCodec := .h264 }
        [newAVFrame .video .h264 .keyframe 0 0 [0, 0, 0, 1, 0x65],
          newAVFrame .video .h264 .interframe 40 40 [0, 0, 0, 1, 0x41]]) := by
  refine (push_obeysSDP_onlyH264 (fun _ data => [data.drop 4])
    { videoCodec := .h264 } ⟨.inr rfl, .inl rfl⟩ _).1 ⟨?_, ?_⟩ ?_ {}
  · exact fun hne => absurd rfl hne
  · exact fun _ hne => absurd rfl hne
  · intro frame hframe _ _
    rcases List.mem_pair.mp hframe with rfl | rfl
    · exact ⟨by decide, by decide⟩
    · exact ⟨by decide, by decide⟩

/-- Opus is announced as payload type 111 and sent as 97. -/
theorem push_opus_disobeys :
    ¬ ObeysSDP { audioCodec := .opus, sampleRate := 48000 }
      (push (fun _ data => [data]) {} { audioCodec := .opus, sampleRate := 48000 }
        [newAVFrame .audio .opus .interframe 0 0 [0xFC]]) := by
  intro hobeys
  have hsection : sectionOf { audioCodec := .opus, sampleRate := 48000 } 0 =
      some ⟨.audio, [111], some ⟨111, "opus", 48000, none⟩, some 0⟩ := by
    decide
  obtain ⟨md, map, hmd, -, hmem, -⟩ := hobeys _ (List.mem_singleton_self _)
  obtain rfl := Option.mem_unique hsection hmd
  exact absurd hmem (by decide)

end LiveForge.Cluster
