import LiveForge.Rtsp.Publisher

/-!
# RTSP playback

`RTSPSubscriber.SendFrame` of `module/rtsp/subscriber.go`.  For most codecs the
packets come from a library packetizer, which stamps the packets of a call with
its current timestamp and then adds the number of samples it was given.  The
subscriber gives it the time since the previous frame of the track, so the
stamps are one frame late, and the audio samples are counted at 44100 Hz
whatever the clock of the track.  The other audio codecs are stamped by a
session from the frame's own time.

The library's payloaders, the initial numbers of the packetizers and the writes
are arguments.
-/

namespace LiveForge.Rtsp

open Support Rtp

/-! ## The library packetizer -/

structure PionPacketizer where
  payloadType : UInt8
  ssrc : UInt32
  sequenceNumber : UInt16
  timestamp : UInt32

variable {payloads : List Bytes}

namespace PionPacketizer

/-- One packet for each payload, all with the current timestamp. -/
def packets (p : PionPacketizer) : List Bytes → List Packet
  | [] => []
  | payload :: rest =>
    ⟨rest.isEmpty, p.payloadType, p.sequenceNumber, p.timestamp, p.ssrc, payload⟩ ::
      packets { p with sequenceNumber := p.sequenceNumber + 1 } rest

/-- The packets of a call, and the packetizer with the samples added. -/
def packetize (p : PionPacketizer) (payloads : List Bytes)
    (samples : UInt32) : List Packet × PionPacketizer :=
  (p.packets payloads,
    { p with
      sequenceNumber := p.sequenceNumber + UInt16.ofNat payloads.length
      timestamp := p.timestamp + samples })

theorem timestamp_of_mem_packets {p : PionPacketizer} {pkt : Packet}
    (hpkt : pkt ∈ p.packets payloads) :
    pkt.timestamp = p.timestamp := by
  induction payloads generalizing p with
  | nil => simp [packets] at hpkt
  | cons payload rest ih =>
    rcases List.mem_cons.mp hpkt with rfl | hrest
    · rfl
    · have h := ih hrest
      exact h

end PionPacketizer

def pionPayloaderForCodec : CodecType → Bool
  | .h264 | .vp8 | .vp9 | .opus | .g711u | .g711a | .g722 => true
  | _ => false

/-! ## The subscriber -/

structure RTSPSubscriber where
  videoPacketizer : Option PionPacketizer := none
  audioPacketizer : Option PionPacketizer := none
  customAudio : Option (Packetizer × Session) := none
  prevVideoDTS : ℤ := 0
  prevAudioDTS : ℤ := 0
  videoDTSInitialized : Bool := false
  audioDTSInitialized : Bool := false
  closed : Bool := false

/-- The random numbers a track begins with. -/
structure TrackSeed where
  ssrc : UInt32 := 0
  sequenceNumber : UInt16 := 0
  timestamp : UInt32 := 0

def newPionPacketizer (codec : CodecType) (seed : TrackSeed) : Option PionPacketizer :=
  if codec ≠ .none ∧ pionPayloaderForCodec codec then
    some ⟨codecDefaultPT codec, 0, seed.sequenceNumber, seed.timestamp⟩
  else none

/-- None when the audio codec has no packetizer at all. -/
def newRTSPSubscriber (info : MediaInfo) (video audio : TrackSeed) : Option RTSPSubscriber :=
  let sub : RTSPSubscriber :=
    { videoPacketizer := newPionPacketizer info.videoCodec video
      audioPacketizer := newPionPacketizer info.audioCodec audio }
  if info.audioCodec = .none ∨ pionPayloaderForCodec info.audioCodec then
    some sub
  else
    (newPacketizer info.audioCodec).map fun p =>
      { sub with customAudio := some (p, newSession audio.ssrc
          (codecDefaultPT info.audioCodec) (audioClockRate info)) }

/-! ## Sending a frame -/

/-- The payloads a library payloader makes in the call with this number, and
whether a packet is written. -/
structure PlayEnv where
  payload : ℕ → Bytes → List Bytes
  writes : ℕ → Packet → Bool := fun _ _ => true

def videoSamples (s : RTSPSubscriber) (frame : AVFrame) : UInt32 :=
  if frame.isMedia ∧ s.videoDTSInitialized ∧ s.prevVideoDTS < frame.dts then
    stamp ((frame.dts - s.prevVideoDTS) * 90)
  else 0

def audioSamples (s : RTSPSubscriber) (frame : AVFrame) : UInt32 :=
  if s.audioDTSInitialized ∧ s.prevAudioDTS < frame.dts then
    stamp (frame.dts - s.prevAudioDTS) * 44100 / 1000
  else 0

namespace RTSPSubscriber

/-- A sequence header is sent without a word to the clock. -/
def sendVideo (payload : Bytes → List Bytes) (s : RTSPSubscriber)
    (frame : AVFrame) : List Packet × RTSPSubscriber :=
  match s.videoPacketizer with
  | none => ([], s)
  | some packetizer =>
    let data := toAnnexB frame.payload (frame.frameType = .sequenceHeader)
    let (pkts, packetizer) :=
      packetizer.packetize (payload data) (videoSamples s frame)
    let s := { s with videoPacketizer := some packetizer }
    (pkts,
      if frame.isMedia then
        { s with prevVideoDTS := frame.dts, videoDTSInitialized := true }
      else s)

/-- Audio makes no difference between sequence headers and media. -/
def sendAudio (payloader : H264Payload) (payload : Bytes → List Bytes)
    (s : RTSPSubscriber) (frame : AVFrame) : List Packet × RTSPSubscriber :=
  match s.audioPacketizer with
  | some packetizer =>
    let (pkts, packetizer) :=
      packetizer.packetize (payload frame.payload) (audioSamples s frame)
    (pkts,
      { s with
        audioPacketizer := some packetizer
        prevAudioDTS := frame.dts
        audioDTSInitialized := true })
  | none =>
    match s.customAudio with
    | none => ([], s)
    | some (packetizer, session) =>
      match packetizer.packetize payloader frame defaultMTU with
      | .error _ => ([], s)
      | .ok pkts =>
        let (wrapped, session) := session.wrapPackets frame.dts pkts
        (wrapped, { s with customAudio := some (packetizer, session) })

def sendFrame (payloader : H264Payload) (payload : Bytes → List Bytes)
    (s : RTSPSubscriber) (frame : AVFrame) : List Packet × RTSPSubscriber :=
  if s.closed then ([], s)
  else
    match frame.mediaType with
    | .video => s.sendVideo payload frame
    | .audio => s.sendAudio payloader payload frame
    | .other => ([], s)

end RTSPSubscriber

/-- The calls from the `n`-th on, each with the packets that are written, up to
the first write that fails. -/
def sendFrames (payloader : H264Payload) (env : PlayEnv) (n : ℕ)
    (s : RTSPSubscriber) : List AVFrame → List (AVFrame × List Packet)
  | [] => []
  | frame :: rest =>
    let (pkts, s) := s.sendFrame payloader (env.payload n) frame
    (frame, pkts.takeWhile (env.writes n)) :: sendFrames payloader env (n + 1) s rest

/-! ## The clock of a track -/

def trackClockRate (info : MediaInfo) : MediaType → UInt32
  | .video => 90000
  | .audio => audioClockRate info
  | .other => 0

def isMediaOf (kind : MediaType) (frame : AVFrame) : Bool :=
  frame.mediaType = kind ∧ frame.isMedia

def mediaFrames (kind : MediaType) (frames : List AVFrame) : List AVFrame :=
  frames.filter (isMediaOf kind)

def mediaCalls (kind : MediaType) (calls : List (AVFrame × List Packet)) :
    List (AVFrame × List Packet) :=
  calls.filter fun c => isMediaOf kind c.1

/-- Between the first media frame of a track and the `k`-th the stamps advance
as the times do, up to one tick for each frame. -/
def OnClock (rate : UInt32) (kind : MediaType) (calls : List (AVFrame × List Packet)) : Prop :=
  ∀ k first later, (mediaCalls kind calls)[0]? = some first →
    (mediaCalls kind calls)[k]? = some later →
    ∀ p ∈ first.2, ∀ q ∈ later.2, NearTicks k ((later.1.dts - first.1.dts) * rate.toNat / 1000)
        (q.timestamp - p.timestamp)

/-! ## What a call does to the clocks -/

variable {frame : AVFrame}

namespace RTSPSubscriber

def trackStamp (s : RTSPSubscriber) : MediaType → Option UInt32
  | .video => s.videoPacketizer.map PionPacketizer.timestamp
  | .audio => s.audioPacketizer.map PionPacketizer.timestamp
  | .other => none

/-- The track has a previous frame to measure from. -/
def trackStarted (s : RTSPSubscriber) : MediaType → Bool
  | .video => s.videoDTSInitialized
  | .audio => s.audioDTSInitialized
  | .other => false

/-- The clock of the session of an audio track without library packetizer. -/
def customClock (s : RTSPSubscriber) : Option UInt32 :=
  s.customAudio.map fun custom => custom.2.clockRate

/-- What a call can do to the clocks of the tracks. -/
structure SendEffect (s s' : RTSPSubscriber) (frame : AVFrame) (pkts : List Packet) : Prop where
  stamped : ∀ q ∈ pkts, s.trackStamp frame.mediaType = some q.timestamp ∨
    frame.mediaType = .audio ∧ s.trackStamp .audio = none ∧ ∃ rate, s.customClock = some rate ∧
        q.timestamp = rtpTimestamp frame.dts rate
  custom : s'.customClock = s.customClock
  absent : ∀ kind, s.trackStamp kind = none → s'.trackStamp kind = none
  other : ∀ kind, kind ≠ frame.mediaType → s'.trackStamp kind = s.trackStamp kind ∧
      s'.trackStarted kind = s.trackStarted kind
  header : frame.mediaType = .video → frame.isMedia = false →
    s'.trackStamp .video = s.trackStamp .video ∧ s'.trackStarted .video = s.trackStarted .video
  first : s.trackStarted frame.mediaType = false →
    s'.trackStamp frame.mediaType = s.trackStamp frame.mediaType

theorem SendEffect.refl (s : RTSPSubscriber) (frame : AVFrame) : SendEffect s s frame [] :=
  ⟨by simp, rfl, fun _ => id, fun _ _ => ⟨rfl, rfl⟩, fun _ _ => ⟨rfl, rfl⟩, fun _ => rfl⟩

theorem SendEffect.of_packetize {s s' : RTSPSubscriber} {packetizer : PionPacketizer}
    {samples : UInt32} (hstamp : s.trackStamp frame.mediaType = some packetizer.timestamp)
    (hcustom : s'.customClock = s.customClock)
    (hother : ∀ kind, kind ≠ frame.mediaType →
      s'.trackStamp kind = s.trackStamp kind ∧ s'.trackStarted kind = s.trackStarted kind)
    (hadded : s'.trackStamp frame.mediaType = some (packetizer.timestamp + samples))
    (hheader : frame.mediaType = .video → frame.isMedia = false →
      samples = 0 ∧ s'.trackStarted .video = s.trackStarted .video)
    (hfirst : s.trackStarted frame.mediaType = false → samples = 0) :
    SendEffect s s' frame (packetizer.packets payloads) where
  stamped q hq := by
    rw [PionPacketizer.timestamp_of_mem_packets hq]
    exact .inl hstamp
  custom := hcustom
  absent kind hnone := by
    by_cases hkind : kind = frame.mediaType
    · rw [hkind, hstamp] at hnone
      simp at hnone
    · rw [(hother kind hkind).1, hnone]
  other := hother
  header hkind hmedia := by
    obtain ⟨hzero, hstarted⟩ := hheader hkind hmedia
    rw [hkind] at hstamp hadded
    rw [hadded, hstamp, hzero, UInt32.add_zero]
    exact ⟨rfl, hstarted⟩
  first hstarted := by
    rw [hadded, hstamp, hfirst hstarted, UInt32.add_zero]

theorem sendVideo_effect (payload : Bytes → List Bytes) (s : RTSPSubscriber)
    (hkind : frame.mediaType = .video) :
    SendEffect s (s.sendVideo payload frame).2 frame (s.sendVideo payload frame).1 := by
  unfold sendVideo
  split
  · exact .refl s frame
  next packetizer hpacketizer =>
    have hstamp : s.trackStamp .video = some packetizer.timestamp := by
      simp [trackStamp, hpacketizer]
    have hfirst : s.trackStarted frame.mediaType = false → videoSamples s frame = 0 := by
      intro hstarted
      rw [hkind] at hstarted
      simp [videoSamples, show s.videoDTSInitialized = false from hstarted]
    dsimp only [PionPacketizer.packetize]
    refine .of_packetize (hkind ▸ hstamp) (by split <;> rfl) ?_ (by rw [hkind]; split <;> rfl) ?_
      hfirst
    · intro kind hne
      rw [hkind] at hne
      split <;> cases kind <;> first | exact ⟨rfl, rfl⟩ | exact absurd rfl hne
    · intro _ hheader
      rw [if_neg (by simp [hheader])]
      exact ⟨by simp [videoSamples, hheader], rfl⟩

theorem sendAudio_effect (payloader : H264Payload)
    (payload : Bytes → List Bytes) (s : RTSPSubscriber) (hkind : frame.mediaType = .audio) :
    SendEffect s (s.sendAudio payloader payload frame).2 frame
      (s.sendAudio payloader payload frame).1 := by
  unfold sendAudio
  split
  next packetizer hpacketizer =>
    have hstamp : s.trackStamp .audio = some packetizer.timestamp := by
      simp [trackStamp, hpacketizer]
    refine .of_packetize (hkind ▸ hstamp) rfl ?_ (by rw [hkind]; rfl) ?_ ?_
    · intro kind hne
      rw [hkind] at hne
      cases kind <;> first | exact ⟨rfl, rfl⟩ | exact absurd rfl hne
    · intro hvideo
      simp [hkind] at hvideo
    · intro hstarted
      rw [hkind] at hstarted
      simp [audioSamples, show s.audioDTSInitialized = false from hstarted]
  next hnone =>
    split
    · exact .refl s frame
    next packetizer session hcustom =>
      split
      · exact .refl s frame
      next pkts hpkts =>
        obtain ⟨seqNum, hsession⟩ := session.wrapPackets_session frame.dts pkts
        constructor
        · intro q hq
          refine .inr ⟨hkind, by simp [trackStamp, hnone], session.clockRate,
            by simp [customClock, hcustom], ?_⟩
          exact (Session.wrapPackets_spec hq).2
        · simp [customClock, hcustom, hsession]
        · exact fun _ => id
        · exact fun _ _ => ⟨rfl, rfl⟩
        · exact fun _ _ => ⟨rfl, rfl⟩
        · exact fun _ => rfl

theorem sendFrame_effect (payloader : H264Payload)
    (payload : Bytes → List Bytes) (s : RTSPSubscriber) (frame : AVFrame) :
    SendEffect s (s.sendFrame payloader payload frame).2 frame
      (s.sendFrame payloader payload frame).1 := by
  unfold sendFrame
  split
  · exact .refl s frame
  · split
    next hkind => exact sendVideo_effect payload s hkind
    next hkind => exact sendAudio_effect payloader payload s hkind
    · exact .refl s frame

end RTSPSubscriber

/-! ## What a run does to the clocks -/

variable {calls : List (AVFrame × List Packet)} {c : AVFrame × List Packet}

section Run

variable {payloader : H264Payload} {env : PlayEnv} {n : ℕ} {s : RTSPSubscriber}
  {frames : List AVFrame} {kind : MediaType} {stamp : UInt32}

theorem sendFrames_fst : (sendFrames payloader env n s frames).map Prod.fst = frames := by
  induction frames generalizing n s with
  | nil => rfl
  | cons frame rest ih =>
    rw [sendFrames, List.map_cons, ih]

theorem mediaCalls_fst :
    (mediaCalls kind (sendFrames payloader env n s frames)).map Prod.fst =
      mediaFrames kind frames := by
  conv_rhs =>
    rw [mediaFrames, ← @sendFrames_fst payloader env n s frames, List.filter_map]
  rfl

/-- Between two media frames of a track its clock stands, when its sequence
headers do not move it. -/
theorem unmoved_of_not_media {s' : RTSPSubscriber} {pkts : List Packet}
    (heffect : s.SendEffect s' frame pkts)
    (hheaders : kind = .audio → frame.mediaType = .audio → frame.isMedia = true)
    (hmedia : ¬ isMediaOf kind frame = true) :
    s'.trackStamp kind = s.trackStamp kind ∧ s'.trackStarted kind = s.trackStarted kind := by
  by_cases hkind : kind = frame.mediaType
  · have hheader : frame.isMedia = false := by
      simpa [isMediaOf, hkind] using hmedia
    cases hcase : kind with
    | video => exact heffect.header (hkind ▸ hcase) hheader
    | audio =>
      have hboth := hheaders hcase (hkind ▸ hcase)
      simp [hheader] at hboth
    | other => exact ⟨rfl, rfl⟩
  · exact heffect.other kind hkind

/-- Whatever a track has sent before, its next media frame is stamped with the
current timestamp; if it is the first, it adds nothing to it. -/
theorem next_media_stamp (hstamp : s.trackStamp kind = some stamp)
    (hheaders : kind = .audio → ∀ frame ∈ frames, frame.mediaType = .audio → frame.isMedia = true)
    (hnext : mediaCalls kind (sendFrames payloader env n s frames) = c :: calls) :
    (∀ q ∈ c.2, q.timestamp = stamp) ∧ ∃ n s' rest, rest ⊆ frames ∧
      mediaCalls kind (sendFrames payloader env n s' rest) = calls ∧
      (s.trackStarted kind = false → s'.trackStamp kind = some stamp) := by
  induction frames generalizing n s with
  | nil => simp [sendFrames, mediaCalls] at hnext
  | cons frame rest ih =>
    have heffect := s.sendFrame_effect payloader (env.payload n) frame
    simp only [sendFrames, mediaCalls, List.filter_cons] at hnext
    by_cases hmedia : isMediaOf kind frame = true
    · rw [if_pos hmedia] at hnext
      cases hnext
      have hkind := (of_decide_eq_true hmedia).1
      refine ⟨fun q hq => ?_, _, _, rest, List.subset_cons_self _ _, rfl, fun hstarted => ?_⟩
      · rcases heffect.stamped q (List.takeWhile_subset _ hq) with hsame | ⟨haudio, hnone, -⟩
        · rw [hkind, hstamp] at hsame
          exact (Option.some.inj hsame).symm
        · rw [← hkind, haudio, hnone] at hstamp
          simp at hstamp
      · have hafter := heffect.first (hkind ▸ hstarted)
        rwa [hkind, hstamp] at hafter
    · rw [if_neg hmedia] at hnext
      obtain ⟨hsame, hstarts⟩ := unmoved_of_not_media heffect
        (fun haudio => hheaders haudio frame List.mem_cons_self) hmedia
      obtain ⟨hfirst, n', s', later, hsub, hlater, hafter⟩ := ih (hsame.trans hstamp)
        (fun haudio f hf => hheaders haudio f (List.mem_cons_of_mem _ hf)) hnext
      exact ⟨hfirst, n', s', later, List.subset_cons_of_subset _ hsub, hlater,
        fun hstarted => hafter (hstarts.trans hstarted)⟩

/-- The first frame of a track adds nothing, so the second has its stamp. -/
theorem first_media_stamps {c' : AVFrame × List Packet} (hstamp : s.trackStamp kind = some stamp)
    (hstarted : s.trackStarted kind = false)
    (hheaders : kind = .audio → ∀ frame ∈ frames, frame.mediaType = .audio → frame.isMedia = true)
    (hnext : mediaCalls kind (sendFrames payloader env n s frames) = c :: c' :: calls) :
    (∀ p ∈ c.2, p.timestamp = stamp) ∧ ∀ q ∈ c'.2, q.timestamp = stamp := by
  obtain ⟨hfirst, n', s', rest, hsub, hlater, hafter⟩ := next_media_stamp hstamp hheaders hnext
  exact ⟨hfirst, (next_media_stamp (hafter hstarted)
    (fun haudio f hf => hheaders haudio f (hsub hf)) hlater).1⟩

theorem stamp_eq_of_mem_sendFrames (hc : c ∈ sendFrames payloader env n s frames) :
    ∀ p ∈ c.2, ∀ q ∈ c.2, p.timestamp = q.timestamp := by
  induction frames generalizing n s with
  | nil => simp [sendFrames] at hc
  | cons frame rest ih =>
    have heffect := s.sendFrame_effect payloader (env.payload n) frame
    rcases List.mem_cons.mp hc with rfl | hrest
    · intro p hp q hq
      rcases heffect.stamped p (List.takeWhile_subset _ hp) with
        hsame | ⟨haudio, hnone, rate, hrate, hstamp⟩
      · rcases heffect.stamped q (List.takeWhile_subset _ hq) with hsame' | ⟨haudio, hnone, -⟩
        · exact Option.mem_unique hsame hsame'
        · rw [haudio, hnone] at hsame
          simp at hsame
      · rcases heffect.stamped q (List.takeWhile_subset _ hq) with
          hsame' | ⟨-, -, rate', hrate', hstamp'⟩
        · rw [haudio, hnone] at hsame'
          simp at hsame'
        · obtain rfl := Option.mem_unique hrate hrate'
          rw [hstamp, hstamp']
    · exact ih hrest

/-- A track without library packetizer is stamped by its session, or silent. -/
theorem custom_stamp (hnone : s.trackStamp kind = none)
    (hc : c ∈ sendFrames payloader env n s frames) (hkind : c.1.mediaType = kind) :
    ∀ q ∈ c.2, kind = .audio ∧ ∃ rate, s.customClock = some rate ∧
      q.timestamp = rtpTimestamp c.1.dts rate := by
  induction frames generalizing n s with
  | nil => simp [sendFrames] at hc
  | cons frame rest ih =>
    have heffect := s.sendFrame_effect payloader (env.payload n) frame
    rcases List.mem_cons.mp hc with rfl | hrest
    · intro q hq
      rcases heffect.stamped q (List.takeWhile_subset _ hq) with hsame | ⟨haudio, -, hcustom⟩
      · rw [show frame.mediaType = kind from hkind, hnone] at hsame
        simp at hsame
      · exact ⟨hkind ▸ haudio, hcustom⟩
    · rw [← heffect.custom]
      exact ih (heffect.absent kind hnone) hrest

end Run

/-! ## Playback and the announced clock -/

def trackCodec (info : MediaInfo) : MediaType → CodecType
  | .video => info.videoCodec
  | .audio => info.audioCodec
  | .other => .none

/-- A track stamped by the library carries one media frame at most. -/
def SingleFrames (info : MediaInfo) (frames : List AVFrame) : Prop :=
  ∀ kind, pionPayloaderForCodec (trackCodec info kind) = true → (mediaFrames kind frames).length ≤ 1

/-- The times of an audio track stamped by a session fit its 64-bit clock
arithmetic. -/
def AudioFits (info : MediaInfo) (frames : List AVFrame) : Prop :=
  pionPayloaderForCodec info.audioCodec = false → ∀ frame ∈ mediaFrames .audio frames,
      FitsClock frame.dts (audioClockRate info)

/-- The media frames of the tracks stamped by the library are all sent, their
audio has no sequence headers, and the second follows the first by less than a
turn of the clock. -/
structure Responds (info : MediaInfo) (frames : List AVFrame)
    (calls : List (AVFrame × List Packet)) (kind : MediaType) : Prop where
  headers : kind = .audio → ∀ frame ∈ frames, frame.mediaType = .audio → frame.isMedia = true
  sent : ∀ c ∈ mediaCalls kind calls, c.2 ≠ []
  interval : ∀ a b, (mediaFrames kind frames)[0]? = some a →
    (mediaFrames kind frames)[1]? = some b →
    (b.dts - a.dts) * ((trackClockRate info kind).toNat : ℤ) / 1000 + 1 < 2 ^ 32

section Playback

variable {info : MediaInfo} {video audio : TrackSeed} {sub : RTSPSubscriber}
  {payloader : H264Payload} {env : PlayEnv} {frames : List AVFrame} {kind : MediaType}

structure NewClocks (info : MediaInfo) (sub : RTSPSubscriber) : Prop where
  stamp : ∀ kind, pionPayloaderForCodec (trackCodec info kind) = (sub.trackStamp kind).isSome
  started : ∀ kind, sub.trackStarted kind = false
  custom : ∀ rate, sub.customClock = some rate → rate = audioClockRate info

theorem newPionPacketizer_isSome (codec : CodecType) (seed : TrackSeed) :
    (newPionPacketizer codec seed).isSome = pionPayloaderForCodec codec := by
  cases codec <;> rfl

theorem newClocks_newRTSPSubscriber (hnew : newRTSPSubscriber info video audio = some sub) :
    NewClocks info sub := by
  have hclocks : ∀ custom : Option (Packetizer × Session),
      (∀ c ∈ custom, c.2.clockRate = audioClockRate info) → NewClocks info
        { videoPacketizer := newPionPacketizer info.videoCodec video
          audioPacketizer := newPionPacketizer info.audioCodec audio
          customAudio := custom } := by
    intro custom hcustom
    refine ⟨fun kind => ?_, fun kind => by cases kind <;> rfl, fun rate hrate => ?_⟩
    · cases kind with
      | video | audio =>
        simp [trackCodec, RTSPSubscriber.trackStamp, newPionPacketizer_isSome]
      | other => rfl
    · obtain ⟨c, hc, rfl⟩ := Option.map_eq_some_iff.mp hrate
      exact hcustom c hc
  unfold newRTSPSubscriber at hnew
  split at hnew
  · cases hnew
    exact hclocks none (by simp)
  · obtain ⟨p, -, rfl⟩ := Option.map_eq_some_iff.mp hnew
    exact hclocks _ (by simp [newSession])

theorem mem_of_mediaCalls {k : ℕ} (hc : (mediaCalls kind calls)[k]? = some c) :
    c ∈ calls ∧ c.1.mediaType = kind := by
  obtain ⟨hmem, hmedia⟩ := List.mem_filter.mp (List.mem_of_getElem? hc)
  simp only [isMediaOf, decide_eq_true_eq] at hmedia
  exact ⟨hmem, hmedia.1⟩

/-- The packets of a media frame are one tick apart from themselves at most. -/
theorem nearTicks_same_call {rate : ℤ} {p q : Packet}
    (hc : c ∈ sendFrames payloader env 0 sub frames) (hp : p ∈ c.2) (hq : q ∈ c.2) :
    NearTicks 0 ((c.1.dts - c.1.dts) * rate / 1000) (q.timestamp - p.timestamp) := by
  rw [stamp_eq_of_mem_sendFrames hc p hp q hq, UInt32.sub_self, Int.sub_self, Int.zero_mul]
  exact ⟨0, by omega, by omega, rfl⟩

/-- A track stamped by the library keeps to its clock while it has one frame
only. -/
theorem onClock_of_single {rate : UInt32} (hsingle : (mediaFrames kind frames).length ≤ 1) :
    OnClock rate kind (sendFrames payloader env 0 sub frames) := by
  intro k first later hfirst hlater p hp q hq
  have hlength := congrArg List.length (@mediaCalls_fst payloader env 0 sub frames kind)
  rw [List.length_map] at hlength
  obtain ⟨hk, -⟩ := List.getElem?_eq_some_iff.mp hlater
  obtain rfl : k = 0 := by omega
  obtain rfl := Option.mem_unique hfirst hlater
  exact nearTicks_same_call (mem_of_mediaCalls hfirst).1 hp hq

theorem onClock_custom (hclocks : NewClocks info sub)
    (hinc : (mediaFrames .audio frames).Pairwise fun a b => a.dts < b.dts)
    (hfits : ∀ frame ∈ mediaFrames .audio frames,
      FitsClock frame.dts (audioClockRate info)) (hnone : sub.trackStamp .audio = none) :
    OnClock (audioClockRate info) .audio (sendFrames payloader env 0 sub frames) := by
  intro k first later hfirst hlater p hp q hq
  rw [← @mediaCalls_fst payloader env 0 sub frames] at hinc hfits
  have hstamp : ∀ {i : ℕ} {c : AVFrame × List Packet} {r : Packet},
      (mediaCalls .audio (sendFrames payloader env 0 sub frames))[i]? = some c → r ∈ c.2 →
      FitsClock c.1.dts (audioClockRate info) ∧
        r.timestamp = rtpTimestamp c.1.dts (audioClockRate info) := by
    intro i c r hc hr
    obtain ⟨hmem, hkind⟩ := mem_of_mediaCalls hc
    obtain ⟨-, rate, hrate, hts⟩ := custom_stamp hnone hmem hkind r hr
    rw [hclocks.custom rate hrate] at hts
    exact ⟨hfits _ (List.mem_map_of_mem (List.mem_of_getElem? hc)), hts⟩
  obtain ⟨hfit, hts⟩ := hstamp hfirst hp
  obtain ⟨hfit', hts'⟩ := hstamp hlater hq
  rcases Nat.eq_zero_or_pos k with rfl | hpos
  · obtain rfl := Option.mem_unique hfirst hlater
    exact nearTicks_same_call (mem_of_mediaCalls hfirst).1 hp hq
  · obtain ⟨h0, rfl⟩ := List.getElem?_eq_some_iff.mp hfirst
    obtain ⟨hk, rfl⟩ := List.getElem?_eq_some_iff.mp hlater
    have hlt := List.pairwise_iff_getElem.mp (List.pairwise_map.mp hinc) 0 k h0 hk hpos
    rw [hts, hts']
    exact (nearTicks_rtpTimestamp hfit hfit' hlt.le).mono hpos

theorem two_thousand_le_trackClockRate
    (hpion : pionPayloaderForCodec (trackCodec info kind) = true) :
    2000 ≤ (trackClockRate info kind).toNat := by
  cases kind with
  | video => simp [trackClockRate]
  | audio =>
    simp only [trackCodec, trackClockRate, audioClockRate] at hpion ⊢
    revert hpion
    cases info.audioCodec <;> simp [pionPayloaderForCodec]
  | other => simp [trackCodec, pionPayloaderForCodec] at hpion

/-- A track stamped by the library loses its clock with its second frame. -/
theorem single_of_onClock (hclocks : NewClocks info sub)
    (hinc : (mediaFrames kind frames).Pairwise fun a b => a.dts < b.dts)
    (hpion : pionPayloaderForCodec (trackCodec info kind) = true)
    (hresponds : Responds info frames (sendFrames payloader env 0 sub frames) kind)
    (hon : OnClock (trackClockRate info kind) kind (sendFrames payloader env 0 sub frames)) :
    (mediaFrames kind frames).length ≤ 1 := by
  have hinterval := hresponds.interval
  have hsent := hresponds.sent
  obtain ⟨stamp, hstamp⟩ := Option.isSome_iff_exists.mp ((hclocks.stamp kind).symm.trans hpion)
  rw [← @mediaCalls_fst payloader env 0 sub frames, List.length_map]
  rw [← @mediaCalls_fst payloader env 0 sub frames] at hinc hinterval
  by_contra hmany
  rcases hcalls : mediaCalls kind (sendFrames payloader env 0 sub frames) with
    _ | ⟨first, _ | ⟨second, later⟩⟩
  · simp [hcalls] at hmany
  · simp [hcalls] at hmany
  unfold OnClock at hon
  rw [hcalls] at hinc hinterval hsent hon
  -- both frames carry the timestamp the track began with
  obtain ⟨p, hp⟩ := List.exists_mem_of_ne_nil _ (hsent first (by simp))
  obtain ⟨q, hq⟩ := List.exists_mem_of_ne_nil _ (hsent second (by simp))
  obtain ⟨hfirst, hsecond⟩ :=
    first_media_stamps hstamp (hclocks.started kind) hresponds.headers hcalls
  have hnear := hon 1 first second rfl rfl p hp q hq
  rw [hfirst p hp, hsecond q hq, UInt32.sub_self] at hnear
  -- but they are more than one tick and less than a turn apart
  have hlt : first.1.dts < second.1.dts := List.rel_of_pairwise_cons hinc List.mem_cons_self
  have hturn := hinterval first.1 second.1 rfl rfl
  have hrate := two_thousand_le_trackClockRate hpion
  have hticks : 1 * 2000 ≤ (second.1.dts - first.1.dts) * ((trackClockRate info kind).toNat : ℤ) :=
    Int.mul_le_mul (by omega) (by omega) (by omega) (by omega)
  have htwo : 2 ≤ (second.1.dts - first.1.dts) *
      ((trackClockRate info kind).toNat : ℤ) / 1000 := by omega
  exact not_nearTicks_zero (Int.lt_of_lt_of_le (by decide) htwo) hturn hnear

end Playback

/-- Playback keeps to the announced clocks while every track stamped by the
library has one media frame only; the tracks stamped by a session keep to
theirs.  As soon as a library track sends its second frame it leaves its
clock. -/
theorem playback_onClock_single (payloader : H264Payload) (info : MediaInfo)
    (video audio : TrackSeed) (sub : RTSPSubscriber)
    (hnew : newRTSPSubscriber info video audio = some sub) (frames : List AVFrame)
    (hinc : ∀ kind, (mediaFrames kind frames).Pairwise fun a b => a.dts < b.dts) (env : PlayEnv) :
    (SingleFrames info frames → AudioFits info frames →
      ∀ kind, OnClock (trackClockRate info kind) kind (sendFrames payloader env 0 sub frames)) ∧
    ((∀ kind, pionPayloaderForCodec (trackCodec info kind) = true →
        Responds info frames (sendFrames payloader env 0 sub frames) kind) →
      (∀ kind, OnClock (trackClockRate info kind) kind
        (sendFrames payloader env 0 sub frames)) → SingleFrames info frames) := by
  have hclocks := newClocks_newRTSPSubscriber hnew
  constructor
  · intro hsingle hfits kind
    cases hpion : pionPayloaderForCodec (trackCodec info kind) with
    | true => exact onClock_of_single (hsingle kind hpion)
    | false =>
      have hnone : sub.trackStamp kind = none := by
        have hstamp := hclocks.stamp kind
        rw [hpion] at hstamp
        exact Option.not_isSome_iff_eq_none.mp (by rw [← hstamp]; exact Bool.false_ne_true)
      by_cases hkind : kind = .audio
      · subst hkind
        exact onClock_custom hclocks (hinc .audio) (hfits hpion) hnone
      · intro k first later hfirst hlater p hp
        obtain ⟨hmem, hmedia⟩ := mem_of_mediaCalls hfirst
        exact absurd (custom_stamp hnone hmem hmedia p hp).1 hkind
  · intro hresponds hon kind hpion
    exact single_of_onClock hclocks (hinc kind) hpion (hresponds kind hpion) (hon kind)

theorem playback_onClock_aac :
    ∃ sub, newRTSPSubscriber { audioCodec := .aac, sampleRate := 48000 } {} {} = some sub ∧
      OnClock 48000 .audio
        (sendFrames (fun _ data => [data]) ⟨fun _ data => [data], fun _ _ => true⟩
          0 sub [newAVFrame .audio .aac .interframe 0 0 [1],
            newAVFrame .audio .aac .interframe 21 21 [2],
            newAVFrame .audio .aac .interframe 43 43 [3]]) := by
  refine ⟨_, rfl, ?_⟩
  have hfits : ∀ dts ∈ [(0 : ℤ), 21, 43], FitsClock dts 48000 := by
    unfold FitsClock
    decide
  refine (playback_onClock_single (fun _ data => [data])
    { audioCodec := .aac, sampleRate := 48000 } {} {} _ rfl _ ?_ _).1 ?_ ?_
    .audio
  · intro kind
    cases kind <;> simp [mediaFrames, isMediaOf, newAVFrame, AVFrame.isMedia]
  · intro kind hpion
    cases kind <;> simp [trackCodec, pionPayloaderForCodec] at hpion
  · intro _ frame hframe
    exact hfits frame.dts (List.mem_map_of_mem (f := AVFrame.dts) (List.mem_filter.mp hframe).1)

/-- Two H.264 frames 40 milliseconds apart are sent with one timestamp. -/
theorem playback_h264_stands :
    ∃ sub, newRTSPSubscriber { videoCodec := .h264 } {} {} = some sub ∧
      ¬ OnClock 90000 .video
        (sendFrames (fun _ data => [data]) ⟨fun _ _ => [[0x65]], fun _ _ => true⟩
          0 sub [newAVFrame .video .h264 .keyframe 0 0 [0, 0, 0, 1, 0x65],
            newAVFrame .video .h264 .interframe 40 40 [0, 0, 0, 1, 0x65]]) := by
  refine ⟨_, rfl, fun hon => ?_⟩
  have hnear := hon 1 _ _ rfl rfl _ (List.mem_singleton_self _) _ (List.mem_singleton_self _)
  exact not_nearTicks_zero (by decide) (by decide) hnear

end LiveForge.Rtsp
