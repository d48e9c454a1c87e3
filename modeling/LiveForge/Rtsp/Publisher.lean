import LiveForge.Rtp.Audio

/-!
# RTSP ingest

`RTSPPublisher.FeedRTP` of `module/rtsp/publisher.go`.  Every payload type is a
track with a depacketizer of its own; video goes through an access unit
assembler.  The packet that completes the first frame of a track gives the
track's base timestamp, and the DTS of every frame is the unsigned 32-bit
distance of its packet's timestamp from that base, in milliseconds.

What other goroutines do during a call is an argument: whether the publisher is
closed meanwhile, whether it still owns the stream, and what the stream answers
to each write.
-/

namespace LiveForge.Rtsp

open Support Rtp

/-! ## Payload types and clocks -/

def codecDefaultPT : CodecType → UInt8
  | .h264 => 96
  | .h265 => 97
  | .vp8 => 98
  | .vp9 => 99
  | .av1 => 100
  | .aac => 101
  | .opus => 111
  | .mp3 => 14
  | .g711u => 0
  | .g711a => 8
  | .g722 => 9
  | .g729 => 18
  | .speex => 102
  | .none | .other => 96

def audioClockRate (info : MediaInfo) : UInt32 :=
  match info.audioCodec with
  | .opus => 48000
  | .g711u | .g711a | .g722 | .g729 | .speex => 8000
  | .mp3 => 90000
  | .aac => if 0 < info.sampleRate then stamp info.sampleRate else 44100
  | _ => 44100

/-! ## The publisher -/

structure RTSPPublisher where
  mediaInfo : MediaInfo
  depacketizers : UInt8 → Option TrackDepacketizer := fun _ => none
  codecs : UInt8 → CodecType := fun _ => .none
  assemblers : UInt8 → Option AccessUnitAssembler := fun _ => none
  closed : Bool := false
  frameCount : ℕ := 0
  tsBases : UInt8 → Option UInt32 := fun _ => none
  receivedPkts : UInt32 := 0
  highestSeq : UInt32 := 0

namespace RTSPPublisher

def register (p : RTSPPublisher) (entry : UInt8 × CodecType) : Option RTSPPublisher :=
  (newTrackDepacketizer entry.2).map fun dp =>
    { p with
      depacketizers := Function.update p.depacketizers entry.1 (some dp)
      codecs := Function.update p.codecs entry.1 entry.2 }

end RTSPPublisher

/-- The tracks of a publisher whose SDP names no payload types. -/
def defaultPTs (info : MediaInfo) : List (UInt8 × CodecType) :=
  ([info.videoCodec, info.audioCodec].filter (· ≠ .none)).map fun codec =>
    (codecDefaultPT codec, codec)

/-- None when a codec has no depacketizer. -/
def newRTSPPublisher (info : MediaInfo) (ptMap : List (UInt8 × CodecType)) :
    Option RTSPPublisher :=
  (if ptMap ≠ [] then ptMap else defaultPTs info).foldlM
    RTSPPublisher.register { mediaInfo := info }

/-! ## Feeding a packet -/

/-- What the stream answers to a write: the frame is taken, refused to the
owner of the stream, or refused to one that owns it no longer. -/
inductive WriteOutcome where
  | written
  | refused
  | lost
  deriving DecidableEq

/-- What happens elsewhere during a call; the answers are those to the frames of
the call in turn. -/
structure FeedEnv where
  closes : Bool := false
  owns : Bool := true
  write : ℕ → WriteOutcome := fun _ => .written

inductive FeedResult where
  | ok
  | closed
  | notOwner
  /-- The clock rate is zero, where the source divides by it. -/
  | panicked
  deriving DecidableEq

/-- A frame with its timestamps set, and what became of it. -/
structure Handed where
  frame : AVFrame
  outcome : WriteOutcome

def frameClockRate (info : MediaInfo) (frame : AVFrame) : UInt32 :=
  if frame.mediaType.isAudio then
    audioClockRate { info with audioCodec := frame.codec }
  else 90000

namespace RTSPPublisher

def videoDepacketizer : TrackDepacketizer → Option Depacketizer
  | .video dp => some dp
  | .audio _ => none

/-- The frames the packet completes; none for a damaged unit or packet. -/
def completed (unmarshal : VP8Unmarshal) (p : RTSPPublisher) (dp : TrackDepacketizer)
    (pkt : Packet) : Option (List AVFrame) × RTSPPublisher :=
  let codec := p.codecs pkt.payloadType
  if codec.isVideo then
    let assembler := (p.assemblers pkt.payloadType).getD
      (newAccessUnitAssembler codec (videoDepacketizer dp))
    let (assembler, result) := assembler.push unmarshal (some pkt)
    (if result.err = none then some result.frames else none,
      { p with assemblers :=
          Function.update p.assemblers pkt.payloadType (some assembler) })
  else ((dp.depacketizeFrames unmarshal pkt).1.toOption, p)

/-- The base timestamp a packet's frames are measured from. -/
def baseFor (p : RTSPPublisher) (pkt : Packet) : UInt32 :=
  (p.tsBases pkt.payloadType).getD pkt.timestamp

def setBase (p : RTSPPublisher) (pkt : Packet) : RTSPPublisher :=
  { p with
    tsBases := Function.update p.tsBases pkt.payloadType (some (p.baseFor pkt)) }

/-- Stamp the frames and hand them to the stream, from the `i`-th on. -/
def writeFrames (p : RTSPPublisher) (pkt : Packet) (env : FeedEnv) (i : ℕ) :
    List AVFrame → FeedResult × RTSPPublisher × List Handed
  | [] => (.ok, p, [])
  | frame :: rest =>
    let base := p.baseFor pkt
    let p := p.setBase pkt
    let clockRate := frameClockRate p.mediaInfo frame
    if clockRate = 0 then (.panicked, p, [])
    else
      let dts := ticksToMs (unsignedTicks (pkt.timestamp - base))
        clockRate.toNat
      let handed : Handed := ⟨{ frame with dts, pts := dts }, env.write i⟩
      let p := { p with frameCount := p.frameCount + 1 }
      if env.write i = .lost then (.notOwner, p, [handed])
      else
        let (result, p, more) := p.writeFrames pkt env (i + 1) rest
        (result, p, handed :: more)

def countPacket (p : RTSPPublisher) (pkt : Packet) : RTSPPublisher :=
  { p with
    receivedPkts := p.receivedPkts + 1
    highestSeq := max p.highestSeq pkt.sequenceNumber.toUInt32 }

def feedRTP (unmarshal : VP8Unmarshal) (p : RTSPPublisher) (pkt : Packet)
    (env : FeedEnv) : FeedResult × RTSPPublisher × List Handed :=
  if p.closed then (.closed, p, [])
  else
    let p := p.countPacket pkt
    match p.depacketizers pkt.payloadType with
    | none => (.ok, p, [])
    | some dp =>
      let (frames, p) := p.completed unmarshal dp pkt
      if env.closes then (.closed, { p with closed := true }, [])
      else if ¬ env.owns then (.notOwner, p, [])
      else
        match frames with
        | none => (.ok, p, [])
        | some frames => p.writeFrames pkt env 0 frames

end RTSPPublisher

/-! ## A session of packets -/

/-- A packet at the instant `time` of its track's media timeline. -/
structure Arrival where
  time : ℤ
  packet : Packet
  env : FeedEnv := {}

/-- The packet as it arrives, stamped with the low bits of its instant. -/
def Arrival.pkt (a : Arrival) : Packet :=
  { a.packet with timestamp := stamp a.time }

def callFrames (pt : UInt8) (a : Arrival) (handed : List Handed) : List (ℤ × AVFrame) :=
  if a.packet.payloadType = pt then handed.map fun h => (a.time, h.frame)
  else []

/-- The frames of one track in a session, each with the instant of the packet
that completed it.  The tracks share the session; a panic ends it. -/
def trackFrames (unmarshal : VP8Unmarshal) (pt : UInt8) :
    RTSPPublisher → List Arrival → List (ℤ × AVFrame)
  | _, [] => []
  | p, a :: rest =>
    let r := p.feedRTP unmarshal a.pkt a.env
    callFrames pt a r.2.2 ++
      if r.1 = .panicked then [] else trackFrames unmarshal pt r.2.1 rest

/-! ## What one call does to the tracks -/

/-- What a call may do: it stamps frames against the base of the packet's track
and sets that base when there was none.  Only a panic sets a base without
handing over a frame. -/
structure FeedEffect (p : RTSPPublisher) (pkt : Packet) (result : FeedResult)
    (p' : RTSPPublisher) (handed : List Handed) : Prop where
  mediaInfo : p'.mediaInfo = p.mediaInfo
  others : ∀ pt, pt ≠ pkt.payloadType → p'.tsBases pt = p.tsBases pt
  rate_pos : ∀ h ∈ handed, 0 < (frameClockRate p.mediaInfo h.frame).toNat
  dts : ∀ h ∈ handed, h.frame.dts = ticksToMs (unsignedTicks (pkt.timestamp - p.baseFor pkt))
      (frameClockRate p.mediaInfo h.frame).toNat
  base : p'.tsBases pkt.payloadType = some (p.baseFor pkt) ∨
    p'.tsBases pkt.payloadType = p.tsBases pkt.payloadType ∧ handed = []
  quiet : result ≠ .panicked → handed = [] → p'.tsBases pkt.payloadType = p.tsBases pkt.payloadType

variable {unmarshal : VP8Unmarshal} {handed : List Handed} {result : FeedResult}

section Calls

variable {p p' : RTSPPublisher} {pkt : Packet} {env : FeedEnv}

theorem FeedEffect.idle (hinfo : p'.mediaInfo = p.mediaInfo) (hbases : p'.tsBases = p.tsBases) :
    FeedEffect p pkt result p' [] where
  mediaInfo := hinfo
  others pt _ := by rw [hbases]
  rate_pos := by simp
  dts := by simp
  base := .inr ⟨by rw [hbases], rfl⟩
  quiet _ _ := by rw [hbases]

theorem FeedEffect.of_eq {q : RTSPPublisher} (heffect : FeedEffect q pkt result p' handed)
    (hinfo : q.mediaInfo = p.mediaInfo) (hbases : q.tsBases = p.tsBases) :
    FeedEffect p pkt result p' handed := by
  have hbase : q.baseFor pkt = p.baseFor pkt := by
    rw [RTSPPublisher.baseFor, RTSPPublisher.baseFor, hbases]
  obtain ⟨hmedia, hothers, hrate, hdts, hset, hquiet⟩ := heffect
  rw [hinfo] at hmedia hrate hdts
  rw [hbases] at hothers hset hquiet
  rw [hbase] at hdts hset
  exact ⟨hmedia, hothers, hrate, hdts, hset, hquiet⟩

open RTSPPublisher

theorem baseFor_setBase : (p.setBase pkt).baseFor pkt = p.baseFor pkt := by
  simp [setBase, RTSPPublisher.baseFor]

theorem tsBases_setBase : (p.setBase pkt).tsBases pkt.payloadType = some (p.baseFor pkt) := by
  simp [setBase]

theorem tsBases_setBase_of_ne {pt : UInt8} (hpt : pt ≠ pkt.payloadType) :
    (p.setBase pkt).tsBases pt = p.tsBases pt := by
  simp [setBase, Function.update_of_ne hpt]

theorem FeedEffect.cons {h : Handed} (hpos : 0 < (frameClockRate p.mediaInfo h.frame).toNat)
    (hdts : h.frame.dts = ticksToMs (unsignedTicks (pkt.timestamp - p.baseFor pkt))
      (frameClockRate p.mediaInfo h.frame).toNat)
    (hrest : FeedEffect (p.setBase pkt) pkt result p' handed) :
    FeedEffect p pkt result p' (h :: handed) where
  mediaInfo := hrest.mediaInfo
  others pt hpt := (hrest.others pt hpt).trans (tsBases_setBase_of_ne hpt)
  rate_pos := List.forall_mem_cons.mpr ⟨hpos, hrest.rate_pos⟩
  dts := by
    have hmore := hrest.dts
    rw [baseFor_setBase] at hmore
    exact List.forall_mem_cons.mpr ⟨hdts, hmore⟩
  base := by
    have hbase := hrest.base
    rw [baseFor_setBase, tsBases_setBase] at hbase
    exact .inl (hbase.elim id And.left)
  quiet := by simp

theorem writeFrames_effect (i : ℕ) (frames : List AVFrame) :
    FeedEffect p pkt (p.writeFrames pkt env i frames).1
      (p.writeFrames pkt env i frames).2.1 (p.writeFrames pkt env i frames).2.2 := by
  induction frames generalizing p i with
  | nil => exact .idle rfl rfl
  | cons frame rest ih =>
    simp only [writeFrames]
    split
    next hzero =>
      exact ⟨rfl, fun pt hpt => tsBases_setBase_of_ne hpt, by simp, by simp,
        .inl tsBases_setBase, fun hok => absurd rfl hok⟩
    next hrate =>
      have hpos : 0 < (frameClockRate p.mediaInfo frame).toNat :=
        Nat.pos_of_ne_zero fun h => hrate (UInt32.toNat_inj.mp h)
      split
      next hlost => exact .cons hpos rfl (.idle rfl rfl)
      next hkept => exact .cons hpos rfl ((ih (i + 1)).of_eq rfl rfl)

theorem completed_frame (dp : TrackDepacketizer) :
    (p.completed unmarshal dp pkt).2.mediaInfo = p.mediaInfo ∧
      (p.completed unmarshal dp pkt).2.tsBases = p.tsBases := by
  unfold completed
  dsimp only
  split
  · exact ⟨rfl, rfl⟩
  · exact ⟨rfl, rfl⟩

theorem feedRTP_effect :
    FeedEffect p pkt (p.feedRTP unmarshal pkt env).1 (p.feedRTP unmarshal pkt env).2.1
      (p.feedRTP unmarshal pkt env).2.2 := by
  unfold feedRTP
  dsimp only
  split
  · exact .idle rfl rfl
  · split
    · exact .idle rfl rfl
    next dp hdp =>
      obtain ⟨hinfo, hbases⟩ := @completed_frame unmarshal (p.countPacket pkt) pkt dp
      split
      · exact .idle hinfo hbases
      · split
        · exact .idle hinfo hbases
        · split
          · exact .idle hinfo hbases
          next frames hframes =>
            exact (writeFrames_effect 0 frames).of_eq hinfo hbases

end Calls

/-! ## What a session does to one track -/

section Sessions

variable {pt : UInt8} {p : RTSPPublisher} {start : ℤ}

/-- The DTS of a completed frame, as a reading of the 32-bit distance from the
instant `start`. -/
def StampedFrom (info : MediaInfo) (start : ℤ) (entry : ℤ × AVFrame) : Prop :=
  0 < (frameClockRate info entry.2).toNat ∧
    entry.2.dts = ticksToMs (unsignedTicks (stamp (entry.1 - start)))
      (frameClockRate info entry.2).toNat

section Call

variable {a : Arrival} {p' : RTSPPublisher}

section Feed

variable (heffect : FeedEffect p a.pkt result p' handed)

include heffect

theorem FeedEffect.stampedFrom (hbase : a.packet.payloadType = pt → p.baseFor a.pkt = stamp start) :
    ∀ entry ∈ callFrames pt a handed, StampedFrom p.mediaInfo start entry := by
  intro entry hentry
  unfold callFrames at hentry
  split at hentry
  next hpt =>
    obtain ⟨h, hmem, rfl⟩ := List.mem_map.mp hentry
    refine ⟨heffect.rate_pos h hmem, ?_⟩
    rw [heffect.dts h hmem, hbase hpt, ← stamp_sub_stamp]
    rfl
  · simp at hentry

theorem FeedEffect.tsBases_eq_some (hbase : p.tsBases pt = some (stamp start)) :
    p'.tsBases pt = some (stamp start) := by
  by_cases hpt : pt = a.pkt.payloadType
  · subst hpt
    have hfor : p.baseFor a.pkt = stamp start := by
      rw [RTSPPublisher.baseFor, hbase, Option.getD_some]
    rcases heffect.base with hset | ⟨hsame, -⟩
    · rw [hset, hfor]
    · rw [hsame, hbase]
  · rw [heffect.others pt hpt, hbase]

/-- A call that hands over nothing for the track sets no base for it, unless it
panics. -/
theorem FeedEffect.tsBases_eq_none (hnone : p.tsBases pt = none) (hok : result ≠ .panicked)
    (hquiet : callFrames pt a handed = []) :
    p'.tsBases pt = none := by
  by_cases hpt : pt = a.pkt.payloadType
  · have hhanded : handed = [] := by
      have hpt' : a.packet.payloadType = pt := hpt.symm
      rw [callFrames, if_pos hpt'] at hquiet
      exact List.map_eq_nil_iff.mp hquiet
    subst hpt
    rw [heffect.quiet hok hhanded, hnone]
  · rw [heffect.others pt hpt, hnone]

/-- A call that hands over a frame for a track without a base makes the packet's
instant the track's start. -/
theorem FeedEffect.tsBases_of_first (hnone : p.tsBases pt = none)
    (hfirst : callFrames pt a handed ≠ []) :
    a.packet.payloadType = pt ∧ p.baseFor a.pkt = stamp a.time ∧
      p'.tsBases pt = some (stamp a.time) := by
  unfold callFrames at hfirst
  split at hfirst
  next hpt =>
    subst hpt
    have hfor : p.baseFor a.pkt = stamp a.time := by
      have hnone' : p.tsBases a.pkt.payloadType = none := hnone
      rw [RTSPPublisher.baseFor, hnone']
      rfl
    refine ⟨rfl, hfor, ?_⟩
    rcases heffect.base with hset | ⟨-, hhanded⟩
    · rw [← hfor]
      exact hset
    · simp [hhanded] at hfirst
  · exact absurd rfl hfirst

end Feed

end Call

/-- Once a track has its base, every later frame is measured from it. -/
theorem trackFrames_of_base (arrivals : List Arrival) (hbase : p.tsBases pt = some (stamp start)) :
    ∀ entry ∈ trackFrames unmarshal pt p arrivals, StampedFrom p.mediaInfo start entry := by
  induction arrivals generalizing p with
  | nil => simp [trackFrames]
  | cons a rest ih =>
    have heffect := @feedRTP_effect unmarshal p a.pkt a.env
    rw [trackFrames]
    refine List.forall_mem_append.mpr ⟨?_, ?_⟩
    · refine heffect.stampedFrom fun hpt => ?_
      subst hpt
      have hbase' : p.tsBases a.pkt.payloadType = some (stamp start) := hbase
      rw [RTSPPublisher.baseFor, hbase', Option.getD_some]
    · split
      · simp
      · have hrest := ih (heffect.tsBases_eq_some hbase)
        rwa [heffect.mediaInfo] at hrest

/-- Every frame of a track is measured from the packet that completed the
track's first frame. -/
theorem trackFrames_stampedFrom (arrivals : List Arrival) (hnone : p.tsBases pt = none) :
    ∀ first ∈ (trackFrames unmarshal pt p arrivals).head?,
      ∀ entry ∈ trackFrames unmarshal pt p arrivals, StampedFrom p.mediaInfo first.1 entry := by
  induction arrivals generalizing p with
  | nil => simp [trackFrames]
  | cons a rest ih =>
    have heffect := @feedRTP_effect unmarshal p a.pkt a.env
    rw [trackFrames]
    generalize p.feedRTP unmarshal a.pkt a.env = r at heffect ⊢
    by_cases hquiet : callFrames pt a r.2.2 = []
    · rw [hquiet]
      split
      · simp
      next hok =>
        have hrest := ih (heffect.tsBases_eq_none hnone hok hquiet)
        rwa [heffect.mediaInfo] at hrest
    · obtain ⟨hpt, hfor, hset⟩ := heffect.tsBases_of_first hnone hquiet
      have hcall := heffect.stampedFrom fun _ : a.packet.payloadType = pt => hfor
      have hstart : ∀ first ∈ (callFrames pt a r.2.2).head?,
          first.1 = a.time := by
        intro first hfirst
        rw [callFrames, if_pos hpt] at hfirst
        obtain ⟨-, -, rfl⟩ := List.mem_map.mp (List.mem_of_mem_head? hfirst)
        rfl
      intro first hfirst
      rw [List.head?_append_of_ne_nil _ hquiet] at hfirst
      rw [hstart first hfirst]
      refine List.forall_mem_append.mpr ⟨hcall, ?_⟩
      split
      · simp
      · have hrest := @trackFrames_of_base unmarshal _ _ _ rest hset
        rwa [heffect.mediaInfo] at hrest

end Sessions

/-- The DTS of a completed frame is the media time since the track's first
frame exactly when that time is within one turn of the 32-bit counter after
it. -/
theorem feedRTP_dts_linear_iff (unmarshal : VP8Unmarshal) {p : RTSPPublisher}
    {pt : UInt8} (hnone : p.tsBases pt = none) (arrivals : List Arrival) :
    ∀ first ∈ (trackFrames unmarshal pt p arrivals).head?,
      ∀ entry ∈ trackFrames unmarshal pt p arrivals,
        entry.2.dts = ticksToMs (entry.1 - first.1) (frameClockRate p.mediaInfo entry.2).toNat ↔
          0 ≤ entry.1 - first.1 ∧ entry.1 - first.1 < 2 ^ 32 := by
  intro first hfirst entry hentry
  obtain ⟨hpos, hdts⟩ := trackFrames_stampedFrom arrivals hnone first hfirst entry hentry
  rw [hdts, ← unsignedTicks_stamp_eq_iff]
  refine ⟨fun hms => ?_, fun hticks => by rw [hticks]⟩
  by_contra hne
  -- A wrong reading is off by whole turns, which no 32-bit rate can hide.
  have hrate := UInt32.toNat_lt (frameClockRate p.mediaInfo entry.2)
  refine ticksToMs_ne_of_turn (by omega) (by omega) (unsignedTicks_stamp_emod _) hne hms

/-- An Opus packet of one byte, at an instant of its track. -/
def opusArrival (time : ℤ) (sequenceNumber : UInt16) : Arrival where
  time := time
  packet := ⟨true, 111, sequenceNumber, 0, 7, [0xFC]⟩

theorem feedRTP_dts_linear_opus :
    ∃ p ∈ newRTSPPublisher { audioCodec := .opus } [],
      trackFrames (fun _ => none) 111 p [opusArrival (-960) 1, opusArrival 0 2] =
        [(-960, newAVFrame .audio .opus .none 0 0 [0xFC]),
          (0, newAVFrame .audio .opus .none 20 20 [0xFC])] ∧
      ∀ first ∈ (trackFrames (fun _ => none) 111 p [opusArrival (-960) 1, opusArrival 0 2]).head?,
        ∀ entry ∈ trackFrames (fun _ => none) 111 p [opusArrival (-960) 1, opusArrival 0 2],
          entry.2.dts = ticksToMs (entry.1 - first.1) (frameClockRate p.mediaInfo entry.2).toNat ↔
            0 ≤ entry.1 - first.1 ∧ entry.1 - first.1 < 2 ^ 32 := by
  refine ⟨_, rfl, by decide, ?_⟩
  exact feedRTP_dts_linear_iff (fun _ => none) rfl [opusArrival (-960) 1, opusArrival 0 2]

/-- A packet one millisecond before the track's first frame gets a DTS almost
25 hours after it. -/
theorem feedRTP_dts_below_start :
    (newRTSPPublisher { audioCodec := .opus } []).map (fun p =>
        (trackFrames (fun _ => none) 111 p [opusArrival 0 1, opusArrival (-48) 2]).map
            fun entry => (entry.1, entry.2.dts)) =
      some [(0, 0), (-48, 89478484)] ∧
    ticksToMs (-48 - 0) 48000 = -1 := by
  decide

end LiveForge.Rtsp
