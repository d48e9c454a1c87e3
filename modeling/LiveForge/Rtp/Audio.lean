import LiveForge.Rtp.AccessUnit
import LiveForge.Rtp.Packetizer

/-!
# Audio depacketizers

The audio depacketizers of `pkg/rtp`, which keep no state: every packet is a
whole frame, behind a header for AAC and MP3.  A track's depacketizer is one of
these or one of the video depacketizers.
-/

namespace LiveForge.Rtp

open Support

inductive AudioError where
  | emptyPayload (name : String)
  | aacTooShort (length : ℕ)
  | aacHeaders (need got : ℕ)
  | mp3TooShort (length : ℕ)
  deriving DecidableEq

/-- The frame of an audio payload; its timestamps and frame type are left at
zero. -/
def audioFrame (codec : CodecType) (payload : Bytes) : AVFrame :=
  newAVFrame .audio codec .none 0 0 payload

/-! ## The codecs -/

def depacketizeWhole (name : String) (codec : CodecType) (pkt : Packet) :
    Except AudioError AVFrame :=
  if pkt.payload = [] then .error (.emptyPayload name)
  else .ok (audioFrame codec pkt.payload)

def opusDepacketize : Packet → Except AudioError AVFrame :=
  depacketizeWhole "Opus" .opus

def g711Depacketize (codec : CodecType) : Packet → Except AudioError AVFrame :=
  depacketizeWhole "G.711" codec

def g722Depacketize : Packet → Except AudioError AVFrame :=
  depacketizeWhole "G.722" .g722

def g729Depacketize : Packet → Except AudioError AVFrame :=
  depacketizeWhole "G.729" .g729

def speexDepacketize : Packet → Except AudioError AVFrame :=
  depacketizeWhole "Speex" .speex

/-- The AU headers are skipped by their announced length; the sizes in them are
not read. -/
def aacDepacketize (pkt : Packet) : Except AudioError AVFrame :=
  let payload := pkt.payload
  let auHeadersBits := be16 (payload.getD 0 0) (payload.getD 1 0)
  let headerSize := 2 + (auHeadersBits + 7) / 8
  if payload.length < 4 then .error (.aacTooShort payload.length)
  else if payload.length < headerSize then
    .error (.aacHeaders headerSize payload.length)
  else .ok (audioFrame .aac (payload.drop headerSize))

def mp3Depacketize (pkt : Packet) : Except AudioError AVFrame :=
  if pkt.payload.length ≤ 4 then .error (.mp3TooShort pkt.payload.length)
  else .ok (audioFrame .mp3 (pkt.payload.drop 4))

inductive AudioDepacketizer where
  | aac
  | opus
  | g711 (codec : CodecType)
  | mp3
  | g722
  | g729
  | speex

def AudioDepacketizer.depacketize : AudioDepacketizer → Packet → Except AudioError AVFrame
  | .aac => aacDepacketize
  | .opus => opusDepacketize
  | .g711 codec => g711Depacketize codec
  | .mp3 => mp3Depacketize
  | .g722 => g722Depacketize
  | .g729 => g729Depacketize
  | .speex => speexDepacketize

/-! ## The depacketizer of a track -/

inductive TrackDepacketizer where
  | video (dp : Depacketizer)
  | audio (dp : AudioDepacketizer)

def newAudioDepacketizer : CodecType → Option AudioDepacketizer
  | .aac => some .aac
  | .opus => some .opus
  | .g711u => some (.g711 .g711u)
  | .g711a => some (.g711 .g711a)
  | .mp3 => some .mp3
  | .g722 => some .g722
  | .g729 => some .g729
  | .speex => some .speex
  | _ => none

def newTrackDepacketizer (codec : CodecType) : Option TrackDepacketizer :=
  ((newDepacketizer codec).map .video).orElse fun _ =>
    (newAudioDepacketizer codec).map .audio

inductive TrackError where
  | video (error : DepacketizeError)
  | audio (error : AudioError)
  deriving DecidableEq

namespace TrackDepacketizer

/-- `DepacketizeFrames`: every frame the packet gives. -/
def depacketizeFrames (unmarshal : VP8Unmarshal) (dp : TrackDepacketizer)
    (pkt : Packet) : Except TrackError (List AVFrame) × TrackDepacketizer :=
  match dp with
  | .video d =>
    let (result, d) := Rtp.depacketizeFrames unmarshal d pkt
    (result.mapError .video, .video d)
  | .audio d =>
    (((d.depacketize pkt).map ([·])).mapError .audio, .audio d)

/-- `Depacketize`: the last frame the packet gives, if any. -/
def depacketize (unmarshal : VP8Unmarshal) (dp : TrackDepacketizer)
    (pkt : Packet) : Except TrackError (Option AVFrame) × TrackDepacketizer :=
  let (result, dp) := dp.depacketizeFrames unmarshal pkt
  (result.map List.getLast?, dp)

end TrackDepacketizer

/-! ## Timestamps -/

section Unstamped

variable {pkt : Packet} {frames : List AVFrame} {unmarshal : VP8Unmarshal}

theorem unstamped_ite {c : Prop} [Decidable c] {codec : CodecType} {type : FrameType}
    {data : Bytes} :
    ∀ f ∈ if c then [newAVFrame .video codec type 0 0 data] else [], f.dts = 0 := by
  simp [newAVFrame]

theorem H264Depacketizer.unstamped {d : H264Depacketizer}
    (h : (d.depacketizeFrames pkt).1 = .ok frames) :
    ∀ f ∈ frames, f.dts = 0 := by
  have hconfig : ∀ d : H264Depacketizer, ∀ f ∈ d.configFrames.1, f.dts = 0 := by
    intro d
    unfold configFrames
    split <;> simp [newAVFrame]
  unfold depacketizeFrames at h
  split at h
  · simp at h
  next data d _ =>
    split at h
    · simp [← Except.ok.inj h]
    · rw [← Except.ok.inj h]
      exact List.forall_mem_append.mpr ⟨hconfig _, unstamped_ite⟩

theorem H265Depacketizer.unstamped {d : H265Depacketizer}
    (h : (d.depacketizeFrames pkt).1 = .ok frames) :
    ∀ f ∈ frames, f.dts = 0 := by
  have hconfig : ∀ s, ∀ f ∈ configFrames s, f.dts = 0 := by
    intro s
    simp only [configFrames]
    split
    · split <;> simp [newAVFrame]
    · simp
  unfold depacketizeFrames at h
  split at h
  · simp at h
  next nalus fu _ =>
    split at h
    · simp [← Except.ok.inj h]
    · rw [← Except.ok.inj h]
      exact List.forall_mem_append.mpr ⟨hconfig _, unstamped_ite⟩

theorem VP8Depacketizer.unstamped {d : VP8Depacketizer}
    (h : (d.depacketize unmarshal pkt).1 = .ok frames) :
    ∀ f ∈ frames, f.dts = 0 := by
  unfold depacketize at h
  split at h
  · simp at h
  next frames' d' htake =>
    cases h
    unfold take at htake
    split at htake
    · simp at htake
    · split_ifs at htake
      obtain ⟨joined, -, happend⟩ := bind_eq_ok.mp htake
      unfold append at happend
      split_ifs at happend
      all_goals
        cases happend
        simp [newAVFrame]

theorem VP9Depacketizer.unstamped {d : VP9Depacketizer} (h : (d.depacketize pkt).1 = some frames) :
    ∀ f ∈ frames, f.dts = 0 := by
  unfold depacketize at h
  dsimp only at h
  split_ifs at h
  all_goals
    cases h
    simp [newAVFrame]

theorem AV1Depacketizer.unstamped {d : AV1Depacketizer} (h : (d.depacketize pkt).1 = some frames) :
    ∀ f ∈ frames, f.dts = 0 := by
  unfold depacketize at h
  split_ifs at h
  all_goals
    cases h
    simp [newAVFrame]

theorem AudioDepacketizer.unstamped {d : AudioDepacketizer} {f : AVFrame}
    (h : d.depacketize pkt = .ok f) :
    f.dts = 0 := by
  have hwhole : ∀ name codec, depacketizeWhole name codec pkt = .ok f → f.dts = 0 := by
    intro name codec h
    unfold depacketizeWhole at h
    split_ifs at h
    rw [← Except.ok.inj h]
    rfl
  cases d with
  | aac =>
    simp only [depacketize, aacDepacketize] at h
    split_ifs at h
    rw [← Except.ok.inj h]
    rfl
  | mp3 =>
    simp only [depacketize, mp3Depacketize] at h
    split_ifs at h
    rw [← Except.ok.inj h]
    rfl
  | opus | g722 | g729 | speex | g711 codec => exact hwhole _ _ h

theorem TrackDepacketizer.unstamped {dp : TrackDepacketizer}
    (h : (dp.depacketizeFrames unmarshal pkt).1 = .ok frames) :
    ∀ f ∈ frames, f.dts = 0 := by
  cases dp with
  | audio d =>
    obtain ⟨f, hf, rfl⟩ := map_eq_ok.mp (mapError_eq_ok.mp h)
    intro g hg
    rw [List.mem_singleton.mp hg]
    exact d.unstamped hf
  | video d =>
    have hvideo := mapError_eq_ok.mp h
    cases d with
    | h264 d | h265 d | vp8 d => exact d.unstamped (mapError_eq_ok.mp hvideo)
    | vp9 d | av1 d => exact d.unstamped (elim_eq_ok.mp hvideo)

end Unstamped

end LiveForge.Rtp
