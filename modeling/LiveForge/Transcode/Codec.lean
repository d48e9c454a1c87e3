import LiveForge.Media.Frame
import Mathlib.Algebra.Order.Ring.Int
import Mathlib.Tactic.Common

/-!
# Audio codecs

The exchange types of `pkg/audiocodec`, and the codec libraries behind them.
Decoders, encoders and resamplers are objects with a state of their own; what
they compute is not modelled.  A `Registry` is any family of such objects.  Of
the interfaces that a codec may implement or not, the missing ones are `none`.
-/

namespace LiveForge.AudioCodec

/-- A half-open interval of ring positions.  The zero value is not valid. -/
structure SourceSpan where
  beginCursor : ℕ
  endCursor : ℕ

namespace SourceSpan

def zero : SourceSpan := ⟨0, 0⟩

def valid (s : SourceSpan) : Bool := decide (s.beginCursor < s.endCursor)

/-- The smallest span that covers both; not valid if one of them is not. -/
def union (s other : SourceSpan) : SourceSpan :=
  if !s.valid || !other.valid then zero
  else
    ⟨if other.beginCursor < s.beginCursor then other.beginCursor else s.beginCursor,
      if s.endCursor < other.endCursor then other.endCursor else s.endCursor⟩

/-- A span attributes media to positions from `lo` to before `hi` only. -/
def Within (lo hi : ℕ) (s : SourceSpan) : Prop :=
  s.valid = true → lo ≤ s.beginCursor ∧ s.endCursor ≤ hi

theorem within_zero (lo hi : ℕ) : zero.Within lo hi := by
  intro hvalid
  simp [zero, valid] at hvalid

variable {lo hi hi' : ℕ} {s other : SourceSpan}

theorem Within.mono (h : s.Within lo hi) (hle : hi ≤ hi') : s.Within lo hi' := by
  intro hvalid
  obtain ⟨hbegin, hend⟩ := h hvalid
  exact ⟨hbegin, hend.trans hle⟩

theorem Within.union (h : s.Within lo hi) (hother : other.Within lo hi) :
    (s.union other).Within lo hi := by
  unfold SourceSpan.union
  split
  · exact within_zero lo hi
  next hboth =>
    simp only [Bool.or_eq_true, Bool.not_eq_true', not_or, Bool.not_eq_false] at hboth
    obtain ⟨hbegin, hend⟩ := h hboth.1
    obtain ⟨hbegin', hend'⟩ := hother hboth.2
    intro _
    dsimp only
    constructor
    · split
      · exact hbegin'
      · exact hbegin
    · split
      · exact hend'
      · exact hend

end SourceSpan

structure PCMFrame where
  samples : List Int16
  sampleRate : ℤ
  channels : ℤ

structure AttributedPacket where
  payload : Bytes
  sourceSpan : SourceSpan

structure AttributedPCMFrame where
  pcm : PCMFrame
  sourceSpan : SourceSpan

/-! ## Timestamps of encoded audio -/

/-- The timeline of an encoder, counted in samples from its first frame. -/
structure TsTracker where
  baseTime : ℤ
  samplesEncoded : ℤ
  sampleRate : ℤ

namespace TsTracker

def start (firstFrameDTS sampleRate : ℤ) : TsTracker :=
  ⟨firstFrameDTS, 0, sampleRate⟩

def next (frameSamples : ℕ) (t : TsTracker) : ℤ × TsTracker :=
  (t.baseTime + (t.samplesEncoded * 1000).tdiv t.sampleRate,
    { t with samplesEncoded := t.samplesEncoded + frameSamples })

end TsTracker

/-! ## Codec libraries -/

/-- The registered codecs.  A call returns its result, `none` for an error, and
the object as it is afterwards. -/
structure Registry where
  Decoder : Type
  Encoder : Type
  Resampler : Type
  newDecoder : CodecType → Option Decoder
  newEncoder : CodecType → Option Encoder
  newResampler : ℤ → ℤ → ℤ → ℤ → Option Resampler
  sequenceHeader : CodecType → Option Bytes
  setExtradata : Bytes → Decoder → Decoder
  decode : Bytes → Decoder → Option PCMFrame × Decoder
  sampleRate : Encoder → ℤ
  channels : Encoder → ℕ
  frameSize : Encoder → ℕ
  encode : PCMFrame → Encoder → Option Bytes × Encoder
  encodeAttributed : Encoder →
    Option (PCMFrame → SourceSpan → Option (List AttributedPacket) × Encoder)
  drain : Encoder → Option (List Bytes × Encoder)
  drainAttributed : Encoder → Option (List AttributedPacket × Encoder)
  resample : PCMFrame → Resampler → Option PCMFrame × Resampler
  resampleAttributed : Resampler →
    Option (PCMFrame → SourceSpan → Option AttributedPCMFrame × Resampler)
  drainResampler : Resampler → Option (Option PCMFrame × Resampler)
  drainResamplerAttributed : Resampler → Option (Option AttributedPCMFrame × Resampler)

namespace Registry

/-- The encoder was given only spans between `lo` and `hi`. -/
inductive EncoderGiven (reg : Registry) (lo hi : ℕ) : reg.Encoder → Prop where
  | new {codec : CodecType} {e : reg.Encoder}
      (created : reg.newEncoder codec = some e) : EncoderGiven reg lo hi e
  | encode {e : reg.Encoder} (pcm : PCMFrame)
      (given : EncoderGiven reg lo hi e) :
      EncoderGiven reg lo hi (reg.encode pcm e).2
  | encodeAttributed {e : reg.Encoder}
      {call : PCMFrame → SourceSpan →
        Option (List AttributedPacket) × reg.Encoder}
      (pcm : PCMFrame) {span : SourceSpan} (given : EncoderGiven reg lo hi e)
      (offered : reg.encodeAttributed e = some call)
      (within : span.Within lo hi) : EncoderGiven reg lo hi (call pcm span).2
  | drain {e : reg.Encoder} {drained : List Bytes × reg.Encoder}
      (given : EncoderGiven reg lo hi e)
      (offered : reg.drain e = some drained) :
      EncoderGiven reg lo hi drained.2
  | drainAttributed {e : reg.Encoder}
      {drained : List AttributedPacket × reg.Encoder}
      (given : EncoderGiven reg lo hi e)
      (offered : reg.drainAttributed e = some drained) :
      EncoderGiven reg lo hi drained.2

/-- The resampler was given only spans between `lo` and `hi`. -/
inductive ResamplerGiven (reg : Registry) (lo hi : ℕ) :
    reg.Resampler → Prop where
  | new {inRate inChannels outRate outChannels : ℤ} {r : reg.Resampler}
      (created : reg.newResampler inRate inChannels outRate outChannels =
        some r) : ResamplerGiven reg lo hi r
  | resample {r : reg.Resampler} (pcm : PCMFrame)
      (given : ResamplerGiven reg lo hi r) :
      ResamplerGiven reg lo hi (reg.resample pcm r).2
  | resampleAttributed {r : reg.Resampler}
      {call : PCMFrame → SourceSpan →
        Option AttributedPCMFrame × reg.Resampler}
      (pcm : PCMFrame) {span : SourceSpan}
      (given : ResamplerGiven reg lo hi r)
      (offered : reg.resampleAttributed r = some call)
      (within : span.Within lo hi) : ResamplerGiven reg lo hi (call pcm span).2
  | drain {r : reg.Resampler} {drained : Option PCMFrame × reg.Resampler}
      (given : ResamplerGiven reg lo hi r)
      (offered : reg.drainResampler r = some drained) :
      ResamplerGiven reg lo hi drained.2
  | drainAttributed {r : reg.Resampler}
      {drained : Option AttributedPCMFrame × reg.Resampler}
      (given : ResamplerGiven reg lo hi r)
      (offered : reg.drainResamplerAttributed r = some drained) :
      ResamplerGiven reg lo hi drained.2

/-- Codecs return spans within the ones they were given. -/
structure RespectsSpans (reg : Registry) : Prop where
  encode : ∀ {lo hi : ℕ} {e : reg.Encoder}
    {call : PCMFrame → SourceSpan →
      Option (List AttributedPacket) × reg.Encoder}
    (pcm : PCMFrame) {span : SourceSpan} {packets : List AttributedPacket},
    reg.EncoderGiven lo hi e → reg.encodeAttributed e = some call →
      span.Within lo hi → (call pcm span).1 = some packets →
        ∀ packet ∈ packets, packet.sourceSpan.Within lo hi
  drain : ∀ {lo hi : ℕ} {e : reg.Encoder} {drained : List AttributedPacket × reg.Encoder},
    reg.EncoderGiven lo hi e → reg.drainAttributed e = some drained →
      ∀ packet ∈ drained.1, packet.sourceSpan.Within lo hi
  resample : ∀ {lo hi : ℕ} {r : reg.Resampler}
    {call : PCMFrame → SourceSpan → Option AttributedPCMFrame × reg.Resampler}
    (pcm : PCMFrame) {span : SourceSpan} {result : AttributedPCMFrame},
    reg.ResamplerGiven lo hi r → reg.resampleAttributed r = some call →
      span.Within lo hi → (call pcm span).1 = some result → result.sourceSpan.Within lo hi
  drainResampler : ∀ {lo hi : ℕ} {r : reg.Resampler}
    {drained : Option AttributedPCMFrame × reg.Resampler}
    {result : AttributedPCMFrame},
    reg.ResamplerGiven lo hi r → reg.drainResamplerAttributed r = some drained →
      drained.1 = some result → result.sourceSpan.Within lo hi

variable {reg : Registry} {lo hi hi' : ℕ}

theorem EncoderGiven.mono {e : reg.Encoder} (h : reg.EncoderGiven lo hi e) (hle : hi ≤ hi') :
    reg.EncoderGiven lo hi' e := by
  induction h with
  | new created => exact .new created
  | encode pcm _ ih => exact .encode pcm ih
  | encodeAttributed pcm _ offered within ih =>
    exact .encodeAttributed pcm ih offered (within.mono hle)
  | drain _ offered ih => exact .drain ih offered
  | drainAttributed _ offered ih => exact .drainAttributed ih offered

theorem ResamplerGiven.mono {r : reg.Resampler} (h : reg.ResamplerGiven lo hi r) (hle : hi ≤ hi') :
    reg.ResamplerGiven lo hi' r := by
  induction h with
  | new created => exact .new created
  | resample pcm _ ih => exact .resample pcm ih
  | resampleAttributed pcm _ offered within ih =>
    exact .resampleAttributed pcm ih offered (within.mono hle)
  | drain _ offered ih => exact .drain ih offered
  | drainAttributed _ offered ih => exact .drainAttributed ih offered

end Registry

end LiveForge.AudioCodec
