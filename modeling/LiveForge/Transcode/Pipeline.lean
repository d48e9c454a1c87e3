import LiveForge.Transcode.Codec

/-!
# The audio transcode pipeline

`audioTranscodePipeline` of `core/transcode_manager.go` decodes, resamples and
encodes the audio of one codec epoch.  Every function below returns the
pipeline as it is afterwards, together with the outputs it wrote, in order.
The track's ring drops writes after its end by itself, so the check for a
closed ring in `writeEncoded` is left out.

Each PCM sample keeps the span of source positions it came from until it is
encoded.
-/

namespace LiveForge.Core

open AudioCodec

/-! ## Outputs -/

inductive TranscodeOutputKind where
  | media
  | sequenceHeader
  deriving DecidableEq

/-- A frame with the source positions it came from.  Generated configuration
records carry no span. -/
structure TranscodeOutput where
  frame : Option AVFrame
  sourceSpan : SourceSpan
  kind : TranscodeOutputKind
  audioEpoch : ℕ

instance : Inhabited TranscodeOutput := ⟨⟨none, .zero, .media, 0⟩⟩

/-! ## Provenance of buffered samples -/

structure PcmSourceSpanSegment where
  samples : ℕ
  span : SourceSpan

/-- Counted in samples per channel. -/
structure PcmSourceSpanQueue where
  segments : List PcmSourceSpanSegment

namespace PcmSourceSpanQueue

def append (samples : ℕ) (span : SourceSpan) (q : PcmSourceSpanQueue) :
    Bool × PcmSourceSpanQueue :=
  if samples = 0 ∨ span.valid = false then (false, q)
  else (true, ⟨q.segments ++ [⟨samples, span⟩]⟩)

/-- The loop of `consume`: `span` covers what was taken so far. -/
def consumeLoop : ℕ → SourceSpan → List PcmSourceSpanSegment →
    SourceSpan × List PcmSourceSpanSegment
  | samples, span, [] => (if samples = 0 then span else .zero, [])
  | samples, span, segment :: segments =>
    if samples = 0 then (span, segment :: segments)
    else
      let take := min samples segment.samples
      let covered := if span.valid then span.union segment.span else segment.span
      if segment.samples - take = 0 then
        consumeLoop (samples - take) covered segments
      else
        (covered, { segment with samples := segment.samples - take } :: segments)

/-- Take samples from the front; the span is not valid when there are too
few. -/
def consume (samples : ℕ) (q : PcmSourceSpanQueue) : SourceSpan × PcmSourceSpanQueue :=
  let taken := consumeLoop samples .zero q.segments
  (taken.1, ⟨taken.2⟩)

end PcmSourceSpanQueue

/-! ## The pipeline -/

structure AudioTranscodePipeline (reg : Registry) where
  targetCodec : CodecType
  sourceCodec : CodecType
  sourceEpoch : ℕ
  decoder : reg.Decoder
  encoder : reg.Encoder
  resampler : Option reg.Resampler
  resampled : Bool
  ts : TsTracker
  tsInited : Bool
  pcmBuf : List Int16
  sourceSpan : SourceSpan
  pcmSpans : PcmSourceSpanQueue
  submitted : Bool
  finalized : Bool

variable {reg : Registry} {p : AudioTranscodePipeline reg} {span : SourceSpan}

/-- The stream's audio sequence header configures the decoder if it belongs to
the epoch. -/
def newAudioTranscodePipeline (reg : Registry) (audioSeqHeader : Option AVFrame)
    (targetCodec sourceCodec : CodecType) (sourceEpoch : ℕ) :
    Option (AudioTranscodePipeline reg) :=
  match reg.newDecoder sourceCodec, reg.newEncoder targetCodec with
  | some decoder, some encoder =>
    some
      { targetCodec, sourceCodec, sourceEpoch, encoder
        decoder :=
          match audioSeqHeader with
          | none => decoder
          | some header =>
            if header.codec = sourceCodec ∧ (header.audioCodecEpoch = 0 ∨
                header.audioCodecEpoch = sourceEpoch) then
              reg.setExtradata header.payload decoder
            else decoder
        resampler := none
        resampled := false
        ts := ⟨0, 0, 0⟩
        tsInited := false
        pcmBuf := []
        sourceSpan := .zero
        pcmSpans := ⟨[]⟩
        submitted := false
        finalized := false }
  | _, _ => none

/-- The generated sequence header of the target codec, if it has one. -/
def transcodeSequenceHeader (reg : Registry) (targetCodec : CodecType)
    (epoch : ℕ) (dts : ℤ) : Option TranscodeOutput :=
  (reg.sequenceHeader targetCodec).map fun payload =>
    { frame := some { newAVFrame .audio targetCodec .sequenceHeader dts dts
        payload with
          audioCodecEpoch := epoch
          audioProvenance := .transcoded }
      sourceSpan := .zero
      kind := .sequenceHeader
      audioEpoch := epoch }

namespace AudioTranscodePipeline

/-- What a function of the pipeline leaves behind and writes. -/
abbrev Emission (reg : Registry) :=
  AudioTranscodePipeline reg × List TranscodeOutput

/-- Go on with the pipeline of a first part. -/
def andThen (first : Emission reg)
    (next : AudioTranscodePipeline reg → Emission reg) : Emission reg :=
  let second := next first.1
  (second.1, first.2 ++ second.2)

def setExtradata (payload : Bytes) (p : AudioTranscodePipeline reg) :
    AudioTranscodePipeline reg :=
  { p with decoder := reg.setExtradata payload p.decoder }

def writeEncoded (dts : ℤ) (payload : Bytes) (sourceSpan : SourceSpan)
    (p : AudioTranscodePipeline reg) : List TranscodeOutput :=
  if payload.length = 0 ∨ sourceSpan.valid = false then []
  else
    [{ frame := some { newAVFrame .audio p.targetCodec .interframe dts dts
        payload with
          audioCodecEpoch := p.sourceEpoch
          audioProvenance := .transcoded }
       sourceSpan := sourceSpan
       kind := .media
       audioEpoch := p.sourceEpoch }]

/-- Every packet moves the timeline, also one that is not written. -/
def writePackets (samples : ℕ) :
    List AttributedPacket → AudioTranscodePipeline reg → Emission reg
  | [], p => (p, [])
  | packet :: packets, p =>
    let stamp := p.ts.next samples
    let written := p.writeEncoded stamp.1 packet.payload packet.sourceSpan
    andThen ({ p with ts := stamp.2 }, written) (writePackets samples packets)

def encodePackets (pcm : PCMFrame) (sourceSpan : SourceSpan)
    (samplesPerPacket : ℕ) (p : AudioTranscodePipeline reg) : Emission reg :=
  if sourceSpan.valid = false ∨ samplesPerPacket = 0 then (p, [])
  else
    match reg.encodeAttributed p.encoder with
    | some call =>
      match call pcm sourceSpan with
      | (none, encoder) => ({ p with encoder }, [])
      | (some packets, encoder) =>
        writePackets samplesPerPacket (packets.filter fun packet => packet.sourceSpan.valid)
          { p with encoder, submitted := true }
    | none =>
      match reg.encode pcm p.encoder with
      | (none, encoder) => ({ p with encoder }, [])
      | (some payload, encoder) =>
        writePackets samplesPerPacket [⟨payload, sourceSpan⟩] { p with encoder, submitted := true }

def maxPCMBufSamples : ℕ := 48000 * 2

/-- Append samples to the buffer, which is cut at its front when it grows too
long. -/
def bufferPCM (samples : List Int16) (sourceSpan : SourceSpan) (channels : ℕ)
    (p : AudioTranscodePipeline reg) : AudioTranscodePipeline reg :=
  let buf := p.pcmBuf ++ samples
  let spans := (p.pcmSpans.append (samples.length / channels) sourceSpan).2
  if maxPCMBufSamples < buf.length then
    let excess := buf.length - maxPCMBufSamples
    let dropped := excess - excess % channels
    { p with
      pcmBuf := buf.drop dropped
      pcmSpans := (spans.consume (dropped / channels)).2 }
  else { p with pcmBuf := buf, pcmSpans := spans }

/-- Encode full frames from the buffer.  Each one takes `frameSize` samples, so
the length of the buffer is fuel enough. -/
def encodeFull (frameSize : ℕ) : ℕ → AudioTranscodePipeline reg → Emission reg
  | 0, p => (p, [])
  | fuel + 1, p =>
    if p.pcmBuf.length < frameSize then (p, [])
    else
      let frameSamples := reg.frameSize p.encoder
      let taken := p.pcmSpans.consume frameSamples
      let pcm : PCMFrame :=
        ⟨p.pcmBuf.take frameSize, reg.sampleRate p.encoder, reg.channels p.encoder⟩
      andThen (encodePackets pcm taken.1 frameSamples { p with pcmSpans := taken.2 })
        fun p => encodeFull frameSize fuel { p with pcmBuf := p.pcmBuf.drop frameSize }

def encodePCM (pcm : Option PCMFrame) (sourceSpan : SourceSpan)
    (p : AudioTranscodePipeline reg) : Emission reg :=
  match pcm with
  | none => (p, [])
  | some pcm =>
    let channels := reg.channels p.encoder
    if pcm.samples.length = 0 ∨ channels = 0 ∨
        pcm.samples.length % channels ≠ 0 ∨ sourceSpan.valid = false then
      (p, [])
    else
      let p := { p with
        sourceSpan :=
          if p.sourceSpan.valid then p.sourceSpan.union sourceSpan
          else sourceSpan }
      let frameSize := reg.frameSize p.encoder * channels
      if frameSize = 0 then
        encodePackets ⟨pcm.samples, reg.sampleRate p.encoder, channels⟩
          sourceSpan (pcm.samples.length / channels) p
      else
        let p := p.bufferPCM pcm.samples sourceSpan channels
        encodeFull frameSize p.pcmBuf.length p

/-- The part of `encode` behind the decoder. -/
def resampleAndEncode (pcm : PCMFrame) (sourceSpan : SourceSpan)
    (p : AudioTranscodePipeline reg) : Emission reg :=
  match p.resampler with
  | none => p.encodePCM (some pcm) sourceSpan
  | some resampler =>
    match reg.resampleAttributed resampler with
    | some call =>
      match call pcm sourceSpan with
      | (none, r) => ({ p with resampler := some r }, [])
      | (some attributed, r) =>
        encodePCM (some attributed.pcm) attributed.sourceSpan { p with resampler := some r }
    | none =>
      let resampled := reg.resample pcm resampler
      encodePCM resampled.1 p.sourceSpan { p with resampler := some resampled.2 }

/-- The first decoded frame decides whether a resampler is needed. -/
def chooseResampler (pcm : PCMFrame) (p : AudioTranscodePipeline reg) :
    AudioTranscodePipeline reg :=
  if p.resampled then p
  else if pcm.sampleRate ≠ reg.sampleRate p.encoder ∨
      pcm.channels ≠ reg.channels p.encoder then
    { p with
      resampled := true
      resampler := reg.newResampler pcm.sampleRate pcm.channels
        (reg.sampleRate p.encoder) (reg.channels p.encoder) }
  else { p with resampled := true }

def encode (frame : AVFrame) (sourceSpan : SourceSpan)
    (p : AudioTranscodePipeline reg) : Emission reg :=
  let joined := p.sourceSpan.union sourceSpan
  let p := { p with
    sourceSpan := if joined.valid then joined else sourceSpan
    ts := if p.tsInited then p.ts
      else .start frame.dts (reg.sampleRate p.encoder)
    tsInited := true }
  match reg.decode frame.payload p.decoder with
  | (none, decoder) => ({ p with decoder }, [])
  | (some pcm, decoder) =>
    resampleAndEncode pcm sourceSpan (chooseResampler pcm { p with decoder })

/-- The packets an encoder still holds.  Those without a span of their own get
the span of everything the pipeline has seen. -/
def drainEncoder (publish : Bool) (p : AudioTranscodePipeline reg) : Emission reg :=
  let frameSamples := reg.frameSize p.encoder
  if frameSamples = 0 ∨ p.submitted = false then (p, [])
  else
    match reg.drainAttributed p.encoder with
    | some (packets, encoder) =>
      if publish then writePackets frameSamples packets { p with encoder }
      else ({ p with encoder }, [])
    | none =>
      match reg.drain p.encoder with
      | none => (p, [])
      | some (packets, encoder) =>
        if publish then
          writePackets frameSamples (packets.map fun payload => ⟨payload, p.sourceSpan⟩)
            { p with encoder }
        else ({ p with encoder }, [])

/-- The samples a resampler still holds. -/
def drainResampler (p : AudioTranscodePipeline reg) : Emission reg :=
  match p.resampler with
  | none => (p, [])
  | some resampler =>
    match reg.drainResamplerAttributed resampler with
    | some (none, r) => ({ p with resampler := some r }, [])
    | some (some attributed, r) =>
      encodePCM (some attributed.pcm) attributed.sourceSpan { p with resampler := some r }
    | none =>
      match reg.drainResampler resampler with
      | none => (p, [])
      | some (pcm, r) =>
        encodePCM pcm p.sourceSpan { p with resampler := some r }

/-- What is left in the buffer is padded with silence to a full frame. -/
def encodeRest (p : AudioTranscodePipeline reg) : Emission reg :=
  let frameSamples := reg.frameSize p.encoder
  let channels := reg.channels p.encoder
  let frameSize := frameSamples * channels
  if frameSize = 0 ∨ p.pcmBuf.length = 0 then (p, [])
  else
    let padded :=
      (p.pcmBuf ++ List.replicate (frameSize - p.pcmBuf.length) 0).take frameSize
    let taken := p.pcmSpans.consume ((p.pcmBuf.length + channels - 1) / channels)
    encodePackets ⟨padded, reg.sampleRate p.encoder, channels⟩ taken.1
      frameSamples { p with pcmBuf := [], pcmSpans := taken.2 }

def finalize (p : AudioTranscodePipeline reg) : Emission reg :=
  if p.finalized then (p, [])
  else
    andThen (andThen (drainResampler { p with finalized := true }) encodeRest) (drainEncoder true)

/-- Abandon the pipeline; what the encoder holds is drained and dropped. -/
def close (p : AudioTranscodePipeline reg) : AudioTranscodePipeline reg :=
  if p.finalized then p
  else (drainEncoder false { p with finalized := true, pcmBuf := [] }).1

end AudioTranscodePipeline

/-! ## Attribution -/

/-- The output is attributed to positions from `lo` to before `hi`. -/
def TranscodeOutput.Attributed (lo hi : ℕ) (output : TranscodeOutput) : Prop :=
  output.sourceSpan.valid = true ∧ output.sourceSpan.Within lo hi

namespace PcmSourceSpanQueue

/-- All buffered samples come from positions from `lo` to before `hi`. -/
def Within (lo hi : ℕ) (q : PcmSourceSpanQueue) : Prop :=
  ∀ segment ∈ q.segments, segment.span.Within lo hi

variable {lo hi : ℕ} {q : PcmSourceSpanQueue}

theorem Within.append (h : q.Within lo hi) (hspan : span.Within lo hi) (samples : ℕ) :
    (q.append samples span).2.Within lo hi := by
  unfold PcmSourceSpanQueue.append
  split
  · exact h
  · exact List.forall_mem_append.mpr ⟨h, List.forall_mem_singleton.mpr hspan⟩

theorem consumeLoop_within {segments : List PcmSourceSpanSegment} {samples : ℕ}
    (h : ∀ segment ∈ segments, segment.span.Within lo hi) (hspan : span.Within lo hi) :
    (consumeLoop samples span segments).1.Within lo hi ∧
    ∀ segment ∈ (consumeLoop samples span segments).2, segment.span.Within lo hi := by
  induction segments generalizing samples span with
  | nil =>
    refine ⟨?_, by simp [consumeLoop]⟩
    unfold consumeLoop
    split
    · exact hspan
    · exact SourceSpan.within_zero lo hi
  | cons segment segments ih =>
    have hfirst : segment.span.Within lo hi := h segment List.mem_cons_self
    have hrest : ∀ segment ∈ segments, segment.span.Within lo hi :=
      fun segment hmem => h segment (List.mem_cons_of_mem _ hmem)
    have hcovered : (if span.valid then span.union segment.span
        else segment.span).Within lo hi := by
      split
      · exact hspan.union hfirst
      · exact hfirst
    unfold consumeLoop
    split
    · exact ⟨hspan, h⟩
    · dsimp only
      split
      · exact ih hrest hcovered
      · refine ⟨hcovered, ?_⟩
        intro segment' hmem
        rcases List.mem_cons.mp hmem with rfl | hmem
        · exact hfirst
        · exact hrest segment' hmem

theorem Within.consume (h : q.Within lo hi) (samples : ℕ) :
    (q.consume samples).1.Within lo hi ∧ (q.consume samples).2.Within lo hi :=
  consumeLoop_within h (SourceSpan.within_zero lo hi)

end PcmSourceSpanQueue

namespace AudioTranscodePipeline

/-- Whatever the pipeline holds comes from positions from `lo` to before
`hi`. -/
structure HoldsWithin (lo hi : ℕ) (p : AudioTranscodePipeline reg) : Prop where
  span : p.sourceSpan.Within lo hi
  queue : p.pcmSpans.Within lo hi
  encoder : reg.EncoderGiven lo hi p.encoder
  resampler : ∀ r, p.resampler = some r → reg.ResamplerGiven lo hi r

/-- So does whatever a function of the pipeline leaves behind and writes. -/
structure EmitsWithin (lo hi : ℕ) (e : Emission reg) : Prop where
  holds : e.1.HoldsWithin lo hi
  written : ∀ output ∈ e.2, output.Attributed lo hi

/-- Only `finalize` and `close` finalize. -/
structure EmitsKept (finalized : Bool) (lo hi : ℕ) (e : Emission reg) : Prop
    extends EmitsWithin lo hi e where
  finalized : e.1.finalized = finalized

variable {lo hi hi' : ℕ} {b : Bool}

theorem HoldsWithin.mono (h : p.HoldsWithin lo hi) (hle : hi ≤ hi') : p.HoldsWithin lo hi' where
  span := h.span.mono hle
  queue := fun segment hmem => (h.queue segment hmem).mono hle
  encoder := h.encoder.mono hle
  resampler := fun r hr => (h.resampler r hr).mono hle

theorem EmitsKept.none (h : p.HoldsWithin lo hi) (hkept : p.finalized = b) :
    EmitsKept b lo hi (p, []) :=
  ⟨⟨h, by simp⟩, hkept⟩

theorem EmitsKept.andThen {first : Emission reg}
    {next : AudioTranscodePipeline reg → Emission reg} (hfirst : EmitsKept b lo hi first)
    (hnext : ∀ p, p.HoldsWithin lo hi → p.finalized = b → EmitsKept b lo hi (next p)) :
    EmitsKept b lo hi (andThen first next) := by
  have hsecond := hnext first.1 hfirst.holds hfirst.finalized
  exact ⟨⟨hsecond.holds, List.forall_mem_append.mpr ⟨hfirst.written, hsecond.written⟩⟩,
    hsecond.finalized⟩

theorem newAudioTranscodePipeline_within
    {audioSeqHeader : Option AVFrame} {targetCodec sourceCodec : CodecType}
    {sourceEpoch : ℕ} (lo hi : ℕ)
    (h : newAudioTranscodePipeline reg audioSeqHeader targetCodec sourceCodec
      sourceEpoch = some p) :
    p.HoldsWithin lo hi ∧ p.finalized = false := by
  unfold newAudioTranscodePipeline at h
  split at h
  next decoder encoder _ hencoder =>
    cases h
    refine ⟨⟨SourceSpan.within_zero lo hi, ?_, .new hencoder, ?_⟩, rfl⟩
    · intro segment hmem
      simp at hmem
    · intro r hr
      simp at hr
  · simp at h

theorem writePackets_within {packets : List AttributedPacket} (samples : ℕ)
    (h : p.HoldsWithin lo hi) (hkept : p.finalized = b)
    (hpackets : ∀ packet ∈ packets, packet.sourceSpan.Within lo hi) :
    EmitsKept b lo hi (p.writePackets samples packets) := by
  induction packets generalizing p with
  | nil => exact .none h hkept
  | cons packet packets ih =>
    refine EmitsKept.andThen ⟨⟨?_, ?_⟩, hkept⟩ ?_
    · exact { h with }
    · intro output hmem
      unfold writeEncoded at hmem
      split at hmem
      · simp at hmem
      next hwritten =>
        obtain rfl := List.mem_singleton.mp hmem
        rw [not_or, Bool.not_eq_false] at hwritten
        exact ⟨hwritten.2, hpackets packet List.mem_cons_self⟩
    · intro p' hp' hkept'
      exact ih hp' hkept' fun packet hmem =>
        hpackets packet (List.mem_cons_of_mem _ hmem)

theorem HoldsWithin.withResampler (h : p.HoldsWithin lo hi)
    {r : reg.Resampler} (hr : reg.ResamplerGiven lo hi r) :
    HoldsWithin lo hi { p with resampler := some r } :=
  { h with resampler := fun _ hr' => Option.some.inj hr' ▸ hr }

section Codecs

variable (hreg : reg.RespectsSpans) (h : p.HoldsWithin lo hi) (hkept : p.finalized = b)

include hreg h hkept

theorem encodePackets_within (hspan : span.Within lo hi) (pcm : PCMFrame) (samples : ℕ) :
    EmitsKept b lo hi (p.encodePackets pcm span samples) := by
  unfold encodePackets
  split
  · exact .none h hkept
  · split
    next call hcall =>
      have hgiven := h.encoder.encodeAttributed pcm hcall hspan
      have hpackets : ∀ packets, (call pcm span).1 = some packets →
          ∀ packet ∈ packets, packet.sourceSpan.Within lo hi :=
        fun _ => hreg.encode pcm h.encoder hcall hspan
      split
      next encoder hresult =>
        rw [hresult] at hgiven
        exact .none { h with encoder := hgiven } hkept
      next packets encoder hresult =>
        rw [hresult] at hgiven hpackets
        refine writePackets_within samples { h with encoder := hgiven } hkept ?_
        intro packet hmem
        exact hpackets packets rfl packet (List.mem_of_mem_filter hmem)
    · have hgiven := h.encoder.encode pcm
      split
      next encoder hresult =>
        rw [hresult] at hgiven
        exact .none { h with encoder := hgiven } hkept
      next payload encoder hresult =>
        rw [hresult] at hgiven
        refine writePackets_within samples { h with encoder := hgiven } hkept ?_
        intro packet hmem
        obtain rfl := List.mem_singleton.mp hmem
        exact hspan

theorem encodeFull_within (frameSize fuel : ℕ) :
    EmitsKept b lo hi (p.encodeFull frameSize fuel) := by
  induction fuel generalizing p with
  | zero => exact .none h hkept
  | succ fuel ih =>
    unfold encodeFull
    split
    · exact .none h hkept
    · obtain ⟨htaken, hleft⟩ := h.queue.consume (reg.frameSize p.encoder)
      refine EmitsKept.andThen (encodePackets_within hreg ?_ ?_ htaken _ _) ?_
      · exact { h with queue := hleft }
      · exact hkept
      · intro p' hp' hkept'
        exact ih { hp' with } hkept'

omit hreg in
theorem bufferPCM_within (hspan : span.Within lo hi) (samples : List Int16) (channels : ℕ) :
    (p.bufferPCM samples span channels).HoldsWithin lo hi ∧
      (p.bufferPCM samples span channels).finalized = b := by
  have happend := h.queue.append hspan (samples.length / channels)
  unfold bufferPCM
  dsimp only
  split
  · exact ⟨⟨h.span, (happend.consume _).2, h.encoder, h.resampler⟩, hkept⟩
  · exact ⟨{ h with queue := happend }, hkept⟩

theorem encodePCM_within (hspan : span.Within lo hi) (pcm : Option PCMFrame) :
    EmitsKept b lo hi (p.encodePCM pcm span) := by
  unfold encodePCM
  split
  · exact .none h hkept
  next pcm =>
    dsimp only
    split
    · exact .none h hkept
    · have hjoined : (if p.sourceSpan.valid then p.sourceSpan.union span
          else span).Within lo hi := by
        split
        · exact h.span.union hspan
        · exact hspan
      have hp : HoldsWithin lo hi { p with
          sourceSpan := if p.sourceSpan.valid then p.sourceSpan.union span
            else span } :=
        { h with span := hjoined }
      split
      · exact encodePackets_within hreg hp hkept hspan _ _
      · obtain ⟨hbuffered, hkept⟩ := bufferPCM_within hp hkept hspan pcm.samples
          (reg.channels p.encoder)
        exact encodeFull_within hreg hbuffered hkept _ _

theorem resampleAndEncode_within (hspan : span.Within lo hi) (pcm : PCMFrame) :
    EmitsKept b lo hi (p.resampleAndEncode pcm span) := by
  unfold resampleAndEncode
  split
  · exact encodePCM_within hreg h hkept hspan _
  next resampler hresampler =>
    have hgiven := h.resampler resampler hresampler
    split
    next call hcall =>
      have hafter := hgiven.resampleAttributed pcm hcall hspan
      have hresult : ∀ result, (call pcm span).1 = some result →
          result.sourceSpan.Within lo hi :=
        fun _ => hreg.resample pcm hgiven hcall hspan
      split
      next r hr =>
        rw [hr] at hafter
        exact .none (h.withResampler hafter) hkept
      next attributed r hr =>
        rw [hr] at hafter hresult
        exact encodePCM_within hreg (h.withResampler hafter) hkept (hresult attributed rfl) _
    · exact encodePCM_within hreg (h.withResampler (hgiven.resample pcm)) hkept h.span _

omit hreg in
theorem chooseResampler_within (pcm : PCMFrame) :
    (p.chooseResampler pcm).HoldsWithin lo hi ∧ (p.chooseResampler pcm).finalized = b := by
  unfold chooseResampler
  split_ifs
  · exact ⟨h, hkept⟩
  · refine ⟨{ h with resampler := ?_ }, hkept⟩
    intro r hr
    exact .new hr
  · exact ⟨{ h with }, hkept⟩

theorem encode_within (hspan : span.Within lo hi) (frame : AVFrame) :
    EmitsKept b lo hi (p.encode frame span) := by
  have hjoined : (if (p.sourceSpan.union span).valid
      then p.sourceSpan.union span else span).Within lo hi := by
    split
    · exact h.span.union hspan
    · exact hspan
  unfold encode
  dsimp only
  split
  · exact .none { h with span := hjoined } hkept
  next pcm decoder _ =>
    obtain ⟨hchosen, hkept⟩ := chooseResampler_within
      (p := { p with sourceSpan := _, ts := _, tsInited := true, decoder })
      { h with span := hjoined } hkept pcm
    exact resampleAndEncode_within hreg hchosen hkept hspan pcm

theorem drainEncoder_within (publish : Bool) : EmitsKept b lo hi (p.drainEncoder publish) := by
  unfold drainEncoder
  dsimp only
  split
  · exact .none h hkept
  · split
    next packets encoder hdrained =>
      have hp : HoldsWithin lo hi { p with encoder } :=
        { h with encoder := h.encoder.drainAttributed hdrained }
      split
      · exact writePackets_within _ hp hkept (hreg.drain h.encoder hdrained)
      · exact .none hp hkept
    · split
      · exact .none h hkept
      next packets encoder hdrained =>
        have hp : HoldsWithin lo hi { p with encoder } :=
          { h with encoder := h.encoder.drain hdrained }
        split
        · refine writePackets_within _ hp hkept ?_
          intro packet hmem
          obtain ⟨payload, -, rfl⟩ := List.mem_map.mp hmem
          exact h.span
        · exact .none hp hkept

theorem drainResampler_within : EmitsKept b lo hi p.drainResampler := by
  unfold drainResampler
  split
  · exact .none h hkept
  next resampler hresampler =>
    have hgiven := h.resampler resampler hresampler
    split
    next r hdrained =>
      exact .none (h.withResampler (hgiven.drainAttributed hdrained)) hkept
    next attributed r hdrained =>
      exact encodePCM_within hreg (h.withResampler (hgiven.drainAttributed hdrained)) hkept
        (hreg.drainResampler hgiven hdrained rfl) _
    · split
      · exact .none h hkept
      next pcm r hdrained =>
        exact encodePCM_within hreg (h.withResampler (hgiven.drain hdrained)) hkept h.span _

theorem encodeRest_within : EmitsKept b lo hi p.encodeRest := by
  unfold encodeRest
  dsimp only
  split
  · exact .none h hkept
  · obtain ⟨htaken, hleft⟩ := h.queue.consume
      ((p.pcmBuf.length + reg.channels p.encoder - 1) / reg.channels p.encoder)
    refine encodePackets_within hreg ?_ ?_ htaken _ _
    · exact { h with queue := hleft }
    · exact hkept

omit hkept in
theorem finalize_within : EmitsKept true lo hi p.finalize := by
  unfold finalize
  split
  next hdone => exact .none h hdone
  · refine EmitsKept.andThen (EmitsKept.andThen ?_ ?_) ?_
    · exact drainResampler_within hreg { h with } rfl
    · intro p' hp' hkept
      exact encodeRest_within hreg hp' hkept
    · intro p' hp' hkept
      exact drainEncoder_within hreg hp' hkept true

omit hkept in
theorem close_within : p.close.HoldsWithin lo hi := by
  unfold close
  split
  · exact h
  · refine (drainEncoder_within hreg ?_ rfl false).holds
    exact { h with }

end Codecs

end AudioTranscodePipeline

end LiveForge.Core
