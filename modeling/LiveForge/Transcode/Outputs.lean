import LiveForge.Transcode.Producer

/-!
# The outputs of a track

Whatever a track has written and whatever its pipeline still holds comes from
the source positions its producer has handled.
-/

namespace LiveForge.Core

open AudioCodec LiveForge.Ring Support AudioTranscodePipeline TrackProgress TranscodeSystem

variable {reg : Registry} {span : SourceSpan} {frame : AVFrame}

/-! ## Handling a frame -/

/-- All outputs written so far satisfy `W`, and the pipeline satisfies `P`. -/
def TranscodedTrack.Carries (P : AudioTranscodePipeline reg → Prop)
    (W : TranscodeOutput → Prop) (track : TranscodedTrack reg) : Prop :=
  (∀ output ∈ track.loop.written, W output) ∧ ∀ q, track.loop.pipeline = some q → P q

/-- What it takes to go on doing so while a frame is handled. -/
structure HandleRules (P : AudioTranscodePipeline reg → Prop) (W : TranscodeOutput → Prop)
    (audioSeqHeader : Option AVFrame) (frame : AVFrame) (span : SourceSpan) : Prop where
  header : ∀ output, output.kind = .sequenceHeader → W output
  passed : ∀ epoch, W ⟨some frame, span, .media, epoch⟩
  new : ∀ {target source : CodecType} {epoch : ℕ} {q : AudioTranscodePipeline reg},
    newAudioTranscodePipeline reg audioSeqHeader target source epoch = some q → P q
  configured : ∀ payload q, P q → P (q.setExtradata payload)
  encoded : ∀ q, P q → P (q.encode frame span).1 ∧ ∀ output ∈ (q.encode frame span).2, W output

namespace TranscodedTrack

variable {P : AudioTranscodePipeline reg → Prop} {W : TranscodeOutput → Prop}
  {audioSeqHeader : Option AVFrame} {track track' : TranscodedTrack reg}

section Carries

variable (h : track.Carries P W)

include h

theorem Carries.emit {outputs : List TranscodeOutput} (houtputs : ∀ output ∈ outputs, W output) :
    (track.emit outputs).Carries P W := by
  exact ⟨List.forall_mem_append.mpr ⟨h.1, houtputs⟩, h.2⟩

theorem Carries.setPipeline {pipeline : Option (AudioTranscodePipeline reg)}
    (hpipeline : ∀ q, pipeline = some q → P q) :
    (track.setPipeline pipeline).Carries P W :=
  ⟨h.1, hpipeline⟩

theorem Carries.cacheSequenceHeader (output : TranscodeOutput) :
    (track.cacheSequenceHeader output).Carries P W := by
  unfold TranscodedTrack.cacheSequenceHeader
  split
  · exact h
  · dsimp only
    split
    · exact ⟨h.1, h.2⟩
    · exact ⟨h.1, h.2⟩

theorem Carries.writeTranscodeSequenceHeader
    (hheader : ∀ output, output.kind = .sequenceHeader → W output) (epoch : ℕ) (dts : ℤ) :
    (track.writeTranscodeSequenceHeader epoch dts).Carries P W := by
  unfold TranscodedTrack.writeTranscodeSequenceHeader
  split
  · exact h
  next output houtput =>
    obtain ⟨payload, -, rfl⟩ := Option.map_eq_some_iff.mp houtput
    refine (h.cacheSequenceHeader _).emit ?_
    intro output hmem
    obtain rfl := List.mem_singleton.mp hmem
    exact hheader _ rfl

variable (rules : HandleRules P W audioSeqHeader frame span)

include rules

theorem Carries.startEpoch (frameEpoch : ℕ) :
    (track.startEpoch audioSeqHeader frame frameEpoch).Carries P W := by
  unfold TranscodedTrack.startEpoch
  dsimp only
  split
  · exact ⟨h.1, fun q hq => nomatch hq⟩
  · split
    · exact ⟨h.1, fun q hq => nomatch hq⟩
    next pipeline hpipeline =>
      have hopened : ∀ q, some pipeline = some q → P q := by
        intro q hq
        exact Option.some.inj hq ▸ rules.new hpipeline
      split
      · refine writeTranscodeSequenceHeader ?_ rules.header _ _
        exact ⟨h.1, hopened⟩
      · exact ⟨h.1, hopened⟩

theorem Carries.handleAudio (frameEpoch : ℕ) :
    (track.handleAudio frame frameEpoch span).Carries P W := by
  unfold TranscodedTrack.handleAudio
  split
  · apply Carries.emit
    · split
      · exact h.cacheSequenceHeader _
      · exact h
    · intro output hmem
      obtain rfl := List.mem_singleton.mp hmem
      exact rules.passed frameEpoch
  · split
    · exact h
    next pipeline hpipeline =>
      have hp := h.2 pipeline hpipeline
      split
      · refine h.setPipeline ?_
        intro q hq
        exact Option.some.inj hq ▸ rules.configured _ pipeline hp
      · obtain ⟨hafter, hwritten⟩ := rules.encoded pipeline hp
        refine (h.setPipeline ?_).emit hwritten
        intro q hq
        exact Option.some.inj hq ▸ hafter

theorem Carries.handleEpoch (frameEpoch : ℕ) :
    (track.handleEpoch audioSeqHeader frame frameEpoch span).Carries P W := by
  unfold TranscodedTrack.handleEpoch
  split
  · exact h
  · refine Carries.handleAudio ?_ rules frameEpoch
    split
    · exact h.startEpoch rules frameEpoch
    · exact h

theorem Carries.handle : (track.handle audioSeqHeader frame span).Carries P W := by
  unfold TranscodedTrack.handle
  split
  · split
    · exact h
    · refine h.emit ?_
      intro output hmem
      obtain rfl := List.mem_singleton.mp hmem
      exact rules.passed 0
  · split
    · exact h.handleEpoch rules _
    · exact h

end Carries

end TranscodedTrack

/-! ## Attribution and finalization -/

/-- An output that carries media is attributed to positions from `lo` to before
`hi`. -/
def MediaWithin (lo hi : ℕ) (output : TranscodeOutput) : Prop :=
  output.kind = .media → output.Attributed lo hi

/-- The outputs and the pipeline of a track belong to the positions handled so
far, and the pipeline is finalized when the generation is complete. -/
structure OutputInv (track : TranscodedTrack reg) : Prop where
  carries : track.Carries
    (AudioTranscodePipeline.HoldsWithin track.sourceStart track.progress.position)
    (MediaWithin track.sourceStart track.progress.position)
  fresh : track.termination = none → track.loop.finalizations = 0 ∧
    ∀ q, track.loop.pipeline = some q → q.finalized = false
  finalized : track.termination = some .generationComplete →
    track.loop.finalizations = (if track.loop.pipeline.isSome then 1 else 0) ∧
      ∀ q, track.loop.pipeline = some q → q.finalized = true
  cause : track.cancelled ≠ some .generationComplete

namespace OutputInv

variable {s : Stream} {track track' : TranscodedTrack reg}

theorem new (bufSize : ℤ) (targetCodec : CodecType) (audioOnly : Bool)
    (sourceStart audioEpochFloor : ℕ) (sourceCodec : CodecType) (boundary : Option ℕ) :
    OutputInv (newTranscodedTrack reg bufSize targetCodec audioOnly sourceStart
      audioEpochFloor sourceCodec boundary) where
  carries := by simp [TranscodedTrack.Carries, newTranscodedTrack]
  fresh := fun _ => ⟨rfl, fun _ hq => nomatch hq⟩
  finalized := fun h => nomatch h
  cause := fun h => nomatch h

theorem managed (h : OutputInv track) (subCount : ℤ) {cancelled : Option TranscodeCause}
    (hcause : cancelled ≠ some .generationComplete) :
    OutputInv { track with subCount, cancelled } :=
  { h with cause := hcause }

theorem goto (h : OutputInv track) (pc : LoopPc) : OutputInv (track.goto pc) :=
  { h with }

/-- The loop returns before the end of the generation. -/
theorem stopWith (h : OutputInv track) {cause : TranscodeCause} (hnone : track.termination = none)
    (hcause : cause ≠ .generationComplete) :
    OutputInv (track.stopWith cause) where
  __ := h
  fresh := fun hterm => nomatch hterm
  finalized := by
    intro hterm
    simp only [TranscodedTrack.stopWith, TranscodedTrack.setTerminationCause,
      TranscodedTrack.goto, hnone, Option.some.injEq] at hterm
    exact absurd hterm hcause

section Codecs

variable (hreg : reg.RespectsSpans)

include hreg

theorem carries_finalizePipeline (h : OutputInv track) :
    track.finalizePipeline.Carries
      (AudioTranscodePipeline.HoldsWithin track.sourceStart track.progress.position)
      (MediaWithin track.sourceStart track.progress.position) := by
  unfold TranscodedTrack.finalizePipeline
  split
  · exact h.carries
  next pipeline hpipeline =>
    have hfinal := finalize_within hreg (h.carries.2 pipeline hpipeline)
    have hset : (track.setPipeline (some pipeline.finalize.1)).Carries
        (AudioTranscodePipeline.HoldsWithin track.sourceStart track.progress.position)
        (MediaWithin track.sourceStart track.progress.position) :=
      h.carries.setPipeline fun q hq => Option.some.inj hq ▸ hfinal.holds
    have hemit := hset.emit fun output hmem (_ : output.kind = .media) =>
      hfinal.written output hmem
    exact hemit

theorem complete (h : OutputInv track) (hnone : track.termination = none) (stop : ℕ) :
    OutputInv (track.complete stop) := by
  obtain ⟨hzero, -⟩ := h.fresh hnone
  have hloop : (track.complete stop).loop =
      { track.finalizePipeline.loop with pc := .closeRing } := by
    unfold TranscodedTrack.complete TranscodedTrack.advanceSourceCursor
    split <;> rfl
  have hidentity := track.identity_complete stop
  have hstart : (track.complete stop).sourceStart = track.sourceStart :=
    congrArg TrackIdentity.sourceStart hidentity
  have hcancelled : (track.complete stop).cancelled = track.cancelled :=
    congrArg TrackIdentity.cancelled hidentity
  have hposition : (track.complete stop).progress.position =
      track.progress.position := by
    have hconsumed : (track.complete stop).loop.consumed =
        track.loop.consumed := by
      rw [hloop]
      exact congrArg consumed track.progress_finalizePipeline
    simp only [position, TranscodedTrack.progress, hidentity, hconsumed]
  have hcount : track.finalizePipeline.loop.finalizations =
      if track.loop.pipeline.isSome then 1 else 0 := by
    have hcount := congrArg finalizations track.progress_finalizePipeline
    simpa [TranscodedTrack.progress, hzero] using hcount
  refine ⟨?_, ?_, ?_, ?_⟩
  · have hcarries := h.carries_finalizePipeline hreg
    rw [hstart, hposition]
    constructor
    · rw [hloop]
      exact hcarries.1
    · rw [hloop]
      exact hcarries.2
  · intro hterm
    cases hterm
  · intro _
    rw [hloop]
    rw [hcount, TranscodedTrack.finalizePipeline_pipeline, Option.isSome_map]
    refine ⟨rfl, ?_⟩
    intro q hq
    obtain ⟨pipeline, hpipeline, rfl⟩ := Option.map_eq_some_iff.mp hq
    exact (finalize_within hreg (h.carries.2 pipeline hpipeline)).finalized
  · rw [hcancelled]
    exact h.cause

variable {audioSeqHeader : Option AVFrame}

theorem handleRules_within {lo hi : ℕ} (frame : AVFrame) (hvalid : span.valid = true)
    (hspan : span.Within lo hi) :
    HandleRules (fun q : AudioTranscodePipeline reg => q.HoldsWithin lo hi ∧ q.finalized = false)
      (MediaWithin lo hi) audioSeqHeader frame span where
  header := by
    intro output hkind hmedia
    rw [hkind] at hmedia
    simp at hmedia
  passed := fun _ _ => ⟨hvalid, hspan⟩
  new := fun hq =>
    newAudioTranscodePipeline_within lo hi hq
  configured := fun _ _ hq => ⟨{ hq.1 with }, hq.2⟩
  encoded := by
    intro q hq
    have hencoded := encode_within hreg hq.1 hq.2 hspan frame
    exact ⟨⟨hencoded.holds, hencoded.finalized⟩, fun output hmem _ => hencoded.written output hmem⟩

/-- One more position is handled. -/
theorem handled {cursor : ℕ} {handled : TranscodedTrack reg} (h : OutputInv track)
    (hnone : track.termination = none) (hnext : cursor = track.progress.position + 1)
    (hresult : handled = track.handle audioSeqHeader frame ⟨cursor - 1, cursor⟩) :
    OutputInv { handled with loop := { handled.loop with
      pc := .advance cursor
      consumed := handled.loop.consumed ++ [cursor - 1] } } := by
  have hprogress : handled.progress = track.progress := hresult ▸ track.progress_handle _ frame _
  have hstart : handled.sourceStart = track.sourceStart :=
    congrArg (fun p => p.identity.sourceStart) hprogress
  have hconsumed : handled.loop.consumed = track.loop.consumed := congrArg consumed hprogress
  have hterm : handled.termination = none := (congrArg termination hprogress).trans hnone
  have hspan : SourceSpan.Within track.sourceStart
      (track.progress.position + 1) ⟨cursor - 1, cursor⟩ := by
    intro _
    have hle : track.sourceStart ≤ track.progress.position := Nat.le_add_right _ _
    dsimp only
    omega
  have hvalid : SourceSpan.valid ⟨cursor - 1, cursor⟩ = true := by
    simp [SourceSpan.valid, hnext]
  -- what was attributed before is attributed to one position more
  have hcarries : handled.Carries (fun q => q.HoldsWithin track.sourceStart
        (track.progress.position + 1) ∧ q.finalized = false)
      (MediaWithin track.sourceStart (track.progress.position + 1)) := by
    rw [hresult]
    refine TranscodedTrack.Carries.handle ?_ (handleRules_within hreg frame hvalid hspan)
    refine ⟨?_, fun q hq =>
      ⟨(h.carries.2 q hq).mono (Nat.le_succ _), (h.fresh hnone).2 q hq⟩⟩
    intro output hmem hmedia
    obtain ⟨hvalid', hwithin⟩ := h.carries.1 output hmem hmedia
    exact ⟨hvalid', hwithin.mono (Nat.le_succ _)⟩
  have hposition : handled.sourceStart + (handled.loop.consumed ++ [cursor - 1]).length =
        track.progress.position + 1 := by
    rw [hstart, hconsumed, List.length_append]
    rfl
  refine ⟨?_, ?_, ?_, ?_⟩
  · change handled.Carries (AudioTranscodePipeline.HoldsWithin handled.sourceStart
        (handled.sourceStart + (handled.loop.consumed ++ [cursor - 1]).length))
      (MediaWithin handled.sourceStart
        (handled.sourceStart + (handled.loop.consumed ++ [cursor - 1]).length))
    rw [hposition, hstart]
    exact ⟨hcarries.1, fun q hq => (hcarries.2 q hq).1⟩
  · intro _
    refine ⟨?_, fun q hq => (hcarries.2 q hq).2⟩
    exact (congrArg finalizations hprogress).trans (h.fresh hnone).1
  · intro hcomplete
    rw [show handled.termination = none from hterm] at hcomplete
    simp at hcomplete
  · rw [show handled.cancelled = track.cancelled from
      congrArg (fun p => p.identity.cancelled) hprogress]
    exact h.cause

omit hreg in
/-- The generated header at the start carries no media. -/
theorem start (h : OutputInv track) (epoch : ℕ) (dts : ℤ) :
    OutputInv (track.writeTranscodeSequenceHeader epoch dts) := by
  have hprogress := track.progress_writeTranscodeSequenceHeader epoch dts
  have hpipeline := track.writeTranscodeSequenceHeader_pipeline epoch dts
  have hcarries := h.carries.writeTranscodeSequenceHeader
    (fun output hkind hmedia => by simp [hkind] at hmedia) epoch dts
  have hstart : (track.writeTranscodeSequenceHeader epoch dts).sourceStart =
      track.sourceStart :=
    congrArg (fun p => p.identity.sourceStart) hprogress
  have hterm : (track.writeTranscodeSequenceHeader epoch dts).termination =
      track.termination := congrArg termination hprogress
  have hcount : (track.writeTranscodeSequenceHeader epoch dts).loop.finalizations =
        track.loop.finalizations :=
    congrArg finalizations hprogress
  have hcancelled : (track.writeTranscodeSequenceHeader epoch dts).cancelled =
      track.cancelled := congrArg (fun p => p.identity.cancelled) hprogress
  refine ⟨?_, ?_, ?_, ?_⟩
  · rw [hstart, hprogress]
    exact hcarries
  · rw [hterm, hcount, hpipeline]
    exact h.fresh
  · rw [hterm, hcount, hpipeline]
    exact h.finalized
  · rw [hcancelled]
    exact h.cause

theorem closePipeline (h : OutputInv track) (hterm : track.termination ≠ none) :
    OutputInv (track.setPipeline (track.loop.pipeline.map close)) := by
  refine ⟨⟨h.carries.1, ?_⟩, fun hnone => absurd hnone hterm, ?_, h.cause⟩
  · intro q hq
    obtain ⟨q', hq', rfl⟩ := Option.map_eq_some_iff.mp hq
    exact close_within hreg (h.carries.2 q' hq')
  · intro hcomplete
    obtain ⟨hcount, hfinal⟩ := h.finalized hcomplete
    constructor
    · rw [TranscodedTrack.setPipeline, Option.isSome_map]
      exact hcount
    · intro q hq
      obtain ⟨q', hq', rfl⟩ := Option.map_eq_some_iff.mp hq
      rw [AudioTranscodePipeline.close, if_pos (hfinal q' hq')]
      exact hfinal q' hq'

theorem loopStep (hproducer : ProducerInv s track) (h : OutputInv track)
    (hstep : track.loopStep s = some track') :
    OutputInv track' := by
  have hat := hproducer.holds
  cases TranscodedTrack.loopMove_of_loopStep hstep with
  | start _ hmoved => exact hmoved ▸ (h.start _ _).goto _
  | cancelled hpc cause hfound hmoved =>
    have hnone : track.termination = none := by
      rcases hpc with hpc | hpc
      · rw [hpc] at hat
        exact hat.termination
      · rw [hpc] at hat
        exact hat.1.termination
    refine hmoved ▸ h.stopWith hnone ?_
    rintro rfl
    exact h.cause hfound
  | complete stop hpc _ hmoved =>
    have hnone : track.termination = none := by
      rcases hpc with ⟨hpc, -⟩ | ⟨frame, cursor, hpc, -⟩
      · rw [hpc] at hat
        exact hat.termination
      · rw [hpc] at hat
        exact hat.termination
    exact hmoved ▸ h.complete hreg hnone stop
  | readGap hplace _ cursor n _ hmoved =>
    have hnone := (hproducer.atRest_of_reading hplace).termination
    have hmovedCursor : OutputInv (track.withReadCursor cursor) := { h with }
    exact hmoved ▸ hmovedCursor.stopWith hnone (by simp)
  | readFrame _ _ cursor _ _ _ _ _ hmoved =>
    have hmovedCursor : OutputInv (track.withReadCursor cursor) := { h with }
    exact hmoved ▸ hmovedCursor.goto _
  | sourceClosed hpc _ hmoved =>
    rw [hpc] at hat
    exact hmoved ▸ h.stopWith hat.1.termination (by simp)
  | handled frame cursor hpc _ hresult hmoved =>
    rw [hpc] at hat
    exact hmoved ▸ h.handled hreg hat.1.termination hat.1.next hresult
  | advance cursor _ hmoved =>
    rw [hmoved, TranscodedTrack.advanceSourceCursor]
    split
    · exact h.goto _
    · exact { h with }
  | closeRing _ hmoved => exact hmoved ▸ { h with }
  | closePipeline hpc hmoved =>
    rw [hpc] at hat
    obtain ⟨⟨-, cause, hcause, -⟩, -⟩ := hat
    have hterm : track.termination ≠ none := by
      rw [show track.termination = some cause from hcause]
      simp
    exact hmoved ▸ (h.closePipeline hreg hterm).goto _
  | checkEnd _ hmoved | readNothing _ hmoved | tryRead _ _ _ _ hmoved | waited _ _ _ _ hmoved
  | handleFrame _ _ _ _ hmoved | blockingRead _ _ hmoved | notReadEnd _ _ hmoved
  | resume _ _ _ hmoved => exact hmoved ▸ h.goto _

end Codecs

end OutputInv

/-! ## The system -/

variable {s : TranscodeSystem reg} {a : TranscodeAction}

/-- What an action does to a track keeps the invariant of its outputs. -/
theorem OutputInv.of_change (hreg : reg.RespectsSpans) {p : ℕ}
    {track track' : TranscodedTrack reg} (hproducer : ProducerInv s.trace.stream track)
    (h : OutputInv track) (hchange : TrackChange s a p track track') :
    OutputInv track' := by
  have hcancel : ∀ cause, cause ≠ .generationComplete →
      some (track.cancelled.getD cause) ≠ some .generationComplete := by
    intro cause hcause
    cases hc : track.cancelled with
    | none => simpa using hcause
    | some old =>
      rw [Option.getD_some, ← hc]
      exact h.cause
  cases hchange with
  | same heq => exact heq ▸ h
  | joined heq | left heq => exact heq ▸ h.managed _ h.cause
  | dropped _ _ _ _ _ _ heq =>
    exact heq ▸ h.managed _ (hcancel .subscriberReleased (by simp))
  | reset _ _ heq => exact heq ▸ h.managed _ (hcancel .managerReset (by simp))
  | loop _ hmoved => exact h.loopStep hreg hproducer hmoved
  | cancelRead _ hmoved =>
    unfold TranscodedTrack.cancelRead at hmoved
    split_ifs at hmoved
    exact (Option.some.inj hmoved) ▸ { h with }

structure OutputsInv (s : TranscodeSystem reg) : Prop where
  base : TranscodeInv s
  outputs : ∀ (p : ℕ) (track : TranscodedTrack reg),
    s.tracks.cells[p]? = some track → OutputInv track

theorem OutputsInv.step (hreg : reg.RespectsSpans) {s' : TranscodeSystem reg} (h : OutputsInv s)
    (hstep : s.step a = some s') :
    OutputsInv s' where
  base := h.base.step hstep
  outputs := by
    intro p track' hget'
    cases hget : s.tracks.cells[p]? with
    | some track =>
      obtain ⟨changed, hchanged, hchange⟩ := trackChange_of_step h.base.lifetime hstep hget
      obtain rfl := Option.mem_unique hget' hchanged
      exact (h.outputs p track hget).of_change hreg (h.base.producers p track hget) hchange
    | none =>
      obtain ⟨r, codec, -, rfl⟩ := newTrack_of_step hstep hget hget'
      exact .new _ _ _ _ _ _ _

theorem OutputsInv.run (hreg : reg.RespectsSpans) {key : String} {instanceID : ℕ}
    {cfg : StreamConfig} {limits : LimitsConfig} {bufSize : ℤ} {acts : List TranscodeAction}
    (hrun : runFrom TranscodeSystem.step
      (TranscodeSystem.initial reg key instanceID cfg limits bufSize) acts = some s) :
    OutputsInv s := by
  refine runFrom_invariant (fun _ _ _ h hstep => h.step hreg hstep) ?_ hrun
  refine ⟨TranscodeInv.initial reg key instanceID cfg limits bufSize, ?_⟩
  intro p track hget
  simp [initial, tracks, TranscodeManager.new, PointerTable.empty] at hget

end LiveForge.Core
