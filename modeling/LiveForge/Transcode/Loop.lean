import LiveForge.Transcode.Track

/-!
# The steps of the producer

Handling a frame changes the pipeline and what the track has written, and
nothing else.  `LoopMove` lists what one step of `transcodeLoop` can do, with
everything it looked at; all facts about the loop are derived from this list.
-/

namespace LiveForge.Core

open AudioCodec LiveForge.Ring

variable {reg : Registry}

/-! ## What handling a frame leaves alone -/

/-- The fields of a track that belong to the manager. -/
structure TrackIdentity where
  targetCodec : CodecType
  audioOnly : Bool
  sourceStart : ℕ
  audioEpochFloor : ℕ
  generationBoundary : Option ℕ
  subCount : ℤ
  cancelled : Option TranscodeCause

structure TrackProgress where
  identity : TrackIdentity
  ringClosed : Bool
  sourceCursor : ℕ
  termination : Option TranscodeCause
  readCursor : ℕ
  readCancelled : Bool
  consumed : List ℕ
  finalizations : ℕ

theorem foldl_write_closed {α : Type*} (values : List α) (rb : RingBuffer α) :
    (values.foldl RingBuffer.write rb).closed = rb.closed := by
  induction values generalizing rb with
  | nil => rfl
  | cons value values ih => rw [List.foldl_cons, ih, RingBuffer.write_closed]

namespace TranscodedTrack

def identity (track : TranscodedTrack reg) : TrackIdentity :=
  { targetCodec := track.targetCodec
    audioOnly := track.audioOnly
    sourceStart := track.sourceStart
    audioEpochFloor := track.audioEpochFloor
    generationBoundary := track.generationBoundary
    subCount := track.subCount
    cancelled := track.cancelled }

def progress (track : TranscodedTrack reg) : TrackProgress :=
  { identity := track.identity
    ringClosed := track.ringBuffer.closed
    sourceCursor := track.sourceCursor
    termination := track.termination
    readCursor := track.loop.readCursor
    readCancelled := track.loop.readCancelled
    consumed := track.loop.consumed
    finalizations := track.loop.finalizations }

section Progress

variable (track : TranscodedTrack reg)

@[simp] theorem progress_emit (outputs : List TranscodeOutput) :
    (track.emit outputs).progress = track.progress := by
  simp only [progress, emit, foldl_write_closed]
  rfl

@[simp] theorem progress_setPipeline (pipeline : Option (AudioTranscodePipeline reg)) :
    (track.setPipeline pipeline).progress = track.progress := rfl

@[simp] theorem progress_cacheSequenceHeader (output : TranscodeOutput) :
    (track.cacheSequenceHeader output).progress = track.progress := by
  unfold cacheSequenceHeader
  split
  · rfl
  · dsimp only
    split <;> rfl

@[simp] theorem progress_writeTranscodeSequenceHeader (epoch : ℕ) (dts : ℤ) :
    (track.writeTranscodeSequenceHeader epoch dts).progress = track.progress := by
  unfold writeTranscodeSequenceHeader
  split <;> simp

@[simp] theorem progress_startEpoch (audioSeqHeader : Option AVFrame)
    (frame : AVFrame) (frameEpoch : ℕ) :
    (track.startEpoch audioSeqHeader frame frameEpoch).progress =
      track.progress := by
  unfold startEpoch
  dsimp only
  split
  · rfl
  · split
    · rfl
    · split
      · rw [progress_writeTranscodeSequenceHeader]
        rfl
      · rfl

@[simp] theorem progress_handleAudio (frame : AVFrame) (frameEpoch : ℕ) (span : SourceSpan) :
    (track.handleAudio frame frameEpoch span).progress = track.progress := by
  unfold handleAudio
  split
  · split <;> simp
  · split
    · rfl
    · split <;> simp

@[simp] theorem progress_handleEpoch (audioSeqHeader : Option AVFrame) (frame : AVFrame)
    (frameEpoch : ℕ) (span : SourceSpan) :
    (track.handleEpoch audioSeqHeader frame frameEpoch span).progress = track.progress := by
  unfold handleEpoch
  split
  · rfl
  · split <;> simp

@[simp] theorem progress_handle (audioSeqHeader : Option AVFrame) (frame : AVFrame)
    (span : SourceSpan) :
    (track.handle audioSeqHeader frame span).progress = track.progress := by
  unfold handle
  split
  · split <;> simp
  · split <;> simp

/-- At the end the active pipeline, if there is one, is finalized. -/
theorem progress_finalizePipeline :
    track.finalizePipeline.progress =
      { track.progress with finalizations := track.loop.finalizations +
        if track.loop.pipeline.isSome then 1 else 0 } := by
  unfold finalizePipeline
  split
  next hnone =>
    rw [hnone]
    rfl
  next pipeline hsome =>
    rw [hsome]
    simp only [progress, emit, foldl_write_closed]
    rfl

theorem writeTranscodeSequenceHeader_pipeline (epoch : ℕ) (dts : ℤ) :
    (track.writeTranscodeSequenceHeader epoch dts).loop.pipeline = track.loop.pipeline := by
  unfold writeTranscodeSequenceHeader
  split
  · rfl
  · unfold cacheSequenceHeader
    split
    · rfl
    · dsimp only
      split <;> rfl

theorem finalizePipeline_pipeline :
    track.finalizePipeline.loop.pipeline =
      track.loop.pipeline.map fun pipeline => pipeline.finalize.1 := by
  unfold finalizePipeline
  split
  next hnone =>
    rw [hnone]
    rfl
  next pipeline hsome =>
    rw [hsome]
    rfl

end Progress

/-! ## The steps -/

def Reading (track : TranscodedTrack reg) : Prop :=
  track.loop.pc = .tryRead ∨ ∃ pc, track.loop.pc = .blockingRead pc

def withReadCursor (readCursor : ℕ) (track : TranscodedTrack reg) : TranscodedTrack reg :=
  { track with loop := { track.loop with readCursor } }

inductive LoopMove (s : Stream) (track track' : TranscodedTrack reg) :
    Prop where
  | start (place : track.loop.pc = .start)
      (moved : track' = (track.writeTranscodeSequenceHeader track.audioEpochFloor 0).goto
          .checkContext)
  | cancelled (place : track.loop.pc = .checkContext ∨ track.loop.pc = .notRead)
      (cause : TranscodeCause) (found : track.cancelled = some cause)
      (moved : track' = track.stopWith cause)
  | checkEnd (place : track.loop.pc = .checkContext)
      (moved : track' = track.goto .checkEnd)
  | complete (stop : ℕ)
      (place : track.loop.pc = .checkEnd ∧ stop ≤ track.loop.readCursor ∨
        ∃ frame cursor, track.loop.pc = .gotFrame frame cursor ∧ stop < cursor)
      (ended : s.generationEndCursor track.generationBoundary = some stop)
      (moved : track' = track.complete stop)
  | tryRead (place : track.loop.pc = .checkEnd) (stop : ℕ)
      (ended : s.generationEndCursor track.generationBoundary = some stop)
      (before : track.loop.readCursor < stop)
      (moved : track' = track.goto .tryRead)
  | blockingRead (place : track.loop.pc = .checkEnd)
      (running : s.generationEndCursor track.generationBoundary = none)
      (moved : track' = track.goto (.blockingRead .entry))
  | waited (pc next : BlockingPc) (place : track.loop.pc = .blockingRead pc)
      (stepped : readResultContextStep s.ringBuffer track.loop.readCursor false
        track.loop.readCancelled pc = some (.goto next))
      (moved : track' = track.goto (.blockingRead next))
  | readNothing
      (place : track.loop.pc = .tryRead ∧ s.writeCursor ≤ track.loop.readCursor ∨
        ∃ pc, track.loop.pc = .blockingRead pc ∧
          (track.loop.readCancelled = true ∨ s.ringBuffer.closed = true))
      (moved : track' = track.goto .notRead)
  | readGap (place : track.Reading)
      (lapped : s.ringBuffer.lapped track.loop.readCursor = true)
      (cursor overwritten : ℕ) (forward : track.loop.readCursor ≤ cursor)
      (moved : track' = (track.withReadCursor cursor).stopWith (.sourceOverwrite overwritten))
  | readFrame (place : track.Reading) (frame : AVFrame) (cursor : ℕ)
      (result : RingReadResult (Option AVFrame))
      (read : tryReadResult s.ringBuffer track.loop.readCursor = (result, cursor))
      (ok : result.ok = true) (whole : result.overwritten = 0)
      (value : result.value = some frame)
      (moved : track' = (track.withReadCursor cursor).goto (.gotFrame frame cursor))
  | notReadEnd (place : track.loop.pc = .notRead)
      (alive : track.cancelled = none)
      (moved : track' = track.goto .notReadEnd)
  | resume (place : track.loop.pc = .notReadEnd) (stop : ℕ)
      (ended : s.generationEndCursor track.generationBoundary = some stop)
      (moved : track' = track.goto .checkContext)
  | sourceClosed (place : track.loop.pc = .notReadEnd)
      (running : s.generationEndCursor track.generationBoundary = none)
      (moved : track' = track.stopWith .sourceClosed)
  | handleFrame (frame : AVFrame) (cursor : ℕ)
      (place : track.loop.pc = .gotFrame frame cursor)
      (inside : ∀ stop, s.generationEndCursor track.generationBoundary = some stop → cursor ≤ stop)
      (moved : track' = track.goto (.handleFrame frame cursor))
  | handled (frame : AVFrame) (cursor : ℕ)
      (place : track.loop.pc = .handleFrame frame cursor)
      (handled : TranscodedTrack reg)
      (result : handled = track.handle s.audioSeqHeader frame ⟨cursor - 1, cursor⟩)
      (moved : track' = { handled with loop := { handled.loop with
        pc := .advance cursor
        consumed := handled.loop.consumed ++ [cursor - 1] } })
  | advance (cursor : ℕ) (place : track.loop.pc = .advance cursor)
      (moved : track' = (track.advanceSourceCursor cursor).goto .checkContext)
  | closeRing (place : track.loop.pc = .closeRing)
      (moved : track' = { track with ringBuffer := track.ringBuffer.close }.goto .closePipeline)
  | closePipeline (place : track.loop.pc = .closePipeline)
      (moved : track' = (track.setPipeline
        (track.loop.pipeline.map AudioTranscodePipeline.close)).goto .stopped)

variable {s : Stream} {track track' : TranscodedTrack reg}
  {result : RingReadResult (Option AVFrame)}

/-- What a read does to the loop, once the ring has answered. -/
theorem loopMove_of_read {cursor : ℕ} (hplace : track.Reading)
    (hread : tryReadResult s.ringBuffer track.loop.readCursor = (result, cursor))
    (hok : result.ok = true) (hafter : track.afterRead result cursor = some track') :
    LoopMove s track track' := by
  unfold afterRead at hafter
  rw [if_neg (by simp [hok])] at hafter
  split at hafter
  next hgap =>
    cases hafter
    refine .readGap hplace (lapped_of_overwritten ?_) cursor _ ?_ rfl
    · rw [hread]
      exact hgap
    · have hforward := le_tryReadResult_cursor s.ringBuffer track.loop.readCursor
      rw [hread] at hforward
      exact hforward
  next hwhole =>
    obtain ⟨frame, hvalue, rfl⟩ := Option.map_eq_some_iff.mp hafter
    exact .readFrame hplace frame cursor result hread hok (by omega) hvalue rfl

theorem loopMove_of_nothing
    (hplace : track.loop.pc = .tryRead ∧ s.writeCursor ≤ track.loop.readCursor ∨
      ∃ pc, track.loop.pc = .blockingRead pc ∧
        (track.loop.readCancelled = true ∨ s.ringBuffer.closed = true)) (hok : result.ok = false)
    (hafter : track.afterRead result track.loop.readCursor = some track') :
    LoopMove s track track' := by
  unfold afterRead at hafter
  rw [if_pos hok] at hafter
  cases hafter
  exact .readNothing hplace rfl

/-- The inversion lemma of the loop. -/
theorem loopMove_of_loopStep (h : track.loopStep s = some track') : LoopMove s track track' := by
  unfold loopStep at h
  dsimp only at h
  split at h
  next hpc => exact .start hpc (Option.some.inj h).symm
  next hpc =>
    split at h
    next cause hcause =>
      exact .cancelled (.inl hpc) cause hcause (Option.some.inj h).symm
    · exact .checkEnd hpc (Option.some.inj h).symm
  next hpc =>
    split at h
    next stop hended =>
      split at h
      next hle =>
        exact .complete stop (.inl ⟨hpc, hle⟩) hended (Option.some.inj h).symm
      next hlt =>
        exact .tryRead hpc stop hended (not_le.mp hlt) (Option.some.inj h).symm
    next hrunning => exact .blockingRead hpc hrunning (Option.some.inj h).symm
  next hpc =>
    cases hok : (tryReadResult s.ringBuffer track.loop.readCursor).1.ok with
    | true => exact loopMove_of_read (.inl hpc) rfl hok h
    | false =>
      have hempty : s.ringBuffer.writeCursor ≤ track.loop.readCursor := by
        rw [← Bool.not_eq_true, tryReadResult_ok_iff, not_lt] at hok
        exact hok
      have hcursor : (tryReadResult s.ringBuffer track.loop.readCursor).2 =
          track.loop.readCursor := by
        rw [tryReadResult, tryReadLoop_eq, if_pos hempty]
      rw [hcursor] at h
      exact loopMove_of_nothing (.inl ⟨hpc, hempty⟩) hok h
  next pc hpc =>
    split at h
    · simp at h
    next next hnext =>
      exact .waited pc next hpc hnext (Option.some.inj h).symm
    next result cursor hreturned =>
      cases readResultContextStep_returned hreturned with
      | value hok hread =>
        exact loopMove_of_read (.inr ⟨pc, hpc⟩) hread hok h
      | gaveUp hnothing hunmoved hreason =>
        subst hunmoved
        refine loopMove_of_nothing (.inr ⟨pc, hpc, ?_⟩) (by rw [hnothing]; rfl) h
        rcases hreason with hcancelled | hclosed | hring
        · exact .inl hcancelled
        · simp at hclosed
        · exact .inr hring
  next hpc =>
    split at h
    next cause hcause =>
      exact .cancelled (.inr hpc) cause hcause (Option.some.inj h).symm
    next halive => exact .notReadEnd hpc halive (Option.some.inj h).symm
  next hpc =>
    split at h
    next stop hended => exact .resume hpc stop hended (Option.some.inj h).symm
    next hrunning => exact .sourceClosed hpc hrunning (Option.some.inj h).symm
  next frame cursor hpc =>
    split at h
    next stop hended =>
      split at h
      next hlt =>
        exact .complete stop (.inr ⟨frame, cursor, hpc, hlt⟩) hended (Option.some.inj h).symm
      next hle =>
        refine .handleFrame frame cursor hpc ?_ (Option.some.inj h).symm
        intro stop' hstop'
        rw [hended] at hstop'
        cases hstop'
        exact not_lt.mp hle
    next hrunning =>
      refine .handleFrame frame cursor hpc ?_ (Option.some.inj h).symm
      intro stop' hstop'
      rw [hrunning] at hstop'
      simp at hstop'
  next frame cursor hpc =>
    exact .handled frame cursor hpc _ rfl (Option.some.inj h).symm
  next cursor hpc => exact .advance cursor hpc (Option.some.inj h).symm
  next hpc => exact .closeRing hpc (Option.some.inj h).symm
  next hpc => exact .closePipeline hpc (Option.some.inj h).symm
  · simp at h

/-! ## What a step does -/

theorem progress_advanceSourceCursor (cursor : ℕ) :
    (track.advanceSourceCursor cursor).progress =
      { track.progress with sourceCursor := max track.sourceCursor cursor } := by
  unfold advanceSourceCursor
  split
  next hle =>
    rw [max_eq_left hle]
    rfl
  next hlt =>
    rw [max_eq_right (not_le.mp hlt).le]
    rfl

theorem identity_complete (endCursor : ℕ) :
    (track.complete endCursor).identity = track.identity := by
  refine (congrArg TrackProgress.identity (progress_advanceSourceCursor endCursor)).trans ?_
  exact congrArg TrackProgress.identity track.progress_finalizePipeline

/-- Why a step ends the loop. -/
inductive LoopExit (s : Stream) (track track' : TranscodedTrack reg) : Prop where
  | cancelled (place : track.loop.pc = .checkContext ∨ track.loop.pc = .notRead)
      (cause : TranscodeCause) (found : track.cancelled = some cause)
  | complete (stop : ℕ) (ended : s.generationEndCursor track.generationBoundary = some stop)
      (reached : stop ≤ track'.sourceCursor)
  | gap (place : track.Reading) (lapped : s.ringBuffer.lapped track.loop.readCursor = true)
  | sourceClosed (place : track.loop.pc = .notReadEnd)
      (running : s.generationEndCursor track.generationBoundary = none)

/-- A step leaves the fields of the manager alone, never takes back a reported
position, and stops the producer for a reason. -/
structure LoopEffect (s : Stream) (track track' : TranscodedTrack reg) : Prop where
  identity : track'.identity = track.identity
  sourceCursor : track.sourceCursor ≤ track'.sourceCursor
  termination : track'.termination = track.termination ∨ LoopExit s track track'

theorem loopEffect_of_loopStep (h : track.loopStep s = some track') :
    LoopEffect s track track' := by
  have hkept : ∀ {kept : TranscodedTrack reg}, kept.progress = track.progress →
      kept.identity = track.identity ∧ track.sourceCursor ≤ kept.sourceCursor ∧
        kept.termination = track.termination := by
    intro kept hprogress
    exact ⟨congrArg TrackProgress.identity hprogress,
      (congrArg TrackProgress.sourceCursor hprogress).ge,
      congrArg TrackProgress.termination hprogress⟩
  cases loopMove_of_loopStep h with
  | start _ hmoved =>
    obtain ⟨hidentity, hcursor, hterm⟩ := hkept (track.progress_writeTranscodeSequenceHeader _ _)
    exact hmoved ▸ ⟨hidentity, hcursor, .inl hterm⟩
  | handled frame _ _ handled hresult hmoved =>
    obtain ⟨hidentity, hcursor, hterm⟩ := hkept (hresult ▸ track.progress_handle _ frame _)
    exact hmoved ▸ ⟨hidentity, hcursor, .inl hterm⟩
  | advance cursor _ hmoved =>
    have hprogress := track.progress_advanceSourceCursor cursor
    exact hmoved ▸ ⟨congrArg TrackProgress.identity hprogress,
      (le_max_left _ _).trans (congrArg TrackProgress.sourceCursor hprogress).ge,
      .inl (congrArg TrackProgress.termination hprogress)⟩
  | complete stop _ hended hmoved =>
    have hcursor : (track.complete stop).sourceCursor = max track.sourceCursor stop :=
      (congrArg TrackProgress.sourceCursor (progress_advanceSourceCursor stop)).trans
        (congrArg (max · stop)
          (congrArg TrackProgress.sourceCursor track.progress_finalizePipeline))
    exact hmoved ▸ ⟨identity_complete stop, (le_max_left _ _).trans hcursor.ge,
      .inr (.complete stop hended ((le_max_right _ _).trans hcursor.ge))⟩
  | cancelled hplace cause hfound hmoved =>
    exact hmoved ▸ ⟨rfl, le_rfl, .inr (.cancelled hplace cause hfound)⟩
  | readGap hplace hlapped _ _ _ hmoved =>
    exact hmoved ▸ ⟨rfl, le_rfl, .inr (.gap hplace hlapped)⟩
  | sourceClosed hplace hrunning hmoved =>
    exact hmoved ▸ ⟨rfl, le_rfl, .inr (.sourceClosed hplace hrunning)⟩
  | checkEnd _ hmoved | readNothing _ hmoved | closeRing _ hmoved | closePipeline _ hmoved
  | tryRead _ _ _ _ hmoved | waited _ _ _ _ hmoved | handleFrame _ _ _ _ hmoved
  | blockingRead _ _ hmoved | notReadEnd _ _ hmoved | resume _ _ _ hmoved
  | readFrame _ _ _ _ _ _ _ _ hmoved =>
    exact hmoved ▸ ⟨rfl, le_rfl, .inl rfl⟩

theorem identity_cancelRead (h : track.cancelRead s = some track') :
    track'.identity = track.identity := by
  unfold cancelRead at h
  split_ifs at h
  cases h
  rfl

end TranscodedTrack

end LiveForge.Core
