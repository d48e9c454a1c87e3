import LiveForge.HttpStream.Segmenter

/-!
# Segments and the generation boundary

A segmenter checks the end of its generation, and then waits in the ring for a
frame.  If the generation ends and the next publisher writes a frame in
between, the read returns that frame, and it goes into a segment of the old
generation.  As long as nobody writes while a segmenter waits at the end of a
generation that is over, all frames come from before the end.
-/

namespace LiveForge.HttpStream

open LiveForge.Core LiveForge.Ring Support

/-! ## What a segmenter knows at each place -/

namespace Segmenter

def ended (s : Stream) (seg : Segmenter) : Option ℕ :=
  s.generationEndCursor seg.generationBoundary

/-- The frame was written at this position, before the end of the
generation. -/
def Before (t : StreamTrace) (seg : Segmenter) (read : ℕ × AVFrame) : Prop :=
  t.log[read.1]? = some read.2 ∧ ∀ stop, seg.ended t.stream = some stop → read.1 < stop

/-- A reader at the end of its generation finds nothing to read. -/
def NothingBeyond (s : Stream) (seg : Segmenter) : Prop :=
  ∀ stop, seg.ended s = some stop → stop ≤ seg.readCursor → s.writeCursor ≤ seg.readCursor

def At (s : Stream) (seg : Segmenter) : SegmentPc → Prop
  | .drain stop => seg.ended s = some stop
  | .blockingRead _ => seg.NothingBeyond s
  | .gotFrame position frame => (position, frame) ∈ seg.returned
  | .checkGone position frame => (position, frame) ∈ seg.returned
  | .addFrame position frame => (position, frame) ∈ seg.returned
  | _ => True

end Segmenter

structure SegmenterInv (t : StreamTrace) (seg : Segmenter) : Prop where
  place : seg.At t.stream seg.pc
  returned : ∀ read ∈ seg.returned, seg.Before t read
  added : ∀ read ∈ seg.added, read ∈ seg.returned

variable {cfg : SegmenterConfig}

namespace SegmenterInv

variable {t t' : StreamTrace} {seg seg' : Segmenter}

/-! ## The steps of the loop -/

section Places

variable (h : SegmenterInv t seg)

include h

theorem goto {pc : SegmentPc} (hplace : seg.At t.stream pc) : SegmenterInv t (seg.goto pc) :=
  ⟨hplace, h.returned, h.added⟩

variable {result : RingReadResult (Option AVFrame)} {cursor : ℕ}

/-- A read with a gap, or of a frame before the end of the generation. -/
theorem returnRead (hsource : SourceInv t)
    (hread : tryReadResult t.stream.ringBuffer seg.readCursor =
      (result, cursor)) (hok : result.ok = true)
    (hbefore : result.overwritten = 0 → cursor = seg.readCursor + 1 →
      ∀ stop, seg.ended t.stream = some stop → seg.readCursor < stop) :
    SegmenterInv t (seg.returnRead result cursor) := by
  unfold Segmenter.returnRead
  split
  · exact ⟨trivial, h.returned, h.added⟩
  next hgap =>
    have hnone : result.overwritten = 0 := by omega
    obtain ⟨hnext, -, frame, hvalue, hget⟩ := hsource.read_eq hread hok hnone
    rw [hvalue]
    refine ⟨?_, ?_, ?_⟩
    · exact List.mem_append_right _ (List.mem_singleton_self _)
    · refine forall_mem_concat h.returned ?_
      rw [hnext]
      exact ⟨hget, hbefore hnone hnext⟩
    · intro read hmem
      exact List.mem_append_left _ (h.added read hmem)

theorem recoverWith (cfg : SegmenterConfig) (current : StreamStartupSnapshot) :
    SegmenterInv t (seg.recoverWith cfg t.stream current) := by
  unfold Segmenter.recoverWith
  dsimp only
  split
  · split
    · exact ⟨trivial, h.returned, h.added⟩
    · exact ⟨trivial, h.returned, h.added⟩
  · exact ⟨trivial, h.returned, h.added⟩

/-- A loop that sees the end of its generation checks what it reads. -/
theorem drain (hsource : SourceInv t) {stop : ℕ} (hstop : seg.ended t.stream = some stop)
    (hok : (tryReadResult t.stream.ringBuffer seg.readCursor).1.ok = true)
    (hchecked : (tryReadResult t.stream.ringBuffer seg.readCursor).1.overwritten = 0 →
      (tryReadResult t.stream.ringBuffer seg.readCursor).2 ≤ stop) :
    SegmenterInv t
      (seg.returnRead (tryReadResult t.stream.ringBuffer seg.readCursor).1
        (tryReadResult t.stream.ringBuffer seg.readCursor).2) := by
  refine h.returnRead hsource rfl hok ?_
  intro hnone hnext stop' hstop'
  obtain rfl : stop = stop' := Option.mem_unique hstop hstop'
  omega

theorem blockingRead (hsource : SourceInv t) (hnothing : seg.NothingBeyond t.stream)
    (hreturned : ReturnedBy t.stream.ringBuffer seg.readCursor false
      seg.readCancelled result cursor) (hok : result.ok = true) :
    SegmenterInv t (seg.returnRead result cursor) := by
  cases hreturned with
  | gaveUp hnone =>
    rw [hnone] at hok
    exact absurd hok Bool.false_ne_true
  | value _ hread =>
    refine h.returnRead hsource hread hok ?_
    intro _ _ stop hstop
    by_contra hbeyond
    have hempty := hnothing stop hstop (not_lt.mp hbeyond)
    have hsome : seg.readCursor < t.stream.ringBuffer.writeCursor := by
      apply tryReadResult_ok_iff.mp
      rw [hread]
      exact hok
    exact absurd hempty (not_le.mpr hsome)

theorem loop (hsource : SourceInv t) (hstep : seg.step cfg t.stream = some seg') :
    SegmenterInv t seg' := by
  have hplace := h.place
  unfold Segmenter.step at hstep
  dsimp only at hstep
  -- one case for each place of the loop
  split at hstep
  · cases hstep
    apply h.goto
    split <;> trivial
  · split at hstep
    next stop hstop =>
      split at hstep
      · cases hstep
        exact h.goto trivial
      · cases hstep
        exact h.goto hstop
    next hopen =>
      cases hstep
      apply h.goto
      intro stop hstop
      rw [Segmenter.ended, hopen] at hstop
      cases hstop
  next stop hpc =>
    rw [hpc] at hplace
    split at hstep
    · cases hstep
      exact ⟨trivial, h.returned, h.added⟩
    next hread =>
      cases hstep
      rw [not_or, not_and, not_lt] at hread
      exact h.drain hsource hplace (Bool.eq_true_of_not_eq_false hread.1) hread.2
  next pc hpc =>
    rw [hpc] at hplace
    split at hstep
    · cases hstep
    · cases hstep
      exact h.goto hplace
    next result cursor hread =>
      split at hstep
      next hok =>
        cases hstep
        exact h.blockingRead hsource hplace (readResultContextStep_returned hread) hok
      · cases hstep
        exact ⟨trivial, h.returned, h.added⟩
  · split at hstep <;> cases hstep
    · exact h.goto trivial
    · exact h.goto trivial
  · split at hstep <;> cases hstep
    all_goals exact h.goto trivial
  · split at hstep <;> cases hstep
    · exact h.goto trivial
    · exact h.goto trivial
  · cases hstep
    exact h.recoverWith cfg _
  next hpc =>
    rw [hpc] at hplace
    split at hstep <;> cases hstep
    · exact h.goto hplace
    · exact h.goto hplace
  next hpc =>
    rw [hpc] at hplace
    split at hstep <;> cases hstep
    · exact h.goto hplace
    · exact h.goto trivial
  next hpc =>
    rw [hpc] at hplace
    split at hstep <;> cases hstep
    · exact ⟨trivial, h.returned, forall_mem_concat h.added hplace⟩
    · exact h.goto trivial
  · cases hstep
  · cases hstep

end Places

/-! ## The steps of the stream -/

variable {a : StreamAction}

/-- The end of a generation is the write cursor, so a reader at the end finds
nothing, until the next write. -/
theorem nothingBeyond_stream (hsource : SourceInv t) (hsource' : SourceInv t')
    (hstep : t.step a = some t') (hnothing : seg.NothingBeyond t.stream)
    (hwait : (∃ pub clock frame, a = .writeFrameForPublisher pub clock frame) →
      ∀ stop, seg.ended t.stream = some stop → seg.readCursor < stop) :
    seg.NothingBeyond t'.stream := by
  intro stop hstop hbeyond
  rcases (StreamLater.of_step hstep).newEnd _ stop hstop with hold | ⟨rfl, hcursor⟩
  · have hnot : ∀ pub clock frame, a ≠ .writeFrameForPublisher pub clock frame := by
      intro pub clock frame ha
      have hlt := hwait ⟨pub, clock, frame, ha⟩ stop hold
      omega
    have hsame : t'.stream.writeCursor = t.stream.writeCursor := by
      rw [Stream.writeCursor, hsource'.history.holds.cursor,
        Stream.writeCursor, hsource.history.holds.cursor, StreamTrace.log,
        StreamTrace.log, StreamTrace.written_of_step hstep hnot]
    rw [hsame]
    exact hnothing stop hold hbeyond
  · rw [hcursor]
    exact hbeyond

theorem before_stream (hstep : t.step a = some t') (hsource : SourceInv t) {read : ℕ × AVFrame}
    (h : seg.Before t read) :
    seg.Before t' read := by
  refine ⟨StreamTrace.log_getElem?_of_step hstep h.1, ?_⟩
  intro stop hstop
  rcases (StreamLater.of_step hstep).newEnd _ stop hstop with hold | ⟨rfl, -⟩
  · exact h.2 stop hold
  · have hlt := (List.getElem?_eq_some_iff.mp h.1).1
    rw [Stream.writeCursor, hsource.history.holds.cursor, List.length_map]
    exact hlt

theorem stream (h : SegmenterInv t seg) (hsource : SourceInv t) (hstep : t.step a = some t')
    (hwait : ∀ pc, seg.pc = .blockingRead pc →
      (∃ pub clock frame, a = .writeFrameForPublisher pub clock frame) →
      ∀ stop, seg.ended t.stream = some stop → seg.readCursor < stop) :
    SegmenterInv t' seg := by
  refine ⟨?_, ?_, h.added⟩
  · have hplace := h.place
    cases hpc : seg.pc with
    | drain stop =>
      rw [hpc] at hplace
      exact (StreamLater.of_step hstep).keptEnd _ _ hplace
    | blockingRead pc =>
      rw [hpc] at hplace
      exact nothingBeyond_stream hsource (hsource.step hstep) hstep hplace (hwait pc hpc)
    | gotFrame position frame | checkGone position frame
    | addFrame position frame => rwa [hpc] at hplace
    | _ => trivial
  · intro read hmem
    exact before_stream hstep hsource (h.returned read hmem)

end SegmenterInv

/-! ## Runs -/

def SegmentPc.isBlockingRead : SegmentPc → Bool
  | .blockingRead _ => true
  | _ => false

def SegmentAction.isWrite : SegmentAction → Bool
  | .stream (.writeFrameForPublisher _ _ _) => true
  | _ => false

/-- No write happens while the segmenter is inside a blocking read and has
read all of its generation, which is over. -/
def WritesWait (s : SegmentSystem) (a : SegmentAction) : Prop :=
  ∀ seg ∈ s.segmenter, seg.pc.isBlockingRead = true → a.isWrite = true →
    ∀ stop ∈ seg.ended s.trace.stream, seg.readCursor < stop

instance (s : SegmentSystem) (a : SegmentAction) : Decidable (WritesWait s a) :=
  inferInstanceAs (Decidable (∀ seg ∈ s.segmenter, _))

structure SegmentInv (s : SegmentSystem) : Prop where
  source : SourceInv s.trace
  segmenter : ∀ seg ∈ s.segmenter, SegmenterInv s.trace seg

namespace SegmentInv

theorem initial (key : String) (instanceID : ℕ) (cfg : StreamConfig) (limits : LimitsConfig) :
    SegmentInv (SegmentSystem.initial key instanceID cfg limits) := by
  refine ⟨SourceInv.initial key instanceID cfg limits, ?_⟩
  intro seg hseg
  cases hseg

variable {s s' : SegmentSystem}

theorem withSegmenter (h : SegmentInv s) {seg : Segmenter} (hseg : SegmenterInv s.trace seg) :
    SegmentInv { s with segmenter := some seg } := by
  refine ⟨h.source, ?_⟩
  intro seg' hseg'
  cases hseg'
  exact hseg

theorem step (h : SegmentInv s) {a : SegmentAction} (hwait : WritesWait s a)
    (hstep : s.step cfg a = some s') :
    SegmentInv s' := by
  cases a with
  | stream a =>
    obtain ⟨t', ht', rfl⟩ := Option.map_eq_some_iff.mp hstep
    refine ⟨h.source.step ht', ?_⟩
    intro seg hseg
    refine (h.segmenter seg hseg).stream h.source ht' ?_
    rintro pc hpc ⟨pub, clock, frame, rfl⟩ stop hstop
    exact hwait seg hseg (by rw [hpc]; rfl) rfl stop hstop
  | start readCursor =>
    simp only [SegmentSystem.step] at hstep
    split_ifs at hstep
    cases hstep
    refine h.withSegmenter ⟨trivial, ?_, ?_⟩
    · intro read hread
      exact absurd hread List.not_mem_nil
    · intro read hread
      exact absurd hread List.not_mem_nil
  | loop =>
    obtain ⟨seg', hseg', rfl⟩ := Option.map_eq_some_iff.mp hstep
    obtain ⟨seg, hseg, hloop⟩ := Option.bind_eq_some_iff.mp hseg'
    exact h.withSegmenter ((h.segmenter seg hseg).loop h.source hloop)
  | cancelRead =>
    obtain ⟨seg', hseg', rfl⟩ := Option.map_eq_some_iff.mp hstep
    obtain ⟨seg, hseg, hcancel⟩ := Option.bind_eq_some_iff.mp hseg'
    have hinv := h.segmenter seg hseg
    unfold Segmenter.cancelRead at hcancel
    split_ifs at hcancel
    cases hcancel
    exact h.withSegmenter { hinv with }
  | stop =>
    obtain ⟨seg, hseg, rfl⟩ := Option.map_eq_some_iff.mp hstep
    have hinv := h.segmenter seg hseg
    exact h.withSegmenter { hinv with }

end SegmentInv

/-- If writes wait, every frame that `readSegmentFrame` returned, and with it
every frame added to a segment, lies before the end of the generation. -/
theorem segmenter_stops_at_boundary (scfg : SegmenterConfig) (key : String) (instanceID : ℕ)
    (cfg : StreamConfig) (limits : LimitsConfig) (acts : List SegmentAction) (s : SegmentSystem)
    (hrun : runFrom (SegmentSystem.step scfg)
      (SegmentSystem.initial key instanceID cfg limits) acts = some s)
    (hmeet : StepsMeet WritesWait (SegmentSystem.step scfg)
      (SegmentSystem.initial key instanceID cfg limits) acts) :
    ∀ seg, s.segmenter = some seg → ∀ position frame,
      (position, frame) ∈ seg.returned ∨ (position, frame) ∈ seg.added →
        s.trace.log[position]? = some frame ∧
          ∀ stop, s.trace.stream.generationEndCursor seg.generationBoundary = some stop →
            position < stop := by
  intro seg hseg position frame hread
  have hinv : SegmentInv s :=
    runFrom_invariant_of_stepsMeet (fun _ _ _ h hwait hstep => h.step hwait hstep)
      (SegmentInv.initial key instanceID cfg limits) hmeet hrun
  have hsegmenter := hinv.segmenter seg hseg
  rcases hread with hreturned | hadded
  · exact hsegmenter.returned _ hreturned
  · exact hsegmenter.returned _ (hsegmenter.added _ hadded)

def hlsConfig : SegmenterConfig :=
  { kind := .hls
    compatible := fun codec => decide (codec = .aac)
    canTranscode := fun _ => false
    transcodeReader := false }

def standby : Publisher := ⟨"standby", some 1, none⟩

def writeKeyframe (pub : Publisher) (payload : Bytes) : SegmentAction :=
  .stream (.writeFrameForPublisher (some pub) ⟨0, 0⟩
    (some (newAVFrame .video .h264 .keyframe 0 0 payload)))

/-- A segmenter waits in the ring for the second keyframe. -/
def waitingSegmenter : List SegmentAction :=
  [.stream (.setPublisher (some camera) 0), .stream (.writeFrameForPublisher (some camera) ⟨0, 0⟩
      (some (newAVFrame .video .h264 .sequenceHeader 0 0 [1]))),
    writeKeyframe camera [2], .start 2, .loop, .loop, .loop]

def replaceCamera : List SegmentAction :=
  [.stream .removePublisher, .stream (.setPublisher (some standby) 0)]

/-- `standby` takes over while the segmenter waits. -/
def replacedWhileReading : List SegmentAction :=
  waitingSegmenter ++ replaceCamera ++ [writeKeyframe standby [3], .loop, .loop, .loop, .loop]

/-- `standby` takes over after the segmenter got its frame. -/
def replacedAfterReading : List SegmentAction :=
  waitingSegmenter ++ [writeKeyframe camera [3], .loop, .loop, .loop] ++ replaceCamera ++
    [writeKeyframe standby [4], .loop, .loop]

theorem segmenter_crosses_boundary :
    ∃ s, runFrom (SegmentSystem.step hlsConfig) (SegmentSystem.initial "live" 1 smallCache noLimits)
      replacedWhileReading = some s ∧ ∃ seg, s.segmenter = some seg ∧
      s.trace.stream.generationEndCursor seg.generationBoundary = some 2 ∧
      seg.returned.map Prod.fst = [2] ∧ seg.added = seg.returned :=
  ⟨_, rfl, _, rfl, by decide, by decide, rfl⟩

theorem segmenter_stops_at_boundary_replaced :
    ∃ s seg, runFrom (SegmentSystem.step hlsConfig)
      (SegmentSystem.initial "live" 1 smallCache noLimits) replacedAfterReading = some s ∧
      s.segmenter = some seg ∧ seg.pc = .stopped ∧
      s.trace.stream.generationEndCursor seg.generationBoundary = some 3 ∧
      s.trace.stream.writeCursor = 4 ∧ seg.added.map Prod.fst = [2] ∧
      ∀ position frame, (position, frame) ∈ seg.added → position < 3 := by
  refine ⟨_, _, rfl, rfl, rfl, by decide, by decide, by decide, ?_⟩
  intro position frame hmem
  exact (segmenter_stops_at_boundary hlsConfig "live" 1 smallCache noLimits
    replacedAfterReading _ rfl (by decide) _ rfl position frame
    (.inr hmem)).2 3 (by decide)

end LiveForge.HttpStream
