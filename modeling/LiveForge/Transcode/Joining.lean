import LiveForge.Transcode.Producer

/-!
# Joining a track

A reader that asks for a codec joins the track that is mapped, whatever has
become of its producer.  The producer of a mapped track whose generation goes
on is never cancelled and finds no end and no closed ring, so there is one
thing left that stops it: reading a position that has been overwritten.
-/

namespace LiveForge.Core

open AudioCodec LiveForge.Ring Support TranscodeManager PointerTable TranscodeSystem

variable {reg : Registry} {track : TranscodedTrack reg} {k : TrackKey} {p : ℕ} {a : TranscodeAction}
  {r : ReaderRequest}

/-- The producer runs and the ring of the track is open. -/
def TranscodedTrack.Live (track : TranscodedTrack reg) : Prop :=
  track.loop.pc ≠ .closeRing ∧ track.loop.pc ≠ .closePipeline ∧
    track.loop.pc ≠ .stopped ∧ track.ringBuffer.closed = false

/-- Nobody has decided to stop the producer. -/
theorem ProducerInv.live {s : Stream} (h : ProducerInv s track) (hnone : track.termination = none) :
    track.Live := by
  rcases h.holds.running_or_finished with
    ⟨hrunning, -, hring, hpipeline, hstopped⟩ | ⟨-, cause, hcause, -⟩
  · exact ⟨hring, hpipeline, hstopped, hrunning.ringOpen⟩
  · rw [show track.progress.termination = none from hnone] at hcause
    simp at hcause

/-! ## The mapped tracks belong to the current generation -/

/-- The generation of a stream changes only when a publisher is installed. -/
theorem generationBoundary_of_step {t t' : StreamTrace} {a : StreamAction}
    (hstep : t.step a = some t') :
    t'.stream.generationBoundary = t.stream.generationBoundary ∨
      ∃ pub now s', a = .setPublisher (some pub) now ∧
        t.stream.setPublisher (some pub) now = .ok s' := by
  cases StreamTrace.effect_of_step hstep with
  | quiet hgen | write _ _ _ _ hgen | closeRing _ hgen => exact .inl (by rw [hgen])
  | install pub now hcalled hvacant hfresh =>
    refine .inr ⟨pub, now, t.stream.startGeneration pub now, hcalled, ?_⟩
    simp [Stream.setPublisher, hvacant.1, hvacant.2, hfresh]
  | detach _ hgen | retire _ hgen =>
    left
    rw [hgen]
    exact BoundaryInv.closeGeneration_generationBoundary _ _
  | expire _ hgen => exact .inl (by rw [hgen]; rfl)

namespace TranscodeSystem

variable {s s' : TranscodeSystem reg}

theorem acquireTrack_pointer? {stream : Stream}
    (h : (s.manager.acquireTrack stream r).2.tracks.pointer? k = some p) :
    s.tracks.pointer? k = some p ∨ p = s.tracks.cells.length := by
  unfold acquireTrack at h
  split at h
  · exact .inl h
  · simp only [addLease] at h
    rw [pointer?_insertNew] at h
    split at h
    · exact .inr (Option.some.inj h).symm
    · exact .inl h

theorem releaseTrack_pointer? {tracks : TrackTable reg} {key : TrackKey} {acquired : ℕ}
    (h : (releaseTrack key acquired tracks).pointer? k = some p) :
    tracks.pointer? k = some p := by
  unfold releaseTrack at h
  split at h
  · dsimp only at h
    split at h
    · split at h
      · rw [pointer?_erase] at h
        split_ifs at h
        exact h
      · exact h
    · exact h
  · exact h

theorem finishRelease_pointer? {tm tm' : TranscodeManager reg} {i : ℕ}
    (hrelease : tm.finishRelease i = some tm') (h : tm'.tracks.pointer? k = some p) :
    tm.tracks.pointer? k = some p := by
  unfold finishRelease at hrelease
  split at hrelease
  · split_ifs at hrelease
    cases hrelease
    exact releaseTrack_pointer? h
  · simp at hrelease

/-- A key keeps its track, loses it, or gets a new one. -/
theorem pointer?_of_step (hstep : s.step a = some s') (hp : s'.tracks.pointer? k = some p) :
    s.tracks.pointer? k = some p ∨ p = s.tracks.cells.length := by
  cases move_of_step hstep with
  | stream act trace _ hmoved =>
    subst hmoved
    unfold tracks at hp
    rcases s.resetBefore_cases act with ⟨_, _, _, _, _, hreset⟩ | ⟨_, hsame⟩
    · rw [hreset, reset_pointer?] at hp
      simp at hp
    · rw [hsame] at hp
      exact .inl hp
  | untracked r hmoved => exact .inl (hmoved ▸ hp)
  | acquired r _ hmoved =>
    subst hmoved
    exact acquireTrack_pointer? hp
  | callRelease i hmoved | loop q _ _ _ _ hmoved | cancelRead q _ _ _ _ hmoved =>
    subst hmoved
    exact .inl hp
  | finishRelease i manager hreleased hmoved =>
    subst hmoved
    exact .inl (finishRelease_pointer? hreleased hp)
  | reset hmoved =>
    subst hmoved
    rw [tracks, reset_pointer?] at hp
    simp at hp

end TranscodeSystem

/-- An accepted request is about the current generation. -/
theorem boundaryOf_eq {s : Stream} {snapshot : Option StreamStartupSnapshot}
    (hok : checkRequest s snapshot = .ok ()) :
    TranscodeSystem.boundaryOf s snapshot = s.generationBoundary := by
  cases snapshot with
  | none => rfl
  | some snap =>
    by_contra hne
    rw [checkRequest, if_pos (.inr (.inr (Ne.symm hne)))] at hok
    simp at hok

/-- All mapped tracks belong to the current generation. -/
def CurrentInv (s : TranscodeSystem reg) : Prop :=
  ∀ (k : TrackKey) (p : ℕ) (track : TranscodedTrack reg),
    s.tracks.pointer? k = some p → s.tracks.cells[p]? = some track →
      track.generationBoundary = s.trace.stream.generationBoundary

section Step

variable {s s' : TranscodeSystem reg} {track' : TranscodedTrack reg}

/-- As long as a track is mapped, no other publisher is installed. -/
theorem generationBoundary_of_mapped (hstep : s.step a = some s')
    (hp : s'.tracks.pointer? k = some p) :
    s'.trace.stream.generationBoundary = s.trace.stream.generationBoundary := by
  rcases TranscodeInv.trace_of_step hstep with heq | ⟨act, rfl, hact⟩
  · rw [heq]
  · rcases generationBoundary_of_step hact with hsame | ⟨pub, now, new, ha, hok⟩
    · exact hsame
    · obtain ⟨trace, -, rfl⟩ := Option.map_eq_some_iff.mp hstep
      -- the reset has deleted all keys
      rcases s.resetBefore_cases act with ⟨_, _, _, _, _, hreset⟩ | ⟨hrefused, _⟩
      · rw [TranscodeSystem.tracks, hreset, reset_pointer?] at hp
        simp at hp
      · exact absurd hok (hrefused pub now new ha)

theorem mapped_of_step (h : TranscodeInv s) (hstep : s.step a = some s')
    (hp : s'.tracks.pointer? k = some p) (hget' : s'.tracks.cells[p]? = some track') :
    (∃ track, s.tracks.pointer? k = some p ∧
      s.tracks.cells[p]? = some track ∧ TrackChange s a p track track') ∨
    ∃ r codec, checkRequest s.trace.stream r.snapshot = .ok () ∧ track' = s.newTrack r codec := by
  rcases pointer?_of_step hstep hp with hold | rfl
  · obtain ⟨track, hget, -⟩ := h.lifetime.valid.get?_isSome hold
    obtain ⟨changed, hchanged, hchange⟩ := trackChange_of_step h.lifetime hstep hget
    obtain rfl := Option.mem_unique hget' hchanged
    exact .inl ⟨track, hold, hget, hchange⟩
  · obtain ⟨r, codec, hok, hnew⟩ := newTrack_of_step hstep (by simp) hget'
    exact .inr ⟨r, codec, hok, hnew⟩

theorem CurrentInv.step (hinv : TranscodeInv s) (h : CurrentInv s) (hstep : s.step a = some s') :
    CurrentInv s' := by
  intro k p track' hp hget'
  rw [generationBoundary_of_mapped hstep hp]
  rcases mapped_of_step hinv hstep hp hget' with ⟨track, hold, hget, hchange⟩ | ⟨r, codec, hok, rfl⟩
  · rw [hchange.kept.2]
    exact h k p track hold hget
  · exact boundaryOf_eq hok

/-! ## The producers of mapped tracks -/

/-- No producer of a mapped track reads a position that has been overwritten
while its generation goes on. -/
def KeepsUp (s : TranscodeSystem reg) (a : TranscodeAction) : Prop :=
  ∀ (k : TrackKey) (p : ℕ) (track : TranscodedTrack reg), a = .loop p →
    s.tracks.pointer? k = some p → s.tracks.cells[p]? = some track →
      s.trace.stream.generationEndCursor track.generationBoundary = none → track.Reading →
          s.trace.stream.ringBuffer.lapped track.loop.readCursor = false

/-- A mapped track whose generation goes on has a producer. -/
def RunningInv (s : TranscodeSystem reg) : Prop :=
  ∀ (k : TrackKey) (p : ℕ) (track : TranscodedTrack reg),
    s.tracks.pointer? k = some p → s.tracks.cells[p]? = some track →
      s.trace.stream.generationEndCursor track.generationBoundary = none → track.termination = none

theorem ProducerInv.ended_of_notReadEnd {s : Stream}
    (h : ProducerInv s track) (hpc : track.loop.pc = .notReadEnd) :
    s.generationEndCursor track.generationBoundary ≠ none := by
  have hat := h.holds
  rw [hpc] at hat
  exact Option.isSome_iff_ne_none.mp hat.2

/-- The four reasons to stop are out of reach. -/
theorem termination_of_loopStep {t : StreamTrace}
    (h : ProducerInv t.stream track) (halive : track.cancelled = none)
    (hrunning : t.stream.generationEndCursor track.generationBoundary = none)
    (hkeeps : track.Reading → t.stream.ringBuffer.lapped track.loop.readCursor = false)
    (hnone : track.termination = none) (hstep : track.loopStep t.stream = some track') :
    track'.termination = none := by
  rcases (TranscodedTrack.loopEffect_of_loopStep hstep).termination with hsame | hexit
  · exact hsame.trans hnone
  · cases hexit with
    | cancelled _ cause hfound =>
      rw [halive] at hfound
      simp at hfound
    | complete stop hended =>
      rw [hrunning] at hended
      simp at hended
    | gap hplace hlapped =>
      rw [hkeeps hplace] at hlapped
      simp at hlapped
    | sourceClosed hpc hopen => exact absurd hopen (h.ended_of_notReadEnd hpc)

theorem TrackChange.termination_or_loop (h : TrackChange s a p track track') :
    track'.termination = track.termination ∨
      a = .loop p ∧ track.loopStep s.trace.stream = some track' := by
  cases h with
  | same heq | joined heq | left heq | dropped _ _ _ _ _ _ heq | reset _ _ heq =>
    exact .inl (heq ▸ rfl)
  | loop hcalled hmoved => exact .inr ⟨hcalled, hmoved⟩
  | cancelRead _ hmoved =>
    unfold TranscodedTrack.cancelRead at hmoved
    split_ifs at hmoved
    exact .inl ((Option.some.inj hmoved) ▸ rfl)

theorem RunningInv.step (hinv : TranscodeInv s) (h : RunningInv s) (hkeeps : KeepsUp s a)
    (hstep : s.step a = some s') :
    RunningInv s' := by
  intro k p track' hp hget' hopen'
  rcases mapped_of_step hinv hstep hp hget' with ⟨track, hold, hget, hchange⟩ | ⟨r, codec, -, rfl⟩
  · -- a generation that goes on after the step went on before
    have hopen : s.trace.stream.generationEndCursor track.generationBoundary =
        none := by
      by_contra hsome
      obtain ⟨stop, hstop⟩ := Option.ne_none_iff_exists'.mp hsome
      rw [hchange.kept.2,
        (TranscodeInv.streamLater hstep).keptEnd _ stop hstop] at hopen'
      simp at hopen'
    have hnone := h k p track hold hget hopen
    rcases hchange.termination_or_loop with hsame | ⟨hcalled, hmoved⟩
    · exact hsame.trans hnone
    · obtain ⟨-, -, halive⟩ := hinv.lifetime.counted k p track hold hget
      exact termination_of_loopStep (hinv.producers p track hget) halive hopen
        (hkeeps k p track hcalled hold hget hopen) hnone hmoved
  · rfl

structure JoinInv (s : TranscodeSystem reg) : Prop where
  base : TranscodeInv s
  current : CurrentInv s
  running : RunningInv s

theorem JoinInv.initial (reg : Registry) (key : String) (instanceID : ℕ) (cfg : StreamConfig)
    (limits : LimitsConfig) (bufSize : ℤ) :
    JoinInv (TranscodeSystem.initial reg key instanceID cfg limits bufSize) := by
  have hnone : ∀ k p, (TranscodeSystem.initial reg key instanceID cfg limits
      bufSize).tracks.pointer? k ≠ some p := by
    intro k p hp
    simp [TranscodeSystem.initial, TranscodeSystem.tracks, new, pointer?, empty] at hp
  exact ⟨TranscodeInv.initial reg key instanceID cfg limits bufSize,
    fun k p _ hp => absurd hp (hnone k p),
    fun k p _ hp => absurd hp (hnone k p)⟩

theorem JoinInv.step (h : JoinInv s) (hkeeps : KeepsUp s a) (hstep : s.step a = some s') :
    JoinInv s' :=
  ⟨h.base.step hstep, h.current.step h.base hstep, h.running.step h.base hkeeps hstep⟩

/-- The track of an acquisition is mapped. -/
theorem pointer?_of_acquire {manager : TranscodeManager reg}
    (h : s.manager.getOrCreateReaderAt s.trace.stream r = .ok (.track p, manager)) :
    manager.tracks.pointer? r.key = some p ∧ checkRequest s.trace.stream r.snapshot = .ok () := by
  obtain ⟨hok, ⟨hsource, -⟩ | ⟨htrack, rfl⟩⟩ := getOrCreateReaderAt_cases h
  · simp at hsource
  · refine ⟨?_, hok⟩
    obtain rfl := AcquiredReader.track.inj htrack
    unfold acquireTrack
    split
    next pointer hpointer => exact hpointer
    · simp only [addLease]
      rw [pointer?_insertNew, if_pos rfl]

end Step

/-! ## The result -/

/-- In every run in which no producer of a mapped track reads an overwritten
position of a generation that goes on, a reader that is attached to a track of
such a generation finds a running producer and an open ring. -/
theorem joined_track_live (reg : Registry) (key : String) (instanceID : ℕ) (cfg : StreamConfig)
    (limits : LimitsConfig) (bufSize : ℤ) (acts : List TranscodeAction) (s : TranscodeSystem reg)
    (hrun : runFrom TranscodeSystem.step
      (TranscodeSystem.initial reg key instanceID cfg limits bufSize) acts = some s)
    (hmeet : StepsMeet KeepsUp TranscodeSystem.step
      (TranscodeSystem.initial reg key instanceID cfg limits bufSize) acts) :
    ∀ r p manager, s.manager.getOrCreateReaderAt s.trace.stream r = .ok (.track p, manager) →
      s.trace.stream.generationEndCursor
          (TranscodeSystem.boundaryOf s.trace.stream r.snapshot) = none →
        ∃ track, manager.tracks.cells[p]? = some track ∧ track.Live := by
  have hinv : JoinInv s :=
    runFrom_invariant_of_stepsMeet (fun _ _ _ h hkeeps hstep => h.step hkeeps hstep)
      (JoinInv.initial reg key instanceID cfg limits bufSize) hmeet hrun
  intro r p manager hacquire hopen
  -- the acquisition is a step, after which the track is mapped
  have hstep : s.step (.acquire r) = some { s with manager } := by
    simp only [step, hacquire]
  have hinv' : JoinInv { s with manager } := by
    refine hinv.step ?_ hstep
    intro k q track hcalled
    simp at hcalled
  obtain ⟨hp, hok⟩ := pointer?_of_acquire hacquire
  obtain ⟨track, htrack, -⟩ := hinv'.base.lifetime.valid.get?_isSome hp
  rw [boundaryOf_eq hok, ← hinv'.current r.key p track hp htrack] at hopen
  exact ⟨track, htrack, (hinv'.base.producers p track htrack).live
    (hinv'.running r.key p track hp htrack hopen)⟩

/-- A producer waits for its first frame while three frames go through a ring
of two. -/
def overwrittenProducer : List TranscodeAction :=
  [.stream (.setPublisher (some camera) 0), .acquire opusRequest, .loop 0,
    .loop 0, .loop 0, .loop 0] ++
  (gopBeyondRing.drop 1).map .stream ++ [.loop 0, .loop 0]

theorem joined_track_closed :
    ∃ s : TranscodeSystem plainCodecs, runFrom TranscodeSystem.step
      (TranscodeSystem.initial plainCodecs "live" 1 twoSlots noLimits 8) overwrittenProducer =
      some s ∧
      s.trace.stream.generationEndCursor
        (TranscodeSystem.boundaryOf s.trace.stream opusRequest.snapshot) = none ∧
      ∃ p manager, s.manager.getOrCreateReaderAt s.trace.stream opusRequest =
        .ok (.track p, manager) ∧ ∃ track, manager.tracks.cells[p]? = some track ∧
        track.termination = some (.sourceOverwrite 1) ∧ track.ringBuffer.closed = true :=
  ⟨_, rfl, rfl, _, _, rfl, _, rfl, rfl, rfl⟩

/-- No producer moves while its reader is lapped. -/
def notLapped (s : TranscodeSystem reg) : TranscodeAction → Bool
  | .loop p =>
    match s.tracks.cells[p]? with
    | some track =>
      !s.trace.stream.ringBuffer.lapped track.loop.readCursor
    | none => true
  | _ => true

theorem keepsUp_of_notLapped (s : TranscodeSystem reg) (a : TranscodeAction)
    (h : notLapped s a = true) :
    KeepsUp s a := by
  rintro k p track rfl - hget - -
  simpa [notLapped, hget] using h

/-- The producer reads the first of three frames in time. -/
def timelyProducer : List TranscodeAction :=
  [.stream (.setPublisher (some camera) 0), .acquire opusRequest, .loop 0,
    .loop 0, .loop 0, .loop 0] ++
  (gopBeyondRing.drop 1).map .stream ++ [.loop 0, .loop 0, .loop 0, .loop 0]

theorem joined_track_live_timely :
    ∃ s : TranscodeSystem plainCodecs, runFrom TranscodeSystem.step
      (TranscodeSystem.initial plainCodecs "live" 1 smallCache noLimits 8) timelyProducer = some s ∧
      ∃ p manager, s.manager.getOrCreateReaderAt s.trace.stream opusRequest =
        .ok (.track p, manager) ∧ ∃ track, manager.tracks.cells[p]? = some track ∧ track.Live := by
  have hmeet : StepsMeet (fun s a => notLapped s a = true) step
      (TranscodeSystem.initial plainCodecs "live" 1 smallCache noLimits 8)
      timelyProducer := by
    decide
  exact ⟨_, rfl, _, _, rfl,
    joined_track_live plainCodecs "live" 1 smallCache noLimits 8 timelyProducer
      _ rfl (hmeet.mono keepsUp_of_notLapped) opusRequest _ _ rfl rfl⟩

end LiveForge.Core
