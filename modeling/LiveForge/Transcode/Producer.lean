import LiveForge.Transcode.Lifetime

/-!
# Where a producer stands

The producer handles the positions of the source ring one after the other,
from the start of its track to the end of the generation.  The invariant says
for each place of the loop which position is next, what is known about the end
of the generation, and, once the loop is over, why.
-/

namespace LiveForge.Core

open AudioCodec LiveForge.Ring Support TrackProgress TranscodeSystem

variable {reg : Registry} {s : Stream} {p : TrackProgress} {pc : LoopPc}

namespace TrackProgress

def position (p : TrackProgress) : ℕ :=
  p.identity.sourceStart + p.consumed.length

def ended (s : Stream) (p : TrackProgress) : Option ℕ :=
  s.generationEndCursor p.identity.generationBoundary

structure Running (p : TrackProgress) : Prop where
  termination : p.termination = none
  ringOpen : p.ringClosed = false

/-- Every position read so far is handled. -/
structure AtRest (p : TrackProgress) : Prop extends Running p where
  readCursor : p.readCursor = p.position
  sourceCursor : p.sourceCursor = p.position

/-- The frame before `cursor` is read and not handled yet. -/
structure HasRead (s : Stream) (cursor : ℕ) (p : TrackProgress) : Prop extends Running p where
  readCursor : p.readCursor = cursor
  sourceCursor : p.sourceCursor = p.position
  next : cursor = p.position + 1
  written : cursor ≤ s.writeCursor

/-- The frame before `cursor` is handled and not reported yet. -/
structure HasHandled (cursor : ℕ) (p : TrackProgress) : Prop extends Running p where
  readCursor : p.readCursor = p.position
  position : p.position = cursor
  sourceCursor : p.sourceCursor + 1 = cursor

end TrackProgress

inductive StopReason (s : Stream) (p : TrackProgress) :
    TranscodeCause → Prop where
  | complete (stop : ℕ) (ended : p.ended s = some stop)
      (reached : p.identity.sourceStart ≤ stop → p.position = stop) :
      StopReason s p .generationComplete
  | cancelled (cause : TranscodeCause)
      (found : p.identity.cancelled = some cause) : StopReason s p cause
  | overwritten (n : ℕ) : StopReason s p (.sourceOverwrite n)

structure Finished (s : Stream) (p : TrackProgress) : Prop where
  sourceCursor : p.sourceCursor = p.position
  reason : ∃ cause, p.termination = some cause ∧ StopReason s p cause

def LoopPc.Holds (s : Stream) (p : TrackProgress) : LoopPc → Prop
  | .start => p.AtRest
  | .checkContext => p.AtRest
  | .checkEnd => p.AtRest
  | .tryRead => p.AtRest ∧ ∃ stop, p.ended s = some stop ∧ p.readCursor < stop
  | .blockingRead pc =>
    p.AtRest ∧ pc.Justified s.ringBuffer p.readCursor false p.readCancelled
  | .notRead =>
    p.AtRest ∧ (p.identity.cancelled.isSome ∨ (p.ended s).isSome)
  | .notReadEnd => p.AtRest ∧ (p.ended s).isSome
  | .gotFrame _ cursor => p.HasRead s cursor
  | .handleFrame _ cursor =>
    p.HasRead s cursor ∧ ∀ stop, p.ended s = some stop → cursor ≤ stop
  | .advance cursor => p.HasHandled cursor
  | .closeRing => Finished s p
  | .closePipeline => Finished s p ∧ p.ringClosed = true
  | .stopped => Finished s p ∧ p.ringClosed = true

/-- Either the loop runs or it is over. -/
theorem LoopPc.Holds.running_or_finished (h : pc.Holds s p) :
    p.Running ∧ p.sourceCursor ≤ p.position ∧
      (pc ≠ .closeRing ∧ pc ≠ .closePipeline ∧ pc ≠ .stopped) ∨ Finished s p := by
  have hrest : p.AtRest → p.Running ∧ p.sourceCursor ≤ p.position :=
    fun hrest => ⟨hrest.toRunning, hrest.sourceCursor.le⟩
  have hread : ∀ cursor, p.HasRead s cursor → p.Running ∧ p.sourceCursor ≤ p.position :=
    fun _ hread => ⟨hread.toRunning, hread.sourceCursor.le⟩
  cases pc with
  | start | checkContext | checkEnd =>
    exact .inl ⟨(hrest h).1, (hrest h).2, nofun, nofun, nofun⟩
  | tryRead | notReadEnd | blockingRead pc | notRead =>
    exact .inl ⟨(hrest h.1).1, (hrest h.1).2, nofun, nofun, nofun⟩
  | gotFrame frame cursor =>
    exact .inl ⟨(hread _ h).1, (hread _ h).2, nofun, nofun, nofun⟩
  | handleFrame frame cursor =>
    exact .inl ⟨(hread _ h.1).1, (hread _ h.1).2, nofun, nofun, nofun⟩
  | advance cursor =>
    refine .inl ⟨h.toRunning, ?_, nofun, nofun, nofun⟩
    have hnext := h.sourceCursor
    have hposition := h.position
    omega
  | closeRing => exact .inr h
  | closePipeline | stopped => exact .inr h.1

namespace TrackProgress

/-- The positions handled so far are those from the start of the track, and
none lies behind the end of the generation. -/
structure Sound (s : Stream) (p : TrackProgress) : Prop where
  allocated : ∃ i, p.identity.generationBoundary = some i ∧ i < s.boundaries.length
  consumed : p.consumed = List.range' p.identity.sourceStart p.consumed.length
  bounded : p.consumed = [] ∨ p.position ≤ s.writeCursor
  ended : ∀ stop, p.ended s = some stop → p.identity.sourceStart ≤ stop → p.position ≤ stop
  readCancelled : p.readCancelled = true → p.identity.cancelled.isSome ∨ (p.ended s).isSome

end TrackProgress

structure ProducerInv (s : Stream) (track : TranscodedTrack reg) : Prop where
  sound : track.progress.Sound s
  holds : track.loop.pc.Holds s track.progress

namespace ProducerInv

variable {s' : Stream} {track track' : TranscodedTrack reg} {cancelled : Option TranscodeCause}
  {cause : TranscodeCause} {cursor : ℕ}

/-! ## Other parties -/

theorem finished_later (h : Finished s p) (hlater : StreamLater s s') : Finished s' p := by
  obtain ⟨hcursor, cause, hcause, hreason⟩ := h
  refine ⟨hcursor, cause, hcause, ?_⟩
  cases hreason with
  | complete stop hended hreached =>
    exact .complete stop (hlater.keptEnd _ stop hended) hreached
  | cancelled _ hfound => exact .cancelled cause hfound
  | overwritten n => exact .overwritten n

theorem isSome_later {boundary : Option ℕ} (h : (s.generationEndCursor boundary).isSome)
    (hlater : StreamLater s s') :
    (s'.generationEndCursor boundary).isSome := by
  obtain ⟨stop, hstop⟩ := Option.isSome_iff_exists.mp h
  rw [hlater.keptEnd boundary stop hstop]
  rfl

theorem hasRead_later (h : p.HasRead s cursor) (hlater : StreamLater s s') : p.HasRead s' cursor :=
  { h with written := h.written.trans hlater.cursor }

theorem holds_later (h : pc.Holds s p) (hlater : StreamLater s s') : pc.Holds s' p := by
  cases pc with
  | start | checkContext | checkEnd | advance cursor => exact h
  | tryRead =>
    obtain ⟨hrest, stop, hended, hlt⟩ := h
    exact ⟨hrest, stop, hlater.keptEnd _ stop hended, hlt⟩
  | blockingRead pc =>
    exact ⟨h.1, h.2.mono hlater.cursor hlater.closed id id⟩
  | notRead =>
    exact ⟨h.1, h.2.imp_right fun hended => isSome_later hended hlater⟩
  | notReadEnd => exact ⟨h.1, isSome_later h.2 hlater⟩
  | gotFrame frame cursor => exact hasRead_later h hlater
  | handleFrame frame cursor =>
    obtain ⟨hread, hinside⟩ := h
    refine ⟨hasRead_later hread hlater, ?_⟩
    intro stop hstop
    rcases hlater.newEnd _ stop hstop with hold | ⟨rfl, -⟩
    · exact hinside stop hold
    · exact hread.written
  | closeRing => exact finished_later h hlater
  | closePipeline | stopped => exact ⟨finished_later h.1 hlater, h.2⟩

theorem sound_later (h : p.Sound s) (hlater : StreamLater s s') : p.Sound s' where
  allocated := by
    obtain ⟨i, hi, hlt⟩ := h.allocated
    exact ⟨i, hi, hlt.trans_le hlater.boundaries⟩
  consumed := h.consumed
  bounded := h.bounded.imp_right fun hle => hle.trans hlater.cursor
  ended := by
    intro stop hstop hstart
    rcases hlater.newEnd _ stop hstop with hold | ⟨rfl, -⟩
    · exact h.ended stop hold hstart
    · rcases h.bounded with hnone | hle
      · rw [position, hnone]
        exact hstart
      · exact hle
  readCancelled := fun hcancelled =>
    (h.readCancelled hcancelled).imp_right fun hended =>
      isSome_later hended hlater

/-- Whatever happens to the stream, the producer stands where it stood. -/
theorem later (h : ProducerInv s track) (hlater : StreamLater s s') : ProducerInv s' track :=
  ⟨sound_later h.sound hlater, holds_later h.holds hlater⟩

theorem stopReason_transfer {p' : TrackProgress} (h : StopReason s p cause)
    (hstart : p'.identity.sourceStart = p.identity.sourceStart)
    (hboundary : p'.identity.generationBoundary = p.identity.generationBoundary)
    (hconsumed : p'.consumed = p.consumed)
    (hkeep : ∀ cause, p.identity.cancelled = some cause → p'.identity.cancelled = some cause) :
    StopReason s p' cause := by
  have hposition : p'.position = p.position := by
    rw [position, hstart, hconsumed, position]
  cases h with
  | complete stop hended hreached =>
    refine .complete stop ?_ ?_
    · rw [ended, hboundary]
      exact hended
    · rw [hstart, hposition]
      exact hreached
  | cancelled _ hfound => exact .cancelled cause (hkeep cause hfound)
  | overwritten n => exact .overwritten n

theorem isSome_kept {old : Option TranscodeCause}
    (hkeep : ∀ cause, old = some cause → cancelled = some cause) (h : old.isSome) :
    cancelled.isSome := by
  obtain ⟨cause, hcause⟩ := Option.isSome_iff_exists.mp h
  rw [hkeep cause hcause]
  rfl

section Outside

variable (subCount : ℤ) {readCancelled : Bool} (hkeep : ∀ cause, p.identity.cancelled = some cause →
  cancelled = some cause) (hread : p.readCancelled = true → readCancelled = true)

include hkeep

theorem finished_outside (h : Finished s p) :
    Finished s { p with
      identity := { p.identity with subCount, cancelled }
      readCancelled } := by
  obtain ⟨hcursor, cause, hcause, hreason⟩ := h
  exact ⟨hcursor, cause, hcause, stopReason_transfer hreason rfl rfl rfl hkeep⟩

include hread

/-- The number of readers changes, and contexts are cancelled. -/
theorem holds_outside (h : pc.Holds s p) :
    pc.Holds s { p with
      identity := { p.identity with subCount, cancelled }
      readCancelled } := by
  cases pc with
  | start | checkContext | checkEnd | gotFrame frame cursor | advance cursor => exact { h with }
  | tryRead | notReadEnd | handleFrame frame cursor => exact ⟨{ h.1 with }, h.2⟩
  | blockingRead pc => exact ⟨{ h.1 with }, h.2.mono le_rfl id id hread⟩
  | notRead => exact ⟨{ h.1 with }, h.2.imp_left (isSome_kept hkeep)⟩
  | closeRing => exact finished_outside subCount hkeep h
  | closePipeline | stopped => exact ⟨finished_outside subCount hkeep h.1, h.2⟩

end Outside

/-- The manager changes the number of readers and cancels. -/
theorem managed (h : ProducerInv s track) (subCount : ℤ)
    (hkeep : ∀ cause, track.cancelled = some cause → cancelled = some cause) :
    ProducerInv s { track with subCount, cancelled } where
  sound :=
    { h.sound with
      readCancelled := fun hcancelled =>
        (h.sound.readCancelled hcancelled).imp_left (isSome_kept hkeep) }
  holds := holds_outside subCount hkeep id h.holds

/-! ## The producer itself -/

/-- The loop goes on to a place whose condition holds. -/
theorem goto (h : ProducerInv s track) (hpc : pc.Holds s track.progress) :
    ProducerInv s (track.goto pc) :=
  ⟨h.sound, hpc⟩

/-- The loop returns from a place where everything read is handled. -/
theorem stopWith (h : track.progress.Sound s) (hnone : track.termination = none)
    (hcursor : track.sourceCursor = track.progress.position)
    (hreason : StopReason s { track.progress with termination := some cause } cause) :
    ProducerInv s (track.stopWith cause) := by
  have hterm : (track.stopWith cause).termination = some cause := by
    simp [TranscodedTrack.stopWith, TranscodedTrack.setTerminationCause,
      TranscodedTrack.goto, hnone]
  have hprogress : (track.stopWith cause).progress =
      { track.progress with termination := some cause } := by
    rw [← hterm]
    rfl
  refine ⟨?_, hcursor, cause, hterm, ?_⟩
  · exact { h with }
  · rw [hprogress]
    exact hreason

/-- The end of the generation is reached. -/
theorem complete {stop : ℕ} (h : track.progress.Sound s) (hnone : track.termination = none)
    (hcursor : track.sourceCursor = track.progress.position)
    (hended : track.progress.ended s = some stop) (hreached : stop ≤ track.progress.position) :
    ProducerInv s (track.complete stop) := by
  have hprogress := track.progress_finalizePipeline
  have hsource : track.finalizePipeline.sourceCursor = track.sourceCursor :=
    congrArg sourceCursor hprogress
  have hle : stop ≤ track.finalizePipeline.sourceCursor := by
    rw [hsource, hcursor]
    exact hreached
  rw [TranscodedTrack.complete, TranscodedTrack.advanceSourceCursor, if_pos hle]
  apply stopWith
  · rw [hprogress]
    exact { h with }
  · exact (congrArg termination hprogress).trans hnone
  · rw [hsource, hcursor, hprogress]
    rfl
  · rw [hprogress]
    exact .complete stop hended fun hstart =>
      le_antisymm (h.ended stop hended hstart) hreached

theorem atRest_of_reading (h : ProducerInv s track) (hplace : track.Reading) :
    track.progress.AtRest := by
  have hat := h.holds
  rcases hplace with hpc | ⟨pc, hpc⟩
  · rw [hpc] at hat
    exact hat.1
  · rw [hpc] at hat
    exact hat.1

/-- The frame before `cursor` has been handled. -/
theorem handled (h : track.progress.Sound s) (hread : track.progress.HasRead s cursor)
    (hinside : ∀ stop, track.progress.ended s = some stop → cursor ≤ stop)
    (hprogress : track'.progress = { track.progress with
      consumed := track.loop.consumed ++ [cursor - 1] })
    (hpc : track'.loop.pc = .advance cursor) :
    ProducerInv s track' := by
  have hlen : track'.progress.position = cursor := by
    rw [hprogress, hread.next]
    simp [position, TranscodedTrack.progress, Nat.add_assoc]
  have hconsumed : track'.progress.consumed =
      List.range' track.sourceStart (track.loop.consumed.length + 1) := by
    rw [hprogress, List.range'_concat, hread.next]
    have hold : track.loop.consumed =
      List.range' track.sourceStart track.loop.consumed.length := h.consumed
    simp only [Nat.one_mul]
    rw [← hold]
    rfl
  refine ⟨⟨?_, ?_, ?_, ?_, ?_⟩, ?_⟩
  · rw [hprogress]
    exact h.allocated
  · rw [hconsumed, List.length_range', hprogress]
    rfl
  · rw [hlen]
    exact .inr hread.written
  · intro stop hstop _
    rw [hlen]
    rw [hprogress] at hstop
    exact hinside stop hstop
  · rw [hprogress]
    exact h.readCancelled
  · rw [hpc]
    refine ⟨⟨?_, ?_⟩, ?_, hlen, ?_⟩
    · rw [hprogress]
      exact hread.termination
    · rw [hprogress]
      exact hread.ringOpen
    · rw [hlen, hprogress]
      exact hread.readCursor
    · rw [hprogress, hread.next]
      exact congrArg (· + 1) hread.sourceCursor

theorem loopStep {t : StreamTrace} (hsource : SourceInv t) (h : ProducerInv t.stream track)
    (hstep : track.loopStep t.stream = some track') :
    ProducerInv t.stream track' := by
  have hat := h.holds
  cases TranscodedTrack.loopMove_of_loopStep hstep with
  | start hpc hmoved =>
    rw [hpc] at hat
    have hprogress := track.progress_writeTranscodeSequenceHeader track.audioEpochFloor 0
    rw [hmoved]
    constructor
    · exact hprogress ▸ h.sound
    · exact hprogress ▸ hat
  | cancelled hpc cause hfound hmoved =>
    rw [hmoved]
    have hrest : track.progress.AtRest := by
      rcases hpc with hpc | hpc
      · rw [hpc] at hat
        exact hat
      · rw [hpc] at hat
        exact hat.1
    exact stopWith h.sound hrest.termination hrest.sourceCursor (.cancelled cause hfound)
  | checkEnd hpc hmoved =>
    rw [hpc] at hat
    exact hmoved ▸ h.goto hat
  | complete stop hpc hended hmoved =>
    rw [hmoved]
    rcases hpc with ⟨hpc, hle⟩ | ⟨frame, cursor, hpc, hlt⟩
    · rw [hpc] at hat
      refine complete h.sound hat.termination hat.sourceCursor hended ?_
      exact hle.trans_eq hat.readCursor
    · rw [hpc] at hat
      refine complete h.sound hat.termination hat.sourceCursor hended ?_
      exact Nat.lt_succ_iff.mp (hlt.trans_eq hat.next)
  | tryRead hpc stop hended hbefore hmoved =>
    rw [hpc] at hat
    exact hmoved ▸ h.goto ⟨hat, stop, hended, hbefore⟩
  | blockingRead hpc _ hmoved =>
    rw [hpc] at hat
    exact hmoved ▸ h.goto ⟨hat, trivial⟩
  | waited pc next hpc hnext hmoved =>
    rw [hpc] at hat
    exact hmoved ▸ h.goto ⟨hat.1, (readResultContextStep_goto hat.2 hnext).1⟩
  | readNothing hpc hmoved =>
    rw [hmoved]
    apply h.goto
    rcases hpc with ⟨hpc, hempty⟩ | ⟨pc, hpc, hreason⟩
    · rw [hpc] at hat
      obtain ⟨hrest, stop, hended, hlt⟩ := hat
      -- the end lies behind the reader and not behind the writer
      have hwritten := hsource.ended _ stop hended
      exact absurd (hlt.trans_le hwritten) (not_lt.mpr hempty)
    · rw [hpc] at hat
      refine ⟨hat.1, ?_⟩
      rcases hreason with hcancelled | hclosed
      · exact h.sound.readCancelled hcancelled
      · obtain ⟨i, hi, hlt⟩ := h.sound.allocated
        obtain ⟨stop, hstop⟩ := hsource.ended_of_closed hlt hclosed
        right
        rw [ended, hi, hstop]
        rfl
  | readGap hplace _ cursor n _ hmoved =>
    have hrest := h.atRest_of_reading hplace
    rw [hmoved]
    exact stopWith { h.sound with } hrest.termination hrest.sourceCursor (.overwritten n)
  | readFrame hplace frame cursor result hread hok hwhole _ hmoved =>
    have hrest := h.atRest_of_reading hplace
    obtain ⟨hnext, hwritten, -⟩ := hsource.read_eq hread hok hwhole
    rw [hmoved]
    exact ⟨{ h.sound with }, { hrest with
      readCursor := rfl
      next := hnext.trans (congrArg (· + 1) hrest.readCursor)
      written := hwritten }⟩
  | notReadEnd hpc halive hmoved =>
    rw [hpc] at hat
    refine hmoved ▸ h.goto ⟨hat.1, hat.2.resolve_left ?_⟩
    rw [show track.progress.identity.cancelled = none from halive]
    simp
  | resume hpc stop _ hmoved =>
    rw [hpc] at hat
    exact hmoved ▸ h.goto hat.1
  | sourceClosed hpc hrunning hmoved =>
    rw [hpc, LoopPc.Holds, ended,
      show t.stream.generationEndCursor track.progress.identity.generationBoundary =
        none from hrunning] at hat
    simp at hat
  | handleFrame frame cursor hpc hinside hmoved =>
    rw [hpc] at hat
    exact hmoved ▸ h.goto ⟨hat, hinside⟩
  | handled frame cursor hpc handled hresult hmoved =>
    rw [hpc] at hat
    have hprogress : handled.progress = track.progress := hresult ▸ track.progress_handle _ frame _
    have hconsumed : handled.loop.consumed = track.loop.consumed := congrArg consumed hprogress
    refine ProducerInv.handled h.sound hat.1 hat.2 ?_ (by rw [hmoved])
    rw [hmoved, ← hprogress, ← hconsumed]
    rfl
  | advance cursor hpc hmoved =>
    rw [hpc] at hat
    have hlt : ¬cursor ≤ track.sourceCursor := by
      have hcursor : track.sourceCursor + 1 = cursor := hat.sourceCursor
      omega
    rw [hmoved, TranscodedTrack.advanceSourceCursor, if_neg hlt]
    exact ⟨{ h.sound with }, { hat with sourceCursor := hat.position.symm }⟩
  | closeRing hpc hmoved =>
    rw [hpc] at hat
    obtain ⟨hcursor, cause, hcause, hreason⟩ := hat
    rw [hmoved]
    refine ⟨{ h.sound with }, ⟨hcursor, cause, hcause, ?_⟩, rfl⟩
    exact stopReason_transfer hreason rfl rfl rfl fun _ => id
  | closePipeline hpc hmoved =>
    rw [hpc] at hat
    rw [hmoved]
    exact ⟨h.sound, hat⟩

theorem cancelRead (h : ProducerInv s track) (hstep : track.cancelRead s = some track') :
    ProducerInv s track' := by
  unfold TranscodedTrack.cancelRead at hstep
  split_ifs at hstep with hcan
  cases hstep
  exact ⟨{ h.sound with readCancelled := fun _ => hcan.2 },
    holds_outside track.subCount (fun _ => id) (fun _ => rfl) h.holds⟩

/-- A producer that has not run yet. -/
theorem new {i : ℕ} (hi : i < s.boundaries.length) (bufSize : ℤ)
    (targetCodec : CodecType) (audioOnly : Bool)
    (sourceStart audioEpochFloor : ℕ) (sourceCodec : CodecType) :
    ProducerInv s (newTranscodedTrack reg bufSize targetCodec audioOnly
      sourceStart audioEpochFloor sourceCodec (some i)) where
  sound :=
    { allocated := ⟨i, rfl, hi⟩
      consumed := rfl
      bounded := Or.inl rfl
      ended := fun _ _ hstart => hstart
      readCancelled := fun hcancelled => Bool.noConfusion hcancelled }
  holds :=
    { termination := rfl
      ringOpen := rfl
      readCursor := rfl
      sourceCursor := rfl }

end ProducerInv

/-! ## The system -/

/-- An accepted request names a boundary that exists. -/
theorem boundary_of_checkRequest {snapshot : Option StreamStartupSnapshot}
    (h : BoundaryInv s.toGenerationState) (hok : checkRequest s snapshot = .ok ()) :
    ∃ i, TranscodeSystem.boundaryOf s snapshot = some i ∧ i < s.boundaries.length := by
  have hactive : (decide (s.state = .publishing) && s.publisher.isSome) = true →
      ∃ i, s.generationBoundary = some i ∧ i < s.boundaries.length := by
    intro hactive
    rw [Bool.and_eq_true, decide_eq_true_eq] at hactive
    obtain ⟨i, hi⟩ := Option.isSome_iff_exists.mp (h.owned hactive.1).2
    exact ⟨i, hi, h.allocated i hi⟩
  unfold checkRequest at hok
  dsimp only at hok
  split at hok
  · split_ifs at hok with hyes
    exact hactive hyes
  next snap =>
    split at hok
    · simp at hok
    next hsame =>
      have hboundary : s.generationBoundary = snap.generationBoundary := by
        by_contra hne
        exact hsame (.inr (.inr hne))
      rw [boundaryOf, ← hboundary]
      rw [← hboundary] at hok
      split_ifs at hok with hnot
      rw [not_and_or, Bool.not_eq_false] at hnot
      rcases hnot with hyes | hended
      · exact hactive hyes
      · rw [Option.isNone_iff_eq_none, ← ne_eq, Option.ne_none_iff_exists'] at hended
        obtain ⟨stop, hstop⟩ := hended
        obtain ⟨i, b, hi, -⟩ := GenerationState.generationEndCursor_eq_some.mp hstop
        exact ⟨i, hi, h.allocated i hi⟩

structure TranscodeInv (s : TranscodeSystem reg) : Prop where
  source : SourceInv s.trace
  lifetime : s.manager.LifetimeInv
  producers : ∀ (p : ℕ) (track : TranscodedTrack reg),
    s.tracks.cells[p]? = some track → ProducerInv s.trace.stream track

namespace TranscodeInv

variable {s s' : TranscodeSystem reg} {a : TranscodeAction}

theorem initial (reg : Registry) (key : String) (instanceID : ℕ) (cfg : StreamConfig)
    (limits : LimitsConfig) (bufSize : ℤ) :
    TranscodeInv (TranscodeSystem.initial reg key instanceID cfg limits bufSize) where
  source := SourceInv.initial key instanceID cfg limits
  lifetime := TranscodeManager.LifetimeInv.initial bufSize
  producers := by
    intro p track hget
    simp [TranscodeSystem.initial, TranscodeSystem.tracks, TranscodeManager.new,
      PointerTable.empty] at hget

/-- Only an action of the stream changes the stream. -/
theorem trace_of_step (hstep : s.step a = some s') :
    s'.trace = s.trace ∨ ∃ act, a = .stream act ∧ s.trace.step act = some s'.trace := by
  cases move_of_step hstep with
  | stream act trace htrace hmoved =>
    subst hmoved
    exact .inr ⟨act, rfl, htrace⟩
  | untracked r hmoved | acquired r _ hmoved | callRelease i hmoved
  | finishRelease i manager _ hmoved | reset hmoved | loop p _ _ _ _ hmoved
  | cancelRead p _ _ _ _ hmoved => exact .inl (by rw [hmoved])

theorem streamLater (hstep : s.step a = some s') : StreamLater s.trace.stream s'.trace.stream := by
  rcases trace_of_step hstep with heq | ⟨act, -, hact⟩
  · rw [heq]
    exact .refl _
  · exact .of_step hact

/-- What an action does to a track keeps the invariant of its producer. -/
theorem producer_of_change (h : TranscodeInv s) {p : ℕ} {track track' : TranscodedTrack reg}
    (hget : s.tracks.cells[p]? = some track) (hchange : TrackChange s a p track track') :
    ProducerInv s.trace.stream track' := by
  have hproducer := h.producers p track hget
  have hcancel : ∀ new cause, track.cancelled = some cause →
      some (track.cancelled.getD new) = some cause := by
    intro new cause hcause
    rw [hcause]
    rfl
  cases hchange with
  | same heq => exact heq ▸ hproducer
  | joined heq | left heq => exact heq ▸ hproducer.managed _ fun _ => id
  | dropped i lease _ _ _ _ heq =>
    exact heq ▸ hproducer.managed _ (hcancel .subscriberReleased)
  | reset _ _ heq => exact heq ▸ hproducer.managed _ (hcancel .managerReset)
  | loop _ hmoved => exact hproducer.loopStep h.source hmoved
  | cancelRead _ hmoved => exact hproducer.cancelRead hmoved

theorem step (h : TranscodeInv s) (hstep : s.step a = some s') : TranscodeInv s' where
  source := by
    rcases trace_of_step hstep with heq | ⟨act, -, hact⟩
    · exact heq ▸ h.source
    · exact h.source.step hact
  lifetime := lifetimeInv_step h.lifetime hstep
  producers := by
    intro p track' hget'
    refine ProducerInv.later ?_ (streamLater hstep)
    cases hget : s.tracks.cells[p]? with
    | some track =>
      obtain ⟨changed, hchanged, hchange⟩ := trackChange_of_step h.lifetime hstep hget
      obtain rfl := Option.mem_unique hget' hchanged
      exact h.producer_of_change hget hchange
    | none =>
      obtain ⟨r, codec, hok, rfl⟩ := newTrack_of_step hstep hget hget'
      obtain ⟨i, hi, hlt⟩ := boundary_of_checkRequest h.source.boundary hok
      rw [newTrack, hi]
      exact .new hlt _ _ _ _ _ _

end TranscodeInv

end LiveForge.Core
