import LiveForge.Stream.Generation

/-!
# The stream as its readers see it

A muxer or a transcoder works on one generation: it holds the boundary object
of that generation and reads the ring at its own pace, while publishers come
and go.  This module says what such a reader can rely on, whatever the IDs of
the publishers are.
-/

namespace LiveForge.Core

open Support LiveForge.Ring LiveForge.Core.Stream GenerationState StreamTrace

/-! ## Only the current generation is not over -/

structure BoundaryInv (g : GenerationState) : Prop where
  running : ∀ (i : ℕ) (b : GenerationBoundary), g.boundaries[i]? = some b →
    b.ended = false → g.generationBoundary = some i ∧ g.state = .publishing
  allocated : ∀ i, g.generationBoundary = some i → i < g.boundaries.length
  owned : g.state = .publishing → g.publisher.isSome ∧ g.generationBoundary.isSome

variable {a : StreamAction} {i : ℕ}

namespace BoundaryInv

variable {g : GenerationState}

theorem initial : BoundaryInv GenerationState.initial := by
  refine ⟨?_, ?_, ?_⟩
  all_goals simp [GenerationState.initial]

theorem endAt_ended (writeCursor : ℕ) (b : GenerationBoundary) :
    (b.endAt writeCursor).ended = true := by
  unfold GenerationBoundary.endAt
  split
  next hended => exact hended
  · rfl

/-- Closing the current generation leaves none that is not over. -/
theorem close_ended (h : BoundaryInv g) (writeCursor : ℕ) {b : GenerationBoundary}
    (hb : (g.closeGeneration writeCursor).boundaries[i]? = some b) :
    b.ended = true := by
  rw [closeGeneration_getElem?] at hb
  split at hb
  · obtain ⟨b', -, rfl⟩ := Option.map_eq_some_iff.mp hb
    exact endAt_ended writeCursor b'
  next hother =>
    by_contra hopen
    exact hother (h.running i b hb (by simpa using hopen)).1

theorem closeGeneration_generationBoundary (writeCursor : ℕ) (g : GenerationState) :
    (g.closeGeneration writeCursor).generationBoundary = g.generationBoundary := by
  unfold closeGeneration
  split <;> rfl

/-- A state without a publisher whose generations are all over. -/
theorem vacant (h : BoundaryInv g) {g' : GenerationState} {writeCursor : ℕ}
    (hboundaries : g'.boundaries = (g.closeGeneration writeCursor).boundaries)
    (hcurrent : g'.generationBoundary = g.generationBoundary) (hstate : g'.state ≠ .publishing) :
    BoundaryInv g' := by
  refine ⟨?_, ?_, ?_⟩
  · intro i b hb hopen
    rw [hboundaries] at hb
    rw [h.close_ended writeCursor hb] at hopen
    simp at hopen
  · intro i hi
    rw [hboundaries, closeGeneration_boundaries_length]
    exact h.allocated i (hcurrent ▸ hi)
  · intro hpublishing
    exact absurd hpublishing hstate

theorem install (h : BoundaryInv g) (pub : Publisher) (writeCursor : ℕ) :
    BoundaryInv (g.install pub writeCursor) := by
  refine ⟨?_, ?_, fun _ => ⟨rfl, rfl⟩⟩
  · intro i b hb hopen
    refine ⟨?_, rfl⟩
    simp only [GenerationState.install] at hb ⊢
    rcases Nat.lt_trichotomy i
      (g.closeGeneration writeCursor).boundaries.length with hlt | rfl | hgt
    · rw [List.getElem?_append_left hlt] at hb
      rw [h.close_ended writeCursor hb] at hopen
      simp at hopen
    · rfl
    · rw [List.getElem?_eq_none (by simp; omega)] at hb
      simp at hb
  · intro i hi
    simp only [GenerationState.install, Option.some.injEq] at hi ⊢
    simp [← hi]

theorem expire (h : BoundaryInv g) (hvacant : g.state = .noPublisher ∨ g.publisher = none) :
    BoundaryInv g.expire := by
  have hnot : g.state ≠ .publishing := by
    intro hpublishing
    rcases hvacant with hno | hnone
    · rw [hno] at hpublishing
      simp at hpublishing
    · have howned := (h.owned hpublishing).1
      rw [hnone] at howned
      simp at howned
  refine ⟨?_, h.allocated, ?_⟩
  · intro i b hb hopen
    exact absurd (h.running i b hb hopen).2 hnot
  · intro hpublishing
    simp [GenerationState.expire] at hpublishing

theorem step {t t' : StreamTrace} (h : BoundaryInv t.stream.toGenerationState)
    (hstep : t.step a = some t') :
    BoundaryInv t'.stream.toGenerationState := by
  cases effect_of_step hstep with
  | quiet hgen | write _ _ _ _ hgen | closeRing _ hgen => exact hgen ▸ h
  | install pub _ _ _ _ hgen =>
    rw [hgen]
    exact h.install pub _
  | detach _ hgen =>
    rw [hgen]
    exact h.vacant rfl (closeGeneration_generationBoundary _ _) (by simp [detach])
  | retire _ hgen =>
    rw [hgen]
    exact h.vacant rfl (closeGeneration_generationBoundary _ _) (by simp [retire])
  | expire hvacant hgen =>
    rw [hgen]
    exact h.expire hvacant

/-- Somebody publishes while a boundary has no end. -/
theorem publishing_of_not_ended (h : BoundaryInv g)
    (hlt : i < g.boundaries.length) (hopen : g.generationEndCursor (some i) = none) :
    g.state = .publishing := by
  have hget : g.boundaries[i]? = some g.boundaries[i] := List.getElem?_eq_getElem hlt
  refine (h.running i _ hget ?_).2
  cases hended : g.boundaries[i].ended with
  | false => rfl
  | true =>
    simp [generationEndCursor, hget, GenerationBoundary.end?, hended] at hopen

end BoundaryInv

/-! ## What may change between two steps of a reader -/

/-- Only `WriteFrameForPublisher` writes to the ring. -/
theorem StreamTrace.written_of_step {t t' : StreamTrace} (hstep : t.step a = some t')
    (hnot : ∀ pub clock frame, a ≠ .writeFrameForPublisher pub clock frame) :
    t'.written = t.written := by
  cases effect_of_step hstep with
  | quiet _ _ hwritten | install _ _ _ _ _ _ _ hwritten | detach _ _ _ hwritten
  | retire _ _ _ hwritten | expire _ _ _ hwritten | closeRing _ _ _ hwritten => exact hwritten
  | write pub _ hcalled =>
    cases a with
    | writeFrameForPublisher pub clock frame =>
      exact absurd rfl (hnot pub clock frame)
    | setPublisher pub now =>
      cases hstep
      unfold setPublisher
      split <;> rfl
    | removePublisherIf pub =>
      cases hstep
      rfl
    | _ => simp [StreamAction.publishers] at hcalled

theorem StreamTrace.log_getElem?_of_step {t t' : StreamTrace} (hstep : t.step a = some t')
    {frame : AVFrame} (hget : t.log[i]? = some frame) :
    t'.log[i]? = some frame := by
  suffices hgrows : ∃ more, t'.written = t.written ++ more by
    obtain ⟨more, hmore⟩ := hgrows
    have hlt : i < (t.written.map WriteRecord.frame).length := (List.getElem?_eq_some_iff.mp hget).1
    rw [log, hmore, List.map_append, List.getElem?_append_left hlt]
    exact hget
  have hkept : t'.written = t.written → ∃ more, t'.written = t.written ++ more := by
    intro hwritten
    exact ⟨[], by rw [hwritten, List.append_nil]⟩
  cases effect_of_step hstep with
  | quiet _ _ hwritten | install _ _ _ _ _ _ _ hwritten | detach _ _ _ hwritten
  | retire _ _ _ hwritten | expire _ _ _ hwritten | closeRing _ _ _ hwritten => exact hkept hwritten
  | write _ _ _ _ _ _ hwritten => exact ⟨_, hwritten⟩

/-- The ring fills up and is closed, and a generation that is not over may end
at the write cursor. -/
structure StreamLater (s s' : Stream) : Prop where
  size : s'.ringBuffer.size = s.ringBuffer.size
  cursor : s.writeCursor ≤ s'.writeCursor
  closed : s.ringBuffer.closed = true → s'.ringBuffer.closed = true
  keptEnd : ∀ boundary stop, s.generationEndCursor boundary = some stop →
    s'.generationEndCursor boundary = some stop
  newEnd : ∀ boundary stop, s'.generationEndCursor boundary = some stop →
    s.generationEndCursor boundary = some stop ∨
      stop = s.writeCursor ∧ s'.writeCursor = s.writeCursor
  boundaries : s.boundaries.length ≤ s'.boundaries.length

namespace StreamLater

variable {s s' : Stream}

theorem refl (s : Stream) : StreamLater s s :=
  ⟨rfl, le_rfl, id, fun _ _ => id, fun _ _ => Or.inl, le_rfl⟩

/-- The ring stays as it is and the generations do not change their ends, or
the current one is closed. -/
theorem of_close (hring : s'.ringBuffer = s.ringBuffer ∨ s'.ringBuffer = s.ringBuffer.close)
    (hends : ∀ boundary stop, s'.generationEndCursor boundary = some stop ↔
      (s.closeGeneration s.writeCursor).generationEndCursor boundary = some stop)
    (hlen : s.boundaries.length ≤ s'.boundaries.length) :
    StreamLater s s' := by
  have hcursor : s'.writeCursor = s.writeCursor := by
    rcases hring with hring | hring
    · rw [writeCursor, hring, writeCursor]
    · rw [writeCursor, hring, RingBuffer.close_writeCursor, writeCursor]
  refine ⟨?_, hcursor.ge, ?_, ?_, ?_, hlen⟩
  · rcases hring with hring | hring
    · rw [hring]
    · rw [hring]
      rfl
  · intro hclosed
    rcases hring with hring | hring
    · rw [hring]
      exact hclosed
    · rw [hring]
      rfl
  · intro boundary stop h
    exact (hends boundary stop).mpr (generationEndCursor_close_of_some h)
  · intro boundary stop h
    rcases generationEndCursor_close_cases ((hends boundary stop).mp h) with hold | hnew
    · exact .inl hold
    · exact .inr ⟨hnew, hcursor⟩

theorem of_same_generations
    (hring : s'.ringBuffer = s.ringBuffer ∨ s'.ringBuffer = s.ringBuffer.close ∨
      ∃ frame, s'.ringBuffer = s.ringBuffer.write frame)
    (hgen : s'.toGenerationState = s.toGenerationState) :
    StreamLater s s' := by
  refine ⟨?_, ?_, ?_, ?_, ?_, by rw [hgen]⟩
  · rcases hring with hring | hring | ⟨frame, hring⟩
    · rw [hring]
    · rw [hring]
      rfl
    · rw [hring, RingBuffer.write_size]
  · rcases hring with hring | hring | ⟨frame, hring⟩
    · rw [writeCursor, writeCursor, hring]
    · rw [writeCursor, writeCursor, hring, RingBuffer.close_writeCursor]
    · rw [writeCursor, writeCursor, hring]
      exact RingBuffer.writeCursor_le_write _ _
  · intro hclosed
    rcases hring with hring | hring | ⟨frame, hring⟩
    · rw [hring]
      exact hclosed
    · rw [hring]
      rfl
    · rw [hring, RingBuffer.write_closed]
      exact hclosed
  · intro boundary stop h
    rw [hgen]
    exact h
  · intro boundary stop h
    rw [hgen] at h
    exact .inl h

theorem of_step {t t' : StreamTrace} (hstep : t.step a = some t') :
    StreamLater t.stream t'.stream := by
  cases effect_of_step hstep with
  | quiet hgen hring => exact of_same_generations (.inl hring) hgen
  | install pub _ _ _ _ hgen hring =>
    refine of_close (.inl hring) ?_ ?_
    · intro boundary stop
      rw [hgen]
      exact generationEndCursor_install
    · rw [hgen]
      simp [GenerationState.install, closeGeneration_boundaries_length]
  | write _ frame _ _ hgen hring =>
    exact of_same_generations (.inr (.inr ⟨_, hring⟩)) hgen
  | detach _ hgen hring =>
    refine of_close (.inl hring) ?_ ?_
    · intro boundary stop
      rw [hgen]
      rfl
    · rw [hgen]
      exact (closeGeneration_boundaries_length _ _).ge
  | retire _ hgen hring =>
    refine of_close hring ?_ ?_
    · intro boundary stop
      rw [hgen]
      rfl
    · rw [hgen]
      exact (closeGeneration_boundaries_length _ _).ge
  | expire _ hgen hring =>
    refine ⟨by rw [hring], ?_, by rw [hring]; exact id, ?_, ?_, ?_⟩
    · rw [writeCursor, writeCursor, hring]
    · intro boundary stop h
      rw [hgen]
      exact h
    · intro boundary stop h
      rw [hgen] at h
      exact .inl h
    · rw [hgen]
      exact le_rfl
  | closeRing _ hgen hring =>
    exact of_same_generations (.inr (.inl hring)) hgen

end StreamLater

/-! ## The source of a reader -/

/-- The stream at any moment of a run. -/
structure SourceInv (t : StreamTrace) : Prop where
  history : HistoryInv t
  boundary : BoundaryInv t.stream.toGenerationState
  ended : ∀ boundary stop, t.stream.generationEndCursor boundary = some stop →
    stop ≤ t.stream.writeCursor

namespace SourceInv

variable {t t' : StreamTrace}

theorem initial (key : String) (instanceID : ℕ) (cfg : StreamConfig) (limits : LimitsConfig) :
    SourceInv (StreamTrace.initial key instanceID cfg limits) := by
  refine ⟨HistoryInv.initial key instanceID cfg limits, BoundaryInv.initial, ?_⟩
  intro boundary stop h
  obtain ⟨i, b, -, hb, -⟩ := generationEndCursor_eq_some.mp h
  simp [StreamTrace.initial, newStream, GenerationState.initial] at hb

theorem step (h : SourceInv t) (hstep : t.step a = some t') : SourceInv t' := by
  have hlater := StreamLater.of_step hstep
  refine ⟨h.history.step hstep, h.boundary.step hstep, ?_⟩
  intro boundary stop hstop
  rcases hlater.newEnd boundary stop hstop with hold | ⟨rfl, -⟩
  · exact (h.ended boundary stop hold).trans hlater.cursor
  · exact hlater.cursor

/-- A closed ring means that the generation of the boundary is over. -/
theorem ended_of_closed (h : SourceInv t) (hlt : i < t.stream.boundaries.length)
    (hclosed : t.stream.ringBuffer.closed = true) :
    ∃ stop, t.stream.generationEndCursor (some i) = some stop := by
  cases hend : t.stream.generationEndCursor (some i) with
  | some stop => exact ⟨stop, rfl⟩
  | none =>
    have hpublishing := h.boundary.publishing_of_not_ended hlt hend
    have hopen := h.history.ringOpen (by rw [hpublishing]; decide)
    rw [hopen] at hclosed
    simp at hclosed

/-- A read that reports no gap returns the frame written at its position. -/
theorem read_eq (h : SourceInv t) {readCursor cursor : ℕ} {result : RingReadResult (Option AVFrame)}
    (hread : tryReadResult t.stream.ringBuffer readCursor = (result, cursor))
    (hok : result.ok = true) (hnone : result.overwritten = 0) :
    cursor = readCursor + 1 ∧ cursor ≤ t.stream.writeCursor ∧
      ∃ frame, result.value = some frame ∧ t.log[readCursor]? = some frame := by
  have hok' : (tryReadResult t.stream.ringBuffer readCursor).1.ok = true := by
    rw [hread]
    exact hok
  have hnone' : (tryReadResult t.stream.ringBuffer readCursor).1.overwritten = 0 := by
    rw [hread]
    exact hnone
  obtain ⟨hget, hnext⟩ := tryReadResult_of_holds h.history.holds hok' hnone'
  have hlt := tryReadResult_ok_iff.mp hok'
  rw [hread] at hget hnext
  rw [List.getElem?_map, Option.map_eq_some_iff] at hget
  obtain ⟨frame, hframe, hvalue⟩ := hget
  refine ⟨hnext, ?_, frame, hvalue.symm, hframe⟩
  rw [writeCursor]
  omega

end SourceInv

end LiveForge.Core
