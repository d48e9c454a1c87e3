import LiveForge.Transcode.Outputs

/-!
# Transcoding up to the boundary

No output of a track comes from behind the end of its generation.  Once the
generation is over, the producer can take only finitely many steps, and it is
not stuck before it has stopped.
-/

namespace LiveForge.Core

open AudioCodec LiveForge.Ring Support TranscodeSystem LoopPc TrackProgress

variable {reg : Registry} {track track' : TranscodedTrack reg} {a : TranscodeAction} {stop p : ℕ}

/-! ## Progress -/

/-- How many steps the producer takes before it reads again or stops, once the
generation is over. -/
def LoopPc.rank : LoopPc → ℕ
  | .stopped => 0
  | .closePipeline => 1
  | .closeRing => 2
  | .tryRead => 3
  | .checkEnd => 4
  | .checkContext => 5
  | .start => 6
  | .advance _ => 6
  | .handleFrame _ _ => 7
  | .gotFrame _ _ => 8
  | .notReadEnd => 6
  | .notRead => 7
  | .blockingRead pc => 8 + pc.rank

namespace TranscodedTrack

/-- A bound for the steps left when the generation ends at `stop`. -/
def stepsLeft (stop : ℕ) (track : TranscodedTrack reg) : ℕ :=
  6 * (stop - track.loop.readCursor) + track.loop.pc.rank +
    if track.loop.readCancelled then 0 else 1

variable {t : StreamTrace} {result : RingReadResult (Option AVFrame)} {pc : LoopPc}

/-- The reader stays or goes forward, and the loop goes to a later place. -/
theorem stepsLeft_lt (hpc : track.loop.pc = pc) (pc' : LoopPc) (hpc' : track'.loop.pc = pc')
    (hrank : pc'.rank < pc.rank) (hcursor : track.loop.readCursor ≤ track'.loop.readCursor)
    (hcancelled : track'.loop.readCancelled = track.loop.readCancelled) :
    track'.stepsLeft stop < track.stepsLeft stop := by
  unfold stepsLeft
  rw [hpc, hpc', hcancelled]
  omega

theorem stepsLeft_goto (hpc : track.loop.pc = pc) {pc' : LoopPc} (hrank : pc'.rank < pc.rank)
    (hmoved : track' = track.goto pc') :
    track'.stepsLeft stop < track.stepsLeft stop :=
  hmoved ▸ stepsLeft_lt hpc pc' rfl hrank le_rfl rfl

theorem stepsLeft_cancelRead (h : track.cancelRead t.stream = some track') :
    track'.stepsLeft stop < track.stepsLeft stop := by
  unfold cancelRead at h
  split_ifs at h with hcan
  cases h
  simp [stepsLeft, hcan.1]

theorem stepsLeft_loopStep (hsource : SourceInv t) (hinv : ProducerInv t.stream track)
    (hended : t.stream.generationEndCursor track.generationBoundary = some stop)
    (h : track.loopStep t.stream = some track') :
    track'.stepsLeft stop < track.stepsLeft stop := by
  have hat := hinv.holds
  cases loopMove_of_loopStep h with
  | start hpc hmoved =>
    have hprogress := track.progress_writeTranscodeSequenceHeader track.audioEpochFloor 0
    subst hmoved
    exact stepsLeft_lt hpc .checkContext rfl (by decide) (congrArg readCursor hprogress).ge
      (congrArg readCancelled hprogress)
  | cancelled hpc cause _ hmoved =>
    rcases hpc with hpc | hpc <;>
      exact hmoved ▸ stepsLeft_lt hpc .closeRing rfl (by decide) le_rfl rfl
  | checkEnd hpc hmoved | tryRead hpc _ _ _ hmoved | notReadEnd hpc _ hmoved
  | resume hpc _ _ hmoved =>
    exact stepsLeft_goto hpc (by decide) hmoved
  | complete stop' hpc _ hmoved =>
    have hprogress := track.progress_finalizePipeline
    have hloop : track'.loop = { track.finalizePipeline.loop with pc := .closeRing } := by
      rw [hmoved, complete, advanceSourceCursor]
      split <;> rfl
    have hcursor : track'.loop.readCursor = track.loop.readCursor :=
      hloop ▸ congrArg readCursor hprogress
    have hcancelled : track'.loop.readCancelled = track.loop.readCancelled :=
      hloop ▸ congrArg readCancelled hprogress
    rcases hpc with ⟨hpc, -⟩ | ⟨frame, cursor, hpc, -⟩
    · exact stepsLeft_lt hpc .closeRing (by rw [hloop]) (by decide) hcursor.ge hcancelled
    · exact stepsLeft_lt hpc .closeRing (by rw [hloop]) (by simp [rank]) hcursor.ge hcancelled
  | blockingRead _ hrunning _ =>
    rw [hended] at hrunning
    simp at hrunning
  | waited pc next hpc hnext hmoved =>
    rw [hpc] at hat
    have hrank := (readResultContextStep_goto hat.2 hnext).2
    exact stepsLeft_goto hpc (by simpa [rank] using hrank) hmoved
  | readNothing hpc hmoved =>
    rcases hpc with ⟨hpc, hempty⟩ | ⟨pc, hpc, -⟩
    · rw [hpc] at hat
      obtain ⟨-, stop', hstop', hlt⟩ := hat
      exact absurd (hlt.trans_le (hsource.ended _ stop' hstop')) (not_lt.mpr hempty)
    · exact stepsLeft_goto hpc (by simp [rank]; omega) hmoved
  | readGap hplace _ cursor n hforward hmoved =>
    subst hmoved
    rcases hplace with hpc | ⟨pc, hpc⟩
    · exact stepsLeft_lt hpc .closeRing rfl (by decide) hforward rfl
    · exact stepsLeft_lt hpc .closeRing rfl (by simp [rank]; omega) hforward rfl
  | readFrame hplace frame cursor result hread hok hwhole _ hmoved =>
    obtain ⟨hnext, -, -⟩ := hsource.read_eq hread hok hwhole
    have hcursor : track.loop.readCursor < cursor := by omega
    subst hmoved
    rcases hplace with hpc | ⟨pc, hpc⟩
    · rw [hpc] at hat
      obtain ⟨-, stop', hstop', hlt⟩ := hat
      obtain rfl := Option.mem_unique hended hstop'
      have hbefore : track.loop.readCursor < stop := hlt
      simp only [stepsLeft, hpc, goto, withReadCursor, rank]
      omega
    · have hpos : 0 < pc.rank := by cases pc <;> decide
      exact stepsLeft_lt hpc (.gotFrame frame cursor) rfl (by simp [rank]; omega) hcursor.le rfl
  | sourceClosed hpc _ hmoved =>
    exact hmoved ▸ stepsLeft_lt hpc .closeRing rfl (by decide) le_rfl rfl
  | handleFrame frame cursor hpc _ hmoved => exact stepsLeft_goto hpc (by simp [rank]) hmoved
  | handled frame cursor hpc handled hresult hmoved =>
    have hprogress : handled.progress = track.progress := hresult ▸ track.progress_handle _ frame _
    subst hmoved
    exact stepsLeft_lt hpc (.advance cursor) rfl (by simp [rank]) (congrArg readCursor hprogress).ge
      (congrArg readCancelled hprogress)
  | advance cursor hpc hmoved =>
    have hloop : track'.loop = { track.loop with pc := .checkContext } := by
      rw [hmoved, advanceSourceCursor]
      split <;> rfl
    exact stepsLeft_lt hpc .checkContext (by rw [hloop]) (by simp [rank])
      (by rw [hloop]) (by rw [hloop])
  | closeRing hpc hmoved =>
    exact hmoved ▸ stepsLeft_lt hpc .closePipeline rfl (by decide) le_rfl rfl
  | closePipeline hpc hmoved =>
    exact hmoved ▸ stepsLeft_lt hpc .stopped rfl (by decide) le_rfl rfl

theorem afterRead_isSome (cursor : ℕ)
    (hvalue : result.ok = true → result.overwritten = 0 → result.value.isSome) :
    (track.afterRead result cursor).isSome := by
  unfold afterRead
  split
  · rfl
  next hok =>
    split
    · rfl
    next hwhole =>
      rw [Option.isSome_map]
      exact hvalue (by simpa using hok) (by omega)

/-- The ring of a stream holds no nil frames. -/
theorem value_isSome (hsource : SourceInv t) {readCursor cursor : ℕ}
    (hread : tryReadResult t.stream.ringBuffer readCursor = (result, cursor))
    (hok : result.ok = true) (hwhole : result.overwritten = 0) :
    result.value.isSome := by
  obtain ⟨-, -, frame, hframe, -⟩ := hsource.read_eq hread hok hwhole
  rw [hframe]
  rfl

/-- Once the generation is over, the producer goes on until it has stopped; if
it waits, the context of its read is about to be cancelled. -/
theorem exists_step (hsource : SourceInv t)
    (hended : t.stream.generationEndCursor track.generationBoundary = some stop)
    (hpc : track.loop.pc ≠ .stopped) :
    (track.loopStep t.stream).isSome ∨ (track.cancelRead t.stream).isSome := by
  unfold loopStep
  split
  · exact .inl rfl
  · exact .inl (by split <;> rfl)
  · rw [hended]
    exact .inl (by dsimp only; split <;> rfl)
  · exact .inl (afterRead_isSome _ (value_isSome hsource rfl))
  next pc _ =>
    cases hstep : readResultContextStep t.stream.ringBuffer
        track.loop.readCursor false track.loop.readCancelled pc with
    | none =>
      right
      have hwait : track.loop.readCancelled = false := by
        by_contra hcancelled
        have hgo : mustWait t.stream.ringBuffer track.loop.readCursor false
            track.loop.readCancelled = false :=
          mustWait_eq_false.mpr (.inr (.inr (.inr (by simpa using hcancelled))))
        have hsome := hstep ▸ readResultContextStep_isSome hgo
        cases hsome
      rw [cancelRead, if_pos ⟨hwait, .inr (by rw [hended]; rfl)⟩]
      rfl
    | some next =>
      left
      cases next with
      | goto pc => rfl
      | returned result cursor =>
        apply afterRead_isSome
        intro hok hwhole
        cases readResultContextStep_returned hstep with
        | value _ hread => exact value_isSome hsource hread hok hwhole
        | gaveUp hnothing =>
          rw [hnothing] at hok
          simp [noResult] at hok
  · exact .inl (by split <;> rfl)
  · rw [hended]
    exact .inl rfl
  · rw [hended]
    exact .inl (by dsimp only; split <;> rfl)
  · exact .inl rfl
  · exact .inl rfl
  · exact .inl rfl
  · exact .inl rfl
  next hstopped => exact absurd hstopped hpc

end TranscodedTrack

/-! ## Steps of the system -/

def TranscodeAction.isOf (p : ℕ) (a : TranscodeAction) : Bool :=
  decide (a = .loop p) || decide (a = .cancelRead p)

theorem TrackChange.sourceCursor_le {s : TranscodeSystem reg} (h : TrackChange s a p track track') :
    track.sourceCursor ≤ track'.sourceCursor := by
  cases h with
  | same heq => rw [heq]
  | joined heq | left heq | dropped _ _ _ _ _ _ heq | reset _ _ heq => rw [heq]; exact le_rfl
  | loop _ hmoved => exact (TranscodedTrack.loopEffect_of_loopStep hmoved).sourceCursor
  | cancelRead _ hmoved =>
    unfold TranscodedTrack.cancelRead at hmoved
    split_ifs at hmoved
    exact (Option.some.inj hmoved) ▸ le_rfl

namespace TranscodeSystem

variable {s s' : TranscodeSystem reg} {act : TranscodedTrack reg → Option (TranscodedTrack reg)}

def stepsLeft (p stop : ℕ) (s : TranscodeSystem reg) : ℕ :=
  match s.tracks.cells[p]? with
  | some track => track.stepsLeft stop
  | none => 0

structure EndedAt (p stop : ℕ) (s : TranscodeSystem reg) : Prop where
  inv : TranscodeInv s
  ended : ∃ track, s.tracks.cells[p]? = some track ∧
    s.trace.stream.generationEndCursor track.generationBoundary = some stop

/-- The goroutines of a track write back what they have made of it. -/
theorem withTrack_eq (hget : s.tracks.cells[p]? = some track)
    (hget' : s'.tracks.cells[p]? = some track') (h : s.withTrack p act = some s') :
    act track = some track' := by
  rw [withTrack, hget] at h
  obtain ⟨new, hact, rfl⟩ := Option.map_eq_some_iff.mp h
  simp only [tracks, PointerTable.cell_modify] at hget'
  rw [show s.manager.tracks.cells[p]? = some track from hget] at hget'
  exact hact.trans hget'

/-- A step of the track's goroutines uses up one of the steps left; all other
actions leave them alone. -/
theorem stepsLeft_step (h : EndedAt p stop s) (hstep : s.step a = some s') :
    EndedAt p stop s' ∧ s'.stepsLeft p stop + (if a.isOf p then 1 else 0) ≤ s.stepsLeft p stop := by
  obtain ⟨hinv, track, hget, hended⟩ := h
  obtain ⟨track', hget', hchange⟩ := trackChange_of_step hinv.lifetime hstep hget
  refine ⟨⟨hinv.step hstep, track', hget', ?_⟩, ?_⟩
  · rw [hchange.kept.2]
    exact (TranscodeInv.streamLater hstep).keptEnd _ stop hended
  · have hproducer := hinv.producers p track hget
    unfold stepsLeft
    rw [hget, hget']
    by_cases hown : a.isOf p = true
    · rw [if_pos hown]
      simp only [TranscodeAction.isOf, Bool.or_eq_true, decide_eq_true_eq] at hown
      rcases hown with rfl | rfl
      · have hact := withTrack_eq hget hget' hstep
        exact TranscodedTrack.stepsLeft_loopStep hinv.source hproducer hended hact
      · exact TranscodedTrack.stepsLeft_cancelRead (withTrack_eq hget hget' hstep)
    · rw [if_neg hown]
      cases hchange with
      | same heq | joined heq | left heq | dropped _ _ _ _ _ _ heq | reset _ _ heq =>
        rw [heq]; exact le_rfl
      | loop _ hmoved =>
        exact (TranscodedTrack.stepsLeft_loopStep hinv.source hproducer hended hmoved).le
      | cancelRead _ hmoved =>
        exact (TranscodedTrack.stepsLeft_cancelRead hmoved).le

/-- A goroutine of the track that can go on is an enabled action. -/
theorem withTrack_isSome (hget : s.tracks.cells[p]? = some track) (hact : (act track).isSome) :
    ∃ s', s.withTrack p act = some s' := by
  obtain ⟨track', htrack'⟩ := Option.isSome_iff_exists.mp hact
  rw [withTrack, hget, Option.bind_some, htrack']
  exact ⟨_, rfl⟩

end TranscodeSystem

/-! ## The result -/

/-- A loop that has returned was cancelled, was overwritten, or has handled
exactly the positions up to the end of the generation. -/
theorem stopped_cases {s : Stream} (h : ProducerInv s track)
    (hended : s.generationEndCursor track.generationBoundary = some stop)
    (hstart : track.sourceStart ≤ stop) (hpc : track.loop.pc = .stopped) :
    track.ringBuffer.closed = true ∧ ((∃ cause, track.cancelled = some cause ∧
          track.termination = some cause) ∨ (∃ n, track.termination = some (.sourceOverwrite n)) ∨
        track.termination = some .generationComplete ∧ track.loop.consumed =
            List.range' track.sourceStart (stop - track.sourceStart) ∧
          track.sourceCursor = stop) := by
  have hat := h.holds
  rw [hpc] at hat
  obtain ⟨⟨hcursor, cause, hcause, hreason⟩, hclosed⟩ := hat
  refine ⟨hclosed, ?_⟩
  cases hreason with
  | complete stop' hstop' hreached =>
    obtain rfl := Option.mem_unique hended hstop'
    have hposition : track.progress.position = stop := hreached hstart
    refine .inr (.inr ⟨hcause, ?_, hcursor.trans hposition⟩)
    have hconsumed : track.loop.consumed =
      List.range' track.sourceStart track.loop.consumed.length := h.sound.consumed
    have hlen : track.sourceStart + track.loop.consumed.length = stop := hposition
    rw [hconsumed]
    congr 1
    omega
  | cancelled _ hfound => exact .inl ⟨cause, hfound, hcause⟩
  | overwritten n => exact .inr (.inl ⟨n, hcause⟩)

theorem sourceCursor_le_position {s : Stream} (h : ProducerInv s track) :
    track.sourceCursor ≤ track.progress.position := by
  rcases h.holds.running_or_finished with ⟨-, hle, -⟩ | hfinished
  · exact hle
  · exact hfinished.sourceCursor.le

/-- In every run, for every track: outputs other than generated sequence
headers come from positions between the start of the track and the end of its
generation; the reported position only grows, up to that end.  Once the
generation is over, the goroutines of the track can go on until the loop has
stopped, and they take finitely many steps; then the loop was cancelled or
overwritten, or it has handled exactly the positions up to the end, finalized
the active pipeline once, and closed the ring. -/
theorem transcoding_stops_at_boundary (reg : Registry) (hreg : reg.RespectsSpans) (key : String)
    (instanceID : ℕ) (cfg : StreamConfig) (limits : LimitsConfig) (bufSize : ℤ)
    (acts : List TranscodeAction) (s : TranscodeSystem reg)
    (hrun : runFrom TranscodeSystem.step
      (TranscodeSystem.initial reg key instanceID cfg limits bufSize) acts = some s)
    (p : ℕ) (track : TranscodedTrack reg) (hget : s.tracks.cells[p]? = some track) :
    (∀ output ∈ track.loop.written, output.kind = .media →
      output.sourceSpan.valid = true ∧ track.sourceStart ≤ output.sourceSpan.beginCursor) ∧
    (∀ a s', s.step a = some s' →
      ∃ track', s'.tracks.cells[p]? = some track' ∧ track.sourceCursor ≤ track'.sourceCursor) ∧
    ∀ stop, s.trace.stream.generationEndCursor track.generationBoundary = some stop →
      track.sourceStart ≤ stop →
      (∀ output ∈ track.loop.written, output.kind = .media → output.sourceSpan.endCursor ≤ stop) ∧
      track.sourceCursor ≤ stop ∧
      (track.loop.pc ≠ .stopped →
        (∃ s', s.step (.loop p) = some s') ∨ ∃ s', s.step (.cancelRead p) = some s') ∧
      (∀ more s', runFrom TranscodeSystem.step s more = some s' →
        more.countP (TranscodeAction.isOf p) ≤ track.stepsLeft stop) ∧
      (track.loop.pc = .stopped → track.ringBuffer.closed = true ∧
          ((∃ cause, track.cancelled = some cause ∧ track.termination = some cause) ∨
            (∃ n, track.termination = some (.sourceOverwrite n)) ∨
            track.termination = some .generationComplete ∧
              track.loop.consumed = List.range' track.sourceStart (stop - track.sourceStart) ∧
              track.loop.finalizations = (if track.loop.pipeline.isSome then 1 else 0) ∧
              (∀ q, track.loop.pipeline = some q → q.finalized = true) ∧
              track.sourceCursor = stop)) := by
  have hinv : OutputsInv s := OutputsInv.run hreg hrun
  have hproducer := hinv.base.producers p track hget
  have houtput := hinv.outputs p track hget
  have hspan : ∀ output ∈ track.loop.written, output.kind = .media →
      output.sourceSpan.valid = true ∧ track.sourceStart ≤ output.sourceSpan.beginCursor ∧
          output.sourceSpan.endCursor ≤ track.progress.position := by
    intro output hmem hmedia
    obtain ⟨hvalid, hwithin⟩ := houtput.carries.1 output hmem hmedia
    exact ⟨hvalid, hwithin hvalid⟩
  refine ⟨?_, ?_, ?_⟩
  · intro output hmem hmedia
    obtain ⟨hvalid, hbegin, -⟩ := hspan output hmem hmedia
    exact ⟨hvalid, hbegin⟩
  · intro a s' hstep
    obtain ⟨track', hget', hchange⟩ := trackChange_of_step hinv.base.lifetime hstep hget
    exact ⟨track', hget', hchange.sourceCursor_le⟩
  · intro stop hended hstart
    have hposition : track.progress.position ≤ stop := hproducer.sound.ended stop hended hstart
    refine ⟨?_, ?_, ?_, ?_, ?_⟩
    · intro output hmem hmedia
      exact (hspan output hmem hmedia).2.2.trans hposition
    · exact (sourceCursor_le_position hproducer).trans hposition
    · intro hpc
      rcases TranscodedTrack.exists_step hinv.base.source hended hpc with hloop | hcancel
      · exact .inl (withTrack_isSome hget hloop)
      · exact .inr (withTrack_isSome hget hcancel)
    · intro more s' hmore
      -- Nothing gives the track new steps, so no action feeds the measure.
      have hprogress := @runFrom_until _ _ _ (EndedAt p stop) s s' more (fun _ => False)
        (TranscodeAction.isOf p) (fun _ => false) (stepsLeft p stop) 0 (fun _ _ _ h _ => h)
        (fun _ _ _ h hstep => .inr (stepsLeft_step h hstep)) ⟨hinv.base, track, hget, hended⟩ hmore
      have hcount := (hprogress.resolve_left id).2
      have hleft : s.stepsLeft p stop = track.stepsLeft stop := by
        rw [stepsLeft, hget]
      omega
    · intro hpc
      obtain ⟨hclosed, hcases⟩ := stopped_cases hproducer hended hstart hpc
      refine ⟨hclosed, ?_⟩
      rcases hcases with hcancelled | hgap | ⟨hcomplete, hconsumed, hcursor⟩
      · exact .inl hcancelled
      · exact .inr (.inl hgap)
      · obtain ⟨hcount, hfinal⟩ := houtput.finalized hcomplete
        exact .inr (.inr ⟨hcomplete, hconsumed, hcount, hfinal, hcursor⟩)

theorem plainCodecs_respectsSpans : plainCodecs.RespectsSpans where
  encode := by
    rintro _ _ _ _ _ _ _ - ⟨⟩ hwithin ⟨⟩
    exact List.forall_mem_singleton.mpr hwithin
  drain := by
    rintro _ _ _ _ - ⟨⟩
    exact List.forall_mem_nil _
  resample := by
    rintro _ _ _ _ _ _ _ - ⟨⟩ hwithin ⟨⟩
    exact hwithin
  drainResampler := by
    rintro _ _ _ _ _ - ⟨⟩ ⟨⟩

/-- One audio frame is published and the publisher leaves; the producer reads
the frame, finds the end of the generation and stops. -/
def finishedTrack : List TranscodeAction :=
  [.stream (.setPublisher (some camera) 0), .acquire opusRequest,
    .stream (.writeFrameForPublisher (some camera) ⟨0, 0⟩
      (some (newAVFrame .audio .aac .interframe 0 0 [7, 7]))),
    .stream .removePublisher] ++ List.replicate 11 (.loop 0)

theorem transcoding_stops_at_boundary_finished :
    ∃ s : TranscodeSystem plainCodecs, runFrom TranscodeSystem.step
        (TranscodeSystem.initial plainCodecs "live" 1 smallCache noLimits 8)
        finishedTrack = some s ∧
      ∃ track, s.tracks.cells[0]? = some track ∧
        s.trace.stream.generationEndCursor track.generationBoundary = some 1 ∧
        track.termination = some .generationComplete ∧
        track.loop.consumed = [0] ∧ track.loop.finalizations = 1 ∧
        (∃ output ∈ track.loop.written, output.kind = .media) ∧
        ∀ output ∈ track.loop.written, output.kind = .media → output.sourceSpan.endCursor ≤ 1 :=
  ⟨_, rfl, _, rfl, by decide, by decide, by decide, by decide, by decide,
    ((transcoding_stops_at_boundary plainCodecs plainCodecs_respectsSpans
      "live" 1 smallCache noLimits 8 finishedTrack _ rfl 0 _ rfl).2.2 1 (by decide) (by decide)).1⟩

end LiveForge.Core
