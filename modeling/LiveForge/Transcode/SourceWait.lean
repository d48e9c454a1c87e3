import LiveForge.Transcode.Boundary
import LiveForge.Transcode.Joining

/-!
# Waiting for a source position

`WaitForSourceCursor` of `core/transcode_manager.go` looks up the combined
track of a codec, reads the position that its producer has reported, and waits
for the channel that the next report closes.  A call is one more party of the
system; its context is never cancelled.  Only a report wakes it, and a producer
that finds itself cancelled or overwritten stops without one.
-/

namespace LiveForge.Core

open AudioCodec Support TranscodeSystem

/-- Where a call stands.  The channel of a `select` is closed once the track
has reported a position after `current`. -/
inductive WaitPc where
  | entry
  | lookup
  | load (track : ℕ)
  | select (track current : ℕ)
  | returned (result : Bool)
  deriving DecidableEq

def WaitPc.awaits : WaitPc → Option ℕ
  | .load p | .select p _ => some p
  | _ => none

/-- The steps a call takes until it returns, if it never waits again. -/
def WaitPc.stepsLeft : WaitPc → ℕ
  | .entry | .select _ _ => 3
  | .lookup => 2
  | .load _ => 1
  | .returned _ => 0

inductive WaitAction where
  | system (a : TranscodeAction)
  | call

structure SourceWait (reg : Registry) where
  system : TranscodeSystem reg
  call : WaitPc

variable {reg : Registry}

def TranscodeSystem.waitForSourceCursor (targetCodec : CodecType) (sourceCursor : ℤ)
    (s : TranscodeSystem reg) : WaitPc → Option WaitPc
  | .entry => some (if sourceCursor ≤ 0 then .returned true else .lookup)
  | .lookup => some <|
    match s.tracks.pointer? ⟨false, targetCodec⟩ with
    | none => .returned false
    | some p => .load p
  | .load p =>
    s.tracks.cells[p]?.map fun track =>
      if sourceCursor ≤ track.sourceCursor then .returned true else .select p track.sourceCursor
  | .select p current =>
    s.tracks.cells[p]?.bind fun track =>
      if current < track.sourceCursor then some .lookup else none
  | .returned _ => none

/-- The producer runs, or it has reported the position. -/
def TranscodedTrack.Serves (sourceCursor : ℤ) (track : TranscodedTrack reg) : Prop :=
  track.termination = none ∨ sourceCursor ≤ track.sourceCursor

instance (sourceCursor : ℤ) (track : TranscodedTrack reg) :
    Decidable (track.Serves sourceCursor) :=
  inferInstanceAs (Decidable (_ ∨ _))

/-- The producer has reported the position, or neither the end of its
generation nor its next step keeps it from doing so. -/
def TranscodedTrack.goesOn (s : Stream) (sourceCursor : ℤ) (track : TranscodedTrack reg) : Bool :=
  decide (sourceCursor ≤ track.sourceCursor) ||
    ((s.generationEndCursor track.generationBoundary).all
      fun stop : ℕ => decide (sourceCursor ≤ stop)) &&
      match track.loop.pc with
      | .checkContext | .notRead => track.cancelled.isNone
      | .tryRead | .blockingRead _ => !s.ringBuffer.lapped track.loop.readCursor
      | _ => true

namespace SourceWait

def initial (reg : Registry) (key : String) (instanceID : ℕ) (cfg : StreamConfig)
    (limits : LimitsConfig) (bufSize : ℤ) : SourceWait reg :=
  ⟨.initial reg key instanceID cfg limits bufSize, .entry⟩

def step (targetCodec : CodecType) (sourceCursor : ℤ) (w : SourceWait reg) :
    WaitAction → Option (SourceWait reg)
  | .system a => (w.system.step a).map fun system => { w with system }
  | .call => (w.system.waitForSourceCursor targetCodec sourceCursor w.call).map fun call =>
    { w with call }

/-- The producer that the call awaits goes on, and a lookup finds no track that
started behind the first position or has stopped before the one asked for. -/
def attends (targetCodec : CodecType) (sourceCursor : ℤ) (w : SourceWait reg) : WaitAction → Bool
  | .system (.loop p) => decide (w.call.awaits ≠ some p) ||
    w.system.tracks.cells[p]?.all (·.goesOn w.system.trace.stream sourceCursor)
  | .system _ => true
  | .call => decide (w.call ≠ .lookup) ||
    (w.system.tracks.get? ⟨false, targetCodec⟩).all fun track =>
      track.sourceStart = 0 ∧ track.Serves sourceCursor

def AwaitsRunning (w : SourceWait reg) : Prop :=
  ∃ p current track, w.call = .select p current ∧ w.system.tracks.cells[p]? = some track ∧
    track.termination = none

end SourceWait

/-! ## The awaited producer -/

section Step

variable {targetCodec : CodecType} {sourceCursor : ℤ}

theorem TranscodedTrack.Serves.loopStep {s : Stream} {track track' : TranscodedTrack reg}
    (hinv : ProducerInv s track) (hnone : track.termination = none)
    (hgoes : track.goesOn s sourceCursor = true) (hstep : track.loopStep s = some track') :
    track'.Serves sourceCursor := by
  have heffect := loopEffect_of_loopStep hstep
  have hmono : (track.sourceCursor : ℤ) ≤ track'.sourceCursor := by
    exact_mod_cast heffect.sourceCursor
  rcases heffect.termination with hsame | hexit
  · exact .inl (hsame.trans hnone)
  · simp only [goesOn, Bool.or_eq_true, Bool.and_eq_true, decide_eq_true_eq] at hgoes
    rcases hgoes with hreached | ⟨hended, hplace⟩
    · exact .inr (hreached.trans hmono)
    · cases hexit with
      | cancelled hpc cause hfound =>
        rcases hpc with hpc | hpc
        all_goals simp [hpc, hfound] at hplace
      | complete stop hstop hreached =>
        rw [hstop, Option.all_some, decide_eq_true_eq] at hended
        exact .inr (hended.trans (by exact_mod_cast hreached))
      | gap hreading hlapped =>
        rcases hreading with hpc | ⟨pc, hpc⟩
        all_goals simp [hpc, hlapped] at hplace
      | sourceClosed hpc hopen => exact absurd hopen (hinv.ended_of_notReadEnd hpc)

/-- The call has a track in hand that serves it from the first position on, and
waits only below the position asked for. -/
structure WaitInv (sourceCursor : ℤ) (w : SourceWait reg) : Prop where
  base : TranscodeInv w.system
  awaited : ∀ p, w.call.awaits = some p →
    ∃ track, w.system.tracks.cells[p]? = some track ∧ track.sourceStart = 0 ∧
      track.Serves sourceCursor
  below : ∀ p current, w.call = .select p current → (current : ℤ) < sourceCursor

namespace WaitInv

variable {w w' : SourceWait reg} {a : WaitAction}

theorem system {a : TranscodeAction} {s' : TranscodeSystem reg} (h : WaitInv sourceCursor w)
    (hattends : w.attends targetCodec sourceCursor (.system a) = true)
    (hstep : w.system.step a = some s') :
    WaitInv sourceCursor { w with system := s' } := by
  refine ⟨h.base.step hstep, ?_, h.below⟩
  intro p hp
  obtain ⟨track, hget, hstart, hserves⟩ := h.awaited p hp
  obtain ⟨track', hget', hchange⟩ := trackChange_of_step h.base.lifetime hstep hget
  refine ⟨track', hget', hchange.kept.1.trans hstart, ?_⟩
  rcases hserves with hnone | hreached
  · rcases hchange.termination_or_loop with hsame | ⟨rfl, hmoved⟩
    · exact .inl (hsame.trans hnone)
    · refine .loopStep (h.base.producers p track hget) hnone ?_ hmoved
      simpa [SourceWait.attends, hp, hget] using hattends
  · exact .inr (hreached.trans (by exact_mod_cast hchange.sourceCursor_le))

theorem of_awaits_none (h : TranscodeInv w.system) (hnone : w.call.awaits = none) :
    WaitInv sourceCursor w := by
  refine ⟨h, ?_, ?_⟩
  · intro p hp
    simp [hnone] at hp
  · intro p current hp
    simp [hp, WaitPc.awaits] at hnone

theorem call {pc : WaitPc} (h : WaitInv sourceCursor w)
    (hattends : w.attends targetCodec sourceCursor .call = true)
    (hstep : w.system.waitForSourceCursor targetCodec sourceCursor w.call = some pc) :
    WaitInv sourceCursor { w with call := pc } := by
  obtain ⟨s, before⟩ := w
  cases before with
  | entry =>
    obtain rfl := Option.some.inj hstep
    split
    all_goals exact of_awaits_none h.base rfl
  | lookup =>
    obtain rfl := Option.some.inj hstep
    cases hp : s.tracks.pointer? ⟨false, targetCodec⟩ with
    | none => exact of_awaits_none h.base rfl
    | some p =>
      refine ⟨h.base, ?_, by simp⟩
      rintro q ⟨rfl⟩
      obtain ⟨track, hget, hfound⟩ := h.base.lifetime.valid.get?_isSome hp
      refine ⟨track, hget, ?_⟩
      simpa [SourceWait.attends, tracks, hfound] using hattends
  | load p =>
    obtain ⟨track, hget, hserves⟩ := h.awaited p rfl
    obtain ⟨loaded, hloaded, rfl⟩ := Option.map_eq_some_iff.mp hstep
    obtain rfl := Option.mem_unique hget hloaded
    split
    · exact of_awaits_none h.base rfl
    next hlt =>
      refine ⟨h.base, ?_, ?_⟩
      · rintro q ⟨rfl⟩
        exact ⟨track, hget, hserves⟩
      · rintro q current ⟨rfl, rfl⟩
        exact not_le.mp hlt
  | select p current =>
    obtain ⟨track, -, hwoken⟩ := Option.bind_eq_some_iff.mp hstep
    obtain ⟨-, hpc⟩ := Option.ite_none_right_eq_some.mp hwoken
    obtain rfl := Option.some.inj hpc
    exact of_awaits_none h.base rfl
  | returned result => cases hstep

theorem step (h : WaitInv sourceCursor w) (hattends : w.attends targetCodec sourceCursor a = true)
    (hstep : w.step targetCodec sourceCursor a = some w') :
    WaitInv sourceCursor w' := by
  cases a with
  | system a =>
    obtain ⟨s', hs', rfl⟩ := Option.map_eq_some_iff.mp hstep
    exact h.system hattends hs'
  | call =>
    obtain ⟨pc, hpc, rfl⟩ := Option.map_eq_some_iff.mp hstep
    exact h.call hattends hpc

end WaitInv

end Step

/-! ## The result -/

/-- In every run in which the awaited producers go on: a call that has not
returned and does not wait for a running producer has a next step, and after at
most three of them it has returned or waits for a running producer.  If it
returns `true`, the track has consumed every position below the one asked for. -/
theorem wait_ends_with_producer (reg : Registry) (key : String) (instanceID : ℕ)
    (cfg : StreamConfig) (limits : LimitsConfig) (bufSize : ℤ) (targetCodec : CodecType)
    (sourceCursor : ℤ) (acts : List WaitAction) (w : SourceWait reg)
    (hrun : runFrom (SourceWait.step targetCodec sourceCursor)
      (SourceWait.initial reg key instanceID cfg limits bufSize) acts = some w)
    (hmeet : StepsMeet (fun w a => w.attends targetCodec sourceCursor a = true)
      (SourceWait.step targetCodec sourceCursor)
      (SourceWait.initial reg key instanceID cfg limits bufSize) acts) :
    (w.AwaitsRunning ∨ (∃ result, w.call = .returned result) ∨
      ∃ w', w.step targetCodec sourceCursor .call = some w' ∧
        (w'.AwaitsRunning ∨ w'.call.stepsLeft < w.call.stepsLeft)) ∧
    ∀ w', 0 < sourceCursor → w.step targetCodec sourceCursor .call = some w' →
      w'.call = .returned true → ∃ p track, w.call = .load p ∧
        w.system.tracks.cells[p]? = some track ∧
        ∀ i : ℕ, i < sourceCursor → i ∈ track.loop.consumed := by
  have hinv : WaitInv sourceCursor w :=
    runFrom_invariant_of_stepsMeet (fun _ _ _ h hattends hstep => h.step hattends hstep)
      ⟨TranscodeInv.initial reg key instanceID cfg limits bufSize, by rintro p ⟨⟩, by rintro p q ⟨⟩⟩
      hmeet hrun
  obtain ⟨s, pc⟩ := w
  constructor
  · cases pc with
    | entry | lookup =>
      refine .inr (.inr ⟨_, rfl, .inr ?_⟩)
      split
      all_goals simp [WaitPc.stepsLeft]
    | load p =>
      obtain ⟨track, hget, -, hserves⟩ := hinv.awaited p rfl
      refine .inr (.inr ⟨_, by
        rw [SourceWait.step, waitForSourceCursor, hget]
        rfl, ?_⟩)
      dsimp only
      split
      · exact .inr Nat.one_pos
      next hlt => exact .inl ⟨p, _, track, rfl, hget, hserves.resolve_right hlt⟩
    | select p current =>
      obtain ⟨track, hget, -, hnone | hreached⟩ := hinv.awaited p rfl
      · exact .inl ⟨p, current, track, rfl, hget, hnone⟩
      · have hbelow := hinv.below p current rfl
        have hwoken : current < track.sourceCursor := by omega
        refine .inr (.inr ⟨⟨s, .lookup⟩, ?_, .inr (Nat.lt_succ_self 2)⟩)
        simp [SourceWait.step, waitForSourceCursor, hget, hwoken]
    | returned result => exact .inr (.inl ⟨result, rfl⟩)
  · intro w' hpos hstep htrue
    obtain ⟨pc', hpc', rfl⟩ := Option.map_eq_some_iff.mp hstep
    obtain rfl : pc' = .returned true := htrue
    cases pc with
    | entry => simp [waitForSourceCursor, hpos] at hpc'
    | lookup =>
      rw [waitForSourceCursor] at hpc'
      split at hpc'
      all_goals simp at hpc'
    | load p =>
      obtain ⟨track, hget, hstart, -⟩ := hinv.awaited p rfl
      refine ⟨p, track, rfl, hget, ?_⟩
      rw [waitForSourceCursor, hget, Option.map_some, Option.some.injEq] at hpc'
      split_ifs at hpc' with hreached
      have hproducer := hinv.base.producers p track hget
      have hle : track.sourceCursor ≤ track.sourceStart + track.loop.consumed.length :=
        sourceCursor_le_position hproducer
      intro i hi
      rw [show track.loop.consumed = List.range' track.sourceStart track.loop.consumed.length
        from hproducer.sound.consumed, List.mem_range'_1]
      omega
    | select p current =>
      obtain ⟨track, -, hwoken⟩ := Option.bind_eq_some_iff.mp hpc'
      split at hwoken
      all_goals simp at hwoken
    | returned result => simp [waitForSourceCursor] at hpc'

/-- A combined track for Opus, and a call that asks for its first position. -/
def awaitedTrack : List WaitAction :=
  [.system (.stream (.setPublisher (some camera) 0)),
    .system (.acquire { opusRequest with audioOnly := false }), .call, .call, .call]

/-- The last subscriber leaves while the call waits: the producer stops, and
nothing wakes the call. -/
theorem wait_outlasts_producer :
    ∃ w : SourceWait plainCodecs, runFrom (SourceWait.step .opus 1)
      (SourceWait.initial plainCodecs "live" 1 smallCache noLimits 8)
      (awaitedTrack ++ [.system (.callRelease 0), .system (.finishRelease 0)] ++
        List.replicate 4 (.system (.loop 0))) = some w ∧ w.call = .select 0 0 ∧
      w.step .opus 1 .call = none ∧ ∃ track, w.system.tracks.cells[0]? = some track ∧
      track.loop.pc = .stopped ∧ track.termination = some .subscriberReleased ∧
      w.system.step (.loop 0) = none :=
  ⟨_, rfl, rfl, rfl, _, rfl, rfl, rfl, rfl⟩

/-- The producer reads a frame, reports it and finds the end of its generation. -/
def servedWait : List WaitAction :=
  awaitedTrack ++ [.system (.stream (.writeFrameForPublisher (some camera) ⟨0, 0⟩
      (some (newAVFrame .audio .aac .interframe 0 0 [7, 7])))),
    .system (.stream .removePublisher)] ++ List.replicate 11 (.system (.loop 0)) ++ [.call, .call]

theorem wait_ends_with_producer_served :
    ∃ w : SourceWait plainCodecs, runFrom (SourceWait.step .opus 1)
      (SourceWait.initial plainCodecs "live" 1 smallCache noLimits 8) servedWait = some w ∧
      ∃ w', w.step .opus 1 .call = some w' ∧ w'.call = .returned true ∧
        ∃ p track, w.call = .load p ∧ w.system.tracks.cells[p]? = some track ∧
          ∀ i : ℕ, i < (1 : ℤ) → i ∈ track.loop.consumed :=
  ⟨_, rfl, _, rfl, rfl, (wait_ends_with_producer plainCodecs "live" 1 smallCache noLimits 8 .opus 1
    servedWait _ rfl (by decide)).2 _ (by decide) rfl rfl⟩

end LiveForge.Core
