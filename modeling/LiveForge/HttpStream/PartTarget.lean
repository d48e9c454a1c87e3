import LiveForge.HttpStream.Immutable
import Mathlib.Data.List.Chain

/-!
# The part target

A playlist announces the configured duration of a part as an upper bound.  The
segmenter ends a part with the first frame that has reached it, and the part
lasts until that frame: the frames have to fall on the bound, or the part
exceeds it.  They do if they come at a pace that divides it.
-/

namespace LiveForge.HttpStream

open Support

/-! ## Targets and times -/

def LLHLSManager.parts (m : LLHLSManager) : List LLHLSPart :=
  m.segments.flatMap LLHLSSegment.parts ++ m.currentParts

/-- The bound that a playlist announces. -/
def announcedTarget (lines : List PlaylistLine) : Option ℤ :=
  lines.findSome? fun
    | .partInf target => some target
    | _ => none

/-- Frames come together or `pace` milliseconds after each other, unless the
segmenter starts over in between, and none lasts longer. -/
structure Paced (pace : ℤ) (muxed : List (Option (ℤ × ℤ))) : Prop where
  chain : muxed.IsChain fun before next => ∀ a ∈ before, ∀ b ∈ next,
    b.1 = a.1 ∨ b.1 = a.1 + pace
  short : ∀ entry ∈ muxed, ∀ f ∈ entry, f.2 ≤ pace

namespace Paced

variable {pace : ℤ} {muxed : List (Option (ℤ × ℤ))} {next : Option (ℤ × ℤ)}

theorem before (h : Paced pace (muxed ++ [next])) : Paced pace muxed where
  chain := h.chain.left_of_append
  short := (List.forall_mem_append.mp h.short).1

theorem step {f g : ℤ × ℤ} (h : Paced pace (muxed ++ [some g]))
    (hlast : muxed.getLast? = some (some f)) :
    g.1 = f.1 ∨ g.1 = f.1 + pace :=
  (List.isChain_append.mp h.chain).2.2 (some f) hlast (some g) rfl f rfl g rfl

end Paced

/-! ## Parts in time -/

structure PartsInTime (target : ℤ) (c : LLHLSCore) : Prop where
  segParts : ∀ part ∈ c.segParts, part.duration ≤ target
  current : c.manager ∈ c.observed
  observed : ∀ m ∈ c.observed, ∀ part ∈ m.parts, part.duration ≤ target

variable {pace target : ℤ}

namespace PartsInTime

variable {c c' : LLHLSCore} (h : PartsInTime target c)

include h

theorem manager : ∀ part ∈ c.manager.parts, part.duration ≤ target :=
  h.observed _ h.current

theorem call (hcall : c'.observed = c.observed ++ [c'.manager])
    (hsegParts : ∀ part ∈ c'.segParts, part.duration ≤ target)
    (hparts : ∀ part ∈ c'.manager.parts, part.duration ≤ target) :
    PartsInTime target c' where
  segParts := hsegParts
  current := by simp [hcall]
  observed := by
    rw [hcall]
    exact forall_mem_concat h.observed hparts

theorem handPart {part : LLHLSPart} (hpart : part.duration ≤ target) :
    PartsInTime target (c.handPart part) := by
  refine h.call rfl ?_ ?_
  · exact forall_mem_concat h.segParts hpart
  · intro p hp
    rw [LLHLSManager.parts, List.mem_append] at hp
    rcases hp with hsegment | hopen
    · exact h.manager p (List.mem_append_left _ hsegment)
    · rcases List.mem_append.mp hopen with hold | hnew
      · exact h.manager p (List.mem_append_right _ hold)
      · exact List.mem_singleton.mp hnew ▸ hpart

theorem complete (count : ℕ) (duration : ℤ) : PartsInTime target (c.complete count duration) := by
  refine h.call rfl (List.forall_mem_nil _) ?_
  intro p hp
  simp only [LLHLSManager.parts, LLHLSCore.complete, LLHLSCore.call, LLHLSManager.onSegment,
    LLHLSManager.pruneInitSegmentsLocked, List.append_nil, List.mem_flatMap] at hp
  obtain ⟨seg, hseg, hp⟩ := hp
  rcases List.mem_append.mp (List.mem_of_mem_drop hseg) with hold | hnew
  · exact h.manager p (List.mem_append_left _ (List.mem_flatMap.mpr ⟨seg, hold, hp⟩))
  · rw [List.mem_singleton.mp hnew] at hp
    obtain ⟨part, hpart, rfl⟩ := List.mem_map.mp hp
    exact h.segParts part hpart

theorem recover : PartsInTime target c.recover := by
  unfold LLHLSCore.recover
  split
  · exact { h with segParts := List.forall_mem_nil _ }
  · refine h.call rfl (List.forall_mem_nil _) fun p hp => h.manager p (List.mem_append_left _ ?_)
    exact List.append_nil (c.manager.segments.flatMap LLHLSSegment.parts) ▸ hp

end PartsInTime

/-! ## Segmenters that keep pace -/

/-- All parts are in time.  The last frame that was muxed lies in the open part, whole
steps after its start and before its target, and the frames that the clock knows end
before that. -/
structure OnPace (pace target : ℤ) (s : LLHLSSegmenter) : Prop where
  parts : PartsInTime target s.core
  last : s.partHasData = true → ∃ f, s.muxed.getLast? = some (some f) ∧
    pace ∣ f.1 - s.partStartDTS ∧ f.1 < s.partStartDTS + target
  clock : ∀ f, s.partMediaClock.lastVideo = some f ∨ s.partMediaClock.lastAudio = some f →
    s.partHasData = true ∧
      f.dts + frameDurationMilliseconds f s.partMediaClock.audioSampleRate ≤
        s.partStartDTS + target

/-- Frames that come at the pace keep the segmenter on it. -/
def KeepsPace (pace target : ℤ) (s : LLHLSSegmenter) : Prop :=
  Paced pace s.muxed → OnPace pace target s

variable {cfg : LLHLSConfig} {s : LLHLSSegmenter} {frame : AVFrame}

namespace SegmentMediaClock

variable {c : SegmentMediaClock} {f : AVFrame}

theorem observe_audioSampleRate : (c.observe frame).audioSampleRate = c.audioSampleRate := by
  unfold observe
  split <;> rfl

theorem observe_last
    (h : (c.observe frame).lastVideo = some f ∨ (c.observe frame).lastAudio = some f) :
    f = frame ∨ c.lastVideo = some f ∨ c.lastAudio = some f := by
  unfold observe at h
  split at h
  · exact h.imp (fun hvideo => (Option.some.inj hvideo).symm) .inr
  · exact h.symm.imp (fun haudio => (Option.some.inj haudio).symm) .inl
  · exact .inr h

end SegmentMediaClock

namespace LLHLSSegmenter

/-- What only muxing and starting over change. -/
def history (s : LLHLSSegmenter) : List (Option (ℤ × ℤ)) × ℤ :=
  (s.muxed, s.partMediaClock.audioSampleRate)

variable (cfg s frame)

theorem flushCurrentPart_history (stop : ℤ) : (s.flushCurrentPart stop).history = s.history := by
  unfold flushCurrentPart
  split
  · rfl
  · dsimp only
    split <;> rfl

theorem flushCurrentSegment_history : (s.flushCurrentSegment cfg).history = s.history := by
  unfold flushCurrentSegment
  split <;> rfl

theorem endBefore_history : (s.endBefore cfg frame).history = s.history := by
  unfold endBefore
  dsimp only
  split
  · split <;> simp only [flushCurrentPart_history, flushCurrentSegment_history]
  · split <;> simp only [flushCurrentPart_history]

theorem openPart_spec :
    (s.openPart frame).partHasData = true ∧
      (s.openPart frame).partMediaClock = s.partMediaClock ∧
      (s.openPart frame).muxed = s.muxed ∧
      (s.openPart frame).partStartDTS =
        if s.partHasData then s.partStartDTS else frame.dts := by
  unfold openPart
  dsimp only
  split
  next hdata => split <;> exact ⟨hdata, rfl, rfl, rfl⟩
  · split <;> exact ⟨rfl, rfl, rfl, rfl⟩

theorem initMuxerSnapshot_muxed (setup : SegmentSetup) :
    (s.initMuxerSnapshot cfg setup).muxed = s.muxed := by
  unfold initMuxerSnapshot
  split <;> rfl

theorem beginRecovery_spec :
    s.beginRecovery.muxed = s.muxed ++ [none] ∧ s.beginRecovery.partHasData = false ∧
      s.beginRecovery.partMediaClock = s.partMediaClock.reset := by
  unfold beginRecovery
  dsimp only
  split <;> exact ⟨rfl, rfl, rfl⟩

end LLHLSSegmenter

namespace OnPace

theorem of_closed (hparts : PartsInTime target s.core) (hdata : s.partHasData = false)
    (hvideo : s.partMediaClock.lastVideo = none) (haudio : s.partMediaClock.lastAudio = none) :
    OnPace pace target s where
  parts := hparts
  last := by simp [hdata]
  clock := by simp [hvideo, haudio]

section Segmenters

variable (h : OnPace pace target s)

include h

theorem endAfter_le (htarget : 0 < target) {stop : ℤ} (hstop : stop ≤ s.partStartDTS + target) :
    s.partMediaClock.endAfter s.partStartDTS stop ≤ s.partStartDTS + target := by
  unfold SegmentMediaClock.endAfter SegmentMediaClock.endDTS
  dsimp only
  split
  · split
    · omega
    next f hlast =>
      have hknown : s.partMediaClock.lastVideo = some f ∨ s.partMediaClock.lastAudio = some f := by
        split at hlast
        · exact (Option.or_eq_some_iff.mp hlast).imp_right And.right
        · exact .inr hlast
      have hends := (h.clock f hknown).2
      split <;> omega
  · exact hstop

/-- A part that ends in time leaves no part open. -/
theorem flushCurrentPart {stop : ℤ} (htarget : 0 < target)
    (hstop : s.partHasData = true → stop ≤ s.partStartDTS + target) :
    OnPace pace target (s.flushCurrentPart stop) ∧
      (s.flushCurrentPart stop).partHasData = false := by
  unfold LLHLSSegmenter.flushCurrentPart
  split
  next hdata => exact ⟨h, hdata⟩
  next hdata =>
    have hend := h.endAfter_le htarget (hstop (Bool.eq_true_of_not_eq_false hdata))
    dsimp only
    split
    · exact ⟨of_closed h.parts rfl rfl rfl, rfl⟩
    · exact ⟨of_closed (h.parts.handPart (Int.sub_left_le_of_le_add hend)) rfl rfl rfl, rfl⟩

theorem flushCurrentSegment : OnPace pace target (s.flushCurrentSegment cfg) := by
  unfold LLHLSSegmenter.flushCurrentSegment
  split
  · exact h
  · exact ⟨h.parts.complete _ _, h.last, h.clock⟩

/-- A frame that comes in step goes into the open part or opens one. -/
theorem muxFrame (hdvd : pace ∣ target) (htarget : 0 < target)
    (hopen : s.partHasData = true →
      pace ∣ frame.dts - s.partStartDTS ∧ frame.dts < s.partStartDTS + target)
    (hshort : frameDurationMilliseconds frame s.partMediaClock.audioSampleRate ≤ pace) :
    OnPace pace target ((s.openPart frame).muxFrame frame) := by
  obtain ⟨hdata, hclock, hmuxed, hstart⟩ := s.openPart_spec frame
  have hinside : pace ∣ frame.dts - (s.openPart frame).partStartDTS ∧
      frame.dts < (s.openPart frame).partStartDTS + target := by
    rw [hstart]
    split
    next hold => exact hopen hold
    · simp [htarget]
  -- a whole step is left before the target
  have hroom : frame.dts + pace ≤ (s.openPart frame).partStartDTS + target := by
    have := Int.le_of_dvd (by omega) (Int.dvd_sub hdvd hinside.1)
    omega
  have hknown : ∀ f, s.partMediaClock.lastVideo = some f ∨ s.partMediaClock.lastAudio = some f →
      f.dts + frameDurationMilliseconds f s.partMediaClock.audioSampleRate ≤
        (s.openPart frame).partStartDTS + target := by
    intro f hf
    obtain ⟨hold, hends⟩ := h.clock f hf
    rwa [hstart, if_pos hold]
  refine ⟨?_, fun _ => ⟨_, List.getLast?_concat, hinside⟩, fun f hf => ⟨hdata, ?_⟩⟩
  · exact (s.openPart_core frame).symm ▸ h.parts
  · simp only [LLHLSSegmenter.muxFrame, hclock, SegmentMediaClock.observe_audioSampleRate] at hf ⊢
    rcases SegmentMediaClock.observe_last hf with rfl | hf
    · omega
    · exact hknown f hf

/-- The next frame comes in step, at the target at the latest. -/
theorem next (hdvd : pace ∣ target) {duration : ℤ}
    (hpaced : Paced pace (s.muxed ++ [some (frame.dts, duration)])) (hdata : s.partHasData = true) :
    pace ∣ frame.dts - s.partStartDTS ∧ frame.dts ≤ s.partStartDTS + target := by
  obtain ⟨f, hlast, hstep, hinside⟩ := h.last hdata
  have hroom := Int.le_of_dvd (by omega) (Int.dvd_sub hdvd hstep)
  rcases hpaced.step hlast with hsame | hnext
  · exact ⟨by rwa [show frame.dts = f.1 from hsame], by omega⟩
  · have hsum := Int.dvd_add hstep (Int.dvd_refl pace)
    rw [show f.1 - s.partStartDTS + pace = frame.dts - s.partStartDTS by omega] at hsum
    exact ⟨hsum, by omega⟩

end Segmenters

theorem initMuxerSnapshot (h : OnPace pace target s) (setup : SegmentSetup) :
    OnPace pace target (s.initMuxerSnapshot cfg setup) := by
  unfold LLHLSSegmenter.initMuxerSnapshot
  split
  · exact ⟨h.parts.call rfl h.parts.segParts h.parts.manager, h.last,
      by simp [LLHLSSegmenter.callback]⟩
  · exact ⟨h.parts, h.last, by simp⟩
  · exact ⟨h.parts, h.last, by simp⟩

theorem beginRecovery (h : KeepsPace pace target s) : KeepsPace pace target s.beginRecovery := by
  intro hpaced
  obtain ⟨hmuxed, hdata, hclock⟩ := s.beginRecovery_spec
  rw [hmuxed] at hpaced
  refine of_closed ?_ hdata (by rw [hclock]; rfl) (by rw [hclock]; rfl)
  exact s.beginRecovery_core ▸ (h hpaced.before).parts.recover

section Runs

variable (hdvd : pace ∣ cfg.partDuration) (hpos : 0 < cfg.partDuration)
  (hexact : ∀ ms, cfg.partElapsed ms = decide (cfg.partDuration ≤ ms))

include hexact hpos in
/-- A part that goes on has not reached its target. -/
theorem endBefore (h : OnPace pace cfg.partDuration s)
    (hnext : s.partHasData = true → frame.dts ≤ s.partStartDTS + cfg.partDuration) :
    OnPace pace cfg.partDuration (s.endBefore cfg frame) ∧
      ((s.endBefore cfg frame).partHasData = true →
        s.endBefore cfg frame = s ∧ frame.dts < s.partStartDTS + cfg.partDuration) := by
  obtain ⟨hflushed, hclosed⟩ := h.flushCurrentPart hpos hnext
  have hsegment : (LLHLSSegmenter.flushCurrentSegment cfg
      (s.flushCurrentPart frame.dts)).partHasData = false := by
    unfold LLHLSSegmenter.flushCurrentSegment
    split <;> exact hclosed
  unfold LLHLSSegmenter.endBefore
  dsimp only
  split
  · rw [if_neg (by simp [LLHLSSegmenter.endsPart, hsegment])]
    exact ⟨hflushed.flushCurrentSegment, by simp [hsegment]⟩
  · split
    · exact ⟨hflushed, by simp [hclosed]⟩
    next hgoes =>
      refine ⟨h, fun hdata => ⟨rfl, ?_⟩⟩
      simp only [LLHLSSegmenter.endsPart, hdata, hexact, Bool.true_and, decide_eq_true_eq] at hgoes
      omega

include hdvd hpos hexact

theorem processFrame (h : KeepsPace pace cfg.partDuration s) :
    KeepsPace pace cfg.partDuration (s.processFrame cfg frame) := by
  intro hpaced
  unfold LLHLSSegmenter.processFrame at hpaced ⊢
  split_ifs at hpaced ⊢
  · exact h hpaced
  · exact h hpaced
  · dsimp only at hpaced ⊢
    generalize hready : ({ s with gotFirstKeyframe := true } : LLHLSSegmenter) = ready at hpaced ⊢
    obtain ⟨hmuxed, hrate⟩ := Prod.mk.inj (ready.endBefore_history cfg frame)
    obtain ⟨-, hclock, hopened, -⟩ := (ready.endBefore cfg frame).openPart_spec frame
    simp only [LLHLSSegmenter.muxFrame, hopened, hclock, hmuxed, hrate] at hpaced
    have hs : OnPace pace cfg.partDuration ready := by
      subst hready
      exact { h hpaced.before with }
    obtain ⟨hended, hgoes⟩ :=
      hs.endBefore hpos hexact fun hdata => (hs.next hdvd hpaced hdata).2
    refine hended.muxFrame hdvd hpos (fun hdata => ?_) ?_
    · obtain ⟨hsame, hinside⟩ := hgoes hdata
      rw [hsame] at hdata ⊢
      exact ⟨(hs.next hdvd hpaced hdata).1, hinside⟩
    · exact hrate ▸ hpaced.short _ (List.mem_append_right _ (List.mem_singleton_self _)) _ rfl

theorem publishCached (h : KeepsPace pace cfg.partDuration s) (gopCache : List AVFrame) :
    KeepsPace pace cfg.partDuration (LLHLSRun.publishCached cfg gopCache s) := by
  have hframes := List.foldlRecOn (motive := KeepsPace pace cfg.partDuration)
    (gopCache.filter fun f => f.frameType ≠ .sequenceHeader) (LLHLSSegmenter.processFrame cfg) h
    fun s hs f _ => processFrame hdvd hpos hexact hs
  intro hpaced
  unfold LLHLSRun.publishCached at hpaced ⊢
  dsimp only at hpaced ⊢
  split at hpaced
  next hdata =>
    rw [(Prod.mk.inj (LLHLSSegmenter.flushCurrentPart_history _ _)).1] at hpaced
    rw [if_pos hdata]
    exact ((hframes hpaced).flushCurrentPart hpos fun _ => by omega).1
  next hdata =>
    rw [if_neg hdata]
    exact hframes hpaced

theorem step {r r' : LLHLSRun} {action : LLHLSAction}
    (h : KeepsPace pace cfg.partDuration r.segmenter)
    (hstep : LLHLSRun.step cfg r action = some r') :
    KeepsPace pace cfg.partDuration r'.segmenter := by
  intro hpaced
  unfold LLHLSRun.step at hstep
  split at hstep
  next setup gopCache _ =>
    cases hstep
    refine publishCached hdvd hpos hexact (fun hinit => ?_) gopCache hpaced
    exact (h (r.segmenter.initMuxerSnapshot_muxed cfg setup ▸ hinit)).initMuxerSnapshot setup
  · split at hstep
    · cases hstep
      exact h hpaced
    · cases hstep
      exact processFrame hdvd hpos hexact h hpaced
  next setup _ =>
    cases hstep
    unfold LLHLSRun.restart at hpaced ⊢
    simp only [LLHLSSegmenter.initMuxerSnapshot_muxed] at hpaced
    have hrecovered : OnPace pace cfg.partDuration
        ({ r.segmenter.beginRecovery with hasVideo := false } : LLHLSSegmenter) :=
      { beginRecovery h hpaced with }
    exact { hrecovered.initMuxerSnapshot setup with }
  · cases hstep
    exact beginRecovery h hpaced
  · cases hstep
    exact beginRecovery h hpaced
  · cases hstep
    unfold LLHLSRun.flushAll at hpaced ⊢
    have hhistory := (LLHLSSegmenter.flushCurrentSegment_history cfg _).trans
      (r.segmenter.flushCurrentPart_history r.segmenter.partStartDTS)
    rw [(Prod.mk.inj hhistory).1] at hpaced
    exact ((h hpaced).flushCurrentPart hpos fun _ => by omega).1.flushCurrentSegment
  · cases hstep
    exact h hpaced
  · simp at hstep

end Runs

end OnPace

/-! ## The announced target -/

/-- If the frames come at a pace that divides the duration of a part, no part of any
playlist lasts longer than the playlist announces. -/
theorem parts_within_target (cfg : LLHLSConfig) (pace : ℤ) (acts : List LLHLSAction) (r : LLHLSRun)
    (hrun : runFrom (LLHLSRun.step cfg) {} acts = some r)
    (hexact : ∀ ms, cfg.partElapsed ms = decide (cfg.partDuration ≤ ms))
    (hdvd : pace ∣ cfg.partDuration) (hpos : 0 < cfg.partDuration)
    (hmuxed : Paced pace r.segmenter.muxed) :
    ∀ m ∈ r.segmenter.observed, ∀ skip blocking, ∃ target,
      announcedTarget (m.generatePlaylist cfg skip blocking) = some target ∧
        ∀ part ∈ m.parts, part.duration ≤ target := by
  have hinit : OnPace pace cfg.partDuration ({} : LLHLSSegmenter) :=
    .of_closed ⟨List.forall_mem_nil _, List.mem_singleton_self _,
      List.forall_mem_singleton.mpr (List.forall_mem_nil _)⟩ rfl rfl rfl
  have hpaced : OnPace pace cfg.partDuration r.segmenter :=
    runFrom_invariant (fun _ _ _ (hr : KeepsPace _ _ (LLHLSRun.segmenter _)) =>
      OnPace.step hdvd hpos hexact hr) (fun _ => hinit) hrun hmuxed
  exact fun m hm _ _ => ⟨cfg.partDuration, rfl, hpaced.parts.observed m hm⟩

/-- A frame every 100 ms, with a new start. -/
def punctualRun : List LLHLSAction :=
  [.start videoSetup [keyframeAt 0, interframeAt 100], .frame (interframeAt 200),
    .frame (interframeAt 300), .frame (interframeAt 400), .frame (keyframeAt 500),
    .overwritten (some videoSetup), .frame (keyframeAt 2000), .frame (interframeAt 2100),
    .frame (interframeAt 2200)]

theorem parts_within_target_punctual :
    ∃ r, runFrom (LLHLSRun.step lowLatencyConfig) {} punctualRun = some r ∧
      (r.segmenter.manager.parts.map LLHLSPart.duration = [133, 200, 100, 200]) ∧
      ∀ m ∈ r.segmenter.observed, ∀ skip blocking, ∃ target,
        announcedTarget (m.generatePlaylist lowLatencyConfig skip blocking) = some target ∧
          ∀ part ∈ m.parts, part.duration ≤ target := by
  refine ⟨_, rfl, by decide, parts_within_target lowLatencyConfig 100 punctualRun _ rfl
    (fun _ => rfl) (by decide) (by decide) ⟨by decide, by decide⟩⟩

/-- With a frame every 150 ms and an announced target of 200 ms, parts last 300 ms. -/
theorem parts_exceed_target :
    ∃ r, runFrom (LLHLSRun.step lowLatencyConfig) {} [.start videoSetup [keyframeAt 0],
        .frame (interframeAt 150), .frame (interframeAt 300), .frame (interframeAt 450)] = some r ∧
      ∃ m ∈ r.segmenter.observed,
        announcedTarget (m.generatePlaylist lowLatencyConfig false false) = some 200 ∧
          ∃ part ∈ m.parts, part.duration = 300 :=
  ⟨_, rfl, by decide⟩

end LiveForge.HttpStream
