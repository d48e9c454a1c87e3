import LiveForge.HttpStream.Playlist
import Mathlib.Logic.Relation

/-!
# What a low-latency segmenter can do

Whatever frames a segmenter meets, it does one of few things to the numbers it
shares with its manager: it hands over a part, it completes a segment, it
announces new tracks, or it starts over.  Every step of a run is a chain of such
moves, so what all of them preserve holds in every state a client can see.
-/

namespace LiveForge.HttpStream

open Support Relation

/-! ## Moves -/

/-- The part of a segmenter that counts. -/
structure LLHLSCore where
  segParts : List LLHLSPart
  segMSN : ℕ
  partIdx : ℕ
  recoveryPending : Bool
  manager : LLHLSManager
  observed : List LLHLSManager

def LLHLSSegmenter.core (s : LLHLSSegmenter) : LLHLSCore where
  segParts := s.segParts
  segMSN := s.segMSN
  partIdx := s.partIdx
  recoveryPending := s.recoveryPending
  manager := s.manager
  observed := s.observed

namespace LLHLSCore

/-- The manager changes in a call. -/
def call (c : LLHLSCore) (manager : LLHLSManager) : LLHLSCore :=
  { c with manager, observed := c.observed ++ [manager] }

def handPart (c : LLHLSCore) (part : LLHLSPart) : LLHLSCore :=
  ({ c with
    segParts := c.segParts ++ [c.manager.stamp part]
    partIdx := c.partIdx + 1
    recoveryPending := false } : LLHLSCore).call (c.manager.onPart part)

def segmentOf (c : LLHLSCore) (duration : ℤ) : LLHLSSegment where
  msn := c.segMSN
  duration
  parts := c.segParts
  discontinuity := c.segParts.any LLHLSPart.discontinuity

def complete (count : ℕ) (c : LLHLSCore) (duration : ℤ) : LLHLSCore :=
  ({ c with segMSN := c.segMSN + 1, segParts := [], partIdx := 0 } :
    LLHLSCore).call (c.manager.onSegment count (c.segmentOf duration))

def recover (c : LLHLSCore) : LLHLSCore :=
  let discarded := { c with segParts := [], partIdx := 0 }
  if c.recoveryPending then discarded
  else
    ({ discarded with segMSN := c.segMSN + 1, recoveryPending := true } :
      LLHLSCore).call c.manager.onDiscontinuity

end LLHLSCore

/-- A move that does not start over. -/
inductive LLHLSMove (count : ℕ) : LLHLSCore → LLHLSCore → Prop where
  | part (c : LLHLSCore) (part : LLHLSPart) (hindex : part.index = c.partIdx)
      (hdisc : part.discontinuity = c.recoveryPending)
      (hversion : part.initVersion = none) :
      LLHLSMove count c (c.handPart part)
  | segment (c : LLHLSCore) (duration : ℤ) (hparts : c.segParts ≠ []) :
      LLHLSMove count c (c.complete count duration)
  | init (c : LLHLSCore) (data : Fmp4.InitSegment) :
      LLHLSMove count c (c.call (c.manager.onInit data))

def LLHLSMoves (count : ℕ) : LLHLSCore → LLHLSCore → Prop :=
  ReflTransGen (LLHLSMove count)

/-- What a move preserves, a chain of moves does. -/
theorem LLHLSMoves.invariant {count : ℕ} {Inv : LLHLSCore → Prop} {c c' : LLHLSCore}
    (hstep : ∀ a b, Inv a → LLHLSMove count a b → Inv b) (h : LLHLSMoves count c c') (hc : Inv c) :
    Inv c' := by
  induction h with
  | refl => exact hc
  | tail _ hmove ih => exact hstep _ _ ih hmove

/-! ## The segmenter moves -/

theorem LLHLSSegmenter.openPart_core (s : LLHLSSegmenter) (frame : AVFrame) :
    (s.openPart frame).core = s.core := by
  unfold openPart
  dsimp only
  split <;> split <;> rfl

theorem LLHLSSegmenter.beginRecovery_core (s : LLHLSSegmenter) :
    s.beginRecovery.core = s.core.recover := by
  unfold beginRecovery LLHLSCore.recover
  by_cases hpending : s.recoveryPending = true
  · rw [if_pos (show s.discardCurrent.recoveryPending = true from hpending),
      if_pos (show s.core.recoveryPending = true from hpending)]
    rfl
  · rw [if_neg (show ¬ s.discardCurrent.recoveryPending = true from hpending),
      if_neg (show ¬ s.core.recoveryPending = true from hpending)]
    rfl

variable {cfg : LLHLSConfig} {action : LLHLSAction}

namespace LLHLSSegmenter

variable {start : LLHLSCore} {s : LLHLSSegmenter}
  (h : LLHLSMoves cfg.segmentCount start s.core)

include h

theorem flushCurrentPart_moves (stop : ℤ) :
    LLHLSMoves cfg.segmentCount start (s.flushCurrentPart stop).core := by
  unfold flushCurrentPart
  split
  · exact h
  · dsimp only
    split
    · exact h
    · exact h.tail (.part s.core (s.newPart stop _) rfl rfl rfl)

theorem flushCurrentSegment_moves :
    LLHLSMoves cfg.segmentCount start (s.flushCurrentSegment cfg).core := by
  unfold flushCurrentSegment
  split
  · exact h
  next hparts => exact h.tail (.segment s.core _ hparts)

theorem endBefore_moves (frame : AVFrame) :
    LLHLSMoves cfg.segmentCount start (s.endBefore cfg frame).core := by
  have hsegment := flushCurrentSegment_moves (flushCurrentPart_moves h frame.dts)
  unfold endBefore
  dsimp only
  split
  · split
    · exact flushCurrentPart_moves hsegment _
    · exact hsegment
  · split
    · exact flushCurrentPart_moves h _
    · exact h

theorem processFrame_moves (frame : AVFrame) :
    LLHLSMoves cfg.segmentCount start (s.processFrame cfg frame).core := by
  unfold processFrame
  split_ifs
  · exact h
  · exact h
  · change LLHLSMoves _ _ (openPart _ frame).core
    rw [openPart_core]
    exact endBefore_moves (s := { s with gotFirstKeyframe := true }) h frame

theorem initMuxerSnapshot_moves (setup : SegmentSetup) :
    LLHLSMoves cfg.segmentCount start (s.initMuxerSnapshot cfg setup).core := by
  unfold initMuxerSnapshot
  split
  · exact h.tail (.init s.core _)
  · exact h
  · exact h

theorem publishCached_moves (gopCache : List AVFrame) :
    LLHLSMoves cfg.segmentCount start (LLHLSRun.publishCached cfg gopCache s).core := by
  have hframes := List.foldlRecOn
    (motive := fun s : LLHLSSegmenter => LLHLSMoves cfg.segmentCount start s.core)
    (gopCache.filter fun f => f.frameType ≠ .sequenceHeader) (processFrame cfg) h
    fun s hs f _ => processFrame_moves hs f
  unfold LLHLSRun.publishCached
  dsimp only
  split
  · exact flushCurrentPart_moves hframes _
  · exact hframes

end LLHLSSegmenter

namespace LLHLSRun

open LLHLSSegmenter

/-- Every step is a chain of moves; a recovery starts over first. -/
theorem step_moves {r r' : LLHLSRun} (h : step cfg r action = some r') :
    LLHLSMoves cfg.segmentCount
      (if action.isRecovery then r.segmenter.core.recover else r.segmenter.core)
      r'.segmenter.core := by
  unfold step at h
  split at h
  next setup gopCache _ =>
    cases h
    exact publishCached_moves (initMuxerSnapshot_moves .refl setup) gopCache
  next f _ =>
    split at h
    · cases h
      exact .refl
    · cases h
      exact processFrame_moves .refl f
  next setup _ =>
    cases h
    refine initMuxerSnapshot_moves (s := { r.segmenter.beginRecovery with hasVideo := false })
      ?_ setup
    exact r.segmenter.beginRecovery_core ▸ .refl
  · cases h
    exact r.segmenter.beginRecovery_core ▸ .refl
  · cases h
    exact r.segmenter.beginRecovery_core ▸ .refl
  · cases h
    exact flushCurrentSegment_moves (flushCurrentPart_moves .refl _)
  · cases h
    exact .refl
  · simp at h

/-- What every move and every new start preserve holds after every run. -/
theorem invariant (Inv : LLHLSCore → Prop) {acts : List LLHLSAction} {r : LLHLSRun}
    (hinit : Inv ({} : LLHLSSegmenter).core)
    (hmove : ∀ a b, Inv a → LLHLSMove cfg.segmentCount a b → Inv b)
    (hrecover : ∀ a, Inv a → Inv a.recover) (hrun : runFrom (step cfg) {} acts = some r) :
    Inv r.segmenter.core := by
  refine @runFrom_invariant _ _ _ (fun r => Inv r.segmenter.core)
    (fun s a s' hs hstep => ?_) _ _ _ hinit hrun
  refine (step_moves hstep).invariant hmove ?_
  split
  · exact hrecover _ hs
  · exact hs

end LLHLSRun

end LiveForge.HttpStream
