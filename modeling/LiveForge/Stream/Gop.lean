import LiveForge.Media.Frame
import LiveForge.Support.Segments
import Mathlib.Algebra.Order.Ring.Int

/-!
# The GOP cache of a stream

A stream keeps the newest groups of pictures so that a subscriber can start at
a keyframe.  The source stores them in five parallel slices of `Stream`; they
are grouped here in `GopState`, and each function below is one of the
`...Locked` methods of `core/stream.go` that touch only these slices and the
policy.

Durations are nanoseconds, timestamps milliseconds.
-/

namespace LiveForge.Core

open Support Covers

/-- The stream settings that the modelled methods read. -/
structure StreamConfig where
  gopCache : Bool
  gopCacheNum : ℤ
  gopCacheMaxFrames : ℤ
  gopCacheMaxDuration : ℤ
  gopCacheMaxBytes : ℤ
  ringBufferSize : ℤ
  idleTimeout : ℤ
  noPublisherTimeout : ℤ
  deriving DecidableEq

def defaultGOPCacheMaxFrames : ℤ := 300

/-- A cache without any bound on a GOP gets the default frame bound. -/
def normalizeGOPConfig (cfg : StreamConfig) : StreamConfig :=
  if cfg.gopCache ∧ 0 < cfg.gopCacheNum ∧ cfg.gopCacheMaxFrames ≤ 0 ∧
      cfg.gopCacheMaxBytes ≤ 0 then
    { cfg with gopCacheMaxFrames := defaultGOPCacheMaxFrames }
  else cfg

def StreamConfig.cachesGOPs (cfg : StreamConfig) : Bool :=
  cfg.gopCache && decide (0 < cfg.gopCacheNum)

structure GopState where
  gopCache : List (List AVFrame)
  gopStarts : List ℕ
  gopBytes : List ℤ
  gopMinDTS : List ℤ
  gopMaxDTS : List ℤ
  gopGeneration : ℕ
  gopCacheSealed : Bool

/-! ## Durations -/

def maxInt64 : ℤ := 2 ^ 63 - 1

def dtsSpanMillis (minDTS maxDTS : ℤ) : ℤ :=
  let (lo, hi) := if maxDTS < minDTS then (maxDTS, minDTS) else (minDTS, maxDTS)
  if lo < 0 ∧ maxInt64 + lo < hi then maxInt64 else hi - lo

def nanosPerMilli : ℤ := 1000000

def gopDurationExceeded (minDTS maxDTS limit : ℤ) : Bool :=
  if limit ≤ 0 ∨ maxDTS < minDTS then false
  else decide (limit / nanosPerMilli < dtsSpanMillis minDTS maxDTS)

def gopDurationAtLeast (minDTS maxDTS limit : ℤ) : Bool :=
  if limit ≤ 0 ∨ maxDTS < minDTS then false
  else decide (limit / nanosPerMilli ≤ dtsSpanMillis minDTS maxDTS)

def payloadBytes (frames : List AVFrame) : ℤ :=
  (frames.map fun f => (f.payload.length : ℤ)).sum

def minDTSOf (dts : ℤ) (frames : List AVFrame) : ℤ :=
  frames.foldl (fun m f => if f.dts < m then f.dts else m) dts

def maxDTSOf (dts : ℤ) (frames : List AVFrame) : ℤ :=
  frames.foldl (fun m f => if m < f.dts then f.dts else m) dts

namespace GopState

/-- All slices set to nil, and the seal broken. -/
def clear (g : GopState) : GopState :=
  { g with
    gopCache := []
    gopStarts := []
    gopBytes := []
    gopMinDTS := []
    gopMaxDTS := []
    gopCacheSealed := false }

/-- The cache of a new generation is empty, its counter zero. -/
def reset (g : GopState) : GopState := { g.clear with gopGeneration := 0 }

/-- Keep the newest `n` entries of each slice; the slices are equally long. -/
def keepNewest (n : ℕ) (g : GopState) : GopState :=
  { g with
    gopCache := g.gopCache.drop (g.gopCache.length - n)
    gopStarts := g.gopStarts.drop (g.gopStarts.length - n)
    gopBytes := g.gopBytes.drop (g.gopBytes.length - n)
    gopMinDTS := g.gopMinDTS.drop (g.gopMinDTS.length - n)
    gopMaxDTS := g.gopMaxDTS.drop (g.gopMaxDTS.length - n) }

/-- Bound the number of cached GOPs by the policy. -/
def boundNum (cfg : StreamConfig) (g : GopState) : GopState :=
  if cfg.gopCacheNum < g.gopCache.length then
    g.keepNewest cfg.gopCacheNum.toNat
  else g

def startGOP (cfg : StreamConfig) (frame : AVFrame) (writeCursor : ℕ)
    (g : GopState) : GopState :=
  boundNum cfg
    { gopCache := g.gopCache ++ [[frame]]
      gopStarts := g.gopStarts ++ [writeCursor]
      gopBytes := g.gopBytes ++ [(frame.payload.length : ℤ)]
      gopMinDTS := g.gopMinDTS ++ [frame.dts]
      gopMaxDTS := g.gopMaxDTS ++ [frame.dts]
      gopGeneration := g.gopGeneration + 1
      gopCacheSealed := false }

/-- The newest GOP has reached one of the configured bounds. -/
def currentGOPAtBound (cfg : StreamConfig) (g : GopState) : Bool :=
  if g.gopCache.length = 0 then false
  else
    let index := g.gopCache.length - 1
    let gop := g.gopCache.getD index []
    if 0 < cfg.gopCacheMaxFrames ∧ cfg.gopCacheMaxFrames ≤ gop.length then true
    else if 0 < cfg.gopCacheMaxBytes ∧
        cfg.gopCacheMaxBytes ≤ g.gopBytes.getD index 0 then true
    else
      decide (0 < cfg.gopCacheMaxDuration) && decide (0 < gop.length) &&
        gopDurationAtLeast (g.gopMinDTS.getD index 0)
          (g.gopMaxDTS.getD index 0) cfg.gopCacheMaxDuration

def sealNewest (g : GopState) : GopState := { g with gopCacheSealed := true }

/-- Add a frame to the newest GOP if every bound allows it; otherwise seal
the GOP, so that no later frame is added behind the hole. -/
def appendGOPFrame (cfg : StreamConfig) (frame : AVFrame) (g : GopState) : GopState :=
  if g.gopCache.length = 0 ∨ g.gopCacheSealed then g
  else
    let index := g.gopCache.length - 1
    let gop := g.gopCache.getD index []
    let bytes := g.gopBytes.getD index 0 + frame.payload.length
    let minDTS := minDTSOf (g.gopMinDTS.getD index 0) [frame]
    let maxDTS := maxDTSOf (g.gopMaxDTS.getD index 0) [frame]
    if 0 < cfg.gopCacheMaxFrames ∧ cfg.gopCacheMaxFrames ≤ gop.length then
      g.sealNewest
    else if 0 < cfg.gopCacheMaxBytes ∧ 0 < gop.length ∧
        cfg.gopCacheMaxBytes < bytes then
      g.sealNewest
    else if 0 < cfg.gopCacheMaxDuration ∧ 0 < gop.length ∧
        gopDurationExceeded minDTS maxDTS cfg.gopCacheMaxDuration then
      g.sealNewest
    else
      let appended : GopState :=
        { g with
          gopCache := g.gopCache.set index (gop ++ [frame])
          gopBytes := g.gopBytes.set index bytes
          gopMinDTS := g.gopMinDTS.set index minDTS
          gopMaxDTS := g.gopMaxDTS.set index maxDTS }
      if appended.currentGOPAtBound cfg then appended.sealNewest else appended

end GopState

/-! ## Trimming after a policy update -/

/-- How many frames of a GOP the byte bound keeps.  `n` frames with `bytes`
bytes were kept so far; the keyframe is kept whatever its size. -/
def byteLimit (maxBytes : ℤ) : List AVFrame → ℕ → ℤ → ℕ
  | [], n, _ => n
  | frame :: frames, n, bytes =>
    let total := bytes + frame.payload.length
    if 0 < n ∧ maxBytes < total then n
    else if maxBytes ≤ total then n + 1
    else byteLimit maxBytes frames (n + 1) total

/-- How many frames the duration bound keeps, after `n` kept frames whose
timestamps span `minDTS` to `maxDTS`. -/
def durationLimit (maxDuration : ℤ) : List AVFrame → ℕ → ℤ → ℤ → ℕ
  | [], n, _, _ => n
  | frame :: frames, n, minDTS, maxDTS =>
    let candidateMin := minDTSOf minDTS [frame]
    let candidateMax := maxDTSOf maxDTS [frame]
    if gopDurationExceeded candidateMin candidateMax maxDuration then n
    else durationLimit maxDuration frames (n + 1) candidateMin candidateMax

/-- The length to which `trimGOPCacheLocked` cuts one nonempty GOP. -/
def trimLimit (cfg : StreamConfig) (gop : List AVFrame) : ℕ :=
  let frameLimit :=
    if 0 < cfg.gopCacheMaxFrames ∧ cfg.gopCacheMaxFrames < gop.length then
      cfg.gopCacheMaxFrames.toNat
    else gop.length
  let bytesLimit :=
    if 0 < cfg.gopCacheMaxBytes then
      min frameLimit (byteLimit cfg.gopCacheMaxBytes (gop.take frameLimit) 0 0)
    else frameLimit
  let limit :=
    match gop with
    | [] => bytesLimit
    | key :: _ =>
      if 0 < cfg.gopCacheMaxDuration then
        min bytesLimit (durationLimit cfg.gopCacheMaxDuration
          ((gop.take bytesLimit).drop 1) 1 key.dts key.dts)
      else bytesLimit
  max limit 1

def trimGOP (cfg : StreamConfig) (gop : List AVFrame) : List AVFrame :=
  gop.take (trimLimit cfg gop)

/-- Trimming takes frames away from the newest GOP. -/
def newestCut (cfg : StreamConfig) (gops : List (List AVFrame)) : Bool :=
  match gops.getLast? with
  | none => false
  | some gop => decide ((trimGOP cfg gop).length < gop.length)

/-- The extreme timestamp of a trimmed GOP; an empty one has none. -/
def extremeDTS (extreme : ℤ → List AVFrame → ℤ) : List AVFrame → ℤ
  | [] => 0
  | key :: rest => extreme key.dts rest

namespace GopState

/-- Repair the cache after a policy update: keep a playable prefix of each
GOP, never trim a keyframe, and seal the newest GOP when it lost frames. -/
def trimGOPCache (cfg : StreamConfig) (g : GopState) : GopState :=
  if cfg.cachesGOPs then
    let bounded := g.boundNum cfg
    let gops := bounded.gopCache.map (trimGOP cfg)
    let trimmed : GopState :=
      { bounded with
        gopCache := gops
        gopBytes := gops.map payloadBytes
        gopMinDTS := gops.map (extremeDTS minDTSOf)
        gopMaxDTS := gops.map (extremeDTS maxDTSOf)
        gopCacheSealed := newestCut cfg bounded.gopCache }
    if trimmed.currentGOPAtBound cfg then trimmed.sealNewest else trimmed
  else g.clear

/-- The part of `UpdatePolicy` that concerns the cache. -/
def updatePolicy (cfg : StreamConfig) (g : GopState) : GopState :=
  trimGOPCache cfg (if cfg.cachesGOPs then g.boundNum cfg else g.clear)

/-- The part of `writeFrameLocked` that concerns the cache. -/
def writeFrame (cfg : StreamConfig) (frame : AVFrame) (writeCursor : ℕ)
    (g : GopState) : GopState :=
  if cfg.cachesGOPs then
    if frame.mediaType.isVideo then
      if frame.frameType.isKeyframe then g.startGOP cfg frame writeCursor
      else if frame.isMedia then g.appendGOPFrame cfg frame
      else g
    else if frame.mediaType.isAudio && frame.isMedia then
      g.appendGOPFrame cfg frame
    else g
  else g

end GopState

/-! ## What the cache holds of the log

`log` lists every frame ever written to the ring.  Each cached GOP begins with
the video keyframe at its recorded position and holds some of the media frames
that follow, in order. -/

def GopState.HoldsOf (log : List AVFrame) (g : GopState) : Prop :=
  Covers AVFrame.isMedia AVFrame.isVideoKeyframe log g.gopCache g.gopStarts

theorem trimLimit_pos (cfg : StreamConfig) (gop : List AVFrame) : 0 < trimLimit cfg gop := by
  simp only [trimLimit]
  omega

theorem trimGOP_spec (cfg : StreamConfig) (gop : List AVFrame) :
    (trimGOP cfg gop).Sublist gop ∧ (trimGOP cfg gop).head? = gop.head? := by
  refine ⟨List.take_sublist _ _, ?_⟩
  rw [trimGOP, List.head?_take, if_neg (trimLimit_pos cfg gop).ne']

namespace GopState

variable {log : List AVFrame} {g : GopState} {cfg : StreamConfig}

theorem holdsOf_clear (log : List AVFrame) (g : GopState) :
    g.clear.HoldsOf log := trivial

theorem holdsOf_reset (log : List AVFrame) (g : GopState) :
    g.reset.HoldsOf log := trivial

section Holds

variable (h : g.HoldsOf log)

include h

theorem HoldsOf.boundNum : (g.boundNum cfg).HoldsOf log := by
  unfold GopState.boundNum
  split
  · have hlen := length_eq h
    simp only [keepNewest, ← hlen]
    exact drop h _
  · exact h

theorem HoldsOf.startGOP {frame : AVFrame} (hkey : frame.isVideoKeyframe) :
    (g.startGOP cfg frame log.length).HoldsOf (log ++ [frame]) := by
  have hmedia : frame.isMedia = true := by
    simp [AVFrame.isMedia, hkey.2]
  exact HoldsOf.boundNum (log_start h hmedia hkey)

theorem HoldsOf.appendGOPFrame {frame : AVFrame} (hmedia : frame.isMedia = true) :
    (g.appendGOPFrame cfg frame).HoldsOf (log ++ [frame]) := by
  have hgrow : g.HoldsOf (log ++ [frame]) := log_grow h frame
  unfold GopState.appendGOPFrame
  split
  · exact hgrow
  next hopen =>
    have hne : g.gopCache ≠ [] := by
      intro hnil
      exact hopen (.inl (by simp [hnil]))
    have htaken : [frame].Sublist ([frame].filter AVFrame.isMedia) := by
      simp [hmedia]
    dsimp only
    split_ifs
    · exact hgrow
    · exact hgrow
    · exact hgrow
    · exact log_snoc h hne htaken
    · exact log_snoc h hne htaken

theorem HoldsOf.trimGOPCache : (g.trimGOPCache cfg).HoldsOf log := by
  have htrim : Covers AVFrame.isMedia AVFrame.isVideoKeyframe log
      ((g.boundNum cfg).gopCache.map (trimGOP cfg))
      (g.boundNum cfg).gopStarts :=
    map (HoldsOf.boundNum h) (trimGOP cfg) fun gop _ => trimGOP_spec cfg gop
  unfold GopState.trimGOPCache
  split
  · dsimp only
    split
    · exact htrim
    · exact htrim
  · exact holdsOf_clear log g

theorem HoldsOf.updatePolicy : (g.updatePolicy cfg).HoldsOf log := by
  unfold GopState.updatePolicy
  split
  · exact h.boundNum.trimGOPCache
  · exact (holdsOf_clear log g).trimGOPCache

/-- Writing a frame to the ring extends the log; the cache follows. -/
theorem HoldsOf.writeFrame (frame : AVFrame) :
    (g.writeFrame cfg frame log.length).HoldsOf (log ++ [frame]) := by
  have hgrow : g.HoldsOf (log ++ [frame]) := log_grow h frame
  unfold GopState.writeFrame
  split_ifs with hcache hvideo hkey hmedia haudio
  · exact h.startGOP ⟨MediaType.isVideo_eq_true.mp hvideo, FrameType.isKeyframe_eq_true.mp hkey⟩
  · exact h.appendGOPFrame hmedia
  · exact hgrow
  · exact h.appendGOPFrame (Bool.and_eq_true_iff.mp haudio).2
  · exact hgrow
  · exact hgrow

end Holds

end GopState

end LiveForge.Core
