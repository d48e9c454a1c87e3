import LiveForge.Stream.Startup

/-!
# The tables beside the GOP cache

The five slices of the cache agree: for each cached GOP its start, its bytes
and the range of its timestamps are recorded, and every GOP keeps the limits of
the current policy, also after the policy was changed.
-/

namespace LiveForge.Core

open Support

/-- A GOP within the limits of the policy; a limit that is 0 does not apply.
Durations of the source are 64-bit. -/
structure Bounded (cfg : StreamConfig) (gop : List AVFrame) : Prop where
  nonempty : gop ≠ []
  frames : 0 < cfg.gopCacheMaxFrames → gop.length ≤ cfg.gopCacheMaxFrames
  bytes : 0 < cfg.gopCacheMaxBytes → gop.length = 1 ∨ payloadBytes gop ≤ cfg.gopCacheMaxBytes
  duration : 0 < cfg.gopCacheMaxDuration → cfg.gopCacheMaxDuration ≤ maxInt64 →
    extremeDTS maxDTSOf gop - extremeDTS minDTSOf gop ≤ cfg.gopCacheMaxDuration / nanosPerMilli

section Durations

variable {minDTS maxDTS limit : ℤ}

theorem span_le (hle : minDTS ≤ maxDTS) (hpos : 0 < limit) (hint : limit ≤ maxInt64)
    (h : ¬ gopDurationExceeded minDTS maxDTS limit) :
    maxDTS - minDTS ≤ limit / nanosPerMilli := by
  simp only [gopDurationExceeded, dtsSpanMillis, nanosPerMilli] at h hint ⊢
  grind

theorem minDTSOf_le_maxDTSOf (h : minDTS ≤ maxDTS) (frames : List AVFrame) :
    minDTSOf minDTS frames ≤ maxDTSOf maxDTS frames := by
  induction frames generalizing minDTS maxDTS with
  | nil => exact h
  | cons frame frames ih =>
    refine ih ?_
    grind

/-- Whatever the duration limit lets pass is within it. -/
theorem durationLimit_spec (hpos : 0 < limit) (hint : limit ≤ maxInt64) (frames : List AVFrame)
    {n : ℕ} (hle : minDTS ≤ maxDTS) (hspan : maxDTS - minDTS ≤ limit / nanosPerMilli) {k : ℕ}
    (hk : n + k ≤ durationLimit limit frames n minDTS maxDTS) :
    maxDTSOf maxDTS (frames.take k) - minDTSOf minDTS (frames.take k) ≤ limit / nanosPerMilli := by
  induction frames generalizing n minDTS maxDTS k with
  | nil => simpa [maxDTSOf, minDTSOf] using hspan
  | cons frame frames ih =>
    cases k with
    | zero => exact hspan
    | succ k =>
      rw [durationLimit] at hk
      split at hk
      · omega
      next h =>
        have hnext := minDTSOf_le_maxDTSOf hle [frame]
        exact ih (n := n + 1) hnext (span_le hnext hpos hint h) (by omega)

end Durations

/-- What the byte limit lets pass is one frame or within it. -/
theorem byteLimit_spec (maxBytes : ℤ) (frames : List AVFrame) {n : ℕ} {b : ℤ}
    (hbytes : 0 < n → b ≤ maxBytes) {k : ℕ} (hk : n + k ≤ byteLimit maxBytes frames n b) :
    n + k ≤ 1 ∨ b + payloadBytes (frames.take k) ≤ maxBytes := by
  induction frames generalizing n b k with
  | nil =>
    rw [byteLimit] at hk
    simp only [List.take_nil, payloadBytes, List.map_nil, List.sum_nil]
    omega
  | cons frame frames ih =>
    cases k with
    | zero =>
      simp only [List.take_zero, payloadBytes, List.map_nil, List.sum_nil]
      omega
    | succ k =>
      rw [byteLimit] at hk
      simp only [List.take_succ_cons, payloadBytes, List.map_cons, List.sum_cons] at ih ⊢
      split at hk
      · omega
      next hfits =>
        split at hk
        · have hzero : k = 0 := by omega
          subst hzero
          simp only [List.take_zero, List.map_nil, List.sum_nil]
          omega
        next hmore =>
          have hrest := ih (n := n + 1) (k := k)
            (b := b + frame.payload.length) (by omega) (by omega)
          omega

namespace Bounded

variable {cfg : StreamConfig} {gop : List AVFrame}

theorem single (frame : AVFrame) : Bounded cfg [frame] where
  nonempty := List.cons_ne_nil _ _
  frames := by simp only [List.length_singleton]; omega
  bytes := fun _ => .inl rfl
  duration := fun hpos _ => by
    simp only [extremeDTS, maxDTSOf, minDTSOf, List.foldl, nanosPerMilli]
    omega

/-- A trim keeps the keyframe and as many frames as every limit lets pass. -/
theorem trimmed (hne : gop ≠ []) : Bounded cfg (trimGOP cfg gop) := by
  obtain ⟨key, rest, rfl⟩ := List.exists_cons_of_ne_nil hne
  obtain ⟨m, hm⟩ := Nat.exists_eq_add_one.mpr (trimLimit_pos cfg (key :: rest))
  rw [trimGOP, hm]
  simp only [trimLimit] at hm
  generalize hframes : (if 0 < cfg.gopCacheMaxFrames ∧ cfg.gopCacheMaxFrames <
    (key :: rest).length then cfg.gopCacheMaxFrames.toNat else (key :: rest).length) = n at hm
  generalize hbytes : (if 0 < cfg.gopCacheMaxBytes then
    min n (byteLimit cfg.gopCacheMaxBytes ((key :: rest).take n) 0 0) else n) = b at hm
  refine ⟨List.cons_ne_nil _ _, fun hpos => ?_, fun hpos => ?_, fun hpos hint => ?_⟩
  · simp only [List.length_take] at hframes ⊢
    split_ifs at hframes hbytes hm <;> omega
  · rw [if_pos hpos] at hbytes
    by_cases hone : m = 0
    · exact .inl (by simp [hone])
    · have hmore : m + 1 ≤ b := by split_ifs at hm <;> omega
      have hspec := byteLimit_spec cfg.gopCacheMaxBytes ((key :: rest).take n) (n := 0) (b := 0)
        (k := m + 1) (by simp) (by omega)
      rw [List.take_take, min_eq_left (by omega)] at hspec
      exact .inr (by simpa [hone] using hspec)
  · rw [if_pos hpos] at hm
    have hzero : key.dts - key.dts ≤ cfg.gopCacheMaxDuration / nanosPerMilli := by
      simp only [nanosPerMilli]
      omega
    by_cases hone : m = 0
    · simpa [hone, extremeDTS, maxDTSOf, minDTSOf] using hzero
    · have hspec := durationLimit_spec hpos hint (((key :: rest).take b).drop 1) le_rfl hzero
        (k := m) (n := 1) (by omega)
      rw [List.drop_take, List.take_take, min_eq_left (by omega)] at hspec
      exact hspec

end Bounded

/-! ## The tables -/

/-- The limits hold, and each table has the exact value for each cached GOP. -/
structure GopState.Exact (cfg : StreamConfig) (g : GopState) : Prop where
  num : g.gopCache.length ≤ cfg.gopCacheNum.toNat
  bounded : ∀ gop ∈ g.gopCache, Bounded cfg gop
  bytes : g.gopBytes = g.gopCache.map payloadBytes
  minDTS : g.gopMinDTS = g.gopCache.map (extremeDTS minDTSOf)
  maxDTS : g.gopMaxDTS = g.gopCache.map (extremeDTS maxDTSOf)

theorem extremeDTS_snoc {extreme : ℤ → List AVFrame → ℤ} {gop : List AVFrame} (frame : AVFrame)
    (hextreme : ∀ d l, extreme d (l ++ [frame]) = extreme (extreme d l) [frame]) (hne : gop ≠ []) :
    extremeDTS extreme (gop ++ [frame]) = extreme (extremeDTS extreme gop) [frame] := by
  obtain ⟨key, rest, rfl⟩ := List.exists_cons_of_ne_nil hne
  exact hextreme key.dts rest

namespace GopState.Exact

variable {cfg : StreamConfig} {g : GopState}

theorem clear : g.clear.Exact cfg := ⟨Nat.zero_le _, nofun, rfl, rfl, rfl⟩

theorem boundNum_spec (cfg : StreamConfig) (g : GopState) :
    (g.boundNum cfg).gopCache.length ≤ cfg.gopCacheNum.toNat ∧
      ∀ gop ∈ (g.boundNum cfg).gopCache, gop ∈ g.gopCache := by
  unfold GopState.boundNum
  split
  · refine ⟨?_, fun gop hgop => List.mem_of_mem_drop hgop⟩
    simp only [keepNewest, List.length_drop]
    omega
  · exact ⟨by omega, fun gop hgop => hgop⟩

theorem startGOP (h : g.Exact cfg) (frame : AVFrame) (writeCursor : ℕ) :
    (g.startGOP cfg frame writeCursor).Exact cfg := by
  obtain ⟨hnum, hsub⟩ := boundNum_spec cfg _
  refine ⟨hnum, fun gop hgop => ?_, ?_, ?_, ?_⟩
  · rcases List.mem_append.mp (hsub gop hgop) with hold | hnew
    · exact h.bounded gop hold
    · exact List.mem_singleton.mp hnew ▸ .single frame
  all_goals
    simp only [GopState.startGOP, GopState.boundNum, h.bytes, h.minDTS, h.maxDTS]
    split <;> simp [keepNewest, payloadBytes, extremeDTS, minDTSOf, maxDTSOf]

theorem sealIf (h : g.Exact cfg) (p : Prop) [Decidable p] :
    (if p then g.sealNewest else g).Exact cfg := by
  split
  · exact { h with }
  · exact h

theorem appendGOPFrame (h : g.Exact cfg) (frame : AVFrame) :
    (g.appendGOPFrame cfg frame).Exact cfg := by
  unfold GopState.appendGOPFrame
  split
  · exact h
  next hopen =>
    have hlt : g.gopCache.length - 1 < g.gopCache.length := by grind
    generalize g.gopCache.length - 1 = i at hlt
    have hgop := (h.bounded _ (List.getElem_mem hlt)).nonempty
    have hlength := List.length_pos_of_ne_nil hgop
    have hle : extremeDTS minDTSOf (g.gopCache[i] ++ [frame]) ≤
        extremeDTS maxDTSOf (g.gopCache[i] ++ [frame]) := by
      obtain ⟨key, rest, hcons⟩ := List.exists_cons_of_ne_nil hgop
      rw [hcons]
      exact minDTSOf_le_maxDTSOf le_rfl _
    have hbytes : payloadBytes (g.gopCache[i] ++ [frame]) =
        payloadBytes g.gopCache[i] + frame.payload.length := by
      simp [payloadBytes]
    have hmin := @extremeDTS_snoc minDTSOf _ frame (fun _ _ => List.foldl_append) hgop
    have hmax := @extremeDTS_snoc maxDTSOf _ frame (fun _ _ => List.foldl_append) hgop
    simp only [List.getD_eq_getElem?_getD, h.bytes, h.minDTS, h.maxDTS, List.getElem?_map,
      List.getElem?_eq_getElem hlt, Option.map_some, Option.getD_some, ← hbytes, ← hmin, ← hmax]
    split
    · exact h.sealIf True
    next hframes =>
      split
      · exact h.sealIf True
      next hfull =>
        split
        · exact h.sealIf True
        next hlong =>
          refine sealIf ⟨(List.length_set).trans_le h.num, fun gop hset => ?_, List.map_set.symm,
            List.map_set.symm, List.map_set.symm⟩ _
          rcases List.mem_or_eq_of_mem_set hset with hold | rfl
          · exact h.bounded gop hold
          · refine ⟨by simp, by grind, fun hpos => .inr (by grind), fun hpos hint => ?_⟩
            exact span_le hle hpos hint fun hexceeded => hlong ⟨hpos, hlength, hexceeded⟩

theorem trimGOPCache (hne : ∀ gop ∈ g.gopCache, gop ≠ []) : (g.trimGOPCache cfg).Exact cfg := by
  obtain ⟨hnum, hsub⟩ := boundNum_spec cfg g
  unfold GopState.trimGOPCache
  split
  · refine sealIf ⟨(List.length_map _).trans_le hnum, ?_, rfl, rfl, rfl⟩ _
    exact List.forall_mem_map.mpr fun gop hgop => .trimmed (hne gop (hsub gop hgop))
  · exact clear

theorem updatePolicy (h : ∀ gop ∈ g.gopCache, gop ≠ []) : (g.updatePolicy cfg).Exact cfg := by
  refine trimGOPCache ?_
  split
  · exact fun gop hgop => h gop ((boundNum_spec cfg g).2 gop hgop)
  · simp [GopState.clear]

theorem writeFrame (h : g.Exact cfg) (frame : AVFrame) (writeCursor : ℕ) :
    (g.writeFrame cfg frame writeCursor).Exact cfg := by
  unfold GopState.writeFrame
  split_ifs
  · exact h.startGOP frame writeCursor
  · exact h.appendGOPFrame frame
  · exact h
  · exact h.appendGOPFrame frame
  · exact h
  · exact h

end GopState.Exact

theorem extremeDTS_eq (gop : List AVFrame) :
    extremeDTS minDTSOf gop = (gop.map AVFrame.dts).min?.getD 0 ∧
      extremeDTS maxDTSOf gop = (gop.map AVFrame.dts).max?.getD 0 := by
  cases gop with
  | nil => exact ⟨rfl, rfl⟩
  | cons key rest =>
    simp only [extremeDTS, minDTSOf, maxDTSOf, List.map_cons, List.min?_cons', List.max?_cons',
      List.foldl_map]
    constructor <;> congr <;> grind

theorem GopState.Exact.step {t t' : StreamTrace} {a : StreamAction}
    (h : t.stream.toGopState.Exact t.stream.config) (hstep : t.step a = some t') :
    t'.stream.toGopState.Exact t'.stream.config := by
  rcases (StreamTrace.taken_of_step hstep).cache with
      ⟨hconfig, hsame | hreset | ⟨frame, hwritten⟩⟩ | hpolicy
  · rwa [hconfig, hsame]
  · rw [hreset]
    exact ⟨Nat.zero_le _, nofun, rfl, rfl, rfl⟩
  · rw [hconfig, hwritten]
    exact h.writeFrame frame _
  · rw [hpolicy]
    exact .updatePolicy fun gop hgop => (h.bounded gop hgop).nonempty

/-- Whatever was called in whatever order: the cached GOPs are parts of what was
written at the recorded ring positions, and all tables are exact. -/
theorem gopCache_exact (key : String) (instanceID : ℕ) (cfg : StreamConfig)
    (limits : LimitsConfig) {acts : List StreamAction} {t : StreamTrace}
    (hrun : runFrom StreamTrace.step (.initial key instanceID cfg limits) acts = some t) :
    t.stream.gopCache.length ≤ t.stream.config.gopCacheNum.toNat ∧
      t.stream.gopStarts.length = t.stream.gopCache.length ∧ t.stream.writeCursor = t.log.length ∧
      t.stream.toGopState.HoldsOf t.log ∧ t.stream.gopBytes = t.stream.gopCache.map payloadBytes ∧
      t.stream.gopMinDTS = t.stream.gopCache.map (fun gop => (gop.map AVFrame.dts).min?.getD 0) ∧
      t.stream.gopMaxDTS = t.stream.gopCache.map (fun gop => (gop.map AVFrame.dts).max?.getD 0) ∧
      ∀ gop ∈ t.stream.gopCache, Bounded t.stream.config gop := by
  have hinv := historyInv_run hrun
  obtain ⟨hnum, hbounded, hbytes, hmin, hmax⟩ := runFrom_invariant
    (fun (t : StreamTrace) _ _ (h : t.stream.toGopState.Exact t.stream.config) hstep =>
      h.step hstep) (s := StreamTrace.initial key instanceID cfg limits)
    ⟨Nat.zero_le _, nofun, rfl, rfl, rfl⟩ hrun
  refine ⟨hnum, (Covers.length_eq hinv.gop).symm, ?_, hinv.gop, hbytes, ?_, ?_, hbounded⟩
  · exact hinv.writeCursor_eq_log
  · rw [hmin, funext fun gop => (extremeDTS_eq gop).1]
  · rw [hmax, funext fun gop => (extremeDTS_eq gop).2]

theorem gopCache_exact_outgrown :
    ∃ t, runFrom StreamTrace.step (.initial "live" 1 smallCache noLimits) outgrownCache = some t ∧
      t.stream.gopCache.map List.length = [2] ∧ t.stream.gopMaxDTS = [10] ∧
      ∀ gop ∈ t.stream.gopCache, Bounded t.stream.config gop :=
  ⟨_, rfl, rfl, rfl,
    (@gopCache_exact "live" 1 smallCache noLimits outgrownCache _ rfl).2.2.2.2.2.2.2⟩

end LiveForge.Core
