import LiveForge.Media.Frame
import LiveForge.Support.Run
import Mathlib.Algebra.Order.Ring.Rat

/-!
# Frame dropping for slow consumers

`SlowConsumerFilter` of `core/slow_consumer.go` stands between a ring reader
and a subscriber.  For each frame it samples how far the reader lags behind,
moves a machine of three states, and delivers or drops the frame.

What the ring gives the filter is a list of successful reads; the ring is
closed when the list is used up.  Each read carries the two values the filter
samples after it, the lag and the time.  A session also records what was
decided about each frame.
-/

namespace LiveForge.Core

open Support

/-! ## Configuration -/

/-- The operations of `float64` that the filter uses.  Nothing below looks into
a result, so the type may be any that has them. -/
class Float64 (F : Type) where
  ofInt : ℤ → F
  add : F → F → F
  sub : F → F → F
  mul : F → F → F
  div : F → F → F
  less : F → F → Bool
  equal : F → F → Bool

structure SlowConsumerConfig (F : Type) where
  enabled : Bool
  lagDropRatio : F
  lagCriticalRatio : F
  lagRecoverRatio : F
  ewmaAlpha : F
  sendTimeRatio : F

/-- The window is in the unit of the clock. -/
structure SkipTrackerConfig where
  maxCount : ℤ
  window : ℤ

inductive ConsumerState where
  | normal
  | dropNonKey
  | skipToKey

/-! ## Skips -/

structure SkipTracker where
  maxCount : ℤ
  window : ℤ
  events : List ℤ

/-- Record a skip; true once there are too many in the window. -/
def SkipTracker.recordSkip (now : ℤ) (st : SkipTracker) : Bool × SkipTracker :=
  if st.maxCount ≤ 0 then (false, st)
  else
    let recent := st.events.dropWhile fun event => event < now - st.window
    let events := recent ++ [now]
    (decide (st.maxCount < events.length), { st with events })

/-! ## The filter -/

/-- `Lag`: the part of the capacity that the reader trails behind. -/
def readerLag {F : Type} [Float64 F] (writeCursor readCursor size : ℕ) : F :=
  Float64.div (Float64.ofInt (min (writeCursor - readCursor) size : ℕ)) (Float64.ofInt size)

structure SlowConsumerFilter (F : Type) where
  config : SlowConsumerConfig F
  skipTracker : Option SkipTracker
  state : ConsumerState
  ewmaSend : F
  dropped : ℕ

variable {F : Type} [Float64 F] {f : SlowConsumerFilter F} {cfg : SlowConsumerConfig F}
  {frame : AVFrame} {lag : F}

def newSlowConsumerFilter (cfg : SlowConsumerConfig F)
    (skipCfg : Option SkipTrackerConfig) : SlowConsumerFilter F :=
  { config := cfg
    skipTracker := (skipCfg.filter fun skip =>
      decide (0 < skip.maxCount) && decide (0 < skip.window)).map
        fun skip => ⟨skip.maxCount, skip.window, []⟩
    state := .normal
    ewmaSend := Float64.ofInt 0
    dropped := 0 }

/-- One successful read of the ring, and what the filter samples after it. -/
structure FilterRead (F : Type) where
  frame : Option AVFrame
  overwritten : ℕ
  lag : F
  now : ℤ

structure SlowConsumerFrameResult where
  frame : Option AVFrame
  ok : Bool
  overwritten : ℕ

/-- What the policy decided about a frame, and at which lag. -/
structure Decision (F : Type) where
  frame : AVFrame
  lag : F
  delivered : Bool

/-- The outcome of one call of `NextFrameResult`: `last` is the read that the
result came from, `rest` what the ring has left. -/
structure FilterCall (F : Type) where
  result : SlowConsumerFrameResult
  filter : SlowConsumerFilter F
  last : Option (FilterRead F)
  rest : List (FilterRead F)
  decisions : List (Decision F)

namespace SlowConsumerFilter

/-- Frames are assumed to be 33 ms apart. -/
def isSendSlow (f : SlowConsumerFilter F) : Bool :=
  if Float64.equal f.ewmaSend (Float64.ofInt 0) then false
  else
    Float64.less (Float64.mul f.config.sendTimeRatio (Float64.ofInt 33)) f.ewmaSend

def updateState (lag : F) (f : SlowConsumerFilter F) : SlowConsumerFilter F :=
  match f.state with
  | .normal =>
    if Float64.less f.config.lagDropRatio lag && f.isSendSlow then
      { f with state := .dropNonKey }
    else f
  | .dropNonKey =>
    if Float64.less f.config.lagCriticalRatio lag then
      { f with state := .skipToKey }
    else if Float64.less lag f.config.lagRecoverRatio then
      { f with state := .normal }
    else f
  | .skipToKey =>
    if Float64.less lag f.config.lagRecoverRatio then
      { f with state := .normal }
    else f

end SlowConsumerFilter

/-- Sequence headers, audio and video keyframes are delivered. -/
def shouldDeliver (frame : AVFrame) : Bool :=
  if frame.frameType = .sequenceHeader then true
  else if frame.mediaType.isAudio then true
  else frame.mediaType.isVideo && frame.frameType.isKeyframe

namespace SlowConsumerFilter

def drop (f : SlowConsumerFilter F) : SlowConsumerFilter F :=
  { f with dropped := f.dropped + 1 }

def applyPolicy (lag : F) (frame : AVFrame) (f : SlowConsumerFilter F) :
    Bool × SlowConsumerFilter F :=
  if f.config.enabled then
    let f := f.updateState lag
    match f.state with
    | .normal => (true, f)
    | .dropNonKey =>
      if shouldDeliver frame then (true, f) else (false, f.drop)
    | .skipToKey =>
      if frame.mediaType.isVideo && frame.frameType.isKeyframe then
        (true, { f with state := .dropNonKey })
      else if frame.mediaType.isAudio ||
          decide (frame.frameType = .sequenceHeader) then
        (true, f)
      else (false, f.drop)
  else (true, f)

def recordOverwrite (now : ℤ) (f : SlowConsumerFilter F) : Bool × SlowConsumerFilter F :=
  match f.skipTracker with
  | none => (false, f)
  | some tracker =>
    let recorded := tracker.recordSkip now
    (recorded.1, { f with skipTracker := some recorded.2 })

/-- A gap is returned before the policy is applied. -/
def nextFrameResult (f : SlowConsumerFilter F) : List (FilterRead F) → FilterCall F
  | [] => ⟨⟨none, false, 0⟩, f, none, [], []⟩
  | read :: rest =>
    if 0 < read.overwritten then
      let recorded := f.recordOverwrite read.now
      let result : SlowConsumerFrameResult :=
        if recorded.1 then ⟨none, false, read.overwritten⟩
        else ⟨read.frame, true, read.overwritten⟩
      ⟨result, recorded.2, some read, rest, []⟩
    else
      match read.frame with
      | none => f.nextFrameResult rest
      | some frame =>
        let decided := f.applyPolicy read.lag frame
        let decision : Decision F := ⟨frame, read.lag, decided.1⟩
        if decided.1 then
          ⟨⟨some frame, true, 0⟩, decided.2, some read, rest, [decision]⟩
        else
          let call := decided.2.nextFrameResult rest
          { call with decisions := decision :: call.decisions }

theorem nextFrameResult_rest_length {reads : List (FilterRead F)}
    (hok : (f.nextFrameResult reads).result.ok = true) :
    (f.nextFrameResult reads).rest.length < reads.length := by
  fun_induction nextFrameResult f reads with
  | case1 => simp at hok
  | case2 => simp
  | case3 f read rest hnone hframe ih =>
    have hlt := ih hok
    rw [List.length_cons]
    omega
  | case4 => simp
  | case5 =>
    rename_i ih
    have hlt := ih hok
    exact hlt.trans (Nat.lt_succ_self _)

/-- The loop of `NextFrame`: a missing frame is skipped, and the policy is
applied to a frame that follows a gap. -/
def nextFrame (f : SlowConsumerFilter F) (reads : List (FilterRead F)) :
    Option AVFrame × FilterCall F :=
  let call := f.nextFrameResult reads
  if _hok : call.result.ok then
    match call.result.frame, call.last with
    | some frame, some read =>
      if call.result.overwritten = 0 then (some frame, call)
      else
        let decided := call.filter.applyPolicy read.lag frame
        let decisions := call.decisions ++ [⟨frame, read.lag, decided.1⟩]
        if decided.1 then
          (some frame, { call with filter := decided.2, decisions })
        else
          let next := decided.2.nextFrame call.rest
          (next.1, { next.2 with
            decisions := decisions ++ next.2.decisions })
    | _, _ =>
      let next := call.filter.nextFrame call.rest
      (next.1, { next.2 with
        decisions := call.decisions ++ next.2.decisions })
  else (none, call)
termination_by reads.length
decreasing_by
  all_goals exact nextFrameResult_rest_length _hok

/-- The running average of the send times; `d` is in nanoseconds. -/
def reportSendTime (d : ℤ) (f : SlowConsumerFilter F) : SlowConsumerFilter F :=
  let ms : F := Float64.ofInt (d.tdiv 1000000)
  if Float64.equal f.ewmaSend (Float64.ofInt 0) then { f with ewmaSend := ms }
  else
    { f with
      ewmaSend := Float64.add (Float64.mul f.config.ewmaAlpha ms)
        (Float64.mul (Float64.sub (Float64.ofInt 1) f.config.ewmaAlpha)
          f.ewmaSend) }

end SlowConsumerFilter

/-! ## Sessions -/

/-- A subscriber at work: what the ring still has for it, what was decided
about the frames read so far, and the frames its calls returned. -/
structure FilterSession (F : Type) where
  filter : SlowConsumerFilter F
  reads : List (FilterRead F)
  decisions : List (Decision F)
  returned : List AVFrame

inductive FilterAction where
  | nextFrame
  | nextFrameResult
  | reportSendTime (d : ℤ)

namespace FilterSession

def initial (cfg : SlowConsumerConfig F) (skipCfg : Option SkipTrackerConfig)
    (reads : List (FilterRead F)) : FilterSession F :=
  ⟨newSlowConsumerFilter cfg skipCfg, reads, [], []⟩

def afterCall (s : FilterSession F) (call : FilterCall F)
    (frame : Option AVFrame) : FilterSession F :=
  { filter := call.filter
    reads := call.rest
    decisions := s.decisions ++ call.decisions
    returned := s.returned ++ frame.toList }

def step (s : FilterSession F) : FilterAction → Option (FilterSession F)
  | .nextFrame =>
    let call := s.filter.nextFrame s.reads
    some (s.afterCall call.2 call.1)
  | .nextFrameResult =>
    let call := s.filter.nextFrameResult s.reads
    some (s.afterCall call call.result.frame)
  | .reportSendTime d =>
    some { s with filter := s.filter.reportSendTime d }

end FilterSession

/-! ## What one decision can do -/

def IsVideoInterframe (frame : AVFrame) : Prop :=
  frame.mediaType = .video ∧ frame.frameType = .interframe

instance (frame : AVFrame) : Decidable (IsVideoInterframe frame) :=
  inferInstanceAs (Decidable (_ ∧ _))

theorem shouldDeliver_of_audio_or_header
    (h : frame.mediaType = .audio ∨ frame.frameType = .sequenceHeader) :
    shouldDeliver frame = true := by
  rcases h with haudio | hheader
  · simp [shouldDeliver, MediaType.isAudio_eq_true.mpr haudio]
  · simp [shouldDeliver, hheader]

namespace SlowConsumerFilter

theorem updateState_frame (f : SlowConsumerFilter F) (lag : F) :
    (f.updateState lag).config = f.config ∧ (f.updateState lag).dropped = f.dropped := by
  unfold updateState
  split
  · split <;> exact ⟨rfl, rfl⟩
  · split_ifs <;> exact ⟨rfl, rfl⟩
  · split <;> exact ⟨rfl, rfl⟩

/-- The filter leaves the dropping states only when the lag is low. -/
theorem updateState_ne_normal (hstate : f.state ≠ .normal)
    (hlag : Float64.less lag f.config.lagRecoverRatio = false) :
    (f.updateState lag).state ≠ .normal := by
  unfold updateState
  split
  next hnormal => exact absurd hnormal hstate
  next hdrop =>
    split
    · simp
    · rw [if_neg (by simp [hlag])]
      exact hstate
  next hskip =>
    rw [if_neg (by simp [hlag])]
    exact hstate

/-- The inversion lemma of the policy.  Both dropping states deliver the same
frames. -/
theorem applyPolicy_cases (henabled : f.config.enabled = true) (lag : F)
    (frame : AVFrame) :
    ((f.updateState lag).state = .normal ∧
      f.applyPolicy lag frame = (true, f.updateState lag)) ∨
    ((f.updateState lag).state ≠ .normal ∧ shouldDeliver frame = true ∧
      ∃ state, state ≠ .normal ∧ f.applyPolicy lag frame =
        (true, { f.updateState lag with state })) ∨
    ((f.updateState lag).state ≠ .normal ∧ shouldDeliver frame = false ∧
      f.applyPolicy lag frame = (false, (f.updateState lag).drop)) := by
  unfold applyPolicy
  rw [if_pos henabled]
  generalize f.updateState lag = g
  obtain ⟨config, tracker, state, ewmaSend, dropped⟩ := g
  cases state with
  | normal => exact .inl ⟨rfl, rfl⟩
  | dropNonKey =>
    right
    cases hdeliver : shouldDeliver frame with
    | true => exact .inl ⟨by simp, rfl, .dropNonKey, by simp, rfl⟩
    | false => exact .inr ⟨by simp, rfl, rfl⟩
  | skipToKey =>
    right
    dsimp only
    split_ifs with hkey hother
    · refine .inl ⟨by simp, ?_, .dropNonKey, by simp, rfl⟩
      simp [shouldDeliver, hkey]
    · refine .inl ⟨by simp, ?_, .skipToKey, by simp, rfl⟩
      apply shouldDeliver_of_audio_or_header
      simpa using hother
    · refine .inr ⟨by simp, ?_, rfl⟩
      simp only [Bool.or_eq_true, not_or] at hother
      simp [shouldDeliver, hother.2, hother.1, hkey]

/-- What holds of every decision, in terms of the filter before and after. -/
structure Decided (f : SlowConsumerFilter F) (lag : F) (frame : AVFrame)
    (delivered : Bool) (f' : SlowConsumerFilter F) : Prop where
  config : f'.config = f.config
  dropped : f'.dropped = f.dropped + if delivered then 0 else 1
  always : frame.mediaType = .audio ∨ frame.frameType = .sequenceHeader → delivered = true
  dropping : delivered = false → f'.state ≠ .normal
  stays : f.state ≠ .normal → Float64.less lag f.config.lagRecoverRatio = false →
      f'.state ≠ .normal ∧ (IsVideoInterframe frame → delivered = false)

theorem decided_applyPolicy (henabled : f.config.enabled = true) (lag : F) (frame : AVFrame) :
    Decided f lag frame (f.applyPolicy lag frame).1 (f.applyPolicy lag frame).2 := by
  obtain ⟨hconfig, hdropped⟩ := updateState_frame f lag
  rcases applyPolicy_cases henabled lag frame with
    ⟨hstate, heq⟩ | ⟨hstate, hdeliver, state, hne, heq⟩ | ⟨hstate, hdeliver, heq⟩
  · rw [heq]
    refine ⟨hconfig, hdropped, fun _ => rfl, by simp, ?_⟩
    intro hbefore hlag
    exact absurd hstate (updateState_ne_normal hbefore hlag)
  · rw [heq]
    refine ⟨hconfig, hdropped, fun _ => rfl, by simp, ?_⟩
    intro hbefore hlag
    refine ⟨hne, ?_⟩
    intro hinter
    simp [shouldDeliver, hinter.1, hinter.2, FrameType.isKeyframe] at hdeliver
  · rw [heq]
    refine ⟨hconfig, by simp [drop, hdropped], ?_, fun _ => hstate, ?_⟩
    · intro halways
      rw [shouldDeliver_of_audio_or_header halways] at hdeliver
      simp at hdeliver
    · intro _ _
      exact ⟨hstate, fun _ => rfl⟩

end SlowConsumerFilter

/-! ## Histories of decisions -/

/-- The lag was low enough for the filter to go back to normal. -/
def Decision.Recovers (cfg : SlowConsumerConfig F) (d : Decision F) : Prop :=
  Float64.less d.lag cfg.lagRecoverRatio = true

/-- What the decisions so far have in common, and what the filter still knows
of them. -/
structure FilterInv (cfg : SlowConsumerConfig F) (f : SlowConsumerFilter F)
    (decisions : List (Decision F)) : Prop where
  config : f.config = cfg
  dropped : f.dropped = decisions.countP fun d => !d.delivered
  always : ∀ d ∈ decisions, d.frame.mediaType = .audio ∨
    d.frame.frameType = .sequenceHeader → d.delivered = true
  waiting : ∀ (i : ℕ) (d : Decision F), decisions[i]? = some d → d.delivered = false →
      (∀ (k : ℕ) (c : Decision F), i < k → decisions[k]? = some c → ¬ c.Recovers cfg) →
          f.state ≠ .normal
  recovered : ∀ (i j : ℕ) (d d' : Decision F), i < j →
    decisions[i]? = some d → decisions[j]? = some d' → d.delivered = false →
      d'.delivered = true → IsVideoInterframe d'.frame → ∃ (k : ℕ) (c : Decision F), i < k ∧ k ≤ j ∧
          decisions[k]? = some c ∧ c.Recovers cfg

theorem getElem?_concat_eq_some {α : Type*} {l : List α} {x y : α} {i : ℕ}
    (h : (l ++ [x])[i]? = some y) :
    l[i]? = some y ∨ i = l.length ∧ y = x := by
  rw [List.getElem?_append] at h
  split at h
  · exact .inl h
  next hge =>
    obtain ⟨hindex, hvalue⟩ := List.getElem?_eq_some_iff.mp h
    have hlast : i - l.length = 0 := by simpa using hindex
    simp only [hlast] at hvalue
    exact .inr ⟨by omega, hvalue.symm⟩

theorem getElem?_concat_of_some {α : Type*} {l : List α} {x y : α} {i : ℕ} (h : l[i]? = some y) :
    (l ++ [x])[i]? = some y := by
  obtain ⟨hlt, -⟩ := List.getElem?_eq_some_iff.mp h
  rw [List.getElem?_append_left hlt]
  exact h

namespace FilterInv

variable {f' : SlowConsumerFilter F} {decisions : List (Decision F)}

theorem initial (cfg : SlowConsumerConfig F) (skipCfg : Option SkipTrackerConfig) :
    FilterInv cfg (newSlowConsumerFilter cfg skipCfg) [] where
  config := rfl
  dropped := rfl
  always := by simp
  waiting := by simp
  recovered := by simp

theorem reportSendTime (h : FilterInv cfg f decisions) (d : ℤ) :
    FilterInv cfg (f.reportSendTime d) decisions := by
  unfold SlowConsumerFilter.reportSendTime
  split
  · exact { h with }
  · exact { h with }

/-- As long as nothing recovers after a dropped frame, the filter stays out of
the normal state, so the next interframe is dropped too. -/
theorem decided (h : FilterInv cfg f decisions)
    {delivered : Bool} (hd : f.Decided lag frame delivered f') :
    FilterInv cfg f' (decisions ++ [⟨frame, lag, delivered⟩]) := by
  have hlast : (decisions ++ [(⟨frame, lag, delivered⟩ : Decision F)])[
      decisions.length]? = some ⟨frame, lag, delivered⟩ := by
    simp
  have hstays : ∀ (i : ℕ) (d : Decision F), decisions[i]? = some d → d.delivered = false →
      (∀ (k : ℕ) (c : Decision F), i < k → (decisions ++ [⟨frame, lag, delivered⟩])[k]? = some c →
        ¬ c.Recovers cfg) → f'.state ≠ .normal ∧ (IsVideoInterframe frame → delivered = false) := by
    intro i d hold hdropped hnone
    obtain ⟨hlt, -⟩ := List.getElem?_eq_some_iff.mp hold
    have hbefore := h.waiting i d hold hdropped
      fun k c hk hc => hnone k c hk (getElem?_concat_of_some hc)
    have hlag := hnone decisions.length _ hlt hlast
    rw [Decision.Recovers, Bool.not_eq_true, ← h.config] at hlag
    exact hd.stays hbefore hlag
  refine ⟨hd.config.trans h.config, ?_, ?_, ?_, ?_⟩
  · rw [hd.dropped, h.dropped]
    cases delivered <;> simp
  · exact forall_mem_concat h.always hd.always
  · intro i d hget hdropped hnone
    rcases getElem?_concat_eq_some hget with hold | ⟨rfl, rfl⟩
    · exact (hstays i d hold hdropped hnone).1
    · exact hd.dropping hdropped
  · intro i j d d' hij hi hj hdropped hdelivered hinter
    have hle : j < decisions.length + 1 := by simpa using (List.getElem?_eq_some_iff.mp hj).1
    have hi' : decisions[i]? = some d := by
      rcases getElem?_concat_eq_some hi with hi' | ⟨rfl, -⟩
      · exact hi'
      · omega
    rcases getElem?_concat_eq_some hj with hold | ⟨rfl, rfl⟩
    · obtain ⟨k, c, hik, hkj, hc, hrecovers⟩ :=
        h.recovered i j d d' hij hi' hold hdropped hdelivered hinter
      exact ⟨k, c, hik, hkj, getElem?_concat_of_some hc, hrecovers⟩
    · -- either some earlier decision recovered, or this one must have
      by_contra hnone
      push Not at hnone
      have hfalse := (hstays i d hi' hdropped fun k c hk hc => hnone k c hk
        (Nat.le_of_lt_succ (by simpa using (List.getElem?_eq_some_iff.mp hc).1)) hc).2 hinter
      rw [hfalse] at hdelivered
      simp at hdelivered

end FilterInv

/-! ## Calls without a gap -/

/-- What a call of a subscriber leaves behind when no read reports a gap. -/
structure CallSpec (cfg : SlowConsumerConfig F) (decisions : List (Decision F))
    (reads : List (FilterRead F)) (call : FilterCall F) : Prop where
  inv : FilterInv cfg call.filter (decisions ++ call.decisions)
  consumed : ∃ used, reads = used ++ call.rest ∧
    used.filterMap FilterRead.frame = call.decisions.map Decision.frame
  returned : call.result.frame.toList =
    (call.decisions.filter Decision.delivered).map Decision.frame
  whole : call.result.overwritten = 0
  found : call.result.ok = call.result.frame.isSome
  origin : call.result.ok = true → call.last.isSome

namespace SlowConsumerFilter

theorem nextFrameResult_spec (henabled : cfg.enabled = true) {reads : List (FilterRead F)}
    {decisions : List (Decision F)} (hwhole : ∀ read ∈ reads, read.overwritten = 0)
    (h : FilterInv cfg f decisions) :
    CallSpec cfg decisions reads (f.nextFrameResult reads) := by
  induction reads generalizing f decisions with
  | nil =>
    refine ⟨by simpa [nextFrameResult] using h, ⟨[], rfl, rfl⟩, rfl, rfl,
      rfl, ?_⟩
    simp [nextFrameResult]
  | cons read rest ih =>
    have hrest : ∀ read ∈ rest, read.overwritten = 0 :=
      fun read hmem => hwhole read (List.mem_cons_of_mem _ hmem)
    have hgap : ¬ 0 < read.overwritten := by
      rw [hwhole read List.mem_cons_self]
      simp
    unfold nextFrameResult
    rw [if_neg hgap]
    cases hframe : read.frame with
    | none =>
      obtain ⟨hinv, ⟨used, hused, hframes⟩, hreturned, hzero, hfound, horigin⟩ := ih hrest h
      refine ⟨hinv, ⟨read :: used, ?_, ?_⟩, hreturned, hzero, hfound, horigin⟩
      · rw [List.cons_append, ← hused]
      · rw [List.filterMap_cons, hframe]
        exact hframes
    | some frame =>
      have hinv := h.decided (decided_applyPolicy (f := f)
        (by rw [h.config]; exact henabled) read.lag frame)
      cases hdelivered : (f.applyPolicy read.lag frame).1 with
      | true =>
        rw [hdelivered] at hinv
        simp only [hdelivered]
        refine ⟨hinv, ⟨[read], rfl, ?_⟩, ?_, rfl, rfl, by simp⟩
        · simp [hframe]
        · simp
      | false =>
        rw [hdelivered] at hinv
        simp only [hdelivered, Bool.false_eq_true, if_false]
        obtain ⟨hinv', ⟨used, hused, hframes⟩, hreturned, hzero, hfound, horigin⟩ := ih hrest hinv
        refine ⟨?_, ⟨read :: used, ?_, ?_⟩, ?_, hzero, hfound, horigin⟩
        · simpa using hinv'
        · rw [List.cons_append, ← hused]
        · rw [List.filterMap_cons, hframe, List.map_cons, ← hframes]
        · simpa using hreturned

theorem nextFrame_eq {reads : List (FilterRead F)}
    {decisions : List (Decision F)} (h : CallSpec cfg decisions reads (f.nextFrameResult reads)) :
    f.nextFrame reads = ((f.nextFrameResult reads).result.frame, f.nextFrameResult reads) := by
  rw [nextFrame]
  split
  next hok =>
    obtain ⟨frame, hframe⟩ := Option.isSome_iff_exists.mp (h.found.symm.trans hok)
    obtain ⟨read, hlast⟩ := Option.isSome_iff_exists.mp (h.origin hok)
    rw [hframe, hlast]
    dsimp only
    rw [if_pos h.whole]
  next hclosed =>
    rw [h.found, Bool.not_eq_true, Option.isSome_eq_false_iff, Option.isNone_iff_eq_none] at hclosed
    rw [hclosed]

end SlowConsumerFilter

/-! ## Whole sessions -/

/-- A session in terms of the frames that the ring had for it. -/
structure SessionInv (cfg : SlowConsumerConfig F)
    (reads : List (FilterRead F)) (s : FilterSession F) : Prop where
  inv : FilterInv cfg s.filter s.decisions
  consumed : ∃ used, reads = used ++ s.reads ∧
    used.filterMap FilterRead.frame = s.decisions.map Decision.frame
  returned : s.returned = (s.decisions.filter Decision.delivered).map Decision.frame

namespace SessionInv

variable {reads : List (FilterRead F)} {s : FilterSession F}

theorem afterCall (h : SessionInv cfg reads s) {call : FilterCall F}
    (hcall : CallSpec cfg s.decisions s.reads call) :
    SessionInv cfg reads (s.afterCall call call.result.frame) := by
  obtain ⟨used, hused, hframes⟩ := h.consumed
  obtain ⟨more, hmore, hmoreFrames⟩ := hcall.consumed
  refine ⟨hcall.inv, ⟨used ++ more, ?_, ?_⟩, ?_⟩
  · rw [hused, hmore, List.append_assoc, FilterSession.afterCall]
  · rw [List.filterMap_append, hframes, hmoreFrames, FilterSession.afterCall, List.map_append]
  · rw [FilterSession.afterCall]
    rw [h.returned, hcall.returned, List.filter_append, List.map_append]

theorem step (henabled : cfg.enabled = true) (hwhole : ∀ read ∈ reads, read.overwritten = 0)
    (h : SessionInv cfg reads s) {a : FilterAction} {s' : FilterSession F}
    (hstep : s.step a = some s') :
    SessionInv cfg reads s' := by
  have hcall : CallSpec cfg s.decisions s.reads (s.filter.nextFrameResult s.reads) := by
    apply SlowConsumerFilter.nextFrameResult_spec henabled _ h.inv
    intro read hread
    obtain ⟨used, hused, -⟩ := h.consumed
    apply hwhole
    rw [hused]
    exact List.mem_append_right _ hread
  cases a with
  | nextFrame =>
    cases hstep
    rw [SlowConsumerFilter.nextFrame_eq hcall]
    exact h.afterCall hcall
  | nextFrameResult =>
    cases hstep
    exact h.afterCall hcall
  | reportSendTime d =>
    cases hstep
    exact ⟨h.inv.reportSendTime d, h.consumed, h.returned⟩

end SessionInv

/-- After a frame was dropped, a video interframe gets through only once some
frame was handled at a lag below the recovery ratio.  Audio and sequence
headers always get through, what is returned keeps the order of the ring, and
`dropped` counts the frames read and not returned. -/
theorem slowConsumer_session (cfg : SlowConsumerConfig F) (skipCfg : Option SkipTrackerConfig)
    (reads : List (FilterRead F)) (henabled : cfg.enabled = true)
    (hwhole : ∀ read ∈ reads, read.overwritten = 0) (acts : List FilterAction) (s : FilterSession F)
    (hrun : runFrom FilterSession.step (FilterSession.initial cfg skipCfg reads) acts = some s) :
    (∀ (i j : ℕ) (d d' : Decision F), i < j → s.decisions[i]? = some d → s.decisions[j]? = some d' →
        IsVideoInterframe d.frame → d.delivered = false →
          IsVideoInterframe d'.frame → d'.delivered = true →
            ∃ (k : ℕ) (c : Decision F), i < k ∧ k ≤ j ∧ s.decisions[k]? = some c ∧
                Float64.less c.lag cfg.lagRecoverRatio = true) ∧
      (∀ d ∈ s.decisions, d.frame.mediaType = .audio ∨
        d.frame.frameType = .sequenceHeader → d.delivered = true) ∧
      s.returned = (s.decisions.filter Decision.delivered).map Decision.frame ∧
      ∃ used, reads = used ++ s.reads ∧
        s.decisions.map Decision.frame = used.filterMap FilterRead.frame ∧
        s.returned.Sublist (used.filterMap FilterRead.frame) ∧
        s.filter.dropped + s.returned.length = (used.filterMap FilterRead.frame).length := by
  have hinitial : SessionInv cfg reads (FilterSession.initial cfg skipCfg reads) :=
    ⟨FilterInv.initial cfg skipCfg, ⟨[], rfl, rfl⟩, rfl⟩
  have h : SessionInv cfg reads s :=
    runFrom_invariant (fun _ _ _ hinv hstep => hinv.step henabled hwhole hstep) hinitial hrun
  refine ⟨?_, h.inv.always, h.returned, ?_⟩
  · intro i j d d' hij hi hj _ hdropped hinter hdelivered
    exact h.inv.recovered i j d d' hij hi hj hdropped hdelivered hinter
  · obtain ⟨used, hused, hframes⟩ := h.consumed
    refine ⟨used, hused, hframes.symm, ?_, ?_⟩
    · rw [h.returned, hframes]
      exact (List.filter_sublist).map _
    · rw [h.inv.dropped, h.returned, hframes, List.length_map, List.length_map,
        List.countP_eq_length_filter]
      have hsplit := List.length_eq_length_filter_add (l := s.decisions) Decision.delivered
      omega

/-! ## A stream that loses its reference -/

instance : Float64 ℚ where
  ofInt n := n
  add a b := a + b
  sub a b := a - b
  mul a b := a * b
  div a b := a / b
  less a b := decide (a < b)
  equal a b := decide (a = b)

def defaultThresholds : SlowConsumerConfig ℚ :=
  ⟨true, 3 / 4, 9 / 10, 1 / 2, 3 / 10, 2⟩

/-- No video interframe gets through after a dropped one before a video keyframe
did. -/
def KeepsReferenceChain (decisions : List (Decision F)) : Prop :=
  ∀ (i j : ℕ) (d d' : Decision F), i < j → decisions[i]? = some d → decisions[j]? = some d' →
      IsVideoInterframe d.frame → d.delivered = false →
        IsVideoInterframe d'.frame → d'.delivered = true →
          ∃ (k : ℕ) (c : Decision F), i < k ∧ k < j ∧
            decisions[k]? = some c ∧ c.frame.isVideoKeyframe ∧ c.delivered = true

/-- Eight interframes wait in a ring of eight slots.  The subscriber reads
them while nothing is written. -/
def waitingInterframes : List (FilterRead ℚ) :=
  (List.range 8).map fun (i : ℕ) =>
    ⟨some (newAVFrame .video .h264 .interframe (33 * i) (33 * i) [1]), 0, readerLag 8 (i + 1) 8, 0⟩

def slowSubscriber : List FilterAction :=
  [.reportSendTime 100000000, .nextFrameResult]

theorem slowSubscriber_run :
    ∃ s, runFrom FilterSession.step
      (FilterSession.initial defaultThresholds none waitingInterframes) slowSubscriber = some s ∧
      s.filter.dropped = 4 ∧
      s.decisions.map (fun d => (d.frame.mediaType, d.frame.frameType, d.delivered)) =
        List.replicate 4 (.video, .interframe, false) ++ [(.video, .interframe, true)] :=
  ⟨_, rfl, by decide +kernel, by decide +kernel⟩

/-- The fifth interframe is read at a lag of three eighths and gets through,
although the four before it were dropped and no keyframe came. -/
theorem interframe_without_reference :
    defaultThresholds.enabled = true ∧ (∀ read ∈ waitingInterframes, read.overwritten = 0) ∧
      ∃ s, runFrom FilterSession.step
        (FilterSession.initial defaultThresholds none waitingInterframes) slowSubscriber = some s ∧
        ¬ KeepsReferenceChain s.decisions := by
  obtain ⟨s, hrun, -, hdecisions⟩ := slowSubscriber_run
  refine ⟨rfl, by decide, s, hrun, ?_⟩
  intro hchain
  have hlookup := fun i : ℕ => congrArg (fun l => l[i]?) hdecisions
  simp only [List.getElem?_map] at hlookup
  obtain ⟨d, hd, hdview⟩ := Option.map_eq_some_iff.mp (hlookup 0)
  obtain ⟨d', hd', hdview'⟩ := Option.map_eq_some_iff.mp (hlookup 4)
  simp only [Prod.mk.injEq] at hdview hdview'
  obtain ⟨k, c, -, hk4, hc, hkey, -⟩ := hchain 0 4 d d' (by omega) hd hd'
    ⟨hdview.1, hdview.2.1⟩ hdview.2.2 ⟨hdview'.1, hdview'.2.1⟩ hdview'.2.2
  have hcview := hlookup k
  have hdropped : k < (List.replicate 4 (MediaType.video, FrameType.interframe, false)).length := by
    simpa using hk4
  rw [hc, List.getElem?_append_left hdropped, List.getElem?_replicate_of_lt hk4] at hcview
  simp [hkey.2] at hcview

theorem slowConsumer_session_example :
    ∃ s, runFrom FilterSession.step
      (FilterSession.initial defaultThresholds none waitingInterframes) slowSubscriber = some s ∧
      s.filter.dropped = 4 ∧ ∃ used, waitingInterframes = used ++ s.reads ∧
      s.filter.dropped + s.returned.length = (used.filterMap FilterRead.frame).length := by
  obtain ⟨s, hrun, hdropped, -⟩ := slowSubscriber_run
  obtain ⟨-, -, -, used, hused, -, -, hcount⟩ :=
    slowConsumer_session defaultThresholds none waitingInterframes rfl
      (by decide) slowSubscriber s hrun
  exact ⟨s, hrun, hdropped, used, hused, hcount⟩

end LiveForge.Core
