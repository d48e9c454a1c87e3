import LiveForge.Media.Frame
import LiveForge.Support.Clock
import LiveForge.Support.Run
import Mathlib.Data.List.Chain

/-!
# The video samples of a WHEP feed

`writeVideoSample` passes each video frame of the source through a keyframe
gate, a B-frame filter and a conversion, and writes what is left to the track
with the duration that moves the track's RTP clock.  The keyframe gate is a flag
that the RTCP reader sets at any time; an error makes the feed return after the
call.
-/

namespace LiveForge.WebRTC

open Support

/-! ## One call -/

/-- The variables of the feed; `terminal` says that its status is an error. -/
structure WhepVideo where
  codec : CodecType
  needsKeyframe : Bool := false
  paramSetBuf : Bytes := []
  maxSentVideoPTS : ℤ := 0
  lastSentVideoDTS : ℤ := -1
  terminal : Bool := false

/-- What is written to the track, with the duration in milliseconds. -/
structure MediaSample where
  data : Bytes
  duration : ℤ

def needsAnnexB (codec : CodecType) : Bool := codec = .h264 ∨ codec = .h265

def shouldDropWHEPVideoFrame (codec : CodecType) (frame : AVFrame) (maxSentPTS : ℤ) : Bool :=
  codec = .h264 ∧ frame.frameType ≠ .keyframe ∧ frame.pts < maxSentPTS

/-- Whether a record has its parameter sets, and the conversion of a record or
an access unit to Annex B. -/
structure VideoConversion where
  whepParameterSetsReady : CodecType → Bytes → Bool
  videoToAnnexB : CodecType → Bytes → Bool → Bytes

section Feed

variable (conv : VideoConversion)

namespace WhepVideo

/-- A sequence header is cached, or ends the feed. -/
def cache (s : WhepVideo) (header : Bytes) : WhepVideo :=
  if ¬ needsAnnexB s.codec then s
  else if conv.whepParameterSetsReady s.codec header then
    { s with paramSetBuf := conv.videoToAnnexB s.codec header true }
  else { s with terminal := true }

/-- The first part of `writeVideoSample`, and whether the frame goes on. -/
def gate (s : WhepVideo) (frame : AVFrame) : WhepVideo × Bool :=
  if frame.frameType = .sequenceHeader then
    (s.cache conv frame.payload, false)
  else if s.needsKeyframe then
    if frame.frameType ≠ .keyframe then ({ s with lastSentVideoDTS := -1 }, false)
    else ({ s with needsKeyframe := false }, true)
  else (s, true)

/-- The duration of a sample, from the DTS of the sample before it. -/
def duration (lastSentVideoDTS dts : ℤ) : ℤ :=
  if lastSentVideoDTS ≥ 0 ∧ dts > lastSentVideoDTS then dts - lastSentVideoDTS else 40

/-- The frame as the track takes it, without the parameter sets of a keyframe. -/
def accessUnit (s : WhepVideo) (frame : AVFrame) : Bytes :=
  if needsAnnexB s.codec then conv.videoToAnnexB s.codec frame.payload false else frame.payload

/-- The state from which a sample is written. -/
def sent (s : WhepVideo) (frame : AVFrame) : WhepVideo :=
  { s with
    lastSentVideoDTS := frame.dts
    maxSentVideoPTS := max s.maxSentVideoPTS frame.pts }

/-- The second part of `writeVideoSample`, and the sample if its write succeeds. -/
def send (s : WhepVideo) (frame : AVFrame) (ok : Bool) : WhepVideo × Option MediaSample :=
  if shouldDropWHEPVideoFrame s.codec frame s.maxSentVideoPTS then (s, none)
  else if s.accessUnit conv frame = [] then
    (if needsAnnexB s.codec then { s with terminal := true } else s, none)
  else
    let parameterSets :=
      if needsAnnexB s.codec ∧ frame.frameType = .keyframe then s.paramSetBuf else []
    let payload := parameterSets ++ s.accessUnit conv frame
    if ok then (s.sent frame, some ⟨payload, duration s.lastSentVideoDTS frame.dts⟩)
    else ({ s.sent frame with terminal := true }, none)

def writeVideoSample (s : WhepVideo) (frame : AVFrame) (ok : Bool) :
    WhepVideo × Option MediaSample :=
  let (gated, passes) := s.gate conv frame
  if passes then gated.send conv frame ok else (gated, none)

/-- The source ring has lapped the reader; the stream holds a sequence header. -/
def recover (s : WhepVideo) (header : Option Bytes) : WhepVideo :=
  let asked := { s with needsKeyframe := true, lastSentVideoDTS := -1, maxSentVideoPTS := 0 }
  header.elim asked (asked.cache conv)

variable {conv} {s : WhepVideo} {frame : AVFrame} {ok : Bool}

theorem gate_blocks (h : (s.gate conv frame).2 = false) :
    (s.gate conv frame).1.needsKeyframe = s.needsKeyframe := by
  unfold gate cache at *
  split_ifs at * <;> simp_all

theorem gate_passes (h : (s.gate conv frame).2 = true) :
    frame.frameType = .keyframe ∨ s.needsKeyframe = false := by
  unfold gate at h
  split_ifs at h <;> simp_all

theorem gate_keeps :
    (s.gate conv frame).1.codec = s.codec ∧
      (s.gate conv frame).1.maxSentVideoPTS = s.maxSentVideoPTS := by
  unfold gate cache
  split_ifs <;> exact ⟨rfl, rfl⟩

theorem recover_spec {header : Option Bytes} :
    (s.recover conv header).codec = s.codec ∧ (s.recover conv header).needsKeyframe = true := by
  cases header with
  | none => exact ⟨rfl, rfl⟩
  | some header =>
    simp only [recover, Option.elim_some, cache]
    split_ifs <;> exact ⟨rfl, rfl⟩

/-- A call keeps a frame back for good or for an error, or it writes it. -/
theorem send_cases :
    shouldDropWHEPVideoFrame s.codec frame s.maxSentVideoPTS ∧ s.send conv frame ok = (s, none) ∨
    s.accessUnit conv frame = [] ∧ s.send conv frame ok =
      ({ s with terminal := needsAnnexB s.codec || s.terminal }, none) ∨
    (∃ data, s.send conv frame ok =
      (s.sent frame, some ⟨data, duration s.lastSentVideoDTS frame.dts⟩)) ∨
    s.send conv frame ok = ({ s.sent frame with terminal := true }, none) := by
  unfold send
  by_cases hdrop : shouldDropWHEPVideoFrame s.codec frame s.maxSentVideoPTS
  · exact .inl ⟨hdrop, if_pos hdrop⟩
  rw [if_neg hdrop]
  by_cases hunit : s.accessUnit conv frame = []
  · rw [if_pos hunit]
    cases hannexB : needsAnnexB s.codec <;> exact .inr (.inl ⟨hunit, rfl⟩)
  rw [if_neg hunit]
  cases ok with
  | true => exact .inr (.inr (.inl ⟨_, rfl⟩))
  | false => exact .inr (.inr (.inr rfl))

end WhepVideo

end Feed

/-! ## Runs -/

/-- The feed and the RTCP reader, with what has been written. -/
structure WhepRun where
  video : WhepVideo
  /-- The frame of the call that has passed the gate. -/
  inCall : Option AVFrame := none
  /-- A keyframe was asked for, and none has been written since. -/
  owed : Bool := false
  /-- An interframe was written while a keyframe was owed. -/
  late : Bool := false
  /-- The PTS of the frames written from the last keyframe on. -/
  since : List ℤ := []

/-- Steps: a PLI or FIR, the recovery from an overwrite, and the two parts of a
call, with the outcome of the write. -/
inductive WhepAct where
  | request
  | overwritten (header : Option Bytes)
  | start (frame : AVFrame)
  | finish (ok : Bool)

variable {conv : VideoConversion}

namespace WhepRun

def written (r : WhepRun) (frame : AVFrame) : WhepRun :=
  if frame.frameType = .keyframe then { r with owed := false, since := [frame.pts] }
  else { r with
    late := r.late || r.owed
    since := if r.since = [] then [] else r.since ++ [frame.pts] }

def finished (r : WhepRun) (frame : AVFrame) (result : WhepVideo × Option MediaSample) : WhepRun :=
  { (if result.2.isSome then r.written frame else r) with video := result.1, inCall := none }

def step (conv : VideoConversion) (r : WhepRun) : WhepAct → Option WhepRun
  | .request => some { r with video := { r.video with needsKeyframe := true }, owed := true }
  | .overwritten header =>
    if r.inCall = none ∧ ¬ r.video.terminal then some { r with
      video := r.video.recover conv header
      owed := true }
    else none
  | .start frame =>
    if r.inCall = none ∧ ¬ r.video.terminal then
      let gated := r.video.gate conv frame
      some { r with video := gated.1, inCall := if gated.2 then some frame else none }
    else none
  | .finish ok => r.inCall.map fun frame => r.finished frame (r.video.send conv frame ok)

/-- The gate is closed, or a keyframe has passed it. -/
def Shut (r : WhepRun) : Prop :=
  r.inCall = none ∧ (r.video.terminal ∨ r.video.needsKeyframe) ∨
    ∃ frame, r.inCall = some frame ∧ frame.frameType = .keyframe

variable {r r' : WhepRun} {frame : AVFrame} {act : WhepAct}

theorem Shut.start (h : r.Shut) (hstep : r.step conv (.start frame) = some r') : r'.Shut := by
  obtain ⟨⟨hcall, hterminal⟩, hsome⟩ := Option.ite_none_right_eq_some.mp hstep
  cases hsome
  have hneeds : r.video.needsKeyframe = true := by simpa [Shut, hcall, hterminal] using h
  cases hpasses : (r.video.gate conv frame).2 with
  | true =>
    have hkey := (WhepVideo.gate_passes hpasses).resolve_right (by simp [hneeds])
    exact .inr ⟨frame, rfl, hkey⟩
  | false => exact .inl ⟨rfl, .inr ((WhepVideo.gate_blocks hpasses).trans hneeds)⟩

theorem Shut.keyframe (h : r.Shut) (hcall : r.inCall = some frame) :
    frame.frameType = .keyframe := by
  simpa [Shut, hcall] using h

/-! ## Keyframe requests -/

/-- A keyframe is asked for between two calls, and a keyframe that is not
converted is not empty. -/
def orderly (r : WhepRun) : WhepAct → Bool
  | .request => r.inCall = none
  | .finish _ => ∀ frame ∈ r.inCall, frame.frameType = .keyframe →
      needsAnnexB r.video.codec ∨ frame.payload ≠ []
  | _ => true

def Honoured (r : WhepRun) : Prop := r.late = false ∧ (r.owed → r.Shut)

theorem Honoured.step (h : r.Honoured) (hact : r.orderly act) (hstep : r.step conv act = some r') :
    r'.Honoured := by
  obtain ⟨hlate, howed⟩ := h
  cases act with
  | request =>
    cases hstep
    exact ⟨hlate, fun _ => .inl ⟨of_decide_eq_true hact, .inr rfl⟩⟩
  | overwritten header =>
    obtain ⟨⟨hcall, -⟩, hsome⟩ := Option.ite_none_right_eq_some.mp hstep
    cases hsome
    exact ⟨hlate, fun _ => .inl ⟨hcall, .inr WhepVideo.recover_spec.2⟩⟩
  | start frame =>
    have hshut : r.owed → r'.Shut := fun ho => (howed ho).start hstep
    obtain ⟨-, hsome⟩ := Option.ite_none_right_eq_some.mp hstep
    cases hsome
    exact ⟨hlate, hshut⟩
  | finish ok =>
    obtain ⟨frame, hcall, rfl⟩ := Option.map_eq_some_iff.mp hstep
    have hkey : r.owed → frame.frameType = .keyframe := fun ho => (howed ho).keyframe hcall
    obtain ⟨hdrop, hsend⟩ | ⟨hunit, hsend⟩ | ⟨data, hsend⟩ | hsend :=
      @WhepVideo.send_cases conv r.video frame ok <;> rw [hsend]
    · refine ⟨hlate, fun ho => ?_⟩
      simp [shouldDropWHEPVideoFrame, hkey ho] at hdrop
    · refine ⟨hlate, fun ho => .inl ⟨rfl, .inl ?_⟩⟩
      have hannexB : needsAnnexB r.video.codec = true := by
        have := of_decide_eq_true hact frame hcall (hkey ho)
        by_contra hraw
        simp_all [WhepVideo.accessUnit]
      simp [finished, hannexB]
    · by_cases htype : frame.frameType = .keyframe
      · simp [finished, written, htype, Honoured, hlate]
      · have ho : r.owed = false := by simpa [htype] using hkey
        simp [finished, written, htype, Honoured, hlate, ho]
    · exact ⟨hlate, fun _ => .inl ⟨rfl, .inl rfl⟩⟩

/-- In orderly runs no interframe is written between a request for a keyframe
and the next keyframe written. -/
theorem keyframe_request_honoured {video : WhepVideo} {acts : List WhepAct}
    (hmeet : StepsMeet (orderly · ·) (step conv) { video } acts)
    (hrun : runFrom (step conv) { video } acts = some r) :
    r.late = false :=
  (runFrom_invariant_of_stepsMeet (fun _ _ _ => Honoured.step) ⟨rfl, by simp⟩ hmeet hrun).1

def rawConversion : VideoConversion := ⟨fun _ _ => true, fun _ data _ => data⟩

def afterPLI (keyframe : Bytes) : List WhepAct :=
  [.request, .start (newAVFrame .video .vp8 .keyframe 0 0 keyframe), .finish true,
    .start (newAVFrame .video .vp8 .interframe 40 40 [2]), .finish true]

theorem keyframe_request_honoured_vp8 :
    ∃ r, runFrom (step rawConversion) { video := { codec := .vp8 } } (afterPLI [1]) = some r ∧
      r.late = false :=
  ⟨_, rfl, @keyframe_request_honoured rawConversion _ { codec := .vp8 } (afterPLI [1])
    (by decide) rfl⟩

/-- An empty keyframe opens the gate for the interframe after it, and a PLI
during a call comes too late for its frame. -/
theorem keyframe_request_lost :
    ∃ r r', runFrom (step rawConversion)
      { video := { codec := .vp8 } } (afterPLI []) = some r ∧ r.late = true ∧
    runFrom (step rawConversion) { video := { codec := .vp8 } }
      [.start (newAVFrame .video .vp8 .interframe 40 40 [2]), .request, .finish true] = some r' ∧
      r'.late = true :=
  ⟨_, _, rfl, rfl, rfl, rfl⟩

/-! ## The B-frame filter -/

/-- A keyframe comes with the highest PTS sent so far. -/
def rising (r : WhepRun) : WhepAct → Bool
  | .finish _ => ∀ frame ∈ r.inCall, frame.frameType = .keyframe →
      r.video.maxSentVideoPTS ≤ frame.pts
  | _ => true

/-- The threshold is the PTS of a frame sent since the last keyframe. -/
def Filtered (r : WhepRun) : Prop :=
  r.video.codec = .h264 ∧ (r.since = [] ∨ r.Shut ∨ ∃ p ∈ r.since, r.video.maxSentVideoPTS ≤ p)

theorem Filtered.step (h : r.Filtered) (hact : r.rising act) (hstep : r.step conv act = some r') :
    r'.Filtered := by
  obtain ⟨hcodec, hsince⟩ := h
  cases act with
  | request =>
    cases hstep
    refine ⟨hcodec, hsince.imp_right (Or.imp_left ?_)⟩
    exact Or.imp_left fun ⟨hcall, _⟩ => ⟨hcall, .inr rfl⟩
  | overwritten header =>
    obtain ⟨⟨hcall, -⟩, hsome⟩ := Option.ite_none_right_eq_some.mp hstep
    cases hsome
    exact ⟨WhepVideo.recover_spec.1.trans hcodec,
      .inr (.inl (.inl ⟨hcall, .inr WhepVideo.recover_spec.2⟩))⟩
  | start frame =>
    have hshut : r.Shut → r'.Shut := fun h => h.start hstep
    obtain ⟨-, hsome⟩ := Option.ite_none_right_eq_some.mp hstep
    cases hsome
    refine ⟨WhepVideo.gate_keeps.1.trans hcodec, hsince.imp_right (Or.imp hshut ?_)⟩
    exact fun ⟨p, hp, hle⟩ => ⟨p, hp, WhepVideo.gate_keeps.2.trans_le hle⟩
  | finish ok =>
    obtain ⟨frame, hcall, rfl⟩ := Option.map_eq_some_iff.mp hstep
    obtain ⟨hdrop, hsend⟩ | ⟨-, hsend⟩ | ⟨data, hsend⟩ | hsend :=
      @WhepVideo.send_cases conv r.video frame ok <;> rw [hsend]
    · refine ⟨hcodec, hsince.imp_right ?_⟩
      rintro (hshut | hle)
      · simp [shouldDropWHEPVideoFrame, hshut.keyframe hcall] at hdrop
      · exact .inr hle
    · exact ⟨hcodec, .inr (.inl (.inl ⟨rfl, .inl (by simp [finished, needsAnnexB, hcodec])⟩))⟩
    · refine ⟨by simpa [WhepVideo.sent], ?_⟩
      by_cases htype : frame.frameType = .keyframe
      · have hle := of_decide_eq_true hact frame hcall htype
        simp [finished, written, htype, WhepVideo.sent, hle]
      · by_cases hnil : r.since = []
        · simp [finished, written, htype, hnil]
        obtain ⟨p, hp, hle⟩ := (hsince.resolve_left hnil).resolve_left
          fun hshut => htype (hshut.keyframe hcall)
        refine .inr (.inr ?_)
        simp only [finished, written, htype, hnil, WhepVideo.sent]
        rcases le_total r.video.maxSentVideoPTS frame.pts with hpts | hpts
        · exact ⟨frame.pts, by simp, by simp [hpts]⟩
        · exact ⟨p, by simp [hp], by simp [hpts, hle]⟩
    · exact ⟨by simpa [WhepVideo.sent], .inr (.inl (.inl ⟨rfl, .inl rfl⟩))⟩

/-- In runs with rising keyframes an interframe that the filter drops comes
before a frame sent since the last keyframe. -/
theorem only_bframes_dropped {paramSetBuf : Bytes} {acts : List WhepAct}
    (hmeet : StepsMeet (rising · ·) (step conv) { video := { codec := .h264, paramSetBuf } } acts)
    (hrun : runFrom (step conv) { video := { codec := .h264, paramSetBuf } } acts = some r)
    (hcall : frame ∈ r.inCall) (hsince : r.since ≠ []) (hpts : ∀ p ∈ r.since, p ≤ frame.pts) :
    shouldDropWHEPVideoFrame r.video.codec frame r.video.maxSentVideoPTS = false := by
  have hinv := runFrom_invariant_of_stepsMeet (fun _ _ _ => Filtered.step) ⟨rfl, .inl rfl⟩
    hmeet hrun
  rcases hinv.2.resolve_left hsince with hshut | ⟨p, hp, hle⟩
  · simp [shouldDropWHEPVideoFrame, hshut.keyframe hcall]
  · have := hpts p hp
    simp [shouldDropWHEPVideoFrame]
    omega

/-- Two keyframes, the second at zero, and an interframe. -/
def twoGroups (pts : ℤ) : List WhepAct :=
  [.start (newAVFrame .video .h264 .keyframe pts pts [1]), .finish true,
    .start (newAVFrame .video .h264 .keyframe 0 0 [1]), .finish true,
    .start (newAVFrame .video .h264 .interframe 40 40 [2])]

theorem only_bframes_dropped_rising :
    ∃ r frame, runFrom (step rawConversion) { video := { codec := .h264, paramSetBuf := [] } }
        (twoGroups 0) = some r ∧ frame ∈ r.inCall ∧
      shouldDropWHEPVideoFrame r.video.codec frame r.video.maxSentVideoPTS = false :=
  ⟨_, _, rfl, rfl, @only_bframes_dropped rawConversion _ _ [] (twoGroups 0) (by decide) rfl rfl
    (by decide) (by decide)⟩

/-- After a keyframe at an earlier PTS the frames of its group are dropped. -/
theorem interframe_dropped :
    ∃ r frame, runFrom (step rawConversion) { video := { codec := .h264, paramSetBuf := [] } }
        (twoGroups 100) = some r ∧ frame ∈ r.inCall ∧ r.since ≠ [] ∧
      (∀ p ∈ r.since, p ≤ frame.pts) ∧
      shouldDropWHEPVideoFrame r.video.codec frame r.video.maxSentVideoPTS = true :=
  ⟨_, _, rfl, rfl, by decide, by decide, by decide⟩

end WhepRun

/-! ## RTP timestamps -/

/-- The DTS and the duration of each sample of a feed without requests, from
the frames and the outcomes of their writes. -/
def WhepVideo.samples (conv : VideoConversion) (s : WhepVideo) :
    List (AVFrame × Bool) → List (ℤ × ℤ)
  | [] => []
  | (frame, ok) :: rest =>
    let result := s.writeVideoSample conv frame ok
    if s.terminal then []
    else (result.2.map fun sample => (frame.dts, sample.duration)).toList ++
      result.1.samples conv rest

/-- The track stamps a sample and then goes on by its duration, at 90 kHz. -/
def rtpTimestamps (now : UInt32) : List (ℤ × ℤ) → List (ℤ × UInt32)
  | [] => []
  | (dts, duration) :: rest => (dts, now) :: rtpTimestamps (now + stamp (duration * 90)) rest

/-- The timestamps run as the DTS do. -/
def FollowDTS (stamps : List (ℤ × UInt32)) : Prop :=
  ∀ first ∈ stamps.head?, ∀ x ∈ stamps, x.2 - first.2 = stamp ((x.1 - first.1) * 90)

theorem stamp_mul_eq_iff {x y : ℤ} : stamp (x * 90) = stamp (y * 90) ↔ x % 2 ^ 31 = y % 2 ^ 31 := by
  rw [← UInt32.toNat_inj, ← Int.natCast_inj, toNat_stamp, toNat_stamp]
  omega

theorem followDTS_iff {now : UInt32} {first : ℤ × ℤ} {rest : List (ℤ × ℤ)} :
    FollowDTS (rtpTimestamps now (first :: rest)) ↔ (first :: rest).IsChain fun a b =>
      a.2 % 2 ^ 31 = (b.1 - a.1) % 2 ^ 31 := by
  have hzero : stamp 0 = 0 := rfl
  induction rest generalizing now first with
  | nil => simp [FollowDTS, rtpTimestamps, hzero]
  | cons next rest ih =>
    -- The second sample follows the first, and the others follow the second.
    have hshift : stamp (first.2 * 90) = stamp ((next.1 - first.1) * 90) → ∀ x : ℤ × UInt32,
        x.2 - now = stamp ((x.1 - first.1) * 90) ↔
          x.2 - (now + stamp (first.2 * 90)) = stamp ((x.1 - next.1) * 90) := by
      intro hab x
      have hsub : stamp ((x.1 - next.1) * 90) =
          stamp ((x.1 - first.1) * 90) - stamp (first.2 * 90) := by
        rw [hab, stamp_sub_stamp]
        congr 1
        omega
      grind
    have hnext : now + stamp (first.2 * 90) - now = stamp (first.2 * 90) := by grind
    rw [List.isChain_cons_cons, ← stamp_mul_eq_iff]
    refine Iff.trans ?_ (and_congr_right fun _ => @ih (now + stamp (first.2 * 90)) next)
    simp only [FollowDTS, rtpTimestamps, List.head?_cons, Option.mem_some_iff, forall_eq',
      List.forall_mem_cons, hnext, UInt32.sub_self, Int.sub_self, zero_mul, hzero, true_and]
    exact and_congr_right fun hab => forall₂_congr fun x _ => hshift hab x

/-- Without requests a sample lasts as long as the one before it took. -/
theorem WhepVideo.samples_chain {s : WhepVideo}
    {frames : List (AVFrame × Bool)} (hneeds : s.needsKeyframe = false) (d : ℤ) :
    ((s.lastSentVideoDTS, d) :: s.samples conv frames).IsChain fun a b =>
      b.2 = duration a.1 b.1 := by
  induction frames generalizing s d with
  | nil => simp [samples]
  | cons frame frames ih =>
    obtain ⟨frame, ok⟩ := frame
    have hover : ∀ t : WhepVideo, t.terminal = true → t.samples conv frames = [] := by
      intro t ht
      cases frames <;> simp [samples, ht]
    unfold samples
    by_cases hterminal : s.terminal
    · simp [hterminal]
    rw [if_neg hterminal]
    by_cases htype : frame.frameType = .sequenceHeader
    · have hcache : ((s.cache conv frame.payload).lastSentVideoDTS, d) = (s.lastSentVideoDTS, d) ∧
          (s.cache conv frame.payload).needsKeyframe = false := by
        unfold cache
        split_ifs <;> exact ⟨rfl, hneeds⟩
      have hskip : s.writeVideoSample conv frame ok = (s.cache conv frame.payload, none) := by
        simp [writeVideoSample, gate, htype]
      rw [hskip, ← hcache.1]
      exact ih hcache.2 d
    have hsend : s.writeVideoSample conv frame ok = s.send conv frame ok := by
      simp [writeVideoSample, gate, htype, hneeds]
    rw [hsend]
    obtain ⟨-, hsend⟩ | ⟨-, hsend⟩ | ⟨data, hsend⟩ | hsend := @send_cases conv s frame ok <;>
      rw [hsend]
    · exact ih hneeds d
    · exact @ih { s with terminal := needsAnnexB s.codec || s.terminal } hneeds d
    · exact List.isChain_cons_cons.mpr ⟨rfl, @ih (s.sent frame) hneeds _⟩
    · simp [hover]

/-- The timestamps follow the DTS exactly if all frames are 40 ms apart, up to
whole turns of the clock. -/
theorem rtp_follows_dts_iff (conv : VideoConversion) (codec : CodecType) (paramSetBuf : Bytes)
    (now : UInt32) (frames : List (AVFrame × Bool)) :
    FollowDTS (rtpTimestamps now (WhepVideo.samples conv { codec, paramSetBuf } frames)) ↔
      (WhepVideo.samples conv { codec, paramSetBuf } frames).IsChain fun a b =>
        (b.1 - a.1) % 2 ^ 31 = 40 := by
  have hchain := @WhepVideo.samples_chain conv { codec, paramSetBuf } frames rfl 0
  revert hchain
  cases WhepVideo.samples conv { codec, paramSetBuf } frames with
  | nil => simp [FollowDTS, rtpTimestamps]
  | cons first rest =>
    intro hchain
    obtain ⟨hfirst, hrest⟩ := List.isChain_cons_cons.mp hchain
    have h40 : first.2 % 2 ^ 31 = 40 := by simp [hfirst, WhepVideo.duration]
    rw [followDTS_iff]
    clear hfirst hchain
    induction rest generalizing first with
    | nil => simp
    | cons next rest ih =>
      obtain ⟨hnext, hrest⟩ := List.isChain_cons_cons.mp hrest
      simp only [List.isChain_cons_cons, h40]
      refine (and_congr eq_comm Iff.rfl).trans (and_congr_right fun hinterval => ?_)
      refine ih next hrest ?_
      rw [hnext, WhepVideo.duration]
      split_ifs
      · exact hinterval
      · rfl

/-- The second of three frames is stamped 40 ms after the first, not 20 ms. -/
theorem rtp_ahead_of_dts :
    ∃ stamps, stamps = [(0, 0), (20, 3600), (60, 5400)] ∧
    rtpTimestamps 0 (WhepVideo.samples WhepRun.rawConversion { codec := .vp8 }
      ([0, 20, 60].map fun dts => (newAVFrame .video .vp8 .keyframe dts dts [1], true))) = stamps ∧
    ¬ FollowDTS stamps :=
  ⟨_, rfl, by decide, fun h => absurd (h _ rfl (20, 3600) (by simp)) (by decide)⟩

end LiveForge.WebRTC
