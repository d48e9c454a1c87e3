import LiveForge.HttpStream.HlsMoves
import LiveForge.Ts.Current

/-!
# Parameter sets in HLS segments

An HLS worker on the frames of one publisher.  It makes its muxer with the
sequence header of the snapshot it starts or recovers with and ignores the
headers it reads.  As long as the publisher only repeats that header, every
keyframe has the current parameter sets in front.
-/

namespace LiveForge.HttpStream

open Support LiveForge.Core Ts

/-! ## A worker on a feed -/

/-- What a worker settles on for the audio. -/
structure AudioTrack where
  plan : MuxerAudioPlan := .none
  header : Option AVFrame := none

/-- The setup of a snapshot taken when `i` frames were written. -/
def setupAt (feed : Feed) (i : ℕ) (audio : AudioTrack) : SegmentSetup where
  videoSequenceHeader := (feed.startupAt i).videoSeqHeader
  audioPlan := audio.plan
  audioSequenceHeader := audio.header
  sampleRate := (feed.startupAt i).mediaInfo.sampleRate

def framesAt (feed : Feed) (positions : List ℕ) : List (ℕ × AVFrame) :=
  positions.filterMap fun i => feed.log[i]?.map fun f => (i, f)

/-- The worker reads the frames from `cursor` on; `startedAt` is where the
stream was when it started. -/
structure HLSFeed where
  feed : Feed
  cursor : ℕ := 0
  startedAt : ℕ := 0
  run : HLSRun := {}

/-- A frame is written, or the worker starts with the cached frames at some
positions, reads the next frame, gets audio from a transcoder, recovers with a
snapshot, or ends.  A transcoder starts its reader further back. -/
inductive HLSFeedAction where
  | write (f : AVFrame)
  | start (audio : AudioTrack) (cursor : ℕ) (replay : List ℕ)
  | read
  | transcoded (f : AVFrame)
  | overwritten (snapshot : Option (ℕ × AudioTrack))
  | producerEnd
  | finish
  | leave

namespace HLSFeed

/-- What the worker meets, and where it reads next.  A snapshot may be older
than the end of the stream to which the reader advances after it. -/
def input (s : HLSFeed) : HLSFeedAction → Option (HLSAction × ℕ)
  | .write _ => none
  | .start audio cursor replay =>
    if cursor ≤ s.feed.log.length then
      some (.start (setupAt s.feed s.feed.log.length audio) (framesAt s.feed replay), cursor)
    else none
  | .read => s.feed.log[s.cursor]?.map fun f =>
    (.frame s.cursor f, s.cursor + 1)
  | .transcoded f =>
    if f.mediaType = .audio then some (.frame s.cursor f, s.cursor) else none
  | .overwritten (some (i, audio)) =>
    if s.startedAt ≤ i ∧ i ≤ s.feed.log.length then
      some (.overwritten (some (setupAt s.feed i audio)), s.feed.log.length)
    else none
  | .overwritten none => some (.overwritten none, s.cursor)
  | .producerEnd => some (.producerEnd, s.cursor)
  | .finish => some (.finish, s.cursor)
  | .leave => some (.leave, s.cursor)

def advance (s : HLSFeed) (cursor : ℕ) (run : HLSRun) : HLSFeed :=
  { s with
    cursor
    run
    startedAt :=
      if s.run.phase = .idle then s.feed.log.length else s.startedAt }

def step (cfg : HLSConfig) (s : HLSFeed) (a : HLSFeedAction) : Option HLSFeed :=
  match a with
  | .write f => some { s with feed := s.feed.write f }
  | a => do
      let (action, cursor) ← s.input a
      let run ← HLSRun.step cfg s.run action
      return s.advance cursor run

/-- Written frames repeat the header, and the first one does not come after the
worker has started. -/
def Fits (s : HLSFeed) : HLSFeedAction → Prop
  | .write f => s.feed.Repeats f ∧
      (isVideoHeader f = true → s.run.phase ≠ .idle → s.feed.headers ≠ [])
  | _ => True

instance (s : HLSFeed) (a : HLSFeedAction) : Decidable (s.Fits a) :=
  match a with
  | .write _ => inferInstanceAs (Decidable (_ ∧ _))
  | .start .. | .read | .transcoded _ | .overwritten _ | .producerEnd
  | .finish | .leave => inferInstanceAs (Decidable True)

end HLSFeed

/-! ## What the worker keeps -/

/-- Buffer and segments hold what they say. -/
structure Kept (feed : Feed) (c : HLSCore) : Prop where
  empty : c.buf = [] → c.placed = []
  buf : Holds feed c.buf c.placed
  manager : ∀ seg ∈ c.manager.segments, Holds feed seg.data seg.placed
  observed : ∀ m ∈ c.observed, ∀ seg ∈ m.segments, Holds feed seg.data seg.placed

theorem kept_initial (feed : Feed) : Kept feed ({} : HLSWorker).core := by
  refine ⟨fun _ => rfl, holds_nil feed, by simp [HLSWorker.core], ?_⟩
  intro m hm
  rw [List.mem_singleton.mp hm]
  simp

variable {feed : Feed} {c : HLSCore} {p : ℕ × AVFrame}

theorem Kept.write (h : Kept feed c) (f : AVFrame) : Kept (feed.write f) c :=
  ⟨h.empty, h.buf.write f, fun seg hseg => (h.manager seg hseg).write f,
    fun m hm seg hseg => (h.observed m hm seg hseg).write f⟩

theorem Kept.discard (h : Kept feed c) : Kept feed c.discard :=
  ⟨fun _ => rfl, holds_nil feed, h.manager, h.observed⟩

theorem Kept.prepare (h : Kept feed c) (a : HLSAction) : Kept feed (a.prepare c) := by
  have hconfigure : ∀ c, Kept feed c → ∀ setup, Kept feed (c.configure setup) :=
    fun c h _ => { h with }
  unfold HLSAction.prepare
  split
  next setup _ => exact hconfigure c h setup
  next setup => exact hconfigure _ h.discard setup
  · exact h.discard
  · exact h.discard
  · exact h

theorem Kept.move {size : ℕ} {frames : ℕ × AVFrame → Prop}
    (hframes : ∀ p, frames p → p.2.mediaType = .video → feed.log[p.1]? = some p.2) {c' : HLSCore}
    (h : Kept feed c ∧ Configured feed c.muxer) (hmove : HLSMove size frames c c') :
    Kept feed c' ∧ Configured feed c'.muxer := by
  obtain ⟨hkept, hconfigured⟩ := h
  cases hmove with
  | tables hbuf =>
    have hplaced := hkept.empty hbuf
    refine ⟨⟨fun _ => hplaced, ?_, hkept.manager, hkept.observed⟩, hconfigured⟩
    show Holds feed c.muxer.writePATAndPMT.2 c.placed
    rw [hplaced]
    exact holds_tables feed c.muxer
  | write p hframe =>
    refine ⟨⟨?_, hkept.buf.writeFrame hconfigured (hframes p hframe),
      hkept.manager, hkept.observed⟩, hconfigured.writeFrame p.2⟩
    intro hbuf
    obtain ⟨hold, hnone⟩ := List.append_eq_nil_iff.mp hbuf
    exact (if_pos hnone).trans (hkept.empty hold)
  | cut seg hseqNum hdata hplaced =>
    have hmanager : ∀ s ∈ (c.manager.add size seg).segments, Holds feed s.data s.placed := by
      intro s hs
      refine forall_mem_concat hkept.manager ?_ s (List.mem_of_mem_drop hs)
      rw [hdata, hplaced]
      exact hkept.buf
    refine ⟨⟨fun _ => rfl, holds_nil feed, hmanager, ?_⟩, hconfigured⟩
    exact forall_mem_concat hkept.observed hmanager

/-! ## Runs -/

theorem mem_framesAt {positions : List ℕ} (hp : p ∈ framesAt feed positions) :
    feed.log[p.1]? = some p.2 := by
  obtain ⟨i, -, hi⟩ := List.mem_filterMap.mp hp
  obtain ⟨f, hf, rfl⟩ := Option.map_eq_some_iff.mp hi
  exact hf

theorem configured_setupAt (hsteady : feed.Steady) {i : ℕ}
    (hheader : feed.headers ≠ [] → (feed.headerAt i).isSome) (audio : AudioTrack) (c : HLSCore) :
    Configured feed (c.configure (setupAt feed i audio)).muxer := by
  intro h hh
  obtain ⟨header, hat⟩ := Option.isSome_iff_exists.mp (hheader (List.ne_nil_of_mem hh))
  have hmuxer := configured_newMuxer hsteady (Feed.mem_headers_of_headerAt hat)
    (setupAt feed i audio).audioCodec (setupAt feed i audio).audioSeqData h hh
  have hsetup : (setupAt feed i audio).videoSequenceHeader = some header :=
    (feed.startupAt_videoSeqHeader i).trans hat
  simp only [HLSCore.configure, SegmentSetup.videoCodec, SegmentSetup.videoSeqData, hsetup]
  exact hmuxer

namespace HLSFeed

/-- The worker has kept everything, and once it has started its muxer is made
with the header of the feed. -/
structure Inv (s : HLSFeed) : Prop where
  steady : s.feed.Steady
  kept : Kept s.feed s.run.worker.core
  started : s.run.phase ≠ .idle → s.startedAt ≤ s.feed.log.length ∧
    (s.feed.headers ≠ [] → (s.feed.headerAt s.startedAt).isSome) ∧
    Configured s.feed s.run.worker.core.muxer

variable {s : HLSFeed} {a : HLSFeedAction} {action : HLSAction} {cursor : ℕ} {cfg : HLSConfig}

theorem Inv.write (h : s.Inv) {f : AVFrame} (hfits : s.Fits (.write f)) :
    Inv { s with feed := s.feed.write f } := by
  obtain ⟨hrepeats, hknown⟩ := hfits
  refine ⟨h.steady.write hrepeats, h.kept.write f, fun hphase => ?_⟩
  obtain ⟨hle, hsome, hconfigured⟩ := h.started hphase
  have hheaders : (s.feed.write f).headers ≠ [] → s.feed.headers ≠ [] := by
    intro hne hnil
    rw [Feed.headers_write, hnil] at hne
    split at hne
    next hheader => exact hknown hheader hphase hnil
    · exact hne rfl
  refine ⟨?_, fun hne => ?_, hconfigured.write hrepeats fun hheader => hknown hheader hphase⟩
  · show s.startedAt ≤ (s.feed.log ++ [f]).length
    rw [List.length_append]
    omega
  · rw [Feed.headerAt_write hle]
    exact hsome (hheaders hne)

theorem located_of_input (hinput : s.input a = some (action, cursor)) (hframe : action.Frames p)
    (hvideo : p.2.mediaType = .video) :
    s.feed.log[p.1]? = some p.2 := by
  unfold input at hinput
  split at hinput
  · simp at hinput
  · split_ifs at hinput
    cases hinput
    exact mem_framesAt hframe.2
  · obtain ⟨f, hf, heq⟩ := Option.map_eq_some_iff.mp hinput
    cases heq
    have hp : p = (s.cursor, f) := hframe.2
    rw [hp]
    exact hf
  next f =>
    split_ifs at hinput with haudio
    cases hinput
    have hp : p = (s.cursor, f) := hframe.2
    rw [hp, haudio] at hvideo
    simp at hvideo
  · split_ifs at hinput
    cases hinput
    exact hframe.2.elim
  all_goals
    cases hinput
    exact hframe.2.elim

/-- A muxer that is made anew is made with the header of the feed. -/
theorem configured_of_input (h : s.Inv) (hinput : s.input a = some (action, cursor))
    (hphase : (∃ setup replay, action = .start setup replay) ∨ s.run.phase ≠ .idle) :
    Configured s.feed (action.prepare s.run.worker.core).muxer := by
  have hrunning : (¬ ∃ setup replay, action = .start setup replay) →
      s.run.phase ≠ .idle := fun hnot => hphase.resolve_left hnot
  unfold input at hinput
  split at hinput
  · simp at hinput
  next audio _ _ =>
    split_ifs at hinput
    cases hinput
    refine configured_setupAt h.steady (fun hne => ?_) audio _
    rw [Option.isSome_iff_ne_none, Ne, Feed.headerAt_length_eq_none]
    exact hne
  · obtain ⟨f, -, heq⟩ := Option.map_eq_some_iff.mp hinput
    cases heq
    exact (h.started (hrunning (by simp))).2.2
  · split_ifs at hinput
    cases hinput
    exact (h.started (hrunning (by simp))).2.2
  next i audio =>
    split_ifs at hinput with hi
    cases hinput
    obtain ⟨-, hsome, -⟩ := h.started (hrunning (by simp))
    exact configured_setupAt h.steady
      (fun hne => Feed.headerAt_isSome_of_le hi.1 (hsome hne)) audio _
  all_goals
    cases hinput
    exact (h.started (hrunning (by simp))).2.2

theorem Inv.advance (h : s.Inv) {run : HLSRun} (hinput : s.input a = some (action, cursor))
    (hstep : HLSRun.step cfg s.run action = some run) :
    (s.advance cursor run).Inv := by
  have hstart := HLSRun.step_phase hstep
  obtain ⟨hkept, hconfigured⟩ := (HLSRun.step_moves hstep).invariant
    (fun _ _ => Kept.move fun _ => located_of_input hinput)
    ⟨h.kept.prepare action, configured_of_input h hinput hstart⟩
  refine ⟨h.steady, hkept, fun _ => ?_⟩
  unfold HLSFeed.advance
  split
  · refine ⟨Nat.le_refl _, fun hne => ?_, hconfigured⟩
    rw [Option.isSome_iff_ne_none, Ne, Feed.headerAt_length_eq_none]
    exact hne
  next hrunning =>
    obtain ⟨hle, hsome, -⟩ := h.started hrunning
    exact ⟨hle, hsome, hconfigured⟩

theorem Inv.step {s' : HLSFeed} (h : s.Inv) (hfits : s.Fits a)
    (hstep : HLSFeed.step cfg s a = some s') :
    s'.Inv := by
  have hinput : (∃ f, a = .write f ∧ s' = { s with feed := s.feed.write f }) ∨
      ∃ action cursor run, s.input a = some (action, cursor) ∧
        HLSRun.step cfg s.run action = some run ∧ s' = s.advance cursor run := by
    unfold HLSFeed.step at hstep
    split at hstep
    next f => exact .inl ⟨f, rfl, (Option.some.inj hstep).symm⟩
    · obtain ⟨⟨action, cursor⟩, hin, hrest⟩ := Option.bind_eq_some_iff.mp hstep
      obtain ⟨run, hrun, hs'⟩ := Option.bind_eq_some_iff.mp hrest
      exact .inr ⟨action, cursor, run, hin, hrun, (Option.some.inj hs').symm⟩
  rcases hinput with ⟨f, rfl, rfl⟩ | ⟨action, cursor, run, hin, hrun, rfl⟩
  · exact h.write hfits
  · exact h.advance hin hrun

theorem current_of_run {info : Option MediaInfo} {acts : List HLSFeedAction}
    (hfits : StepsMeet HLSFeed.Fits (HLSFeed.step cfg) { feed := { info } } acts)
    (hrun : runFrom (HLSFeed.step cfg) { feed := { info } } acts = some s) :
    ∀ m ∈ s.run.worker.observed, ∀ seg ∈ m.segments,
      Current s.feed seg.data seg.placed := by
  have hinitial : Inv { feed := { info } } :=
    ⟨Feed.steady_initial info, kept_initial _, fun hphase => absurd rfl hphase⟩
  have hinv : s.Inv := @runFrom_invariant_of_stepsMeet _ _ _ Inv HLSFeed.Fits
    (fun _ _ _ h hf hs => h.step hf hs) _ _ _ hinitial hfits hrun
  intro m hm seg hseg
  exact (hinv.kept.observed m hm seg hseg).current

end HLSFeed

end LiveForge.HttpStream
