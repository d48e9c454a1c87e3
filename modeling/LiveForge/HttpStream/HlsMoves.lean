import LiveForge.HttpStream.Hls
import Mathlib.Logic.Relation

/-!
# What an HLS worker can do

Of a worker only the muxer, the buffer and the manager matter for what clients
get.  A step of a run may throw the buffer away or take over a setup first, and
then is a chain of few moves: write the tables or a frame, cut a segment.
-/

namespace LiveForge.HttpStream

open Support Relation

structure HLSCore where
  muxer : Ts.Muxer
  buf : Bytes
  placed : List (ℕ × AVFrame)
  manager : HLSManager
  observed : List HLSManager

def HLSWorker.core (w : HLSWorker) : HLSCore where
  muxer := w.muxer
  buf := w.buf
  placed := w.placed
  manager := w.manager
  observed := w.observed

namespace HLSCore

def configure (c : HLSCore) (setup : SegmentSetup) : HLSCore :=
  { c with
    muxer := Ts.newMuxer setup.videoCodec setup.audioCodec setup.videoSeqData
      setup.audioSeqData }

def discard (c : HLSCore) : HLSCore := { c with buf := [], placed := [] }

def writeTables (c : HLSCore) : HLSCore :=
  { c with
    muxer := c.muxer.writePATAndPMT.1
    buf := c.muxer.writePATAndPMT.2 }

def write (c : HLSCore) (placed : ℕ × AVFrame) : HLSCore :=
  let written := c.muxer.writeFrame placed.2
  { c with
    muxer := written.1
    buf := c.buf ++ written.2
    placed := if written.2 = [] then c.placed else c.placed ++ [placed] }

def cut (size : ℕ) (c : HLSCore) (seg : HLSSegment) : HLSCore :=
  { c with
    buf := []
    placed := []
    manager := c.manager.add size seg
    observed := c.observed ++ [c.manager.add size seg] }

end HLSCore

/-- A move; a frame it writes is one of those allowed. -/
inductive HLSMove (size : ℕ) (frames : ℕ × AVFrame → Prop) :
    HLSCore → HLSCore → Prop where
  | tables (c : HLSCore) (hbuf : c.buf = []) : HLSMove size frames c c.writeTables
  | write (c : HLSCore) (placed : ℕ × AVFrame) (hframe : frames placed) :
      HLSMove size frames c (c.write placed)
  | cut (c : HLSCore) (seg : HLSSegment)
      (hseqNum : seg.seqNum = c.manager.nextSeqNum) (hdata : seg.data = c.buf)
      (hplaced : seg.placed = c.placed) : HLSMove size frames c (c.cut size seg)

def HLSMoves (size : ℕ) (frames : ℕ × AVFrame → Prop) : HLSCore → HLSCore → Prop :=
  ReflTransGen (HLSMove size frames)

variable {frames : ℕ × AVFrame → Prop} {frame : AVFrame}

theorem HLSMoves.invariant {size : ℕ} {Inv : HLSCore → Prop} {c c' : HLSCore}
    (hstep : ∀ a b, Inv a → HLSMove size frames a b → Inv b) (h : HLSMoves size frames c c')
    (hc : Inv c) :
    Inv c' := by
  induction h with
  | refl => exact hc
  | tail _ hmove ih => exact hstep _ _ ih hmove

/-! ## The worker moves -/

namespace HLSWorker

theorem finalize_moves (cfg : HLSConfig) (w : HLSWorker) (endDTS : ℤ) :
    HLSMoves cfg.windowSize frames w.core (w.finalize cfg endDTS).core := by
  unfold finalize
  split
  · exact .refl
  · exact .single (.cut w.core (w.segment endDTS) rfl rfl rfl)

theorem openSegment_core (w : HLSWorker) (frame : AVFrame) :
    (w.openSegment frame).core = w.core := by
  unfold openSegment
  split <;> rfl

theorem cutByTime_moves (cfg : HLSConfig) (w : HLSWorker) (frame : AVFrame) :
    HLSMoves cfg.windowSize frames w.core (w.cutByTime cfg frame).core := by
  unfold cutByTime
  split
  · exact w.finalize_moves cfg frame.dts
  · exact .refl

theorem cutAtKeyframe_moves (cfg : HLSConfig) (w : HLSWorker) (frame : AVFrame) :
    HLSMoves cfg.windowSize frames w.core (w.cutAtKeyframe cfg frame).core := by
  unfold cutAtKeyframe
  split
  · exact w.finalize_moves cfg frame.dts
  · exact .refl

theorem writeTables_moves (size : ℕ) (w : HLSWorker) :
    HLSMoves size frames w.core w.writeTables.core := by
  unfold writeTables
  split
  next h => exact .single (.tables w.core h.2)
  · exact .refl

theorem write_moves (size : ℕ) (w : HLSWorker) {position : ℕ} (hframe : frames (position, frame)) :
    HLSMoves size frames w.core (w.write position frame).core :=
  ReflTransGen.single (.write w.core (position, frame) hframe)

theorem addCached_moves (size : ℕ) (w : HLSWorker) {cached : ℕ × AVFrame}
    (hframe : w.wants cached.2 = true → frames cached) :
    HLSMoves size frames w.core (w.addCached cached).core := by
  unfold addCached
  split
  next hwants =>
    have hopen : (openSegment { w with gotFirstKeyframe := true } cached.2).core =
        w.core := openSegment_core _ _
    rw [← hopen]
    exact write_moves size _ (hframe hwants)
  · exact .refl

theorem addLive_moves (cfg : HLSConfig) (w : HLSWorker) {position : ℕ}
    (hframe : frames (position, frame)) :
    HLSMoves cfg.windowSize frames w.core (w.addLive cfg position frame).core := by
  unfold addLive
  refine ReflTransGen.trans (cutByTime_moves cfg { w with gotFirstKeyframe := true } frame) ?_
  refine ReflTransGen.trans (cutAtKeyframe_moves cfg _ frame) ?_
  rw [← openSegment_core _ frame]
  exact ReflTransGen.trans (writeTables_moves _ _) (write_moves _ _ hframe)

end HLSWorker

/-! ## Runs -/

namespace HLSAction

/-- What an action does before frames are written. -/
def prepare (a : HLSAction) (c : HLSCore) : HLSCore :=
  match a with
  | .start setup _ => c.configure setup
  | .overwritten (some setup) => c.discard.configure setup
  | .overwritten none => c.discard
  | .producerEnd => c.discard
  | _ => c

/-- The frames an action brings, without sequence headers. -/
def Frames (a : HLSAction) (placed : ℕ × AVFrame) : Prop :=
  placed.2.frameType ≠ .sequenceHeader ∧
    match a with
    | .start _ replay => placed ∈ replay
    | .frame position f => placed = (position, f)
    | _ => False

end HLSAction

theorem HLSWorker.wants_media {w : HLSWorker} (h : w.wants frame = true) :
    frame.frameType ≠ .sequenceHeader := by
  unfold HLSWorker.wants at h
  rw [Bool.and_eq_true, Bool.and_eq_true] at h
  exact of_decide_eq_true h.1.1

namespace HLSRun

theorem addCached_foldl_moves {size : ℕ} {replay : List (ℕ × AVFrame)}
    (hreplay : ∀ cached ∈ replay, cached.2.frameType ≠ .sequenceHeader → frames cached)
    (w : HLSWorker) :
    HLSMoves size frames w.core (replay.foldl HLSWorker.addCached w).core := by
  induction replay generalizing w with
  | nil => exact .refl
  | cons cached replay ih =>
    refine ReflTransGen.trans (w.addCached_moves size fun hwants => ?_) (ih ?_ _)
    · exact hreplay cached List.mem_cons_self (HLSWorker.wants_media hwants)
    · exact fun c hc => hreplay c (List.mem_cons_of_mem _ hc)

variable {cfg : HLSConfig} {action : HLSAction}

/-- Every step prepares and then is a chain of moves with the frames the action
brings. -/
theorem step_moves {r r' : HLSRun} (h : step cfg r action = some r') :
    HLSMoves cfg.windowSize action.Frames (action.prepare r.worker.core) r'.worker.core := by
  unfold step at h
  split at h
  next setup replay _ =>
    cases h
    exact addCached_foldl_moves (fun cached hcached hmedia => ⟨hmedia, hcached⟩)
      (r.worker.configure setup)
  next position f _ =>
    split at h
    next hwants =>
      cases h
      exact r.worker.addLive_moves cfg ⟨HLSWorker.wants_media hwants.2, rfl⟩
    · cases h
      exact .refl
  next setup _ =>
    cases h
    exact .refl
  · cases h
    exact .refl
  · cases h
    exact .refl
  · cases h
    exact r.worker.finalize_moves cfg _
  · cases h
    exact .refl
  · simp at h

theorem step_phase {r r' : HLSRun} (h : step cfg r action = some r') :
    (∃ setup replay, action = .start setup replay) ∨ r.phase ≠ .idle := by
  by_cases hidle : r.phase = .idle
  · simp only [step, hidle] at h
    split at h
    next setup replay _ => exact .inl ⟨setup, replay, rfl⟩
    all_goals simp_all
  · exact .inr hidle

/-- What preparing and every move preserve holds after every run. -/
theorem invariant (Inv : HLSCore → Prop) {acts : List HLSAction} {r : HLSRun}
    (hinit : Inv ({} : HLSWorker).core)
    (hprepare : ∀ (a : HLSAction) c, Inv c → Inv (a.prepare c))
    (hmove : ∀ frames a b, Inv a → HLSMove cfg.windowSize frames a b → Inv b)
    (hrun : runFrom (step cfg) {} acts = some r) :
    Inv r.worker.core :=
  @runFrom_invariant _ _ _ (fun r => Inv r.worker.core) (fun _ a _ hs hstep =>
      (step_moves hstep).invariant (hmove _) (hprepare a _ hs)) _ _ _ hinit hrun

end HLSRun

end LiveForge.HttpStream
