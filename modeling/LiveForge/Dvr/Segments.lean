import Mathlib.Data.List.Chain
import LiveForge.Dvr.Current

/-!
# Recorded segments

What the segments of a DVR session begin with and how long they are.  A session
opens a file with whatever frame comes when none is open, and takes a segment to
end with its last frame.
-/

namespace LiveForge.Dvr

open Support Session

variable {s : Session} {input : Input} {frame : AVFrame}

/-- A session reads on whatever happens to its files. -/
def Session.read (cfg : DVRConfig) (s : Session) (input : Input) : Option Session :=
  some (s.accept cfg input)

/-! ## The first frame -/

def Begins (placed : List (ℕ × AVFrame)) : Prop :=
  ∃ p ∈ placed.head?, p.2.isVideoKeyframe

/-- All segments begin with a keyframe, and so does the open file, unless it is
empty and the frame at hand is one. -/
structure Begun (fresh : Prop) (s : Session) : Prop where
  video : s.audioOnly = false
  file : ∀ file ∈ s.segFile, Begins file.placed ∨ file.placed = [] ∧ fresh
  index : ∀ seg ∈ s.index, Begins seg.placed

/-- A frame of a track that finds no open file is a keyframe. -/
def OpensAtKeyframe (s : Session) (input : Input) : Prop :=
  s.segFile = none → s.frameAccepted input.frame = true →
    input.frame.frameType = .sequenceHeader ∨ input.frame.isVideoKeyframe

instance (s : Session) (input : Input) : Decidable (OpensAtKeyframe s input) :=
  inferInstanceAs (Decidable (_ → _ → _))

theorem writeFrame_ne_nil (m : Ts.Muxer) (h : frame.isVideoKeyframe) :
    (m.writeFrame frame).2 ≠ [] := by
  intro hnil
  have hvideo := Ts.elementary_writeFrame m frame []
  rw [hnil, if_pos ⟨h.1, by simp [h.2]⟩] at hvideo
  simp [Ts.Muxer.videoPES, Ts.buildPESHeader] at hvideo

namespace Begun

theorem closeSegment (h : Begun False s) (failed : Bool) (storage : Storage) :
    Begun False (s.closeSegment failed storage) := by
  unfold Session.closeSegment
  split
  · exact h
  next file hfile =>
    split
    · exact ⟨h.video, by simp [resetSegment], h.index⟩
    · have hbegins := (h.file file hfile).resolve_right And.right
      exact ⟨h.video, by simp [resetSegment], forall_mem_concat h.index hbegins⟩

theorem rotate (cfg : DVRConfig) (h : Begun False s)
    (hopens : s.segFile = none → frame.isVideoKeyframe) (storage : Storage) :
    Begun frame.isVideoKeyframe (s.rotate cfg frame storage) := by
  have hold {s : Session} (h : Begun False s) : Begun frame.isVideoKeyframe s :=
    { h with file := fun file hfile => (h.file file hfile).imp_right fun hnot => hnot.2.elim }
  unfold Session.rotate
  split
  next hrotates =>
    have hkey : frame.isVideoKeyframe := by
      rcases hrotates with hnone | hsplit
      · exact hopens hnone
      · simp only [shouldRotate, h.video, Bool.false_and, Bool.false_eq_true, if_false,
          Bool.and_eq_true, MediaType.isVideo_eq_true, FrameType.isKeyframe_eq_true] at hsplit
        exact hsplit.1
    have hclosed := hold (h.closeSegment false storage)
    unfold Session.openSegment
    split
    · refine { hclosed with file := fun file hfile => ?_ }
      cases hfile
      exact .inr ⟨rfl, hkey⟩
    · exact { hclosed with }
  · exact hold h

theorem append {data : Bytes} (h : Begun frame.isVideoKeyframe s)
    (hdata : frame.isVideoKeyframe → data ≠ []) (position : ℕ) (storage : Storage) :
    Begun False (s.append position frame data storage) := by
  unfold Session.append
  split
  next hnone => exact ⟨h.video, by simp [noteTimes, hnone], h.index⟩
  next file hopen =>
    split
    next hempty =>
      refine { h with file := fun f hf => (h.file f hf).imp_right fun hnew => ?_ }
      exact absurd hempty (hdata hnew.2)
    next hdata =>
      split
      · refine { h with file := fun f hf => .inl ?_ }
        cases hf
        rcases h.file file hopen with ⟨p, hp, hkey⟩ | ⟨hplaced, hkey⟩
        · exact ⟨p, by simp [Option.mem_def.mp hp], hkey⟩
        · exact ⟨(position, frame), by simp [hplaced], hkey⟩
      · rw [Session.closeSegment, hopen]
        exact ⟨h.video, by simp [resetSegment], h.index⟩

theorem accept (cfg : DVRConfig) (h : Begun False s) (hopens : OpensAtKeyframe s input) :
    Begun False (s.accept cfg input) := by
  unfold Session.accept
  split
  next haccepted =>
    unfold processFrame
    split
    · unfold noteHeader
      split <;> exact { h with }
    next hmedia =>
      have hrotated := rotate (s := { s with muxer := some s.currentMuxer }) cfg
        ⟨h.video, h.file, h.index⟩ (fun hnone => (hopens hnone haccepted).resolve_left hmedia)
        input.storage
      refine append ?_ (writeFrame_ne_nil _) _ _
      exact ⟨hrotated.video, hrotated.file, hrotated.index⟩
  · exact h

end Begun

/-- In every session on a stream with video whose frames find an open file or are
keyframes, every segment begins with a keyframe. -/
theorem segments_begin_with_keyframe (cfg : DVRConfig) (snapshot : DVRSnapshot)
    (hvideo : snapshot.videoCodec ≠ .none) (inputs : List Input) (s : Session)
    (hopens : StepsMeet OpensAtKeyframe (Session.read cfg) (({} : Session).configure snapshot)
      inputs)
    (hrun : runFrom (Session.read cfg) (({} : Session).configure snapshot) inputs = some s)
    (storage : Storage) :
    ∀ seg ∈ (s.closeSegment false storage).index, Begins seg.placed := by
  have hinitial : Begun False (({} : Session).configure snapshot) :=
    ⟨decide_eq_false hvideo, by simp [configure], by simp [configure]⟩
  have hstep : ∀ s input s', Begun False s → OpensAtKeyframe s input →
      Session.read cfg s input = some s' → Begun False s' :=
    fun s input s' h hopens hread => Option.some.inj hread ▸ h.accept cfg hopens
  have hbegun := runFrom_invariant_of_stepsMeet hstep hinitial hopens hrun
  exact (hbegun.closeSegment false storage).index

def cameraSnapshot : DVRSnapshot := ⟨.h264, .none, none, none, true, none⟩

def deltaAt (dts : ℤ) : AVFrame :=
  newAVFrame .video .h264 .interframe dts dts [0, 0, 0, 1, 0x41]

/-- A write fails before a keyframe comes. -/
def failedInputs : List Input :=
  [⟨0, idrAt 0, {}⟩, ⟨1, deltaAt 40, ⟨true, 0, true, false⟩⟩, ⟨2, idrAt 80, {}⟩,
    ⟨3, deltaAt 1080, {}⟩, ⟨4, idrAt 1120, {}⟩]

theorem segments_begin_with_keyframe_split :
    ∃ s, runFrom (Session.read oneSecond)
        (({} : Session).configure cameraSnapshot) failedInputs = some s ∧
      (s.closeSegment false {}).index.map Segment.startDTS = [80, 1120] ∧
      ∀ seg ∈ (s.closeSegment false {}).index, Begins seg.placed :=
  ⟨_, rfl, by decide +kernel, segments_begin_with_keyframe oneSecond cameraSnapshot (by decide)
    failedInputs _ (by decide +kernel) rfl {}⟩

/-- After a write that fails the next frame opens a file, whatever it is. -/
theorem segment_begins_mid_gop :
    ∃ s, runFrom (Session.read oneSecond) (({} : Session).configure cameraSnapshot)
      [⟨0, idrAt 0, {}⟩, ⟨1, deltaAt 40, ⟨true, 0, true, false⟩⟩, ⟨2, deltaAt 80, {}⟩] = some s ∧
      ∃ seg ∈ (s.closeSegment false {}).index, ¬ Begins seg.placed := by
  refine ⟨_, rfl, _, List.mem_singleton_self _, ?_⟩
  rintro ⟨p, ⟨⟩, -, hkey⟩
  cases hkey

/-! ## Durations -/

/-- No file fails, and a frame at which a segment ends has the time of the last
frame of the segment. -/
def SplitsAtLast (cfg : DVRConfig) (s : Session) (input : Input) : Prop :=
  (input.storage.publishes ∧ input.storage.opens ∧ input.storage.writes) ∧
    (s.frameAccepted input.frame → input.frame.frameType ≠ .sequenceHeader → s.segFile.isSome →
      s.shouldRotate cfg input.frame → input.frame.dts = s.lastDTS)

instance (cfg : DVRConfig) (s : Session) (input : Input) : Decidable (SplitsAtLast cfg s input) :=
  inferInstanceAs (Decidable (_ ∧ (_ → _ → _ → _ → _)))

def Segment.Meets (seg next : Segment) : Prop :=
  seg.startDTS + seg.duration = next.startDTS

/-- The segments meet, and the last one meets the open file. -/
structure Chained (s : Session) : Prop where
  index : s.index.IsChain Segment.Meets
  last : ∀ seg ∈ s.index.getLast?, s.segFile.isSome ∧ 0 ≤ s.segStartDTS ∧
    seg.startDTS + seg.duration = s.segStartDTS

theorem finishedSegment_end {cfg : DVRConfig} (h : s.shouldRotate cfg frame = true)
    (file : SegmentFile) :
    0 ≤ s.lastDTS ∧
      (s.finishedSegment file).startDTS + (s.finishedSegment file).duration = s.lastDTS := by
  have hsplit : s.shouldSplit cfg = true := by
    unfold shouldRotate at h
    split at h
    · exact h
    · exact (Bool.and_eq_true_iff.mp h).2
  obtain ⟨hstart, hlong⟩ := Bool.and_eq_true_iff.mp hsplit
  have hstart := of_decide_eq_true hstart
  have hlong := of_decide_eq_true hlong
  have hlonger : s.segStartDTS < s.lastDTS := by
    unfold nanosPerMilli at hlong
    split_ifs at hlong <;> omega
  refine ⟨by omega, ?_⟩
  simp [finishedSegment, hstart, hlonger]

namespace Chained

theorem closeSegment (h : Chained s) (storage : Storage) :
    (s.closeSegment false storage).index.IsChain Segment.Meets := by
  unfold Session.closeSegment
  split
  · exact h.index
  next file _ =>
    split
    · exact h.index
    · refine h.index.append (List.isChain_singleton _) ?_
      rintro seg hseg next ⟨⟩
      exact (h.last seg hseg).2.2

theorem rotate {cfg : DVRConfig} {storage : Storage} (h : Chained s)
    (hstorage : storage.publishes ∧ storage.opens)
    (hlast : s.segFile.isSome → s.shouldRotate cfg frame → frame.dts = s.lastDTS) :
    Chained ((s.rotate cfg frame storage).noteTimes frame) := by
  unfold Session.rotate
  split
  next hrotates =>
    have hindex := h.closeSegment storage
    cases hfile : s.segFile with
    | none =>
      have hclosed : s.closeSegment false storage = s := by rw [Session.closeSegment, hfile]
      rw [hclosed, Session.openSegment, if_pos hstorage.2]
      refine ⟨h.index, fun seg hseg => ?_⟩
      simpa [hfile] using (h.last seg hseg).1
    | some file =>
      have hsplit := hrotates.resolve_left (by simp [hfile])
      obtain ⟨hend, hmeets⟩ := finishedSegment_end hsplit file
      have hdts := hlast (by simp [hfile]) hsplit
      rw [Session.openSegment, if_pos hstorage.2]
      refine ⟨hindex, ?_⟩
      simp [Session.closeSegment, hfile, hstorage.1, resetSegment, noteTimes, hmeets, hdts, hend]
  · refine ⟨h.index, fun seg hseg => ?_⟩
    obtain ⟨hopen, hstart, hmeets⟩ := h.last seg hseg
    simp only [noteTimes, if_neg (Int.not_lt.mpr hstart)]
    exact ⟨hopen, hstart, hmeets⟩

theorem append {storage : Storage} (h : Chained (s.noteTimes frame)) (hwrites : storage.writes)
    (position : ℕ) (data : Bytes) :
    Chained (s.append position frame data storage) := by
  unfold Session.append
  split
  · exact h
  · split
    · exact h
    · exact ⟨h.index, fun seg hseg => ⟨rfl, (h.last seg hseg).2⟩⟩

theorem accept {cfg : DVRConfig} (h : Chained s) (hsplits : SplitsAtLast cfg s input) :
    Chained (s.accept cfg input) := by
  obtain ⟨⟨hpublishes, hopens, hwrites⟩, hlast⟩ := hsplits
  unfold Session.accept
  split
  next haccepted =>
    unfold processFrame
    split
    · unfold noteHeader
      split <;> exact { h with }
    next hmedia =>
      have hrotated := rotate (s := { s with muxer := some s.currentMuxer })
        ⟨h.index, h.last⟩ ⟨hpublishes, hopens⟩ (hlast haccepted hmedia)
      refine append ?_ hwrites _ _
      exact ⟨hrotated.index, hrotated.last⟩
  · exact h

end Chained

theorem sum_durations {first last : Segment} {run : List Segment}
    (h : (first :: (run ++ [last])).IsChain Segment.Meets) :
    first.startDTS + ((first :: run).map Segment.duration).sum = last.startDTS := by
  induction run generalizing first with
  | nil => simpa [Segment.Meets] using h
  | cons next run ih =>
    obtain ⟨hmeets, hrest⟩ := List.isChain_cons_cons.mp h
    have hsum := ih hrest
    simp only [Segment.Meets, List.map_cons, List.sum_cons] at hmeets hsum ⊢
    omega

/-- In every session without a storage failure whose segments end at a frame with
the time of the frame before, the durations of segments in a row, also of a
single one, add up to the time until the next one. -/
theorem durations_add_up (cfg : DVRConfig) (snapshot : DVRSnapshot) (inputs : List Input)
    (s : Session)
    (hsplits : StepsMeet (SplitsAtLast cfg) (Session.read cfg)
      (({} : Session).configure snapshot) inputs)
    (hrun : runFrom (Session.read cfg) (({} : Session).configure snapshot) inputs = some s)
    (storage : Storage) (first : Segment) (run : List Segment) (last : Segment)
    (hrow : first :: (run ++ [last]) <:+: (s.closeSegment false storage).index) :
    first.startDTS + ((first :: run).map Segment.duration).sum = last.startDTS := by
  have hinitial : Chained (({} : Session).configure snapshot) := ⟨.nil, by simp [configure]⟩
  have hstep : ∀ s input s', Chained s → SplitsAtLast cfg s input →
      Session.read cfg s input = some s' → Chained s' :=
    fun s input s' h hsplits hread => Option.some.inj hread ▸ h.accept hsplits
  have hchained := runFrom_invariant_of_stepsMeet hstep hinitial hsplits hrun
  have hchain := List.IsChain.infix (hchained.closeSegment storage) hrow
  exact sum_durations hchain

def tiedInputs : List Input :=
  [⟨0, idrAt 0, {}⟩, ⟨1, deltaAt 1000, {}⟩, ⟨2, idrAt 1000, {}⟩]

/-- The second segment begins with the time of the last frame of the first. -/
theorem durations_add_up_tied :
    ∃ s first last, runFrom (Session.read oneSecond) (({} : Session).configure cameraSnapshot)
      tiedInputs = some s ∧ (s.closeSegment false {}).index = [first, last] ∧
      first.startDTS + ([first].map Segment.duration).sum = last.startDTS :=
  ⟨_, _, _, rfl, rfl, durations_add_up oneSecond cameraSnapshot tiedInputs _ (by decide +kernel)
    rfl {} _ [] _ (List.infix_refl _)⟩

def splitInputs : List Input :=
  [⟨0, idrAt 0, {}⟩, ⟨1, deltaAt 1000, {}⟩, ⟨2, idrAt 1040, {}⟩]

/-- The time between the last frame of a segment and the keyframe that ends it is
in no duration. -/
theorem gap_in_no_duration :
    ∃ s first last, runFrom (Session.read oneSecond) (({} : Session).configure cameraSnapshot)
      splitInputs = some s ∧ (s.closeSegment false {}).index = [first, last] ∧
      first.startDTS + first.duration = 1000 ∧ last.startDTS = 1040 :=
  ⟨_, _, _, rfl, rfl, by decide +kernel⟩

end LiveForge.Dvr
