import LiveForge.Record.Sync
import LiveForge.Support.Run

/-!
# What a recording holds back

The frames a writer keeps until it can write them.  They are no more than the
frames since the last keyframe of the video if every frame comes when the
sequence headers of the declared tracks are known.
-/

namespace LiveForge.Record

open Support

/-- Frames since the last keyframe of the video; headers do not count. -/
def sinceKeyframe (n : ℕ) (frame : AVFrame) : ℕ :=
  if frame.frameType = .sequenceHeader then n
  else if frame.mediaType = .video ∧ frame.frameType = .keyframe then 0
  else n + 1

namespace Fmp4FrameWriter

def held (w : Fmp4FrameWriter) : ℕ :=
  w.gopBuffer.length + w.pendingFrames.length

/-- The frame is a header, or need not wait for one. -/
def HeadersKnown (state : Fmp4FrameWriter × List Chunk) (frame : AVFrame) : Prop :=
  frame.frameType = .sequenceHeader ∨ state.1.initDone ∨
    ¬ (state.1.expectedTracksSet ∧ ¬ state.1.tracksReady)

instance (state : Fmp4FrameWriter × List Chunk) (frame : AVFrame) :
    Decidable (HeadersKnown state frame) :=
  inferInstanceAs (Decidable (_ ∨ _))

/-- What waits after `n` frames since the last keyframe. -/
def Waits (n : ℕ) (w : Fmp4FrameWriter) : Prop :=
  w.gopBuffer.length ≤ n + 1 ∧ w.pendingFrames = []

variable {refuses : List Chunk → Bool} {w w' : Fmp4FrameWriter} {file file' : List Chunk}
  {frame : AVFrame} {frames : List AVFrame} {n : ℕ} {state state' : Fmp4FrameWriter × List Chunk}

theorem Waits.writeMediaFrame (hw : w.Waits n) (hframe : frame.frameType ≠ .sequenceHeader)
    (h : w.writeMediaFrame refuses frame file = .ok (w', file')) :
    w'.Waits (sinceKeyframe n frame) := by
  obtain ⟨-, -, hgop, hpending⟩ := w.setBase_rest frame
  rw [sinceKeyframe, if_neg hframe]
  unfold Fmp4FrameWriter.writeMediaFrame at h
  dsimp only at h
  split_ifs at h with hflush
  · obtain ⟨_, _, heq⟩ := map_eq_ok.mp h
    cases heq
    exact ⟨by simp, hpending.trans hw.2⟩
  · cases h
    refine ⟨?_, hpending.trans hw.2⟩
    rw [hgop] at hflush ⊢
    rw [List.length_append, List.length_singleton]
    split_ifs with hkey
    · -- a keyframe that finds nothing to write
      have hempty : w.gopBuffer = [] := by
        by_contra hne
        exact hflush ⟨hkey.1, hkey.2, hne⟩
      simp [hempty]
    · exact Nat.succ_le_succ hw.1

theorem Waits.writeFrame (hw : state.1.Waits n) (hknown : HeadersKnown state frame)
    (h : writeFrame refuses state frame = .ok state') :
    state'.1.Waits (sinceKeyframe n frame) := by
  unfold Fmp4FrameWriter.writeFrame at h
  dsimp only at h
  split_ifs at h with hheader hflush hdone hwait
  · have hnone : (state.1.noteHeader frame).pendingFrames = [] := by
      unfold noteHeader
      split <;> exact hw.2
    exact absurd hnone hflush.2.2
  · cases h
    rw [sinceKeyframe, if_pos hheader]
    unfold noteHeader
    split <;> exact hw
  · exact hw.writeMediaFrame hheader h
  · simp [HeadersKnown, hheader, hdone, hwait] at hknown
  · obtain ⟨started, hstarted, hwritten⟩ := bind_eq_ok.mp h
    obtain ⟨_, _, heq⟩ := map_eq_ok.mp hstarted
    cases heq
    exact Waits.writeMediaFrame (w := { state.1 with muxer := _, initDone := true })
      hw hheader hwritten

theorem Waits.foldlM (hw : state.1.Waits n)
    (hknown : StepsMeet HeadersKnown (fun state frame =>
      (Fmp4FrameWriter.writeFrame refuses state frame).toOption) state frames)
    (hrun : frames.foldlM (Fmp4FrameWriter.writeFrame refuses) state = .ok state') :
    state'.1.Waits (frames.foldl sinceKeyframe n) := by
  induction frames generalizing n state with
  | nil =>
    cases hrun
    exact hw
  | cons frame frames ih =>
    obtain ⟨next, hstep, hrest⟩ := bind_eq_ok.mp hrun
    exact ih (hw.writeFrame hknown.1 hstep) (hknown.2 next (by simp [hstep, Except.toOption])) hrest

/-- While no frame has to wait for a header, the frames held are those since the
last keyframe of the video. -/
theorem held_le_sinceKeyframe (hgop : w.gopBuffer = []) (hpending : w.pendingFrames = [])
    (hknown : StepsMeet HeadersKnown (fun state frame =>
      (writeFrame refuses state frame).toOption) (w, file) frames)
    (hrun : frames.foldlM (writeFrame refuses) (w, file) = .ok state) :
    state.1.held ≤ frames.foldl sinceKeyframe 0 + 1 := by
  have hstart : Waits 0 (w, file).1 := ⟨by simp [hgop], hpending⟩
  have hwaits := hstart.foldlM hknown hrun
  rw [held, hwaits.2]
  exact hwaits.1

/-- Two groups of pictures, with audio. -/
def twoGroups : List AVFrame :=
  sequenceHeaders ++ [pictureAt .keyframe 0, Fmp4.audioAt 0, pictureAt .interframe 40,
    pictureAt .keyframe 80, Fmp4.audioAt 84, pictureAt .interframe 120]

theorem held_le_sinceKeyframe_keyframe :
    ∃ state, twoGroups.foldlM (writeFrame fun _ => false) (declared, []) = .ok state ∧
      state.1.held = 3 ∧ state.1.held ≤ 3 :=
  ⟨_, rfl, rfl, @held_le_sinceKeyframe (fun _ => false) declared [] twoGroups _ rfl rfl
    (by decide) rfl⟩

theorem foldlM_audio (hdone : w.initDone = true) (hset : w.audioBaseSet = true)
    (haudio : frame.mediaType = .audio) (hframe : frame.frameType ≠ .sequenceHeader) (n : ℕ) :
    (List.replicate n frame).foldlM (writeFrame refuses) (w, file) =
      .ok ({ w with gopBuffer := w.gopBuffer ++ List.replicate n frame }, file) := by
  induction n generalizing w with
  | zero =>
    rw [List.replicate_zero, List.append_nil]
    rfl
  | succ n ih =>
    have hstep : writeFrame refuses (w, file) frame =
        .ok ({ w with gopBuffer := w.gopBuffer ++ [frame] }, file) := by
      simp [writeFrame, writeMediaFrame, setBase, hdone, hset, haudio, hframe]
    have hrest := ih (w := { w with gopBuffer := w.gopBuffer ++ [frame] }) hdone hset
    rw [List.append_assoc] at hrest
    exact bind_eq_ok.mpr ⟨_, hstep, hrest⟩

/-- Audio alone is held until the recording ends. -/
theorem held_unbounded :
    ¬ ∃ bound, ∀ n state,
      (newAVFrame .audio .aac .sequenceHeader 0 0 [0x12, 0x10] ::
        List.replicate (n + 1) (newAVFrame .audio .aac .interframe 0 0 [1])).foldlM
        (writeFrame fun _ => false) (setExpectedTracks {} .none .aac, []) = .ok state →
        state.1.held ≤ bound := by
  rintro ⟨bound, h⟩
  have hle : (newAVFrame .audio .aac .interframe 0 0 [1] :: List.replicate bound _).length ≤
      bound :=
    h bound _ (bind_eq_ok.mpr ⟨_, rfl, bind_eq_ok.mpr
      ⟨_, rfl, foldlM_audio rfl rfl rfl (by decide) bound⟩⟩)
  simp at hle

end Fmp4FrameWriter

end LiveForge.Record
