import LiveForge.Stream.Feed
import LiveForge.Ts.Packets

/-!
# Parameter sets in front of keyframes

A decoder that starts at a keyframe needs the parameter sets of the sequence
header that was current when the keyframe was written.  The muxer has those of
the header it was made with.  A segment is current if its video stream has in
front of every keyframe the parameter sets of the header before it.
-/

namespace LiveForge.Ts

open Support LiveForge.Core

/-- A keyframe behind the parameter sets of a header. -/
def keyframeUnit (header frame : AVFrame) : Bytes :=
  parameterSets header.codec header.payload ++
    match header.codec with
    | .h264 => H264.avccToAnnexB frame.payload
    | .h265 => H265.hvccToAnnexB frame.payload
    | _ => frame.payload

/-- Every H.264 or H.265 keyframe among the frames of the segment is in the data
behind the parameter sets of the latest header before it. -/
def Current (feed : Feed) (data : Bytes) (placed : List (ℕ × AVFrame)) : Prop :=
  ∀ p ∈ placed, p.2.isVideoKeyframe → p.2.codec = .h264 ∨ p.2.codec = .h265 →
    ∀ h ∈ feed.headerAt p.1, keyframeUnit h p.2 <:+: elementary pidVideo data

/-- The muxer was made with a header like all those of the feed. -/
def Configured (feed : Feed) (m : Muxer) : Prop :=
  ∀ h ∈ feed.headers, m.videoCodec = h.codec ∧ m.videoSeqHeader = parameterSets h.codec h.payload

variable {feed : Feed} {m : Muxer} {data : Bytes} {placed : List (ℕ × AVFrame)}

theorem configured_newMuxer (hsteady : feed.Steady) {header : AVFrame}
    (hheader : header ∈ feed.headers) (audioCodec : CodecType) (audioSeqHeader : Bytes) :
    Configured feed (newMuxer header.codec audioCodec header.payload audioSeqHeader) := by
  intro h hh
  obtain ⟨hcodec, hpayload⟩ := hsteady.same header hheader h hh
  refine ⟨hcodec, ?_⟩
  show parameterSets header.codec header.payload = _
  rw [hcodec, hpayload]

theorem Configured.videoPayload (hm : Configured feed m) {i : ℕ} {header frame : AVFrame}
    (hheader : feed.headerAt i = some header) (hkeyframe : frame.frameType = .keyframe) :
    m.videoPayload frame = keyframeUnit header frame := by
  obtain ⟨hcodec, hsets⟩ := hm header (Feed.mem_headers_of_headerAt hheader)
  rw [Muxer.videoPayload, keyframeUnit, if_pos (by rw [hkeyframe]; rfl), hcodec, hsets]
  -- codecs without parameter sets are written as they are
  cases header.codec <;> rfl

/-! ## The muxer keeps its parameter sets -/

theorem writeFrame_configuration (m : Muxer) (frame : AVFrame) :
    (m.writeFrame frame).1.videoCodec = m.videoCodec ∧
      (m.writeFrame frame).1.videoSeqHeader = m.videoSeqHeader := by
  have hmedia : (m.writeMedia frame).1.videoCodec = m.videoCodec ∧
      (m.writeMedia frame).1.videoSeqHeader = m.videoSeqHeader := by
    unfold Muxer.writeMedia
    split <;> exact ⟨rfl, rfl⟩
  unfold Muxer.writeFrame
  split
  · exact ⟨rfl, rfl⟩
  · dsimp only
    split
    · exact hmedia
    · split
      · exact hmedia
      · exact hmedia

theorem Configured.writeFrame (hm : Configured feed m) (frame : AVFrame) :
    Configured feed (m.writeFrame frame).1 := by
  intro h hh
  obtain ⟨hcodec, hsets⟩ := writeFrame_configuration m frame
  rw [hcodec, hsets]
  exact hm h hh

/-- A header that is repeated changes nothing. -/
theorem Configured.write (hm : Configured feed m) {f : AVFrame} (hrepeats : feed.Repeats f)
    (hknown : isVideoHeader f = true → feed.headers ≠ []) :
    Configured (feed.write f) m := by
  intro h hh
  rw [Feed.headers_write] at hh
  rcases List.mem_append.mp hh with hold | hnew
  · exact hm h hold
  · split at hnew
    next hheader =>
      rw [List.mem_singleton.mp hnew]
      obtain ⟨hvideo, htype⟩ := isVideoHeader_eq_true.mp hheader
      cases hlast : feed.headerAt feed.log.length with
      | none => exact absurd (Feed.headerAt_length_eq_none.mp hlast) (hknown hheader)
      | some last =>
        obtain ⟨hcodec, hpayload⟩ := hrepeats hvideo last hlast
        rw [hcodec, hpayload htype]
        exact hm last (Feed.mem_headers_of_headerAt hlast)
    · simp at hnew

/-! ## Data in a buffer -/

/-- Data that consists of whole packets, and of which every video frame was
written where it says. -/
structure Holds (feed : Feed) (data : Bytes) (placed : List (ℕ × AVFrame)) : Prop where
  splits : ∀ rest, elementary pidVideo (data ++ rest) =
    elementary pidVideo data ++ elementary pidVideo rest
  located : ∀ p ∈ placed, p.2.mediaType = .video → feed.log[p.1]? = some p.2
  current : Current feed data placed

theorem holds_nil (feed : Feed) : Holds feed [] [] :=
  ⟨fun _ => rfl, by simp, fun p hp => by simp at hp⟩

theorem holds_tables (feed : Feed) (m : Muxer) : Holds feed m.writePATAndPMT.2 [] := by
  have htables := @elementary_rebuildPATandPMT { m with tablesSent := true }
    pidVideo (by decide) (by decide)
  refine ⟨fun rest => ?_, by simp, fun p hp => by simp at hp⟩
  have hempty := htables []
  rw [List.append_nil] at hempty
  exact (htables rest).trans (congrArg (· ++ elementary pidVideo rest) hempty.symm)

theorem Holds.writeFrame (h : Holds feed data placed) (hm : Configured feed m) {p : ℕ × AVFrame}
    (hlocated : p.2.mediaType = .video → feed.log[p.1]? = some p.2) :
    Holds feed (data ++ (m.writeFrame p.2).2)
      (if (m.writeFrame p.2).2 = [] then placed else placed ++ [p]) := by
  have hframe := elementary_writeFrame m p.2
  have hend := h.splits ((m.writeFrame p.2).2 ++ [])
  rw [hframe, elementary_nil, List.append_nil, List.append_nil] at hend
  have hsub : ∀ q ∈ (if (m.writeFrame p.2).2 = [] then placed
      else placed ++ [p]), q ∈ placed ∨ q = p := by
    intro q hq
    split at hq
    · exact .inl hq
    · simpa using hq
  refine ⟨?_, ?_, ?_⟩
  · intro rest
    rw [List.append_assoc, h.splits, hframe, hend, ← List.append_assoc]
  · intro q hq
    rcases hsub q hq with hold | rfl
    · exact h.located q hold
    · exact hlocated
  · intro q hq hkeyframe hcodec header hheader
    rw [hend]
    rcases hsub q hq with hold | rfl
    · exact (h.current q hold hkeyframe hcodec header hheader).trans
        (List.prefix_append _ _).isInfix
    · have hpayload := hm.videoPayload hheader hkeyframe.2
      have hmedia : q.2.mediaType = .video ∧ q.2.frameType ≠ .sequenceHeader :=
        ⟨hkeyframe.1, by rw [hkeyframe.2]; decide⟩
      rw [if_pos hmedia, Muxer.videoPES, hpayload, ← List.append_assoc]
      exact (List.suffix_append _ _).isInfix

theorem Holds.write (h : Holds feed data placed) (f : AVFrame) :
    Holds (feed.write f) data placed := by
  refine ⟨h.splits, ?_, ?_⟩
  · intro p hp hvideo
    have hold := h.located p hp hvideo
    rw [Feed.write, List.getElem?_append_left (List.getElem?_eq_some_iff.mp hold).1]
    exact hold
  · intro p hp hkeyframe hcodec header hheader
    have hold := h.located p hp hkeyframe.1
    rw [Feed.headerAt_write (List.getElem?_eq_some_iff.mp hold).1.le] at hheader
    exact h.current p hp hkeyframe hcodec header hheader

def Muxer.writeFrames (m : Muxer) : List AVFrame → Bytes
  | [] => []
  | frame :: rest => (m.writeFrame frame).2 ++ (m.writeFrame frame).1.writeFrames rest

/-- Among tables and audio, the packets of the video give the PES packets of all
video frames in their order, and nothing else. -/
theorem elementary_writeFrames (m : Muxer) (frames : List AVFrame) :
    elementary pidVideo (m.writeFrames frames) = (frames.filter fun frame =>
      frame.mediaType = .video ∧ frame.frameType ≠ .sequenceHeader).flatMap m.videoPES := by
  induction frames generalizing m with
  | nil => rfl
  | cons frame rest ih =>
    have hsame : (m.writeFrame frame).1.videoPES = m.videoPES := by
      obtain ⟨hcodec, hheader⟩ := writeFrame_configuration m frame
      funext f
      simp only [Muxer.videoPES, Muxer.videoPayload, hcodec, hheader]
    rw [Muxer.writeFrames, elementary_writeFrame, ih, hsame, List.filter_cons]
    split
    next hvideo => simp [hvideo]
    next hother => simp [hother]

end LiveForge.Ts
