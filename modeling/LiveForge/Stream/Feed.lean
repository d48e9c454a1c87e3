import LiveForge.Stream.Parts

/-!
# The frames of one publisher

What consumers of a stream see of one publisher generation is the list of the
frames that were written, and the startup information the stream has collected
from them when it takes a snapshot.
-/

namespace LiveForge.Core

open StartupState

def isVideoHeader (f : AVFrame) : Bool :=
  f.mediaType.isVideo && decide (f.frameType = .sequenceHeader)

variable {f : AVFrame}

theorem isVideoHeader_eq_true :
    isVideoHeader f = true ↔ f.mediaType = .video ∧ f.frameType = .sequenceHeader := by
  simp [isVideoHeader]

/-- The latest video sequence header among the frames, or else the one from
before. -/
def headerBefore (announced : Option AVFrame) (frames : List AVFrame) : Option AVFrame :=
  frames.foldl (fun header f => if isVideoHeader f then some f else header)
    announced

/-- The generation of a publisher that announced `info`. -/
structure Feed where
  info : Option MediaInfo
  log : List AVFrame := []

namespace Feed

def write (feed : Feed) (f : AVFrame) : Feed :=
  { feed with log := feed.log ++ [f] }

def start (feed : Feed) : StartupState := StartupState.initial.restart feed.info

def startupAt (feed : Feed) (i : ℕ) : StartupState :=
  (feed.log.take i).foldl (fun s f => s.writeFrame f) feed.start

def headerAt (feed : Feed) (i : ℕ) : Option AVFrame :=
  headerBefore feed.start.videoSeqHeader (feed.log.take i)

def headers (feed : Feed) : List AVFrame :=
  feed.start.videoSeqHeader.toList ++ feed.log.filter isVideoHeader

end Feed

/-! ## The stream keeps the latest header -/

namespace StartupState

theorem writeFrame_videoSeqHeader (s : StartupState) (f : AVFrame) :
    (s.writeFrame f).videoSeqHeader = if isVideoHeader f then some f else s.videoSeqHeader := by
  have hready : ∀ s : StartupState, s.updateStartupReady.videoSeqHeader = s.videoSeqHeader := by
    intro s
    unfold updateStartupReady
    dsimp only
    split <;> rfl
  have hnoted : (s.noteCodec f).videoSeqHeader = s.videoSeqHeader := by
    unfold noteCodec
    split
    · rfl
    · split <;> rfl
  rw [writeFrame, hready]
  unfold storeSeqHeader annotate isVideoHeader AVFrame.isMedia
  cases hmedia : f.mediaType <;> cases htype : f.frameType <;>
    simp [markSource, hmedia, htype, hnoted]

theorem writeFrame_videoCodec (s : StartupState) (f : AVFrame) :
    (s.writeFrame f).mediaInfo.videoCodec =
      if f.mediaType.isVideo then f.codec else s.mediaInfo.videoCodec := by
  have hready : ∀ s : StartupState, s.updateStartupReady.mediaInfo = s.mediaInfo := by
    intro s
    unfold updateStartupReady
    dsimp only
    split <;> rfl
  have hstore : ∀ (s : StartupState) (g : AVFrame),
      (s.storeSeqHeader g).mediaInfo.videoCodec = s.mediaInfo.videoCodec := by
    intro s g
    unfold storeSeqHeader
    split
    · rfl
    · split <;> [rfl; (split <;> rfl)]
  rw [writeFrame, hready, hstore]
  unfold noteCodec
  split
  · rfl
  · split
    · split <;> rfl
    · rfl

end StartupState

namespace Feed

theorem startupAt_videoSeqHeader (feed : Feed) (i : ℕ) :
    (feed.startupAt i).videoSeqHeader = feed.headerAt i := by
  unfold startupAt headerAt headerBefore
  generalize feed.start = s
  induction feed.log.take i generalizing s with
  | nil => rfl
  | cons f frames ih =>
    rw [List.foldl_cons, List.foldl_cons, ih, writeFrame_videoSeqHeader]

/-! ## Writing -/

variable {feed : Feed} {h : AVFrame}

theorem startupAt_write (f : AVFrame) :
    (feed.write f).startupAt (feed.write f).log.length =
      (feed.startupAt feed.log.length).writeFrame f := by
  simp only [startupAt, write, List.take_length, List.foldl_append]
  rfl

theorem headerAt_write {i : ℕ} (hi : i ≤ feed.log.length) :
    (feed.write f).headerAt i = feed.headerAt i := by
  unfold headerAt write
  rw [List.take_append_of_le_length hi]
  rfl

theorem headers_write (f : AVFrame) :
    (feed.write f).headers = feed.headers ++ if isVideoHeader f then [f] else [] := by
  simp only [headers, write, List.filter_append, List.append_assoc]
  rw [List.filter_singleton, Bool.cond_eq_ite]
  rfl

theorem headerBefore_spec (announced : Option AVFrame) (frames : List AVFrame) :
    (headerBefore announced frames = none ↔ announced.toList ++ frames.filter isVideoHeader = []) ∧
      ∀ h, headerBefore announced frames = some h →
        h ∈ announced.toList ++ frames.filter isVideoHeader := by
  unfold headerBefore
  induction frames generalizing announced with
  | nil => cases announced <;> simp
  | cons f frames ih =>
    obtain ⟨hnone, hmem⟩ := ih (if isVideoHeader f then some f else announced)
    rw [List.foldl_cons, List.filter_cons]
    cases hheader : isVideoHeader f with
    | true =>
      simp only [hheader] at hnone hmem ⊢
      refine ⟨?_, fun h hh => ?_⟩
      · rw [hnone]
        simp
      · exact List.mem_append_right _ (by simpa using hmem h hh)
    | false =>
      simp only [hheader] at hnone hmem ⊢
      exact ⟨hnone, hmem⟩

theorem mem_headers_of_headerAt {i : ℕ} (hh : feed.headerAt i = some h) : h ∈ feed.headers := by
  have hmem := (headerBefore_spec _ _).2 h hh
  rcases List.mem_append.mp hmem with hstart | hlog
  · exact List.mem_append_left _ hstart
  · refine List.mem_append_right _ ?_
    exact ((List.take_sublist i feed.log).filter isVideoHeader).subset hlog

theorem headerAt_length_eq_none : feed.headerAt feed.log.length = none ↔ feed.headers = [] := by
  rw [headerAt, List.take_length]
  exact (headerBefore_spec _ _).1

theorem headerAt_isSome_of_le {i j : ℕ} (hij : i ≤ j) (hi : (feed.headerAt i).isSome) :
    (feed.headerAt j).isSome := by
  rw [Option.isSome_iff_ne_none] at hi ⊢
  intro hnone
  apply hi
  unfold headerAt at hnone ⊢
  rw [(headerBefore_spec _ _).1] at hnone ⊢
  rw [List.append_eq_nil_iff] at hnone ⊢
  refine ⟨hnone.1, ?_⟩
  have hsub := ((List.take_prefix_take_left hij :
    feed.log.take i <+: feed.log.take j).sublist).filter isVideoHeader
  rw [hnone.2] at hsub
  exact List.sublist_nil.mp hsub

/-! ## Publishers that repeat their header -/

/-- The frame fits the latest header: its codec is the same, and as a sequence
header it is the same. -/
def Repeats (feed : Feed) (f : AVFrame) : Prop :=
  f.mediaType = .video → ∀ h ∈ feed.headerAt feed.log.length,
    f.codec = h.codec ∧ (f.frameType = .sequenceHeader → f.payload = h.payload)

instance (feed : Feed) (f : AVFrame) : Decidable (feed.Repeats f) :=
  match h : feed.headerAt feed.log.length with
  | none => isTrue fun _ _ hh => by rw [h] at hh; simp at hh
  | some header =>
    decidable_of_iff (f.mediaType = .video → f.codec = header.codec ∧
      (f.frameType = .sequenceHeader → f.payload = header.payload))
      (by simp [Repeats, h])

/-- All headers are the same, and the stream has their codec. -/
structure Steady (feed : Feed) : Prop where
  same : ∀ h ∈ feed.headers, ∀ h' ∈ feed.headers, h.codec = h'.codec ∧ h.payload = h'.payload
  codec : ∀ h ∈ feed.headers, (feed.startupAt feed.log.length).mediaInfo.videoCodec = h.codec

theorem codec_of_start {info : Option MediaInfo}
    (hh : ({ info := info } : Feed).start.videoSeqHeader = some h) :
    ({ info := info } : Feed).start.mediaInfo.videoCodec = h.codec := by
  have hmerged : ∀ s : StartupState, (s.restart info).videoSeqHeader = (mergePublisherMediaInfo info
        { initial with
          startupStateChanged := s.startupStateChanged }).videoSeqHeader ∧
      (s.restart info).mediaInfo = (mergePublisherMediaInfo info
        { initial with
          startupStateChanged := s.startupStateChanged }).mediaInfo := by
    intro s
    unfold restart signal
    dsimp only
    split <;> exact ⟨rfl, rfl⟩
  rw [start, (hmerged _).1] at hh
  rw [start, (hmerged _).2]
  cases info with
  | none => simp [mergePublisherMediaInfo, initial] at hh
  | some info =>
    have hframe : seqHeaderFrame .video info.videoCodec info.videoSequenceHeader = some h := hh
    unfold seqHeaderFrame at hframe
    split_ifs at hframe
    rw [← Option.some.inj hframe]
    rfl

theorem steady_initial (info : Option MediaInfo) : Steady { info := info } := by
  have hheaders : ({ info := info } : Feed).headers =
      ({ info := info } : Feed).start.videoSeqHeader.toList := List.append_nil _
  constructor
  · intro h hh h' hh'
    rw [hheaders, Option.mem_toList] at hh hh'
    rw [Option.mem_unique hh hh']
    exact ⟨rfl, rfl⟩
  · intro h hh
    rw [hheaders, Option.mem_toList] at hh
    exact codec_of_start hh

theorem Steady.write (h : feed.Steady) (hf : feed.Repeats f) : (feed.write f).Steady := by
  -- a new header is the same as those before it
  have hnew : isVideoHeader f = true → ∀ g ∈ feed.headers,
      f.codec = g.codec ∧ f.payload = g.payload := by
    intro hheader g hg
    obtain ⟨hvideo, htype⟩ := isVideoHeader_eq_true.mp hheader
    cases hlast : feed.headerAt feed.log.length with
    | none =>
      rw [headerAt_length_eq_none.mp hlast] at hg
      simp at hg
    | some last =>
      obtain ⟨hcodec, hpayload⟩ := hf hvideo last hlast
      obtain ⟨hcodec', hpayload'⟩ := h.same last (mem_headers_of_headerAt hlast) g hg
      exact ⟨hcodec.trans hcodec', (hpayload htype).trans hpayload'⟩
  have hmem : ∀ g ∈ (feed.write f).headers, g ∈ feed.headers ∨ isVideoHeader f = true ∧ g = f := by
    intro g hg
    rw [headers_write] at hg
    rcases List.mem_append.mp hg with hold | hg
    · exact .inl hold
    · split at hg
      next hheader => exact .inr ⟨hheader, List.mem_singleton.mp hg⟩
      · simp at hg
  constructor
  · intro g hg g' hg'
    rcases hmem g hg with hold | ⟨hheader, rfl⟩ <;>
      rcases hmem g' hg' with hold' | ⟨hheader', rfl⟩
    · exact h.same g hold g' hold'
    · obtain ⟨hcodec, hpayload⟩ := hnew hheader' g hold
      exact ⟨hcodec.symm, hpayload.symm⟩
    · exact hnew hheader g' hold'
    · exact ⟨rfl, rfl⟩
  · intro g hg
    rw [startupAt_write, writeFrame_videoCodec]
    split
    next hvideo =>
      rcases hmem g hg with hold | ⟨-, rfl⟩
      · cases hlast : feed.headerAt feed.log.length with
        | none =>
          rw [headerAt_length_eq_none.mp hlast] at hold
          simp at hold
        | some last =>
          obtain ⟨hcodec, -⟩ := hf (MediaType.isVideo_eq_true.mp hvideo) last hlast
          exact hcodec.trans (h.same last (mem_headers_of_headerAt hlast) g hold).1
      · rfl
    next hvideo =>
      rcases hmem g hg with hold | ⟨hheader, -⟩
      · exact h.codec g hold
      · exact absurd (MediaType.isVideo_eq_true.mpr (isVideoHeader_eq_true.mp hheader).1) hvideo

end Feed

end LiveForge.Core
