import LiveForge.HttpStream.Discontinuity
import LiveForge.Support.Checked

/-!
# Low-latency requests

The methods of `llhls_manager.go` that the handlers call with numbers from paths
and queries, negative ones included.  `GetPartialSegment` tests an index against
one bound only.
-/

namespace LiveForge.HttpStream

open Support

/-- What a path or a query asks for. -/
inductive LLHLSRequest where
  | partialSegment (msn partIdx : ℤ)
  | fullSegment (msn : ℤ)
  | initSegment (version : Option Fmp4.InitSegment)
  | playlist (skip blocking : Bool)

inductive LLHLSReply where
  | notFound
  | data (data : Bytes)
  | init (data : Fmp4.InitSegment)
  | playlist (lines : List PlaylistLine)

/-- A part of a list that has more parts than the index says. -/
def partAt (parts : List LLHLSPart) (partIdx : ℤ) : Checked LLHLSReply :=
  if partIdx < parts.length then do
    let part ← indexInt parts partIdx
    return .data part.data
  else return .notFound

def seqBase (segments : List LLHLSSegment) : Checked ℕ :=
  if 0 < segments.length then LLHLSSegment.msn <$> index segments 0 else return 0

/-- `Generate` with its accesses to the segments. -/
def LLHLSPlaylist.generateChecked (p : LLHLSPlaylist) (segments : List LLHLSSegment)
    (currentParts : List LLHLSPart) (currentMSN : ℕ)
    (skip includeLatestCompletedParts : Bool) : Checked (List PlaylistLine) := do
  let first ← seqBase segments
  let startIdx := skipCount segments skip
  let skipped ← slice segments 0 startIdx
  let discontinuitySequence := skipped.countP LLHLSSegment.discontinuity
  let listed ← (List.range' startIdx (segments.length - startIdx)).mapM (index segments)
  return [.partInf p.partTarget, .mediaSequence first] ++
    (if 0 < startIdx then [.skip startIdx] else []) ++
    (if 0 < discontinuitySequence then [.discontinuitySequence discontinuitySequence] else []) ++
    p.body currentParts currentMSN includeLatestCompletedParts none listed

/-- The answer of the manager, or the panic of an access outside its list. -/
def LLHLSManager.answer (cfg : LLHLSConfig) (m : LLHLSManager) :
    LLHLSRequest → Checked LLHLSReply
  | .partialSegment msn partIdx =>
    match m.segments.find? fun seg => (seg.msn : ℤ) = msn with
    | some seg => partAt seg.parts partIdx
    | none => if m.currentMSN = msn then partAt m.currentParts partIdx else return .notFound
  | .fullSegment msn =>
    match m.segments.find? fun seg => (seg.msn : ℤ) = msn with
    | some seg => return .data (seg.parts.map LLHLSPart.data).flatten
    | none => return .notFound
  | .initSegment version => return (m.getInitSegmentVersion version).elim .notFound .init
  | .playlist skip blocking => LLHLSReply.playlist <$>
    (m.playlist cfg).generateChecked m.segments m.currentParts m.currentMSN skip blocking

/-- The request names no part before the first one of a segment that is there. -/
def LLHLSRequest.Within (m : LLHLSManager) : LLHLSRequest → Prop
  | .partialSegment msn partIdx =>
    0 ≤ partIdx ∨ (m.currentMSN : ℤ) ≠ msn ∧ ∀ seg ∈ m.segments, (seg.msn : ℤ) ≠ msn
  | _ => True

theorem safe_partAt {parts : List LLHLSPart} {partIdx : ℤ} :
    Safe (partAt parts partIdx) ↔ 0 ≤ partIdx := by
  unfold partAt
  split
  next hlt =>
    rw [safe_bind]
    constructor
    · rintro ⟨part, hpart, -⟩
      exact (safe_indexInt.mp ⟨part, hpart⟩).1
    · intro hnonneg
      obtain ⟨part, hpart⟩ := safe_indexInt.mpr ⟨hnonneg, hlt⟩
      exact ⟨part, hpart, safe_pure _⟩
  next hge => exact iff_of_true (safe_pure _) (by omega)

theorem mapM_index_range' {α : Type} {l : List α} (n : ℕ) {i : ℕ} (h : i + n = l.length) :
    (List.range' i n).mapM (index l) = .ok (l.drop i) := by
  induction n generalizing i with
  | zero =>
    rw [List.drop_eq_nil_of_le (show l.length ≤ i from h.ge)]
    rfl
  | succ n ih =>
    have hi : i < l.length := by omega
    rw [List.range'_succ, List.mapM_cons, ih (by omega),
      index_eq_ok.mpr (List.getElem?_eq_getElem hi), List.drop_eq_getElem_cons hi]
    rfl

theorem LLHLSPlaylist.generateChecked_eq (p : LLHLSPlaylist) (segments : List LLHLSSegment)
    (currentParts : List LLHLSPart) (currentMSN : ℕ) (skip includeParts : Bool) :
    p.generateChecked segments currentParts currentMSN skip includeParts =
      .ok (p.generate segments currentParts currentMSN skip includeParts) := by
  have hstart : skipCount segments skip ≤ segments.length := by
    unfold skipCount
    split <;> omega
  have hbase : seqBase segments = .ok ((segments.head?.map LLHLSSegment.msn).getD 0) := by
    cases segments <;> rfl
  unfold generateChecked
  dsimp only
  rw [hbase, slice_of_le (Nat.zero_le _) hstart, mapM_index_range' _ (by omega)]
  rfl

/-- A request is answered in every state of the manager unless it asks for a
part before the first one of a segment that is there. -/
theorem llhls_request_safe_iff (cfg : LLHLSConfig) (m : LLHLSManager) (request : LLHLSRequest) :
    Safe (m.answer cfg request) ↔ request.Within m := by
  cases request with
  | partialSegment msn partIdx =>
    unfold LLHLSManager.answer LLHLSRequest.Within
    dsimp only
    split
    next seg hseg =>
      have hmsn := List.find?_some hseg
      have hmem := List.mem_of_find?_eq_some hseg
      rw [safe_partAt]
      exact ⟨.inl, fun h => h.resolve_right fun hnone => hnone.2 seg hmem (by simpa using hmsn)⟩
    next hnone =>
      have hothers : ∀ seg ∈ m.segments, (seg.msn : ℤ) ≠ msn := by simpa using hnone
      split
      next heq => simp [safe_partAt, heq]
      next hne => exact iff_of_true (safe_pure _) (.inr ⟨hne, hothers⟩)
  | fullSegment msn =>
    refine iff_of_true ?_ trivial
    unfold LLHLSManager.answer
    dsimp only
    split <;> exact safe_pure _
  | initSegment version => exact iff_of_true (safe_pure _) trivial
  | playlist skip blocking =>
    rw [LLHLSManager.answer, LLHLSPlaylist.generateChecked_eq]
    exact iff_of_true ⟨_, rfl⟩ trivial

/-- The path `2.-1` asks for the part before the first one of the open segment. -/
theorem llhls_negative_part_panics :
    ∃ r, runFrom (LLHLSRun.step lowLatencyConfig) {} steadyRun = some r ∧
      r.segmenter.manager.answer lowLatencyConfig (.partialSegment 2 (-1)) =
        .error .indexOutOfRange :=
  ⟨_, rfl, rfl⟩

end LiveForge.HttpStream
