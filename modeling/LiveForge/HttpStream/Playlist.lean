import LiveForge.HttpStream.LowLatency

/-!
# Playlists and what a client reads from them

`llhls_playlist.go` of `module/httpstream`.  A playlist is modelled as the list
of its lines, without those for segment targets, hold back and the like.  A
client numbers what it reads: it starts from the media sequence and discontinuity
sequence of the head, counts on with every segment and every discontinuity, and
a part belongs to the segment that follows it.
-/

namespace LiveForge.HttpStream

open Support

/-! ## Lines -/

/-- Segments and parts are addressed by the numbers in their URIs. -/
inductive PlaylistLine where
  | partInf (partTarget : ℤ)
  | mediaSequence (number : ℕ)
  | skip (skippedSegments : ℕ)
  | discontinuitySequence (number : ℕ)
  | map (version : Option Fmp4.InitSegment)
  | discontinuity
  | part (msn index : ℕ) (duration : ℤ) (independent : Bool)
  | extinf (duration : ℤ)
  | segment (msn : ℕ)
  | preloadHint (msn index : ℕ)

def writePart (msn : ℕ) (part : LLHLSPart) : List PlaylistLine :=
  (if part.discontinuity then [.discontinuity] else []) ++
    [.part msn part.index part.duration part.independent]

structure LLHLSPlaylist where
  partTarget : ℤ
  container : Container
  initVersion : Option Fmp4.InitSegment

namespace LLHLSPlaylist

/-- The init segment is named again when it is another one than the last one
named. -/
def writeInitMap (p : LLHLSPlaylist) (written : Option (Option Fmp4.InitSegment))
    (version : Option Fmp4.InitSegment) : List PlaylistLine :=
  if p.container ≠ .fmp4 ∨ written = some (version.or p.initVersion) then []
  else [.map (version.or p.initVersion)]

def initWritten (p : LLHLSPlaylist) (written : Option (Option Fmp4.InitSegment))
    (version : Option Fmp4.InitSegment) : Option (Option Fmp4.InitSegment) :=
  if p.container ≠ .fmp4 then written else some (version.or p.initVersion)

/-- A completed segment.  Its parts are named for the latest one, if they are
asked for. -/
def segmentLines (seg : LLHLSSegment) (withParts : Bool) : List PlaylistLine :=
  let parts := if withParts then seg.parts.flatMap (writePart seg.msn) else []
  let wroteDiscontinuity :=
    withParts && seg.parts.any LLHLSPart.discontinuity
  parts ++
    (if seg.discontinuity && !wroteDiscontinuity then [.discontinuity] else []) ++
    [.extinf seg.duration, .segment seg.msn]

/-- The completed segments, then the parts of the open one and the hint. -/
def body (p : LLHLSPlaylist) (currentParts : List LLHLSPart) (currentMSN : ℕ)
    (includeLatestCompletedParts : Bool) :
    Option (Option Fmp4.InitSegment) → List LLHLSSegment → List PlaylistLine
  | written, seg :: rest =>
    p.writeInitMap written seg.initVersion ++
      segmentLines seg (includeLatestCompletedParts && rest.isEmpty) ++
      body p currentParts currentMSN includeLatestCompletedParts
        (p.initWritten written seg.initVersion) rest
  | written, [] =>
    let parts := currentParts.foldl (fun lines part =>
      (lines.1 ++ p.writeInitMap lines.2 part.initVersion ++ writePart currentMSN part,
        p.initWritten lines.2 part.initVersion)) ([], written)
    parts.1 ++ p.writeInitMap parts.2 p.initVersion ++ [.preloadHint currentMSN currentParts.length]

def skipCount (segments : List LLHLSSegment) (skip : Bool) : ℕ :=
  if skip then segments.length - 2 else 0

def generate (p : LLHLSPlaylist) (segments : List LLHLSSegment) (currentParts : List LLHLSPart)
    (currentMSN : ℕ) (skip includeLatestCompletedParts : Bool) : List PlaylistLine :=
  let startIdx := skipCount segments skip
  let discontinuitySequence :=
    (segments.take startIdx).countP LLHLSSegment.discontinuity
  [.partInf p.partTarget, .mediaSequence ((segments.head?.map LLHLSSegment.msn).getD 0)] ++
    (if 0 < startIdx then [.skip startIdx] else []) ++
    (if 0 < discontinuitySequence then
      [.discontinuitySequence discontinuitySequence]
    else []) ++
    p.body currentParts currentMSN includeLatestCompletedParts none (segments.drop startIdx)

end LLHLSPlaylist

def LLHLSManager.playlist (cfg : LLHLSConfig) (m : LLHLSManager) : LLHLSPlaylist where
  partTarget := cfg.partDuration
  container := cfg.container
  initVersion := m.initVersion

/-- The playlist of a manager; `blocking` requests get the latest completed
parts too. -/
def LLHLSManager.generatePlaylist (cfg : LLHLSConfig) (m : LLHLSManager)
    (skip blocking : Bool) : List PlaylistLine :=
  (m.playlist cfg).generate m.segments m.currentParts m.currentMSN skip blocking

/-! ## Clients -/

/-- Something a playlist names: the number in its URI with the index of a part,
and the numbers a client gives it. -/
structure PlaylistEntry where
  msn : ℕ
  part : Option ℕ
  listed : Bool
  number : ℕ
  discontinuity : ℕ
  deriving DecidableEq

/-- What a client makes of the lines, from a media sequence number and a
discontinuity number on. -/
def readPlaylist (number discontinuity : ℕ) : List PlaylistLine → List PlaylistEntry
  | [] => []
  | .mediaSequence n :: rest => readPlaylist n discontinuity rest
  | .skip n :: rest => readPlaylist (number + n) discontinuity rest
  | .discontinuitySequence n :: rest => readPlaylist number n rest
  | .discontinuity :: rest => readPlaylist number (discontinuity + 1) rest
  | .part msn index _ _ :: rest =>
    { msn, part := some index, listed := true, number, discontinuity } ::
      readPlaylist number discontinuity rest
  | .segment msn :: rest =>
    { msn, part := none, listed := true, number, discontinuity } ::
      readPlaylist (number + 1) discontinuity rest
  | .preloadHint msn index :: rest =>
    { msn, part := some index, listed := false, number, discontinuity } ::
      readPlaylist number discontinuity rest
  | _ :: rest => readPlaylist number discontinuity rest

def playlistEntries (lines : List PlaylistLine) : List PlaylistEntry :=
  readPlaylist 0 0 lines

/-! ## Reading what was generated -/

def partEntries (msn number : ℕ) : ℕ → List LLHLSPart → List PlaylistEntry
  | _, [] => []
  | discontinuity, part :: rest =>
    let discontinuity := discontinuity + part.discontinuity.toNat
    { msn, part := some part.index, listed := true, number, discontinuity } ::
      partEntries msn number discontinuity rest

open LLHLSPlaylist

theorem readPlaylist_writeInitMap (p : LLHLSPlaylist) (written : Option (Option Fmp4.InitSegment))
    (version : Option Fmp4.InitSegment) (number discontinuity : ℕ) (rest : List PlaylistLine) :
    readPlaylist number discontinuity (p.writeInitMap written version ++ rest) =
      readPlaylist number discontinuity rest := by
  unfold writeInitMap
  split <;> rfl

theorem readPlaylist_writePart (msn number discontinuity : ℕ) (part : LLHLSPart)
    (rest : List PlaylistLine) :
    readPlaylist number discontinuity (writePart msn part ++ rest) =
      { msn, part := some part.index, listed := true, number
        discontinuity := discontinuity + part.discontinuity.toNat } ::
        readPlaylist number (discontinuity + part.discontinuity.toNat) rest := by
  unfold writePart
  cases part.discontinuity <;> rfl

theorem countP_discontinuity_cons (part : LLHLSPart) (parts : List LLHLSPart) :
    (part :: parts).countP LLHLSPart.discontinuity =
      part.discontinuity.toNat + parts.countP LLHLSPart.discontinuity := by
  rw [List.countP_cons, Nat.add_comm]
  cases part.discontinuity <;> rfl

theorem readPlaylist_parts (msn number discontinuity : ℕ)
    (parts : List LLHLSPart) (rest : List PlaylistLine) :
    readPlaylist number discontinuity (parts.flatMap (writePart msn) ++ rest) =
      partEntries msn number discontinuity parts ++ readPlaylist number
          (discontinuity + parts.countP LLHLSPart.discontinuity) rest := by
  induction parts generalizing discontinuity with
  | nil => rfl
  | cons part parts ih =>
    rw [List.flatMap_cons, List.append_assoc, readPlaylist_writePart, ih,
      countP_discontinuity_cons, ← Nat.add_assoc]
    rfl

theorem readPlaylist_currentParts (p : LLHLSPlaylist) (msn number : ℕ)
    (parts : List LLHLSPart) (rest : List PlaylistLine)
    (lines : List PlaylistLine × Option (Option Fmp4.InitSegment)) :
    ∃ more written, parts.foldl (fun lines part =>
        (lines.1 ++ p.writeInitMap lines.2 part.initVersion ++
            writePart msn part, p.initWritten lines.2 part.initVersion)) lines =
        (lines.1 ++ more, written) ∧
      ∀ discontinuity, readPlaylist number discontinuity (more ++ rest) =
        partEntries msn number discontinuity parts ++ readPlaylist number
            (discontinuity + parts.countP LLHLSPart.discontinuity) rest := by
  induction parts generalizing lines with
  | nil => exact ⟨[], lines.2, by simp, fun _ => rfl⟩
  | cons part parts ih =>
    obtain ⟨more, written, hfold, hread⟩ :=
      ih (lines.1 ++ p.writeInitMap lines.2 part.initVersion ++
        writePart msn part, p.initWritten lines.2 part.initVersion)
    refine ⟨p.writeInitMap lines.2 part.initVersion ++
      (writePart msn part ++ more), written, ?_, ?_⟩
    · rw [List.foldl_cons, hfold]
      simp
    · intro discontinuity
      rw [List.append_assoc, readPlaylist_writeInitMap, List.append_assoc,
        readPlaylist_writePart, hread, countP_discontinuity_cons,
        ← Nat.add_assoc]
      rfl

/-- A segment says that it starts after a discontinuity if one of its parts
does, and no two of them do. -/
def LLHLSSegment.Marked (seg : LLHLSSegment) : Prop :=
  seg.parts.countP LLHLSPart.discontinuity = seg.discontinuity.toNat

instance (seg : LLHLSSegment) : Decidable seg.Marked :=
  inferInstanceAs (Decidable (_ = _))

def segmentEntries (currentParts : List LLHLSPart) (currentMSN : ℕ)
    (withParts : Bool) : ℕ → ℕ → List LLHLSSegment → List PlaylistEntry
  | number, discontinuity, [] =>
    partEntries currentMSN number discontinuity currentParts ++
      [{ msn := currentMSN, part := some currentParts.length, listed := false
         number
         discontinuity := discontinuity +
           currentParts.countP LLHLSPart.discontinuity }]
  | number, discontinuity, seg :: rest =>
    (if withParts && rest.isEmpty then
        partEntries seg.msn number discontinuity seg.parts
      else []) ++
      { msn := seg.msn, part := none, listed := true, number
        discontinuity := discontinuity + seg.discontinuity.toNat } ::
      segmentEntries currentParts currentMSN withParts (number + 1)
        (discontinuity + seg.discontinuity.toNat) rest

theorem readPlaylist_segmentLines {seg : LLHLSSegment} (hseg : seg.Marked)
    (withParts : Bool) (number discontinuity : ℕ) (rest : List PlaylistLine) :
    readPlaylist number discontinuity (LLHLSPlaylist.segmentLines seg withParts ++ rest) =
      (if withParts then partEntries seg.msn number discontinuity seg.parts
        else []) ++
        { msn := seg.msn, part := none, listed := true, number
          discontinuity := discontinuity + seg.discontinuity.toNat } ::
        readPlaylist (number + 1) (discontinuity + seg.discontinuity.toNat)
          rest := by
  unfold segmentLines
  cases withParts with
  | false => cases hdisc : seg.discontinuity <;> rfl
  | true =>
    have hany : seg.parts.any LLHLSPart.discontinuity = seg.discontinuity := by
      unfold LLHLSSegment.Marked at hseg
      cases hdisc : seg.discontinuity with
      | true =>
        rw [hdisc] at hseg
        simpa using List.countP_pos_iff.mp
          (show 0 < seg.parts.countP LLHLSPart.discontinuity by
            rw [hseg]; decide)
      | false =>
        rw [hdisc] at hseg
        simpa using List.countP_eq_zero.mp hseg
    have hnone : (seg.discontinuity &&
        !(true && seg.parts.any LLHLSPart.discontinuity)) = false := by
      rw [hany]
      cases seg.discontinuity <;> rfl
    simp only [hnone, if_true, Bool.false_eq_true, if_false, List.append_nil]
    rw [List.append_assoc, readPlaylist_parts, hseg]
    rfl

variable {segments : List LLHLSSegment}

theorem readPlaylist_body (p : LLHLSPlaylist) (currentParts : List LLHLSPart) (currentMSN : ℕ)
    (withParts : Bool) (written : Option (Option Fmp4.InitSegment))
    (hmarked : ∀ seg ∈ segments, seg.Marked) (number discontinuity : ℕ) :
    readPlaylist number discontinuity (p.body currentParts currentMSN withParts written segments) =
      segmentEntries currentParts currentMSN withParts number discontinuity segments := by
  induction segments generalizing written number discontinuity with
  | nil =>
    obtain ⟨more, written', hfold, hread⟩ := readPlaylist_currentParts p
      currentMSN number currentParts
      (p.writeInitMap (currentParts.foldl (fun lines part =>
        (lines.1 ++ p.writeInitMap lines.2 part.initVersion ++ writePart currentMSN part,
          p.initWritten lines.2 part.initVersion)) ([], written)).2
        p.initVersion ++ [.preloadHint currentMSN currentParts.length])
      ([], written)
    rw [body]
    rw [hfold] at hread ⊢
    rw [List.nil_append, List.append_assoc, hread, readPlaylist_writeInitMap]
    rfl
  | cons seg rest ih =>
    rw [body, List.append_assoc, readPlaylist_writeInitMap,
      readPlaylist_segmentLines (hmarked seg List.mem_cons_self),
      ih _ fun s hs => hmarked s (List.mem_cons_of_mem _ hs)]
    rfl

theorem playlistEntries_generate (p : LLHLSPlaylist) (hmarked : ∀ seg ∈ segments, seg.Marked)
    (currentParts : List LLHLSPart) (currentMSN : ℕ) (skip withParts : Bool) :
    playlistEntries (p.generate segments currentParts currentMSN skip withParts) =
      segmentEntries currentParts currentMSN withParts
        ((segments.head?.map LLHLSSegment.msn).getD 0 + LLHLSPlaylist.skipCount segments skip)
        ((segments.take (LLHLSPlaylist.skipCount segments skip)).countP LLHLSSegment.discontinuity)
        (segments.drop (LLHLSPlaylist.skipCount segments skip)) := by
  have hrest := readPlaylist_body p currentParts currentMSN withParts none
    (fun seg hseg => hmarked seg (List.mem_of_mem_drop hseg) :
      ∀ seg ∈ segments.drop (skipCount segments skip), seg.Marked)
  unfold playlistEntries generate
  dsimp only
  generalize skipCount segments skip = startIdx at hrest ⊢
  generalize (segments.take startIdx).countP LLHLSSegment.discontinuity = before
  rw [← hrest]
  by_cases hskip : 0 < startIdx <;> by_cases hbefore : 0 < before <;>
    simp [hskip, hbefore, readPlaylist, Nat.eq_zero_of_not_pos]

end LiveForge.HttpStream
