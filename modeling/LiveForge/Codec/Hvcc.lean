import LiveForge.Codec.Scanner

/-!
# HEVC frames and records, access by access

`AnnexBToHVCC` and `BuildHVCCDecoderConfig` of `pkg/codec/h265/parser.go` with
every index and slice checked.  The bit reader has one index, behind its own
comparison with the length of the data.
-/

namespace LiveForge.H265

open Support AnnexB

def annexBToHVCC (data : Bytes) : Checked Bytes := do
  let nalus ← extractNALUsChecked data
  return prefixed32 (nonempty nalus)

@[simp] theorem annexBToHVCC_eq (data : Bytes) :
    annexBToHVCC data = .ok (prefixed32 (nonempty (extractNALUs data))) := by
  rw [annexBToHVCC, extractNALUsChecked_eq]
  rfl

/-- The accesses of `parseSPSHVCCInfo`, each behind the comparisons that come
before it. -/
def parseSPSHVCCInfoChecked (sps : Bytes) : Checked (Option SPSInfo) :=
  if sps.length < 3 then return none
  else do
    let header ← index sps 0
    if (header >>> 1) &&& 0x3F ≠ nalTypeSPS then return none
    else do
      let body ← sliceFrom sps 2
      let rbsp := removeEmulationPreventionBytes body
      if rbsp.length < 13 then return none
      else do
        let _ ← index rbsp 0
        let _ ← slice rbsp 1 13
        return parseSPSHVCCInfo sps

@[simp] theorem parseSPSHVCCInfoChecked_eq (sps : Bytes) :
    parseSPSHVCCInfoChecked sps = .ok (parseSPSHVCCInfo sps) := by
  unfold parseSPSHVCCInfoChecked
  match sps with
  | [] => rfl
  | [_] => rfl
  | [_, _] => rfl
  | header :: second :: third :: rest =>
    rw [if_neg (by simp), index_cons_zero, ok_bind]
    split
    next htype =>
      have hnone : parseSPSHVCCInfo (header :: second :: third :: rest) =
          none := if_pos (.inr htype)
      rw [hnone]
      rfl
    next htype =>
      rw [sliceFrom_of_le (by simp), ok_bind]
      dsimp only
      split
      next hshort =>
        have hnone : parseSPSHVCCInfo (header :: second :: third :: rest) =
            none := by
          refine (if_neg ?_).trans (if_pos hshort)
          rw [not_or]
          exact ⟨by simp, htype⟩
        rw [hnone]
        rfl
      next hlong =>
        obtain ⟨first, hfirst⟩ := safe_index
          (Nat.lt_of_lt_of_le (by decide : 0 < 13) (not_lt.mp hlong))
        rw [hfirst, slice_of_le (by decide) (not_lt.mp hlong)]
        rfl

def buildHVCCDecoderConfigChecked (annexB : Bytes) : Checked (Option Bytes) := do
  let nalus ← extractNALUsChecked annexB
  match firstOfType nalTypeSPS nalus with
  | none => return none
  | some sps => do
      let _ ← parseSPSHVCCInfoChecked sps
      return buildHVCCFromNALs (firstOfType nalTypeVPS nalus) sps (firstOfType nalTypePPS nalus)

@[simp] theorem buildHVCCDecoderConfigChecked_eq (annexB : Bytes) :
    buildHVCCDecoderConfigChecked annexB = .ok (buildHVCCDecoderConfig annexB) := by
  rw [buildHVCCDecoderConfigChecked, extractNALUsChecked_eq, ok_bind, buildHVCCDecoderConfig]
  cases hsps : firstOfType nalTypeSPS (extractNALUs annexB) with
  | none => rfl
  | some sps => simp [parseSPSHVCCInfoChecked_eq]

end LiveForge.H265
