import LiveForge.Codec.Scanner
import LiveForge.Rtp.H264
import Mathlib.Data.List.DropRight

/-!
# Annex B in package rtp

`forEachNAL` of `pkg/rtp/h264.go` and the two functions built on it,
`AnnexBToAVCC` and `BuildAVCDecoderConfig`.  This scanner counts zeros instead
of comparing start codes, so the zeros in front of a start code belong to it
however many there are.
-/

namespace LiveForge.Rtp

open Support AnnexB

/-! ## The scan -/

/-- The loop of `nextInd`: where the next start code is and how long it is.
`i` is the index of the first byte. -/
def nextIndFrom (i zeroCount : ℕ) : Bytes → Option (ℕ × ℕ)
  | [] => none
  | b :: rest =>
    if b = 0 then nextIndFrom (i + 1) (zeroCount + 1) rest
    else if b = 1 ∧ 2 ≤ zeroCount then some (i - zeroCount, zeroCount + 1)
    else nextIndFrom (i + 1) 0 rest

def nextInd (nalu : Bytes) (start : ℕ) : Checked (Option (ℕ × ℕ)) :=
  (sliceFrom nalu start).map (nextIndFrom start 0)

variable {data : Bytes} {zeroCount start : ℕ}

theorem nextIndFrom_bounds {i indStart indLen : ℕ} (hz : zeroCount ≤ i)
    (h : nextIndFrom i zeroCount data = some (indStart, indLen)) :
    i ≤ indStart + zeroCount ∧ i < indStart + indLen ∧ indStart + indLen ≤ i + data.length := by
  fun_induction nextIndFrom i zeroCount data with
  | case1 => simp at h
  | case2 i zeroCount rest ih =>
    obtain ⟨hlow, hlt, hle⟩ := ih (by omega) h
    simp only [List.length_cons]
    omega
  | case3 i zeroCount b rest hb hcode =>
    simp only [Option.some.injEq, Prod.mk.injEq] at h
    simp only [List.length_cons]
    omega
  | case4 i zeroCount b rest hb hcode ih =>
    obtain ⟨hlow, hlt, hle⟩ := ih (by omega) h
    simp only [List.length_cons]
    omega

theorem nextInd_bounds {indStart indLen : ℕ}
    (h : nextInd data start = .ok (some (indStart, indLen))) :
    start ≤ indStart ∧ start < indStart + indLen ∧ indStart + indLen ≤ data.length := by
  obtain ⟨rest, hrest, hnext⟩ := map_eq_ok.mp h
  obtain ⟨hle, rfl⟩ := sliceFrom_eq_ok.mp hrest
  obtain ⟨hlow, hlt, hend⟩ := nextIndFrom_bounds (Nat.zero_le _) hnext
  rw [List.length_drop] at hend
  omega

/-- The second loop of `forEachNAL`: the units from `prevStart` on. -/
def forEachNALLoop (data : Bytes) (prevStart : ℕ) : Checked (List Bytes) :=
  match _h : nextInd data prevStart with
  | .error e => .error e
  | .ok none => do
      let nal ← sliceFrom data prevStart
      return [nal]
  | .ok (some (nextIndStart, nextIndLen)) => do
      let nal ← slice data prevStart nextIndStart
      let nals ← forEachNALLoop data (nextIndStart + nextIndLen)
      return nal :: nals
termination_by data.length - prevStart
decreasing_by
  have := nextInd_bounds _h
  omega

/-- The units for which `fn` is called, in order.  Data without a start code is
one unit. -/
def forEachNAL (data : Bytes) : Checked (List Bytes) := do
  match ← nextInd data 0 with
  | none => return [data]
  | some (nextIndStart, nextIndLen) =>
    forEachNALLoop data (nextIndStart + nextIndLen)

/-! ## The same scan from the front -/

/-- Split at start codes; `nal` holds the bytes since the last one, of which
the last `zeroCount` are zero. -/
def splitNALsFrom (nal : Bytes) (zeroCount : ℕ) : Bytes → List Bytes
  | [] => [nal]
  | b :: rest =>
    if b = 0 then splitNALsFrom (nal ++ [b]) (zeroCount + 1) rest
    else if b = 1 ∧ 2 ≤ zeroCount then
      nal.take (nal.length - zeroCount) :: splitNALsFrom [] 0 rest
    else splitNALsFrom (nal ++ [b]) 0 rest

/-- What stands before the first start code is no unit, unless it is all there
is. -/
def splitNALs (data : Bytes) : List Bytes :=
  match (splitNALsFrom [] 0 data).tail with
  | [] => [data]
  | nals => nals

theorem splitNALsFrom_ne_nil (nal : Bytes) (zeroCount : ℕ) (data : Bytes) :
    splitNALsFrom nal zeroCount data ≠ [] := by
  fun_induction splitNALsFrom nal zeroCount data with
  | case1 => simp
  | case2 _ _ _ ih => exact ih
  | case3 => simp
  | case4 _ _ _ _ _ _ ih => exact ih

theorem splitNALsFrom_eq {nal : Bytes} {i : ℕ}
    (hnal : zeroCount ≤ nal.length) (hi : zeroCount ≤ i) :
    splitNALsFrom nal zeroCount data =
      match nextIndFrom i zeroCount data with
      | none => [nal ++ data]
      | some (indStart, indLen) =>
        (nal ++ data).take (nal.length + indStart - i) ::
          splitNALsFrom [] 0 (data.drop (indStart + indLen - i)) := by
  induction data generalizing nal zeroCount i with
  | nil => simp [splitNALsFrom, nextIndFrom]
  | cons b data ih =>
    -- The same byte with the index moved on by one.
    have hnext {z : ℕ} (hz : z ≤ (nal ++ [b]).length) (hz' : z ≤ i + 1) :
        splitNALsFrom (nal ++ [b]) z data =
          match nextIndFrom (i + 1) z data with
          | none => [nal ++ b :: data]
          | some (indStart, indLen) =>
            (nal ++ b :: data).take (nal.length + indStart - i) :: splitNALsFrom [] 0
                ((b :: data).drop (indStart + indLen - i)) := by
      rw [ih hz hz', List.append_assoc, List.singleton_append,
        List.length_append, List.length_singleton]
      cases hfound : nextIndFrom (i + 1) z data with
      | none => rfl
      | some ind =>
        obtain ⟨hlow, hlt, hle⟩ := nextIndFrom_bounds hz' hfound
        have hdrop : ind.1 + ind.2 - i = ind.1 + ind.2 - (i + 1) + 1 := by
          omega
        have htake : nal.length + 1 + ind.1 - (i + 1) = nal.length + ind.1 - i := by
          omega
        dsimp only
        rw [hdrop, List.drop_succ_cons, htake]
    rw [splitNALsFrom, nextIndFrom]
    split
    next hzero => exact hnext (by simpa using hnal) (by omega)
    next hzero =>
      split
      next hcode =>
        have htake : nal.length + (i - zeroCount) - i = nal.length - zeroCount := by
          omega
        have hdrop : i - zeroCount + (zeroCount + 1) - i = 1 := by omega
        dsimp only
        rw [htake, hdrop, List.take_append_of_le_length (Nat.sub_le _ _),
          List.drop_one, List.tail_cons]
      next hcode => exact hnext (Nat.zero_le _) (Nat.zero_le _)

theorem splitNALsFrom_nil_eq (data : Bytes) (i : ℕ) :
    splitNALsFrom [] 0 data =
      match nextIndFrom i 0 data with
      | none => [data]
      | some (indStart, indLen) =>
        data.take (indStart - i) :: splitNALsFrom [] 0 (data.drop (indStart + indLen - i)) := by
  rw [splitNALsFrom_eq (Nat.zero_le _) (Nat.zero_le i)]
  simp

theorem nextInd_eq (h : start ≤ data.length) :
    nextInd data start = .ok (nextIndFrom start 0 (data.drop start)) := by
  rw [nextInd, sliceFrom_of_le h]
  rfl

theorem forEachNALLoop_eq {prevStart : ℕ} (h : prevStart ≤ data.length) :
    forEachNALLoop data prevStart = .ok (splitNALsFrom [] 0 (data.drop prevStart)) := by
  fun_induction forEachNALLoop data prevStart with
  | case1 prevStart e herror => simp [nextInd_eq h] at herror
  | case2 prevStart hnone =>
    rw [nextInd_eq h] at hnone
    rw [sliceFrom_of_le h, splitNALsFrom_nil_eq _ prevStart, Except.ok.inj hnone]
    rfl
  | case3 prevStart nextIndStart nextIndLen hsome ih =>
    obtain ⟨hlow, -, hle⟩ := nextInd_bounds hsome
    have hsplit := splitNALsFrom_nil_eq (data.drop prevStart) prevStart
    have hdrop : prevStart + (nextIndStart + nextIndLen - prevStart) =
        nextIndStart + nextIndLen := by
      omega
    rw [nextInd_eq h] at hsome
    rw [Except.ok.inj hsome] at hsplit
    dsimp only at hsplit
    rw [List.drop_drop, hdrop] at hsplit
    rw [slice_of_le hlow (by omega), ih hle, hsplit, List.drop_take]
    rfl

@[simp] theorem forEachNAL_eq (data : Bytes) : forEachNAL data = .ok (splitNALs data) := by
  have hnext := nextInd_eq (Nat.zero_le data.length)
  rw [List.drop_zero] at hnext
  rw [forEachNAL, hnext, ok_bind, splitNALs, splitNALsFrom_nil_eq data 0]
  cases hfound : nextIndFrom 0 0 data with
  | none => rfl
  | some ind =>
    rw [hfound] at hnext
    have hunits := splitNALsFrom_ne_nil [] 0 (data.drop (ind.1 + ind.2))
    dsimp only
    rw [forEachNALLoop_eq (nextInd_bounds hnext).2.2]
    split
    next hnil => exact absurd hnil hunits
    · rfl

/-! ## Streams put together from units -/

theorem splitNALsFrom_unit {unit : Bytes} (hne : unit ≠ [])
    (hfree : ¬ [0, 0, 1] <:+: List.replicate zeroCount 0 ++ unit)
    (hlast : unit.getLast? ≠ some 0) (nal rest : Bytes) :
    splitNALsFrom nal zeroCount (unit ++ rest) = splitNALsFrom (nal ++ unit) 0 rest := by
  induction unit generalizing nal zeroCount with
  | nil => exact absurd rfl hne
  | cons b unit ih =>
    have hstep {zeros : ℕ} (h : ¬ [0, 0, 1] <:+: List.replicate zeros 0 ++ unit)
        (hunit : unit = [] → zeros = 0) :
        splitNALsFrom (nal ++ [b]) zeros (unit ++ rest) =
          splitNALsFrom (nal ++ b :: unit) 0 rest := by
      cases unit with
      | nil => rw [hunit rfl]; rfl
      | cons c unit =>
        rw [ih (List.cons_ne_nil c unit) h hlast, List.append_assoc]
        rfl
    rw [List.cons_append, splitNALsFrom]
    split
    next hzero =>
      subst hzero
      refine hstep ?_ fun hunit => absurd rfl (hunit ▸ hlast)
      rwa [List.replicate_succ', List.append_assoc]
    next hzero =>
      rw [if_neg]
      · exact hstep (fun h => hfree (h.trans ((List.suffix_cons b unit).trans
          (List.suffix_append _ _)).isInfix)) fun _ => rfl
      · rintro ⟨rfl, htwo⟩
        obtain ⟨more, rfl⟩ := Nat.exists_eq_add_of_le' htwo
        exact hfree ⟨List.replicate more 0, unit, by
          rw [List.replicate_add, List.append_assoc, List.append_assoc]; rfl⟩

theorem splitNALsFrom_startCode (nal : Bytes) (u : CodedUnit) (rest : Bytes) :
    splitNALsFrom nal 0 (u.startCode ++ rest) = nal :: splitNALsFrom [] 0 rest := by
  unfold CodedUnit.startCode startCode
  split <;> simp [splitNALsFrom]

theorem splitNALs_coded {units : List CodedUnit} (hne : units ≠ []) :
    splitNALs (coded units) = units.map CodedUnit.unit := by
  obtain ⟨u, units, rfl⟩ := List.exists_cons_of_ne_nil hne
  have hunit (unit : Bytes) (h : IsNAL unit) (rest : Bytes) :
      splitNALsFrom [] 0 (unit ++ rest) = splitNALsFrom unit 0 rest :=
    splitNALsFrom_unit h.ne_nil (by simpa using h.free) h.last [] rest
  rw [splitNALs, coded, List.flatMap_cons, List.append_assoc,
    splitNALsFrom_startCode, hunit _ u.isNAL]
  rw [show List.flatMap _ units = coded units from rfl, scan_coded
    (fun nal => splitNALsFrom nal 0) (fun _ _ => rfl)
    (fun u nal rest => splitNALsFrom_startCode nal u rest) hunit units u.isNAL]
  rfl

/-! ## The conversions -/

def annexBToAVCC (data : Bytes) : Checked Bytes := do
  let nals ← forEachNAL data
  return prefixed32 (nonempty nals)

@[simp] theorem annexBToAVCC_eq (data : Bytes) :
    annexBToAVCC data = .ok (prefixed32 (nonempty (splitNALs data))) := by
  rw [annexBToAVCC, forEachNAL_eq]
  rfl

/-- `buildAVCDecoderConfigFromNALs` with its accesses; a nil record is
`none`. -/
def buildAVCDecoderConfigFromNALsChecked (sps pps : Bytes) : Checked (Option Bytes) :=
  if sps.length < 4 then return none
  else do
    let profile ← index sps 1
    let compatibility ← index sps 2
    let level ← index sps 3
    return some ([1, profile, compatibility, level, 0xFF, 0xE1] ++
      be16Bytes sps.length ++ sps ++ [1] ++ be16Bytes pps.length ++ pps)

/-- The first unit of a type.  Empty units have none. -/
def firstOfH264Type (type : UInt8) (nals : List Bytes) : Option Bytes :=
  nals.find? fun nal => nal ≠ [] ∧ h264NALType nal = type

def buildAVCDecoderConfig (annexB : Bytes) : Checked (Option Bytes) := do
  let nals ← forEachNAL annexB
  match firstOfH264Type 7 nals, firstOfH264Type 8 nals with
  | some sps, some pps => buildAVCDecoderConfigFromNALsChecked sps pps
  | _, _ => return none

theorem safe_buildAVCDecoderConfigFromNALsChecked (sps pps : Bytes) :
    Safe (buildAVCDecoderConfigFromNALsChecked sps pps) := by
  refine safe_ite fun hlong => ?_
  refine (safe_index (by omega)).bind fun profile _ => ?_
  refine (safe_index (by omega)).bind fun compatibility _ => ?_
  exact (safe_index (by omega)).bind fun level _ => safe_pure _

theorem safe_buildAVCDecoderConfig (annexB : Bytes) : Safe (buildAVCDecoderConfig annexB) := by
  rw [buildAVCDecoderConfig, forEachNAL_eq, ok_bind]
  split
  · exact safe_buildAVCDecoderConfigFromNALsChecked _ _
  · exact safe_pure _

end LiveForge.Rtp
