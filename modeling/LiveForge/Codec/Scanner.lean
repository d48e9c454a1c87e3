import LiveForge.Codec.AnnexB
import LiveForge.Support.Checked

/-!
# The scanner for NAL units, access by access

`ExtractNALUs` of `pkg/codec/h264/parser.go` and its copy in
`pkg/codec/h265/parser.go` walk over the data with an index and cut the units
out of it.  Here they are with every index and every slice checked; no check
fails, and what they return is what `H265.extractNALUs` finds reading from the
front.
-/

namespace LiveForge.AnnexB

open Support H265

/-- The length of the start code at an index, zero when there is none. -/
def startCodeAt (data : Bytes) (i : ℕ) : Checked ℕ :=
  if i + 2 < data.length then do
    if ← matchesAt data i [0x00, 0x00, 0x01] then return 3
    else if i + 3 < data.length then
      if ← matchesAt data i [0x00, 0x00, 0x00, 0x01] then return 4
      else return 0
    else return 0
  else return 0

/-- The loop and what follows it; `start` is where the current unit starts. -/
def extractNALUsLoop (data : Bytes) (start : Option ℕ) (i : ℕ) : Checked (List Bytes) :=
  if hi : i < data.length then do
    let startCodeLen ← startCodeAt data i
    if hcode : 0 < startCodeLen then
      match start with
      | none =>
        extractNALUsLoop data (some (i + startCodeLen)) (i + startCodeLen)
      | some start => do
          let nal ← slice data start i
          let nalus ←
            extractNALUsLoop data (some (i + startCodeLen)) (i + startCodeLen)
          return nal :: nalus
    else extractNALUsLoop data start (i + 1)
  else
    match start with
    | none => return []
    | some start =>
      if start < data.length then do
        let nal ← sliceFrom data start
        return [nal]
      else return []
termination_by data.length - i

theorem startCodeAt_eq (data : Bytes) (i : ℕ) :
    startCodeAt data i = .ok (startCodeLength (data.drop i)) := by
  have hshort {n : ℕ} {pattern : Bytes} (hn : pattern.length = n + 1)
      (h : ¬ i + n < data.length) : (data.drop i).take (n + 1) ≠ pattern := by
    intro heq
    have hlength := congrArg List.length heq
    rw [List.length_take, List.length_drop] at hlength
    omega
  unfold startCodeAt startCodeLength
  split
  next h2 =>
    have hthree : matchesAt data i [0, 0, 1] =
        .ok (decide ((data.drop i).take 3 = [0, 0, 1])) := matchesAt_of_le h2
    rw [hthree, ok_bind]
    by_cases h3 : (data.drop i).take 3 = [0, 0, 1]
    · rw [if_pos (decide_eq_true h3), if_pos h3]
      rfl
    · rw [if_neg (by simpa using h3)]
      split
      next hlong =>
        have hfour : matchesAt data i [0, 0, 0, 1] =
            .ok (decide ((data.drop i).take 4 = [0, 0, 0, 1])) :=
          matchesAt_of_le hlong
        rw [hfour, ok_bind]
        by_cases h4 : (data.drop i).take 4 = [0, 0, 0, 1]
        · rw [if_pos (decide_eq_true h4), if_pos h4]
          rfl
        · rw [if_neg (by simpa using h4), if_neg h4]
          rfl
      next hlong =>
        rw [if_neg (hshort rfl hlong)]
        rfl
  next h2 =>
    rw [if_neg (hshort rfl h2), if_neg (hshort rfl (by omega))]
    rfl

/-- Nothing is out of range as long as the current unit starts before the
index. -/
theorem extractNALUsLoop_eq {data : Bytes} {start : Option ℕ} {i : ℕ} (hi : i ≤ data.length)
    (hstart : ∀ s ∈ start, s ≤ i) :
    extractNALUsLoop data start i =
      .ok (extractNALUsFrom (start.map fun s => (data.take i).drop s) (data.drop i)) := by
  fun_induction extractNALUsLoop data start i with
  | case1 start i hlt ihcode ihnext =>
    rw [startCodeAt_eq, ok_bind, List.drop_eq_getElem_cons hlt, extractNALUsFrom,
      ← List.drop_eq_getElem_cons hlt, List.drop_drop]
    split
    next hcode =>
      have hle := startCodeLength_le (data.drop i)
      rw [List.length_drop] at hle
      have hrest := ihcode _ hcode (by omega) (by simp)
      rw [Option.map_some, List.drop_eq_nil_of_le (List.length_take_le _ _)] at hrest
      cases start with
      | none => exact hrest
      | some s =>
        dsimp only
        rw [slice_of_le (hstart s rfl) hi, hrest]
        rfl
    next hcode =>
      rw [ihnext hlt fun s hs => (hstart s hs).trans (Nat.le_succ i)]
      cases start with
      | none => rfl
      | some s =>
        have hgrow : (data.take (i + 1)).drop s = (data.take i).drop s ++ [data[i]] := by
          have hs := hstart s rfl
          rw [← List.take_concat_get' _ _ hlt, List.drop_append_of_le_length]
          rw [List.length_take]
          omega
        rw [Option.map_some, Option.map_some, Option.map_some, hgrow]
  | case2 i hend =>
    rw [List.drop_eq_nil_of_le (not_lt.mp hend), extractNALUsFrom]
    rfl
  | case3 i hend s hs =>
    have hunit : data.drop s ≠ [] := by
      rw [ne_eq, List.drop_eq_nil_iff]
      omega
    rw [sliceFrom_of_le hs.le, List.take_of_length_le (not_lt.mp hend),
      List.drop_eq_nil_of_le (not_lt.mp hend), extractNALUsFrom,
      Option.map_some, Option.filter_some_pos (by simpa using hunit)]
    rfl
  | case4 i hend s hs =>
    have hunit : data.drop s = [] := List.drop_eq_nil_of_le (not_lt.mp hs)
    rw [List.take_of_length_le (not_lt.mp hend),
      List.drop_eq_nil_of_le (not_lt.mp hend), extractNALUsFrom,
      Option.map_some, hunit]
    rfl

end LiveForge.AnnexB

namespace LiveForge.H264

open Support

def nalTypeIDR : UInt8 := 5

def nalTypeSPS : UInt8 := 7

def extractNALUs (data : Bytes) : Checked (List Bytes) :=
  AnnexB.extractNALUsLoop data none 0

@[simp] theorem extractNALUs_eq (data : Bytes) : extractNALUs data = .ok (H265.extractNALUs data) :=
  AnnexB.extractNALUsLoop_eq (Nat.zero_le _) (by simp)

end LiveForge.H264

namespace LiveForge.H265

open Support

def nalTypeIDRWLP : UInt8 := 19

def nalTypeIDRNLP : UInt8 := 20

/-- The other copy. -/
def extractNALUsChecked (data : Bytes) : Checked (List Bytes) :=
  AnnexB.extractNALUsLoop data none 0

@[simp] theorem extractNALUsChecked_eq (data : Bytes) :
    extractNALUsChecked data = .ok (extractNALUs data) :=
  AnnexB.extractNALUsLoop_eq (Nat.zero_le _) (by simp)

end LiveForge.H265
