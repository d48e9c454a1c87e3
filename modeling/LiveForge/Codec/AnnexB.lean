import LiveForge.Codec.H265
import LiveForge.Support.Prefixed
import Mathlib.Data.List.Infix

/-!
# NAL units in Annex B streams

In an Annex B stream every NAL unit stands behind a start code; in the other
form of a frame, AVCC, it stands behind its length.  The module says what the
scanner `extractNALUs` finds in a stream that was put together from units.
-/

namespace LiveForge.AnnexB

open Support H265

/-! ## Units -/

def startCode : Bytes := [0x00, 0x00, 0x00, 0x01]

def annexB (units : List Bytes) : Bytes :=
  units.flatMap fun unit => startCode ++ unit

/-- A NAL unit: not empty, without a start code inside, not ending in zero. -/
structure IsNAL (unit : Bytes) : Prop where
  ne_nil : unit ≠ []
  free : ¬ [0, 0, 1] <:+: unit
  last : unit.getLast? ≠ some 0

instance (unit : Bytes) : Decidable (IsNAL unit) :=
  decidable_of_iff (unit ≠ [] ∧ ¬ [0, 0, 1] <:+: unit ∧ unit.getLast? ≠ some 0)
    ⟨fun h => ⟨h.1, h.2.1, h.2.2⟩, fun h => ⟨h.ne_nil, h.free, h.last⟩⟩

def nonempty (units : List Bytes) : List Bytes :=
  units.filter fun unit => unit ≠ []

/-! ## Start codes -/

theorem startCodeLength_le (data : Bytes) : startCodeLength data ≤ data.length := by
  have hlength {n : ℕ} {code : Bytes} (h : data.take n = code) : code.length ≤ data.length :=
    h ▸ List.length_take_le' n data
  unfold startCodeLength
  split_ifs with h3 h4
  · exact hlength h3
  · exact hlength h4
  · exact Nat.zero_le _

/-! ## Units behind start codes -/

/-- A unit behind a start code of four bytes or of three. -/
structure CodedUnit where
  long : Bool
  unit : Bytes
  isNAL : IsNAL unit

def CodedUnit.startCode (u : CodedUnit) : Bytes :=
  if u.long then AnnexB.startCode else [0, 0, 1]

def coded (units : List CodedUnit) : Bytes :=
  units.flatMap fun u => u.startCode ++ u.unit

/-- No start code reaches out of a unit into what follows. -/
theorem not_prefix_unit {unit rest : Bytes} (hne : unit ≠ []) (hfree : ¬ [0, 0, 1] <:+: unit)
    (hlast : unit.getLast? ≠ some 0) (zeros : Bytes) (hzeros : ∀ b ∈ zeros, b = 0)
    (htwo : [0, 0] <:+ zeros) :
    ¬ zeros ++ [1] <+: unit ++ rest := by
  intro hcode
  have hinner : [0, 0, 1] <:+: zeros ++ [1] := by
    obtain ⟨more, rfl⟩ := htwo
    exact ⟨more, [], by simp⟩
  rcases List.prefix_or_prefix_of_prefix hcode (List.prefix_append unit rest) with hcode | hunit
  · exact hfree (hinner.trans hcode.isInfix)
  rcases List.prefix_concat_iff.mp hunit with rfl | hunit
  · exact hfree hinner
  · refine hlast (List.getLast?_eq_some_getLast hne ▸ congrArg some ?_)
    exact hzeros _ (hunit.subset (List.getLast_mem hne))

theorem startCodeLength_unit {unit : Bytes} (rest : Bytes) (hne : unit ≠ [])
    (hfree : ¬ [0, 0, 1] <:+: unit) (hlast : unit.getLast? ≠ some 0) :
    startCodeLength (unit ++ rest) = 0 := by
  unfold startCodeLength
  rw [if_neg, if_neg]
  · intro hcode
    exact not_prefix_unit hne hfree hlast [0, 0, 0] (by simp) ⟨[0], rfl⟩
      (hcode ▸ List.take_prefix 4 _)
  · intro hcode
    exact not_prefix_unit hne hfree hlast [0, 0] (by simp) ⟨[], rfl⟩ (hcode ▸ List.take_prefix 3 _)

theorem extractNALUsFrom_unit {unit : Bytes} (hfree : ¬ [0, 0, 1] <:+: unit)
    (hlast : unit.getLast? ≠ some 0) (nal rest : Bytes) :
    extractNALUsFrom (some nal) (unit ++ rest) = extractNALUsFrom (some (nal ++ unit)) rest := by
  induction unit generalizing nal with
  | nil => rw [List.append_nil, List.nil_append]
  | cons b unit ih =>
    have hcode := startCodeLength_unit rest (List.cons_ne_nil b unit) hfree hlast
    have hinner : ¬ [0, 0, 1] <:+: unit := fun h =>
      hfree (h.trans (List.suffix_cons b unit).isInfix)
    have hend : unit.getLast? ≠ some 0 := by
      cases unit with
      | nil => simp
      | cons c unit => exact hlast
    rw [List.cons_append] at hcode ⊢
    rw [extractNALUsFrom, hcode, if_neg (Nat.lt_irrefl 0), Option.map_some,
      ih hinner hend, List.append_assoc, List.singleton_append]

theorem extractNALUsFrom_startCode (nal : Option Bytes) (u : CodedUnit) (rest : Bytes) :
    extractNALUsFrom nal (u.startCode ++ rest) = nal.toList ++ extractNALUsFrom (some []) rest := by
  unfold CodedUnit.startCode startCode
  split <;> simp [extractNALUsFrom, startCodeLength]

/-- A scanner that reads a unit to its end and cuts at every start code finds
the units. -/
theorem scan_coded (scan : Bytes → Bytes → List Bytes)
    (hend : ∀ nal, nal ≠ [] → scan nal [] = [nal])
    (hcode : ∀ (u : CodedUnit) nal rest, scan nal (u.startCode ++ rest) = nal :: scan [] rest)
    (hunit : ∀ unit, IsNAL unit → ∀ rest, scan [] (unit ++ rest) = scan unit rest)
    (units : List CodedUnit) {nal : Bytes} (hnal : IsNAL nal) :
    scan nal (coded units) = nal :: units.map CodedUnit.unit := by
  induction units generalizing nal with
  | nil => exact hend nal hnal.ne_nil
  | cons u units ih =>
    rw [coded, List.flatMap_cons, List.append_assoc, hcode u nal, hunit _ u.isNAL]
    exact congrArg (nal :: ·) (ih u.isNAL)

theorem extractNALUs_coded (units : List CodedUnit) :
    extractNALUs (coded units) = units.map CodedUnit.unit := by
  cases units with
  | nil => simp [extractNALUs, extractNALUsFrom, coded]
  | cons u units =>
    rw [extractNALUs, coded, List.flatMap_cons, List.append_assoc, extractNALUsFrom_startCode,
      extractNALUsFrom_unit u.isNAL.free u.isNAL.last]
    refine scan_coded (fun nal => extractNALUsFrom (some nal)) ?_ ?_ ?_ units u.isNAL
    · intro nal hnal
      rw [extractNALUsFrom, Option.filter_some_pos (by simpa using hnal)]
      rfl
    · exact fun u nal rest => extractNALUsFrom_startCode (some nal) u rest
    · exact fun unit h rest => extractNALUsFrom_unit h.free h.last [] rest

end LiveForge.AnnexB
