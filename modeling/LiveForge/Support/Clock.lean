import Mathlib.Algebra.Order.Ring.Int

/-!
# 32-bit stamps of an unbounded timeline

A media clock counts ticks on a timeline `ℤ` and puts the low 32 bits of the
count on the wire.  A receiver subtracts two stamps and reads the difference
either as signed or as unsigned.  This module says for which instants each
reading returns the true number of ticks, and that a reading off by a whole
turn of the counter is visible after conversion to milliseconds.
-/

namespace LiveForge.Support

/-! ## Stamps -/

/-- The 32 bits that stand for the instant `t`. -/
def stamp (t : ℤ) : UInt32 := UInt32.ofInt t

/-- A stamp difference read as a signed 32-bit number. -/
def signedTicks (x : UInt32) : ℤ :=
  if x.toNat < 2 ^ 31 then x.toNat else x.toNat - 2 ^ 32

/-- A stamp difference read as an unsigned 32-bit number. -/
def unsignedTicks (x : UInt32) : ℤ := x.toNat

theorem toNat_stamp (t : ℤ) : ((stamp t).toNat : ℤ) = t % 2 ^ 32 := by
  have hofNat : (stamp t).toNat = (t % 2 ^ 32).toNat % 2 ^ 32 := rfl
  omega

theorem stamp_sub_stamp (t u : ℤ) : stamp t - stamp u = stamp (t - u) := by
  rw [stamp, stamp, stamp, Int.sub_eq_add_neg, UInt32.ofInt_add,
    UInt32.ofInt_neg, UInt32.sub_eq_add_neg]

theorem signedTicks_stamp_emod (t : ℤ) : signedTicks (stamp t) % 2 ^ 32 = t % 2 ^ 32 := by
  have hnat := toNat_stamp t
  unfold signedTicks
  split <;> omega

theorem unsignedTicks_stamp_emod (t : ℤ) : unsignedTicks (stamp t) % 2 ^ 32 = t % 2 ^ 32 := by
  rw [unsignedTicks, toNat_stamp, Int.emod_emod]

/-- The signed reading is right in the half turn around the base. -/
theorem signedTicks_stamp_eq_iff (t : ℤ) :
    signedTicks (stamp t) = t ↔ -2 ^ 31 ≤ t ∧ t < 2 ^ 31 := by
  have hstamp := toNat_stamp t
  unfold signedTicks
  split <;> omega

/-- The unsigned reading is right in the turn after the base. -/
theorem unsignedTicks_stamp_eq_iff (t : ℤ) : unsignedTicks (stamp t) = t ↔ 0 ≤ t ∧ t < 2 ^ 32 := by
  rw [unsignedTicks, toNat_stamp]
  omega

/-! ## Sequence numbers -/

/-- The 16 bits that stand for the number `n` of an unbounded numbering. -/
def seqOf (n : ℤ) : UInt16 := UInt16.ofInt n

theorem toNat_seqOf (n : ℤ) : ((seqOf n).toNat : ℤ) = n % 2 ^ 16 := by
  have hofNat : (seqOf n).toNat = (n % 2 ^ 16).toNat % 2 ^ 16 := rfl
  omega

theorem seqOf_sub_seqOf (n m : ℤ) : seqOf n - seqOf m = seqOf (n - m) := by
  rw [seqOf, seqOf, seqOf, Int.sub_eq_add_neg, UInt16.ofInt_add,
    UInt16.ofInt_neg, UInt16.sub_eq_add_neg]

/-- Numbers less than one turn apart have different low bits. -/
theorem eq_of_seqOf_eq {n m : ℤ} (heq : seqOf n = seqOf m) (hlow : n - m < 2 ^ 16)
    (hhigh : m - n < 2 ^ 16) :
    n = m := by
  have hn := toNat_seqOf n
  have hm := toNat_seqOf m
  rw [heq] at hn
  omega

/-! ## Milliseconds -/

/-- Ticks of a clock of `rate` Hz in whole milliseconds, towards zero. -/
def ticksToMs (ticks rate : ℤ) : ℤ := (ticks * 1000).tdiv rate

theorem ticksToMs_zero (rate : ℤ) : ticksToMs 0 rate = 0 := by
  simp [ticksToMs]

variable {ticks ticks' rate : ℤ}

theorem ticksToMs_mono (hrate : 0 < rate) (hle : ticks ≤ ticks') :
    ticksToMs ticks rate ≤ ticksToMs ticks' rate :=
  Int.tdiv_le_tdiv hrate (by omega)

/-- A millisecond more than enough to leave the rounding behind. -/
theorem ticksToMs_lt (hrate : 0 < rate) (hlt : ticks * 1000 + 2 * rate ≤ ticks' * 1000) :
    ticksToMs ticks rate < ticksToMs ticks' rate := by
  have hdiv := Int.mul_tdiv_add_tmod (ticks * 1000) rate
  have hdiv' := Int.mul_tdiv_add_tmod (ticks' * 1000) rate
  have hlow := Int.lt_tmod_of_pos (ticks * 1000) hrate
  have hhigh := Int.tmod_lt_of_pos (ticks' * 1000) hrate
  -- The two remainders together move the quotients by less than two.
  have hquot : rate * ticksToMs ticks rate < rate * ticksToMs ticks' rate := by
    rw [ticksToMs, ticksToMs]
    omega
  exact lt_of_mul_lt_mul_left hquot hrate.le

/-- Two tick counts that differ by at least one turn of the counter are
different numbers of milliseconds on every clock that makes at most 500 turns
a second. -/
theorem ticksToMs_ne_of_turn (hrate : 0 < rate) (hbound : rate ≤ 500 * 2 ^ 32)
    (hmod : ticks % 2 ^ 32 = ticks' % 2 ^ 32) (hne : ticks ≠ ticks') :
    ticksToMs ticks rate ≠ ticksToMs ticks' rate := by
  rcases lt_or_gt_of_ne hne with hlt | hgt
  · exact (ticksToMs_lt hrate (by omega)).ne
  · exact (ticksToMs_lt hrate (by omega)).ne'

/-! ## Slack -/

/-- A difference of stamps is `ticks`, up to `slack` ticks. -/
def NearTicks (slack : ℕ) (ticks : ℤ) (x : UInt32) : Prop :=
  ∃ δ : ℤ, -slack ≤ δ ∧ δ ≤ slack ∧ x = stamp (ticks + δ)

theorem NearTicks.mono {slack slack' : ℕ} {x : UInt32} (h : NearTicks slack ticks x)
    (hle : slack ≤ slack') :
    NearTicks slack' ticks x := by
  obtain ⟨δ, hlow, hhigh, hx⟩ := h
  exact ⟨δ, by omega, by omega, hx⟩

/-- A clock that stands is near no time that is more than the slack away from
the turns of the counter. -/
theorem not_nearTicks_zero {slack : ℕ} (hlow : slack < ticks) (hhigh : ticks + slack < 2 ^ 32) :
    ¬ NearTicks slack ticks 0 := by
  rintro ⟨δ, hδlow, hδhigh, hzero⟩
  have hnat := toNat_stamp (ticks + δ)
  rw [← hzero] at hnat
  have hzero : ((0 : UInt32).toNat : ℤ) = 0 := rfl
  omega

/-- Cutting two instants to whole ticks, each towards zero, moves the later
from the earlier by one tick at most. -/
theorem nearTicks_tdiv {x y : ℤ} (hle : y ≤ x) :
    NearTicks 1 ((x - y) / 1000) (stamp (x.tdiv 1000) - stamp (y.tdiv 1000)) := by
  have hcut : ∀ z : ℤ, z.tdiv 1000 = if 0 ≤ z then z / 1000 else -(-z / 1000) := by
    intro z
    split
    next hz => exact Int.tdiv_eq_ediv_of_nonneg hz
    next hz =>
      rw [← Int.tdiv_eq_ediv_of_nonneg (by omega), Int.neg_tdiv, Int.neg_neg]
  rw [hcut, hcut, stamp_sub_stamp]
  refine ⟨_, ?_, ?_, congrArg stamp (add_sub_cancel _ _).symm⟩
  · split <;> split <;> omega
  · split <;> split <;> omega

end LiveForge.Support
