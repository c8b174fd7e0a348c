import Mathlib.Data.Rat.Floor
import Stencil.Number.Bounds

/-!
# Rounding quotients down

A quotient and a remainder that are rounded toward minus infinity (`Floors`) are determined by the
remainder having the sign of the divisor.  The machine rounds toward zero, and a quotient that was
rounded up is corrected afterwards, which ends at the rounded-down quotient and remainder
(`Truncates.floors_of_up`).  Between bounds of 64 bits the correction always has room, and the two
quotients have room for the same operands (`fits_fdiv_iff`).
-/

namespace Stencil

/-! ## Quotients rounded down -/

/-- A quotient that is rounded down and what it leaves of `m`: less than the divisor, and of its
sign. -/
structure Floors (m n q r : Int) : Prop where
  parts : m = n * q + r
  side : (0 ≤ r ∧ r < n) ∨ (n < r ∧ r ≤ 0)

namespace Floors

variable {m n q r q' r' : Int}

theorem ne_zero (floors : Floors m n q r) : n ≠ 0 := by
  have := floors.side
  omega

/-- The remainder is zero or has the sign of the divisor. -/
theorem sign (floors : Floors m n q r) : r = 0 ∨ r.sign = n.sign := by
  rcases floors.side with ⟨nonneg, less⟩ | ⟨less, nonpos⟩
  · rcases nonneg.lt_or_eq with positive | zero
    · right
      rw [Int.sign_eq_one_of_pos positive, Int.sign_eq_one_of_pos (by omega)]
    · exact Or.inl zero.symm
  · rcases nonpos.lt_or_eq with negative | zero
    · right
      rw [Int.sign_eq_neg_one_of_neg negative, Int.sign_eq_neg_one_of_neg (by omega)]
    · exact Or.inl zero

theorem natAbs_lt (floors : Floors m n q r) : r.natAbs < n.natAbs := by
  have := floors.side
  omega

/-- The quotient is the greatest integer that is not above the fraction. -/
theorem floor_eq (floors : Floors m n q r) : ⌊(m : ℚ) / n⌋ = q := by
  have divisor : (n : ℚ) ≠ 0 := Int.cast_ne_zero.mpr floors.ne_zero
  have split : (m : ℚ) / n = q + r / n := by
    rw [floors.parts]
    push_cast
    field_simp
  rw [split, Int.floor_intCast_add, add_eq_left, Int.floor_eq_zero_iff, Set.mem_Ico]
  rcases floors.side with ⟨nonneg, less⟩ | ⟨less, nonpos⟩
  · have positive : (0 : ℚ) < n := Int.cast_pos.mpr (by omega)
    rw [div_lt_one positive]
    exact ⟨div_nonneg (Int.cast_nonneg nonneg) positive.le, Int.cast_lt.mpr less⟩
  · have negative : (n : ℚ) < 0 := Int.cast_lt_zero.mpr (by omega)
    rw [div_lt_one_of_neg negative]
    exact ⟨div_nonneg_of_nonpos (Int.cast_nonpos.mpr nonpos) negative.le, Int.cast_lt.mpr less⟩

theorem remainder_eq (floors : Floors m n q r) : r = m - n * q := by
  have := floors.parts
  omega

end Floors

/-! ## Quotients rounded toward zero -/

/-- A quotient that is rounded toward zero and what it leaves of `m`: less than the divisor, and of
the sign of `m`. -/
structure Truncates (m n q r : Int) : Prop where
  parts : m = n * q + r
  small : r.natAbs < n.natAbs
  side : (0 ≤ m ∧ 0 ≤ r) ∨ (m < 0 ∧ r ≤ 0)

theorem truncates_tdiv {n : Int} (divisor : n ≠ 0) (m : Int) :
    Truncates m n (m.tdiv n) (m.tmod n) where
  parts := (Int.mul_tdiv_add_tmod m n).symm
  small := by
    rw [Int.natAbs_tmod]
    exact Nat.mod_lt _ (Int.natAbs_pos.mpr divisor)
  side := by
    rcases Int.lt_or_le m 0 with negative | nonneg
    · have mirrored := Int.tmod_nonneg n (Int.neg_nonneg_of_nonpos negative.le)
      rw [Int.neg_tmod] at mirrored
      exact Or.inr ⟨negative, by omega⟩
    · exact Or.inl ⟨nonneg, Int.tmod_nonneg n nonneg⟩

/-- The quotient was rounded up: something is left, and the fraction is negative. -/
def RoundedUp (m n r : Int) : Prop := r ≠ 0 ∧ ¬ (m < 0 ↔ n < 0)

instance (m n r : Int) : Decidable (RoundedUp m n r) := by
  unfold RoundedUp
  infer_instance

namespace Truncates

variable {m n q r : Int}

/-- A quotient that was rounded up is one too large. -/
theorem floors_of_up (cut : Truncates m n q r) (up : RoundedUp m n r) :
    Floors m n (q - 1) (r + n) where
  parts := by
    rw [Int.mul_sub, Int.mul_one]
    have := cut.parts
    omega
  side := by
    have := cut.small
    have := cut.side
    unfold RoundedUp at up
    omega

theorem floors_of_not_up (cut : Truncates m n q r) (down : ¬ RoundedUp m n r) :
    Floors m n q r where
  parts := cut.parts
  side := by
    have := cut.small
    have := cut.side
    unfold RoundedUp at down
    omega

/-- The sign of the remainder tells as much as the sign of the dividend. -/
theorem up_iff (cut : Truncates m n q r) :
    RoundedUp m n r ↔ r ≠ 0 ∧ ¬ (r < 0 ↔ n < 0) := by
  have := cut.side
  unfold RoundedUp
  omega

end Truncates

/-! ## The floored quotient of the library -/

theorem floors_fdiv {n : Int} (divisor : n ≠ 0) (m : Int) :
    Floors m n (m.fdiv n) (m.fmod n) where
  parts := (Int.mul_fdiv_add_fmod m n).symm
  side := by
    rcases Int.lt_or_gt_of_ne divisor with negative | positive
    · have mirrored := Int.neg_fmod_neg m n
      have nonneg := Int.fmod_nonneg_of_pos (-m) (Int.neg_pos.mpr negative)
      have less := Int.fmod_lt_of_pos (-m) (Int.neg_pos.mpr negative)
      omega
    · exact Or.inl ⟨Int.fmod_nonneg_of_pos m positive, Int.fmod_lt_of_pos m positive⟩

/-- There is only one way to round a quotient down. -/
theorem Floors.eq_fdiv {m n q r : Int} (floors : Floors m n q r) :
    q = m.fdiv n ∧ r = m.fmod n := by
  have whole := floors_fdiv floors.ne_zero m
  have same : q = m.fdiv n := by rw [← floors.floor_eq, whole.floor_eq]
  refine ⟨same, ?_⟩
  rw [floors.remainder_eq, whole.remainder_eq, same]

variable {m n : Int}

theorem fdiv_of_up (divisor : n ≠ 0) (up : RoundedUp m n (m.tmod n)) :
    m.fdiv n = m.tdiv n - 1 ∧ m.fmod n = m.tmod n + n := by
  obtain ⟨quotient, remainder⟩ := ((truncates_tdiv divisor m).floors_of_up up).eq_fdiv
  exact ⟨quotient.symm, remainder.symm⟩

theorem fdiv_of_not_up (divisor : n ≠ 0) (down : ¬ RoundedUp m n (m.tmod n)) :
    m.fdiv n = m.tdiv n ∧ m.fmod n = m.tmod n := by
  obtain ⟨quotient, remainder⟩ :=
    ((truncates_tdiv divisor m).floors_of_not_up down).eq_fdiv
  exact ⟨quotient.symm, remainder.symm⟩

/-! ## Room for the correction -/

theorem natAbs_tdiv_le_half (large : 2 ≤ n.natAbs) (m : Int) :
    (m.tdiv n).natAbs ≤ m.natAbs / 2 := by
  rw [Int.natAbs_tdiv]
  exact Nat.div_le_div_left large (by decide)

/-- A quotient that something is left of is at most half as large as the dividend. -/
theorem natAbs_tdiv_le (divisor : n ≠ 0) (left : m.tmod n ≠ 0) :
    (m.tdiv n).natAbs ≤ m.natAbs / 2 := by
  have large : 2 ≤ n.natAbs := by
    by_contra small
    have unit : n.natAbs = 1 := by omega
    have rest := Int.natAbs_tmod m n
    rw [unit, Nat.mod_one] at rest
    exact left (Int.natAbs_eq_zero.mp rest)
  exact natAbs_tdiv_le_half large m

theorem fits_of_up (divisor : n ≠ 0) (fits : FitsInt64 m) (up : RoundedUp m n (m.tmod n)) :
    FitsInt64 (m.tdiv n - 1) ∧ FitsInt64 (m.tdiv n) := by
  have half := natAbs_tdiv_le divisor up.1
  unfold FitsInt64 at *
  omega

/-- Rounding down makes no room and takes none away. -/
theorem fits_fdiv_iff (divisor : n ≠ 0) (fits : FitsInt64 m) :
    FitsInt64 (m.fdiv n) ↔ FitsInt64 (m.tdiv n) := by
  by_cases up : RoundedUp m n (m.tmod n)
  · obtain ⟨down, toward⟩ := fits_of_up divisor fits up
    rw [(fdiv_of_up divisor up).1]
    exact iff_of_true down toward
  · rw [(fdiv_of_not_up divisor up).1]

/-- The only quotient without room is that of the least integer by minus one. -/
theorem not_fits_fdiv_iff (divisor : n ≠ 0) (fits : FitsInt64 m) :
    ¬ FitsInt64 (m.fdiv n) ↔ m = -9223372036854775808 ∧ n = -1 := by
  rw [fits_fdiv_iff divisor fits]
  by_cases large : 2 ≤ n.natAbs
  · have half := natAbs_tdiv_le_half large m
    unfold FitsInt64 at *
    omega
  · have unit : n = 1 ∨ n = -1 := by omega
    rcases unit with rfl | rfl
    · rw [Int.tdiv_one]
      exact iff_of_false (not_not.mpr fits) fun ⟨_, negative⟩ => absurd negative (by decide)
    · rw [Int.tdiv_neg, Int.tdiv_one]
      unfold FitsInt64 at *
      omega

theorem fits_fmod (divisor : n ≠ 0) (fits : FitsInt64 n) (m : Int) : FitsInt64 (m.fmod n) := by
  have bounds := (floors_fdiv divisor m).side
  unfold FitsInt64 at *
  omega

theorem fits_tmod (divisor : n ≠ 0) (fits : FitsInt64 n) (m : Int) : FitsInt64 (m.tmod n) := by
  have bounds := (truncates_tdiv divisor m).small
  unfold FitsInt64 at *
  omega

end Stencil
