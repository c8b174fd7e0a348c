import Mathlib.Data.Rat.Cast.Order
import Mathlib.Tactic.FieldSimp
import Mathlib.Tactic.Ring
import Stencil.Number.Binary64

/-!
# Whole floating point numbers

The rational number that a finite number is (`Binary64.value?`).  The test for whole numbers accepts
exactly those whose value is an integer (`Binary64.isInteger_iff`), and what such a number is
converted to is this integer, or the bound of 64 bits that it lies beyond
(`Binary64.toInt64_of_value`).
-/

namespace Stencil

/-- A power with an exponent that may be negative, as a fraction. -/
theorem zpow_eq_pow_div (b : ℚ) (e : Int) : b ^ e = b ^ e.toNat / b ^ (-e).toNat := by
  rcases Int.le_total 0 e with nonneg | nonpos
  · obtain ⟨n, rfl⟩ := Int.eq_ofNat_of_zero_le nonneg
    have none : (-(n : Int)).toNat = 0 := by omega
    rw [none, Int.toNat_natCast, pow_zero, div_one, zpow_natCast]
  · obtain ⟨n, rfl⟩ := Int.exists_eq_neg_ofNat nonpos
    have none : (-(n : Int)).toNat = 0 := by omega
    rw [none, neg_neg, Int.toNat_natCast, pow_zero, one_div, zpow_neg, zpow_natCast]

theorem cast_twoPow (n : Nat) : (twoPow n : ℚ) = 2 ^ n := Nat.cast_pow 2 n

theorem zpow_eq_div (e : Int) : (2 : ℚ) ^ e = twoPow e.toNat / twoPow (-e).toNat := by
  rw [zpow_eq_pow_div, cast_twoPow, cast_twoPow]

/-- One of the two powers of two by which an exponent is said is one. -/
theorem twoPow_eq_one_or (e : Int) : twoPow e.toNat = 1 ∨ twoPow (-e).toNat = 1 := by
  rcases Int.le_total 0 e with nonneg | nonpos
  · right
    rw [show (-e).toNat = 0 by omega, twoPow_zero]
  · left
    rw [show e.toNat = 0 by omega, twoPow_zero]

/-- The fraction of `m * p` and `d`, of which `p` or `d` is one, is an integer exactly if `d` divides
`m`. -/
theorem mul_eq_mul_iff {m p d : Nat} (positive : 0 < d) (one : p = 1 ∨ d = 1) (k : Int) :
    (m : Int) * p = k * d ↔ m % d = 0 ∧ (m : Int) * p / d = k := by
  constructor
  · intro same
    have divides : d ∣ m * p := by
      have := Dvd.intro_left k same.symm
      exact_mod_cast this
    constructor
    · rcases one with rfl | rfl
      · rw [Nat.mul_one] at divides
        exact Nat.mod_eq_zero_of_dvd divides
      · exact Nat.mod_one m
    · rw [same]
      exact Int.mul_ediv_cancel k (by omega)
  · rintro ⟨whole, rfl⟩
    have divides : (d : Int) ∣ m := Int.natCast_dvd_natCast.mpr (Nat.dvd_of_mod_eq_zero whole)
    exact (Int.ediv_mul_cancel (Dvd.dvd.mul_right divides _)).symm

namespace Binary64

/-- The number that a finite number is. -/
def value? : Binary64 → Option ℚ
  | .finite n m e _ => some ((if n then -(m : ℚ) else m) * 2 ^ e)
  | _ => none

variable {n : Bool} {m : Nat} {e k : Int}

theorem value_eq (n : Bool) (m : Nat) (e : Int) :
    (if n then -(m : ℚ) else m) * 2 ^ e =
      ((if n then -(m : Int) else m) * twoPow e.toNat : Int) / twoPow (-e).toNat := by
  rw [zpow_eq_div]
  cases n <;> push_cast <;> ring

/-- A finite number is an integer exactly if its mantissa has no bits behind the point, and then it
is its integer part. -/
theorem value_eq_int_iff :
    (if n then -(m : ℚ) else m) * 2 ^ e = k ↔
      m % twoPow (-e).toNat = 0 ∧ truncated n m e = k := by
  have positive := twoPow_pos (-e).toNat
  have one := twoPow_eq_one_or e
  have crossed : (if n then -(m : ℚ) else m) * 2 ^ e = k ↔
      (if n then -(m : Int) else m) * twoPow e.toNat = k * twoPow (-e).toNat := by
    rw [value_eq, div_eq_iff (Nat.cast_ne_zero.mpr positive.ne')]
    exact_mod_cast Iff.rfl
  rw [crossed, truncated]
  cases n with
  | false => exact mul_eq_mul_iff positive one k
  | true =>
    have mirrored : -(m : Int) * twoPow e.toNat = k * twoPow (-e).toNat ↔
        (m : Int) * twoPow e.toNat = -k * twoPow (-e).toNat := by
      rw [Int.neg_mul, Int.neg_mul, Int.neg_eq_comm, eq_comm]
    rw [if_pos rfl, if_pos rfl, mirrored, mul_eq_mul_iff positive one (-k), Int.neg_eq_comm,
      eq_comm (a := -k)]

/-- The numbers that pass for integers are those whose value is one. -/
theorem isInteger_iff (x : Binary64) : x.isInteger = true ↔ ∃ k : Int, x.value? = some (k : ℚ) := by
  cases x with
  | nan | infinite => exact ⟨nofun, nofun⟩
  | finite n m e h =>
    simp only [isInteger, value?, beq_iff_eq, Option.some.injEq, value_eq_int_iff,
      exists_and_left, exists_eq', and_true]

/-- An integer is converted to itself, or to the bound of 64 bits that it lies beyond. -/
theorem toInt64_of_value {x : Binary64} (value : x.value? = some (k : ℚ)) :
    x.toInt64 = clampInt64 k := by
  cases x with
  | nan | infinite => cases value
  | finite n m e h =>
    rw [value?, Option.some.injEq, value_eq_int_iff] at value
    rw [toInt64, value.2]

end Binary64

end Stencil
