import Stencil.Number.Bounds
import Stencil.Proofs.Number.Order

/-!
# Integers as floating point numbers

The floating point number that an integer becomes is the integer rounded to the first 53 bits
(`Binary64.ofInt_eq`).  Rounding keeps the order (`Binary64.totalCompare_ofInt`) and is exact below
`2 ^ 53`, so two integers that become one number both have at least this size
(`Binary64.ofInt_inj`).
-/

namespace Stencil

/-! ## Rounding a quotient -/

theorem roundDiv_one (n : Nat) : roundDiv n 1 = n := by
  simp [roundDiv, Nat.mod_one]

theorem roundDiv_cases (n d : Nat) :
    (roundDiv n d = n / d ∧ 2 * (n % d) ≤ d) ∨ (roundDiv n d = n / d + 1 ∧ d ≤ 2 * (n % d)) := by
  simp only [roundDiv]
  split <;> omega

theorem le_roundDiv {n d k : Nat} (positive : 0 < d) (le : k * d ≤ n) : k ≤ roundDiv n d := by
  have quotient := (Nat.le_div_iff_mul_le positive).2 le
  have := roundDiv_cases n d
  omega

theorem roundDiv_le {n d k : Nat} (lt : n < k * d) : roundDiv n d ≤ k := by
  have quotient := Nat.div_lt_of_lt_mul (Nat.mul_comm k d ▸ lt)
  have := roundDiv_cases n d
  omega

theorem roundDiv_mono {m n : Nat} (le : m ≤ n) (d : Nat) : roundDiv m d ≤ roundDiv n d := by
  rcases Nat.lt_or_eq_of_le (Nat.div_le_div_right (c := d) le) with less | same
  · have := roundDiv_cases m d
    have := roundDiv_cases n d
    omega
  · -- With one quotient, the remainder decides whether the next integer is nearer.
    have first := Nat.div_add_mod m d
    have second := Nat.div_add_mod n d
    rw [same] at first
    have rest : m % d ≤ n % d := by omega
    simp only [roundDiv, same]
    split <;> split <;> omega

/-! ## The first bits of a natural number -/

/-- How many bits of a natural number stand behind the first 53. -/
def lowBits (n : Nat) : Nat := n.log2 - 52

/-- The natural number rounded to its first 53 bits. -/
def keepBits (n : Nat) : Nat := roundDiv n (2 ^ lowBits n) * 2 ^ lowBits n

theorem keepBits_of_lt {n : Nat} (small : n < 9007199254740992) : keepBits n = n := by
  have none : lowBits n = 0 := by
    rcases Nat.eq_zero_or_pos n with rfl | positive
    · rfl
    · have := (Nat.log2_lt (Nat.ne_of_gt positive)).2 (show n < 2 ^ 53 from small)
      unfold lowBits
      omega
  rw [keepBits, none, Nat.pow_zero, roundDiv_one, Nat.mul_one]

/-- The first 53 bits of a natural number as an integer of this length, rounded. -/
def significand (n : Nat) : Nat := roundDiv (n * 2 ^ (52 - n.log2)) (2 ^ lowBits n)

/-- Only rounding up can make a significand of 54 bits, which is a power of two. -/
theorem significand_bounds {n : Nat} (positive : n ≠ 0) :
    2 ^ 52 ≤ significand n ∧ significand n ≤ 2 ^ 53 := by
  have shift : 52 + lowBits n = n.log2 + (52 - n.log2) := by
    unfold lowBits
    omega
  constructor
  · refine le_roundDiv (Nat.two_pow_pos _) ?_
    rw [← Nat.pow_add, shift, Nat.pow_add]
    exact Nat.mul_le_mul_right _ (Nat.log2_self_le positive)
  · refine roundDiv_le ?_
    rw [← Nat.pow_add, show 53 + lowBits n = n.log2 + 1 + (52 - n.log2) by omega, Nat.pow_add]
    exact Nat.mul_lt_mul_of_pos_right Nat.lt_log2_self (Nat.two_pow_pos _)

theorem keepBits_eq {n : Nat} (long : 52 ≤ n.log2) :
    keepBits n = significand n * 2 ^ lowBits n := by
  rw [keepBits, significand, Nat.sub_eq_zero_of_le long, Nat.pow_zero, Nat.mul_one]

/-- A number of more than 53 bits keeps its first bit or becomes the next power of two. -/
theorem keepBits_bounds {n : Nat} (large : 9007199254740992 ≤ n) :
    2 ^ n.log2 ≤ keepBits n ∧ keepBits n ≤ 2 ^ (n.log2 + 1) := by
  have long : 52 ≤ n.log2 := (Nat.le_log2 (by omega)).2 (by omega)
  obtain ⟨least, most⟩ := significand_bounds (n := n) (by omega)
  have shift : 52 + lowBits n = n.log2 := Nat.add_sub_cancel' long
  rw [keepBits_eq long, ← shift, show 52 + lowBits n + 1 = 53 + lowBits n by omega, Nat.pow_add,
    Nat.pow_add]
  exact ⟨Nat.mul_le_mul_right _ least, Nat.mul_le_mul_right _ most⟩

theorem keepBits_mono {m n : Nat} (le : m ≤ n) : keepBits m ≤ keepBits n := by
  by_cases small : m < 9007199254740992
  · by_cases smaller : n < 9007199254740992
    · rwa [keepBits_of_lt small, keepBits_of_lt smaller]
    · have power : 2 ^ 53 ≤ 2 ^ n.log2 :=
        Nat.pow_le_pow_right (by decide) ((Nat.le_log2 (by omega)).2 (by omega))
      have := (keepBits_bounds (Nat.le_of_not_lt smaller)).1
      rw [keepBits_of_lt small]
      omega
  · have positive : m ≠ 0 := by omega
    have logs : m.log2 ≤ n.log2 :=
      (Nat.le_log2 (by omega)).2 (Nat.le_trans (Nat.log2_self_le positive) le)
    rcases Nat.lt_or_eq_of_le logs with less | same
    · -- The smaller number does not come beyond the power of two that the greater one keeps.
      calc keepBits m ≤ 2 ^ (m.log2 + 1) := (keepBits_bounds (by omega)).2
        _ ≤ 2 ^ n.log2 := Nat.pow_le_pow_right (by decide) less
        _ ≤ keepBits n := (keepBits_bounds (by omega)).1
    · rw [keepBits, keepBits, show lowBits n = lowBits m by rw [lowBits, lowBits, same]]
      exact Nat.mul_le_mul_right _ (roundDiv_mono le _)

/-- Below `2 ^ 53` nothing is rounded, and nothing is rounded to there. -/
theorem keepBits_inj {m n : Nat} (same : keepBits m = keepBits n) (small : m < 9007199254740992) :
    m = n := by
  rw [keepBits_of_lt small] at same
  by_cases smaller : n < 9007199254740992
  · rwa [keepBits_of_lt smaller] at same
  · have power : 2 ^ 53 ≤ 2 ^ n.log2 :=
      Nat.pow_le_pow_right (by decide) ((Nat.le_log2 (by omega)).2 (by omega))
    have := (keepBits_bounds (Nat.le_of_not_lt smaller)).1
    omega

/-! ## Rounding to the format -/

theorem floorLog2_natural {n : Nat} (positive : n ≠ 0) : floorLog2 n 1 = n.log2 := by
  have power : twoPow ((n.log2 : Int) - (Nat.log2 1 : Int)).toNat = 2 ^ n.log2 := by
    rw [twoPow_eq]
    rfl
  have below : 1 * twoPow ((n.log2 : Int) - (Nat.log2 1 : Int)).toNat ≤
      n * twoPow (-((n.log2 : Int) - (Nat.log2 1 : Int))).toNat := by
    rw [power, Nat.one_mul]
    exact Nat.le_trans (Nat.log2_self_le positive) (Nat.le_mul_of_pos_right _ (twoPow_pos _))
  simp only [floorLog2, if_pos below]
  exact Int.sub_zero _

/-- One as a multiple of the least positive number. -/
def oneMultiple : Nat := twoPow 1074

theorem significand_mul (n : Nat) :
    significand n * 2 ^ (n.log2 + 1022) = keepBits n * oneMultiple := by
  rcases Nat.lt_or_ge n.log2 52 with short | long
  · have none : lowBits n = 0 := Nat.sub_eq_zero_of_le (Nat.le_of_lt short)
    have whole : 2 ^ (52 - n.log2) * 2 ^ (n.log2 + 1022) = oneMultiple :=
      (twoPow_add _ _).symm.trans (congrArg twoPow (by omega))
    rw [significand, keepBits, none, Nat.pow_zero, roundDiv_one, roundDiv_one, Nat.mul_one,
      Nat.mul_assoc, whole]
  · have whole : 2 ^ (n.log2 + 1022) = 2 ^ lowBits n * oneMultiple := by
      rw [show n.log2 + 1022 = lowBits n + 1074 by unfold lowBits; omega]
      exact twoPow_add _ _
    rw [keepBits_eq long, whole, Nat.mul_assoc]

/-- A natural number that is not too large is rounded to its first bits. -/
theorem round_natural {n : Nat} (bounded : n ≤ 9223372036854775808) :
    ∃ m e, BinaryFormat.double.round n 1 = (m, e) ∧ Canonical m e ∧
      m * 2 ^ (e + 1074).toNat = keepBits n * oneMultiple := by
  rcases Nat.eq_zero_or_pos n with rfl | positive
  · exact ⟨0, -1074, rfl, by decide, by rw [keepBits_of_lt (by decide), Nat.zero_mul, Nat.zero_mul]⟩
  have nonzero : n ≠ 0 := Nat.ne_of_gt positive
  have short : n.log2 < 64 := (Nat.log2_lt nonzero).2 (by omega)
  obtain ⟨least, most⟩ := significand_bounds nonzero
  have exponent : max ((n.log2 : Int) - ((53 : Nat) - 1)) (-1074) = (n.log2 : Int) - 52 := by omega
  have rounded : BinaryFormat.double.round n 1 =
      if significand n = 2 ^ 53 then (2 ^ 52, (n.log2 : Int) - 52 + 1)
      else (significand n, (n.log2 : Int) - 52) := by
    simp only [BinaryFormat.round, BinaryFormat.double, if_neg nonzero, floorLog2_natural nonzero,
      exponent, twoPow_eq, Nat.one_mul, significand, lowBits]
    rw [show (-((n.log2 : Int) - 52)).toNat = 52 - n.log2 by omega,
      show ((n.log2 : Int) - 52).toNat = n.log2 - 52 by omega]
    rfl
  by_cases carries : significand n = 2 ^ 53
  · refine ⟨_, _, rounded.trans (if_pos carries), ⟨by decide, by omega, by omega, by omega⟩, ?_⟩
    rw [← significand_mul, carries, show (2 : Nat) ^ 53 = 2 ^ 52 * 2 ^ 1 from rfl,
      show ((n.log2 : Int) - 52 + 1 + 1074).toNat = 1 + (n.log2 + 1022) by omega, Nat.pow_add,
      Nat.mul_assoc]
  · refine ⟨_, _, rounded.trans (if_neg carries), ⟨by omega, by omega, by omega, by omega⟩, ?_⟩
    rw [← significand_mul, show ((n.log2 : Int) - 52 + 1074).toNat = n.log2 + 1022 by omega]

/-! ## Integers -/

/-- The integer rounded to its first 53 bits. -/
def keepIntBits (n : Int) : Int :=
  if n < 0 then -(keepBits n.natAbs : Int) else (keepBits n.natAbs : Int)

theorem keepIntBits_of_lt {n : Int} (small : n.natAbs < 9007199254740992) : keepIntBits n = n := by
  rw [keepIntBits, keepBits_of_lt small]
  split <;> omega

theorem natAbs_keepIntBits (n : Int) : (keepIntBits n).natAbs = keepBits n.natAbs := by
  unfold keepIntBits
  split <;> omega

theorem keepIntBits_mono {m n : Int} (le : m ≤ n) : keepIntBits m ≤ keepIntBits n := by
  unfold keepIntBits
  by_cases negative : m < 0
  · by_cases below : n < 0
    · have := keepBits_mono (show n.natAbs ≤ m.natAbs by omega)
      rw [if_pos negative, if_pos below]
      omega
    · rw [if_pos negative, if_neg below]
      omega
  · have := keepBits_mono (show m.natAbs ≤ n.natAbs by omega)
    rw [if_neg negative, if_neg (by omega)]
    omega

namespace Binary64

/-- Of an integer of 64 bits the first 53 are kept, and its sign. -/
theorem ofInt_eq {n : Int} (fits : FitsInt64 n) :
    ∃ m e h, ofInt n = .finite (decide (n < 0)) m e h ∧
      multiple (decide (n < 0)) m e = keepIntBits n * oneMultiple := by
  obtain ⟨m, e, rounded, canonical, size⟩ := round_natural (n := n.natAbs) (by
    unfold FitsInt64 at fits
    omega)
  refine ⟨m, e, canonical, ?_, ?_⟩
  · simp only [ofInt, ofRatio, rounded, ofParts, dif_pos canonical]
  · rw [multiple_eq, size, keepIntBits, Nat.cast_mul]
    by_cases negative : n < 0
    · rw [decide_eq_true negative, if_pos rfl, if_pos negative, Int.neg_mul]
    · rw [decide_eq_false negative, if_neg Bool.false_ne_true, if_neg negative]

theorem place?_ofInt {n : Int} (fits : FitsInt64 n) :
    (ofInt n).place? = some (.inr (keepIntBits n * oneMultiple)) := by
  obtain ⟨m, e, h, rounded, size⟩ := ofInt_eq fits
  rw [rounded, place?, size]

/-- A greater integer does not become a smaller number. -/
theorem totalCompare_ofInt {m n : Int} (fits : FitsInt64 m) (fitsToo : FitsInt64 n) (le : m ≤ n) :
    (ofInt m).totalCompare (ofInt n) ≠ .gt := by
  obtain ⟨_, _, h₁, first, size₁⟩ := ofInt_eq fits
  obtain ⟨_, _, h₂, second, size₂⟩ := ofInt_eq fitsToo
  have sizes : keepIntBits m * (oneMultiple : Int) ≤ keepIntBits n * oneMultiple :=
    Int.mul_le_mul_of_nonneg_right (keepIntBits_mono le) (Int.natCast_nonneg _)
  rw [first, second, totalCompare, compareFinite_eq h₁ h₂, size₁, size₂, Ne, Ordering.then_eq_gt,
    compare_gt_iff_gt]
  rintro (greater | ⟨-, signs⟩)
  · exact Int.not_le.2 greater sizes
  · by_cases negative : n < 0
    · rw [decide_eq_true negative, decide_eq_true (show m < 0 by omega)] at signs
      cases signs
    · rw [decide_eq_false negative] at signs
      revert signs
      cases decide (m < 0) <;> decide

/-- Two integers become one number only if they are one, or both have at least 54 bits. -/
theorem ofInt_inj {m n : Int} (fits : FitsInt64 m) (fitsToo : FitsInt64 n)
    (same : (ofInt m).place? = (ofInt n).place?) (small : m.natAbs < 9007199254740992) : m = n := by
  rw [place?_ofInt fits, place?_ofInt fitsToo] at same
  have positive : (oneMultiple : Int) ≠ 0 := Int.natCast_ne_zero.2 (Nat.ne_of_gt (twoPow_pos 1074))
  have kept := Int.eq_of_mul_eq_mul_right positive (Sum.inr.inj (Option.some.inj same))
  have sizes : m.natAbs = n.natAbs := by
    refine keepBits_inj ?_ small
    rw [← natAbs_keepIntBits, ← natAbs_keepIntBits, kept]
  rwa [keepIntBits_of_lt small, keepIntBits_of_lt (sizes ▸ small)] at kept

theorem size_of_ofInt {m n : Int} (fits : FitsInt64 m) (fitsToo : FitsInt64 n)
    (same : (ofInt m).place? = (ofInt n).place?) (differ : m ≠ n) :
    9007199254740992 ≤ m.natAbs ∧ 9007199254740992 ≤ n.natAbs := by
  constructor
  · by_contra small
    exact differ (ofInt_inj fits fitsToo same (by omega))
  · by_contra small
    exact differ (ofInt_inj fitsToo fits same.symm (by omega)).symm

end Binary64

end Stencil
