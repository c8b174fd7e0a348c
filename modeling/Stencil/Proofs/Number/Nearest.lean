import Mathlib.Algebra.Order.Field.Power
import Mathlib.Tactic.Linarith
import Mathlib.Tactic.NormNum
import Mathlib.Tactic.Positivity
import Stencil.Proofs.Number.Integers
import Stencil.Proofs.Number.Whole

/-!
# Rounding to the nearest number

A fraction becomes the nearest number of the format, and on a tie the one with the even mantissa
(`Binary64.rounds_ofRatio`).  Each mantissa and exponent cover the numbers up to halfway to their
neighbours (`Covers`); the fraction lies in what the mantissa and the exponent it is rounded to
cover, and whatever lies in there is nearest to them.
-/

namespace Stencil

/-! ## Rounding a quotient -/

theorem roundDiv_spec {n d : Nat} (positive : 0 < d) :
    (2 * n ≤ (2 * roundDiv n d + 1) * d ∧ 2 * roundDiv n d * d ≤ 2 * n + d) ∧
      ((2 * n = (2 * roundDiv n d + 1) * d ∨ 2 * roundDiv n d * d = 2 * n + d) →
        roundDiv n d % 2 = 0) := by
  have split : d * (n / d) + n % d = n := Nat.div_add_mod n d
  have small : n % d < d := Nat.mod_lt n positive
  unfold roundDiv
  dsimp only
  generalize n / d = q at split ⊢
  generalize n % d = r at split small ⊢
  rw [← split]
  split_ifs with up
  · have grown : 2 * (q + 1) * d = 2 * (d * q) + 2 * d := by ring
    have more : (2 * (q + 1) + 1) * d = 2 * (d * q) + 3 * d := by ring
    rw [grown, more]
    omega
  · have kept : 2 * q * d = 2 * (d * q) := by ring
    have more : (2 * q + 1) * d = 2 * (d * q) + d := by ring
    rw [kept, more]
    omega

/-- The exponent of the greatest power of two that is not above a quotient. -/
theorem floorLog2_spec {n d : Nat} (hn : n ≠ 0) (hd : d ≠ 0) :
    (2 : ℚ) ^ floorLog2 n d ≤ n / d ∧ (n / d : ℚ) < 2 ^ (floorLog2 n d + 1) := by
  have positive : (0 : ℚ) < d := by positivity
  have two : (2 : ℚ) ≠ 0 := by norm_num
  -- Both are known to a factor of two, so the quotient is known to a factor of four.
  have least : (2 : ℚ) ^ ((n.log2 : Int) - d.log2 - 1) ≤ n / d := by
    have numerator : (2 : ℚ) ^ n.log2 ≤ n := by exact_mod_cast Nat.log2_self_le hn
    have denominator : (d : ℚ) ≤ 2 ^ (d.log2 + 1) := by exact_mod_cast Nat.lt_log2_self.le
    rw [le_div_iff₀ positive]
    calc (2 : ℚ) ^ ((n.log2 : Int) - d.log2 - 1) * d
        ≤ 2 ^ ((n.log2 : Int) - d.log2 - 1) * 2 ^ (d.log2 + 1) := by gcongr
      _ = 2 ^ n.log2 := by
          rw [← zpow_natCast, ← zpow_add₀ two, ← zpow_natCast]
          congr 1
          push_cast
          ring
      _ ≤ n := numerator
  have most : (n / d : ℚ) < 2 ^ ((n.log2 : Int) - d.log2 + 1) := by
    have numerator : (n : ℚ) < 2 ^ (n.log2 + 1) := by exact_mod_cast Nat.lt_log2_self
    have denominator : (2 : ℚ) ^ d.log2 ≤ d := by exact_mod_cast Nat.log2_self_le hd
    rw [div_lt_iff₀ positive]
    calc (n : ℚ) < 2 ^ (n.log2 + 1) := numerator
      _ = 2 ^ ((n.log2 : Int) - d.log2 + 1) * 2 ^ d.log2 := by
          rw [← zpow_natCast, ← zpow_natCast, ← zpow_add₀ two]
          congr 1
          push_cast
          ring
      _ ≤ 2 ^ ((n.log2 : Int) - d.log2 + 1) * d := by gcongr
  have test (e : Int) : d * twoPow e.toNat ≤ n * twoPow (-e).toNat ↔ (2 : ℚ) ^ e ≤ n / d := by
    have below : (0 : ℚ) < twoPow (-e).toNat := by exact_mod_cast twoPow_pos _
    rw [zpow_eq_div, div_le_div_iff₀ below positive, mul_comm (twoPow e.toNat : ℚ)]
    exact_mod_cast Iff.rfl
  unfold floorLog2
  dsimp only
  split_ifs with fits
  · exact ⟨(test _).mp fits, most⟩
  · rw [sub_add_cancel]
    exact ⟨least, lt_of_not_ge fun le => fits ((test _).mpr le)⟩

/-! ## What a mantissa and an exponent cover -/

/-- The mantissa has 53 bits, or the exponent is the least one.  The exponent is not bounded
above. -/
structure IsNormal (m : Nat) (e : Int) : Prop where
  mantissa : m < 9007199254740992
  least : -1074 ≤ e
  full : 4503599627370496 ≤ m ∨ e = -1074

/-- How far below the number the halfway point to the next lower one is.  Below a power of two the
numbers are twice as close. -/
def halfBelow (m : Nat) (e : Int) : ℚ :=
  if m = 4503599627370496 ∧ e ≠ -1074 then 2 ^ e / 4 else 2 ^ e / 2

/-- The rational lies between the halfway points around `m * 2 ^ e`, and it is one of them only if
the mantissa is even. -/
structure Covers (m : Nat) (e : Int) (q : ℚ) : Prop where
  above : q ≤ m * 2 ^ e + 2 ^ e / 2
  below : m * 2 ^ e - halfBelow m e ≤ q
  even : q = m * 2 ^ e + 2 ^ e / 2 ∨ q = m * 2 ^ e - halfBelow m e → m % 2 = 0

theorem zpow_mul_of_le {e e' : Int} (le : e ≤ e') :
    ∃ k : Nat, (2 : ℚ) ^ e' = k * 2 ^ e := by
  obtain ⟨n, rfl⟩ := Int.le.dest le
  refine ⟨2 ^ n, ?_⟩
  rw [zpow_add₀ (by norm_num), zpow_natCast, mul_comm]
  push_cast
  rfl

section Neighbours

variable {m m' : Nat} {e e' : Int}

/-- A number of a lesser exponent stays below the numbers with 53 bits. -/
theorem lt_of_exponent_lt (own : IsNormal m e) (other : IsNormal m' e') (lt : e' < e) :
    4503599627370496 ≤ m ∧ (m' : ℚ) * 2 ^ e' ≤ 4503599627370496 * 2 ^ e - 2 ^ e / 2 := by
  have full : 4503599627370496 ≤ m := by
    have := own.full
    have := other.least
    omega
  have small : (m' : ℚ) ≤ 9007199254740991 := by
    have := other.mantissa
    exact_mod_cast Nat.le_of_lt_succ this
  have half : (2 : ℚ) ^ e' ≤ 2 ^ e / 2 := by
    have two : (2 : ℚ) ≠ 0 := two_ne_zero
    rw [div_eq_mul_inv, ← zpow_sub_one₀ two]
    exact zpow_le_zpow_right₀ one_le_two (by omega)
  refine ⟨full, ?_⟩
  calc (m' : ℚ) * 2 ^ e' ≤ 9007199254740991 * (2 ^ e / 2) := by gcongr
    _ = 4503599627370496 * 2 ^ e - 2 ^ e / 2 := by ring

/-- A number that is greater is greater by a unit of the last place at least. -/
theorem add_unit_le (own : IsNormal m e) (other : IsNormal m' e')
    (less : (m : ℚ) * 2 ^ e < m' * 2 ^ e') : (m : ℚ) * 2 ^ e + 2 ^ e ≤ m' * 2 ^ e' := by
  have unit : (0 : ℚ) < 2 ^ e := by positivity
  rcases lt_or_ge e' e with lt | le
  · obtain ⟨full, below⟩ := lt_of_exponent_lt own other lt
    have full : (4503599627370496 : ℚ) * 2 ^ e ≤ m * 2 ^ e := by
      gcongr
      exact_mod_cast full
    linarith
  · obtain ⟨k, scaled⟩ := zpow_mul_of_le le
    rw [scaled, ← mul_assoc] at less ⊢
    have more : (m : ℚ) < m' * k := lt_of_mul_lt_mul_right less unit.le
    have more : (m + 1 : ℚ) ≤ m' * k := by
      norm_cast at more ⊢
    rw [← add_one_mul]
    gcongr

theorem halfBelow_le (m : Nat) (e : Int) : halfBelow m e ≤ 2 ^ e / 2 := by
  have unit : (0 : ℚ) < 2 ^ e := by positivity
  unfold halfBelow
  split_ifs <;> linarith

theorem halfBelow_pos (m : Nat) (e : Int) : 0 < halfBelow m e := by
  unfold halfBelow
  split_ifs <;> positivity

/-- Among the numbers with 53 bits the least one has its halfway point closest below. -/
theorem sub_halfBelow_of_full (full : 4503599627370496 ≤ m) (above : e ≠ -1074) :
    (4503599627370496 : ℚ) * 2 ^ e - 2 ^ e / 4 ≤ m * 2 ^ e - halfBelow m e ∧
      (4503599627370496 : ℚ) * 2 ^ e - 2 ^ e / 2 ≤ m * 2 ^ e - 2 * halfBelow m e := by
  have unit : (0 : ℚ) < 2 ^ e := by positivity
  rcases Nat.eq_or_lt_of_le full with rfl | more
  · rw [halfBelow, if_pos ⟨rfl, above⟩]
    push_cast
    constructor <;> linarith
  · have more : (4503599627370497 : ℚ) * 2 ^ e ≤ m * 2 ^ e := by
      gcongr
      exact_mod_cast more
    have half := halfBelow_le m e
    constructor <;> linarith

/-- A number that is less is at least twice as far away as the halfway point. -/
theorem le_sub_halfBelow (own : IsNormal m e) (other : IsNormal m' e')
    (less : (m' : ℚ) * 2 ^ e' < m * 2 ^ e) :
    (m' : ℚ) * 2 ^ e' ≤ m * 2 ^ e - 2 * halfBelow m e := by
  have unit : (0 : ℚ) < 2 ^ e := by positivity
  rcases lt_or_ge e' e with lt | le
  · obtain ⟨full, below⟩ := lt_of_exponent_lt own other lt
    have above : e ≠ -1074 := by
      have := other.least
      omega
    exact below.trans (sub_halfBelow_of_full full above).2
  · obtain ⟨k, scaled⟩ := zpow_mul_of_le le
    rw [scaled, ← mul_assoc] at less ⊢
    have fewer : (m' * k : ℚ) < m := lt_of_mul_lt_mul_right less unit.le
    have fewer : (m' * k + 1 : ℚ) ≤ m := by
      norm_cast at fewer ⊢
    have step : ((m' * k : ℚ) + 1) * 2 ^ e ≤ m * 2 ^ e := by gcongr
    linarith [halfBelow_le m e]

end Neighbours

/-! ## Rounding -/

theorem IsNormal.zero : IsNormal 0 (-1074) := ⟨by decide, le_rfl, Or.inr rfl⟩

theorem Covers.zero {q : ℚ} (nonneg : 0 ≤ q) (small : q ≤ 2 ^ (-1074 : Int) / 2) :
    Covers 0 (-1074) q := by
  have unit : (0 : ℚ) < 2 ^ (-1074 : Int) := by positivity
  have half : halfBelow 0 (-1074) = 2 ^ (-1074 : Int) / 2 := rfl
  refine ⟨?_, ?_, fun _ => rfl⟩
  · rwa [Nat.cast_zero, zero_mul, zero_add]
  · rw [half, Nat.cast_zero, zero_mul]
    linarith

/-- So many units of the last place are covered by the nearest integer, unless they are less than a
power of two. -/
theorem Covers.of_units {k : Nat} {x : ℚ} (e : Int) (upper : x ≤ k + 1 / 2) (lower : k - 1 / 2 ≤ x)
    (tie : x = k + 1 / 2 ∨ x = k - 1 / 2 → k % 2 = 0)
    (power : k = 4503599627370496 ∧ e ≠ -1074 → 4503599627370496 ≤ x) : Covers k e (x * 2 ^ e) := by
  have unit : (0 : ℚ) < 2 ^ e := by positivity
  have above : (k : ℚ) * 2 ^ e + 2 ^ e / 2 = (k + 1 / 2) * 2 ^ e := by ring
  by_cases isPower : k = 4503599627370496 ∧ e ≠ -1074
  · have half : halfBelow k e = 2 ^ e / 4 := if_pos isPower
    have least := power isPower
    obtain ⟨rfl, -⟩ := isPower
    refine ⟨?_, ?_, fun _ => rfl⟩
    · rw [above]
      gcongr
    · rw [half]
      push_cast
      nlinarith
  · have half : halfBelow k e = 2 ^ e / 2 := if_neg isPower
    have below : (k : ℚ) * 2 ^ e - 2 ^ e / 2 = (k - 1 / 2) * 2 ^ e := by ring
    rw [← half] at below
    refine ⟨?_, ?_, fun ties => tie ?_⟩
    · rw [above]
      gcongr
    · rw [below]
      gcongr
    · rw [above, below] at ties
      exact ties.imp (mul_right_cancel₀ unit.ne') (mul_right_cancel₀ unit.ne')

/-- What is rounded up to 54 bits is covered by the power of two. -/
theorem Covers.of_carry {x : ℚ} {e : Int} (least : -1074 ≤ e) (upper : x < 9007199254740992)
    (lower : 9007199254740992 - 1 / 2 ≤ x) : Covers 4503599627370496 (e + 1) (x * 2 ^ e) := by
  have unit : (0 : ℚ) < 2 ^ e := by positivity
  have next : (2 : ℚ) ^ (e + 1) = 2 ^ e * 2 := zpow_add_one₀ two_ne_zero e
  have half : halfBelow 4503599627370496 (e + 1) = 2 ^ e / 2 := by
    rw [halfBelow, if_pos ⟨rfl, by omega⟩, next]
    ring
  refine ⟨?_, ?_, fun _ => rfl⟩
  · rw [next]
    push_cast
    nlinarith
  · rw [half, next]
    push_cast
    nlinarith

/-- The quotient in units of the last place, rounded, covers the quotient. -/
theorem covers_roundDiv {n d : Nat} {e : Int} (positive : 0 < d) (least : -1074 ≤ e)
    (small : (n / d : ℚ) < 9007199254740992)
    (full : (4503599627370496 : ℚ) ≤ n / d ∨ e = -1074) :
    let r := if roundDiv n d = twoPow 53 then (twoPow 52, e + 1) else (roundDiv n d, e)
    IsNormal r.1 r.2 ∧ Covers r.1 r.2 (n / d * 2 ^ e) := by
  have positive' : (0 : ℚ) < d := by exact_mod_cast positive
  obtain ⟨⟨upper, lower⟩, even⟩ := roundDiv_spec (n := n) positive
  have upper' : (n / d : ℚ) ≤ roundDiv n d + 1 / 2 := by
    rw [div_le_iff₀ positive']
    have : (2 * n : ℚ) ≤ (2 * roundDiv n d + 1) * d := by exact_mod_cast upper
    linarith
  have lower' : (roundDiv n d : ℚ) - 1 / 2 ≤ n / d := by
    rw [le_div_iff₀ positive']
    have : (2 * roundDiv n d * d : ℚ) ≤ 2 * n + d := by exact_mod_cast lower
    linarith
  have tie (half : (n / d : ℚ) = roundDiv n d + 1 / 2 ∨ (n / d : ℚ) = roundDiv n d - 1 / 2) :
      roundDiv n d % 2 = 0 := by
    rw [div_eq_iff positive'.ne', div_eq_iff positive'.ne'] at half
    refine even (half.imp (fun half => ?_) fun half => ?_)
    · have : (2 * n : ℚ) = (2 * roundDiv n d + 1) * d := by linarith
      exact_mod_cast this
    · have : (2 * roundDiv n d * d : ℚ) = 2 * n + d := by linarith
      exact_mod_cast this
  have most : roundDiv n d ≤ 9007199254740992 := by
    rw [div_lt_iff₀ positive'] at small
    exact roundDiv_le (by exact_mod_cast small)
  have carried : twoPow 53 = 9007199254740992 := rfl
  rw [carried]
  by_cases carry : roundDiv n d = 9007199254740992
  · rw [carry] at lower'
    have normal : IsNormal 4503599627370496 (e + 1) :=
      ⟨by decide, Int.le_add_one least, Or.inl le_rfl⟩
    rw [if_pos carry]
    exact ⟨normal, .of_carry least small (by exact_mod_cast lower')⟩
  · rw [if_neg carry]
    refine ⟨⟨Nat.lt_of_le_of_ne most carry, least, full.imp_left fun full => ?_⟩,
      .of_units e upper' lower' tie fun power => full.resolve_right power.2⟩
    rw [le_div_iff₀ positive'] at full
    exact le_roundDiv positive (by exact_mod_cast full)

/-- A fraction lies in what the mantissa and the exponent cover that it is rounded to. -/
theorem covers_round (num : Nat) {den : Nat} (hden : den ≠ 0) :
    let r := BinaryFormat.double.round num den
    IsNormal r.1 r.2 ∧ Covers r.1 r.2 (num / den) := by
  unfold BinaryFormat.round
  by_cases none : num = 0
  · subst none
    have zero : ((0 : Nat) / den : ℚ) = 0 := by rw [Nat.cast_zero, zero_div]
    rw [if_pos rfl, zero]
    exact ⟨.zero, .zero le_rfl (by positivity)⟩
  obtain ⟨least, most⟩ := floorLog2_spec none hden
  rw [if_neg none]
  generalize floorLog2 num den = l at least most ⊢
  -- In units of the last place the fraction is the quotient that is rounded.
  have scaled (e : Int) : (num / den : ℚ) =
      (num * twoPow (-e).toNat : Nat) / (den * twoPow e.toNat : Nat) * 2 ^ e := by
    have below : (twoPow (-e).toNat : ℚ) ≠ 0 := by exact_mod_cast (twoPow_pos _).ne'
    have above : (twoPow e.toNat : ℚ) ≠ 0 := by exact_mod_cast (twoPow_pos _).ne'
    have den : (den : ℚ) ≠ 0 := by exact_mod_cast hden
    rw [zpow_eq_div]
    push_cast
    field_simp
  have bits (k : Int) {e : Int} : (2 : ℚ) ^ (e + k) = 2 ^ k * 2 ^ e := by
    rw [zpow_add₀ two_ne_zero, mul_comm]
  have rounded (e : Int) (he : e = max (l - 52) (-1074)) :
      let r := if roundDiv (num * twoPow (-e).toNat) (den * twoPow e.toNat) = twoPow 53 then
        (twoPow 52, e + 1) else (roundDiv (num * twoPow (-e).toNat) (den * twoPow e.toNat), e)
      IsNormal r.1 r.2 ∧ Covers r.1 r.2 (num / den) := by
    have unit : (0 : ℚ) < 2 ^ e := by positivity
    rw [scaled e] at least most ⊢
    refine covers_roundDiv (Nat.mul_pos (Nat.pos_of_ne_zero hden) (twoPow_pos _)) (by omega) ?_ ?_
    · have wide : (2 : ℚ) ^ (l + 1) ≤ 2 ^ (e + 53) := zpow_le_zpow_right₀ one_le_two (by omega)
      rw [bits 53] at wide
      exact lt_of_mul_lt_mul_right (most.trans_le wide) unit.le
    · by_cases bottom : e = -1074
      · exact Or.inr bottom
      · have exact : l = e + 52 := by omega
        rw [exact, bits 52] at least
        exact Or.inl (le_of_mul_le_mul_right least unit)
  exact rounded _ rfl

/-! ## The nearest number -/

section Nearest

variable {m m' : Nat} {e e' : Int} {q : ℚ}

/-- No other number is nearer to what is covered, and one that is as near is at a tie, which goes to
the even mantissa. -/
theorem Covers.nearest (covers : Covers m e q) (own : IsNormal m e) (other : IsNormal m' e') :
    |(m : ℚ) * 2 ^ e - q| ≤ |m' * 2 ^ e' - q| ∧
      (|(m : ℚ) * 2 ^ e - q| = |m' * 2 ^ e' - q| → (m : ℚ) * 2 ^ e ≠ m' * 2 ^ e' → m % 2 = 0) := by
  obtain ⟨above, below, even⟩ := covers
  rcases lt_trichotomy ((m : ℚ) * 2 ^ e) (m' * 2 ^ e') with less | same | greater
  · have next := add_unit_le own other less
    have far : |(m' : ℚ) * 2 ^ e' - q| = m' * 2 ^ e' - q := abs_of_nonneg (by linarith)
    refine ⟨?_, fun tie differ => even (Or.inl ?_)⟩
    · rw [far]
      exact abs_le.mpr ⟨by linarith, by linarith⟩
    · rcases abs_eq_abs.mp tie with alike | opposite
      · exact absurd (by linarith) differ
      · linarith
  · rw [same]
    exact ⟨le_rfl, fun _ differ => absurd rfl differ⟩
  · have previous := le_sub_halfBelow own other greater
    have positive := halfBelow_pos m e
    have far : |(m' : ℚ) * 2 ^ e' - q| = q - m' * 2 ^ e' := by
      rw [abs_sub_comm]
      exact abs_of_nonneg (by linarith)
    refine ⟨?_, fun tie differ => even (Or.inr ?_)⟩
    · rw [far]
      exact abs_le.mpr ⟨by linarith, by linarith⟩
    · rcases abs_eq_abs.mp tie with alike | opposite
      · exact absurd (by linarith) differ
      · linarith

end Nearest

namespace Binary64

/-- The number without its sign, unless it is infinite or none. -/
def magnitude? (x : Binary64) : Option ℚ := x.value?.map fun v => |v|

theorem magnitude?_finite (n : Bool) (m : Nat) (e : Int) (canonical : Canonical m e) :
    (finite n m e canonical).magnitude? = some ((m : ℚ) * 2 ^ e) := by
  have unit : (0 : ℚ) < 2 ^ e := by positivity
  have nonneg : (0 : ℚ) ≤ m * 2 ^ e := by positivity
  rw [magnitude?, value?, Option.map_some]
  cases n with
  | false => exact congrArg some (abs_of_nonneg nonneg)
  | true =>
    rw [if_pos rfl, neg_mul, abs_neg]
    exact congrArg some (abs_of_nonneg nonneg)

/-- The last bit of the mantissa is zero. -/
def IsEven : Binary64 → Prop
  | .finite _ m _ _ => m % 2 = 0
  | _ => False

/-- The number is what a sign and a rational without a sign are rounded to: the nearest number, on a
tie the one with the even mantissa, and an infinity from halfway to the first power of two that is
out of the format. -/
structure Rounds (negative : Bool) (q : ℚ) (x : Binary64) : Prop where
  notNaN : x.isNaN = false
  sign : x.isNegative = negative
  finite : x.isFinite = true ↔ q < 2 ^ 1024 - 2 ^ 970
  nearest : ∀ v, x.magnitude? = some v → ∀ (y : Binary64) w, y.magnitude? = some w →
    |v - q| ≤ |w - q|
  even : ∀ v, x.magnitude? = some v → ∀ (y : Binary64) w, y.magnitude? = some w →
    |v - q| = |w - q| → v ≠ w → x.IsEven

theorem exists_of_magnitude? {x : Binary64} {v : ℚ} (magnitude : x.magnitude? = some v) :
    ∃ m e, IsNormal m e ∧ v = m * 2 ^ e := by
  cases x with
  | nan | infinite => cases magnitude
  | finite n m e canonical =>
    have normal : IsNormal m e := ⟨canonical.1, canonical.2.1, canonical.2.2.2⟩
    rw [magnitude?_finite] at magnitude
    exact ⟨m, e, normal, (Option.some.inj magnitude).symm⟩

theorem overflow_eq : (2 : ℚ) ^ 1024 - 2 ^ 970 = (9007199254740992 - 1 / 2) * 2 ^ (971 : Int) := by
  have whole : (2 : ℚ) ^ 1024 = 18014398509481984 * 2 ^ 970 := by
    rw [show 1024 = 54 + 970 from rfl, pow_add]
    norm_num only
  have unit : (2 : ℚ) ^ (971 : Int) = 2 * 2 ^ 970 := by
    rw [show (971 : Int) = (970 : Nat) + 1 from rfl, zpow_add_one₀ two_ne_zero, zpow_natCast,
      mul_comm]
  rw [whole, unit]
  generalize (2 : ℚ) ^ 970 = half
  ring

/-- What a number of the format covers lies below the infinities. -/
theorem lt_overflow {m : Nat} {e : Int} {q : ℚ} (small : m < 9007199254740992) (within : e ≤ 971)
    (covers : Covers m e q) : q < 2 ^ 1024 - 2 ^ 970 := by
  have unit : (0 : ℚ) < 2 ^ e := by positivity
  have top : (2 : ℚ) ^ e ≤ 2 ^ (971 : Int) := zpow_le_zpow_right₀ one_le_two within
  rw [overflow_eq]
  generalize (2 : ℚ) ^ (971 : Int) = last at top ⊢
  have bound {k : ℚ} (le : (m : ℚ) ≤ k) (nonneg : 0 ≤ k) :
      (m : ℚ) * 2 ^ e + 2 ^ e / 2 ≤ (k + 1 / 2) * last :=
    calc (m : ℚ) * 2 ^ e + 2 ^ e / 2 = (m + 1 / 2) * 2 ^ e := by ring
      _ ≤ (k + 1 / 2) * last := by gcongr
  by_contra beyond
  rw [not_lt] at beyond
  have most := @bound 9007199254740991 (by exact_mod_cast Nat.le_of_lt_succ small) (by norm_num)
  -- So it is the halfway point above the greatest number, whose mantissa is odd.
  have even := covers.even (Or.inl (le_antisymm covers.above (by linarith)))
  have less : m ≤ 9007199254740990 := by omega
  have short := @bound 9007199254740990 (by exact_mod_cast less) (by norm_num)
  linarith [covers.above]

theorem overflow_le {m : Nat} {e : Int} {q : ℚ} (full : 4503599627370496 ≤ m) (beyond : 971 < e)
    (covers : Covers m e q) : 2 ^ 1024 - 2 ^ 970 ≤ q := by
  have top : (2 : ℚ) ^ (971 : Int) * 2 ≤ 2 ^ e := by
    rw [← zpow_add_one₀ two_ne_zero]
    exact zpow_le_zpow_right₀ one_le_two beyond
  rw [overflow_eq]
  generalize (2 : ℚ) ^ (971 : Int) = last at top ⊢
  have halfway := (sub_halfBelow_of_full full (show e ≠ -1074 by omega)).1
  linarith [covers.below]

theorem rounds_infinite (negative : Bool) {q : ℚ} (beyond : 2 ^ 1024 - 2 ^ 970 ≤ q) :
    Rounds negative q (infinite negative) where
  notNaN := rfl
  sign := rfl
  finite := ⟨fun isFinite => Bool.noConfusion isFinite, fun lt => absurd lt beyond.not_gt⟩
  nearest _ magnitude := by cases magnitude
  even _ magnitude := by cases magnitude

theorem rounds_ofParts {m : Nat} {e : Int} {q : ℚ} (normal : IsNormal m e) (covers : Covers m e q)
    (negative : Bool) : Rounds negative q (ofParts negative m e) := by
  unfold ofParts
  split
  next canonical =>
    have below := lt_overflow normal.mantissa canonical.2.2.1 covers
    refine ⟨rfl, rfl, ⟨fun _ => below, fun _ => rfl⟩, ?_, ?_⟩
    all_goals rw [magnitude?_finite]
    · rintro v ⟨⟩ y w other
      obtain ⟨m', e', otherNormal, rfl⟩ := exists_of_magnitude? other
      exact (covers.nearest normal otherNormal).1
    · rintro v ⟨⟩ y w other tie differ
      obtain ⟨m', e', otherNormal, rfl⟩ := exists_of_magnitude? other
      exact (covers.nearest normal otherNormal).2 tie differ
  next not =>
    have beyond : 971 < e := by
      by_contra within
      exact not ⟨normal.mantissa, normal.least, by omega, normal.full⟩
    have full : 4503599627370496 ≤ m := by
      have := normal.full
      omega
    exact rounds_infinite negative (overflow_le full beyond covers)

/-- A fraction is rounded to the nearest number. -/
theorem rounds_ofRatio (negative : Bool) (num : Nat) {den : Nat} (hden : den ≠ 0) :
    Rounds negative (num / den) (ofRatio negative num den) :=
  have rounded := covers_round num hden
  rounds_ofParts rounded.1 rounded.2 negative

end Binary64

end Stencil
