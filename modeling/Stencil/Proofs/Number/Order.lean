import Mathlib.Algebra.Order.Ring.Int
import Mathlib.Order.Compare
import Stencil.Number.Binary64

/-!
# The orders of floating point numbers

Every finite number is a multiple of the least positive one, `2 ^ -1074`, and the order by value is
the order of these multiples (`Binary64.compareFinite_eq`).  So the total order is lexicographic: by
class, by multiple, and by sign among the zeros.  It tells all numbers apart, while two numbers are
equal if they have the same place on the line of the numbers (`Binary64.equals_iff`).
-/

namespace Stencil

theorem twoPow_eq (n : Nat) : twoPow n = 2 ^ n := rfl

theorem twoPow_add (m n : Nat) : twoPow (m + n) = twoPow m * twoPow n := Nat.pow_add 2 m n

/-- What does not stand behind another does not stand behind what the other does not stand behind. -/
theorem compare_trans {α : Type} (cmp : α → α → Ordering) [Std.TransCmp cmp] {x y z : α}
    (first : cmp x y ≠ .gt) (second : cmp y z ≠ .gt) : cmp x z ≠ .gt := by
  rw [Ne, ← Ordering.isLE_iff_ne_gt] at *
  exact Std.TransCmp.isLE_trans first second

namespace Binary64

/-! ## Multiples of the least positive number -/

/-- A finite number as a multiple of the least positive one. -/
def multiple (negative : Bool) (mantissa : Nat) (exponent : Int) : Int :=
  scaled negative mantissa exponent (-1074)

theorem multiple_eq (negative : Bool) (mantissa : Nat) (exponent : Int) :
    multiple negative mantissa exponent =
      if negative then -((mantissa * 2 ^ (exponent + 1074).toNat : Nat) : Int)
      else ((mantissa * 2 ^ (exponent + 1074).toNat : Nat) : Int) := by
  simp only [multiple, scaled, twoPow_eq, Int.sub_neg, Nat.cast_mul]

/-- At a base between the least exponent and its own, a number is scaled by less. -/
theorem scaled_mul {base exponent : Int} (least : -1074 ≤ base) (own : base ≤ exponent)
    (negative : Bool) (mantissa : Nat) :
    scaled negative mantissa exponent base * (2 : Int) ^ (base + 1074).toNat =
      multiple negative mantissa exponent := by
  have split : (exponent + 1074).toNat = (exponent - base).toNat + (base + 1074).toNat := by omega
  rw [multiple_eq, split, Nat.pow_add, ← Nat.mul_assoc]
  cases negative <;> simp [scaled, twoPow_eq]

/-- Finite numbers are ordered as their multiples are. -/
theorem compareFinite_eq {n₁ n₂ : Bool} {m₁ m₂ : Nat} {e₁ e₂ : Int} (h₁ : Canonical m₁ e₁)
    (h₂ : Canonical m₂ e₂) :
    compareFinite n₁ m₁ e₁ n₂ m₂ e₂ = compare (multiple n₁ m₁ e₁) (multiple n₂ m₂ e₂) := by
  have least : -1074 ≤ min e₁ e₂ := le_min h₁.2.1 h₂.2.1
  have positive : (0 : Int) < 2 ^ (min e₁ e₂ + 1074).toNat := Int.pow_pos (by decide)
  rw [← scaled_mul least (min_le_left e₁ e₂), ← scaled_mul least (min_le_right e₁ e₂),
    ← cmp_eq_compare, cmp_mul_pos_right positive, cmp_eq_compare]
  rfl

/-- A multiple has one canonical form: a mantissa cannot be halved without loss of its first bit. -/
theorem canonical_unique {m₁ m₂ : Nat} {e₁ e₂ : Int} (h₁ : Canonical m₁ e₁) (h₂ : Canonical m₂ e₂)
    (same : m₁ * 2 ^ (e₁ + 1074).toNat = m₂ * 2 ^ (e₂ + 1074).toNat) : m₁ = m₂ ∧ e₁ = e₂ := by
  wlog le : e₁ ≤ e₂ generalizing m₁ m₂ e₁ e₂
  · obtain ⟨mantissa, exponent⟩ := this h₂ h₁ same.symm (by omega)
    exact ⟨mantissa.symm, exponent.symm⟩
  obtain ⟨bound₁, least₁, -, -⟩ := h₁
  obtain ⟨-, -, -, first₂⟩ := h₂
  have split : (e₂ + 1074).toNat = (e₂ - e₁).toNat + (e₁ + 1074).toNat := by omega
  rw [split, Nat.pow_add, ← Nat.mul_assoc] at same
  replace same := Nat.eq_of_mul_eq_mul_right (Nat.two_pow_pos _) same
  rcases Nat.eq_zero_or_pos (e₂ - e₁).toNat with zero | positive
  · rw [zero, Nat.pow_zero, Nat.mul_one] at same
    exact ⟨same, by omega⟩
  · have two : 2 ^ 1 ≤ 2 ^ (e₂ - e₁).toNat := Nat.pow_le_pow_right (by decide) positive
    have long : 4503599627370496 ≤ m₂ := by omega
    have := Nat.mul_le_mul long two
    omega

/-! ## The total order -/

/-- The multiple of a finite number. -/
def multipleOf : Binary64 → Int
  | .finite n m e _ => multiple n m e
  | _ => 0

/-- Whether a finite number has no minus sign. -/
def isUnsigned : Binary64 → Bool
  | .finite n .. => !n
  | _ => false

/-- The total order is by class, then by multiple, then by sign. -/
theorem totalCompare_eq :
    totalCompare = compareLex (compareOn classRank)
      (compareLex (compareOn multipleOf) (compareOn isUnsigned)) := by
  funext x y
  have rank (c d : Nat) : (compare c d).then ((compare (0 : Int) 0).then (compare false false)) =
      compare c d := by
    cases compare c d <;> rfl
  cases x with
  | finite n₁ m₁ e₁ h₁ =>
    cases y with
    | finite n₂ m₂ e₂ h₂ =>
      show (compareFinite n₁ m₁ e₁ n₂ m₂ e₂).then (compare n₂ n₁) =
        (compare (multiple n₁ m₁ e₁) (multiple n₂ m₂ e₂)).then (compare (!n₁) (!n₂))
      rw [compareFinite_eq h₁ h₂]
      cases n₁ <;> cases n₂ <;> rfl
    | nan n => cases n <;> rfl
    | infinite n => cases n <;> rfl
  | nan n =>
    cases y with
    | finite => cases n <;> rfl
    | _ => exact (rank _ _).symm
  | infinite n =>
    cases y with
    | finite => cases n <;> rfl
    | _ => exact (rank _ _).symm

instance : Std.TransCmp totalCompare := by
  rw [totalCompare_eq]
  infer_instance

theorem totalCompare_self (x : Binary64) : x.totalCompare x = .eq := Std.ReflCmp.compare_self

theorem totalCompare_swap (x y : Binary64) : y.totalCompare x = (x.totalCompare y).swap :=
  Std.OrientedCmp.eq_swap

/-- No two numbers share a place in the total order. -/
theorem eq_of_totalCompare {x y : Binary64} (same : x.totalCompare y = .eq) : x = y := by
  rw [totalCompare_eq] at same
  obtain ⟨rank, same⟩ := Ordering.then_eq_eq.1 same
  obtain ⟨multiples, signs⟩ := Ordering.then_eq_eq.1 same
  replace rank := Std.compare_eq_iff_eq.1 rank
  replace multiples := Std.compare_eq_iff_eq.1 multiples
  replace signs := Std.compare_eq_iff_eq.1 signs
  cases x with
  | finite n₁ m₁ e₁ h₁ =>
    cases y with
    | finite n₂ m₂ e₂ h₂ =>
      obtain rfl : n₁ = n₂ := Bool.not_inj signs
      have sizes : m₁ * 2 ^ (e₁ + 1074).toNat = m₂ * 2 ^ (e₂ + 1074).toNat := by
        simp only [multipleOf, multiple_eq] at multiples
        cases n₁ with
        | true => exact Int.ofNat.inj (Int.neg_inj.1 multiples)
        | false => exact Int.ofNat.inj multiples
      obtain ⟨rfl, rfl⟩ := canonical_unique h₁ h₂ sizes
      rfl
    | nan n => cases n <;> cases rank
    | infinite n => cases n <;> cases rank
  | nan n =>
    cases y with
    | finite => cases n <;> cases rank
    | nan k => cases n <;> cases k <;> first | rfl | cases rank
    | infinite k => cases n <;> cases k <;> cases rank
  | infinite n =>
    cases y with
    | finite => cases n <;> cases rank
    | nan k => cases n <;> cases k <;> cases rank
    | infinite k => cases n <;> cases k <;> first | rfl | cases rank

/-- Numbers neither of which stands behind the other are the same. -/
theorem eq_of_le_of_le {x y : Binary64} (first : x.totalCompare y ≠ .gt)
    (second : y.totalCompare x ≠ .gt) : x = y := by
  refine eq_of_totalCompare ?_
  rw [totalCompare_swap] at second
  cases order : x.totalCompare y with
  | eq => rfl
  | gt => exact absurd order first
  | lt =>
    rw [order] at second
    exact absurd rfl second

/-! ## Equality -/

/-- Where a number stands on the line: at an end, or at a multiple of the least positive number.
NaN stands nowhere. -/
def place? : Binary64 → Option (Bool ⊕ Int)
  | .nan _ => none
  | .infinite n => some (.inl n)
  | .finite n m e _ => some (.inr (multiple n m e))

theorem place?_eq_none (x : Binary64) : x.place? = none ↔ x.isNaN = true := by
  cases x <;> simp [place?, isNaN]

/-- Two numbers are equal if both stand somewhere, and at the same place. -/
theorem equals_iff (x y : Binary64) : x.equals y = true ↔ x.place? = y.place? ∧ x.isNaN = false := by
  cases x with
  | nan n => simp [equals, compare?, isNaN]
  | infinite n =>
    cases y with
    | nan k => simp [equals, compare?, place?]
    | infinite k => cases n <;> cases k <;> decide
    | finite k => cases n <;> simp [equals, compare?, place?]
  | finite n₁ m₁ e₁ h₁ =>
    cases y with
    | nan k => simp [equals, compare?, place?]
    | infinite k => cases k <;> simp [equals, compare?, place?]
    | finite n₂ m₂ e₂ h₂ => simp [equals, compare?, compareFinite_eq h₁ h₂, place?, isNaN]

theorem equals_self {x : Binary64} (number : x.isNaN = false) : x.equals x = true :=
  (equals_iff x x).2 ⟨rfl, number⟩

theorem isNaN_of_equals {x y : Binary64} (same : x.equals y = true) :
    x.isNaN = false ∧ y.isNaN = false := by
  obtain ⟨places, number⟩ := (equals_iff x y).1 same
  refine ⟨number, Bool.eq_false_iff.2 fun nan => ?_⟩
  rw [(place?_eq_none y).2 nan, place?_eq_none, number] at places
  cases places

theorem equals_symm {x y : Binary64} (same : x.equals y = true) : y.equals x = true :=
  (equals_iff y x).2 ⟨((equals_iff x y).1 same).1.symm, (isNaN_of_equals same).2⟩

theorem equals_trans {x y z : Binary64} (first : x.equals y = true) (second : y.equals z = true) :
    x.equals z = true :=
  (equals_iff x z).2
    ⟨((equals_iff x y).1 first).1.trans ((equals_iff y z).1 second).1, (isNaN_of_equals first).1⟩

end Binary64

end Stencil
