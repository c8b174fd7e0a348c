/-!
# Integers of 64 bits

An integer fits 64 bits when it lies between the least and the greatest of them.  One that does not
fit is refused by `int64?` and replaced by the nearer bound by `clampInt64`; the difference of two
such integers may lie beyond either bound.
-/

namespace Stencil

/-- Whether an integer has room in 64 bits. -/
def FitsInt64 (n : Int) : Prop := -9223372036854775808 ≤ n ∧ n ≤ 9223372036854775807

instance (n : Int) : Decidable (FitsInt64 n) := by
  unfold FitsInt64
  infer_instance

/-- The integer in 64 bits, if it has room there. -/
def int64? (n : Int) : Option Int64 := if FitsInt64 n then some (Int64.ofInt n) else none

/-- The integer in 64 bits, or the bound that it lies beyond. -/
def clampInt64 (n : Int) : Int64 :=
  if FitsInt64 n then Int64.ofInt n else if n < 0 then Int64.minValue else Int64.maxValue

/-- The difference of two integers of 64 bits, or the bound that it lies beyond. -/
def clampedDifference (a b : Int64) : Int64 := clampInt64 (a.toInt - b.toInt)

/-! ## Small facts -/

theorem fitsInt64_toInt (n : Int64) : FitsInt64 n.toInt :=
  ⟨n.le_toInt, Int.le_of_lt_add_one n.toInt_lt⟩

theorem int64?_of_fits {n : Int} (h : FitsInt64 n) : int64? n = some (Int64.ofInt n) := if_pos h

theorem toInt_of_fits {n : Int} (h : FitsInt64 n) : (Int64.ofInt n).toInt = n :=
  Int64.toInt_ofInt_of_le h.1 (Int.lt_add_one_of_le h.2)

theorem int64?_eq_some_iff {n : Int} {k : Int64} : int64? n = some k ↔ k.toInt = n := by
  constructor
  · intro h
    unfold int64? at h
    split at h
    next fits =>
      rw [← Option.some.inj h, toInt_of_fits fits]
    · cases h
  · rintro rfl
    rw [int64?_of_fits (fitsInt64_toInt k), Int64.ofInt_toInt]

@[simp] theorem int64?_toInt (n : Int64) : int64? n.toInt = some n := by
  rw [int64?_of_fits (fitsInt64_toInt n), Int64.ofInt_toInt]

@[simp] theorem clampInt64_toInt (n : Int64) : clampInt64 n.toInt = n := by
  rw [clampInt64, if_pos (fitsInt64_toInt n), Int64.ofInt_toInt]

theorem toInt_clampInt64 (n : Int) :
    (clampInt64 n).toInt = max (-9223372036854775808) (min 9223372036854775807 n) := by
  unfold clampInt64
  split
  next fits =>
    rw [toInt_of_fits fits]
    unfold FitsInt64 at fits
    omega
  next full =>
    unfold FitsInt64 at full
    split
    · rw [Int64.toInt_minValue]
      omega
    · rw [Int64.toInt_maxValue]
      omega

end Stencil
