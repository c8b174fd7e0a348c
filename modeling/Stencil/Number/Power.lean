/-!
# Powers of two and ten

The powers by which the numbers of a binary and of a decimal format differ from integers.
-/

namespace Stencil

/-- The `n`th power of two. -/
def twoPow (n : Nat) : Nat := Nat.pow 2 n

/-- The `n`th power of ten. -/
def tenPow (n : Nat) : Nat := Nat.pow 10 n

@[simp] theorem twoPow_zero : twoPow 0 = 1 := rfl

theorem twoPow_succ (n : Nat) : twoPow (n + 1) = twoPow n * 2 := rfl

theorem twoPow_pos (n : Nat) : 0 < twoPow n := by
  induction n with
  | zero => decide
  | succ n ih =>
    rw [twoPow_succ]
    omega

@[simp] theorem tenPow_zero : tenPow 0 = 1 := rfl

theorem tenPow_succ (n : Nat) : tenPow (n + 1) = tenPow n * 10 := rfl

theorem tenPow_pos (n : Nat) : 0 < tenPow n := by
  induction n with
  | zero => decide
  | succ n ih =>
    rw [tenPow_succ]
    omega

theorem tenPow_lt_iff {m n : Nat} : tenPow m < tenPow n ↔ m < n :=
  Nat.pow_lt_pow_iff_right (by decide)

end Stencil
