/-!
# Ranges of code points

A character property of the Unicode standard is held as the list of the inclusive ranges of code
points that have it.  `Ranges.holds` asks whether a character lies in one of them.
-/

namespace Stencil.Text

/-- A set of characters, as inclusive ranges of code points in ascending order. -/
abbrev Ranges := List (Nat × Nat)

/-- Whether the character lies in one of the ranges. -/
def Ranges.holds (rs : Ranges) (c : Char) : Bool :=
  rs.any fun r => decide (r.1 ≤ c.toNat) && decide (c.toNat ≤ r.2)

@[simp] theorem Ranges.holds_nil (c : Char) : Ranges.holds [] c = false := rfl

@[simp] theorem Ranges.holds_cons (lo hi : Nat) (rs : Ranges) (c : Char) :
    Ranges.holds ((lo, hi) :: rs) c =
      ((decide (lo ≤ c.toNat) && decide (c.toNat ≤ hi)) || Ranges.holds rs c) := rfl

end Stencil.Text
