import Stencil.Proofs.Number.Integers
import Stencil.Value.Compare

/-!
# The order that sorting uses

The order of values is reflexive, and what stands before is what the other stands behind.  It is
transitive but for one thing: an integer that meets a floating point number is rounded first, and
two integers of more than 53 bits may become the number that stands between them
(`Value.Straddles`).  No two values straddle one that is not a floating point number
(`Value.not_straddles`).
-/

namespace Stencil.Value

/-! ## Kinds, and values of one kind -/

/-- The order of values of one kind. -/
def compareAlike : Value → Value → Ordering
  | bool a, bool b => compare a b
  | string a, string b => compare a b
  | int m, int n => compare m.toInt n.toInt
  | int m, float y => (floatOfInt m).totalCompare y
  | float x, int n => x.totalCompare (floatOfInt n)
  | float x, float y => x.totalCompare y
  | _, _ => .eq

/-- Values are ordered by kind first. -/
theorem sortCompare_eq (a b : Value) :
    sortCompare a b = (compare a.sortRank b.sortRank).then (compareAlike a b) := by
  cases a <;> cases b <;> rfl

theorem compareAlike_self (a : Value) : compareAlike a a = .eq := by
  cases a with
  | bool a => exact Std.compare_self
  | int m => exact Std.compare_self
  | float x => exact x.totalCompare_self
  | string s => exact Std.compare_self
  | _ => rfl

theorem compareAlike_swap (a b : Value) : compareAlike b a = (compareAlike a b).swap := by
  cases a with
  | bool => cases b <;> first | rfl | exact Std.OrientedOrd.eq_swap
  | string => cases b <;> first | rfl | exact Std.OrientedOrd.eq_swap
  | int m =>
    cases b with
    | int n => exact Std.OrientedOrd.eq_swap
    | float y => exact (floatOfInt m).totalCompare_swap y
    | _ => rfl
  | float x =>
    cases b with
    | int n => exact x.totalCompare_swap (floatOfInt n)
    | float y => exact x.totalCompare_swap y
    | _ => rfl
  | _ => cases b <;> rfl

theorem sortCompare_self (a : Value) : sortCompare a a = .eq := by
  rw [sortCompare_eq, Std.compare_self, compareAlike_self]
  rfl

theorem sortCompare_swap (a b : Value) : sortCompare b a = (sortCompare a b).swap := by
  rw [sortCompare_eq, sortCompare_eq, Ordering.swap_then, ← compareAlike_swap,
    ← Std.OrientedOrd.eq_swap]

/-- One value may stand before another if its kind does, or if they are of one kind and it may stand
before the other among these. -/
theorem sortCompare_ne_gt (a b : Value) :
    sortCompare a b ≠ .gt ↔
      a.sortRank < b.sortRank ∨ a.sortRank = b.sortRank ∧ compareAlike a b ≠ .gt := by
  rw [sortCompare_eq, Ne, Ordering.then_eq_gt, Nat.compare_eq_gt, Nat.compare_eq_eq]
  cases compareAlike a b <;> simp <;> omega

/-! ## Three values -/

/-- A floating point number stands between two integers that both become it, the greater one before
it and the smaller one behind it. -/
inductive Straddles : Value → Value → Value → Prop
  | rounded {m n : Int64} {x : Binary64} (less : n.toInt < m.toInt) (before : floatOfInt m = x)
      (behind : floatOfInt n = x) : Straddles (int m) (float x) (int n)

/-- Whether a value is a floating point number. -/
def isFloat : Value → Bool
  | float _ => true
  | _ => false

theorem not_straddles {b : Value} (noFloat : b.isFloat = false) (a c : Value) :
    ¬ Straddles a b c := by
  rintro ⟨-, -, -⟩
  cases noFloat

theorem floatOfInt_le {m n : Int64} (le : compare m.toInt n.toInt ≠ .gt) :
    (floatOfInt m).totalCompare (floatOfInt n) ≠ .gt :=
  Binary64.totalCompare_ofInt (fitsInt64_toInt m) (fitsInt64_toInt n) (Int.compare_ne_gt.1 le)

/-- The integers have at least 54 bits, or are the least that have: smaller ones are not rounded. -/
theorem Straddles.size {a b c : Value} (straddles : Straddles a b c) :
    ∃ m n, a = int m ∧ c = int n ∧ 9007199254740992 ≤ m.toInt.natAbs ∧
      9007199254740992 ≤ n.toInt.natAbs := by
  obtain @⟨m, n, x, less, before, behind⟩ := straddles
  have same : (floatOfInt m).place? = (floatOfInt n).place? := by rw [before, behind]
  exact ⟨m, n, rfl, rfl,
    Binary64.size_of_ofInt (fitsInt64_toInt m) (fitsInt64_toInt n) same (Int.ne_of_gt less)⟩

theorem Straddles.sortCompare_eq_gt {a b c : Value} (straddles : Straddles a b c) :
    sortCompare a c = .gt := by
  obtain ⟨less, -, -⟩ := straddles
  exact Int.compare_eq_gt.2 less

theorem number_cases {a : Value} (number : a.sortRank = 2) :
    (∃ m, a = int m) ∨ ∃ x, a = float x := by
  cases a with
  | int m => exact .inl ⟨m, rfl⟩
  | float x => exact .inr ⟨x, rfl⟩
  | _ => cases number

/-- Numbers are in order if no two integers straddle the one between them. -/
theorem compareAlike_numbers {a b c : Value} (ha : a.sortRank = 2) (hb : b.sortRank = 2)
    (hc : c.sortRank = 2) (first : compareAlike a b ≠ .gt) (second : compareAlike b c ≠ .gt)
    (apart : ¬ Straddles a b c) : compareAlike a c ≠ .gt := by
  have floats {x y z : Binary64} := @compare_trans _ Binary64.totalCompare _ x y z
  rcases number_cases ha with ⟨m, rfl⟩ | ⟨x, rfl⟩ <;>
    rcases number_cases hb with ⟨k, rfl⟩ | ⟨y, rfl⟩ <;>
    rcases number_cases hc with ⟨n, rfl⟩ | ⟨z, rfl⟩
  · exact compare_trans (compare : Int → Int → Ordering) first second
  · exact floats (floatOfInt_le first) second
  · -- The greater integer becomes no smaller a number, so nothing is left between the two.
    intro greater
    have less : n.toInt < m.toInt := Int.compare_eq_gt.1 greater
    have back := floatOfInt_le (Int.compare_ne_gt.2 (Int.le_of_lt less))
    have before := Binary64.eq_of_le_of_le first (floats second back)
    have behind := Binary64.eq_of_le_of_le second (floats back first)
    exact apart (.rounded less before behind.symm)
  · exact floats first second
  · exact floats first (floatOfInt_le second)
  · exact floats first second
  · exact floats first second
  · exact floats first second

theorem compareAlike_trans {a b c : Value} (same : a.sortRank = b.sortRank)
    (alike : b.sortRank = c.sortRank) (first : compareAlike a b ≠ .gt)
    (second : compareAlike b c ≠ .gt) (apart : ¬ Straddles a b c) : compareAlike a c ≠ .gt := by
  by_cases number : a.sortRank = 2
  · exact compareAlike_numbers number (same ▸ number) (alike ▸ same ▸ number) first second apart
  cases a with
  | bool =>
    cases b with
    | bool =>
      cases c with
      | bool => exact compare_trans (compare : Bool → Bool → Ordering) first second
      | _ => cases alike
    | _ => cases same
  | string =>
    cases b with
    | string =>
      cases c with
      | string => exact compare_trans (compare : String → String → Ordering) first second
      | _ => cases alike
    | _ => cases same
  | int => exact absurd rfl number
  | float => exact absurd rfl number
  | _ => cases c <;> exact Ordering.noConfusion

/-- Values stand in order if no two integers straddle the one between them. -/
theorem sortCompare_trans {a b c : Value} (first : sortCompare a b ≠ .gt)
    (second : sortCompare b c ≠ .gt) (apart : ¬ Straddles a b c) : sortCompare a c ≠ .gt := by
  rw [sortCompare_ne_gt] at *
  rcases first with less | ⟨same, first⟩
  · rcases second with lesser | ⟨alike, -⟩
    · exact .inl (Nat.lt_trans less lesser)
    · exact .inl (alike ▸ less)
  · rcases second with less | ⟨alike, second⟩
    · exact .inl (same ▸ less)
    · exact .inr ⟨same.trans alike, compareAlike_trans same alike first second apart⟩

/-! ## The order -/

/-- The order of sorting is a total preorder, but for integers that straddle a floating point
number, which have at least the size of `2 ^ 53`. -/
theorem sortCompare_preorder (a b c : Value) :
    sortCompare a a = .eq ∧ sortCompare b a = (sortCompare a b).swap ∧
      (sortCompare a b ≠ .gt → sortCompare b c ≠ .gt →
        (sortCompare a c ≠ .gt ↔ ¬ Straddles a b c)) ∧
      (Straddles a b c → ∃ m n, a = int m ∧ c = int n ∧
        9007199254740992 ≤ m.toInt.natAbs ∧ 9007199254740992 ≤ n.toInt.natAbs) := by
  refine ⟨sortCompare_self a, sortCompare_swap a b, fun first second => ?_, Straddles.size⟩
  constructor
  · intro le straddles
    exact le straddles.sortCompare_eq_gt
  · exact sortCompare_trans first second

/-- An integer, the floating point number that it becomes and a greater integer are in order, and of
two integers that become one number both are great. -/
theorem sortCompare_preorder_mixed :
    sortCompare (int 2) (float (floatOfInt 2)) ≠ .gt ∧
      sortCompare (float (floatOfInt 2)) (int 3) ≠ .gt ∧ sortCompare (int 2) (int 3) ≠ .gt ∧
      ∃ m n, int 9007199254740993 = int m ∧ int 9007199254740992 = int n ∧
        9007199254740992 ≤ m.toInt.natAbs ∧ 9007199254740992 ≤ n.toInt.natAbs := by
  have first : sortCompare (int 2) (float (floatOfInt 2)) ≠ .gt := by decide
  have second : sortCompare (float (floatOfInt 2)) (int 3) ≠ .gt := by decide
  have apart : ¬ Straddles (int 2) (float (floatOfInt 2)) (int 3) := by
    intro straddles
    cases straddles with
    | rounded less => exact absurd less (by decide)
  have straddles : Straddles (int 9007199254740993) (float (floatOfInt 9007199254740992))
      (int 9007199254740992) := .rounded (by decide) (by decide) rfl
  exact ⟨first, second, ((sortCompare_preorder _ _ _).2.2.1 first second).2 apart,
    (sortCompare_preorder _ _ _).2.2.2 straddles⟩

/-- The integer behind `2 ^ 53` becomes `2 ^ 53`, so it does not stand behind this number, nor this
number behind the integer of its size, which does stand before the other. -/
theorem not_sortCompare_trans :
    ¬ ∀ a b c : Value, sortCompare a b ≠ .gt → sortCompare b c ≠ .gt → sortCompare a c ≠ .gt := by
  intro trans
  have first : sortCompare (int 9007199254740993) (float (floatOfInt 9007199254740992)) ≠ .gt := by
    decide
  have second : sortCompare (float (floatOfInt 9007199254740992)) (int 9007199254740992) ≠ .gt := by
    decide
  exact trans _ _ _ first second (by decide)

end Stencil.Value
