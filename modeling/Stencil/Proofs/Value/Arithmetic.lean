import Stencil.Filter.Builtin
import Stencil.Proofs.Number.Division
import Stencil.Proofs.Number.Numeral

/-!
# Integer arithmetic

What the filters of arithmetic compute from operands that stand for integers
(`Value.Denotes`).  Beside the exact result stands the computation in machine integers
(`Calculation.steps`), where a checked operation without a result fails and one that is not checked
would trap: it gives the same answers, so no step of it traps (`answer?_steps`).
-/

namespace Stencil

namespace Value

/-- The value stands for the integer: it is the integer, it is nil and the integer is zero, or it is
a string that spells the integer between blanks. -/
inductive Denotes : Value → Int64 → Prop
  | undefined : Denotes undefined 0
  | none : Denotes none 0
  | int (n : Int64) : Denotes (int n) n
  | string {s : String} {n : Int64}
      (spelled : Numeral.Spells (Text.trim Text.isBlank s.toList) n.toInt) : Denotes (string s) n

theorem readNumber?_eq_int_iff {s : String} {n : Int64} :
    readNumber? s = some (.int n) ↔
      Numeral.Spells (Text.trim Text.isBlank s.toList) n.toInt := by
  rw [← Numeral.readInt64?_eq_some_iff, readNumber?]
  split
  next k read =>
    rw [read, Option.some.injEq, Number.int.injEq, Option.some.injEq]
  next unread =>
    rw [unread]
    cases Numeral.readBinary64? (Text.trim Text.isBlank s.toList) <;> simp

theorem toNumber_eq_int_iff {v : Value} {n : Int64} :
    v.toNumber = .ok (.int n) ↔ Denotes v n := by
  constructor
  · intro number
    unfold toNumber at number
    split at number
    · cases number
      exact Denotes.undefined
    · cases number
      exact Denotes.none
    · cases number
      exact Denotes.int n
    · cases number
    next s =>
      split at number
      next k read =>
        cases number
        exact Denotes.string (readNumber?_eq_int_iff.mp read)
      · cases number
    · cases number
  · rintro (_ | _ | _ | spelled)
    · rfl
    · rfl
    · rfl
    · simp only [toNumber, readNumber?_eq_int_iff.mpr spelled]

/-- On two integers the operation on integers is performed. -/
theorem calculate_of_denotes {a b : Value} {m n : Int64} (left : Denotes a m) (right : Denotes b n)
    (ints : Int → Int → Except Error Value) (floats : Binary64 → Binary64 → Except Error Value) :
    calculate ints floats a b = ints m.toInt n.toInt := by
  simp only [calculate, toNumber_eq_int_iff.mpr left, toNumber_eq_int_iff.mpr right]
  rfl

theorem abs_of_denotes {v : Value} {n : Int64} (stands : Denotes v n) :
    v.abs =
      match int64? n.toInt.natAbs with
      | some n => .ok (int n)
      | Option.none => .error Cause.absOverflow := by
  simp only [abs, toNumber_eq_int_iff.mpr stands]
  rfl

theorem exactly_of_fits {k : Int} (room : FitsInt64 k) (op : String) (a b : Value) :
    exactly op a b k = .ok (int (Int64.ofInt k)) := by
  rw [exactly, int64?_of_fits room]

theorem exactly_toInt (op : String) (a b : Value) (n : Int64) :
    exactly op a b n.toInt = .ok (int n) := by
  rw [exactly, int64?_toInt]

theorem exactly_of_not_fits {k : Int} (full : ¬ FitsInt64 k) (op : String) (a b : Value) :
    exactly op a b k = .error (overflow op a b) := by
  rw [exactly, int64?, if_neg full]

/-- An exact result is what is given, if anything is. -/
theorem int_of_exactly {op : String} {a b v : Value} {k : Int} (given : exactly op a b k = .ok v) :
    ∃ n : Int64, v = int n ∧ n.toInt = k := by
  unfold exactly at given
  split at given
  next n room =>
    cases given
    exact ⟨n, rfl, int64?_eq_some_iff.mp room⟩
  · cases given

end Value

/-! ## Machine integers -/

namespace Machine

/-- The sum, unless it overflows; so for the other operations. -/
def sum? (a b : Int64) : Option Int64 := int64? (a.toInt + b.toInt)

def difference? (a b : Int64) : Option Int64 := int64? (a.toInt - b.toInt)

def product? (a b : Int64) : Option Int64 := int64? (a.toInt * b.toInt)

/-- The quotient rounded toward zero, unless the divisor is zero or the quotient overflows. -/
def quotient? (a b : Int64) : Option Int64 :=
  if b = 0 then none else int64? (a.toInt.tdiv b.toInt)

/-- What that quotient leaves.  Where there is no quotient there is no remainder. -/
def remainder? (a b : Int64) : Option Int64 :=
  if (quotient? a b).isNone then none else int64? (a.toInt.tmod b.toInt)

def magnitude? (a : Int64) : Option Int64 := int64? a.toInt.natAbs

variable {m n : Int64}

theorem toInt_ne_zero (divisor : n ≠ 0) : n.toInt ≠ 0 := fun zero =>
  divisor (Int64.toInt_inj.mp (zero.trans Int64.toInt_zero.symm))

theorem lt_zero_iff (n : Int64) : n < 0 ↔ n.toInt < 0 := by
  rw [Int64.lt_iff_toInt_lt, Int64.toInt_zero]

/-- Where the quotient has room there is a quotient and a remainder, and elsewhere there is neither.
Rounding down does not change whether it has room. -/
theorem divided (divisor : n ≠ 0) :
    (∃ q r, quotient? m n = some q ∧ remainder? m n = some r ∧
      Truncates m.toInt n.toInt q.toInt r.toInt ∧ FitsInt64 (m.toInt.fdiv n.toInt)) ∨
    (quotient? m n = none ∧ remainder? m n = none ∧ ¬ FitsInt64 (m.toInt.fdiv n.toInt)) := by
  have nonzero := toInt_ne_zero divisor
  have rounding := fits_fdiv_iff nonzero (fitsInt64_toInt m)
  by_cases room : FitsInt64 (m.toInt.tdiv n.toInt)
  · have small := fits_tmod nonzero (fitsInt64_toInt n) m.toInt
    have quotient : quotient? m n = some (Int64.ofInt (m.toInt.tdiv n.toInt)) := by
      rw [quotient?, if_neg divisor, int64?_of_fits room]
    have remainder : remainder? m n = some (Int64.ofInt (m.toInt.tmod n.toInt)) := by
      rw [remainder?, quotient, int64?_of_fits small]
      rfl
    refine Or.inl ⟨_, _, quotient, remainder, ?_, rounding.mpr room⟩
    rw [toInt_of_fits room, toInt_of_fits small]
    exact truncates_tdiv nonzero m.toInt
  · have quotient : quotient? m n = none := by
      rw [quotient?, if_neg divisor, int64?, if_neg room]
    have remainder : remainder? m n = none := by
      rw [remainder?, quotient]
      rfl
    exact Or.inr ⟨quotient, remainder, mt rounding.mp room⟩

/-- The tests on signs find out whether the quotient was rounded up. -/
theorem crossed_iff {q r : Int64} (cut : Truncates m.toInt n.toInt q.toInt r.toInt) :
    (r ≠ 0 ∧ ¬ (m < 0 ↔ n < 0) ↔ RoundedUp m.toInt n.toInt r.toInt) ∧
      (r ≠ 0 ∧ ¬ (r < 0 ↔ n < 0) ↔ RoundedUp m.toInt n.toInt r.toInt) := by
  have nonzero : r ≠ 0 ↔ r.toInt ≠ 0 := by
    rw [ne_eq, ← Int64.toInt_inj, Int64.toInt_zero]
  constructor
  · rw [lt_zero_iff, lt_zero_iff, nonzero]
    rfl
  · rw [lt_zero_iff, lt_zero_iff, nonzero, cut.up_iff]

end Machine

/-- How a computation in machine integers ends: with a number, with an error, or in an operation
that has no result and was not checked. -/
inductive Computed where
  | number (n : Int64)
  | failed (e : Error)
  | trapped

namespace Computed

/-- A checked operation: without a result the computation fails. -/
def checked (e : Error) (result : Option Int64) (next : Int64 → Computed) : Computed :=
  match result with
  | some n => next n
  | none => failed e

/-- An operation that is not checked. -/
def unchecked (result : Option Int64) (next : Int64 → Computed) : Computed :=
  match result with
  | some n => next n
  | none => trapped

/-- The answer that a computation comes to, if it is not trapped. -/
def answer? : Computed → Option (Except Error Value)
  | number n => some (.ok (.int n))
  | failed e => some (.error e)
  | trapped => none

theorem answer?_checked (op : String) (a b : Value) (k : Int) :
    (checked (Value.overflow op a b) (int64? k) number).answer? =
      some (Value.exactly op a b k) := by
  unfold checked Value.exactly
  cases int64? k <;> rfl

@[simp] theorem checked_some (e : Error) (n : Int64) (next : Int64 → Computed) :
    checked e (some n) next = next n := rfl

@[simp] theorem checked_none (e : Error) (next : Int64 → Computed) :
    checked e none next = failed e := rfl

@[simp] theorem unchecked_some (n : Int64) (next : Int64 → Computed) :
    unchecked (some n) next = next n := rfl

/-- A result that has room needs no check. -/
theorem answer?_unchecked {k : Int} (room : FitsInt64 k) (op : String) (a b : Value) :
    (unchecked (int64? k) number).answer? = some (Value.exactly op a b k) := by
  rw [int64?_of_fits room, Value.exactly_of_fits room]
  rfl

end Computed

/-- The operations of arithmetic that are filters. -/
inductive Calculation where
  | plus
  | minus
  | times
  | dividedBy
  | modulo
  | abs

namespace Calculation

open Computed Machine

def name : Calculation → String
  | plus => "plus"
  | minus => "minus"
  | times => "times"
  | dividedBy => "divided_by"
  | modulo => "modulo"
  | abs => "abs"

/-- The arguments of the filter; the magnitude has only the value before the pipe. -/
def operands : Calculation → Value → Value → List Value
  | abs, a, _ => [a]
  | _, a, b => [a, b]

/-- The exact result, where there is one. -/
def exact : Calculation → Int → Int → Int
  | plus, m, n => m + n
  | minus, m, n => m - n
  | times, m, n => m * n
  | dividedBy, m, n => ⌊(m : ℚ) / n⌋
  | modulo, m, n => m - n * ⌊(m : ℚ) / n⌋
  | abs, m, _ => |m|

/-- The computation in machine integers.  A quotient is rounded toward zero and then made smaller
by one where it was rounded up; a remainder has the divisor added there. -/
def steps (a b : Value) (m n : Int64) : Calculation → Computed
  | plus => checked (Value.overflow "+" a b) (sum? m n) number
  | minus => checked (Value.overflow "-" a b) (difference? m n) number
  | times => checked (Value.overflow "*" a b) (product? m n) number
  | dividedBy =>
    if n = 0 then failed Cause.dividedByZero
    else
      checked (Value.overflow "/" a b) (quotient? m n) fun q =>
      unchecked (remainder? m n) fun r =>
      if r ≠ 0 ∧ ¬ (m < 0 ↔ n < 0) then unchecked (difference? q 1) number else number q
  | modulo =>
    if n = 0 then failed Cause.dividedByZero
    else
      checked (Value.overflow "%" a b) (remainder? m n) fun r =>
      if r ≠ 0 ∧ ¬ (r < 0 ↔ n < 0) then unchecked (sum? r n) number else number r
  | abs => checked Cause.absOverflow (magnitude? m) number

/-- The operation on values. -/
def run : Calculation → Value → Value → Except Error Value
  | plus, a, b => a.add b
  | minus, a, b => a.sub b
  | times, a, b => a.mul b
  | dividedBy, a, b => a.div b
  | modulo, a, b => a.rem b
  | abs, a, _ => a.abs

variable (a b : Value) {m n : Int64}

/-- The steps of a division end at the quotient rounded down. -/
theorem answer?_dividedBy (m n : Int64) :
    (steps a b m n dividedBy).answer? = some (Value.divInts a b m.toInt n.toInt) := by
  by_cases zero : n = 0
  · subst zero
    rfl
  rw [steps, if_neg zero, Value.divInts, if_neg (toInt_ne_zero zero)]
  rcases divided (m := m) zero with ⟨q, r, quotient, remainder, cut, room⟩ | ⟨quotient, -, full⟩
  · rw [quotient, remainder, checked_some, unchecked_some]
    by_cases up : RoundedUp m.toInt n.toInt r.toInt
    · obtain ⟨rounded, -⟩ := (cut.floors_of_up up).eq_fdiv
      rw [if_pos ((crossed_iff cut).1.mpr up), difference?, Int64.toInt_one, rounded]
      exact answer?_unchecked room "/" a b
    · obtain ⟨rounded, -⟩ := (cut.floors_of_not_up up).eq_fdiv
      rw [if_neg (mt (crossed_iff cut).1.mp up), ← rounded, Value.exactly_toInt]
      rfl
  · rw [quotient, checked_none, Value.exactly_of_not_fits full]
    rfl

/-- The steps of a remainder end at what the quotient rounded down leaves. -/
theorem answer?_modulo (m n : Int64) :
    (steps a b m n modulo).answer? = some (Value.remInts a b m.toInt n.toInt) := by
  by_cases zero : n = 0
  · subst zero
    rfl
  have divisor := toInt_ne_zero zero
  rw [steps, if_neg zero, Value.remInts, if_neg divisor]
  rcases divided (m := m) zero with ⟨q, r, -, remainder, cut, room⟩ | ⟨-, remainder, full⟩
  · rw [if_neg (not_not.mpr room), remainder, checked_some]
    by_cases up : RoundedUp m.toInt n.toInt r.toInt
    · obtain ⟨-, rounded⟩ := (cut.floors_of_up up).eq_fdiv
      rw [if_pos ((crossed_iff cut).2.mpr up), sum?, rounded]
      exact answer?_unchecked (fits_fmod divisor (fitsInt64_toInt n) m.toInt) "%" a b
    · obtain ⟨-, rounded⟩ := (cut.floors_of_not_up up).eq_fdiv
      rw [if_neg (mt (crossed_iff cut).2.mp up), ← rounded, Value.exactly_toInt]
      rfl
  · rw [if_pos full, remainder, checked_none]
    rfl

/-- The steps give the answers of the operations; none of them is trapped. -/
theorem answer?_steps {a b : Value} (left : a.Denotes m) (right : b.Denotes n)
    (op : Calculation) : (op.steps a b m n).answer? = some (op.run a b) := by
  cases op
  case plus =>
    rw [run, Value.add, Value.calculate_of_denotes left right]
    exact answer?_checked "+" a b _
  case minus =>
    rw [run, Value.sub, Value.calculate_of_denotes left right]
    exact answer?_checked "-" a b _
  case times =>
    rw [run, Value.mul, Value.calculate_of_denotes left right]
    exact answer?_checked "*" a b _
  case dividedBy =>
    rw [run, Value.div, Value.calculate_of_denotes left right]
    exact answer?_dividedBy a b m n
  case modulo =>
    rw [run, Value.rem, Value.calculate_of_denotes left right]
    exact answer?_modulo a b m n
  case abs =>
    rw [run, Value.abs_of_denotes left, steps, magnitude?]
    cases int64? m.toInt.natAbs <;> rfl

/-- What an operation gives is the exact result. -/
theorem exact_of_run {a b v : Value} (left : a.Denotes m) (right : b.Denotes n)
    (op : Calculation) (given : op.run a b = .ok v) :
    ∃ k : Int64, v = .int k ∧ k.toInt = op.exact m.toInt n.toInt := by
  cases op
  case plus =>
    rw [run, Value.add, Value.calculate_of_denotes left right] at given
    exact Value.int_of_exactly given
  case minus =>
    rw [run, Value.sub, Value.calculate_of_denotes left right] at given
    exact Value.int_of_exactly given
  case times =>
    rw [run, Value.mul, Value.calculate_of_denotes left right] at given
    exact Value.int_of_exactly given
  case dividedBy =>
    rw [run, Value.div, Value.calculate_of_denotes left right, Value.divInts] at given
    split at given
    · cases given
    next divisor =>
      obtain ⟨k, rfl, value⟩ := Value.int_of_exactly given
      exact ⟨k, rfl, value.trans (floors_fdiv divisor m.toInt).floor_eq.symm⟩
  case modulo =>
    rw [run, Value.rem, Value.calculate_of_denotes left right, Value.remInts] at given
    split at given
    · cases given
    next divisor =>
      split at given
      · cases given
      · obtain ⟨k, rfl, value⟩ := Value.int_of_exactly given
        have floors := floors_fdiv divisor m.toInt
        refine ⟨k, rfl, ?_⟩
        rw [value, floors.remainder_eq, exact, floors.floor_eq]
  case abs =>
    rw [run, Value.abs_of_denotes left] at given
    split at given
    next k room =>
      cases given
      exact ⟨k, rfl, by rw [int64?_eq_some_iff.mp room, Int.natCast_natAbs, exact]⟩
    · cases given

/-- Each operation is the filter of its name. -/
theorem find?_builtin (op : Calculation) :
    ∃ filter, Filter.builtin.find? op.name = some filter ∧
      ∀ a b, filter (op.operands a b) = op.run a b := by
  cases op
  case plus => exact ⟨Filter.binary Value.add, Table.find?_ofList .., fun _ _ => rfl⟩
  case minus => exact ⟨Filter.binary Value.sub, Table.find?_ofList .., fun _ _ => rfl⟩
  case times => exact ⟨Filter.binary Value.mul, Table.find?_ofList .., fun _ _ => rfl⟩
  case dividedBy => exact ⟨Filter.binary Value.div, Table.find?_ofList .., fun _ _ => rfl⟩
  case modulo => exact ⟨Filter.binary Value.rem, Table.find?_ofList .., fun _ _ => rfl⟩
  case abs => exact ⟨Filter.unary Value.abs, Table.find?_ofList .., fun _ _ => rfl⟩

/-- Only a divisor other than zero has a quotient. -/
theorem ne_zero_of_run {a b v : Value} (left : a.Denotes m) (right : b.Denotes n)
    (given : dividedBy.run a b = .ok v) : n.toInt ≠ 0 := by
  intro zero
  rw [run, Value.div, Value.calculate_of_denotes left right, Value.divInts, if_pos zero] at given
  cases given

end Calculation

/-! ## The filters -/

open Calculation in
/-- On operands that stand for integers, each filter of arithmetic gives nothing but the exact
result.  Its answer is the one that the steps in machine integers come to, none of which is
trapped.  A quotient and a remainder make up the dividend again, and the remainder is less than the
divisor and zero or of its sign. -/
theorem integer_arithmetic_exact {a b : Value} {m n : Int64} (left : a.Denotes m)
    (right : b.Denotes n) :
    (∀ op : Calculation, ∃ filter, Filter.builtin.find? op.name = some filter ∧
      (op.steps a b m n).answer? = some (filter (op.operands a b)) ∧
      ∀ v, filter (op.operands a b) = .ok v →
        ∃ k : Int64, v = .int k ∧ k.toInt = op.exact m.toInt n.toInt) ∧
    ∀ divide remain, Filter.builtin.find? "divided_by" = some divide →
      Filter.builtin.find? "modulo" = some remain →
      ∀ q r : Int64, divide [a, b] = .ok (.int q) → remain [a, b] = .ok (.int r) →
        m.toInt = n.toInt * q.toInt + r.toInt ∧
        (r.toInt = 0 ∨ r.toInt.sign = n.toInt.sign) ∧ |r.toInt| < |n.toInt| := by
  constructor
  · intro op
    obtain ⟨filter, found, same⟩ := op.find?_builtin
    refine ⟨filter, found, ?_, fun v given => ?_⟩
    · rw [same]
      exact answer?_steps left right op
    · rw [same] at given
      exact exact_of_run left right op given
  · intro divide remain foundDivide foundRemain q r quotient remainder
    obtain ⟨_, foundDivide', runDivide⟩ := dividedBy.find?_builtin
    obtain rfl := Option.some.inj (foundDivide'.symm.trans foundDivide)
    obtain ⟨_, foundRemain', runRemain⟩ := modulo.find?_builtin
    obtain rfl := Option.some.inj (foundRemain'.symm.trans foundRemain)
    have quotient : dividedBy.run a b = .ok (.int q) := (runDivide a b).symm.trans quotient
    have remainder : modulo.run a b = .ok (.int r) := (runRemain a b).symm.trans remainder
    have floors := floors_fdiv (ne_zero_of_run left right quotient) m.toInt
    obtain ⟨q', sameQ, valueQ⟩ := exact_of_run left right dividedBy quotient
    obtain ⟨r', sameR, valueR⟩ := exact_of_run left right modulo remainder
    obtain rfl := Value.int.inj sameQ
    obtain rfl := Value.int.inj sameR
    have valueQ : q.toInt = m.toInt.fdiv n.toInt := valueQ.trans floors.floor_eq
    have valueR : r.toInt = m.toInt.fmod n.toInt := by
      rw [valueR, exact, floors.floor_eq, ← floors.remainder_eq]
    rw [valueQ, valueR]
    refine ⟨floors.parts, floors.sign, ?_⟩
    rw [Int.abs_eq_natAbs, Int.abs_eq_natAbs]
    exact Int.ofNat_lt.mpr floors.natAbs_lt

/-- A string between blanks, divided with a remainder of the other sign. -/
theorem integer_arithmetic_exact_string :
    (Value.string " -7 ").Denotes (-7) ∧ (Value.int 2).Denotes 2 ∧
    ∃ divide remain, Filter.builtin.find? "divided_by" = some divide ∧
      Filter.builtin.find? "modulo" = some remain ∧
      divide [.string " -7 ", .int 2] = .ok (.int (-4)) ∧
      remain [.string " -7 ", .int 2] = .ok (.int 1) ∧
      (-7 : Int) = 2 * -4 + 1 ∧ ((1 : Int) = 0 ∨ Int.sign 1 = Int.sign 2) ∧ |(1 : Int)| < |2| := by
  have left : (Value.string " -7 ").Denotes (-7) :=
    Value.Denotes.string (Numeral.Spells.minus ⟨by decide, List.all_eq_true.mp rfl⟩)
  have right : (Value.int 2).Denotes 2 := Value.Denotes.int 2
  obtain ⟨each, euclid⟩ := integer_arithmetic_exact left right
  obtain ⟨divide, foundDivide, quotient, -⟩ := each .dividedBy
  obtain ⟨remain, foundRemain, remainder, -⟩ := each .modulo
  have quotient : divide [.string " -7 ", .int 2] = .ok (.int (-4)) :=
    (Option.some.inj quotient).symm
  have remainder : remain [.string " -7 ", .int 2] = .ok (.int 1) :=
    (Option.some.inj remainder).symm
  exact ⟨left, right, divide, remain, foundDivide, foundRemain, quotient, remainder,
    euclid divide remain foundDivide foundRemain (-4) 1 quotient remainder⟩

end Stencil
