import Stencil.Proofs.Value.Arithmetic

/-!
# Where integer arithmetic fails

On operands that stand for integers an operation fails where it has to: the divisor is zero, or the
exact result has no room in 64 bits (`Calculation.LacksResult`).  There is one remainder that is
refused although it has room, that of the least integer and minus one: it comes with a quotient that
has none (`Calculation.LosesRemainder`).
-/

namespace Stencil

namespace Calculation

/-! ## Results that cannot be given -/

/-- Whether the second operand is a divisor. -/
def divides : Calculation → Bool
  | dividedBy | modulo => true
  | _ => false

/-- There is nothing to give: the divisor is zero, or the exact result has no room. -/
def LacksResult (op : Calculation) (m n : Int) : Prop :=
  (op.divides = true ∧ n = 0) ∨ ¬ FitsInt64 (op.exact m n)

/-- The remainder is zero, but the quotient that it comes with has no room. -/
def LosesRemainder (op : Calculation) (m n : Int) : Prop :=
  op = modulo ∧ m = -9223372036854775808 ∧ n = -1

/-- The error of the operation. -/
def failure (a b : Value) (n : Int64) : Calculation → Error
  | plus => Value.overflow "+" a b
  | minus => Value.overflow "-" a b
  | times => Value.overflow "*" a b
  | dividedBy => if n = 0 then Cause.dividedByZero else Value.overflow "/" a b
  | modulo => if n = 0 then Cause.dividedByZero else Value.overflow "%" a b
  | abs => Cause.absOverflow

theorem kind_failure (a b : Value) (n : Int64) (op : Calculation) :
    (op.failure a b n).kind = .invalidOperation := by
  cases op
  case dividedBy | modulo =>
    rw [failure]
    split <;> rfl
  all_goals rfl

variable {a b : Value} {m n : Int64}

theorem not_losesRemainder {op : Calculation} (other : op ≠ modulo) (m n : Int) :
    ¬ op.LosesRemainder m n := fun ⟨same, _⟩ => other same

/-- What is lost is zero, so there is a result. -/
theorem LosesRemainder.exact_eq {op : Calculation} {m n : Int} (loses : op.LosesRemainder m n) :
    op.exact m n = 0 ∧ ¬ op.LacksResult m n := by
  obtain ⟨rfl, rfl, rfl⟩ := loses
  have zero : exact modulo (-9223372036854775808) (-1) = 0 := by
    have floors := floors_fdiv (n := -1) (by decide) (-9223372036854775808)
    rw [exact, floors.floor_eq]
    rfl
  refine ⟨zero, ?_⟩
  rintro (⟨-, divisor⟩ | full)
  · exact absurd divisor (by decide)
  · rw [zero] at full
    exact full (by decide)

/-! ## What an operation comes to -/

/-- The operation fails where its result is lacking or lost, and elsewhere gives the exact one. -/
structure Answers (a b : Value) (m n : Int64) (op : Calculation) : Prop where
  given : ¬ (op.LacksResult m.toInt n.toInt ∨ op.LosesRemainder m.toInt n.toInt) →
    op.run a b = .ok (.int (Int64.ofInt (op.exact m.toInt n.toInt)))
  refused : op.LacksResult m.toInt n.toInt ∨ op.LosesRemainder m.toInt n.toInt →
    op.run a b = .error (op.failure a b n)

theorem answers_of_exactly (sign : String) {op : Calculation}
    (divisor : ¬ (op.divides = true ∧ n.toInt = 0))
    (kept : ¬ op.LosesRemainder m.toInt n.toInt)
    (run : op.run a b = Value.exactly sign a b (op.exact m.toInt n.toInt))
    (failure : op.failure a b n = Value.overflow sign a b) : op.Answers a b m n where
  given answered := by
    have room : FitsInt64 (op.exact m.toInt n.toInt) := by
      by_contra full
      exact answered (Or.inl (Or.inr full))
    rw [run, Value.exactly_of_fits room]
  refused unanswered := by
    rcases unanswered with (zero | full) | loses
    · exact absurd zero divisor
    · rw [run, Value.exactly_of_not_fits full, failure]
    · exact absurd loses kept

theorem answers_of_refused {op : Calculation}
    (lacks : op.LacksResult m.toInt n.toInt ∨ op.LosesRemainder m.toInt n.toInt)
    (run : op.run a b = .error (op.failure a b n)) : op.Answers a b m n where
  given answered := absurd lacks answered
  refused _ := run

theorem answers_dividedBy (left : a.Denotes m) (right : b.Denotes n) :
    dividedBy.Answers a b m n := by
  have run : dividedBy.run a b = Value.divInts a b m.toInt n.toInt := by
    rw [Calculation.run, Value.div, Value.calculate_of_denotes left right]
  by_cases zero : n = 0
  · subst zero
    exact answers_of_refused (Or.inl (Or.inl ⟨rfl, rfl⟩)) run
  · have divisor := Machine.toInt_ne_zero zero
    have floors := floors_fdiv divisor m.toInt
    refine answers_of_exactly "/" (fun h => divisor h.2)
      (not_losesRemainder (by simp) _ _) ?_ (if_neg zero)
    rw [run, Value.divInts, if_neg divisor, exact, floors.floor_eq]

theorem answers_modulo (left : a.Denotes m) (right : b.Denotes n) :
    modulo.Answers a b m n := by
  have run : modulo.run a b = Value.remInts a b m.toInt n.toInt := by
    rw [Calculation.run, Value.rem, Value.calculate_of_denotes left right]
  by_cases zero : n = 0
  · subst zero
    exact answers_of_refused (Or.inl (Or.inl ⟨rfl, rfl⟩)) run
  · have divisor := Machine.toInt_ne_zero zero
    have floors := floors_fdiv divisor m.toInt
    have lost := not_fits_fdiv_iff divisor (fitsInt64_toInt m)
    by_cases room : FitsInt64 (m.toInt.fdiv n.toInt)
    · refine answers_of_exactly "%" (fun h => divisor h.2)
        (fun h => lost.mpr h.2 room) ?_ (if_neg zero)
      rw [run, Value.remInts, if_neg divisor, if_neg (not_not.mpr room), exact, floors.floor_eq,
        ← floors.remainder_eq]
    · refine answers_of_refused (Or.inr ⟨rfl, lost.mp room⟩) ?_
      rw [run, Value.remInts, if_neg divisor, if_pos room, failure, if_neg zero]

theorem answers_abs (left : a.Denotes m) (b : Value) (n : Int64) : abs.Answers a b m n := by
  have run := Value.abs_of_denotes left
  have value : exact abs m.toInt n.toInt = (m.toInt.natAbs : Int) := Int.abs_eq_natAbs m.toInt
  by_cases room : FitsInt64 (m.toInt.natAbs : Int)
  · constructor
    · intro _
      rw [Calculation.run, run, int64?_of_fits room, value]
    · rintro ((⟨divides, -⟩ | full) | loses)
      · cases divides
      · rw [value] at full
        exact absurd room full
      · exact absurd loses (not_losesRemainder (by simp) _ _)
  · refine answers_of_refused (Or.inl (Or.inr (value ▸ room))) ?_
    rw [Calculation.run, run, int64?, if_neg room, failure]

/-- Every operation fails exactly where its result is lacking or lost. -/
theorem answers (left : a.Denotes m) (right : b.Denotes n) (op : Calculation) :
    op.Answers a b m n := by
  have never (k : Int) : ¬ (false = true ∧ k = 0) := fun h => Bool.false_ne_true h.1
  cases op
  case plus =>
    refine answers_of_exactly "+" (never _) (not_losesRemainder (by simp) _ _) ?_ rfl
    rw [run, Value.add, Value.calculate_of_denotes left right, exact]
  case minus =>
    refine answers_of_exactly "-" (never _) (not_losesRemainder (by simp) _ _) ?_ rfl
    rw [run, Value.sub, Value.calculate_of_denotes left right, exact]
  case times =>
    refine answers_of_exactly "*" (never _) (not_losesRemainder (by simp) _ _) ?_ rfl
    rw [run, Value.mul, Value.calculate_of_denotes left right, exact]
  case dividedBy => exact answers_dividedBy left right
  case modulo => exact answers_modulo left right
  case abs => exact answers_abs left b n

end Calculation

/-! ## The filters -/

/-- On operands that stand for integers, each filter of arithmetic fails exactly where its result is
lacking, and besides where a remainder is lost, which is then zero and not lacking.  Every failure is
an invalid operation. -/
theorem integer_arithmetic_fails_iff {a b : Value} {m n : Int64} (left : a.Denotes m)
    (right : b.Denotes n) (op : Calculation) :
    ∃ filter, Filter.builtin.find? op.name = some filter ∧
      ((∃ e, filter (op.operands a b) = .error e ∧ e.kind = .invalidOperation) ↔
        op.LacksResult m.toInt n.toInt ∨ op.LosesRemainder m.toInt n.toInt) ∧
      (∀ e, filter (op.operands a b) = .error e → e.kind = .invalidOperation) ∧
      (op.LosesRemainder m.toInt n.toInt →
        op.exact m.toInt n.toInt = 0 ∧ ¬ op.LacksResult m.toInt n.toInt) := by
  obtain ⟨filter, found, same⟩ := op.find?_builtin
  have answers := op.answers left right
  have fails (e : Error) (failed : filter (op.operands a b) = .error e) :
      (op.LacksResult m.toInt n.toInt ∨ op.LosesRemainder m.toInt n.toInt) ∧
        e.kind = .invalidOperation := by
    rw [same] at failed
    by_cases unanswered : op.LacksResult m.toInt n.toInt ∨ op.LosesRemainder m.toInt n.toInt
    · rw [answers.refused unanswered] at failed
      cases failed
      exact ⟨unanswered, op.kind_failure a b n⟩
    · rw [answers.given unanswered] at failed
      cases failed
  refine ⟨filter, found, ⟨?_, fun unanswered => ?_⟩, fun e failed => (fails e failed).2,
    Calculation.LosesRemainder.exact_eq⟩
  · rintro ⟨e, failed, -⟩
    exact (fails e failed).1
  · exact ⟨_, (same a b).trans (answers.refused unanswered), op.kind_failure a b n⟩

/-- The least integer divided by a string that spells minus one. -/
theorem integer_arithmetic_fails_iff_least :
    (Value.int Int64.minValue).Denotes Int64.minValue ∧ (Value.string " -1").Denotes (-1) ∧
    ∃ filter e, Filter.builtin.find? "divided_by" = some filter ∧
      filter [.int Int64.minValue, .string " -1"] = .error e ∧ e.kind = .invalidOperation := by
  have left := Value.Denotes.int Int64.minValue
  have right : (Value.string " -1").Denotes (-1) :=
    Value.Denotes.string (Numeral.Spells.minus ⟨by decide, List.all_eq_true.mp rfl⟩)
  obtain ⟨filter, found, fails, -⟩ := integer_arithmetic_fails_iff left right .dividedBy
  have full : Calculation.LacksResult .dividedBy Int64.minValue.toInt (Int64.toInt (-1)) := by
    right
    rw [Calculation.exact, (floors_fdiv (by decide) _).floor_eq]
    decide
  obtain ⟨e, failed, kind⟩ := fails.mpr (Or.inl full)
  exact ⟨left, right, filter, e, found, failed, kind⟩

/-- The remainder of the least integer by minus one is zero, which has room, and is refused. -/
theorem not_fails_only_without_result :
    ¬ ∀ (op : Calculation) (a b : Value) (m n : Int64), a.Denotes m → b.Denotes n →
      ∀ filter, Filter.builtin.find? op.name = some filter →
        ((∃ e, filter (op.operands a b) = .error e ∧ e.kind = .invalidOperation) ↔
          op.LacksResult m.toInt n.toInt) := by
  intro only
  have loses : Calculation.LosesRemainder .modulo Int64.minValue.toInt (Int64.toInt (-1)) :=
    ⟨rfl, by decide, by decide⟩
  have refused : Filter.binary Value.rem [.int Int64.minValue, .int (-1)] =
      .error (Value.overflow "%" (.int Int64.minValue) (.int (-1))) := rfl
  exact loses.exact_eq.2 ((only .modulo _ _ _ _ (.int Int64.minValue) (.int (-1))
    (Filter.binary Value.rem) (Table.find?_ofList ..)).mp ⟨_, refused, rfl⟩)

end Stencil
