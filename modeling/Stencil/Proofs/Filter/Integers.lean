import Stencil.Filter.Argument
import Stencil.Proofs.Number.Decimal
import Stencil.Proofs.Value.Arithmetic

/-!
# Integers as arguments

An argument that has to be an integer is accepted exactly if the number that the value stands for
(`Value.Amounts`) is an integer, whatever its type.  An integer with room in 64 bits is handed on as
it is.  A floating point number beyond is not refused: the nearer bound of 64 bits takes its place
(`Value.Beyond`).
-/

namespace Stencil

namespace Value

/-- The value stands for the number: it stands for an integer of 64 bits, it is a floating point
number, or it is a string that spells no such integer and is read as a floating point number.  Such
a string stands for the number that it is read as, which is the nearest one of the format
(`Amounts.rounds`) and need not be the one that its digits spell: `"9007199254740993.0"` stands for
9007199254740992. -/
inductive Amounts : Value → ℚ → Prop
  | integer {v : Value} {n : Int64} (stands : Denotes v n) : Amounts v (n.toInt : Int)
  | float {x : Binary64} {q : ℚ} (value : x.value? = some q) : Amounts (float x) q
  | decimal {s : String} {x : Binary64} {q : ℚ}
      (other : ∀ n : Int64, ¬ Numeral.Spells (Text.trim Text.isBlank s.toList) n.toInt)
      (read : Numeral.readBinary64? (Text.trim Text.isBlank s.toList) = some x)
      (value : x.value? = some q) : Amounts (string s) q

/-- The value stands for an integer without room in 64 bits. -/
def Beyond (v : Value) : Prop := ∃ k : Int, v.Amounts k ∧ ¬ FitsInt64 k

theorem readNumber?_eq_float_iff {s : String} {x : Binary64} :
    readNumber? s = some (.float x) ↔
      (∀ n : Int64, ¬ Numeral.Spells (Text.trim Text.isBlank s.toList) n.toInt) ∧
        Numeral.readBinary64? (Text.trim Text.isBlank s.toList) = some x := by
  simp only [← Numeral.readInt64?_eq_some_iff]
  rw [readNumber?]
  cases Numeral.readInt64? (Text.trim Text.isBlank s.toList) <;> simp

/-- The floating point numbers that values are converted to. -/
theorem toNumber_eq_float_iff {v : Value} {x : Binary64} :
    v.toNumber = .ok (.float x) ↔
      v = float x ∨ ∃ s, v = string s ∧ readNumber? s = some (.float x) := by
  constructor
  · intro number
    unfold toNumber at number
    split at number
    · cases number
    · cases number
    · cases number
    · cases number
      exact Or.inl rfl
    next s =>
      split at number
      next read =>
        cases number
        exact Or.inr ⟨s, rfl, read⟩
      · cases number
    · cases number
  · rintro (rfl | ⟨s, rfl, read⟩)
    · rfl
    · simp only [toNumber, read]

/-- What a value stands for is the value of the number that it is converted to. -/
theorem amounts_iff {v : Value} {q : ℚ} :
    v.Amounts q ↔ (∃ n : Int64, v.toNumber = .ok (.int n) ∧ q = (n.toInt : Int)) ∨
      ∃ x : Binary64, v.toNumber = .ok (.float x) ∧ x.value? = some q := by
  constructor
  · rintro (stands | value | ⟨other, read, value⟩)
    · exact Or.inl ⟨_, toNumber_eq_int_iff.mpr stands, rfl⟩
    · exact Or.inr ⟨_, rfl, value⟩
    · exact Or.inr ⟨_, toNumber_eq_float_iff.mpr (Or.inr ⟨_, rfl,
        readNumber?_eq_float_iff.mpr ⟨other, read⟩⟩), value⟩
  · rintro (⟨n, number, rfl⟩ | ⟨x, number, value⟩)
    · exact Amounts.integer (toNumber_eq_int_iff.mp number)
    · rcases toNumber_eq_float_iff.mp number with rfl | ⟨s, rfl, read⟩
      · exact Amounts.float value
      · obtain ⟨other, read⟩ := readNumber?_eq_float_iff.mp read
        exact Amounts.decimal other read value

/-- A value stands for one number at most. -/
theorem Amounts.unique {v : Value} {p q : ℚ} (one : v.Amounts p) (other : v.Amounts q) : p = q := by
  rcases amounts_iff.mp one with ⟨m, number, rfl⟩ | ⟨x, number, value⟩
  · rcases amounts_iff.mp other with ⟨n, numberToo, rfl⟩ | ⟨y, numberToo, -⟩
    · rw [number] at numberToo
      cases numberToo
      rfl
    · rw [number] at numberToo
      cases numberToo
  · rcases amounts_iff.mp other with ⟨n, numberToo, -⟩ | ⟨y, numberToo, valueToo⟩
    · rw [number] at numberToo
      cases numberToo
    · rw [number] at numberToo
      cases numberToo
      exact Option.some.inj (value.symm.trans valueToo)

/-- A string that spells a decimal and no integer of 64 bits stands for the number that the decimal
is rounded to. -/
theorem Amounts.rounds {s : String} {d : Numeral.Decimal} {q : ℚ} (amounts : (string s).Amounts q)
    (other : ∀ n : Int64, ¬ Numeral.Spells (Text.trim Text.isBlank s.toList) n.toInt)
    (spelled : Numeral.SpellsDecimal
      (Numeral.splitSign (Text.trim Text.isBlank s.toList)).2 d)
    (small : d.exponent.natAbs < Numeral.exponentLimit) :
    ∃ x : Binary64, x.value? = some q ∧
      x.Rounds (Numeral.splitSign (Text.trim Text.isBlank s.toList)).1 d.value := by
  obtain ⟨x, read, rounds⟩ := Numeral.rounds_of_spells spelled small
  have number : (string s).toNumber = .ok (.float x) :=
    toNumber_eq_float_iff.mpr (Or.inr ⟨s, rfl, readNumber?_eq_float_iff.mpr ⟨other, read⟩⟩)
  refine ⟨x, ?_, rounds⟩
  rcases amounts_iff.mp amounts with ⟨n, integer, -⟩ | ⟨y, float, value⟩
  · rw [number] at integer
    cases integer
  · rw [number] at float
    cases float
    exact value

end Value

namespace Argument

variable {v : Value}

theorem toInt64_of_int {m : Int64} (number : v.toNumber = .ok (.int m)) : toInt64 v = .ok m := by
  rw [toInt64, number]

theorem toInt64_of_float {x : Binary64} (number : v.toNumber = .ok (.float x)) :
    toInt64 v = if x.isInteger then .ok x.toInt64
      else .error (Cause.unexpectedArgument "integer" v.kind) := by
  rw [toInt64, number]

theorem toInt64_of_error {e : Error} (failed : v.toNumber = .error e) :
    toInt64 v = .error (Cause.unexpectedArgument "integer" v.kind) := by
  rw [toInt64, failed]

/-- The integer that is handed on is the one that the value stands for, or the bound of 64 bits that
it lies beyond. -/
theorem toInt64_eq_ok_iff {n : Int64} :
    toInt64 v = .ok n ↔ ∃ k : Int, v.Amounts k ∧ n = clampInt64 k := by
  simp only [Value.amounts_iff]
  constructor
  · intro given
    cases number : v.toNumber with
    | error e =>
      rw [toInt64_of_error number] at given
      cases given
    | ok x =>
      cases x with
      | int m =>
        rw [toInt64_of_int number] at given
        cases given
        exact ⟨n.toInt, Or.inl ⟨n, rfl, rfl⟩, (clampInt64_toInt n).symm⟩
      | float x =>
        rw [toInt64_of_float number] at given
        split at given
        next whole =>
          cases given
          obtain ⟨k, value⟩ := (Binary64.isInteger_iff x).mp whole
          exact ⟨k, Or.inr ⟨x, rfl, value⟩, Binary64.toInt64_of_value value⟩
        · cases given
  · rintro ⟨k, ⟨m, number, same⟩ | ⟨x, number, value⟩, rfl⟩
    · obtain rfl := Int.cast_injective same
      rw [toInt64_of_int number, clampInt64_toInt]
    · rw [toInt64_of_float number, if_pos ((Binary64.isInteger_iff x).mpr ⟨k, value⟩),
        Binary64.toInt64_of_value value]

theorem error_of_toInt64 {e : Error} (failed : toInt64 v = .error e) :
    e = Cause.unexpectedArgument "integer" v.kind := by
  unfold toInt64 at failed
  split at failed
  · cases failed
  · split at failed
    · cases failed
    · cases failed
      rfl
  · cases failed
    rfl

/-- An integer that is handed on is the one that the value stands for, unless that lies beyond 64
bits. -/
theorem toInt64_eq_ok_iff_of_not_beyond {n : Int64} (within : ¬ v.Beyond) :
    toInt64 v = .ok n ↔ v.Amounts (n.toInt : Int) := by
  rw [toInt64_eq_ok_iff]
  constructor
  · rintro ⟨k, amounts, rfl⟩
    have room : FitsInt64 k := by
      by_contra full
      exact within ⟨k, amounts, full⟩
    rwa [clampInt64, if_pos room, toInt_of_fits room]
  · intro amounts
    exact ⟨n.toInt, amounts, (clampInt64_toInt n).symm⟩

/-- The integers that are not negative are accepted as natural numbers. -/
theorem toNat_eq_ok_iff {k : Nat} :
    toNat v = .ok k ↔ ∃ n : Int64, toInt64 v = .ok n ∧ n.toInt = k := by
  rw [toNat, bind_eq_ok]
  refine exists_congr fun n => and_congr_right fun _ => ?_
  split
  next negative =>
    constructor
    · intro given
      cases given
    · intro same
      omega
  next nonneg =>
    rw [Except.ok.injEq]
    omega

theorem kind_of_toNat {e : Error} (failed : toNat v = .error e) : e.kind = .invalidArguments := by
  rcases bind_eq_error.mp failed with failed | ⟨n, -, failed⟩
  · rw [error_of_toInt64 failed]
    rfl
  · split at failed
    · cases failed
      rfl
    · cases failed

theorem kind_of_toInt64 {e : Error} (failed : toInt64 v = .error e) :
    e.kind = .invalidArguments := by
  rw [error_of_toInt64 failed]
  rfl

/-- The conversion to an integer of 64 bits hands on the integer that the value stands for, or the
bound that this integer lies beyond; so it is exact for all values but those that stand for an
integer beyond 64 bits.  What stands for no integer is refused as an invalid argument.  The
conversion to a natural number accepts the same values where the integer is not negative.  A decimal
in a string is rounded to the format first, and stands for the rounded number. -/
theorem convert_integer_exact (v : Value) :
    (∀ p q : ℚ, v.Amounts p → v.Amounts q → p = q) ∧
    (∀ n : Int64, convert (some v) = .ok n ↔ ∃ k : Int, v.Amounts k ∧ n = clampInt64 k) ∧
    (¬ v.Beyond → ∀ n : Int64, convert (some v) = .ok n ↔ v.Amounts (n.toInt : Int)) ∧
    (∀ e, (convert (some v) : Except Error Int64) = .error e →
      e.kind = .invalidArguments ∧ ¬ ∃ k : Int, v.Amounts k) ∧
    (∀ k : Nat, convert (some v) = .ok k ↔ ∃ n : Int64, convert (some v) = .ok n ∧ n.toInt = k) ∧
    ∀ e, (convert (some v) : Except Error Nat) = .error e → e.kind = .invalidArguments := by
  refine ⟨fun _ _ one other => one.unique other, fun n => toInt64_eq_ok_iff,
    fun within n => toInt64_eq_ok_iff_of_not_beyond within,
    fun e failed => ⟨kind_of_toInt64 failed, ?_⟩, fun k => toNat_eq_ok_iff,
    fun e failed => kind_of_toNat failed⟩
  rintro ⟨k, amounts⟩
  have given : toInt64 v = .ok (clampInt64 k) := toInt64_eq_ok_iff.mpr ⟨k, amounts, rfl⟩
  rw [show toInt64 v = .error e from failed] at given
  cases given

/-- A decimal with an exponent, between blanks. -/
theorem convert_integer_exact_decimal :
    ¬ (Value.string " 1.2e1").Beyond ∧ (Value.string " 1.2e1").Amounts (12 : Int) ∧
      convert (some (.string " 1.2e1")) = .ok (12 : Int64) ∧
      convert (some (.string " 1.2e1")) = .ok (12 : Nat) := by
  have canonical : Canonical 6755399441055744 (-49) := by decide
  have number : (Value.string " 1.2e1").toNumber =
      .ok (.float (.finite false 6755399441055744 (-49) canonical)) := rfl
  have value : (Binary64.finite false 6755399441055744 (-49) canonical).value? =
      some ((12 : Int) : ℚ) := by
    rw [Binary64.value?]
    norm_num
  have amounts : (Value.string " 1.2e1").Amounts (12 : Int) :=
    Value.amounts_iff.mpr (Or.inr ⟨_, number, value⟩)
  obtain ⟨unique, -, exact_of_within, -, natural, -⟩ := convert_integer_exact (.string " 1.2e1")
  have within : ¬ (Value.string " 1.2e1").Beyond := by
    rintro ⟨k, amountsToo, full⟩
    obtain rfl : 12 = k := Int.cast_injective (unique _ _ amounts amountsToo)
    exact full (by decide)
  have integer : convert (some (.string " 1.2e1")) = .ok (12 : Int64) :=
    (exact_of_within within 12).mpr amounts
  exact ⟨within, amounts, integer, (natural 12).mpr ⟨12, integer, rfl⟩⟩

/-- The first power of two beyond 64 bits is accepted, and one less is handed on. -/
theorem not_convert_integer_exact :
    ¬ ∀ (v : Value) (n : Int64), convert (some v) = .ok n → v.Amounts (n.toInt : Int) := by
  intro exactly
  have canonical : Canonical 4503599627370496 11 := by decide
  have amounts := exactly (.float (.finite false 4503599627370496 11 canonical)) Int64.maxValue rfl
  have value : (9223372036854775808 : ℚ) = (Int64.maxValue.toInt : Int) := by
    refine Value.Amounts.unique (Value.Amounts.float ?_) amounts
    rw [Binary64.value?]
    norm_num
  have greatest : Int64.maxValue.toInt = 9223372036854775807 := rfl
  rw [greatest] at value
  norm_num at value

end Argument

end Stencil
