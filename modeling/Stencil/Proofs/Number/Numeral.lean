import Stencil.Number.Numeral

/-!
# Which texts spell an integer

A sign or none, and at least one digit.  The reader of integers takes exactly the texts that spell
an integer of 64 bits (`Numeral.readInt64?_eq_some_iff`): zeros in front do not matter, and more than
nineteen other digits spell a number without room.
-/

namespace Stencil.Numeral

/-! ## What a run of digits spells -/

/-- At least one digit, and digits only. -/
def IsDigits (ds : List Char) : Prop := ds ≠ [] ∧ ∀ c ∈ ds, isDigit c = true

/-- The number that further digits make of one that was already read. -/
theorem foldl_digits (n : Nat) (ds : List Char) :
    ds.foldl (fun n d => 10 * n + digitValue d) n = n * tenPow ds.length + ofDigits ds := by
  induction ds generalizing n with
  | nil =>
    rw [List.foldl_nil, List.length_nil, tenPow_zero, Nat.mul_one]
    rfl
  | cons d ds ih =>
    have read : ofDigits (d :: ds) = digitValue d * tenPow ds.length + ofDigits ds := by
      rw [ofDigits, List.foldl_cons, ih, Nat.mul_zero, Nat.zero_add]
    rw [List.foldl_cons, ih, read, List.length_cons, tenPow_succ, Nat.add_mul, Nat.add_assoc,
      Nat.mul_comm 10 n, Nat.mul_assoc, Nat.mul_comm 10]

theorem ofDigits_cons (d : Char) (ds : List Char) :
    ofDigits (d :: ds) = digitValue d * tenPow ds.length + ofDigits ds := by
  rw [ofDigits, List.foldl_cons, foldl_digits, Nat.mul_zero, Nat.zero_add]

theorem ofDigits_zero_cons (ds : List Char) : ofDigits ('0' :: ds) = ofDigits ds := by
  have none : digitValue '0' = 0 := rfl
  rw [ofDigits_cons, none, Nat.zero_mul, Nat.zero_add]

theorem ofDigits_dropZeros (ds : List Char) : ofDigits (dropZeros ds) = ofDigits ds := by
  induction ds with
  | nil => rfl
  | cons d ds ih =>
    by_cases zero : d = '0'
    · rw [zero, ofDigits_zero_cons, ← ih]
      rfl
    · simp [dropZeros, zero]

theorem digitValue_pos {d : Char} (digit : isDigit d = true) (nonzero : d ≠ '0') :
    0 < digitValue d := by
  simp only [isDigit, Bool.and_eq_true, decide_eq_true_eq] at digit
  have least : '0'.toNat ≤ d.toNat := digit.1
  have other : d.toNat ≠ '0'.toNat := fun same => nonzero (Char.toNat_inj.mp same)
  unfold digitValue
  omega

/-- Behind a digit other than zero, each further digit makes the number ten times as large. -/
theorem tenPow_le_ofDigits {d : Char} (digit : isDigit d = true) (nonzero : d ≠ '0')
    (ds : List Char) : tenPow ds.length ≤ ofDigits (d :: ds) := by
  have positive := digitValue_pos digit nonzero
  rw [ofDigits_cons]
  calc tenPow ds.length = 1 * tenPow ds.length := (Nat.one_mul _).symm
    _ ≤ digitValue d * tenPow ds.length := Nat.mul_le_mul_right _ positive
    _ ≤ digitValue d * tenPow ds.length + ofDigits ds := Nat.le_add_right _ _

/-- A number with no more than nineteen digits is spelled with no more than nineteen behind its
zeros. -/
theorem length_dropZeros_le {ds : List Char} (digits : ∀ c ∈ ds, isDigit c = true)
    (small : ofDigits ds < tenPow 19) : (dropZeros ds).length ≤ 19 := by
  rcases dropped : dropZeros ds with _ | ⟨d, rest⟩
  · exact Nat.zero_le _
  · have mem : d ∈ ds := (List.dropWhile_sublist _).subset (dropped ▸ List.mem_cons_self)
    have nonzero : d ≠ '0' := by
      have stopped := List.head?_dropWhile_not (· == '0') ds
      rw [show ds.dropWhile (· == '0') = d :: rest from dropped] at stopped
      simpa using stopped
    have large := tenPow_le_ofDigits (digits d mem) nonzero rest
    rw [← dropped, ofDigits_dropZeros] at large
    exact tenPow_lt_iff.mp (Nat.lt_of_le_of_lt large small)

/-! ## Integers with a sign -/

/-- The text is a sign or none and digits, and the integer is what they say. -/
inductive Spells : List Char → Int → Prop
  | unsigned {ds : List Char} (digits : IsDigits ds) : Spells ds (ofDigits ds)
  | plus {ds : List Char} (digits : IsDigits ds) : Spells ('+' :: ds) (ofDigits ds)
  | minus {ds : List Char} (digits : IsDigits ds) : Spells ('-' :: ds) (-(ofDigits ds : Int))

/-- The integer that a sign and digits say. -/
def signed (negative : Bool) (ds : List Char) : Int :=
  if negative then -(ofDigits ds : Int) else ofDigits ds

theorem splitSign_digits {ds : List Char} (digits : IsDigits ds) : splitSign ds = (false, ds) := by
  unfold splitSign
  split
  · exact absurd (digits.2 '-' List.mem_cons_self) (by decide)
  · exact absurd (digits.2 '+' List.mem_cons_self) (by decide)
  · rfl

theorem spells_iff {s : List Char} {m : Int} :
    Spells s m ↔ IsDigits (splitSign s).2 ∧ m = signed (splitSign s).1 (splitSign s).2 := by
  constructor
  · rintro (digits | digits | digits)
    · rw [splitSign_digits digits]
      exact ⟨digits, rfl⟩
    · exact ⟨digits, rfl⟩
    · exact ⟨digits, rfl⟩
  · unfold splitSign
    split
    · rintro ⟨digits, rfl⟩
      exact Spells.minus digits
    · rintro ⟨digits, rfl⟩
      exact Spells.plus digits
    · rintro ⟨digits, rfl⟩
      exact Spells.unsigned digits

/-- A text spells at most one integer. -/
theorem Spells.unique {s : List Char} {m n : Int} (one : Spells s m) (other : Spells s n) :
    m = n := by
  rw [(spells_iff.mp one).2, (spells_iff.mp other).2]

theorem isDigits_iff {ds : List Char} :
    IsDigits ds ↔ (ds.isEmpty || !ds.all isDigit) = false := by
  simp [IsDigits]

/-- What is read is the integer that is spelled, if it fits 64 bits. -/
theorem readInt64?_of_spells {s : List Char} {m : Int} (spelled : Spells s m) :
    readInt64? s = int64? m := by
  obtain ⟨digits, rfl⟩ := spells_iff.mp spelled
  have plain := isDigits_iff.mp digits
  simp only [readInt64?, plain, Bool.false_or, decide_eq_true_eq]
  split
  next long =>
    have large : ¬ ofDigits (splitSign s).2 < tenPow 19 := fun small =>
      Nat.not_lt.mpr (length_dropZeros_le digits.2 small) long
    have bound : tenPow 19 = 10000000000000000000 := rfl
    rw [bound] at large
    symm
    apply if_neg
    unfold FitsInt64 signed
    split <;> omega
  · rfl

theorem readInt64?_of_not_spells {s : List Char} (unspelled : ∀ m, ¬ Spells s m) :
    readInt64? s = none := by
  have mixed : ¬ IsDigits (splitSign s).2 := fun digits =>
    unspelled _ (spells_iff.mpr ⟨digits, rfl⟩)
  rw [isDigits_iff, Bool.not_eq_false] at mixed
  simp [readInt64?, mixed]

/-- Exactly the texts that spell an integer of 64 bits are read. -/
theorem readInt64?_eq_some_iff {s : List Char} {n : Int64} :
    readInt64? s = some n ↔ Spells s n.toInt := by
  constructor
  · intro read
    by_cases spelled : ∃ m, Spells s m
    · obtain ⟨m, spelled⟩ := spelled
      rw [readInt64?_of_spells spelled] at read
      rwa [← int64?_eq_some_iff.mp read] at spelled
    · rw [readInt64?_of_not_spells (not_exists.mp spelled)] at read
      cases read
  · intro spelled
    rw [readInt64?_of_spells spelled, int64?_toInt]

example : Spells ['-', '0', '7'] (-7) := Spells.minus ⟨by decide, List.all_eq_true.mp rfl⟩

end Stencil.Numeral
