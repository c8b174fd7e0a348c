import Stencil.Proofs.Markup.Lexeme
import Stencil.Proofs.Number.Nearest
import Stencil.Proofs.Number.Numeral

/-!
# Which number a decimal is read as

A decimal spells a rational (`Decimal.value`) and is read as the number of the format that this is
rounded to (`Numeral.rounds_of_spells`), however many digits it has: the digits that are not looked
at lie between two neighbouring multiples of a power of ten, and there is no halfway point in
between (`Covers.of_between`).
-/

namespace Stencil

/-! ## Between two halfway points -/

/-- Rationals between the same two multiples of a unit are covered alike, if the halfway points are
multiples of the unit. -/
theorem Covers.of_between {m n : Nat} {e : Int} {unit r r' : ℚ} (above below : Int)
    (positive : 0 < unit) (halfAbove : (m : ℚ) * 2 ^ e + 2 ^ e / 2 = above * unit)
    (halfBelow : (m : ℚ) * 2 ^ e - halfBelow m e = below * unit) (inside : 0 < r ∧ r < 1)
    (insideToo : 0 < r' ∧ r' < 1) (covers : Covers m e ((n + r) * unit)) :
    Covers m e ((n + r') * unit) := by
  obtain ⟨upper, lower, -⟩ := covers
  rw [halfAbove] at upper
  rw [halfBelow] at lower
  have upper : (n + r : ℚ) ≤ above := le_of_mul_le_mul_right upper positive
  have lower : (below : ℚ) ≤ n + r := le_of_mul_le_mul_right lower positive
  have upper : (n : ℚ) + 1 ≤ above := by
    have less : (n : ℚ) < above := by linarith
    norm_cast at less ⊢
  have lower : (below : ℚ) ≤ n := by
    have less : (below : ℚ) < n + 1 := by linarith
    norm_cast at less ⊢
    omega
  refine ⟨?_, ?_, ?_⟩
  · rw [halfAbove]
    gcongr
    linarith
  · rw [halfBelow]
    gcongr
    linarith
  · rw [halfAbove, halfBelow]
    rintro (tie | tie)
    · have := mul_right_cancel₀ positive.ne' tie
      linarith
    · have := mul_right_cancel₀ positive.ne' tie
      linarith

/-- The halfway points around a number are multiples of a quarter of its last place. -/
theorem halfway_eq (m : Nat) (e : Int) :
    (m : ℚ) * 2 ^ e + 2 ^ e / 2 = (4 * m + 2 : Int) * (2 ^ e / 4) ∧
      ∃ k : Int, (m : ℚ) * 2 ^ e - halfBelow m e = k * (2 ^ e / 4) := by
  constructor
  · push_cast
    ring
  · unfold halfBelow
    split_ifs
    · refine ⟨4 * m - 1, ?_⟩
      push_cast
      ring
    · refine ⟨4 * m - 2, ?_⟩
      push_cast
      ring

/-- A power of two is a multiple of the power of ten with an exponent that is not above its own,
unless the exponent is positive. -/
theorem zpow_two_eq_mul {p e : Int} (le : p ≤ e) (nonpos : p ≤ 0) :
    ∃ c : Nat, (2 : ℚ) ^ e = c * 10 ^ p := by
  obtain ⟨a, rfl⟩ := Int.le.dest le
  obtain ⟨b, rfl⟩ := Int.exists_eq_neg_ofNat nonpos
  refine ⟨2 ^ a * 5 ^ b, ?_⟩
  have ten : (10 : ℚ) ^ (-(b : Int)) = 2 ^ (-(b : Int)) * 5 ^ (-(b : Int)) := by
    rw [← mul_zpow]
    norm_num
  have five : (5 : ℚ) ^ b * 5 ^ (-(b : Int)) = 1 := by
    rw [← zpow_natCast, ← zpow_add₀ (by norm_num), add_neg_cancel, zpow_zero]
  rw [zpow_add₀ two_ne_zero, zpow_natCast, ten]
  push_cast
  calc (2 : ℚ) ^ (-(b : Int)) * 2 ^ a = 2 ^ a * (5 ^ b * 5 ^ (-(b : Int))) * 2 ^ (-(b : Int)) := by
        rw [five]
        ring
    _ = 2 ^ a * 5 ^ b * (2 ^ (-(b : Int)) * 5 ^ (-(b : Int))) := by ring

/-- What covers a decimal has a last place that is not far below the first digit. -/
theorem le_exponent {m : Nat} {e top : Int} {q : ℚ} (normal : IsNormal m e) (covers : Covers m e q)
    (large : 10 ^ (top - 1) ≤ q) : top ≤ e + 798 := by
  by_contra beyond
  have unit : (0 : ℚ) < 2 ^ e := by positivity
  have width : q ≤ 2 ^ (e + 53) := by
    have below : (m : ℚ) ≤ 9007199254740991 := by exact_mod_cast Nat.le_of_lt_succ normal.mantissa
    have power : (2 : ℚ) ^ (e + 53) = 9007199254740992 * 2 ^ e := by
      rw [zpow_add₀ two_ne_zero, mul_comm]
      norm_num
    calc q ≤ m * 2 ^ e + 2 ^ e / 2 := covers.above
      _ = (m + 1 / 2) * 2 ^ e := by ring
      _ ≤ 9007199254740992 * 2 ^ e := by
        gcongr
        linarith
      _ = 2 ^ (e + 53) := power.symm
  have fives : (5 : ℚ) ^ (top - 1) ≤ 2 ^ (-745 : Int) := by
    have power : (2 : ℚ) ^ (top - 746) = 2 ^ (top - 1) * 2 ^ (-745 : Int) := by
      rw [← zpow_add₀ two_ne_zero]
      congr 1
      omega
    have ten : (10 : ℚ) ^ (top - 1) = 2 ^ (top - 1) * 5 ^ (top - 1) := by
      rw [← mul_zpow]
      norm_num
    have positive : (0 : ℚ) < 2 ^ (top - 1) := by positivity
    refine le_of_mul_le_mul_left ?_ positive
    rw [← ten, ← power]
    exact (large.trans width).trans (zpow_le_zpow_right₀ one_le_two (by omega))
  have least : (5 : ℚ) ^ (-276 : Int) ≤ 2 ^ (-745 : Int) := by
    have := normal.least
    exact (zpow_le_zpow_right₀ (by norm_num) (by omega)).trans fives
  rw [zpow_neg, zpow_neg, zpow_ofNat, zpow_ofNat, inv_le_inv₀ (by positivity) (by positivity)]
    at least
  have most : 5 ^ 276 < 2 ^ 745 := by decide +kernel
  exact most.not_ge (by exact_mod_cast least)

theorem cast_tenPow (n : Nat) : (tenPow n : ℚ) = 10 ^ (n : Int) := by
  rw [tenPow, Nat.pow_eq, Nat.cast_pow, zpow_natCast, Nat.cast_ofNat]

theorem tenPow_add (m n : Nat) : tenPow (m + n) = tenPow m * tenPow n := Nat.pow_add 10 m n

/-- Behind 800 digits it only matters for what covers a decimal that others follow. -/
theorem Covers.of_digits {m n : Nat} {e top : Int} {r r' : ℚ} (normal : IsNormal m e)
    (small : top ≤ 400) (long : tenPow 799 ≤ n) (inside : 0 < r ∧ r < 1)
    (insideToo : 0 < r' ∧ r' < 1) (covers : Covers m e ((n + r) * 10 ^ (top - 800))) :
    Covers m e ((n + r') * 10 ^ (top - 800)) := by
  have positive : (0 : ℚ) < 10 ^ (top - 800) := by positivity
  have large : (10 : ℚ) ^ (top - 1) ≤ (n + r) * 10 ^ (top - 800) := by
    have power : (10 : ℚ) ^ (top - 1) = tenPow 799 * 10 ^ (top - 800) := by
      rw [cast_tenPow, ← zpow_add₀ (by norm_num)]
      congr 1
      omega
    have long : (tenPow 799 : ℚ) ≤ n := Nat.cast_le.mpr long
    rw [power]
    gcongr
    linarith
  have fine := le_exponent normal covers large
  obtain ⟨c, grain⟩ := zpow_two_eq_mul (p := top - 800) (e := e - 2) (by omega) (by omega)
  have quarter : (2 : ℚ) ^ e / 4 = c * 10 ^ (top - 800) := by
    rw [← grain, zpow_sub₀ two_ne_zero]
    norm_num
  obtain ⟨halfAbove, k, halfBelow⟩ := halfway_eq m e
  refine Covers.of_between ((4 * m + 2) * c) (k * c) positive ?_ ?_ inside insideToo covers
  · rw [halfAbove, quarter]
    push_cast
    ring
  · rw [halfBelow, quarter]
    push_cast
    ring

/-! ## Digits -/

namespace Numeral

theorem ofDigits_append (ds more : List Char) :
    ofDigits (ds ++ more) = ofDigits ds * tenPow more.length + ofDigits more := by
  rw [ofDigits, List.foldl_append, foldl_digits]
  rfl

theorem ofDigits_lt {ds : List Char} (digits : ∀ c ∈ ds, isDigit c = true) :
    ofDigits ds < tenPow ds.length := by
  induction ds with
  | nil => exact tenPow_pos 0
  | cons d ds ih =>
    obtain ⟨first, others⟩ := List.forall_mem_cons.mp digits
    have rest := ih others
    have small : digitValue d ≤ 9 := by
      simp only [isDigit, Bool.and_eq_true, decide_eq_true_eq] at first
      have most : d.toNat ≤ '9'.toNat := first.2
      exact Nat.sub_le_sub_right most '0'.toNat
    rw [ofDigits_cons, List.length_cons, tenPow_succ]
    calc digitValue d * tenPow ds.length + ofDigits ds
        < digitValue d * tenPow ds.length + tenPow ds.length := by omega
      _ = (digitValue d + 1) * tenPow ds.length := by ring
      _ ≤ 10 * tenPow ds.length := by gcongr; omega
      _ = tenPow ds.length * 10 := Nat.mul_comm ..

theorem ofDigits_zeros {ds : List Char} (zeros : ds.all (· == '0') = true) : ofDigits ds = 0 := by
  induction ds with
  | nil => rfl
  | cons d ds ih =>
    rw [List.all_cons, Bool.and_eq_true, beq_iff_eq] at zeros
    obtain ⟨rfl, zeros⟩ := zeros
    rw [ofDigits_zero_cons, ih zeros]

theorem ofDigits_pos {ds : List Char} (digits : ∀ c ∈ ds, isDigit c = true)
    (nonzero : ¬ ds.all (· == '0') = true) : 0 < ofDigits ds := by
  induction ds with
  | nil => exact absurd rfl nonzero
  | cons d ds ih =>
    obtain ⟨first, others⟩ := List.forall_mem_cons.mp digits
    by_cases zero : d = '0'
    · subst zero
      rw [ofDigits_zero_cons]
      refine ih others fun zeros => nonzero ?_
      rw [List.all_cons, zeros]
      rfl
    · exact (tenPow_pos ds.length).trans_le (tenPow_le_ofDigits first zero ds)

/-- The rational that the digits and the exponent say. -/
def Decimal.value (d : Decimal) : ℚ :=
  ofDigits (d.whole ++ d.fraction) * 10 ^ (d.exponent - d.fraction.length)

theorem ne_zero_of_dropZeros {ds rest : List Char} {d : Char} (dropped : dropZeros ds = d :: rest) :
    d ≠ '0' := by
  have stopped := List.head?_dropWhile_not (· == '0') ds
  rw [show ds.dropWhile (· == '0') = d :: rest from dropped] at stopped
  simpa using stopped

/-- A number with an exponent of ten, as a fraction. -/
theorem scaled_eq (n : Nat) (e : Int) :
    ((n * tenPow e.toNat : Nat) / (tenPow (-e).toNat : Nat) : ℚ) = n * 10 ^ e := by
  rw [zpow_eq_pow_div, Nat.cast_mul, cast_tenPow, cast_tenPow, zpow_natCast, zpow_natCast,
    mul_div_assoc]

open Binary64 (Rounds)

/-- The digits in front of the limit, and those behind it. -/
theorem ofDigits_split (ds : List Char) :
    ofDigits ds = ofDigits (ds.take digitLimit) * tenPow (ds.drop digitLimit).length +
      ofDigits (ds.drop digitLimit) := by
  rw [← ofDigits_append, List.take_append_drop]

/-- If only zeros are behind the limit, nothing is lost. -/
theorem rounds_short {ds : List Char} (zeros : (ds.drop digitLimit).all (· == '0') = true)
    (top : Int) (negative : Bool) :
    let e := top - (ds.take digitLimit).length
    Rounds negative (ofDigits ds * 10 ^ (top - ds.length))
      (.ofRatio negative (ofDigits (ds.take digitLimit) * tenPow e.toNat) (tenPow (-e).toNat)) := by
  intro e
  have rounds := Binary64.rounds_ofRatio negative (ofDigits (ds.take digitLimit) * tenPow e.toNat)
    (tenPow_pos (-e).toNat).ne'
  rw [scaled_eq] at rounds
  have lengths : (ds.drop digitLimit).length + (top - ds.length) = e := by
    have := congrArg List.length (List.take_append_drop digitLimit ds)
    rw [List.length_append] at this
    omega
  have same : (ofDigits ds : ℚ) * 10 ^ (top - ds.length) =
      ofDigits (ds.take digitLimit) * 10 ^ e := by
    rw [ofDigits_split, ofDigits_zeros zeros, Nat.add_zero, Nat.cast_mul, cast_tenPow, mul_assoc,
      ← zpow_add₀ (by norm_num), lengths]
  rwa [same]

/-- Whatever follows 800 digits is rounded as a single digit behind them. -/
theorem rounds_followed {n rest k : Nat} {top : Int} (long : tenPow 799 ≤ n) (small : top ≤ 400)
    (positive : 0 < rest) (bounded : rest < tenPow k) (negative : Bool) :
    let e := top - 801
    Rounds negative ((n * tenPow k + rest : Nat) * 10 ^ (top - 800 - k))
      (.ofRatio negative ((n * 10 + 1) * tenPow e.toNat) (tenPow (-e).toNat)) := by
  intro e
  obtain ⟨normal, covers⟩ := covers_round ((n * 10 + 1) * tenPow e.toNat)
    (tenPow_pos (-e).toNat).ne'
  have single : ((n * 10 + 1 : Nat) : ℚ) * 10 ^ e = (n + 1 / 10) * 10 ^ (top - 800) := by
    rw [show e = top - 800 - 1 by omega, zpow_sub_one₀ (by norm_num)]
    push_cast
    ring
  have power : (0 : ℚ) < tenPow k := Nat.cast_pos.mpr (tenPow_pos k)
  have whole : ((n * tenPow k + rest : Nat) : ℚ) * 10 ^ (top - 800 - k) =
      (n + rest / tenPow k) * 10 ^ (top - 800) := by
    rw [zpow_sub₀ (by norm_num), ← cast_tenPow]
    push_cast
    field_simp
  rw [scaled_eq, single] at covers
  rw [whole]
  have inside : (0 : ℚ) < rest / tenPow k ∧ (rest / tenPow k : ℚ) < 1 := by
    rw [div_lt_one power]
    exact ⟨div_pos (Nat.cast_pos.mpr positive) power, Nat.cast_lt.mpr bounded⟩
  exact Binary64.rounds_ofParts normal
    (.of_digits normal small long (by norm_num) inside covers) negative

theorem le_of_mul_le_add {l n k rest : Nat} (bounded : rest < k) (le : l * k ≤ n * k + rest) :
    l ≤ n := by
  by_contra more
  have next : (n + 1) * k ≤ l * k := Nat.mul_le_mul_right k (Nat.lt_of_not_le more)
  rw [Nat.succ_mul] at next
  omega

/-- Digits other than zero behind the limit count as a single one. -/
theorem rounds_long {ds : List Char} (digits : ∀ c ∈ ds, isDigit c = true)
    (nonzero : ¬ (ds.drop digitLimit).all (· == '0') = true)
    (lead : tenPow (ds.length - 1) ≤ ofDigits ds) {top : Int} (small : top ≤ 400)
    (negative : Bool) :
    let e := top - (ds.take digitLimit ++ ['1']).length
    Rounds negative (ofDigits ds * 10 ^ (top - ds.length))
      (.ofRatio negative (ofDigits (ds.take digitLimit ++ ['1']) * tenPow e.toNat)
        (tenPow (-e).toNat)) := by
  have restDigits : ∀ c ∈ ds.drop digitLimit, isDigit c = true :=
    fun c mem => digits c (List.mem_of_mem_drop mem)
  have positive := ofDigits_pos restDigits nonzero
  have bounded := ofDigits_lt restDigits
  have more : 0 < (ds.drop digitLimit).length :=
    List.length_pos_iff.mpr fun none => nonzero (none ▸ rfl)
  have kept : (ds.take digitLimit).length = 800 := by
    rw [List.length_drop] at more
    exact List.length_take_of_le (Nat.le_of_lt (Nat.lt_of_sub_pos more))
  have length : ds.length = 800 + (ds.drop digitLimit).length := by
    rw [← kept, ← List.length_append, List.take_append_drop]
  have single : ofDigits (ds.take digitLimit ++ ['1']) = ofDigits (ds.take digitLimit) * 10 + 1 :=
    ofDigits_append ..
  have place : ((ds.take digitLimit ++ ['1']).length : Int) = 801 := by
    rw [List.length_append, kept]
    rfl
  have long : tenPow 799 ≤ ofDigits (ds.take digitLimit) := by
    have places : ds.length - 1 = 799 + (ds.drop digitLimit).length := by omega
    rw [places, tenPow_add, ofDigits_split ds] at lead
    exact le_of_mul_le_add bounded lead
  have rounded := rounds_followed long small positive bounded negative
  rw [← ofDigits_split] at rounded
  rw [single, place, length, Nat.cast_add, ← sub_sub]
  exact rounded

/-- The digits without zeros in front, and the place that stands before the first one. -/
theorem Decimal.value_eq (d : Decimal) :
    let ds := dropZeros (d.whole ++ d.fraction)
    d.value = ofDigits ds * 10 ^ (ds.length + d.exponent - d.fraction.length - ds.length) := by
  intro ds
  rw [value, ofDigits_dropZeros]
  congr 2
  omega

/-- What lies far beyond the format is infinite. -/
theorem rounds_great {q : ℚ} (large : (tenPow 400 : ℚ) ≤ q) (negative : Bool) :
    Rounds negative q (.ofRatio negative (tenPow 400) 1) := by
  have infinite : Binary64.ofRatio negative (tenPow 400) 1 = .infinite negative := by
    cases negative <;> decide +kernel
  have beyond : twoPow 1024 ≤ tenPow 400 := by decide +kernel
  have beyond : (2 : ℚ) ^ 1024 ≤ tenPow 400 :=
    calc (2 : ℚ) ^ 1024 = twoPow 1024 := (cast_twoPow 1024).symm
      _ ≤ tenPow 400 := Nat.cast_le.mpr beyond
  have gap : (0 : ℚ) ≤ 2 ^ 970 := by positivity
  rw [infinite]
  exact Binary64.rounds_infinite negative ((sub_le_self _ gap).trans (beyond.trans large))

/-- What lies far below the least number of the format is zero. -/
theorem rounds_little {q : ℚ} (nonneg : 0 ≤ q) (little : q ≤ 10 ^ (-400 : Int)) (negative : Bool) :
    Rounds negative q (.ofRatio negative 1 (tenPow 400)) := by
  have zero : BinaryFormat.double.round 1 (tenPow 400) = (0, -1074) := by decide +kernel
  have beyond : twoPow 1075 ≤ tenPow 400 := by decide +kernel
  have below : (10 : ℚ) ^ (-400 : Int) ≤ 2 ^ (-1074 : Int) / 2 :=
    calc (10 : ℚ) ^ (-400 : Int) = (tenPow 400 : ℚ)⁻¹ := by
          rw [zpow_neg, cast_tenPow]
          rfl
      _ ≤ (twoPow 1075 : ℚ)⁻¹ := by
          have positive : (0 : ℚ) < twoPow 1075 := Nat.cast_pos.mpr (twoPow_pos 1075)
          exact inv_anti₀ positive (Nat.cast_le.mpr beyond)
      _ = 2 ^ (-1074 : Int) / 2 := by
          have two : (2 : ℚ) ≠ 0 := two_ne_zero
          rw [div_eq_mul_inv, ← zpow_sub_one₀ two, cast_twoPow, ← zpow_natCast, ← zpow_neg]
          rfl
  have rounded := Binary64.rounds_ofParts .zero (.zero nonneg (little.trans below)) negative
  rwa [Binary64.ofRatio, zero]

/-- The first of the digits stands for the power of ten below the place in front of it. -/
theorem bounds_of_lead {ds : List Char} (digits : ∀ c ∈ ds, isDigit c = true)
    (some : 0 < ds.length) (lead : tenPow (ds.length - 1) ≤ ofDigits ds) (top : Int) :
    (10 : ℚ) ^ (top - 1) ≤ ofDigits ds * 10 ^ (top - ds.length) ∧
      (ofDigits ds : ℚ) * 10 ^ (top - ds.length) ≤ 10 ^ top := by
  have ten : (10 : ℚ) ≠ 0 := by norm_num
  have least : (tenPow (ds.length - 1) : ℚ) ≤ ofDigits ds := Nat.cast_le.mpr lead
  have most : (ofDigits ds : ℚ) ≤ tenPow ds.length := Nat.cast_le.mpr (ofDigits_lt digits).le
  constructor
  · calc (10 : ℚ) ^ (top - 1) = tenPow (ds.length - 1) * 10 ^ (top - ds.length) := by
          rw [cast_tenPow, ← zpow_add₀ ten]
          congr 1
          omega
      _ ≤ ofDigits ds * 10 ^ (top - ds.length) := by gcongr
  · calc (ofDigits ds : ℚ) * 10 ^ (top - ds.length)
        ≤ tenPow ds.length * 10 ^ (top - ds.length) := by gcongr
      _ = 10 ^ top := by
          rw [cast_tenPow, ← zpow_add₀ ten]
          congr 1
          omega

/-- The quotient that stands for a decimal is rounded as the decimal. -/
theorem rounds_ratio {d : Decimal} (digits : ∀ c ∈ d.whole ++ d.fraction, isDigit c = true)
    (negative : Bool) : Rounds negative d.value (.ofRatio negative d.ratio.1 d.ratio.2) := by
  have value := d.value_eq
  have kept : ∀ c ∈ dropZeros (d.whole ++ d.fraction), isDigit c = true :=
    fun c mem => digits c ((List.dropWhile_sublist _).subset mem)
  have first {c : Char} {rest : List Char} := @ne_zero_of_dropZeros (d.whole ++ d.fraction) rest c
  unfold Decimal.ratio
  dsimp only at value ⊢
  generalize dropZeros (d.whole ++ d.fraction) = ds at value kept first ⊢
  generalize (ds.length : Int) + d.exponent - d.fraction.length = top at value ⊢
  rw [value]
  cases ds with
  | nil =>
    have nothing : (ofDigits [] : ℚ) * 10 ^ (top - ([] : List Char).length) =
        (0 : Nat) / (1 : Nat) := by
      simp [ofDigits]
    rw [nothing]
    exact Binary64.rounds_ofRatio negative 0 one_ne_zero
  | cons c rest =>
    have lead : tenPow ((c :: rest).length - 1) ≤ ofDigits (c :: rest) :=
      tenPow_le_ofDigits (kept c List.mem_cons_self) (first rfl) rest
    obtain ⟨least, most⟩ := bounds_of_lead kept (Nat.succ_pos _) lead top
    have notEmpty : ¬ (c :: rest).isEmpty = true := Bool.false_ne_true
    have one_le : (1 : ℚ) ≤ 10 := by norm_num
    rw [if_neg notEmpty]
    split_ifs with great little
    all_goals dsimp only
    · have far : (tenPow 400 : ℚ) ≤ 10 ^ (top - 1) := by
        rw [cast_tenPow]
        exact zpow_le_zpow_right₀ one_le (by omega)
      exact rounds_great (far.trans least) negative
    · have near : (10 : ℚ) ^ top ≤ 10 ^ (-400 : Int) := zpow_le_zpow_right₀ one_le (by omega)
      exact rounds_little (by positivity) (most.trans near) negative
    · unfold decisiveDigits
      split
      next zeros => exact rounds_short zeros top negative
      next nonzero => exact rounds_long kept nonzero lead (by omega) negative

/-! ## Texts -/

/-- A point and digits behind it, or nothing. -/
inductive SpellsFraction : List Char → List Char → Prop
  | absent : SpellsFraction [] []
  | point {ds : List Char} (digits : ∀ c ∈ ds, isDigit c = true) : SpellsFraction ('.' :: ds) ds

/-- The letter of an exponent of ten and the exponent, or nothing. -/
inductive SpellsPower : List Char → Int → Prop
  | absent : SpellsPower [] 0
  | power {c : Char} {text : List Char} {n : Int} (letter : c = 'e' ∨ c = 'E')
    (spelled : Spells text n) : SpellsPower (c :: text) n

/-- A decimal without a sign.  There is a digit before or behind the point. -/
inductive SpellsDecimal : List Char → Decimal → Prop
  | spelled {whole behind fraction power : List Char} {n : Int}
    (digits : ∀ c ∈ whole, isDigit c = true) (point : SpellsFraction behind fraction)
    (scaled : SpellsPower power n) (some : whole ≠ [] ∨ fraction ≠ []) :
    SpellsDecimal (whole ++ (behind ++ power)) ⟨whole, fraction, n⟩

theorem le_foldl_digits (n : Nat) (ds : List Char) :
    n ≤ ds.foldl (fun n d => 10 * n + digitValue d) n := by
  rw [foldl_digits]
  exact (Nat.le_mul_of_pos_right n (tenPow_pos _)).trans (Nat.le_add_right _ _)

/-- Up to the limit the digits of an exponent are all read. -/
theorem foldl_exponent_eq {n : Nat} {ds : List Char}
    (small : ds.foldl (fun n d => 10 * n + digitValue d) n < exponentLimit) :
    ds.foldl (fun n d => if n < exponentLimit then 10 * n + digitValue d else n) n =
      ds.foldl (fun n d => 10 * n + digitValue d) n := by
  induction ds generalizing n with
  | nil => rfl
  | cons d ds ih =>
    have start : n < exponentLimit := (le_foldl_digits n (d :: ds)).trans_lt small
    rw [List.foldl_cons, if_pos start]
    exact ih small

theorem exponentOfDigits_eq {ds : List Char} (small : ofDigits ds < exponentLimit) :
    exponentOfDigits ds = ofDigits ds :=
  foldl_exponent_eq small

theorem natAbs_signed (negative : Bool) (ds : List Char) :
    (signed negative ds).natAbs = ofDigits ds := by
  cases negative
  · rfl
  · exact Int.natAbs_neg _

theorem readExponent?_of_spells {text : List Char} {n : Int} (spelled : SpellsPower text n)
    (small : n.natAbs < exponentLimit) : readExponent? text = some n := by
  cases spelled with
  | absent => rfl
  | power letter spelled =>
    obtain ⟨digits, rfl⟩ := spells_iff.mp spelled
    rw [natAbs_signed] at small
    have plain := isDigits_iff.mp digits
    simp only [readExponent?, if_pos letter, plain, Bool.false_eq_true, if_false,
      exponentOfDigits_eq small]
    rfl

theorem SpellsPower.noDigit {text : List Char} {n : Int} (spelled : SpellsPower text n) :
    ∀ c ∈ text.head?, isDigit c = false ∧ c ≠ '.' := by
  cases spelled with
  | absent => exact fun _ mem => absurd mem (Option.not_mem_none _)
  | power letter =>
    rintro c ⟨⟩
    rcases letter with rfl | rfl <;> decide

theorem readDecimal?_of_spells {text : List Char} {d : Decimal} (spelled : SpellsDecimal text d)
    (small : d.exponent.natAbs < exponentLimit) : readDecimal? text = some d := by
  cases spelled with
  | @spelled whole behind fraction power n digits point scaled some =>
    have exponent := readExponent?_of_spells scaled small
    have notDigit : ∀ c ∈ power.head?, isDigit c = false := fun c mem => (scaled.noDigit c mem).1
    have known : (whole.isEmpty && fraction.isEmpty) = false := by
      simpa [List.isEmpty_iff, imp_iff_not_or] using some
    unfold readDecimal?
    cases point with
    | absent =>
      have taken := Text.takeWhile_append_of_head? digits notDigit
      have dropped := Text.dropWhile_append_of_head? digits notDigit
      have noPoint (t : List Char) : power ≠ '.' :: t := by
        rintro rfl
        exact (scaled.noDigit '.' rfl).2 rfl
      simp only [List.nil_append, taken, dropped, known, exponent]
      rfl
    | point fractionDigits =>
      have dot : ∀ c ∈ ('.' :: fraction ++ power).head?, isDigit c = false := by
        rintro c ⟨⟩
        decide
      have taken := Text.takeWhile_append_of_head? digits dot
      have dropped := Text.dropWhile_append_of_head? digits dot
      have takenToo := Text.takeWhile_append_of_head? fractionDigits notDigit
      have droppedToo := Text.dropWhile_append_of_head? fractionDigits notDigit
      rw [List.cons_append] at taken dropped
      simp only [List.cons_append, taken, dropped, takenToo, droppedToo, known, exponent]
      rfl

theorem SpellsDecimal.digits {text : List Char} {d : Decimal} (spelled : SpellsDecimal text d) :
    ∀ c ∈ d.whole ++ d.fraction, isDigit c = true := by
  cases spelled with
  | spelled digits point =>
    refine List.forall_mem_append.mpr ⟨digits, ?_⟩
    cases point with
    | absent => exact List.forall_mem_nil _
    | point fractionDigits => exact fractionDigits

/-- A decimal begins with a digit or with its point. -/
theorem SpellsDecimal.exists_cons {text : List Char} {d : Decimal}
    (spelled : SpellsDecimal text d) :
    ∃ c rest, text = c :: rest ∧ (isDigit c = true ∨ c = '.') := by
  cases spelled with
  | @spelled whole behind fraction power n digits point scaled some =>
    cases whole with
    | cons c whole => exact ⟨c, _, rfl, Or.inl (digits c List.mem_cons_self)⟩
    | nil =>
      cases point with
      | absent => exact absurd some (by simp)
      | point => exact ⟨'.', _, rfl, Or.inr rfl⟩

theorem toLower_of_isDigit {c : Char} (digit : isDigit c = true) : c.toLower = c := by
  simp only [isDigit, Bool.and_eq_true, decide_eq_true_eq] at digit
  refine dif_neg ?_
  rintro ⟨upper, -⟩
  have beyond : 'A'.val ≤ '9'.val := UInt32.le_trans upper digit.2
  exact absurd beyond (by decide)

/-- The words for the infinities and for NaN begin with other letters than a decimal. -/
theorem not_word {text : List Char} {d : Decimal} (spelled : SpellsDecimal text d) {word : String}
    (begins : ∃ c ∈ word.toList.head?, isDigit c = false ∧ c ≠ '.') :
    String.ofList (text.map Char.toLower) ≠ word := by
  rintro rfl
  obtain ⟨c, rest, rfl, first⟩ := spelled.exists_cons
  rw [String.toList_ofList] at begins
  obtain ⟨_, ⟨⟩, noDigit, noPoint⟩ := begins
  rcases first with digit | rfl
  · rw [toLower_of_isDigit digit, digit] at noDigit
    cases noDigit
  · exact noPoint (by decide)

/-- A decimal is read as the number that the rational is rounded to which it spells. -/
theorem rounds_of_spells {s : List Char} {d : Decimal} (spelled : SpellsDecimal (splitSign s).2 d)
    (small : d.exponent.natAbs < exponentLimit) :
    ∃ x, readBinary64? s = some x ∧ Rounds (splitSign s).1 d.value x := by
  have read := readDecimal?_of_spells spelled small
  have inf : String.ofList ((splitSign s).2.map Char.toLower) ≠ "inf" :=
    not_word spelled ⟨'i', by decide, by decide, by decide⟩
  have infinity : String.ofList ((splitSign s).2.map Char.toLower) ≠ "infinity" :=
    not_word spelled ⟨'i', by decide, by decide, by decide⟩
  have nan : String.ofList ((splitSign s).2.map Char.toLower) ≠ "nan" :=
    not_word spelled ⟨'n', by decide, by decide, by decide⟩
  refine ⟨.ofRatio (splitSign s).1 d.ratio.1 d.ratio.2, ?_, rounds_ratio ?_ _⟩
  · simp only [readBinary64?, readWith?, inf, infinity, nan, or_self, if_false, read]
    rfl
  · exact spelled.digits

end Numeral

end Stencil
