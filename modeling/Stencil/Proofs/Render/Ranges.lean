import Stencil.Proofs.Value.Arithmetic
import Stencil.Render.Evaluate

/-!
# Ranges

A range whose bounds stand for integers is the sequence of the integers from one to the other
(`Ascends`), or too long.  Whether it is too long is found out with a difference that is clamped to
64 bits, which tells as much as the exact one (`maxRange_le_iff`).  The items can be counted up in
machine integers: no addition overflows, whatever the bounds (`countUp?_eq`).
-/

namespace Stencil

/-! ## Counting -/

/-- The integers from the first to the last, both included, each greater by one than the one
before. -/
structure Ascends (first last : Int) (items : List Int64) : Prop where
  length : items.length = (last - first + 1).toNat
  value : ∀ (i : Nat) (k : Int64), items[i]? = some k → k.toInt = first + i

theorem ascends_nil {first last : Int} (crossed : last < first) : Ascends first last [] where
  length := by
    rw [List.length_nil]
    omega
  value i k found := by
    rw [List.getElem?_nil] at found
    cases found

theorem Ascends.cons {first : Int64} {last : Int} {items : List Int64}
    (behind : Ascends (first.toInt + 1) last items) (le : first.toInt ≤ last) :
    Ascends first.toInt last (first :: items) where
  length := by
    rw [List.length_cons, behind.length]
    omega
  value i k found := by
    cases i with
    | zero =>
      rw [List.getElem?_cons_zero, Option.some.injEq] at found
      rw [← found]
      exact (Int.add_zero _).symm
    | succ i =>
      rw [List.getElem?_cons_succ] at found
      rw [behind.value i k found]
      push_cast
      omega

/-- There is only one such list. -/
theorem Ascends.unique {first last : Int} {items others : List Int64}
    (one : Ascends first last items) (other : Ascends first last others) : items = others := by
  refine List.ext_getElem? fun i => ?_
  by_cases inside : i < items.length
  · have insideToo : i < others.length := by rwa [other.length, ← one.length]
    rw [List.getElem?_eq_getElem inside, List.getElem?_eq_getElem insideToo, Option.some.injEq,
      ← Int64.toInt_inj, one.value i _ (List.getElem?_eq_getElem inside),
      other.value i _ (List.getElem?_eq_getElem insideToo)]
  · have beyond : others.length ≤ i := by
      rw [other.length, ← one.length]
      omega
    rw [List.getElem?_eq_none (by omega), List.getElem?_eq_none beyond]

namespace Machine

/-- Counts from the first integer to the last.  One is added behind each but the last, and there is
no list if that overflows. -/
def countUp? (first last : Int64) : Option (List Int64) :=
  if _ : first < last then
    match _ : int64? (first.toInt + 1) with
    | some k => (countUp? k last).map (first :: ·)
    | none => none
  else some (if first = last then [first] else [])
termination_by (last.toInt - first.toInt).toNat
decreasing_by
  have stepped := int64?_eq_some_iff.mp ‹int64? _ = some _›
  have lower := Int64.lt_iff_toInt_lt.mp ‹first < last›
  omega

/-- Nothing overflows, since one is only added to what lies below the last integer. -/
theorem countUp?_eq (first last : Int64) :
    ∃ items, countUp? first last = some items ∧ Ascends first.toInt last.toInt items := by
  fun_induction countUp? first last with
  | case1 first below k next ih =>
    obtain ⟨items, counted, ascends⟩ := ih
    have lower := Int64.lt_iff_toInt_lt.mp below
    rw [int64?_eq_some_iff.mp next] at ascends
    refine ⟨first :: items, ?_, ascends.cons (by omega)⟩
    rw [counted, Option.map_some]
  | case2 first below next =>
    have lower := Int64.lt_iff_toInt_lt.mp below
    have room : FitsInt64 (first.toInt + 1) := by
      have least := fitsInt64_toInt first
      have most := fitsInt64_toInt last
      unfold FitsInt64 at *
      omega
    rw [int64?_of_fits room] at next
    cases next
  | case3 first above =>
    have upper := mt Int64.lt_iff_toInt_lt.mpr above
    refine ⟨_, rfl, ?_⟩
    split
    next same =>
      subst same
      exact (ascends_nil (Int.lt_succ first.toInt)).cons (Int.le_refl _)
    next differ =>
      have apart := mt Int64.toInt_inj.mp differ
      exact ascends_nil (by omega)

end Machine

/-! ## The items of a range -/

theorem ascends_rangeItems (first last : Int64) :
    ∃ items, rangeItems first last = items.map Value.int ∧
      Ascends first.toInt last.toInt items := by
  refine ⟨(List.range (last.toInt - first.toInt + 1).toNat).map fun (i : Nat) =>
    Int64.ofInt (first.toInt + i), ?_, ?_, fun i k found => ?_⟩
  · rw [rangeItems, List.map_map]
    rfl
  · rw [List.length_map, List.length_range]
  · rw [List.getElem?_map, Option.map_eq_some_iff] at found
    obtain ⟨j, found, rfl⟩ := found
    obtain ⟨inside, rfl⟩ := List.getElem?_eq_some_iff.mp found
    rw [List.getElem_range]
    rw [List.length_range] at inside
    apply toInt_of_fits
    have least := fitsInt64_toInt first
    have most := fitsInt64_toInt last
    unfold FitsInt64 at *
    omega

/-! ## Ranges that are too long -/

/-- A difference that is clamped to 64 bits says whether the bounds are too far apart. -/
theorem maxRange_le_iff (first last : Int64) :
    maxRange ≤ clampedDifference last first ↔ 100000 ≤ last.toInt - first.toInt := by
  have limit : maxRange.toInt = 100000 := rfl
  rw [Int64.le_iff_toInt_le, limit, clampedDifference, toInt_clampInt64]
  omega

theorem rangeValue_of_lt {first last : Int64} (near : last.toInt - first.toInt < 100000) :
    rangeValue first last = .ok (.seq (rangeItems first last)) := by
  rw [rangeValue, if_neg (mt (maxRange_le_iff first last).mp (by omega))]

theorem rangeValue_of_le {first last : Int64} (far : 100000 ≤ last.toInt - first.toInt) :
    rangeValue first last = .error Cause.rangeTooLong := by
  rw [rangeValue, if_pos ((maxRange_le_iff first last).mpr far)]

/-- A range that is not too long has a hundred thousand items at most. -/
theorem length_le_of_rangeValue {first last : Int64} {v : Value}
    (given : rangeValue first last = .ok v) :
    ∃ items : List Int64, v = .seq (items.map .int) ∧ items.length ≤ 100000 := by
  obtain ⟨items, same, ascends⟩ := ascends_rangeItems first last
  rcases Int.lt_or_le (last.toInt - first.toInt) 100000 with near | far
  · rw [rangeValue_of_lt near, same] at given
    cases given
    refine ⟨items, rfl, ?_⟩
    rw [ascends.length]
    omega
  · rw [rangeValue_of_le far] at given
    cases given

/-! ## Range expressions -/

theorem rangeBound_of_denotes {v : Value} {n : Int64} (stands : v.Denotes n) :
    rangeBound v = .ok n := by
  rw [rangeBound, Value.toNumber_eq_int_iff.mpr stands]

namespace Scope

variable {s : Scope} {x y : Expr}

theorem eval_range {v w : Value} {m n : Int64} (first : s.eval x = .ok v)
    (last : s.eval y = .ok w) (lower : v.Denotes m) (upper : w.Denotes n) :
    s.eval (.range x y) = rangeValue m n := by
  rw [eval, first, last]
  show (do
    let a ← rangeBound v
    let b ← rangeBound w
    rangeValue a b) = rangeValue m n
  rw [rangeBound_of_denotes lower, rangeBound_of_denotes upper]
  rfl

theorem rangeValue_of_eval {v : Value} (given : s.eval (.range x y) = .ok v) :
    ∃ m n, rangeValue m n = .ok v := by
  rw [eval] at given
  obtain ⟨_, -, given⟩ := bind_eq_ok.mp given
  obtain ⟨m, -, given⟩ := bind_eq_ok.mp given
  obtain ⟨_, -, given⟩ := bind_eq_ok.mp given
  obtain ⟨n, -, given⟩ := bind_eq_ok.mp given
  exact ⟨m, n, given⟩

/-- A range whose bounds stand for integers is what is counted up from one to the other, without
overflow, if they are less than a hundred thousand apart, and an invalid operation otherwise.
Whatever its bounds, a range has no more than a hundred thousand items, all of them integers. -/
theorem eval_range_counts (s : Scope) (x y : Expr) :
    (∀ v w m n, s.eval x = .ok v → s.eval y = .ok w → v.Denotes m → w.Denotes n →
      ∃ items, Machine.countUp? m n = some items ∧ Ascends m.toInt n.toInt items ∧
        (n.toInt - m.toInt < 100000 → s.eval (.range x y) = .ok (.seq (items.map .int))) ∧
        (100000 ≤ n.toInt - m.toInt →
          ∃ e, s.eval (.range x y) = .error e ∧ e.kind = .invalidOperation)) ∧
    ∀ v, s.eval (.range x y) = .ok v →
      ∃ items : List Int64, v = .seq (items.map .int) ∧ items.length ≤ 100000 := by
  constructor
  · intro v w m n first last lower upper
    obtain ⟨items, counted, ascends⟩ := Machine.countUp?_eq m n
    obtain ⟨others, same, ascendsToo⟩ := ascends_rangeItems m n
    obtain rfl := ascends.unique ascendsToo
    have range := eval_range first last lower upper
    refine ⟨items, counted, ascends, fun near => ?_, fun far => ?_⟩
    · rw [range, rangeValue_of_lt near, same]
    · exact ⟨Cause.rangeTooLong, range.trans (rangeValue_of_le far), rfl⟩
  · intro v given
    obtain ⟨m, n, given⟩ := rangeValue_of_eval given
    exact length_le_of_rangeValue given

/-- The two greatest integers, one of them spelled by a string, and a range from the least integer to
the greatest. -/
theorem eval_range_counts_greatest :
    ∃ s : Scope, (Value.string " 9223372036854775806").Denotes 9223372036854775806 ∧
      s.eval (.range (.const (.string " 9223372036854775806")) (.const (.int Int64.maxValue))) =
        .ok (.seq [.int 9223372036854775806, .int Int64.maxValue]) ∧
      (∃ e, s.eval (.range (.const (.int Int64.minValue)) (.const (.int Int64.maxValue))) =
        .error e ∧ e.kind = .invalidOperation) ∧
      ∃ items : List Int64, Value.seq [.int 9223372036854775806, .int Int64.maxValue] =
        .seq (items.map .int) ∧ items.length ≤ 100000 := by
  have spelled : (Value.string " 9223372036854775806").Denotes 9223372036854775806 :=
    Value.Denotes.string (Numeral.Spells.unsigned ⟨by decide, List.all_eq_true.mp rfl⟩)
  have least := Value.Denotes.int Int64.minValue
  have greatest := Value.Denotes.int Int64.maxValue
  let s : Scope := ⟨fun _ => .undefined, []⟩
  obtain ⟨short, bounded⟩ := s.eval_range_counts
    (.const (.string " 9223372036854775806")) (.const (.int Int64.maxValue))
  obtain ⟨items, -, ascends, given, -⟩ := short _ _ _ _ (by rw [eval]) (by rw [eval])
    spelled greatest
  have one : Ascends Int64.maxValue.toInt Int64.maxValue.toInt [Int64.maxValue] :=
    (ascends_nil (by decide)).cons (by decide)
  have two : Ascends (Int64.toInt 9223372036854775806) Int64.maxValue.toInt
      [9223372036854775806, Int64.maxValue] := Ascends.cons one (by decide)
  obtain rfl := ascends.unique two
  obtain ⟨-, -, -, -, refused⟩ := (s.eval_range_counts (.const (.int Int64.minValue))
    (.const (.int Int64.maxValue))).1 _ _ _ _ (by rw [eval]) (by rw [eval]) least greatest
  exact ⟨s, spelled, given (by decide), refused (by decide), bounded _ (given (by decide))⟩

end Scope

end Stencil
