import Mathlib.Data.List.Forall2
import Stencil.Proofs.Number.Integers
import Stencil.Value.Compare

/-!
# The equality of values

Equality is symmetric, and reflexive where no part of a value is NaN.  It is transitive but for one
thing: an integer that meets a floating point number is rounded first, so two integers of more than
53 bits may both be equal to one such number (`Value.Clash`).  Equality goes through sequences and
maps, so all of this holds for the parts of a value as well as for the value.
-/

namespace Stencil.Value

/-! ## The parts of a value -/

/-- The items of a sequence, or what the keys of a map stand for. -/
def parts : Value → List Value
  | seq items => items
  | map entries => entries.map (·.2)
  | _ => []

/-- What is found in a value by going from part to part. -/
def at? (v : Value) : List Nat → Option Value
  | [] => some v
  | i :: path => v.parts[i]?.bind (·.at? path)

theorem sizeOf_of_mem_parts {v w : Value} (mem : w ∈ v.parts) : sizeOf w < sizeOf v := by
  cases v with
  | seq items =>
    have := List.sizeOf_lt_of_mem (show w ∈ items from mem)
    rw [seq.sizeOf_spec]
    omega
  | map entries =>
    obtain ⟨e, entry, rfl⟩ := List.mem_map.1 (show w ∈ entries.map (·.2) from mem)
    have entries_lt := List.sizeOf_lt_of_mem entry
    have entry_lt : sizeOf e.2 < sizeOf e := by
      rw [Prod.mk.sizeOf_spec e.1 e.2]
      omega
    rw [map.sizeOf_spec]
    omega
  | _ => cases mem

/-- What holds of a value if it holds of its parts holds of all values. -/
theorem parts_induction {P : Value → Prop} (step : ∀ v, (∀ w ∈ v.parts, P w) → P v) (v : Value) :
    P v :=
  step v fun w mem =>
    have := sizeOf_of_mem_parts mem
    parts_induction step w
termination_by sizeOf v

theorem exists_part {v w x : Value} {i : Nat} (lengths : v.parts.length = w.parts.length)
    (part : v.parts[i]? = some x) : ∃ y, w.parts[i]? = some y := by
  obtain ⟨h, -⟩ := List.getElem?_eq_some_iff.1 part
  exact ⟨_, List.getElem?_eq_getElem (lengths ▸ h)⟩

theorem at?_cons_of_part {v w : Value} {i : Nat} (part : v.parts[i]? = some w) (path : List Nat) :
    v.at? (i :: path) = w.at? path := by
  rw [at?, part, Option.bind_some]

/-- No part of a value is NaN. -/
def NoNaN (v : Value) : Prop := ∀ path x, v.at? path = some (float x) → x.isNaN = false

/-! ## Equality part by part -/

theorem equals_int_float (m : Int64) (x : Binary64) :
    (int m).equals (float x) = (floatOfInt m).equals x := by
  simp [equals, equalNumbers, numberPair?]

theorem equals_float_int (x : Binary64) (n : Int64) :
    (float x).equals (int n) = x.equals (floatOfInt n) := by
  simp [equals, equalNumbers, numberPair?]

theorem equals_float (x y : Binary64) : (float x).equals (float y) = x.equals y := by
  simp [equals, equalNumbers, numberPair?]

/-- Two values are equal apart from their parts. -/
inductive HeadsEqual : Value → Value → Prop
  | nil {a b : Value} (ha : a.isNil = true) (hb : b.isNil = true) : HeadsEqual a b
  | bool (b : Bool) : HeadsEqual (bool b) (bool b)
  | int (n : Int64) : HeadsEqual (int n) (int n)
  | intFloat {m : Int64} {x : Binary64} (same : (floatOfInt m).equals x = true) :
      HeadsEqual (int m) (float x)
  | floatInt {x : Binary64} {n : Int64} (same : x.equals (floatOfInt n) = true) :
      HeadsEqual (float x) (int n)
  | float {x y : Binary64} (same : x.equals y = true) : HeadsEqual (float x) (float y)
  | string (s : String) : HeadsEqual (string s) (string s)
  | seq (xs ys : List Value) : HeadsEqual (seq xs) (seq ys)
  | map {es fs : List (String × Value)} (keys : es.map (·.1) = fs.map (·.1)) :
      HeadsEqual (map es) (map fs)

theorem equalItems_iff (xs ys : List Value) :
    equalItems xs ys = true ↔ List.Forall₂ (fun x y => x.equals y = true) xs ys := by
  induction xs generalizing ys with
  | nil => cases ys <;> simp [equalItems]
  | cons x xs ih => cases ys <;> simp [equalItems, ih]

theorem equalEntries_iff (es fs : List (String × Value)) :
    equalEntries es fs = true ↔ es.map (·.1) = fs.map (·.1) ∧
      List.Forall₂ (fun x y => x.equals y = true) (es.map (·.2)) (fs.map (·.2)) := by
  induction es generalizing fs with
  | nil => cases fs <;> simp [equalEntries]
  | cons e es ih =>
    cases fs with
    | nil => simp [equalEntries]
    | cons f fs =>
      simp only [equalEntries, Bool.and_eq_true, beq_iff_eq, ih, List.map_cons, List.cons.injEq,
        List.forall₂_cons]
      tauto

theorem HeadsEqual.of_equals {a b : Value} (same : a.equals b = true) : HeadsEqual a b := by
  cases a with
  | undefined => exact .nil rfl (by simpa only [equals] using same)
  | none => exact .nil rfl (by simpa only [equals] using same)
  | bool x =>
    cases b with
    | bool y =>
      obtain rfl : x = y := by simpa only [equals_bool, beq_iff_eq] using same
      exact .bool x
    | _ => simp [equals] at same
  | int m =>
    cases b with
    | int n =>
      obtain rfl : m = n := by simpa only [equals_int, beq_iff_eq] using same
      exact .int m
    | float y => exact .intFloat (equals_int_float m y ▸ same)
    | _ => simp [equals, equalNumbers, numberPair?] at same
  | float x =>
    cases b with
    | int n => exact .floatInt (equals_float_int x n ▸ same)
    | float y => exact .float (equals_float x y ▸ same)
    | _ => simp [equals, equalNumbers, numberPair?] at same
  | string s =>
    cases b with
    | string t =>
      obtain rfl : s = t := by simpa only [equals_string, beq_iff_eq] using same
      exact .string s
    | _ => simp [equals] at same
  | seq xs =>
    cases b with
    | seq ys => exact .seq xs ys
    | _ => simp [equals] at same
  | map es =>
    cases b with
    | map fs =>
      rw [equals, equalEntries_iff] at same
      exact .map same.1
    | _ => simp [equals] at same

theorem HeadsEqual.equals_iff {a b : Value} (heads : HeadsEqual a b) :
    a.equals b = true ↔ List.Forall₂ (fun x y => x.equals y = true) a.parts b.parts := by
  cases heads with
  | nil ha hb =>
    rcases (isNil_iff a).1 ha with rfl | rfl <;> rcases (isNil_iff b).1 hb with rfl | rfl <;>
      simp [equals, isNil, parts]
  | bool b => simp [parts]
  | int n => simp [parts]
  | intFloat same => simp [equals_int_float, same, parts]
  | floatInt same => simp [equals_float_int, same, parts]
  | float same => simp [equals_float, same, parts]
  | string s => simp [parts]
  | seq xs ys =>
    rw [equals]
    exact equalItems_iff xs ys
  | map keys =>
    rw [equals, equalEntries_iff, and_iff_right keys]
    rfl

/-- Two values are equal if they are apart from their parts, and each part of one is equal to the
part at the same place of the other. -/
theorem equals_iff (a b : Value) : a.equals b = true ↔
    HeadsEqual a b ∧ a.parts.length = b.parts.length ∧
      ∀ (i : Nat) (x y : Value), a.parts[i]? = some x → b.parts[i]? = some y → x.equals y = true := by
  have forall₂ : a.equals b = true ↔
      HeadsEqual a b ∧ List.Forall₂ (fun x y => x.equals y = true) a.parts b.parts :=
    ⟨fun same => ⟨.of_equals same, (HeadsEqual.of_equals same).equals_iff.1 same⟩,
      fun ⟨heads, each⟩ => heads.equals_iff.2 each⟩
  rw [forall₂, List.forall₂_iff_get]
  refine and_congr_right fun _ => and_congr_right fun _ => ?_
  constructor
  · intro each i x y hx hy
    obtain ⟨h₁, rfl⟩ := List.getElem?_eq_some_iff.1 hx
    obtain ⟨h₂, rfl⟩ := List.getElem?_eq_some_iff.1 hy
    exact each i h₁ h₂
  · intro each i h₁ h₂
    exact each i _ _ (List.getElem?_eq_getElem h₁) (List.getElem?_eq_getElem h₂)

theorem equals_at {a b v : Value} {path : List Nat} (same : a.equals b = true)
    (found : a.at? path = some v) : ∃ w, b.at? path = some w ∧ v.equals w = true := by
  induction path generalizing a b with
  | nil =>
    obtain rfl : a = v := Option.some.inj found
    exact ⟨b, rfl, same⟩
  | cons i path ih =>
    obtain ⟨x, part, found⟩ := Option.bind_eq_some_iff.1 found
    obtain ⟨-, lengths, each⟩ := (equals_iff a b).1 same
    obtain ⟨y, partToo⟩ := exists_part lengths part
    rw [at?_cons_of_part partToo]
    exact ih (each i x y part partToo) found

/-! ## The laws -/

/-- Two different integers that are equal to one floating point number have at least 54 bits, or are
the least that have. -/
theorem size_of_equals {m n : Int64} {x : Binary64} (first : (int m).equals (float x) = true)
    (second : (float x).equals (int n) = true) (differ : m ≠ n) :
    9007199254740992 ≤ m.toInt.natAbs ∧ 9007199254740992 ≤ n.toInt.natAbs := by
  have same : (floatOfInt m).equals (floatOfInt n) = true :=
    Binary64.equals_trans (equals_int_float m x ▸ first) (equals_float_int x n ▸ second)
  exact Binary64.size_of_ofInt (fitsInt64_toInt m) (fitsInt64_toInt n)
    ((Binary64.equals_iff _ _).1 same).1 (mt Int64.toInt_inj.1 differ)

theorem HeadsEqual.refl {v : Value} (number : ∀ x, v = Value.float x → x.isNaN = false) :
    HeadsEqual v v := by
  cases v with
  | undefined => exact .nil rfl rfl
  | none => exact .nil rfl rfl
  | bool b => exact .bool b
  | int n => exact .int n
  | float x => exact .float (Binary64.equals_self (number x rfl))
  | string s => exact .string s
  | seq items => exact .seq items items
  | map entries => exact .map rfl

theorem HeadsEqual.symm {a b : Value} (heads : HeadsEqual a b) : HeadsEqual b a := by
  cases heads with
  | nil ha hb => exact .nil hb ha
  | bool b => exact .bool b
  | int n => exact .int n
  | intFloat same => exact .floatInt (Binary64.equals_symm same)
  | floatInt same => exact .intFloat (Binary64.equals_symm same)
  | float same => exact .float (Binary64.equals_symm same)
  | string s => exact .string s
  | seq xs ys => exact .seq ys xs
  | map keys => exact .map keys.symm

/-- Two values are equal to a third, all apart from their parts, if they are not different
integers of which this is the rounded number. -/
theorem HeadsEqual.trans {a b c : Value} (first : HeadsEqual a b) (second : HeadsEqual b c)
    (apart : ∀ m x n, a = Value.int m → b = Value.float x → c = Value.int n → m = n) :
    HeadsEqual a c := by
  cases first with
  | nil ha hb =>
    cases second with
    | nil _ hc => exact .nil ha hc
    | _ => cases hb
  | bool b =>
    cases second with
    | nil hb => cases hb
    | bool => exact .bool b
  | int n =>
    exact second
  | intFloat same =>
    cases second with
    | nil hb => cases hb
    | floatInt sameToo =>
      obtain rfl := apart _ _ _ rfl rfl rfl
      exact .int _
    | float sameToo => exact .intFloat (Binary64.equals_trans same sameToo)
  | floatInt same =>
    cases second with
    | nil hb => cases hb
    | int => exact .floatInt same
    | intFloat sameToo => exact .float (Binary64.equals_trans same sameToo)
  | float same =>
    cases second with
    | nil hb => cases hb
    | floatInt sameToo => exact .floatInt (Binary64.equals_trans same sameToo)
    | float sameToo => exact .float (Binary64.equals_trans same sameToo)
  | string s => exact second
  | seq xs ys =>
    cases second with
    | nil hb => cases hb
    | seq _ zs => exact .seq xs zs
  | map keys =>
    cases second with
    | nil hb => cases hb
    | map keysToo => exact .map (keys.trans keysToo)

/-- A value is equal to itself if and only if no part of it is NaN. -/
theorem equals_self_iff (a : Value) : a.equals a = true ↔ a.NoNaN := by
  constructor
  · intro same path x found
    obtain ⟨w, foundToo, equal⟩ := equals_at same found
    obtain rfl : float x = w := Option.some.inj (found.symm.trans foundToo)
    exact (Binary64.isNaN_of_equals (equals_float x x ▸ equal)).1
  · induction a using parts_induction with
    | step a ih =>
      intro numbers
      refine (equals_iff a a).2 ⟨.refl fun x h => numbers [] x (congrArg some h), rfl, ?_⟩
      intro i x y part partToo
      obtain rfl : x = y := Option.some.inj (part.symm.trans partToo)
      refine ih x (List.mem_of_getElem? part) fun path z found => numbers (i :: path) z ?_
      rwa [at?_cons_of_part part]

theorem equals_symm {a b : Value} (same : a.equals b = true) : b.equals a = true := by
  induction a using parts_induction generalizing b with
  | step a ih =>
    obtain ⟨heads, lengths, each⟩ := (equals_iff a b).1 same
    refine (equals_iff b a).2 ⟨heads.symm, lengths.symm, fun i y x hy hx => ?_⟩
    exact ih x (List.mem_of_getElem? hx) (each i x y hx hy)

/-- At one and the same place, the first and the last value hold different integers and the one
between them a floating point number. -/
def Clash (a b c : Value) : Prop :=
  ∃ path m x n, a.at? path = some (int m) ∧ b.at? path = some (float x) ∧
    c.at? path = some (int n) ∧ m ≠ n

theorem equals_trans {a b c : Value} (first : a.equals b = true) (second : b.equals c = true)
    (apart : ¬ Clash a b c) : a.equals c = true := by
  induction a using parts_induction generalizing b c with
  | step a ih =>
    obtain ⟨heads, lengths, each⟩ := (equals_iff a b).1 first
    obtain ⟨headsToo, lengthsToo, eachToo⟩ := (equals_iff b c).1 second
    refine (equals_iff a c).2 ⟨heads.trans headsToo ?_, lengths.trans lengthsToo, ?_⟩
    · rintro m x n rfl rfl rfl
      exact of_not_not fun differ => apart ⟨[], m, x, n, rfl, rfl, rfl, differ⟩
    · intro i x z hx hz
      obtain ⟨y, hy⟩ := exists_part lengths hx
      refine ih x (List.mem_of_getElem? hx) (each i x y hx hy) (eachToo i y z hy hz) ?_
      rintro ⟨path, m, w, n, ha, hb, hc, differ⟩
      exact apart ⟨i :: path, m, w, n, (at?_cons_of_part hx path).trans ha,
        (at?_cons_of_part hy path).trans hb, (at?_cons_of_part hz path).trans hc, differ⟩

/-- Values that are equal do not clash. -/
theorem not_clash {a b c : Value} (same : a.equals c = true) : ¬ Clash a b c := by
  rintro ⟨path, m, x, n, ha, -, hc, differ⟩
  obtain ⟨w, found, equal⟩ := equals_at same ha
  obtain rfl : int n = w := Option.some.inj (hc.symm.trans found)
  exact differ (by simpa only [equals_int, beq_iff_eq] using equal)

/-- Where values that are equal one by one clash, neither of the integers is small. -/
theorem size_of_clash {a b c : Value} (first : a.equals b = true) (second : b.equals c = true)
    {path : List Nat} {m n : Int64} {x : Binary64} (ha : a.at? path = some (int m))
    (hb : b.at? path = some (float x)) (hc : c.at? path = some (int n)) (differ : m ≠ n) :
    9007199254740992 ≤ m.toInt.natAbs ∧ 9007199254740992 ≤ n.toInt.natAbs := by
  obtain ⟨y, found, before⟩ := equals_at first ha
  obtain rfl : float x = y := Option.some.inj (hb.symm.trans found)
  obtain ⟨z, found, behind⟩ := equals_at second hb
  obtain rfl : int n = z := Option.some.inj (hc.symm.trans found)
  exact size_of_equals before behind differ

/-- Equality is an equivalence relation on values without NaN, but for integers that are rounded,
which have at least the size of `2 ^ 53` wherever they clash. -/
theorem equals_equivalence (a b c : Value) :
    (a.equals a = true ↔ a.NoNaN) ∧ (a.equals b = true → b.equals a = true) ∧
      (a.equals b = true → b.equals c = true →
        (a.equals c = true ↔ ¬ Clash a b c) ∧
          ∀ path m x n, a.at? path = some (int m) → b.at? path = some (float x) →
            c.at? path = some (int n) → m ≠ n →
            9007199254740992 ≤ m.toInt.natAbs ∧ 9007199254740992 ≤ n.toInt.natAbs) := by
  refine ⟨equals_self_iff a, equals_symm, fun first second => ⟨⟨not_clash, ?_⟩, ?_⟩⟩
  · exact equals_trans first second
  · intro path m x n ha hb hc differ
    exact size_of_clash first second ha hb hc differ

/-- Sequences that write their numbers in different forms, and integers that are rounded. -/
theorem equals_equivalence_mixed :
    (seq [float (floatOfInt 1), none]).equals (seq [int 1, undefined]) = true ∧
      ¬ Clash (seq [int 1, undefined]) (seq [float (floatOfInt 1), none]) (seq [int 1, none]) ∧
      9007199254740992 ≤ (9007199254740993 : Int64).toInt.natAbs ∧
      9007199254740992 ≤ (9007199254740992 : Int64).toInt.natAbs := by
  have first : (seq [int 1, undefined]).equals (seq [float (floatOfInt 1), none]) = true := by
    decide
  have second : (seq [float (floatOfInt 1), none]).equals (seq [int 1, none]) = true := by decide
  obtain ⟨-, symm, trans⟩ := equals_equivalence (seq [int 1, undefined])
    (seq [float (floatOfInt 1), none]) (seq [int 1, none])
  refine ⟨symm first, (trans first second).1.1 (by decide), ?_⟩
  have before : (int 9007199254740993).equals (float (floatOfInt 9007199254740992)) = true := by
    decide
  have behind : (float (floatOfInt 9007199254740992)).equals (int 9007199254740992) = true := by
    decide
  exact ((equals_equivalence _ _ _).2.2 before behind).2 [] _ _ _ rfl rfl rfl (by decide)

/-- The integer behind `2 ^ 53` becomes `2 ^ 53`, and so does the integer of this size. -/
theorem not_equals_trans : ¬ ∀ a b c : Value, a.NoNaN → b.NoNaN → c.NoNaN →
    a.equals b = true → b.equals c = true → a.equals c = true := by
  intro trans
  have same := trans (int 9007199254740993) (float (floatOfInt 9007199254740992))
    (int 9007199254740992) ((equals_self_iff _).1 (by decide)) ((equals_self_iff _).1 (by decide))
    ((equals_self_iff _).1 (by decide)) (by decide) (by decide)
  exact absurd same (by decide)

end Stencil.Value
