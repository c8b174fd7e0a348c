import Stencil.Value.Text
import Stencil.Text.Search

/-!
# Comparing values

Equality, the partial order of numbers and of strings, the total order that sorting uses, and
membership.  An integer meets a floating point number as the floating point number nearest to it.
-/

namespace Stencil

/-- Two numbers brought to one form. -/
inductive NumberPair where
  | ints (a b : Int64)
  | floats (a b : Binary64)

namespace Value

/-- An integer as a floating point number. -/
def floatOfInt (n : Int64) : Binary64 := Binary64.ofInt n.toInt

/-- The two values as numbers of one form, if both are numbers. -/
def numberPair? : Value → Value → Option NumberPair
  | int a, int b => some (.ints a b)
  | float a, float b => some (.floats a b)
  | int a, float b => some (.floats (floatOfInt a) b)
  | float a, int b => some (.floats a (floatOfInt b))
  | _, _ => Option.none

/-- Whether two values are numbers that are equal. -/
def equalNumbers (a b : Value) : Bool :=
  match numberPair? a b with
  | some (.ints x y) => x == y
  | some (.floats x y) => x.equals y
  | Option.none => false

mutual

/-- Equality of values.  None and undefined are equal, and numbers are equal by value. -/
def equals : Value → Value → Bool
  | undefined, b | none, b => b.isNil
  | bool a, b => match b with
    | bool b => a == b
    | _ => false
  | string a, b => match b with
    | string b => a == b
    | _ => false
  | seq xs, b => match b with
    | seq ys => equalItems xs ys
    | _ => false
  | map es, b => match b with
    | map fs => equalEntries es fs
    | _ => false
  | int a, b => equalNumbers (int a) b
  | float a, b => equalNumbers (float a) b

/-- Sequences are equal if their items are, one by one. -/
def equalItems : List Value → List Value → Bool
  | [], [] => true
  | x :: xs, y :: ys => x.equals y && equalItems xs ys
  | _, _ => false

/-- Maps are equal if their keys are the same and the values are equal. -/
def equalEntries : List (String × Value) → List (String × Value) → Bool
  | [], [] => true
  | (k, x) :: xs, (l, y) :: ys => k == l && x.equals y && equalEntries xs ys
  | _, _ => false

end

/-- The order of numbers by value and of strings by code points.  Other values have none. -/
def compare? (a b : Value) : Option Ordering :=
  match a, b with
  | string a, string b => some (compare a b)
  | a, b =>
    match numberPair? a b with
    | some (.ints x y) => some (compare x.toInt y.toInt)
    | some (.floats x y) => x.compare? y
    | Option.none => Option.none

/-- The place of a kind among all values in sorted order. -/
def sortRank : Value → Nat
  | undefined | none => 0
  | bool _ => 1
  | int _ | float _ => 2
  | string _ => 3
  | seq _ => 4
  | map _ => 5

/-- The order that sorting uses.  Values of different kinds are ordered by kind; sequences are
among each other all alike, and so are maps. -/
def sortCompare (a b : Value) : Ordering :=
  match a, b with
  | bool a, bool b => compare a b
  | string a, string b => compare a b
  | a, b =>
    match numberPair? a b with
    | some (.ints x y) => compare x.toInt y.toInt
    | some (.floats x y) => x.totalCompare y
    | Option.none => compare a.sortRank b.sortRank

/-- Whether a value contains another: a string the text of any value that is not nil, a sequence
an equal item, a map the key. -/
def contains (v needle : Value) : Bool :=
  match v with
  | string s => !needle.isNil && Text.occursIn needle.display.toList s.toList
  | seq items => items.any fun item => item.equals needle
  | map entries =>
    match needle with
    | string key => Table.binds entries key
    | _ => false
  | _ => false

/-! ## Small facts -/

theorem equals_of_isNil {a b : Value} (ha : a.isNil = true) (hb : b.isNil = true) :
    a.equals b = true := by
  rcases (isNil_iff a).1 ha with rfl | rfl <;> simpa [equals] using hb

@[simp] theorem equals_string (a b : String) : (string a).equals (string b) = (a == b) := by
  simp [equals]

@[simp] theorem equals_int (a b : Int64) : (int a).equals (int b) = (a == b) := by
  simp [equals, equalNumbers, numberPair?]

@[simp] theorem equals_bool (a b : Bool) : (bool a).equals (bool b) = (a == b) := by
  simp [equals]

end Value

end Stencil
