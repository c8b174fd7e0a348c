import Stencil.Number.Bounds
import Stencil.Number.Power

/-!
# Floating point numbers

The numbers of the IEEE 754 format binary64, as data: a finite number is a sign, a mantissa below
`2 ^ 53` and an exponent of two, in the one canonical form; beside these stand the two infinities
and the two signs of "not a number".  Every operation works on exact integers and rounds once, to
the nearest number and on a tie to the even mantissa, so each result is the correctly rounded one.
-/

namespace Stencil

/-! ## Rounding a quotient to a binary format -/

/-- A binary format: how many bits a mantissa has, and the least exponent. -/
structure BinaryFormat where
  precision : Nat
  minExponent : Int

/-- The format with mantissas of 53 bits. -/
def BinaryFormat.double : BinaryFormat := ⟨53, -1074⟩

/-- The format with mantissas of 24 bits. -/
def BinaryFormat.single : BinaryFormat := ⟨24, -149⟩

/-- The quotient rounded to the nearest integer, and on a tie to the even one. -/
def roundDiv (num den : Nat) : Nat :=
  let q := num / den
  let r := num % den
  if den < 2 * r ∨ (den = 2 * r ∧ q % 2 = 1) then q + 1 else q

/-- The exponent of the greatest power of two that is at most `num / den`, for positive `num` and
`den`. -/
def floorLog2 (num den : Nat) : Int :=
  let e : Int := (num.log2 : Int) - (den.log2 : Int)
  if den * twoPow e.toNat ≤ num * twoPow (-e).toNat then e else e - 1

/-- The mantissa and exponent of the number of the format nearest to `num / den`.  The exponent is
not bounded above. -/
def BinaryFormat.round (f : BinaryFormat) (num den : Nat) : Nat × Int :=
  if num = 0 then (0, f.minExponent)
  else
    let e := max (floorLog2 num den - ((f.precision : Int) - 1)) f.minExponent
    let m := roundDiv (num * twoPow (-e).toNat) (den * twoPow e.toNat)
    if m = twoPow f.precision then (twoPow (f.precision - 1), e + 1) else (m, e)

/-! ## The numbers -/

/-- The canonical mantissas and exponents: the mantissa has 53 bits, or the exponent is the least
one. -/
def Canonical (mantissa : Nat) (exponent : Int) : Prop :=
  mantissa < 9007199254740992 ∧ -1074 ≤ exponent ∧ exponent ≤ 971 ∧
    (4503599627370496 ≤ mantissa ∨ exponent = -1074)

instance (m : Nat) (e : Int) : Decidable (Canonical m e) := by
  unfold Canonical
  infer_instance

/-- A number of the format binary64.  A finite one is `± mantissa * 2 ^ exponent`. -/
inductive Binary64 where
  | nan (negative : Bool)
  | infinite (negative : Bool)
  | finite (negative : Bool) (mantissa : Nat) (exponent : Int)
      (canonical : Canonical mantissa exponent)
  deriving DecidableEq

namespace Binary64

def zero (negative : Bool) : Binary64 := .finite negative 0 (-1074) (by decide)

instance : Inhabited Binary64 := ⟨zero false⟩

/-- The finite number with this mantissa and exponent; what is too large is infinite. -/
def ofParts (negative : Bool) (mantissa : Nat) (exponent : Int) : Binary64 :=
  if h : Canonical mantissa exponent then .finite negative mantissa exponent h
  else .infinite negative

/-- The number nearest to `± num / den`. -/
def ofRatio (negative : Bool) (num den : Nat) : Binary64 :=
  let r := BinaryFormat.double.round num den
  ofParts negative r.1 r.2

/-- The number nearest to `± n * 2 ^ e`. -/
def ofDyadic (negative : Bool) (n : Nat) (e : Int) : Binary64 :=
  ofRatio negative (n * twoPow e.toNat) (twoPow (-e).toNat)

/-- The number nearest to an integer. -/
def ofInt (n : Int) : Binary64 := ofRatio (decide (n < 0)) n.natAbs 1

/-- The number of the format with 24 bits nearest to `± num / den`, as a number of this format. -/
def ofRatioSingle (negative : Bool) (num den : Nat) : Binary64 :=
  let r := BinaryFormat.single.round num den
  if r.2 ≤ 104 then ofDyadic negative r.1 r.2 else .infinite negative

/-- Whether the number is none of the numbers. -/
def isNaN : Binary64 → Bool
  | .nan _ => true
  | _ => false

def isFinite : Binary64 → Bool
  | .finite .. => true
  | _ => false

/-- The sign, which zeros and the two forms of NaN have too. -/
def isNegative : Binary64 → Bool
  | .nan n => n
  | .infinite n => n
  | .finite n .. => n

/-- Whether the number is a zero. -/
def isZero : Binary64 → Bool
  | .finite _ m _ _ => m == 0
  | _ => false

/-! ## Comparing -/

/-- The signed mantissa at an exponent that is not above the number's own. -/
def scaled (negative : Bool) (mantissa : Nat) (exponent base : Int) : Int :=
  let n : Int := mantissa * twoPow (exponent - base).toNat
  if negative then -n else n

/-- The order of two finite numbers by value. -/
def compareFinite (n₁ : Bool) (m₁ : Nat) (e₁ : Int) (n₂ : Bool) (m₂ : Nat) (e₂ : Int) : Ordering :=
  let base := min e₁ e₂
  compare (scaled n₁ m₁ e₁ base) (scaled n₂ m₂ e₂ base)

/-- The order by value.  NaN is not comparable, and the two zeros are equal. -/
def compare? : Binary64 → Binary64 → Option Ordering
  | .nan _, _ => none
  | _, .nan _ => none
  | .infinite a, .infinite b => some (compare b a)
  | .infinite a, .finite .. => some (if a then .lt else .gt)
  | .finite .., .infinite b => some (if b then .gt else .lt)
  | .finite n₁ m₁ e₁ _, .finite n₂ m₂ e₂ _ => some (compareFinite n₁ m₁ e₁ n₂ m₂ e₂)

/-- Equality by value: NaN differs from itself, and the two zeros are equal. -/
def equals (x y : Binary64) : Bool := x.compare? y == some .eq

/-- The place of the class of a number in the total order. -/
def classRank : Binary64 → Nat
  | .nan true => 0
  | .infinite true => 1
  | .finite .. => 2
  | .infinite false => 3
  | .nan false => 4

/-- The total order of all numbers: by value, with negative zero below zero, and each NaN beyond
the infinity of its sign.  A NaN is nothing but its sign here, so all NaNs of one sign are equal,
where an order of the bit patterns goes on with their payloads. -/
def totalCompare : Binary64 → Binary64 → Ordering
  | .finite n₁ m₁ e₁ _, .finite n₂ m₂ e₂ _ =>
    (compareFinite n₁ m₁ e₁ n₂ m₂ e₂).then (compare n₂ n₁)
  | x, y => compare x.classRank y.classRank

/-! ## Arithmetic -/

/-- The result of an operation that has none. -/
def invalid : Binary64 := .nan true

/-- The number with its sign changed. -/
def neg : Binary64 → Binary64
  | .nan n => .nan !n
  | .infinite n => .infinite !n
  | .finite n m e h => .finite (!n) m e h

def abs : Binary64 → Binary64
  | .nan _ => .nan false
  | .infinite _ => .infinite false
  | .finite _ m e h => .finite false m e h

def add : Binary64 → Binary64 → Binary64
  | .nan n, _ => .nan n
  | _, .nan n => .nan n
  | .infinite a, .infinite b => if a = b then .infinite a else invalid
  | .infinite a, .finite .. => .infinite a
  | .finite .., .infinite b => .infinite b
  | .finite n₁ m₁ e₁ _, .finite n₂ m₂ e₂ _ =>
    let base := min e₁ e₂
    let sum := scaled n₁ m₁ e₁ base + scaled n₂ m₂ e₂ base
    if sum = 0 then zero (n₁ && n₂) else ofDyadic (decide (sum < 0)) sum.natAbs base

def sub (x y : Binary64) : Binary64 :=
  match y with
  | .nan n => if x.isNaN then x else .nan n
  | y => add x y.neg

def mul : Binary64 → Binary64 → Binary64
  | .nan n, _ => .nan n
  | _, .nan n => .nan n
  | .finite n₁ m₁ e₁ _, .finite n₂ m₂ e₂ _ => ofDyadic (n₁ != n₂) (m₁ * m₂) (e₁ + e₂)
  | x, y => if x.isZero || y.isZero then invalid else .infinite (x.isNegative != y.isNegative)

def div : Binary64 → Binary64 → Binary64
  | .nan n, _ => .nan n
  | _, .nan n => .nan n
  | .infinite _, .infinite _ => invalid
  | .infinite a, y => .infinite (a != y.isNegative)
  | x, .infinite b => zero (x.isNegative != b)
  | .finite n₁ m₁ e₁ _, .finite n₂ m₂ e₂ _ =>
    if m₂ = 0 then
      if m₁ = 0 then invalid else .infinite (n₁ != n₂)
    else
      let e := e₁ - e₂
      ofRatio (n₁ != n₂) (m₁ * twoPow e.toNat) (m₂ * twoPow (-e).toNat)

/-- The remainder of the division that truncates; it takes the sign of the dividend. -/
def rem : Binary64 → Binary64 → Binary64
  | .nan n, _ => .nan n
  | _, .nan n => .nan n
  | .infinite _, _ => invalid
  | x, .infinite _ => x
  | .finite n₁ m₁ e₁ _, .finite n₂ m₂ e₂ _ =>
    if m₂ = 0 then invalid
    else
      let base := min e₁ e₂
      let r := (scaled false m₁ e₁ base).natAbs % (scaled n₂ m₂ e₂ base).natAbs
      ofDyadic n₁ r base

/-! ## Integers -/

/-- Whether the number is an integer. -/
def isInteger : Binary64 → Bool
  | .finite _ m e _ => m % twoPow (-e).toNat == 0
  | _ => false

/-- The integer part of a finite number, toward zero. -/
def truncated (negative : Bool) (mantissa : Nat) (exponent : Int) : Int :=
  let n : Int := (mantissa * twoPow exponent.toNat) / twoPow (-exponent).toNat
  if negative then -n else n

/-- The nearest integer of 64 bits toward zero.  What lies outside becomes the nearest bound, and
NaN becomes zero. -/
def toInt64 : Binary64 → Int64
  | .nan _ => 0
  | .infinite n => if n then Int64.minValue else Int64.maxValue
  | .finite n m e _ => clampInt64 (truncated n m e)

/-! ## Small facts -/

@[simp] theorem isFinite_zero (n : Bool) : (zero n).isFinite = true := rfl

@[simp] theorem isZero_zero (n : Bool) : (zero n).isZero = true := rfl

@[simp] theorem isNaN_nan (n : Bool) : (nan n).isNaN = true := rfl

theorem neg_neg (x : Binary64) : x.neg.neg = x := by
  cases x <;> simp [neg]

theorem nan_not_equals (n : Bool) (x : Binary64) : (nan n).equals x = false := rfl

end Binary64

end Stencil
