import Stencil.Number.Binary64

/-!
# The shortest decimal of a number

A finite number is written with the fewest digits that read back as the same number, and among the
decimals with that many digits with the nearest one.  `shortest` finds the digits and the place of
the point by exact integer arithmetic, and a `DecimalLayout` says how they are written out.
-/

namespace Stencil

/-- Which of two equally near decimals is taken. -/
inductive DecimalTie where
  | up
  | even
  deriving DecidableEq

/-- How the digits of a number are written. -/
structure DecimalLayout where
  /-- The places of the point, from the first digit, that are written without an exponent; with
  `none` every number is. -/
  positional : Option (Int × Int)
  /-- Whether a positive exponent has a plus sign. -/
  plus : Bool
  /-- The choice between two equally near decimals. -/
  tie : DecimalTie

/-- Digits without zeros at either end, and the place of the point: the value is
`0.d₁d₂… * 10 ^ point`. -/
structure Digits where
  digits : List Char
  point : Int
  deriving DecidableEq

namespace Shortest

/-- How often `num` has to be multiplied by ten, less one, before it reaches `den`. -/
def leadingZeros (fuel num den : Nat) : Nat :=
  match fuel with
  | 0 => 0
  | fuel + 1 => if den ≤ 10 * num then 0 else leadingZeros fuel (10 * num) den + 1

/-- The place of the point of `num / den`: the least `p` with `num / den < 10 ^ p`. -/
def pointOf (num den : Nat) : Int :=
  if den ≤ num then (Nat.toDigits 10 (num / den)).length else -(leadingZeros 400 num den : Int)

/-- The reals that round to a number, in quarters of its last place: the number itself, the lower
and the upper end, and whether the ends belong to them. -/
structure Interval where
  value : Nat
  low : Nat
  high : Nat
  closed : Bool

/-- The interval of a mantissa.  Below a power of two the neighbour is half as far away. -/
def intervalOf (mantissa : Nat) (exponent : Int) : Interval where
  value := 4 * mantissa
  low := if mantissa = 4503599627370496 ∧ -1074 < exponent then 4 * mantissa - 1 else 4 * mantissa - 2
  high := 4 * mantissa + 2
  closed := mantissa % 2 == 0

/-- Whether a multiple `c` of the grid lies in the interval, where a quarter is `b` and a step of
the grid is `a` in a common unit. -/
def Interval.holds (i : Interval) (a b c : Nat) : Bool :=
  if i.closed then decide (i.low * b ≤ c * a) && decide (c * a ≤ i.high * b)
  else decide (i.low * b < c * a) && decide (c * a < i.high * b)

/-- The multiple of the grid that is taken, if one of the two neighbours of the value on the grid
lies in the interval. -/
def Interval.pick? (tie : DecimalTie) (i : Interval) (a b : Nat) : Option Nat :=
  let c := i.value * b / a
  match i.holds a b c, i.holds a b (c + 1) with
  | false, false => none
  | true, false => some c
  | false, true => some (c + 1)
  | true, true =>
    let below := i.value * b - c * a
    let above := (c + 1) * a - i.value * b
    if below < above then some c
    else if above < below then some (c + 1)
    else match tie with
      | .up => some (c + 1)
      | .even => some (if c % 2 = 0 then c else c + 1)

/-- Tries grids with `n`, `n + 1`, … digits, and answers the multiple and the exponent of the grid
that was hit first. -/
def search (tie : DecimalTie) (i : Interval) (point exponent : Int) : Nat → Nat → Nat × Int
  | 0, _ => (0, 0)
  | fuel + 1, n =>
    let g := point - n
    let e := exponent - 2
    let a := twoPow (-e).toNat * tenPow g.toNat
    let b := twoPow e.toNat * tenPow (-g).toNat
    match i.pick? tie a b with
    | some c => (c, g)
    | none => search tie i point exponent fuel (n + 1)

/-- The text without the zeros at its end. -/
def dropTrailingZeros (ds : List Char) : List Char := (ds.reverse.dropWhile (· == '0')).reverse

end Shortest

open Shortest in
/-- The shortest digits of a positive mantissa and exponent.  Seventeen digits always read back. -/
def shortest (tie : DecimalTie) (mantissa : Nat) (exponent : Int) : Digits :=
  let point := pointOf (mantissa * twoPow exponent.toNat) (twoPow (-exponent).toNat)
  let r := search tie (intervalOf mantissa exponent) point exponent 18 1
  let ds := Nat.toDigits 10 r.1
  ⟨dropTrailingZeros ds, ds.length + r.2⟩

/-- Digits with the point in its place and at least one digit before it.  An integer has no
point. -/
def Digits.positional (d : Digits) : List Char :=
  if d.point ≤ 0 then
    '0' :: '.' :: (List.replicate (-d.point).toNat '0' ++ d.digits)
  else
    let n := d.point.toNat
    let zeros := List.replicate (n - d.digits.length) '0'
    if d.digits.length ≤ n then d.digits ++ zeros
    else d.digits.take n ++ '.' :: d.digits.drop n

/-- Digits with the point behind the first and an exponent of ten. -/
def Digits.scientific (plus : Bool) (d : Digits) : List Char :=
  let e := d.point - 1
  let sign := if e < 0 then ['-'] else if plus then ['+'] else []
  d.digits.take 1 ++ (if d.digits.length ≤ 1 then [] else '.' :: d.digits.drop 1) ++
    'e' :: (sign ++ Nat.toDigits 10 e.natAbs)

/-- Puts a point and a zero behind an integer. -/
def markInteger (s : List Char) : List Char :=
  if s.contains '.' then s else s ++ ['.', '0']

/-- The digits of a finite number without its sign.  Without an exponent there always is a
point. -/
def DecimalLayout.magnitude (l : DecimalLayout) (mantissa : Nat) (exponent : Int) : List Char :=
  if mantissa = 0 then ['0', '.', '0']
  else
    let d := shortest l.tie mantissa exponent
    match l.positional with
    | none => markInteger d.positional
    | some (low, high) =>
      if low ≤ d.point ∧ d.point ≤ high then markInteger d.positional else d.scientific l.plus

/-- The text of a number in a layout. -/
def DecimalLayout.write (l : DecimalLayout) : Binary64 → String
  | .nan _ => "NaN"
  | .infinite negative => if negative then "-inf" else "inf"
  | .finite negative m e _ =>
    String.ofList (if negative then '-' :: l.magnitude m e else l.magnitude m e)

end Stencil
