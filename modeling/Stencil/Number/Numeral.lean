import Stencil.Number.Binary64

/-!
# Reading numerals

Integers and decimal fractions in text.  An integer is an optional sign and digits and has to fit
in 64 bits.  A decimal is an optional sign, digits with at most one point among or around them, and
an optional exponent of ten; the words for the infinities and for NaN are read in any case.  The
value is the number of the format nearest to what the digits say, however many they are, but the
exponent is only read up to a limit.
-/

namespace Stencil.Numeral

/-- Whether the character is one of the ten digits. -/
def isDigit (c : Char) : Bool := '0' ≤ c && c ≤ '9'

def digitValue (c : Char) : Nat := c.toNat - '0'.toNat

/-- The number that a run of digits spells. -/
def ofDigits (ds : List Char) : Nat := ds.foldl (fun n d => 10 * n + digitValue d) 0

/-- A sign, if there is one, and what follows it.  The flag says whether the sign is a minus. -/
def splitSign : List Char → Bool × List Char
  | '-' :: s => (true, s)
  | '+' :: s => (false, s)
  | s => (false, s)

/-- The digits without the zeros in front. -/
def dropZeros (ds : List Char) : List Char := ds.dropWhile (· == '0')

/-- Reads an integer of 64 bits.  No such integer has more than nineteen digits. -/
def readInt64? (s : List Char) : Option Int64 :=
  let (negative, ds) := splitSign s
  if ds.isEmpty || !ds.all isDigit || 19 < (dropZeros ds).length then none
  else int64? (if negative then -(ofDigits ds : Int) else ofDigits ds)

/-- A decimal: the digits before and after the point, and the exponent of ten. -/
structure Decimal where
  whole : List Char
  fraction : List Char
  exponent : Int

/-- From here on the digits of an exponent are not counted. -/
def exponentLimit : Nat := 65536

/-- The number that the digits of an exponent spell.  Once it has reached the limit, which lies far
beyond both ends of the format, the digits that follow leave it as it is. -/
def exponentOfDigits (ds : List Char) : Nat :=
  ds.foldl (fun n d => if n < exponentLimit then 10 * n + digitValue d else n) 0

/-- Reads the exponent of a decimal; there may be none. -/
def readExponent? : List Char → Option Int
  | [] => some 0
  | c :: s =>
    if c = 'e' ∨ c = 'E' then
      let (negative, ds) := splitSign s
      if ds.isEmpty || !ds.all isDigit then none
      else some (if negative then -(exponentOfDigits ds : Int) else exponentOfDigits ds)
    else none

/-- Reads a decimal without a sign.  There is a digit before or after the point. -/
def readDecimal? (s : List Char) : Option Decimal := do
  let whole := s.takeWhile isDigit
  let rest := s.dropWhile isDigit
  let (fraction, rest) := match rest with
    | '.' :: t => (t.takeWhile isDigit, t.dropWhile isDigit)
    | t => ([], t)
  if whole.isEmpty && fraction.isEmpty then none
  else
    let exponent ← readExponent? rest
    pure ⟨whole, fraction, exponent⟩

/-- So many digits of a decimal are looked at one by one. -/
def digitLimit : Nat := 800

/-- The digits that decide to which number a decimal is rounded.  No number midway between two
neighbours of the format has as many as `digitLimit` digits, so of those further behind it only
matters whether they are all zero: a single digit stands for them if they are not. -/
def decisiveDigits (ds : List Char) : List Char :=
  if (ds.drop digitLimit).all (· == '0') then ds.take digitLimit else ds.take digitLimit ++ ['1']

/-- The decimal as a quotient of two numbers that is rounded to the same number of the format.  A
decimal far beyond every number of the format stands for one that is as far out, so that no power
of ten grows with the exponent. -/
def Decimal.ratio (d : Decimal) : Nat × Nat :=
  let ds := dropZeros (d.whole ++ d.fraction)
  let top := ds.length + d.exponent - d.fraction.length
  if ds.isEmpty then (0, 1)
  else if 400 < top then (tenPow 400, 1)
  else if top < -400 then (1, tenPow 400)
  else
    let decisive := decisiveDigits ds
    let e := top - decisive.length
    (ofDigits decisive * tenPow e.toNat, tenPow (-e).toNat)

/-- Reads a number with a rounding function from a sign and a quotient. -/
def readWith? (round : Bool → Nat → Nat → Binary64) (s : List Char) : Option Binary64 :=
  let (negative, t) := splitSign s
  let word := String.ofList (t.map Char.toLower)
  if word = "inf" ∨ word = "infinity" then some (.infinite negative)
  else if word = "nan" then some (.nan negative)
  else (readDecimal? t).map fun d => round negative d.ratio.1 d.ratio.2

/-- Reads a number of the format with 53 bits. -/
def readBinary64? : List Char → Option Binary64 := readWith? Binary64.ofRatio

/-- Reads a number of the format with 24 bits. -/
def readSingle? : List Char → Option Binary64 := readWith? Binary64.ofRatioSingle

end Stencil.Numeral
