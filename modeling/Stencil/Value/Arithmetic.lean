import Stencil.Number.Numeral
import Stencil.Text.Blank
import Stencil.Value.Text

/-!
# Arithmetic on values

Operands are converted to numbers first: nil counts as zero, and a string is read after the blanks
around it are dropped.  Two integers give an integer, computed exactly, and the operation fails if
the result has no room in 64 bits; any other pair gives a floating point number.  Division rounds
toward minus infinity, and a remainder has the sign of the divisor.
-/

namespace Stencil

/-- A number that arithmetic computes with. -/
inductive Number where
  | int (n : Int64)
  | float (x : Binary64)

namespace Number

/-- The number as a floating point number. -/
def toFloat : Number → Binary64
  | int n => Binary64.ofInt n.toInt
  | float x => x

def toValue : Number → Value
  | int n => .int n
  | float x => .float x

end Number

namespace Value

/-- The number that a text spells, as an integer if it can be one. -/
def readNumber? (s : String) : Option Number :=
  let t := Text.trim Text.isBlank s.toList
  match Numeral.readInt64? t with
  | some n => some (.int n)
  | Option.none => (Numeral.readBinary64? t).map .float

/-- The number that a value stands for. -/
def toNumber (v : Value) : Except Error Number :=
  match v with
  | undefined | none => .ok (.int 0)
  | int n => .ok (.int n)
  | float x => .ok (.float x)
  | string s =>
    match readNumber? s with
    | some n => .ok n
    | Option.none =>
      .error (Cause.notNumeral (String.ofList (Text.trim Text.isBlank s.toList)))
  | v => .error (Cause.notNumber v.kind)

/-- The failure of an operation whose result has no room. -/
def overflow (op : String) (a b : Value) : Error :=
  Cause.cannotCalculate a.display op b.display

/-- An exact integer as the result of an operation. -/
def exactly (op : String) (a b : Value) (n : Int) : Except Error Value :=
  match int64? n with
  | some n => .ok (int n)
  | Option.none => .error (overflow op a b)

/-- An operation on two values from one on integers and one on floating point numbers. -/
def calculate (ints : Int → Int → Except Error Value)
    (floats : Binary64 → Binary64 → Except Error Value) (a b : Value) : Except Error Value := do
  let x ← a.toNumber
  let y ← b.toNumber
  match x, y with
  | .int m, .int n => ints m.toInt n.toInt
  | x, y => floats x.toFloat y.toFloat

def add (a b : Value) : Except Error Value :=
  calculate (fun m n => exactly "+" a b (m + n)) (fun x y => .ok (float (x.add y))) a b

def sub (a b : Value) : Except Error Value :=
  calculate (fun m n => exactly "-" a b (m - n)) (fun x y => .ok (float (x.sub y))) a b

def mul (a b : Value) : Except Error Value :=
  calculate (fun m n => exactly "*" a b (m * n)) (fun x y => .ok (float (x.mul y))) a b

/-- The quotient of two integers, rounded down. -/
def divInts (a b : Value) (m n : Int) : Except Error Value :=
  if n = 0 then .error Cause.dividedByZero else exactly "/" a b (Int.fdiv m n)

/-- The remainder of two integers.  It fails, as the division does, where the quotient has no
room. -/
def remInts (a b : Value) (m n : Int) : Except Error Value :=
  if n = 0 then .error Cause.dividedByZero
  else if ¬ FitsInt64 (Int.fdiv m n) then .error (overflow "%" a b)
  else exactly "%" a b (Int.fmod m n)

/-- The remainder of two floating point numbers, moved to the sign of the divisor. -/
def remFloats (x y : Binary64) : Binary64 :=
  let r := x.rem y
  let below (z : Binary64) := z.compare? (Binary64.zero false) == some .lt
  if !r.isZero && below r != below y then r.add y else r

def div (a b : Value) : Except Error Value :=
  calculate (divInts a b)
    (fun x y => if y.isZero then .error Cause.dividedByZero else .ok (float (x.div y))) a b

def rem (a b : Value) : Except Error Value :=
  calculate (remInts a b)
    (fun x y => if y.isZero then .error Cause.dividedByZero else .ok (float (remFloats x y))) a b

def abs (v : Value) : Except Error Value := do
  match ← v.toNumber with
  | .int n =>
    match int64? n.toInt.natAbs with
    | some n => .ok (int n)
    | Option.none => .error Cause.absOverflow
  | .float x => .ok (float x.abs)

/-! ## Small facts -/

@[simp] theorem toNumber_int (n : Int64) : (int n).toNumber = .ok (.int n) := rfl

@[simp] theorem toNumber_float (x : Binary64) : (float x).toNumber = .ok (.float x) := rfl

@[simp] theorem toNumber_none : none.toNumber = .ok (.int 0) := rfl

@[simp] theorem toNumber_undefined : undefined.toNumber = .ok (.int 0) := rfl

end Value

end Stencil
