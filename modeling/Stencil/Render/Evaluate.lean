import Stencil.Filter.Argument
import Stencil.Markup.Basic

/-!
# Evaluating markup

The value of an expression, the truth of a chain of conditions and the value of a variable, given
what names stand for and what filters there are.
-/

namespace Stencil

/-- What markup is evaluated in: the value of every name, and the filters. -/
structure Scope where
  lookup : String → Value
  filters : Table Filter

/-- The bounds of a range are less than this apart. -/
def maxRange : Int64 := 100000

/-- A value as the bound of a range.  A floating point number is cut to 64 bits. -/
def rangeBound (v : Value) : Except Error Int64 :=
  match v.toNumber with
  | .ok (.int n) => .ok n
  | .ok (.float x) => .ok x.toInt64
  | .error _ => .error (Cause.rangeBound v.kind)

/-- The integers from one bound to the other, both included. -/
def rangeItems (first last : Int64) : List Value :=
  (List.range (last.toInt - first.toInt + 1).toNat).map fun (i : Nat) =>
    .int (Int64.ofInt (first.toInt + i))

/-- The sequence from one bound to the other. -/
def rangeValue (first last : Int64) : Except Error Value :=
  if maxRange ≤ clampedDifference last first then .error Cause.rangeTooLong
  else .ok (.seq (rangeItems first last))

namespace Scope

mutual

/-- The value of an expression.  The word for what is empty is the empty string. -/
def eval (s : Scope) : Expr → Except Error Value
  | .const v => .ok v
  | .empty => .ok (.string "")
  | .path root segments => s.follow (s.lookup root) segments
  | .range first last => do
    let a ← s.eval first
    let a ← rangeBound a
    let b ← s.eval last
    let b ← rangeBound b
    rangeValue a b

/-- The value that a path leads to. -/
def follow (s : Scope) (v : Value) : List (Segment Expr) → Except Error Value
  | [] => .ok v
  | .attr name :: rest => s.follow (v.attr name) rest
  | .index e :: rest => do
    let key ← s.eval e
    s.follow (v.item key) rest

end

/-- The values of expressions, in order. -/
def evalAll (s : Scope) (es : List Expr) : Except Error (List Value) := es.mapM s.eval

/-! ## Conditions -/

/-- Whether an order is what an ordering comparison asks for. -/
def ordered (op : Comparison) (o : Ordering) : Bool :=
  match op with
  | .gt => o == .gt
  | .ge => o != .lt
  | .lt => o == .lt
  | _ => o != .gt

/-- Compares two values by their order.  Nothing is ordered with nil. -/
def compareOrder (op : Comparison) (a b : Value) : Except Error Bool :=
  if a.isNil || b.isNil then .ok false
  else match a.compare? b with
    | some o => .ok (ordered op o)
    | none => .error (Cause.cannotCompare a.kind b.kind)

def compareValues (op : Comparison) (a b : Value) : Except Error Bool :=
  match op with
  | .eq => .ok (a.equals b)
  | .ne => .ok (!a.equals b)
  | .contains => .ok (a.contains b)
  | op => compareOrder op a b

/-- Compares a value with what is empty. -/
def compareEmpty (op : Comparison) (v : Value) : Bool :=
  match op with
  | .eq => v.isEmpty
  | .ne => !v.isEmpty
  | _ => false

/-- Whether a single condition holds.  Beside the word for what is empty, the other side is asked
whether it is empty. -/
def holds (s : Scope) : Condition → Except Error Bool
  | .value e => do
    let v ← s.eval e
    pure v.isTrue
  | .compare .empty op e | .compare e op .empty => do
    let v ← s.eval e
    pure (compareEmpty op v)
  | .compare left op right => do
    let a ← s.eval left
    let b ← s.eval right
    compareValues op a b

/-- Whether a condition and the linked conditions behind it hold.  Conditions behind a deciding one
are not evaluated. -/
def holdsLinked (s : Scope) (c : Condition) : List (Connective × Condition) → Except Error Bool
  | [] => s.holds c
  | (op, next) :: rest => do
    match op, ← s.holds c with
    | .and, false => pure false
    | .or, true => pure true
    | _, _ => s.holdsLinked next rest

/-- Whether a chain of conditions holds. -/
def holdsChain (s : Scope) (c : ConditionChain) : Except Error Bool := s.holdsLinked c.first c.rest

/-! ## Filters -/

/-- Applies a filter.  That there is no such filter is found before its arguments are evaluated. -/
def apply (s : Scope) (call : FilterCall) (v : Value) : Except Error Value :=
  match s.filters.find? call.name with
  | none => .error (Cause.unknownFilter call.name)
  | some f => do
    let args ← s.evalAll call.args
    f (v :: args)

/-- Applies filters one after the other. -/
def applyAll (s : Scope) (v : Value) : List FilterCall → Except Error Value
  | [] => .ok v
  | call :: rest => do
    let w ← s.apply call v
    s.applyAll w rest

def evalVariable (s : Scope) (v : Variable) : Except Error Value := do
  let value ← s.eval v.expr
  s.applyAll value v.filters

end Scope

end Stencil
