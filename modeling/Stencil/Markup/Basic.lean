import Stencil.Value.Compare

/-!
# Markup

What stands inside of the delimiters of a template: value expressions with paths and ranges, chains
of conditions, filters, and variables, which are an expression followed by filters.
-/

namespace Stencil

/-- One step of a path into a value of expressions `ε`. -/
inductive Segment (ε : Type) where
  | attr (name : String)
  | index (key : ε)

/-- A value expression. -/
inductive Expr where
  | const (value : Value)
  /-- The word for what is empty. -/
  | empty
  /-- A name and the way from its value on. -/
  | path (root : String) (segments : List (Segment Expr))
  /-- The integers from one bound to the other. -/
  | range (first last : Expr)

instance : Inhabited Expr := ⟨.empty⟩

/-- A comparison. -/
inductive Comparison where
  | eq
  | ne
  | gt
  | ge
  | lt
  | le
  | contains
  deriving DecidableEq

/-- A word between two conditions. -/
inductive Connective where
  | and
  | or
  deriving DecidableEq

/-- A single condition. -/
inductive Condition where
  /-- A value that has to be true. -/
  | value (e : Expr)
  | compare (left : Expr) (op : Comparison) (right : Expr)

/-- Conditions with a connective between each two.  A chain is read from the right: what follows a
connective is one condition. -/
structure ConditionChain where
  first : Condition
  rest : List (Connective × Condition)

/-- A filter by its name, with its arguments. -/
structure FilterCall where
  name : String
  args : List Expr

/-- A value expression and the filters it goes through. -/
structure Variable where
  expr : Expr
  filters : List FilterCall

/-! ## Equality of markup

Markup is equal if it is built alike from equal values. -/

mutual

def Expr.equals : Expr → Expr → Bool
  | .const v, e => match e with
    | .const w => v.equals w
    | _ => false
  | .empty, e => match e with
    | .empty => true
    | _ => false
  | .path r ss, e => match e with
    | .path q ts => r == q && Expr.equalSegments ss ts
    | _ => false
  | .range a b, e => match e with
    | .range c d => a.equals c && b.equals d
    | _ => false

/-- Equality of the segments of two paths. -/
def Expr.equalSegments : List (Segment Expr) → List (Segment Expr) → Bool
  | [], [] => true
  | .attr n :: ss, .attr m :: ts => n == m && Expr.equalSegments ss ts
  | .index a :: ss, .index b :: ts => a.equals b && Expr.equalSegments ss ts
  | _, _ => false

end

def Expr.equalLists : List Expr → List Expr → Bool
  | [], [] => true
  | a :: as, b :: bs => a.equals b && Expr.equalLists as bs
  | _, _ => false

def FilterCall.equalLists : List FilterCall → List FilterCall → Bool
  | [], [] => true
  | f :: fs, g :: gs =>
    f.name == g.name && Expr.equalLists f.args g.args && FilterCall.equalLists fs gs
  | _, _ => false

def Variable.equals (v w : Variable) : Bool :=
  v.expr.equals w.expr && FilterCall.equalLists v.filters w.filters

end Stencil
