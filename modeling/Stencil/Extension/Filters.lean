import Stencil.Filter.Argument
import Stencil.Text.Case
import Stencil.Value.Text

/-!
# Filters that show their arguments

A small set of filters beyond those that every engine starts with.  Each is written over one of the
types that arguments are converted to and shows what it was given.  Beside them stand a few global
filters, which see every value that a variable writes.
-/

namespace Stencil.Extension

/-- A word and the text of what it was given. -/
def labelled (label text : String) : Except Error Value := .ok (.string (label ++ ":" ++ text))

/-- An optional argument as a value. -/
def optional {α : Type} (f : α → Value) : Option α → Value
  | some a => f a
  | none => .none

def filters : Table Filter := Table.ofList [
  ("double", Filter.unary fun (n : Int64) => .ok (.int (n * 2))),
  ("wrap", Filter.ternary fun (s left : String) (right : Option String) =>
    .ok (.string (left ++ s ++ right.getD left))),
  ("bool", Filter.unary fun (b : Bool) => labelled "bool" (Value.boolText b)),
  ("int", Filter.unary fun (n : Int64) => labelled "int" (Value.intText n)),
  ("usize", Filter.unary fun (n : Nat) => labelled "usize" (toString n)),
  ("float", Filter.unary fun (x : Binary64) => .ok (.float x)),
  ("string", Filter.unary fun (s : String) => labelled "string" s),
  ("seq", Filter.unary fun (items : List Value) => .ok (.ofNat items.length)),
  ("opt_int", Filter.binary fun (_ : Value) (n : Option Int64) => .ok (optional .int n)),
  ("opt_bool", Filter.binary fun (_ : Value) (b : Option Bool) => .ok (optional .bool b)),
  ("four", Filter.quaternary fun (v : Value) (n : Int64) (b : Bool) (x : Option Binary64) =>
    .ok (.seq [v, .int n, .bool b, optional .float x])),
  ("kind", Filter.unary fun (v : Value) => .ok (.string v.kind.word)),
  ("fail", Filter.unary fun (v : Value) =>
    .error (Cause.other .invalidOperation (some ("refused " ++ v.display))))]

/-! ## Global filters -/

/-- The text of a value in upper case. -/
def upper (v : Value) : Except Error Value :=
  .ok (.string (String.ofList (Text.upper v.display.toList)))

def kindOf (v : Value) : Except Error Value := .ok (.string v.kind.word)

/-- A value in a sequence behind a sign. -/
def listed (v : Value) : Except Error Value := .ok (.seq [.string "<", v])

def noNumbers (v : Value) : Except Error Value :=
  if v.kind = .number then
    .error (Cause.other .invalidOperation (some ("no \"" ++ v.display ++ "\" please")))
  else .ok v

/-- The global filters by their names. -/
def globalFilter? (name : String) : Option (Value → Except Error Value) :=
  if name = "upper" then some upper
  else if name = "kind" then some kindOf
  else if name = "list" then some listed
  else if name = "no_numbers" then some noNumbers
  else none

end Stencil.Extension
