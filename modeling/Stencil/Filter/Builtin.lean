import Stencil.Filter.Argument
import Stencil.Filter.Sort
import Stencil.Json
import Stencil.Text.Case
import Stencil.Text.Escape

/-!
# The filters that every engine starts with

Filters on text work on what the value displays as; filters on sequences take sequences and treat
nil as empty; filters on numbers are the arithmetic of values.
-/

namespace Stencil.Filter

/-- A filter on text without arguments. -/
def onText (f : List Char → List Char) : Filter :=
  unary fun (s : String) => .ok (.string (String.ofList (f s.toList)))

/-- The pieces of a text as a sequence of strings. -/
def ofPieces (pieces : List (List Char)) : Value :=
  .seq (pieces.map fun piece => .string (String.ofList piece))

/-- Splits a text.  The empty separator splits into characters, and a single space into words. -/
def split (s sep : String) : Value :=
  if sep = "" then ofPieces (s.toList.map fun c => [c])
  else if sep = " " then ofPieces (Text.words Text.isBlank s.toList)
  else ofPieces (Text.splitOn sep.toList s.toList)

/-- Joins the texts of the items of a sequence; any other value is its text. -/
def join (v : Value) (sep : String) : String :=
  match v with
  | .seq items =>
    String.ofList (Text.intercalate sep.toList (items.map fun item => item.display.toList))
  | v => v.display

/-- The first item of a sequence or character of a string. -/
def first : Value → Value
  | .string s => Value.ofText? (s.toList.head?.map String.singleton)
  | v => v.attr "first"

/-- The last item of a sequence or character of a string. -/
def last : Value → Value
  | .string s => Value.ofText? (s.toList.getLast?.map String.singleton)
  | v => v.attr "last"

/-- The items that a filter rearranges. -/
def arranged (how : String) (v : Value) : Except Error (List Value) :=
  match v with
  | .seq items => .ok items
  | v => if v.isNil then .ok [] else .error (Cause.cannotArrange how v.kind)

/-- The items in the opposite order. -/
def reverse (v : Value) : Except Error Value := do
  let items ← arranged "reverse" v
  pure (.seq items.reverse)

def sort (v : Value) : Except Error Value := do
  let items ← arranged "sort" v
  pure (.seq (sortItems items))

/-- Falls back to another value for nil, false and what is empty. -/
def default (v other : Value) : Value := if !v.isTrue || v.isEmpty then other else v

def builtin : Table Filter := Table.ofList [
  ("upcase", onText Text.upper),
  ("downcase", onText Text.lower),
  ("capitalize", onText Text.capitalize),
  ("append", binary fun (s other : String) => .ok (.string (s ++ other))),
  ("prepend", binary fun (s other : String) => .ok (.string (other ++ s))),
  ("strip", onText (Text.trim Text.isBlank)),
  ("lstrip", onText (Text.trimStart Text.isBlank)),
  ("rstrip", onText (Text.trimEnd Text.isBlank)),
  ("replace", ternary fun (s old new : String) =>
    .ok (.string (String.ofList (Text.replace old.toList new.toList s.toList)))),
  ("remove", binary fun (s old : String) =>
    .ok (.string (String.ofList (Text.replace old.toList [] s.toList)))),
  ("split", binary fun (s sep : String) => .ok (split s sep)),
  ("join", binary fun (v : Value) (sep : Option String) =>
    .ok (.string (join v (sep.getD " ")))),
  ("size", unary fun (v : Value) => .ok (Value.ofNat (v.length?.getD 0))),
  ("first", unary fun (v : Value) => .ok (first v)),
  ("last", unary fun (v : Value) => .ok (last v)),
  ("reverse", unary reverse),
  ("sort", unary sort),
  ("default", binary fun (v other : Value) => .ok (default v other)),
  ("plus", binary Value.add),
  ("minus", binary Value.sub),
  ("times", binary Value.mul),
  ("divided_by", binary Value.div),
  ("modulo", binary Value.rem),
  ("abs", unary Value.abs),
  ("escape", onText Text.Escape.markup),
  ("json", unary fun (v : Value) => .ok (.string v.toJson.write))]

end Stencil.Filter
