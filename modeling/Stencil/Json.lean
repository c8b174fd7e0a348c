import Stencil.Number.Shortest
import Stencil.Value.Basic

/-!
# JSON documents

The data that comes into an engine from outside has the shape of a JSON document.  A value turns
into a document and a document into a value: what JSON has no word for (undefined, NaN and the
infinities) becomes null on the way, and an integer beyond 64 bits becomes a floating point number.
A document is written compactly.
-/

namespace Stencil

/-- A JSON document.  The members of an object stand in the order of their names. -/
inductive Json where
  | null
  | bool (b : Bool)
  | int (n : Int)
  | float (x : Binary64)
  | string (s : String)
  | array (items : List Json)
  | object (members : List (String × Json))

/-- Numbers are written without an exponent from one hundred-thousandth up to, but not including,
ten to the sixteenth, and a positive exponent has a plus sign. -/
def DecimalLayout.json : DecimalLayout := ⟨some (-4, 16), true, .even⟩

instance : Inhabited Json := ⟨.null⟩

namespace Json

/-- A character of a string literal. -/
def escapeChar (c : Char) : List Char :=
  if c = '"' then ['\\', '"']
  else if c = '\\' then ['\\', '\\']
  else if c = '\x08' then ['\\', 'b']
  else if c = '\t' then ['\\', 't']
  else if c = '\n' then ['\\', 'n']
  else if c = '\x0c' then ['\\', 'f']
  else if c = '\r' then ['\\', 'r']
  else if c.toNat < 0x20 then
    ['\\', 'u', '0', '0'] ++ [Nat.digitChar (c.toNat / 16), Nat.digitChar (c.toNat % 16)]
  else [c]

def literal (s : String) : String :=
  String.ofList ('"' :: (s.toList.flatMap escapeChar ++ ['"']))

/-- A number; NaN and the infinities are null. -/
def numberText (x : Binary64) : String :=
  if x.isFinite then DecimalLayout.json.write x else "null"

mutual

def write : Json → String
  | null => "null"
  | bool b => if b then "true" else "false"
  | int n => toString n
  | float x => numberText x
  | string s => literal s
  | array items => "[" ++ writeItems items ++ "]"
  | object members => "\x7b" ++ writeMembers members ++ "\x7d"

/-- The items of an array, separated by commas. -/
def writeItems : List Json → String
  | [] => ""
  | [j] => j.write
  | j :: rest => j.write ++ "," ++ writeItems rest

/-- The members of an object, separated by commas. -/
def writeMembers : List (String × Json) → String
  | [] => ""
  | [(name, j)] => literal name ++ ":" ++ j.write
  | (name, j) :: rest => literal name ++ ":" ++ j.write ++ "," ++ writeMembers rest

end

/-- The document that stands for a floating point number. -/
def ofFloat (x : Binary64) : Json := if x.isFinite then float x else null

end Json

namespace Value

mutual

/-- The document that a value turns into. -/
def toJson : Value → Json
  | undefined | none => .null
  | bool b => .bool b
  | int n => .int n.toInt
  | float x => Json.ofFloat x
  | string s => .string s
  | seq items => .array (itemsToJson items)
  | map entries => .object (entriesToJson entries)

/-- The items of a sequence as documents. -/
def itemsToJson : List Value → List Json
  | [] => []
  | v :: rest => v.toJson :: itemsToJson rest

/-- The entries of a map as members. -/
def entriesToJson : List (String × Value) → List (String × Json)
  | [] => []
  | (key, v) :: rest => (key, v.toJson) :: entriesToJson rest

end

mutual

/-- The value that a document turns into. -/
def ofJson : Json → Value
  | .null => none
  | .bool b => bool b
  | .int n => ofInt n
  | .float x => float x
  | .string s => string s
  | .array items => seq (itemsOfJson items)
  | .object members => map (entriesOfJson members)

/-- The items of an array as values. -/
def itemsOfJson : List Json → List Value
  | [] => []
  | j :: rest => ofJson j :: itemsOfJson rest

/-- The members of an object as entries. -/
def entriesOfJson : List (String × Json) → List (String × Value)
  | [] => []
  | (name, j) :: rest => (name, ofJson j) :: entriesOfJson rest

end

/-- The value as it is after it went into an engine. -/
def imported (v : Value) : Value := ofJson v.toJson

/-- The value of data from outside; `none` stands for data that cannot be a document. -/
def ofData : Option Json → Except Error Value
  | some j => .ok (ofJson j)
  | Option.none => .error Cause.unconvertible

/-- The value of data from outside, where what cannot be a document is undefined. -/
def ofDataOrUndefined (data : Option Json) : Value :=
  match ofData data with
  | .ok v => v
  | .error _ => undefined

theorem ofData_toJson (v : Value) : ofData (some v.toJson) = .ok v.imported := rfl

end Value

end Stencil
