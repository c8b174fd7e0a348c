import Stencil.Number.Shortest
import Stencil.Value.Basic

/-!
# The text of a value

A value has two texts.  `display` is what an interpolation writes: nothing for none and undefined,
the items of a sequence one after the other.  `inspect` shows the structure: strings are quoted,
sequences stand in brackets and maps in braces.  A map displays as it is inspected.
-/

namespace Stencil

/-- Numbers are displayed without an exponent. -/
def DecimalLayout.display : DecimalLayout := ⟨none, false, .up⟩

/-- Numbers are inspected without an exponent from one ten-thousandth up to, but not including,
ten to the sixteenth. -/
def DecimalLayout.inspect : DecimalLayout := ⟨some (-3, 16), false, .up⟩

namespace Value

def intText (n : Int64) : String := toString n.toInt

/-- The text of a truth value. -/
def boolText (b : Bool) : String := if b then "true" else "false"

mutual

/-- The structure of a value as text. -/
def inspect : Value → String
  | undefined => "undefined"
  | none => "none"
  | bool b => boolText b
  | int n => intText n
  | float x => DecimalLayout.inspect.write x
  | string s => Text.quoted s
  | seq items => "[" ++ inspectItems items ++ "]"
  | map entries => "\x7b" ++ inspectEntries entries ++ "\x7d"

/-- The items of a sequence, separated by commas. -/
def inspectItems : List Value → String
  | [] => ""
  | [v] => v.inspect
  | v :: rest => v.inspect ++ ", " ++ inspectItems rest

/-- The entries of a map, separated by commas. -/
def inspectEntries : List (String × Value) → String
  | [] => ""
  | [(key, v)] => Text.quoted key ++ ": " ++ v.inspect
  | (key, v) :: rest => Text.quoted key ++ ": " ++ v.inspect ++ ", " ++ inspectEntries rest

end

mutual

/-- What an interpolation of the value writes. -/
def display : Value → String
  | undefined | none => ""
  | bool b => boolText b
  | int n => intText n
  | float x => DecimalLayout.display.write x
  | string s => s
  | seq items => displayItems items
  | map entries => (map entries).inspect

/-- The items of a sequence, one after the other. -/
def displayItems : List Value → String
  | [] => ""
  | v :: rest => v.display ++ displayItems rest

end

/-- A table as it is shown inside of a record. -/
def inspectTable (t : Table Value) : String := (map t).inspect

@[simp] theorem display_string (s : String) : (string s).display = s := by simp [display]

@[simp] theorem display_none : none.display = "" := by simp [display]

@[simp] theorem display_undefined : undefined.display = "" := by simp [display]

end Value

end Stencil
