import Stencil.Error
import Stencil.Number.Binary64
import Stencil.Table

/-!
# Values

The dynamic values that templates compute with.  A map is a table, so its entries stand in the
order of their keys.  This module holds the type, the questions about a single value (its kind, its
truth, its length) and the ways into a value: attributes, items and iteration.
-/

namespace Stencil

/-- A value.  Undefined is what a name stands for that nobody has bound; none is the value that
says that there is nothing. -/
inductive Value where
  | undefined
  | none
  | bool (b : Bool)
  | int (n : Int64)
  | float (x : Binary64)
  | string (s : String)
  | seq (items : List Value)
  /-- The entries stand in ascending order of their keys.  The type does not say so, as entries hold
  values again, but whatever makes a map keeps to it. -/
  | map (entries : List (String × Value))

namespace Value

instance : Inhabited Value := ⟨.undefined⟩

/-- An integer as a value; one beyond 64 bits becomes the nearest floating point number. -/
def ofInt (n : Int) : Value :=
  if FitsInt64 n then .int (Int64.ofInt n) else .float (Binary64.ofInt n)

def ofNat (n : Nat) : Value := ofInt n

/-- A text that may be missing as a value. -/
def ofText? : Option String → Value
  | some s => .string s
  | Option.none => .none

/-- A map with these entries; of two entries with one key the later one holds. -/
def ofEntries (entries : List (String × Value)) : Value := .map (Table.ofList entries)

def kind : Value → Kind
  | undefined => .undefined
  | none => .none
  | bool _ => .bool
  | int _ | float _ => .number
  | string _ => .string
  | seq _ => .seq
  | map _ => .map

/-- Whether there is no value: none and undefined. -/
def isNil : Value → Bool
  | undefined | none => true
  | _ => false

/-- Whether the value counts as true: all do but none, undefined and false. -/
def isTrue : Value → Bool
  | undefined | none | bool false => false
  | _ => true

def isUndefined : Value → Bool
  | undefined => true
  | _ => false

def isNone : Value → Bool
  | none => true
  | _ => false

def asString? : Value → Option String
  | string s => some s
  | _ => Option.none

def asInt? : Value → Option Int64
  | int n => some n
  | _ => Option.none

def asSeq? : Value → Option (List Value)
  | seq items => some items
  | _ => Option.none

def asMap? : Value → Option (Table Value)
  | map entries => some entries
  | _ => Option.none

/-- The number of characters, items or entries. -/
def length? : Value → Option Nat
  | string s => some s.length
  | seq items => some items.length
  | map entries => some entries.length
  | _ => Option.none

/-- Whether the value has a length, and it is zero. -/
def isEmpty (v : Value) : Bool := v.length? == some 0

/-! ## The ways into a value -/

/-- The attribute of a value.  A map answers with the entry of that key; sequences have `first`,
`last` and `size`, and strings and maps have `size`.  Any other attribute is undefined. -/
def attr (v : Value) (name : String) : Value :=
  match v with
  | map entries =>
    match Table.find? entries name with
    | some value => value
    | Option.none => if name = "size" then ofNat entries.length else undefined
  | seq items =>
    if name = "first" then items.head?.getD undefined
    else if name = "last" then items.getLast?.getD undefined
    else if name = "size" then ofNat items.length
    else undefined
  | string s => if name = "size" then ofNat s.length else undefined
  | _ => undefined

/-- The place in a sequence of a given length that an index means; a negative one counts from the
end. -/
def place? (length : Nat) (index : Int64) : Option Nat :=
  let i := index.toInt
  if 0 ≤ i then some i.toNat
  else if i.natAbs ≤ length then some (length - i.natAbs)
  else Option.none

/-- The item of a value.  Sequences take integers; a string names an attribute of any value. -/
def item (v key : Value) : Value :=
  match v, key with
  | seq items, int index => ((place? items.length index).bind (items[·]?)).getD undefined
  | v, string name => v.attr name
  | _, _ => undefined

/-- An entry of a map as the pair that iteration yields. -/
def ofEntry (entry : String × Value) : Value := seq [string entry.1, entry.2]

/-- The values that a loop over the value runs through.  A map yields pairs of key and value, a
string yields itself, and there is nothing in none and undefined. -/
def iterate (v : Value) : Except Error (List Value) :=
  match v with
  | undefined | none => .ok []
  | seq items => .ok items
  | map entries => .ok (entries.map ofEntry)
  | string s => .ok [string s]
  | v => .error (Cause.notIterable v.kind)

/-! ## Small facts -/

@[simp] theorem isTrue_bool (b : Bool) : (bool b).isTrue = b := by cases b <;> rfl

theorem isNil_iff (v : Value) : v.isNil = true ↔ v = undefined ∨ v = none := by
  cases v <;> simp [isNil]

theorem isTrue_of_isNil {v : Value} (h : v.isNil = true) : v.isTrue = false := by
  rcases (isNil_iff v).1 h with rfl | rfl <;> rfl

@[simp] theorem attr_undefined (name : String) : undefined.attr name = undefined := rfl

@[simp] theorem attr_none (name : String) : none.attr name = undefined := rfl

theorem ofInt_of_fits {n : Int} (h : FitsInt64 n) : ofInt n = .int (Int64.ofInt n) := if_pos h

@[simp] theorem ofInt_toInt (n : Int64) : ofInt n.toInt = .int n := by
  rw [ofInt_of_fits (fitsInt64_toInt n), Int64.ofInt_toInt]

end Value

end Stencil
