import Stencil.Value.Arithmetic

/-!
# Arguments of filters

A filter is written over the types it needs, and its arguments are converted to them.  Each type
says what it accepts; an optional argument may be missing or nil.  The value before the pipe is the
first argument.  Arguments are converted in order, and one too many is found last.
-/

namespace Stencil

/-- A filter takes the value before the pipe and the arguments behind its name, in one list. -/
abbrev Filter := List Value → Except Error Value

/-- A type that arguments are converted to; `none` stands for a missing argument. -/
class Argument (α : Type) where
  convert : Option Value → Except Error α

namespace Argument

/-- The conversion of an argument that has to be there. -/
def required {α : Type} (f : Value → Except Error α) : Option Value → Except Error α
  | some v => f v
  | none => .error Cause.missingArgument

instance : Argument Value := ⟨required .ok⟩

/-- Any value is a text. -/
instance : Argument String := ⟨required fun v => .ok v.display⟩

/-- Only truth values are truth values. -/
def toBool : Value → Except Error Bool
  | .bool b => .ok b
  | v => .error (Cause.unexpectedArgument "boolean" v.kind)

instance : Argument Bool := ⟨required toBool⟩

/-- The integer of a value that stands for one; a floating point number without a fraction is cut
to 64 bits. -/
def toInt64 (v : Value) : Except Error Int64 :=
  match v.toNumber with
  | .ok (.int n) => .ok n
  | .ok (.float x) =>
    if x.isInteger then .ok x.toInt64 else .error (Cause.unexpectedArgument "integer" v.kind)
  | .error _ => .error (Cause.unexpectedArgument "integer" v.kind)

instance : Argument Int64 := ⟨required toInt64⟩

/-- The integer of a value that stands for one that is not negative. -/
def toNat (v : Value) : Except Error Nat := do
  let n ← toInt64 v
  if n.toInt < 0 then .error (Cause.negativeArgument n) else .ok n.toInt.toNat

instance : Argument Nat := ⟨required toNat⟩

/-- The floating point number of a value that stands for a number. -/
def toFloat (v : Value) : Except Error Binary64 :=
  match v.toNumber with
  | .ok n => .ok n.toFloat
  | .error _ => .error (Cause.unexpectedArgument "number" v.kind)

instance : Argument Binary64 := ⟨required toFloat⟩

def toItems : Value → Except Error (List Value)
  | .seq items => .ok items
  | v => .error (Cause.unexpectedArgument "sequence" v.kind)

instance : Argument (List Value) := ⟨required toItems⟩

/-- An optional argument: missing and nil are one. -/
def optional {α : Type} (f : Option Value → Except Error α) :
    Option Value → Except Error (Option α)
  | none => .ok none
  | some v => if v.isNil then .ok none else (f (some v)).map some

instance {α : Type} [Argument α] : Argument (Option α) := ⟨optional convert⟩

/-- Fails if there are more arguments than a filter takes. -/
def atMost (most : Nat) (args : List Value) : Except Error Unit :=
  if most < args.length then .error (Cause.tooManyArguments most args.length) else .ok ()

end Argument

namespace Filter

open Argument

variable {α β γ δ : Type} [Argument α] [Argument β] [Argument γ] [Argument δ]

/-- A filter without arguments of its own. -/
def unary (f : α → Except Error Value) : Filter := fun args => do
  let a ← convert args[0]?
  atMost 1 args
  f a

def binary (f : α → β → Except Error Value) : Filter := fun args => do
  let a ← convert args[0]?
  let b ← convert args[1]?
  atMost 2 args
  f a b

def ternary (f : α → β → γ → Except Error Value) : Filter := fun args => do
  let a ← convert args[0]?
  let b ← convert args[1]?
  let c ← convert args[2]?
  atMost 3 args
  f a b c

def quaternary (f : α → β → γ → δ → Except Error Value) : Filter := fun args => do
  let a ← convert args[0]?
  let b ← convert args[1]?
  let c ← convert args[2]?
  let d ← convert args[3]?
  atMost 4 args
  f a b c d

end Filter

end Stencil
