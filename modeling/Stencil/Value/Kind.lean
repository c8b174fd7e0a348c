/-!
# Kinds of values

The seven kinds that messages and filters name.  Integers and floating point numbers are of one
kind.
-/

namespace Stencil

/-- The kind of a value. -/
inductive Kind where
  | undefined
  | none
  | bool
  | number
  | string
  | seq
  | map
  deriving DecidableEq

def Kind.word : Kind → String
  | .undefined => "undefined"
  | .none => "none"
  | .bool => "bool"
  | .number => "number"
  | .string => "string"
  | .seq => "sequence"
  | .map => "map"

end Stencil
