import Stencil.Handler.Basic

/-!
# Registries

A registry binds names to handlers.  A name is bound once: registering the same handler again
changes nothing, and another handler under the name is refused.
-/

namespace Stencil

/-- The handlers by their names. -/
abbrev Registry := Table Handler

namespace Registry

/-- Binds a name to a handler. -/
def register (r : Registry) (name : String) (h : Handler) : Except Error Registry :=
  if !Lexeme.isName name then .error (Cause.invalidTagName name)
  else match r.find? name with
    | some old =>
      if old.same h then .ok r else .error (Cause.duplicateHandler name old.kind)
    | none => .ok (r.set name h)

/-- Whether some handler knows a clause of this name. -/
def knowsClause (r : Registry) (name : String) : Bool :=
  r.any fun e => e.2.clauses.contains name

end Registry

end Stencil
