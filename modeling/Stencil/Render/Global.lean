import Stencil.Render.Template

/-!
# The global environment

A program may set one environment for all of it, once.  Until then there is the standard one, which
is settled as soon as it is asked for.
-/

namespace Stencil

/-- Where the global environment is kept. -/
abbrev GlobalSlot := Option Environment

namespace GlobalSlot

/-- Sets the global environment.  A second time is refused. -/
def set (slot : GlobalSlot) (env : Environment) : Except Error GlobalSlot :=
  match slot with
  | some _ => .error Cause.globalEnvironmentSet
  | none => .ok (some env)

/-- The global environment and the slot afterwards. -/
def get (slot : GlobalSlot) (fallback : Environment) : Environment × GlobalSlot :=
  match slot with
  | some env => (env, slot)
  | none => (fallback, some fallback)

theorem set_get (slot : GlobalSlot) (fallback env : Environment) :
    (slot.get fallback).2.set env = .error Cause.globalEnvironmentSet := by
  cases slot <;> rfl

end GlobalSlot

end Stencil
