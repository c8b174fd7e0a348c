import Stencil.Extension.Filters
import Stencil.Tags.Builtin

/-!
# An environment with extensions

The standard environment together with the filters that show their arguments, whose names begin
with `x_` here.
-/

namespace Stencil.Extension

/-- The name of a filter among the extensions. -/
def filterName (name : String) : String := "x_" ++ name

/-- The standard environment and the extensions. -/
def environment : Environment :=
  filters.foldl (fun env e => env.addFilter (filterName e.1) e.2) Environment.standard

end Stencil.Extension
