import Stencil.Render.Environment
import Stencil.Tags.Inheritance
import Stencil.Tags.Iteration

/-!
# The handlers that every engine starts with
-/

namespace Stencil

namespace Registry

def builtin : Registry := Table.ofList [
  ("assign", Tags.assign.handler),
  ("capture", Tags.capture.handler),
  ("increment", Tags.increment.handler),
  ("decrement", Tags.decrement.handler),
  ("if", Tags.«if».handler),
  ("unless", Tags.«unless».handler),
  ("case", Tags.case.handler),
  ("comment", Tags.comment.handler),
  ("for", Tags.«for».handler),
  ("break", Tags.«break».handler),
  ("continue", Tags.«continue».handler),
  ("extends", Tags.extendsTag.handler),
  ("block", Tags.namedBlock.handler)]

end Registry

/-- An environment with the handlers and filters that every engine starts with. -/
def Environment.standard : Environment :=
  { Environment.empty with registry := Registry.builtin, filters := Filter.builtin }

end Stencil
