import Stencil.Extension.Script
import Stencil.Tags.Builtin
import Stencil.Text.Case

/-!
# Handlers beyond the built-in ones

A few small tags and blocks that show what handlers can be: with markup of their own, with clauses,
with and without a state of their own.
-/

namespace Stencil.Extension

/-- The tag that writes its markup in upper case. -/
def shout : Tag String where
  type := "shout"
  parse markup := .ok (String.ofList (Text.upper markup.toList))
  render text := Action.write text

def noop : Tag Unit where
  type := "noop"
  parse _ := .ok ()
  render _ := pure ()

/-- The tag that writes a text of its own. -/
def greet (text : String) : Tag Unit where
  type := "greet"
  parse _ := .ok ()
  render _ := Action.write text

/-- Renders nodes a number of times, with other nodes before each but the first time. -/
def renderTimes (nodes between : List Node) : Nat → Action Unit
  | 0 => pure ()
  | 1 => Action.renderNodes nodes
  | n + 2 => do
    Action.renderNodes nodes
    Action.renderNodes between
    renderTimes nodes between (n + 1)

/-- Renders nodes a number of times. -/
def renderPlainTimes (nodes : List Node) : Nat → Action Unit
  | 0 => pure ()
  | n + 1 => do
    Action.renderNodes nodes
    renderPlainTimes nodes n

/-- The block that renders its body as often as its value says, with its first section in
between. -/
def «repeat» : Block Expr Unit where
  type := "repeat"
  parse := Expr.parse
  clauses := ["between"]
  parseClause _ _ := .ok ()
  render body := do
    let value ← Action.evalExpr body.markup
    let times := ((value.asInt?.map Int64.toInt).getD 0).toNat
    match body.clauses with
    | [] => renderPlainTimes body.nodes times
    | s :: _ => renderTimes body.nodes s.nodes times

/-- The block that renders its body and accepts any markup.  It names a clause that it does not
accept. -/
def plain : Block Unit Unit where
  type := "plain"
  parse _ := .ok ()
  clauses := ["other"]
  render body := Action.renderNodes body.nodes

/-- A handler without a state of its own, by the name of its type. -/
def stateless? (type : String) : Option Handler :=
  if type = "shout" then some shout.handler
  else if type = "noop" then some noop.handler
  else if type = "repeat" then some «repeat».handler
  else if type = "plain" then some plain.handler
  else Registry.builtin.find? type

end Stencil.Extension
