import Stencil.Handler.Basic
import Stencil.Tags.Binding

/-!
# Inheritance

A template that extends another is rendered in the place of its parent: the parent's nodes are
rendered, and each named block of the parent stands for the block of that name in the template
furthest down that has one.
-/

namespace Stencil.Tags

mutual

/-- The named blocks in a list of nodes with their bodies, at any depth, an outer one before those
inside of it. -/
def namedBlocks : List Node → List (String × List Node)
  | [] => []
  | n :: ns => namedBlocksOf n ++ namedBlocks ns

/-- The named blocks in a node. -/
def namedBlocksOf : Node → List (String × List Node)
  | .block name markup _ _ body clauses =>
    let own := if name = "block" then (Lexeme.name? markup.toList).map (·.1, body) else none
    own.toList ++ namedBlocks body ++ namedBlocksIn clauses
  | _ => []

/-- The named blocks in the sections of a block. -/
def namedBlocksIn : List (Clause Node) → List (String × List Node)
  | [] => []
  | ⟨_, _, _, body⟩ :: cs => namedBlocks body ++ namedBlocksIn cs

end

/-- Lets the named blocks stand for those of the same name further up. -/
def addOverrides : List (String × List Node) → Action Unit
  | [] => pure ()
  | (name, nodes) :: rest => do
    Action.ask (.addOverride name nodes)
    addOverrides rest

/-- Renders the nodes of the parent in the place of those of the current template.  Whether or not
they are refused, the render is then done with the current template. -/
def renderParent (parent : Template) : Action Unit := do
  let child : Template ← Action.ask .template
  addOverrides (namedBlocks child.nodes)
  let child : Template ← Action.ask (.enterTemplate parent)
  let outcome : Except Error Unit ← Action.ask (.renderNodes parent.nodes)
  let _ ← Action.ask (.enterTemplate child)
  Action.setSignal .extended
  Action.ofExcept outcome

/-- The name of a template, which has to be a string. -/
def templateName : Value → Except Error String
  | .string name => .ok name
  | v => .error (Cause.templateNameNotString v.kind)

/-- The tag that extends another template. -/
def extendsTag : Tag Expr where
  type := "extends"
  parse := Expr.parse
  render e := do
    let value ← Action.evalExpr e
    let name ← Action.ofExcept (templateName value)
    let parent ← Action.findTemplate name
    renderParent parent

/-- The block that a template further down may stand in for. -/
def namedBlock : Block String Unit where
  type := "block"
  parse := readName
  render body := do
    let override : Option (List Node) ← Action.ask (.blockOverride body.markup)
    Action.renderNodes (override.getD body.nodes)

end Stencil.Tags
