import Stencil.Handler.Basic
import Stencil.Markup.Reader
import Stencil.Tags.Choice

/-!
# Loops

`for` renders its body once for each item of a value, and `break` and `continue` act on the
innermost loop around them.
-/

namespace Stencil.Tags

/-! ## Reading -/

/-- One option of a loop and how it changes the loop. -/
def loopOption? : Read (Option (Loop → Loop)) := do
  if ← Reader.eatKeyword "reversed" then
    return some fun l => { l with reversed := true }
  else if ← Reader.eatKeyword "limit" then
    Reader.expect ":"
    let e ← Reader.expr
    return some fun l => { l with limit := some e }
  else if ← Reader.eatKeyword "offset" then
    Reader.expect ":"
    let e ← Reader.expr
    return some fun l => { l with offset := some e }
  else return none

/-- A name, the word `in`, an expression and options in any order.  Of two options of one name the
later one holds. -/
def readLoop : Read Loop := do
  let name ← Reader.name
  if ← Reader.eatKeyword "in" then
    let items ← Reader.expr
    let options ← Reader.repeated loopOption?
    return options.foldl (fun l change => change l) ⟨name, items, none, none, false⟩
  else Reader.refuse (.expectedIn name)

/-- Accepts the clause `else` without markup. -/
def readLoopElse (name markup : String) : Except Error Unit :=
  if name = "else" ∧ markup.toList.all Text.isBlank then .ok ()
  else .error (Cause.unexpectedClause name)

/-! ## Rendering -/

/-- The value of a bound of the loop: nil is no bound, and a negative one is zero. -/
def evalCount (what : String) : Option Expr → Action (Option Nat)
  | none => pure none
  | some e => do
    let value ← Action.evalExpr e
    if value.isNil then pure none
    else match value.asInt? with
      | some n => pure (some n.toInt.toNat)
      | none => .fail (Cause.countNotNumber what value.kind)

/-- The items that are left after offset and limit, in the order of the loop. -/
def selectItems (items : List Value) (offset limit : Option Nat) (reversed : Bool) : List Value :=
  let items := items.drop (offset.getD 0)
  let items := match limit with
    | some n => items.take n
    | none => items
  if reversed then items.reverse else items

/-- What a loop tells its body about where it is. -/
def forloop (index length : Nat) : Value :=
  .ofEntries [
    ("index", .ofNat (index + 1)),
    ("index0", .ofNat index),
    ("rindex", .ofNat (length - index)),
    ("rindex0", .ofNat (length - index - 1)),
    ("first", .bool (index == 0)),
    ("last", .bool (index + 1 == length)),
    ("length", .ofNat length)]

/-- Renders the nodes for one item after the other, from the given index on.  The answer is the
refusal of the nodes, if they were refused; a refusal ends the loop, as a break does and as an
extension of the template does. -/
def renderItems (name : String) (nodes : List Node) (length : Nat) :
    Nat → List Value → Action (Except Error Unit)
  | _, [] => pure (.ok ())
  | index, item :: rest => do
    Action.setLocal name item
    Action.setLocal "forloop" (forloop index length)
    let outcome : Except Error Unit ← Action.ask (.renderNodes nodes)
    match outcome with
    | .error e => pure (.error e)
    | .ok () =>
      let signal : Signal ← Action.ask .signal
      match signal with
      | .normal => renderItems name nodes length (index + 1) rest
      | .continue =>
        Action.setSignal .normal
        renderItems name nodes length (index + 1) rest
      | .break =>
        Action.setSignal .normal
        pure (.ok ())
      | .extended => pure (.ok ())

/-- What a loop does with its items: without any it renders the section behind `else`, and
otherwise it runs in a scope of its own. -/
def renderLoop (name : String) (nodes : List Node) (sections : List (Section Unit))
    (items : List Value) : Action Unit :=
  if items.isEmpty then
    match sections with
    | [] => pure ()
    | s :: _ => Action.renderNodes s.nodes
  else do
    Action.ask .pushScope
    let outcome ← renderItems name nodes items.length 0 items
    Action.ask .popScope
    Action.ofExcept outcome

/-- The block that renders its body for each item. -/
def «for» : Block Loop Unit where
  type := "for"
  parse := Reader.readAll readLoop
  clauses := ["else"]
  finalClauses := ["else"]
  parseClause := readLoopElse
  render body := do
    let loop := body.markup
    let value ← Action.evalExpr loop.items
    let items ← Action.ofExcept value.iterate
    let offset ← evalCount "offset" loop.offset
    let limit ← evalCount "limit" loop.limit
    renderLoop loop.name body.nodes body.clauses (selectItems items offset limit loop.reversed)

/-- The tag that leaves the innermost loop. -/
def «break» : Tag Unit where
  type := "break"
  parse := readNothing "break"
  render _ := Action.setSignal .break

/-- The tag that goes on with the next item of the innermost loop. -/
def «continue» : Tag Unit where
  type := "continue"
  parse := readNothing "continue"
  render _ := Action.setSignal .continue

end Stencil.Tags
