import Stencil.Handler.Basic
import Stencil.Markup.Reader

/-!
# Blocks that choose

`if` and `unless` render at most one of their sections, `case` renders the sections that its value
selects, and `comment` renders none.
-/

namespace Stencil.Tags

def readNothing (name markup : String) : Except Error Unit :=
  if markup.toList.all Text.isBlank then .ok () else .error (Cause.takesNoArguments name)

/-- Accepts the clause `else`. -/
def readElse (name markup : String) : Except Error Unit :=
  if name = "else" then readNothing name markup else .error (Cause.unexpectedClause name)

/-- Renders the nodes of the first section whose condition holds; no condition always holds. -/
def renderFirst : List (Option ConditionChain × List Node) → Action Unit
  | [] => pure ()
  | (none, nodes) :: _ => Action.renderNodes nodes
  | (some condition, nodes) :: rest => do
    if ← Action.evalChain condition then Action.renderNodes nodes else renderFirst rest

/-- The block that renders its first section whose condition holds. -/
def «if» : Block ConditionChain (Option ConditionChain) where
  type := "if"
  parse := ConditionChain.parse
  clauses := ["elsif", "else"]
  finalClauses := ["else"]
  parseClause name markup :=
    if name = "elsif" then (ConditionChain.parse markup).map some
    else (readElse name markup).map fun _ => none
  render body :=
    renderFirst ((some body.markup, body.nodes) :: body.clauses.map fun s => (s.markup, s.nodes))

/-- The block that renders its body unless its condition holds. -/
def «unless» : Block ConditionChain Unit where
  type := "unless"
  parse := ConditionChain.parse
  clauses := ["else"]
  finalClauses := ["else"]
  parseClause := readElse
  render body := do
    if ← Action.evalChain body.markup then
      match body.clauses with
      | [] => pure ()
      | s :: _ => Action.renderNodes s.nodes
    else Action.renderNodes body.nodes

/-! ## Case -/

/-- A comma, or the word `or`, and the expression behind it. -/
def nextCandidate? : Read (Option Expr) := do
  if ← Reader.eat "," then return some (← Reader.expr)
  else if ← Reader.eatKeyword "or" then return some (← Reader.expr)
  else return none

/-- The candidates of a `when` clause. -/
def candidates : Read (List Expr) := do
  let first ← Reader.expr
  return first :: (← Reader.repeated nextCandidate?)

/-- Whether one of the candidates equals the value.  Candidates behind that one are not
evaluated. -/
def anyEquals (value : Value) : List Expr → Action Bool
  | [] => pure false
  | e :: rest => do
    let candidate ← Action.evalExpr e
    if candidate.equals value then pure true else anyEquals value rest

/-- Renders the sections in order.  A `when` section is rendered if one of its candidates equals
the value, an `else` section if nothing has been rendered yet.  A signal ends the block. -/
def renderSections (value : Value) (matched : Bool) :
    List (Section (Option (List Expr))) → Action Unit
  | [] => pure ()
  | s :: rest => do
    let chosen ← match s.markup with
      | some es => anyEquals value es
      | none => pure !matched
    if chosen then
      Action.renderNodes s.nodes
      let signal : Signal ← Action.ask .signal
      if signal = .normal then renderSections value true rest else pure ()
    else renderSections value matched rest

/-- The block that renders the sections that its value selects. -/
def case : Block Expr (Option (List Expr)) where
  type := "case"
  parse := Expr.parse
  clauses := ["when", "else"]
  parseClause name markup :=
    if name = "when" then (Reader.readAll candidates markup).map some
    else (readElse name markup).map fun _ => none
  render body := do
    let value ← Action.evalExpr body.markup
    renderSections value false body.clauses

def comment : Block Unit Unit where
  type := "comment"
  parse _ := .ok ()
  render _ := pure ()

end Stencil.Tags
