import Stencil.Handler.Basic
import Stencil.Markup.Reader

/-!
# Scripted handlers

A script is a list of steps, each of which is one of the operations that handlers can perform.  A
tag or a block with a script carries its steps out in order when it is rendered, and notes in the
journal of the render what each step answered.  A step that fails ends the script and notes
nothing.
-/

namespace Stencil.Extension

/-- A step of a script. -/
inductive Step where
  | write (s : String)
  /-- Writes a text between angle brackets, in three writes. -/
  | writeBracketed (s : String)
  | beginCapture
  | endCapture
  | isCapturing
  | setGlobal (name : String) (value : Value)
  | setLocal (name : String) (value : Value)
  | pushScope
  | popScope
  | lookup (name : String)
  | globals
  | assigns
  | register (key : String)
  | setRegister (key : String) (value : Value)
  | registers
  | signal
  | setSignal (signal : Signal)
  | takeSignal
  | errorCount
  | template
  /-- Asks how many nodes stand for a named block. -/
  | blockOverride (name : String)
  /-- Lets the nodes of the current template stand for a named block. -/
  | addOverride (name : String)
  /-- Renders the nodes that stand for a named block. -/
  | renderOverride (name : String)
  | eval (markup : String)
  | parse (name source : String)
  /-- Describes the block that the script stands in. -/
  | describeBody
  | renderBody
  /-- Renders the section with the given index. -/
  | renderClause (index : Nat)
  | fail (kind : ErrorKind) (detail : Option String)

/-- The block that a script stands in; a tag has none. -/
abbrev ScriptBody := Option (Body String String)

/-- A count as a value of the journal. -/
def countValue (n : Nat) : Value := .ofNat n

/-- What the journal says of a section. -/
def describeSection (s : Section String) : Value :=
  .seq [.string s.name, .string s.markup, countValue s.nodes.length]

/-- What the journal says of a block. -/
def bodyRecord : ScriptBody → Value
  | none => .none
  | some b => .ofEntries [
      ("name", .string b.name),
      ("markup", .string b.markup),
      ("nodes", countValue b.nodes.length),
      ("clauses", .seq (b.clauses.map describeSection))]

/-- Performs an operation that answers nothing. -/
def silent (a : Action Unit) : Action Value := do
  a
  pure .none

/-- What a step does, and the value that the journal gets. -/
def Step.action (body : ScriptBody) : Step → Action Value
  | .write s => silent (Action.write s)
  | .writeBracketed s => silent do
    Action.write "<"
    Action.write s
    Action.write ">"
  | .beginCapture => silent (Action.ask .beginCapture)
  | .endCapture => do
    let text : String ← Action.ask .endCapture
    pure (.string text)
  | .isCapturing => do
    let capturing : Bool ← Action.ask .isCapturing
    pure (.bool capturing)
  | .setGlobal name value => silent (Action.setGlobal name value)
  | .setLocal name value => silent (Action.setLocal name value)
  | .pushScope => silent (Action.ask .pushScope)
  | .popScope => silent (Action.ask .popScope)
  | .lookup name => do
    let value : Value ← Action.ask (.lookup name)
    pure value
  | .globals => do
    let globals : Table Value ← Action.ask .globals
    pure (.map globals)
  | .assigns => do
    let assigns : Value ← Action.ask .assigns
    pure assigns
  | .register key => do
    let value : Option Value ← Action.ask (.register key)
    pure (value.getD (.string "(none)"))
  | .setRegister key value => silent (Action.ask (.setRegister key value))
  | .registers => do
    let registers : Table Value ← Action.ask .registers
    pure (.map registers)
  | .signal => do
    let signal : Signal ← Action.ask .signal
    pure (.string signal.name)
  | .setSignal new => silent (Action.setSignal new)
  | .takeSignal => do
    let signal : Signal ← Action.ask .takeSignal
    pure (.string signal.name)
  | .errorCount => do
    let errors : List Error ← Action.ask .errors
    pure (countValue errors.length)
  | .template => do
    let template : Template ← Action.ask .template
    pure (.string template.name)
  | .blockOverride name => do
    let nodes : Option (List Node) ← Action.ask (.blockOverride name)
    pure (match nodes with
      | some nodes => countValue nodes.length
      | none => .none)
  | .addOverride name => silent do
    let template : Template ← Action.ask .template
    Action.ask (.addOverride name template.nodes)
  | .renderOverride name => silent do
    let nodes : Option (List Node) ← Action.ask (.blockOverride name)
    match nodes with
    | some nodes => Action.renderNodes nodes
    | none => pure ()
  | .eval markup => do
    let e ← Action.ofExcept (Expr.parse markup)
    Action.evalExpr e
  | .parse name source => silent do
    let outcome : Except Error Template ← Action.ask (.parseTemplate name source)
    let _ ← Action.ofExcept outcome
  | .describeBody => pure (bodyRecord body)
  | .renderBody => silent do
    match body with
    | some b => Action.renderNodes b.nodes
    | none => pure ()
  | .renderClause index => silent do
    match body.bind fun b => b.clauses[index]? with
    | some s => Action.renderNodes s.nodes
    | none => pure ()
  | .fail kind detail => .fail (Cause.other kind detail)

def runScript (body : ScriptBody) : List Step → Action Unit
  | [] => pure ()
  | step :: rest => do
    let answer ← step.action body
    Action.ask (.note answer)
    runScript body rest

/-- A tag with a script.  Its markup is kept as it stands. -/
def scriptTag (steps : List Step) : Tag String where
  type := "script_tag"
  parse := .ok
  render _ := runScript none steps

/-- A block with a script, with two clauses of which the second is final.  The markup of a clause is
read as its name with the markup in parentheses. -/
def scriptBlock (steps : List Step) : Block String String where
  type := "script_block"
  parse := .ok
  clauses := ["mid", "fin"]
  finalClauses := ["fin"]
  parseClause name markup := .ok (name ++ "(" ++ markup ++ ")")
  render body := runScript (some body) steps

end Stencil.Extension
