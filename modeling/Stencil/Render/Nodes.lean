import Stencil.Render.Context
import Stencil.Text.Escape

/-!
# Rendering nodes

Nodes are rendered one after the other as long as the signal is normal.  A node that fails is
recovered from: in lax mode its message is written in its place, in strict mode its error is
recorded.  Each list of nodes is one level further down than the node it belongs to, and a list
beyond the last level is refused; so every render ends, whatever the templates say.
-/

namespace Stencil

/-- How deep lists of nodes may nest while rendering. -/
def maxLevels : Nat := 100

/-- A way to render a list of nodes: whether it was refused, and the state afterwards. -/
abbrev Renderer := List Node → State → Except Error Unit × State

namespace Op

/-- Performs an operation; nodes are rendered with `sub`. -/
def exec (settings : Settings) (sub : Renderer) : (op : Op) → State → op.Answer × State
  | .write text, s => ((), s.write text)
  | .beginCapture, s => ((), { s with output := s.output.beginCapture })
  | .endCapture, s =>
    let r := s.output.endCapture
    (r.1, { s with output := r.2 })
  | .isCapturing, s => (s.output.isCapturing, s)
  | .lookup name, s => (s.context.lookup settings.environment.presets name, s)
  | .setGlobal name value, s => ((), s.update (·.setGlobal name value))
  | .setLocal name value, s => ((), s.update (·.setLocal name value))
  | .pushScope, s => ((), s.update Context.pushScope)
  | .popScope, s => ((), s.update Context.popScope)
  | .globals, s => (s.context.globals, s)
  | .assigns, s => (s.context.assigns, s)
  | .register key, s => (Table.find? s.context.registers key, s)
  | .setRegister key value, s => ((), s.update (·.setRegister key value))
  | .registers, s => (s.context.registers, s)
  | .signal, s => (s.context.signal, s)
  | .setSignal new, s => ((), s.update (·.setSignal new))
  | .takeSignal, s => (s.context.signal, s.update (·.setSignal .normal))
  | .errors, s => (s.context.errors, s)
  | .errorMode, s => (settings.environment.errorMode, s)
  | .presets, s => (settings.environment.presets, s)
  | .maxDepth, s => (settings.environment.maxDepth, s)
  | .template, s => (s.context.template, s)
  | .findTemplate name, s => (settings.environment.findTemplate name, s)
  | .enterTemplate new, s => (s.context.template, s.update fun c => { c with template := new })
  | .blockOverride name, s => (Table.find? s.context.overrides name, s)
  | .addOverride name nodes, s => ((), s.update (·.addOverride name nodes))
  | .evalExpr e, s => ((s.context.scope settings).eval e, s)
  | .evalChain c, s => ((s.context.scope settings).holdsChain c, s)
  | .evalVariable v, s => ((s.context.scope settings).evalVariable v, s)
  | .renderNodes nodes, s => sub nodes s
  | .parseTemplate name source, s => (settings.environment.parseNamed name source, s)
  | .note value, s => ((), s.update (·.note value))

end Op

def Action.run {α : Type} (settings : Settings) (sub : Renderer) :
    Action α → State → Except Error α × State
  | .done a, s => (.ok a, s)
  | .fail e, s => (.error e, s)
  | .perform op next, s =>
    let r := op.exec settings sub s
    (next r.1).run settings sub r.2

namespace State

/-- A text as a variable writes it into a script literal. -/
def escaped (text : String) : String := String.ofList (Text.Escape.script text.toList)

/-- The error with the template and the line of the node that failed, unless it has a place. -/
def placed (s : State) (span : Option Span) (e : Error) : Error :=
  match span with
  | some span => e.orLocatedAt s.context.template.name span.start.line
  | none => e

/-- Goes on after a failure.  In the place of a variable, the message is escaped as the variable
would have been. -/
def recover (settings : Settings) (ofVariable : Bool) (span : Option Span) (e : Error)
    (s : State) : State :=
  match settings.environment.errorMode with
  | .lax =>
    let message := (s.placed span e).inlineMessage
    s.write (if ofVariable && settings.escapeVariables then escaped message else message)
  | .strict => s.update (·.record (s.placed span e))

/-- The text that a variable writes. -/
def variableText (settings : Settings) (v : Value) : String :=
  match v with
  | .string s => if settings.escapeVariables then escaped s else s
  | v => v.display

/-- The value of a variable after the global filter. -/
def variableValue (settings : Settings) (s : State) (v : Variable) : Except Error Value := do
  let value ← (s.context.scope settings).evalVariable v
  match settings.globalFilter with
  | some filter => filter value
  | none => pure value

def renderVariable (settings : Settings) (v : Variable) (span : Span) (s : State) : State :=
  match s.variableValue settings v with
  | .ok value => s.write (variableText settings value)
  | .error e => s.recover settings true (some span) e

/-- The state after a tag or block, which may have failed. -/
def settle (settings : Settings) (span : Span) (r : Except Error Unit × State) : State :=
  match r.1 with
  | .ok () => r.2
  | .error e => r.2.recover settings false (some span) e

/-- Renders a node.  A tag without a handler writes nothing, and a block without one is its
body. -/
def renderNode (settings : Settings) (sub : Renderer) (s : State) : Node → State
  | .text t => s.write t
  | .variable v span => s.renderVariable settings v span
  | .tag name _ payload span =>
    match settings.environment.registry.find? name with
    | some h => settle settings span ((h.render (.tag name payload)).run settings sub s)
    | none => s
  | .block name _ payload span body clauses =>
    match settings.environment.registry.find? name with
    | some h =>
      settle settings span ((h.render (.block name payload body clauses)).run settings sub s)
    | none => settle settings span (sub body s)

/-- Renders nodes until one leaves a signal. -/
def renderList (settings : Settings) (sub : Renderer) (s : State) : List Node → State
  | [] => s
  | n :: ns =>
    let t := s.renderNode settings sub n
    if t.context.signal = .normal then t.renderList settings sub ns else t

end State

/-- Renders a list of nodes with the given number of levels left. -/
def renderNodes (settings : Settings) : Nat → Renderer
  | 0, _, s => (.error Cause.recursionLimit, s)
  | levels + 1, nodes, s => (.ok (), s.renderList settings (renderNodes settings levels) nodes)

end Stencil
