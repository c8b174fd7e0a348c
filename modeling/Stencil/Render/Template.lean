import Stencil.Render.Nodes

/-!
# Rendering templates

A whole render: the assigns are checked, the nodes of the template are rendered from a fresh state,
and the output is finished.
-/

namespace Stencil

/-- The options of a render. -/
structure RenderOptions where
  registers : Table Value
  /-- Whether strings that variables write are made safe for script literals. -/
  escapeVariables : Bool
  /-- Whether the output is joined into one text. -/
  joinOutput : Bool
  globalFilter : Option GlobalFilter

/-- The options of a render that asks for nothing special. -/
def RenderOptions.default : RenderOptions := ⟨[], false, true, none⟩

/-- A finished render: the output, and the context as it was left. -/
structure Rendered where
  output : RenderOutput
  context : Context

namespace Environment

/-- What stays fixed during a render with these options. -/
def settings (env : Environment) (options : RenderOptions) : Settings :=
  ⟨env, options.escapeVariables, options.globalFilter⟩

/-- The state that a render begins in. -/
def startState (template : Template) (assigns : Value) (options : RenderOptions) : State :=
  ⟨.start template assigns options.registers,
    if options.joinOutput then Output.joining else Output.fragmenting⟩

/-- The state that a render ends in. -/
def finalState (env : Environment) (template : Template) (assigns : Value)
    (options : RenderOptions) : State :=
  let settings := env.settings options
  let r := renderNodes settings maxLevels template.nodes (startState template assigns options)
  match r.1 with
  | .ok () => r.2
  | .error e => r.2.recover settings false none e

/-- Whether values may be the assigns of a render. -/
def checkAssigns (assigns : Value) : Except Error Unit :=
  match assigns with
  | .map _ | .none | .undefined => .ok ()
  | v => .error (Cause.assignsNotMap v.kind)

/-- Renders a template.  The assigns go through a JSON document first. -/
def render (env : Environment) (template : Template) (assigns : Value) (options : RenderOptions) :
    Except Error Rendered := do
  let assigns := assigns.imported
  checkAssigns assigns
  let s := env.finalState template assigns options
  pure ⟨s.output.finish, s.context⟩

/-- Parses and renders a document into one text, or answers the first error. -/
def renderText (env : Environment) (source : String) (assigns : Value) : Except Error String := do
  let template ← env.parse source
  let r ← env.render template assigns .default
  match r.context.errors with
  | [] => pure r.output.text
  | e :: _ => throw e

end Environment

end Stencil
