import Stencil.Render.Environment
import Stencil.Render.Evaluate
import Stencil.Render.Output

/-!
# The state of a render

What a render changes as it goes on: the template it is in, the bindings, the registers, the signal,
the errors and the output.  What stays fixed (the environment and the options) stands beside it in
`Settings`.
-/

namespace Stencil

/-- A transform of every value that a variable writes. -/
abbrev GlobalFilter := Value → Except Error Value

/-- What stays fixed during a render. -/
structure Settings where
  environment : Environment
  escapeVariables : Bool
  globalFilter : Option GlobalFilter

/-- What handlers see and change during a render. -/
structure Context where
  /-- The template that is being rendered. -/
  template : Template
  /-- The values that the render was started with: a map, or none. -/
  assigns : Value
  globals : Table Value
  /-- The scopes of blocks, the innermost first. -/
  locals : List (Table Value)
  registers : Table Value
  /-- The nodes that stand for named blocks. -/
  overrides : Table (List Node)
  signal : Signal
  /-- The errors recorded so far, the last one first. -/
  failures : List Error
  /-- What handlers have noted, the last note first. -/
  notes : List Value

namespace Context

/-- The state at the start of a render. -/
def start (template : Template) (assigns : Value) (registers : Table Value) : Context where
  template := template
  assigns := assigns
  globals := []
  locals := []
  registers := registers
  overrides := []
  signal := .normal
  failures := []
  notes := []

/-- What the assigns bind a name to. -/
def assigned? (c : Context) (name : String) : Option Value :=
  c.assigns.asMap?.bind fun t => Table.find? t name

/-- What a name stands for: the innermost scope that binds it decides, then the global bindings,
the assigns, the presets of the template and those of the environment. -/
def lookup (presets : Table Value) (c : Context) (name : String) : Value :=
  (c.locals.findSome? fun t => t.find? name)
    <|> c.globals.find? name
    <|> c.assigned? name
    <|> c.template.presets.find? name
    <|> Table.find? presets name
    |>.getD .undefined

def setGlobal (c : Context) (name : String) (value : Value) : Context :=
  { c with globals := Table.set c.globals name value }

/-- Binds a variable in the innermost scope, which is the global one if no block has opened one. -/
def setLocal (c : Context) (name : String) (value : Value) : Context :=
  match c.locals with
  | [] => c.setGlobal name value
  | t :: ts => { c with locals := Table.set t name value :: ts }

def pushScope (c : Context) : Context := { c with locals := [] :: c.locals }

/-- Closes the innermost scope.  The global one stays. -/
def popScope (c : Context) : Context := { c with locals := c.locals.tail }

def setRegister (c : Context) (key : String) (value : Value) : Context :=
  { c with registers := Table.set c.registers key value }

def setSignal (c : Context) (signal : Signal) : Context := { c with signal := signal }

/-- Lets nodes stand for a named block, unless others do already. -/
def addOverride (c : Context) (name : String) (nodes : List Node) : Context :=
  { c with overrides := Table.setNew c.overrides name nodes }

def record (c : Context) (e : Error) : Context := { c with failures := e :: c.failures }

/-- The errors recorded so far, in order. -/
def errors (c : Context) : List Error := c.failures.reverse

/-- Adds a value to the journal. -/
def note (c : Context) (value : Value) : Context := { c with notes := value :: c.notes }

/-- What handlers have noted, in order. -/
def journal (c : Context) : List Value := c.notes.reverse

/-- The scopes from the global one to the innermost. -/
def scopes (c : Context) : List (Table Value) := c.globals :: c.locals.reverse

def scope (c : Context) (s : Settings) : Scope :=
  ⟨c.lookup s.environment.presets, s.environment.filters⟩

@[simp] theorem errors_record (c : Context) (e : Error) : (c.record e).errors = c.errors ++ [e] := by
  simp [errors, record]

@[simp] theorem journal_note (c : Context) (v : Value) : (c.note v).journal = c.journal ++ [v] := by
  simp [journal, note]

@[simp] theorem popScope_pushScope (c : Context) : c.pushScope.popScope = c := rfl

end Context

/-- The state of a render: the context and the output. -/
structure State where
  context : Context
  output : Output

namespace State

def write (s : State) (text : String) : State := { s with output := s.output.write text }

def update (s : State) (f : Context → Context) : State := { s with context := f s.context }

@[simp] theorem context_write (s : State) (text : String) : (s.write text).context = s.context := rfl

@[simp] theorem output_update (s : State) (f : Context → Context) :
    (s.update f).output = s.output := rfl

end State

end Stencil
