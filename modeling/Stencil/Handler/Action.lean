import Stencil.Document.Node

/-!
# Actions

What a tag or block does when it is rendered.  An action is a tree: it is done, it has failed, or it
performs one operation and goes on with the answer.  The operations are all that a handler can do
to a render, so what holds of every operation holds of every handler.  Operations that can fail
answer with the failure, and the action decides what becomes of it.
-/

namespace Stencil

/-- How a render goes on.  Nodes are rendered as long as the signal is normal; any other one is
passed outward until the construct that it is meant for clears it. -/
inductive Signal where
  /-- Nodes are rendered. -/
  | normal
  /-- The innermost loop is left. -/
  | «break»
  /-- The innermost loop goes on with its next item. -/
  | «continue»
  /-- The template has been rendered in the place of its parent. -/
  | extended
  deriving DecidableEq

def Signal.name : Signal → String
  | .normal => "Normal"
  | .break => "Break"
  | .continue => "Continue"
  | .extended => "Extended"

/-- An operation that a handler can perform.  Of the environment, a handler reads the error mode,
the presets, how deep blocks may nest and the stored templates, it has texts parsed, and it applies
filters in evaluating variables.  No operation hands out the registry or the filters themselves, and
none starts another render: that would count its levels anew, and a handler that renders its own
template in this way would never come to an end. -/
inductive Op where
  | write (s : String)
  /-- Opens a capture: what is written from here on is kept. -/
  | beginCapture
  /-- Closes the innermost capture and answers what it kept. -/
  | endCapture
  | isCapturing
  | lookup (name : String)
  /-- Binds a variable for the rest of the render. -/
  | setGlobal (name : String) (value : Value)
  /-- Binds a variable in the innermost scope. -/
  | setLocal (name : String) (value : Value)
  | pushScope
  | popScope
  | globals
  | assigns
  | register (key : String)
  | setRegister (key : String) (value : Value)
  | registers
  | signal
  | setSignal (signal : Signal)
  /-- Clears the signal and answers what it was. -/
  | takeSignal
  /-- Asks for the errors that were recorded, the first one first. -/
  | errors
  | errorMode
  | presets
  /-- Asks how deep blocks may nest in a text that is parsed. -/
  | maxDepth
  /-- Asks for the template that is being rendered. -/
  | template
  | findTemplate (name : String)
  /-- Goes on in another template and answers the one before. -/
  | enterTemplate (template : Template)
  /-- Asks for the nodes that stand for a named block. -/
  | blockOverride (name : String)
  /-- Lets nodes stand for a named block, unless others do already. -/
  | addOverride (name : String) (nodes : List Node)
  | evalExpr (e : Expr)
  | evalChain (c : ConditionChain)
  | evalVariable (v : Variable)
  /-- Renders nodes one level further down. -/
  | renderNodes (nodes : List Node)
  | parseTemplate (name source : String)
  /-- Adds a value to the journal of the render. -/
  | note (value : Value)

def Op.Answer : Op → Type
  | .endCapture => String
  | .isCapturing => Bool
  | .lookup _ => Value
  | .globals => Table Value
  | .assigns => Value
  | .register _ => Option Value
  | .registers => Table Value
  | .signal => Signal
  | .takeSignal => Signal
  | .errors => List Error
  | .errorMode => ErrorMode
  | .presets => Table Value
  | .maxDepth => Nat
  | .template => Template
  | .findTemplate _ => Except Error Template
  | .enterTemplate _ => Template
  | .blockOverride _ => Option (List Node)
  | .evalExpr _ => Except Error Value
  | .evalChain _ => Except Error Bool
  | .evalVariable _ => Except Error Value
  | .renderNodes _ => Except Error Unit
  | .parseTemplate .. => Except Error Template
  | _ => Unit

/-- What a handler does, with a result of type `α`. -/
inductive Action (α : Type) where
  | done (a : α)
  | fail (e : Error)
  | perform (op : Op) (next : op.Answer → Action α)

namespace Action

variable {α β : Type}

/-- One action and then another, which gets its result.  A failure ends both. -/
def bind : Action α → (α → Action β) → Action β
  | done a, f => f a
  | fail e, _ => fail e
  | perform op next, f => perform op fun answer => (next answer).bind f

instance : Monad Action where
  pure := done
  bind := bind

def ask (op : Op) : Action op.Answer := perform op done

/-- Goes on with a result, or fails. -/
def ofExcept : Except Error α → Action α
  | .ok a => done a
  | .error e => fail e

/-! ## The operations as actions -/

def write (s : String) : Action Unit := ask (.write s)

/-- Binds a variable for the rest of the render. -/
def setGlobal (name : String) (value : Value) : Action Unit := ask (.setGlobal name value)

/-- Binds a variable in the innermost scope. -/
def setLocal (name : String) (value : Value) : Action Unit := ask (.setLocal name value)

def setSignal (signal : Signal) : Action Unit := ask (.setSignal signal)

def evalExpr (e : Expr) : Action Value := perform (.evalExpr e) ofExcept

/-- Evaluates a chain of conditions or fails. -/
def evalChain (c : ConditionChain) : Action Bool := perform (.evalChain c) ofExcept

def evalVariable (v : Variable) : Action Value := perform (.evalVariable v) ofExcept

def renderNodes (nodes : List Node) : Action Unit := perform (.renderNodes nodes) ofExcept

/-- Asks for a stored template or fails. -/
def findTemplate (name : String) : Action Template := perform (.findTemplate name) ofExcept

/-! ## The laws of sequencing -/

@[simp] theorem pure_eq (a : α) : (pure a : Action α) = done a := rfl

@[simp] theorem done_bind (a : α) (f : α → Action β) : (done a >>= f) = f a := rfl

@[simp] theorem fail_bind (e : Error) (f : α → Action β) : (fail e >>= f) = fail e := rfl

@[simp] theorem perform_bind (op : Op) (next : op.Answer → Action α) (f : α → Action β) :
    (perform op next >>= f) = perform op fun answer => next answer >>= f := rfl

theorem bind_done (a : Action α) : (a >>= done) = a := by
  induction a with
  | done => rfl
  | fail => rfl
  | perform op next ih => simp [ih]

theorem bind_assoc {γ : Type} (a : Action α) (f : α → Action β) (g : β → Action γ) :
    (a >>= f >>= g) = a >>= fun x => f x >>= g := by
  induction a with
  | done => rfl
  | fail => rfl
  | perform op next ih => simp [ih]

end Action

end Stencil
