import Stencil.Render.Template

/-!
# What a handler asks to render

Carrying out an action renders other nodes only where the action asks for it.  `Action.descents`
lists what it asks for, in order and each time with the state that it asks in, and `Node.attempt` is
what a node comes to before its failure is recovered from.
-/

namespace Stencil

/-- Nodes that a handler asks to render, and the state that it asks in. -/
structure Descent where
  nodes : List Node
  state : State

/-- What an operation asks to render. -/
def Op.descents (s : State) : Op → List Descent
  | .renderNodes nodes => [⟨nodes, s⟩]
  | _ => []

namespace Action

variable {α β : Type} (settings : Settings) (sub : Renderer)

/-- What an action asks to render from a state on, if the nodes are rendered with `sub`. -/
def descents : Action α → State → List Descent
  | .done _, _ => []
  | .fail _, _ => []
  | .perform op next, s =>
    let r := op.exec settings sub s
    op.descents s ++ (next r.1).descents r.2

theorem run_bind (a : Action α) (f : α → Action β) (s : State) :
    (a >>= f).run settings sub s =
      match a.run settings sub s with
      | (.ok x, t) => (f x).run settings sub t
      | (.error e, t) => (.error e, t) := by
  induction a generalizing s with
  | done => rfl
  | fail => rfl
  | perform op next ih => exact ih _ _

theorem descents_bind (a : Action α) (f : α → Action β) (s : State) :
    (a >>= f).descents settings sub s =
      a.descents settings sub s ++
        match a.run settings sub s with
        | (.ok x, t) => (f x).descents settings sub t
        | (.error _, _) => [] := by
  induction a generalizing s with
  | done => rfl
  | fail => rfl
  | perform op next ih =>
    rw [perform_bind, descents, descents, ih, List.append_assoc]
    rfl

@[simp] theorem run_ofExcept (r : Except Error α) (s : State) :
    (ofExcept r).run settings sub s = (r, s) := by
  cases r <;> rfl

@[simp] theorem descents_ofExcept (r : Except Error α) (s : State) :
    (ofExcept r).descents settings sub s = [] := by
  cases r <;> rfl

@[simp] theorem run_renderNodes (nodes : List Node) (s : State) :
    (renderNodes nodes).run settings sub s = sub nodes s :=
  run_ofExcept ..

@[simp] theorem descents_renderNodes (nodes : List Node) (s : State) :
    (renderNodes nodes).descents settings sub s = [⟨nodes, s⟩] := by
  show [⟨nodes, s⟩] ++ (ofExcept (sub nodes s).1).descents settings sub (sub nodes s).2 = _
  rw [descents_ofExcept, List.append_nil]

/-! ### Actions that only look -/

/-- What an action comes to if whatever it renders does nothing. -/
def answer (a : Action α) (s : State) : Except Error α :=
  (a.run settings (fun _ s => (.ok (), s)) s).1

@[simp] theorem answer_ofExcept (r : Except Error α) (s : State) :
    (ofExcept r).answer settings s = r := by
  cases r <;> rfl

theorem answer_evalExpr (e : Expr) (s : State) :
    (evalExpr e).answer settings s = (s.context.scope settings).eval e :=
  answer_ofExcept settings _ s

/-- The action changes nothing and renders nothing. -/
structure Looks (a : Action α) : Prop where
  run_eq : ∀ settings sub s, a.run settings sub s = (a.answer settings s, s)
  descents_eq : ∀ settings sub s, a.descents settings sub s = []

namespace Looks

theorem done (a : α) : (done a).Looks := ⟨fun _ _ _ => rfl, fun _ _ _ => rfl⟩

theorem fail (e : Error) : (fail e : Action α).Looks := ⟨fun _ _ _ => rfl, fun _ _ _ => rfl⟩

theorem ofExcept (r : Except Error α) : (ofExcept r).Looks := by
  cases r with
  | error e => exact fail e
  | ok a => exact done a

/-- An operation that only reads may be followed by what it has read, or by the failure to. -/
theorem perform {op : Op} {next : op.Answer → Action α}
    (reads : ∀ settings sub s, (op.exec settings sub s).2 = s ∧ op.descents s = [])
    (same : ∀ settings sub other s, (op.exec settings sub s).1 = (op.exec settings other s).1)
    (rest : ∀ answer, (next answer).Looks) : (perform op next).Looks := by
  constructor
  · intro settings sub s
    rw [run, (reads settings sub s).1, answer, run, (reads settings _ s).1, same settings sub _ s]
    exact (rest _).run_eq settings sub s
  · intro settings sub s
    rw [descents, (reads settings sub s).1, (reads settings sub s).2]
    exact (rest _).descents_eq settings sub s

theorem evalExpr (e : Expr) : (evalExpr e).Looks :=
  perform (fun _ _ _ => ⟨rfl, rfl⟩) (fun _ _ _ _ => rfl) ofExcept

theorem evalChain (c : ConditionChain) : (evalChain c).Looks :=
  perform (fun _ _ _ => ⟨rfl, rfl⟩) (fun _ _ _ _ => rfl) ofExcept

theorem evalVariable (v : Variable) : (evalVariable v).Looks :=
  perform (fun _ _ _ => ⟨rfl, rfl⟩) (fun _ _ _ _ => rfl) ofExcept

theorem findTemplate (name : String) : (findTemplate name).Looks :=
  perform (fun _ _ _ => ⟨rfl, rfl⟩) (fun _ _ _ _ => rfl) ofExcept

variable {a : Action α}

theorem run_bind (looks : a.Looks) (f : α → Action β) (s : State) :
    (a >>= f).run settings sub s =
      match a.answer settings s with
      | .ok x => (f x).run settings sub s
      | .error e => (.error e, s) := by
  rw [Action.run_bind, looks.run_eq]
  cases a.answer settings s <;> rfl

theorem descents_bind (looks : a.Looks) (f : α → Action β) (s : State) :
    (a >>= f).descents settings sub s =
      match a.answer settings s with
      | .ok x => (f x).descents settings sub s
      | .error _ => [] := by
  rw [Action.descents_bind, looks.run_eq, looks.descents_eq]
  cases a.answer settings s <;> rfl

theorem answer_bind (looks : a.Looks) (f : α → Action β) (s : State) :
    (a >>= f).answer settings s = a.answer settings s >>= fun x => (f x).answer settings s := by
  rw [answer, looks.run_bind]
  cases a.answer settings s <;> rfl

theorem bind (looks : a.Looks) {f : α → Action β} (rest : ∀ x, (f x).Looks) : (a >>= f).Looks := by
  constructor
  · intro settings sub s
    rw [looks.run_bind, looks.answer_bind]
    cases a.answer settings s with
    | error e => rfl
    | ok x => exact (rest x).run_eq settings sub s
  · intro settings sub s
    rw [looks.descents_bind]
    cases a.answer settings s with
    | error e => rfl
    | ok x => exact (rest x).descents_eq settings sub s

end Looks

end Action

namespace Node

/-- Whether the node is a variable. -/
def isVariable : Node → Bool
  | .variable .. => true
  | _ => false

/-- The part of the document that a node takes up; texts do not say. -/
def span? : Node → Option Span
  | .text _ => none
  | .variable _ span => some span
  | .tag _ _ _ span => some span
  | .block _ _ _ span _ _ => some span

/-- The handler that a tag or a block is left to. -/
def handler? (registry : Registry) : Node → Option Handler
  | .tag name .. => registry.find? name
  | .block name .. => registry.find? name
  | _ => none

end Node

namespace State

variable (settings : Settings) (sub : Renderer)

/-- Whether a node fails, and the state before its failure is recovered from. -/
def attempt (s : State) : Node → Except Error Unit × State
  | .text t => (.ok (), s.write t)
  | .variable v _ =>
    match s.variableValue settings v with
    | .ok value => (.ok (), s.write (variableText settings value))
    | .error e => (.error e, s)
  | .tag name _ payload _ =>
    match settings.environment.registry.find? name with
    | some h => (h.render (.tag name payload)).run settings sub s
    | none => (.ok (), s)
  | .block name _ payload _ body clauses =>
    match settings.environment.registry.find? name with
    | some h => (h.render (.block name payload body clauses)).run settings sub s
    | none => sub body s

/-- What a node asks to render. -/
def descents (s : State) : Node → List Descent
  | .text _ => []
  | .variable .. => []
  | .tag name _ payload _ =>
    match settings.environment.registry.find? name with
    | some h => (h.render (.tag name payload)).descents settings sub s
    | none => []
  | .block name _ payload _ body clauses =>
    match settings.environment.registry.find? name with
    | some h => (h.render (.block name payload body clauses)).descents settings sub s
    | none => [⟨body, s⟩]

/-- A node is rendered by attempting it and recovering from its failure. -/
theorem renderNode_eq (s : State) (n : Node) :
    s.renderNode settings sub n =
      match s.attempt settings sub n with
      | (.ok (), t) => t
      | (.error e, t) => t.recover settings n.isVariable n.span? e := by
  have settle_eq (span : Span) (r : Except Error Unit × State) :
      settle settings span r =
        match r with
        | (.ok (), t) => t
        | (.error e, t) => t.recover settings false (some span) e := by
    obtain ⟨outcome, t⟩ := r
    cases outcome <;> rfl
  cases n with
  | text => rfl
  | «variable» v span =>
    simp only [renderNode, renderVariable, attempt]
    cases s.variableValue settings v <;> rfl
  | tag name markup payload span =>
    simp only [renderNode, attempt]
    cases settings.environment.registry.find? name with
    | none => rfl
    | some h => exact settle_eq span _
  | block name markup payload span body clauses =>
    simp only [renderNode, attempt]
    cases settings.environment.registry.find? name with
    | none => exact settle_eq span _
    | some h => exact settle_eq span _

/-- Recovering from a failure leaves the signal, the template and the overrides alone. -/
theorem context_recover (ofVariable : Bool) (span : Option Span) (e : Error) (s : State) :
    (s.recover settings ofVariable span e).context.signal = s.context.signal ∧
      (s.recover settings ofVariable span e).context.template = s.context.template ∧
      (s.recover settings ofVariable span e).context.overrides = s.context.overrides := by
  unfold recover
  split <;> exact ⟨rfl, rfl, rfl⟩

/-! ### One after the other -/

/-- The state behind some steps, each of which begins where the one before has ended. -/
def past {α : Type} (exit : α → State) : State → List α → State
  | s, [] => s
  | _, a :: steps => (exit a).past exit steps

theorem past_of_getLast? {α : Type} {exit : α → State} {steps : List α} {a : α}
    (last : steps.getLast? = some a) (s : State) : s.past exit steps = exit a := by
  induction steps generalizing s with
  | nil => cases last
  | cons b steps ih =>
    cases steps with
    | nil =>
      obtain rfl : b = a := Option.some.inj last
      rfl
    | cons c steps => exact ih last (exit b)

end State

/-! ## Nodes as actions -/

/-- The value of a variable after the global filter. -/
def Settings.filtered (settings : Settings) (v : Value) : Except Error Value :=
  match settings.globalFilter with
  | some filter => filter v
  | none => .ok v

/-- What a node does when it is rendered. -/
def Node.action (settings : Settings) : Node → Action Unit
  | .text t => Action.write t
  | .variable v _ => do
    let value ← Action.evalVariable v
    let value ← Action.ofExcept (settings.filtered value)
    Action.write (State.variableText settings value)
  | .tag name _ payload _ =>
    match settings.environment.registry.find? name with
    | some h => h.render (.tag name payload)
    | none => pure ()
  | .block name _ payload _ body clauses =>
    match settings.environment.registry.find? name with
    | some h => h.render (.block name payload body clauses)
    | none => Action.renderNodes body

namespace State

variable (settings : Settings) (sub : Renderer) (s : State)

theorem run_variable (v : Variable) (span : Span) :
    ((Node.variable v span).action settings).run settings sub s =
        s.attempt settings sub (.variable v span) ∧
      ((Node.variable v span).action settings).descents settings sub s = [] := by
  have value : s.variableValue settings v =
      (s.context.scope settings).evalVariable v >>= settings.filtered := by
    unfold variableValue Settings.filtered
    cases settings.globalFilter <;> rfl
  have looks := Action.Looks.evalVariable v
  have answer : (Action.evalVariable v).answer settings s =
      (s.context.scope settings).evalVariable v := Action.answer_ofExcept settings _ s
  simp only [Node.action, attempt, looks.run_bind, looks.descents_bind, answer, value]
  cases (s.context.scope settings).evalVariable v with
  | error e => exact ⟨rfl, rfl⟩
  | ok x =>
    simp only [bind, Except.bind]
    cases settings.filtered x <;> exact ⟨rfl, rfl⟩

theorem attempt_eq_run (n : Node) :
    s.attempt settings sub n = (n.action settings).run settings sub s := by
  cases n with
  | text => rfl
  | «variable» v span => exact (s.run_variable settings sub v span).1.symm
  | tag name =>
    simp only [attempt, Node.action]
    cases settings.environment.registry.find? name <;> rfl
  | block name _ _ _ body =>
    simp only [attempt, Node.action]
    cases settings.environment.registry.find? name with
    | none => exact (Action.run_renderNodes settings sub body s).symm
    | some h => rfl

theorem descents_eq (n : Node) :
    s.descents settings sub n = (n.action settings).descents settings sub s := by
  cases n with
  | text => rfl
  | «variable» v span => exact (s.run_variable settings sub v span).2.symm
  | tag name =>
    simp only [descents, Node.action]
    cases settings.environment.registry.find? name <;> rfl
  | block name _ _ _ body =>
    simp only [descents, Node.action]
    cases settings.environment.registry.find? name with
    | none => exact (Action.descents_renderNodes settings sub body s).symm
    | some h => rfl

/-- A block with the markup that its handler expects does what the handler does with it. -/
theorem attempt_block {μ κ : Type} [MarkupType μ] [MarkupType κ] {b : Block μ κ} {name : String}
    (bound : settings.environment.registry.find? name = some b.handler) {payload : Payload}
    {nodes : List Node} {clauses : List (Clause Node)} {body : Body μ κ}
    (read : Body.ofBlock name payload nodes clauses = .ok body) (markup : String) (span : Span) :
    s.attempt settings sub (.block name markup payload span nodes clauses) =
        (b.render body).run settings sub s ∧
      s.descents settings sub (.block name markup payload span nodes clauses) =
        (b.render body).descents settings sub s := by
  have renders : b.handler.render (.block name payload nodes clauses) = b.render body := by
    show (Action.ofExcept (Body.ofBlock name payload nodes clauses) >>= b.render) = _
    rw [read]
    rfl
  simp only [attempt, descents, bound, renders]
  exact ⟨trivial, trivial⟩

end State

end Stencil
