import Stencil.Proofs.Render.Descent
import Stencil.Tags.Builtin

/-!
# The course of a node

What rendering a node can do if its handler is one of the built-in ones.  `Course` has one rule for
each thing that these handlers do with the nodes inside of theirs, so that a law about rendering is
proved by going through the rules and never through the handlers.

A node's `Role` is what it is to the nodes that it renders: a loop around its body, a choice of
sections, an extension of a parent, a block that others stand in for, or none of these.
-/

namespace Stencil

/-! ## Built-in handlers -/

/-- The handler is one of those that every engine starts with. -/
def Handler.IsBuiltin (h : Handler) : Prop := ∃ name, Registry.builtin.find? name = some h

/-- Every name is bound to a built-in handler or to none. -/
def Registry.OnlyBuiltin (registry : Registry) : Prop :=
  ∀ name h, registry.find? name = some h → h.IsBuiltin

theorem Registry.OnlyBuiltin.of_handler? {registry : Registry} (isBuiltin : registry.OnlyBuiltin)
    (n : Node) (h : Handler) (bound : n.handler? registry = some h) : h.IsBuiltin := by
  cases n with
  | text => cases bound
  | «variable» => cases bound
  | tag name => exact isBuiltin name h bound
  | block name => exact isBuiltin name h bound

theorem Registry.onlyBuiltin_builtin : Registry.builtin.OnlyBuiltin := fun name _ bound =>
  ⟨name, bound⟩

/-! ## Roles -/

/-- What a node is to the nodes that it renders. -/
inductive Role where
  /-- Nothing but the node that they stand in. -/
  | plain
  /-- The loop that runs over them. -/
  | loop
  /-- The choice that they are sections of. -/
  | choice
  /-- The extension that renders them as the nodes of its parent. -/
  | parent (t : Template)
  /-- The named block that they stand in for. -/
  | override (name : String)

namespace Tags

/-- The parent that an extension finds. -/
def parentOf (payload : Payload) : Action Template := do
  let e : Expr ← Action.ofExcept (MarkupType.typed payload)
  let value ← Action.evalExpr e
  let name ← Action.ofExcept (templateName value)
  Action.findTemplate name

/-- The items of a loop. -/
def itemsOf (l : Loop) : Action (List Value) := do
  let value ← Action.evalExpr l.items
  let items ← Action.ofExcept value.iterate
  let offset ← evalCount "offset" l.offset
  let limit ← evalCount "limit" l.limit
  pure (selectItems items offset limit l.reversed)

/-- A loop as its handler sees it, and its items. -/
def loopOf (name : String) (payload : Payload) (body : List Node) (clauses : List (Clause Node)) :
    Action (Body Loop Unit × List Value) := do
  let b : Body Loop Unit ← Action.ofExcept (Body.ofBlock name payload body clauses)
  let items ← itemsOf b.markup
  pure (b, items)

/-- A named block as its handler sees it, and the nodes that stand in for it. -/
def overrideOf (name : String) (payload : Payload) (body : List Node)
    (clauses : List (Clause Node)) : Action (Body String Unit × Option (List Node)) := do
  let b : Body String Unit ← Action.ofExcept (Body.ofBlock name payload body clauses)
  let override : Option (List Node) ← Action.ask (.blockOverride b.markup)
  pure (b, override)

end Tags

namespace Role

/-- The role of an extension: plain, unless it finds its parent. -/
def ofParent : Except Error Template → Role
  | .ok t => parent t
  | .error _ => plain

/-- The role of a loop: plain, unless it has items. -/
def ofLoop : Except Error (Body Loop Unit × List Value) → Role
  | .ok (_, _ :: _) => loop
  | _ => plain

/-- The role of a named block: plain, unless nodes stand in for it. -/
def ofOverride : Except Error (Body String Unit × Option (List Node)) → Role
  | .ok (b, some _) => override b.markup
  | _ => plain

end Role

/-- What a node is to the nodes that its handler renders. -/
def Handler.role (h : Handler) (settings : Settings) (s : State) : Call → Role
  | .tag _ payload =>
    if h.identity.type = "extends" then .ofParent ((Tags.parentOf payload).answer settings s)
    else .plain
  | .block name payload body clauses =>
    if h.identity.type = "for" then
      .ofLoop ((Tags.loopOf name payload body clauses).answer settings s)
    else if h.identity.type = "block" then
      .ofOverride ((Tags.overrideOf name payload body clauses).answer settings s)
    else if h.identity.type = "case" then .choice
    else .plain

/-- What a node asks of its handler. -/
def Node.call? : Node → Option Call
  | .tag name _ payload _ => some (.tag name payload)
  | .block name _ payload _ body clauses => some (.block name payload body clauses)
  | _ => none

/-- What a node is to the nodes that it renders from a state on. -/
def State.role (settings : Settings) (s : State) (n : Node) : Role :=
  match n.handler? settings.environment.registry, n.call? with
  | some h, some c => h.role settings s c
  | _, _ => .plain

/-- The nodes are the body of the node or one of its sections. -/
def Node.Holds (nodes : List Node) : Node → Prop
  | .block _ _ _ _ body clauses => nodes = body ∨ ∃ c ∈ clauses, nodes = c.body
  | _ => False

/-! ## How handlers change the state -/

namespace State

/-- Only bindings and registers change. -/
def Rebinds (s t : State) : Prop :=
  ∃ globals locals registers, t =
    { s with context := { s.context with
        globals := globals
        locals := locals
        registers := registers } }

theorem Rebinds.refl (s : State) : s.Rebinds s := ⟨_, _, _, rfl⟩

theorem Rebinds.trans {s t u : State} (first : s.Rebinds t) (second : t.Rebinds u) :
    s.Rebinds u := by
  obtain ⟨_, _, _, rfl⟩ := first
  obtain ⟨_, _, _, rfl⟩ := second
  exact ⟨_, _, _, rfl⟩

theorem rebinds_setLocal (s : State) (name : String) (v : Value) :
    s.Rebinds (s.update (·.setLocal name v)) := by
  obtain ⟨c, o⟩ := s
  obtain ⟨template, assigns, globals, locals, _⟩ := c
  cases locals <;> exact ⟨_, _, _, rfl⟩

/-- The state with a capture that has just been opened. -/
def openCapture (s : State) : State := { s with output := s.output.beginCapture }

/-- The state without its innermost capture. -/
def closeCapture (s : State) : State := { s with output := s.output.endCapture.2 }

/-- The state in which the nodes of the parent are rendered. -/
def enterParent (s : State) (parent : Template) : State :=
  s.update fun c => { c with
    template := parent
    overrides := (Tags.namedBlocks c.template.nodes).foldl (fun t b => t.setNew b.1 b.2)
      c.overrides }

/-- The state after the nodes of the parent, back in the template that extends it. -/
def leaveParent (s : State) (child : Template) : State :=
  s.update fun c => { c with template := child, signal := .extended }

/-- The state with the signal cleared. -/
def resume (s : State) : State := s.update (·.setSignal .normal)

theorem resume_of_normal {s : State} (normal : s.context.signal = .normal) : s.resume = s := by
  obtain ⟨c, o⟩ := s
  obtain ⟨⟩ := c
  obtain rfl := normal
  rfl

@[simp] theorem write_empty (s : State) : s.write "" = s := by
  obtain ⟨c, ⟨sink, captures⟩⟩ := s
  cases captures with
  | nil => cases sink <;> simp [write, Output.write, Sink.write]
  | cons text captures => simp [write, Output.write]

end State

/-! ## The rules -/

section Rules

variable (sub : Renderer)

/-- The items of a loop, one after the other. -/
inductive Rounds (nodes : List Node) :
    State → List Descent → Except Error Unit → State → Prop where
  /-- No item is left. -/
  | finished (s : State) : Rounds nodes s [] (.ok ()) s
  | refused {s t u : State} {e : Error} (rebinds : s.Rebinds t)
      (rendered : sub nodes t = (.error e, u)) : Rounds nodes s [⟨nodes, t⟩] (.error e) u
  | next {s t u v : State} {ds : List Descent} {r : Except Error Unit} (rebinds : s.Rebinds t)
      (rendered : sub nodes t = (.ok (), u))
      (goesOn : u.context.signal = .normal ∨ u.context.signal = .continue)
      (rest : Rounds nodes u.resume ds r v) : Rounds nodes s (⟨nodes, t⟩ :: ds) r v
  | left {s t u : State} (rebinds : s.Rebinds t) (rendered : sub nodes t = (.ok (), u))
      (signal : u.context.signal = .break) : Rounds nodes s [⟨nodes, t⟩] (.ok ()) u.resume
  | extended {s t u : State} (rebinds : s.Rebinds t) (rendered : sub nodes t = (.ok (), u))
      (signal : u.context.signal = .extended) : Rounds nodes s [⟨nodes, t⟩] (.ok ()) u

/-- The sections that a choice renders, one after the other. -/
inductive Sections (n : Node) : State → List Descent → Except Error Unit → State → Prop where
  /-- No section is left. -/
  | finished (s : State) : Sections n s [] (.ok ()) s
  /-- It cannot be told whether the next section is to be rendered. -/
  | undecided (s : State) (e : Error) : Sections n s [] (.error e) s
  | refused {s t : State} {nodes : List Node} {e : Error} (holds : n.Holds nodes)
      (rendered : sub nodes s = (.error e, t)) : Sections n s [⟨nodes, s⟩] (.error e) t
  | next {s t u : State} {nodes : List Node} {ds : List Descent} {r : Except Error Unit}
      (holds : n.Holds nodes) (rendered : sub nodes s = (.ok (), t))
      (goesOn : t.context.signal = .normal) (rest : Sections n t ds r u) :
      Sections n s (⟨nodes, s⟩ :: ds) r u
  | left {s t : State} {nodes : List Node} (holds : n.Holds nodes)
      (rendered : sub nodes s = (.ok (), t)) (signal : t.context.signal ≠ .normal) :
      Sections n s [⟨nodes, s⟩] (.ok ()) t

/-- What rendering a node can do: what it asks to render, whether it fails, and the state that it
comes to. -/
inductive Course (n : Node) :
    Role → State → List Descent → Except Error Unit → State → Prop where
  /-- It fails before anything has happened. -/
  | refuse {role : Role} (isPlain : role = .plain ∨ role = .choice) (s : State) (e : Error) :
      Course n role s [] (.error e) s
  /-- It writes and binds. -/
  | write {s t : State} {text : String} (rebinds : (s.write text).Rebinds t) :
      Course n .plain s [] (.ok ()) t
  /-- It raises a signal for the innermost loop. -/
  | raise (s : State) {signal : Signal} (isRaised : signal = .break ∨ signal = .continue) :
      Course n .plain s [] (.ok ()) (s.update (·.setSignal signal))
  /-- It renders some of the nodes inside of it. -/
  | descend (s : State) {nodes : List Node} (holds : n.Holds nodes) :
      Course n .plain s [⟨nodes, s⟩] (sub nodes s).1 (sub nodes s).2
  /-- It renders them into a capture. -/
  | capture {s t : State} {nodes : List Node} (holds : n.Holds nodes)
      (rebinds : (sub nodes s.openCapture).2.closeCapture.Rebinds t) :
      Course n .plain s [⟨nodes, s.openCapture⟩] (sub nodes s.openCapture).1 t
  | choose {s t : State} {ds : List Descent} {r : Except Error Unit}
      (sections : Sections sub n s ds r t) : Course n .choice s ds r t
  | loop {s t u v : State} {nodes : List Node} {ds : List Descent} {r : Except Error Unit}
      (holds : n.Holds nodes) (opens : s.Rebinds t) (rounds : Rounds sub nodes t ds r u)
      (closes : u.Rebinds v) : Course n .loop s ds r v
  /-- It renders the nodes of its parent. -/
  | extend (s : State) (parent : Template) :
      Course n (.parent parent) s [⟨parent.nodes, s.enterParent parent⟩]
        (sub parent.nodes (s.enterParent parent)).1
        ((sub parent.nodes (s.enterParent parent)).2.leaveParent s.context.template)
  /-- It renders the nodes that stand in for it. -/
  | override {s : State} {name : String} {nodes : List Node}
      (bound : Table.find? s.context.overrides name = some nodes) :
      Course n (.override name) s [⟨nodes, s⟩] (sub nodes s).1 (sub nodes s).2

theorem Course.rounds_of_loop {n : Node} {s t : State} {ds : List Descent}
    {r : Except Error Unit} (course : Course sub n .loop s ds r t) :
    ∃ nodes u v, n.Holds nodes ∧ s.Rebinds u ∧ Rounds sub nodes u ds r v ∧ v.Rebinds t := by
  cases course with
  | refuse isPlain => rcases isPlain with isPlain | isPlain <;> cases isPlain
  | loop holds opens rounds closes => exact ⟨_, _, _, holds, opens, rounds, closes⟩

end Rules

end Stencil
