import Stencil.Proofs.Render.Likeness

/-!
# Renders side by side

Two renders of nodes that are alike, under settings that may differ, stay related as long as every
operation keeps them related.  `Simulation` lists what that takes of one level, and
`Simulation.run` concludes for every action that is alike to another, hence for every node with a
built-in handler (`Simulation.attempt`).

The relation may depend on a record of what the first render has done.  Each list of nodes adds its
own part to the record, and only lists that `Fit` admits have to be followed.
-/

namespace Stencil

/-! ## Settings alike -/

/-- Settings under which nodes do the same. -/
structure Settings.Like (left right : Settings) : Prop where
  registry : right.environment.registry = left.environment.registry
  escapes : right.escapeVariables = left.escapeVariables
  filter : right.globalFilter = left.globalFilter

theorem Node.action_eq {left right : Settings} (like : left.Like right) (n : Node) :
    n.action right = n.action left := by
  have text : State.variableText right = State.variableText left := by
    funext v
    simp only [State.variableText, like.escapes]
  have filtered : right.filtered = left.filtered := by
    funext v
    simp only [Settings.filtered, like.filter]
  cases n <;> simp only [action, text, filtered, like.registry]

theorem Node.alike_action {l : Likeness} {settings : Settings} {n m : Node}
    (isBuiltin : ∀ h, n.handler? settings.environment.registry = some h → h.IsBuiltin)
    (alike : n.Alike l m) : Action.Balanced l (n.action settings) (m.action settings) := by
  cases alike with
  | text t => exact .ask (.write t _)
  | «variable» v span =>
    exact .andThen (.evalVariable v) fun _ => .andThen (.ofExcept (.refl _)) fun _ =>
      .ask (.write _ _)
  | tag name markup payload span =>
    simp only [action]
    cases bound : settings.environment.registry.find? name with
    | none => exact .nothing
    | some h => exact (isBuiltin h bound).alike (.tag name payload)
  | block name markup payload span body clauses =>
    simp only [action]
    cases bound : settings.environment.registry.find? name with
    | none => exact .renderNodes body
    | some h => exact (isBuiltin h bound).alike (.block name payload body clauses)

/-! ## Simulations -/

/-- What it takes of one level of two renders that they stay related. -/
structure Simulation {μ : Type} (l : Likeness) (left right : Settings) (sub other : Renderer)
    (Fit : Descent → Prop) (trace : Descent → List μ) (R : List μ → State → State → Prop) :
    Prop where
  ask : ∀ {op : Op} {i j : Opened}, op.Moves i j → ∀ {seen : List μ} {s t : State}, R seen s t →
    (op.exec left sub s).1 = (op.exec right other t).1 ∧
      R seen (op.exec left sub s).2 (op.exec right other t).2
  render : ∀ {ns ms : List Node}, l.nodes ns ms → ∀ {seen : List μ} {s t : State}, R seen s t →
    Fit ⟨ns, s⟩ → (sub ns s).1 = (other ms t).1 ∧
      R (seen ++ trace ⟨ns, s⟩) (sub ns s).2 (other ms t).2
  override : ∀ {seen : List μ} {s t : State}, R seen s t → ∀ name,
    Option.Rel l.nodes (Table.find? s.context.overrides name)
      (Table.find? t.context.overrides name)
  find : ∀ name,
    Agree l.templates (left.environment.findTemplate name) (right.environment.findTemplate name)
  enter : ∀ {p q : Template}, l.templates p q → ∀ {seen : List μ} {s t : State}, R seen s t →
    R seen (s.enterParent p) (t.enterParent q)
  leave : ∀ {seen later : List μ} {s t u v : State}, R seen s t → R later u v →
    R later (u.leaveParent s.context.template) (v.leaveParent t.context.template)

namespace Simulation

variable {μ : Type} {l : Likeness} {left right : Settings} {sub other : Renderer}
  {Fit : Descent → Prop} {trace : Descent → List μ} {R : List μ → State → State → Prop}

theorem run (sim : Simulation l left right sub other Fit trace R) {α β : Type}
    {A : α → β → Prop} {i j : Opened} {a : Action α} {b : Action β} (alike : a.Alike l A i j b)
    {seen : List μ} {s t : State} (related : R seen s t)
    (fit : ∀ d ∈ a.descents left sub s, Fit d) :
    Agree A (a.run left sub s).1 (b.run right other t).1 ∧
      R (seen ++ (a.descents left sub s).flatMap trace) (a.run left sub s).2
        (b.run right other t).2 := by
  -- What renders nothing adds nothing to the record.
  have quietly {seen : List μ} {s t : State} (related : R seen s t) :
      R (seen ++ [].flatMap trace) s t := by
    rwa [List.flatMap_nil, List.append_nil]
  induction alike generalizing seen s t with
  | done agrees => exact ⟨.ok agrees, quietly related⟩
  | fail e => exact ⟨.error e, quietly related⟩
  | @bind _ _ _ _ A B i j k a b f g first rest ihFirst ihRest =>
    rw [Action.descents_bind] at fit ⊢
    rw [Action.run_bind, Action.run_bind]
    obtain ⟨agree, relatedFirst⟩ := ihFirst related fun d hd => fit d (List.mem_append_left _ hd)
    rcases ranLeft : a.run left sub s with ⟨r, u⟩
    rcases ranRight : b.run right other t with ⟨q, v⟩
    rw [ranLeft, ranRight] at agree relatedFirst
    cases agree with
    | error e =>
      simp only [List.append_nil]
      exact ⟨.error e, relatedFirst⟩
    | @ok x y agrees =>
      rw [ranLeft] at fit
      obtain ⟨agreeRest, relatedRest⟩ := ihRest x y agrees relatedFirst fun d hd =>
        fit d (List.mem_append_right _ hd)
      refine ⟨agreeRest, ?_⟩
      simpa [List.append_assoc] using relatedRest
  | @ask op i j moves =>
    have quiet : (Action.ask op).descents left sub s = [] := by cases moves <;> rfl
    obtain ⟨same, after⟩ := sim.ask moves related
    rw [quiet]
    exact ⟨.ok same, quietly after⟩
  | @render ns ms alike i =>
    have asked : (Action.ask (.renderNodes ns)).descents left sub s = [⟨ns, s⟩] := rfl
    rw [asked] at fit ⊢
    obtain ⟨same, after⟩ := sim.render alike related (fit _ (List.mem_singleton.2 rfl))
    rw [List.flatMap_singleton]
    exact ⟨.ok same, after⟩
  | override name => exact ⟨.ok (sim.override related name), quietly related⟩
  | find name => exact ⟨.ok (sim.find name), quietly related⟩
  | @extend p q alike =>
    obtain ⟨ranLeft, asked⟩ := @Tags.run_renderParent left sub s p
    rw [asked] at fit ⊢
    rw [ranLeft, (Tags.run_renderParent q).1, List.flatMap_singleton]
    obtain ⟨same, after⟩ := sim.render (l.ofTemplates alike) (sim.enter alike related)
      (fit _ (List.mem_singleton.2 rfl))
    rw [same]
    exact ⟨.refl _, sim.leave related after⟩

/-- Nodes that are alike come to states that are related, and fail alike. -/
theorem attempt (sim : Simulation l left right sub other Fit trace R) (like : left.Like right)
    (isBuiltin : left.environment.registry.OnlyBuiltin) {n m : Node} (alike : n.Alike l m)
    (seen : List μ) {s t : State} (related : R seen s t)
    (fit : ∀ d ∈ s.descents left sub n, Fit d) :
    (s.attempt left sub n).1 = (t.attempt right other m).1 ∧
      R (seen ++ (s.descents left sub n).flatMap trace) (s.attempt left sub n).2
        (t.attempt right other m).2 := by
  rw [State.descents_eq] at fit ⊢
  rw [State.attempt_eq_run, State.attempt_eq_run, Node.action_eq like]
  obtain ⟨agree, after⟩ := sim.run (Node.alike_action (isBuiltin.of_handler? n) alike) related fit
  exact ⟨agree.eq, after⟩

end Simulation

end Stencil
