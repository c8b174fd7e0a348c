import Stencil.Proofs.Render.Builtin

/-!
# The history of a render

The events of a render in their order: a node is entered, the nodes that it asks to render are
entered and left, and then it is left.  Every event tells its node, the state before the node and
the roles of the nodes around it, so that a law about a whole render can speak about what stands
inside of what.
-/

namespace Stencil

/-- A node that is rendered. -/
structure Visit where
  node : Node
  /-- The state before the node. -/
  state : State
  /-- What the nodes around it are to it, the innermost first. -/
  around : List Role

/-- A node that is entered, or that is left with an outcome and a state. -/
inductive Event where
  | enter (v : Visit)
  | leave (v : Visit) (outcome : Except Error Unit) (after : State)

/-- What the node of a visit is to the nodes that it renders. -/
def Visit.role (settings : Settings) (v : Visit) : Role := v.state.role settings v.node

namespace Event

/-- The visit that an event belongs to. -/
def visit : Event → Visit
  | enter v => v
  | leave v .. => v

/-- The event as it is seen from outside of one more node. -/
def within (r : Role) : Event → Event
  | enter v => enter { v with around := v.around ++ [r] }
  | leave v outcome after => leave { v with around := v.around ++ [r] } outcome after

@[simp] theorem visit_within (r : Role) (e : Event) :
    (e.within r).visit = { e.visit with around := e.visit.around ++ [r] } := by
  cases e <;> rfl

end Event

section Events

variable (settings : Settings) (sub : Renderer) (inner : List Node → State → List Event)

namespace State

/-- The events of a node, if those of a list of nodes are `inner`. -/
def events (s : State) (n : Node) : List Event :=
  let inside := (s.descents settings sub n).flatMap fun d => inner d.nodes d.state
  .enter ⟨n, s, []⟩ :: inside.map (Event.within (s.role settings n)) ++
    [.leave ⟨n, s, []⟩ (s.attempt settings sub n).1 (s.renderNode settings sub n)]

/-- The events of nodes that are rendered until one leaves a signal. -/
def eventsOfList (s : State) : List Node → List Event
  | [] => []
  | n :: ns =>
    let t := s.renderNode settings sub n
    s.events settings sub inner n ++
      if t.context.signal = .normal then t.eventsOfList ns else []

/-- What does not depend on the nodes around an event holds of the events of a node if it holds of
those inside of it, and of the node itself. -/
theorem forall_events {P : Event → Prop} (within : ∀ r e, P (e.within r) ↔ P e) (s : State)
    (n : Node) :
    (∀ e ∈ s.events settings sub inner n, P e) ↔
      P (.enter ⟨n, s, []⟩) ∧
        (∀ d ∈ s.descents settings sub n, ∀ e ∈ inner d.nodes d.state, P e) ∧
        P (.leave ⟨n, s, []⟩ (s.attempt settings sub n).1 (s.renderNode settings sub n)) := by
  simp only [events, List.forall_mem_append, List.forall_mem_cons, List.forall_mem_map,
    List.forall_mem_flatMap, within, and_assoc, List.not_mem_nil, false_imp_iff, implies_true,
    and_true]

/-- What is read off the events of a node is what is read off the events inside of it, and then off
the event that leaves it. -/
theorem filterMap_events {β : Type} {f : Event → Option β} (quiet : ∀ v, f (.enter v) = none)
    (within : ∀ r e, f (e.within r) = f e) (s : State) (n : Node) :
    (s.events settings sub inner n).filterMap f =
      (s.descents settings sub n).flatMap (fun d => (inner d.nodes d.state).filterMap f) ++
        (f (.leave ⟨n, s, []⟩ (s.attempt settings sub n).1
          (s.renderNode settings sub n))).toList := by
  have seen (r : Role) : f ∘ Event.within r = f := funext (within r)
  have last (e : Event) : [e].filterMap f = (f e).toList := by
    cases h : f e <;> simp [h]
  rw [events, List.filterMap_append, List.filterMap_cons_none (quiet _), List.filterMap_map, seen,
    List.filterMap_flatMap, last]

end State

end Events

/-- The events of a list of nodes with the given number of levels left. -/
def history (settings : Settings) : Nat → List Node → State → List Event
  | 0, _, _ => []
  | levels + 1, nodes, s =>
    s.eventsOfList settings (renderNodes settings levels) (history settings levels) nodes

/-- The events of a whole render. -/
def Environment.history (env : Environment) (template : Template) (assigns : Value)
    (options : RenderOptions) : List Event :=
  Stencil.history (env.settings options) maxLevels template.nodes
    (startState template assigns options)

/-- No level is lacking at the top, so that a render is never refused as a whole. -/
theorem Environment.finalState_eq (env : Environment) (template : Template) (assigns : Value)
    (options : RenderOptions) :
    env.finalState template assigns options =
      (renderNodes (env.settings options) maxLevels template.nodes
        (startState template assigns options)).2 := rfl

/-! ## Going through a history -/

/-- Where the nodes of a descent come to. -/
def Descent.exit (sub : Renderer) (d : Descent) : State := (sub d.nodes d.state).2

theorem Descent.exit_of_rendered {sub : Renderer} {nodes : List Node} {s t : State}
    {r : Except Error Unit} (rendered : sub nodes s = (r, t)) :
    Descent.exit sub ⟨nodes, s⟩ = t :=
  congrArg Prod.snd rendered

/-- Either all nodes are refused, before anything has happened, or none are. -/
def Renderer.IsUniform (sub : Renderer) : Prop :=
  (∀ nodes s, ∃ e, sub nodes s = (.error e, s)) ∨ ∀ nodes s, (sub nodes s).1 = .ok ()

/-- Nodes are not refused while levels are left. -/
theorem accepts_renderNodes (settings : Settings) (levels : Nat) (nodes : List Node) (s : State) :
    (renderNodes settings (levels + 1) nodes s).1 = .ok () := rfl

theorem isUniform_renderNodes (settings : Settings) (levels : Nat) :
    Renderer.IsUniform (renderNodes settings levels) := by
  cases levels with
  | zero => exact .inl fun _ _ => ⟨_, rfl⟩
  | succ levels => exact .inr (accepts_renderNodes settings levels)

theorem Renderer.IsUniform.state_of_refused {sub : Renderer} (isUniform : sub.IsUniform)
    {nodes : List Node} {s : State} {e : Error} (refused : (sub nodes s).1 = .error e) :
    (sub nodes s).2 = s := by
  rcases isUniform with refuses | accepts
  · obtain ⟨_, rendered⟩ := refuses nodes s
    rw [rendered]
  · rw [accepts] at refused
    cases refused

/-- What holds of the history of all nodes is what holds of nothing, and of a node with what comes
behind it, if it holds of a node as soon as it holds of what is rendered a level further down. -/
theorem history_induction {settings : Settings} {P : List Node → State → List Event → State → Prop}
    {Q : Node → State → List Event → State → Prop} (empty : ∀ nodes s, P nodes s [] s)
    (stop : ∀ n ns s es t, Q n s es t → t.context.signal ≠ .normal → P (n :: ns) s es t)
    (go : ∀ n ns s es t fs u, Q n s es t → t.context.signal = .normal → P ns t fs u →
      P (n :: ns) s (es ++ fs) u)
    (node : ∀ levels,
      (∀ nodes s, P nodes s (history settings levels nodes s)
        (renderNodes settings levels nodes s).2) →
      ∀ n s, Q n s (s.events settings (renderNodes settings levels) (history settings levels) n)
        (s.renderNode settings (renderNodes settings levels) n))
    (levels : Nat) (nodes : List Node) (s : State) :
    P nodes s (history settings levels nodes s) (renderNodes settings levels nodes s).2 := by
  induction levels generalizing nodes s with
  | zero => exact empty nodes s
  | succ levels ih =>
    have atNode := node levels ih
    show P nodes s (s.eventsOfList settings _ _ nodes) (s.renderList settings _ nodes)
    induction nodes generalizing s with
    | nil => exact empty [] s
    | cons n ns rest =>
      rw [State.eventsOfList, State.renderList]
      by_cases normal : (s.renderNode settings (renderNodes settings levels) n).context.signal =
          .normal
      · rw [if_pos normal, if_pos normal]
        exact go n ns s _ _ _ _ (atNode n s) normal (rest _)
      · rw [if_neg normal, if_neg normal, List.append_nil]
        exact stop n ns s _ _ (atNode n s) normal

end Stencil
