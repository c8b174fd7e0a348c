import Mathlib.Logic.Relation
import Stencil.Proofs.Render.Failures
import Stencil.Proofs.Render.Frame
import Stencil.Proofs.Render.Inheritance
import Stencil.Proofs.Render.Signals

/-!
# The last level

Templates that extend each other in a circle and blocks that stand in for themselves are rendered
level by level until no level is left.  Every render ends, with nothing but a counter to stop it
(`Counted.endsNodes_iff`), and a node that asks for a level too many is refused: it asks once,
nothing of that level is rendered, one error is reported for it, and then its following sibling is
rendered, unless the node is an extension.
-/

namespace Stencil

/-- Rendering with the given number of lists of nodes around. -/
def renderAt (settings : Settings) (depth : Nat) : Renderer :=
  renderNodes settings (maxLevels - depth)

theorem renderAt_of_lt (settings : Settings) {depth : Nat} (allowed : depth < maxLevels)
    (nodes : List Node) (s : State) :
    renderAt settings depth nodes s =
      (.ok (), s.renderList settings (renderAt settings (depth + 1)) nodes) := by
  have levels : maxLevels - depth = maxLevels - (depth + 1) + 1 := by omega
  rw [renderAt, levels]
  rfl

theorem renderAt_of_le (settings : Settings) {depth : Nat} (tooDeep : maxLevels ≤ depth)
    (nodes : List Node) (s : State) :
    renderAt settings depth nodes s = (.error Cause.recursionLimit, s) := by
  have none : maxLevels - depth = 0 := by omega
  rw [renderAt, none]
  rfl

/-! ## Rendering ends

The rules below say what a render does that keeps the depth as a counter, and nothing in them but
the counter keeps a render from going on forever.  A render ends if it can be derived by them. -/

namespace Counted

section Rules

variable (settings : Settings)

mutual

/-- A list of nodes comes to an end.  It is counted while it is rendered. -/
inductive EndsNodes : List Node → Counted → Except Error Unit → Counted → Prop
  | refused {nodes : List Node} {c : Counted} (tooDeep : maxLevels < c.depth + 1) :
    EndsNodes nodes c (.error Cause.recursionLimit) c
  | rendered {nodes : List Node} {c d : Counted} (allowed : c.depth + 1 ≤ maxLevels)
      (ends : EndsList nodes { c with depth := c.depth + 1 } d) :
    EndsNodes nodes c (.ok ()) { d with depth := d.depth - 1 }

/-- The nodes of a list come to an end, one after the other up to one that leaves a signal. -/
inductive EndsList : List Node → Counted → Counted → Prop
  | finished (c : Counted) : EndsList [] c c
  | left {n : Node} {ns : List Node} {c d : Counted} (ends : EndsNode n c d)
      (signal : d.state.context.signal ≠ .normal) : EndsList (n :: ns) c d
  | next {n : Node} {ns : List Node} {c d e : Counted} (ends : EndsNode n c d)
      (signal : d.state.context.signal = .normal) (rest : EndsList ns d e) :
    EndsList (n :: ns) c e

/-- A node comes to an end, and its failure is recovered from. -/
inductive EndsNode : Node → Counted → Counted → Prop
  | done {n : Node} {c d : Counted} (ends : EndsAction (n.action settings) c (.ok ()) d) :
    EndsNode n c d
  | failed {n : Node} {c d : Counted} {e : Error}
      (ends : EndsAction (n.action settings) c (.error e) d) :
    EndsNode n c { d with state := d.state.recover settings n.isVariable n.span? e }

/-- An action comes to an end.  None of its operations but `renderNodes` knows of the depth, so the
others are performed as with any renderer. -/
inductive EndsAction : Action Unit → Counted → Except Error Unit → Counted → Prop
  | done (c : Counted) : EndsAction (.done ()) c (.ok ()) c
  | fail (e : Error) (c : Counted) : EndsAction (.fail e) c (.error e) c
  | nodes {nodes : List Node} {next : Except Error Unit → Action Unit} {c d e : Counted}
      {r q : Except Error Unit} (ends : EndsNodes nodes c r d) (rest : EndsAction (next r) d q e) :
    EndsAction (.perform (.renderNodes nodes) next) c q e
  | step {op : Op} {next : op.Answer → Action Unit} {c d : Counted} {q : Except Error Unit}
      (other : ∀ nodes, op ≠ .renderNodes nodes)
      (rest : EndsAction (next (op.exec settings (renderNodes settings 0) c.state).1)
        { c with state := (op.exec settings (renderNodes settings 0) c.state).2 } q d) :
    EndsAction (.perform op next) c q d

end

variable {settings}

theorem exec_of_other {op : Op} (other : ∀ nodes, op ≠ .renderNodes nodes)
    (sub sub' : Stencil.Renderer) (s : State) : op.exec settings sub s = op.exec settings sub' s := by
  cases op with
  | renderNodes nodes => exact absurd rfl (other nodes)
  | _ => rfl

/-! ### What ends comes to what is rendered -/

mutual

theorem EndsNodes.eq_renderAt {nodes : List Node} {c d : Counted} {r : Except Error Unit} :
    EndsNodes settings nodes c r d →
      r = (renderAt settings c.depth nodes c.state).1 ∧
        d = ⟨(renderAt settings c.depth nodes c.state).2, c.depth⟩
  | .refused tooDeep => by
    rw [renderAt_of_le settings (by omega)]
    exact ⟨rfl, rfl⟩
  | .rendered allowed ends => by
    rw [renderAt_of_lt settings (by omega), ends.eq_renderList]
    exact ⟨rfl, rfl⟩

theorem EndsList.eq_renderList {nodes : List Node} {c d : Counted} :
    EndsList settings nodes c d →
      d = ⟨c.state.renderList settings (renderAt settings c.depth) nodes, c.depth⟩
  | .finished c => rfl
  | .left ends signal => by
    have first := ends.eq_renderNode
    subst first
    rw [State.renderList, if_neg signal]
  | .next ends signal rest => by
    have first := ends.eq_renderNode
    have others := rest.eq_renderList
    subst first
    rw [State.renderList, if_pos signal]
    exact others

theorem EndsNode.eq_renderNode {n : Node} {c d : Counted} :
    EndsNode settings n c d →
      d = ⟨c.state.renderNode settings (renderAt settings c.depth) n, c.depth⟩
  | .done ends => by
    have came := ends.eq_run
    rw [State.renderNode_eq, State.attempt_eq_run]
    rcases ran : (n.action settings).run settings (renderAt settings c.depth) c.state with ⟨r, t⟩
    rw [ran] at came
    obtain ⟨rfl, rfl⟩ := came
    rfl
  | .failed ends => by
    have came := ends.eq_run
    rw [State.renderNode_eq, State.attempt_eq_run]
    rcases ran : (n.action settings).run settings (renderAt settings c.depth) c.state with ⟨r, t⟩
    rw [ran] at came
    obtain ⟨rfl, rfl⟩ := came
    rfl

theorem EndsAction.eq_run {a : Action Unit} {c d : Counted} {r : Except Error Unit} :
    EndsAction settings a c r d →
      r = (a.run settings (renderAt settings c.depth) c.state).1 ∧
        d = ⟨(a.run settings (renderAt settings c.depth) c.state).2, c.depth⟩
  | .done c => ⟨rfl, rfl⟩
  | .fail e c => ⟨rfl, rfl⟩
  | .nodes ends rest => by
    have inner := ends.eq_renderAt
    have others := rest.eq_run
    obtain ⟨rfl, rfl⟩ := inner
    exact others
  | .step other rest => by
    have others := rest.eq_run
    rw [exec_of_other other _ (renderAt settings c.depth)] at others
    exact others

end

/-! ### What is rendered ends -/

/-- All lists of nodes end at this depth. -/
def EndsAt (settings : Settings) (depth : Nat) : Prop :=
  ∀ nodes s, EndsNodes settings nodes ⟨s, depth⟩ (renderAt settings depth nodes s).1
    ⟨(renderAt settings depth nodes s).2, depth⟩

variable {depth : Nat}

theorem EndsAt.action (inner : EndsAt settings depth) (a : Action Unit) (s : State) :
    EndsAction settings a ⟨s, depth⟩ (a.run settings (renderAt settings depth) s).1
      ⟨(a.run settings (renderAt settings depth) s).2, depth⟩ := by
  induction a generalizing s with
  | done => exact .done _
  | fail e => exact .fail e _
  | perform op next ih =>
    by_cases renders : ∃ nodes, op = .renderNodes nodes
    · obtain ⟨nodes, rfl⟩ := renders
      exact .nodes (inner nodes s) (ih _ _)
    · have other : ∀ nodes, op ≠ .renderNodes nodes := fun nodes same => renders ⟨nodes, same⟩
      refine .step other ?_
      rw [exec_of_other other _ (renderAt settings depth)]
      exact ih _ _

theorem EndsAt.node (inner : EndsAt settings depth) (n : Node) (s : State) :
    EndsNode settings n ⟨s, depth⟩
      ⟨s.renderNode settings (renderAt settings depth) n, depth⟩ := by
  have ends := inner.action (n.action settings) s
  rw [State.renderNode_eq, State.attempt_eq_run]
  rcases ran : (n.action settings).run settings (renderAt settings depth) s with ⟨e | _, t⟩ <;>
    rw [ran] at ends
  · exact .failed ends
  · exact .done ends

theorem EndsAt.list (inner : EndsAt settings depth) (nodes : List Node) (s : State) :
    EndsList settings nodes ⟨s, depth⟩
      ⟨s.renderList settings (renderAt settings depth) nodes, depth⟩ := by
  induction nodes generalizing s with
  | nil => exact .finished _
  | cons n ns ih =>
    rw [State.renderList]
    by_cases normal : (s.renderNode settings (renderAt settings depth) n).context.signal = .normal
    · rw [if_pos normal]
      exact .next (inner.node n s) normal (ih _)
    · rw [if_neg normal]
      exact .left (inner.node n s) normal

/-- The deepest lists come first: they are refused, and the others only render deeper ones. -/
theorem endsAt (settings : Settings) (depth : Nat) : EndsAt settings depth := by
  generalize left : maxLevels - depth = levels
  induction levels generalizing depth with
  | zero =>
    intro nodes s
    rw [renderAt_of_le settings (by omega)]
    exact .refused (show maxLevels < depth + 1 by omega)
  | succ levels ih =>
    intro nodes s
    have deeper := ih (depth + 1) (by omega)
    have allowed : depth + 1 ≤ maxLevels := by omega
    rw [renderAt_of_lt settings allowed]
    exact .rendered (c := ⟨s, depth⟩) allowed (deeper.list nodes s)

/-- Every list of nodes ends, at every depth and in one way: the counter is as it was, and the state
is the one that rendering the nodes comes to. -/
theorem endsNodes_iff {nodes : List Node} {s : State} {r : Except Error Unit} {c : Counted} :
    EndsNodes settings nodes ⟨s, depth⟩ r c ↔
      r = (renderAt settings depth nodes s).1 ∧ c = ⟨(renderAt settings depth nodes s).2, depth⟩ := by
  constructor
  · exact EndsNodes.eq_renderAt
  · rintro ⟨rfl, rfl⟩
    exact endsAt settings depth nodes s

end Rules

end Counted

/-! ## A node that is refused a level -/

/-- All nodes are refused, and nothing happens. -/
def Renderer.Refuses (sub : Renderer) (e : Error) : Prop := ∀ nodes s, sub nodes s = (.error e, s)

/-- The signal behind a node whose nodes are refused. -/
def Role.afterRefusal : Role → Signal → Signal
  | .parent _, _ => .extended
  | _, signal => signal

section Courses

variable {sub : Renderer} {e : Error} {n : Node} {role : Role} {s t : State} {ds : List Descent}
  {r : Except Error Unit}

/-- A node that has asked for nodes once and was refused. -/
structure Refusal (role : Role) (e : Error) (s : State) (ds : List Descent)
    (r : Except Error Unit) (t : State) : Prop where
  once : ∃ d, ds = [d]
  failed : r = .error e
  untouched : s.Untouched t
  signal : t.context.signal = role.afterRefusal s.context.signal

theorem Renderer.Refuses.ne_ok (refuses : sub.Refuses e) {nodes : List Node} :
    sub nodes s ≠ (.ok (), t) := by
  rw [refuses]
  exact nofun

theorem Renderer.Refuses.eq_of_rendered (refuses : sub.Refuses e) {nodes : List Node}
    {f : Error} (rendered : sub nodes s = (.error f, t)) : f = e ∧ t = s := by
  rw [refuses] at rendered
  obtain ⟨same, rfl⟩ := Prod.mk.inj rendered
  exact ⟨(Except.error.inj same).symm, rfl⟩

theorem Rounds.of_refuses (refuses : sub.Refuses e) {nodes : List Node}
    (rounds : Rounds sub nodes s ds r t) (asked : ds ≠ []) :
    Refusal .loop e s ds r t := by
  cases rounds with
  | finished => exact absurd rfl asked
  | refused rebinds rendered =>
    obtain ⟨rfl, rfl⟩ := refuses.eq_of_rendered rendered
    exact ⟨⟨_, rfl⟩, rfl, rebinds.untouched, rebinds.signal_eq⟩
  | next _ rendered => exact absurd rendered refuses.ne_ok
  | left _ rendered => exact absurd rendered refuses.ne_ok
  | extended _ rendered => exact absurd rendered refuses.ne_ok

theorem Sections.of_refuses (refuses : sub.Refuses e) (sections : Sections sub n s ds r t)
    (asked : ds ≠ []) : Refusal .choice e s ds r t := by
  cases sections with
  | finished => exact absurd rfl asked
  | undecided => exact absurd rfl asked
  | refused _ rendered =>
    obtain ⟨rfl, rfl⟩ := refuses.eq_of_rendered rendered
    exact ⟨⟨_, rfl⟩, rfl, .refl _, rfl⟩
  | next _ rendered => exact absurd rendered refuses.ne_ok
  | left _ rendered => exact absurd rendered refuses.ne_ok

/-- However many items or sections are left, a node that is refused asks no second time. -/
theorem Course.of_refuses (refuses : sub.Refuses e) (course : Course sub n role s ds r t)
    (asked : ds ≠ []) : Refusal role e s ds r t := by
  cases course with
  | refuse => exact absurd rfl asked
  | write => exact absurd rfl asked
  | raise => exact absurd rfl asked
  | descend _ holds =>
    rw [refuses]
    exact ⟨⟨_, rfl⟩, rfl, .refl s, rfl⟩
  | capture holds rebinds =>
    rw [refuses] at rebinds ⊢
    exact ⟨⟨_, rfl⟩, rfl, rebinds.untouched, rebinds.signal_eq⟩
  | choose sections => exact sections.of_refuses refuses asked
  | loop holds opens rounds closes =>
    obtain ⟨once, failed, untouched, signal⟩ := rounds.of_refuses refuses asked
    refine ⟨once, failed, ?_, ?_⟩
    · exact (opens.untouched.trans untouched).trans closes.untouched
    · rw [closes.signal_eq, signal]
      exact opens.signal_eq
  | extend _ parent =>
    rw [refuses]
    exact ⟨⟨_, rfl⟩, rfl, ⟨rfl, rfl, rfl⟩, rfl⟩
  | override bound =>
    rw [refuses]
    exact ⟨⟨_, rfl⟩, rfl, .refl s, rfl⟩

end Courses

/-! ### Extensions -/

/-- The node is left to the handler that extends templates. -/
def Node.IsExtension (registry : Registry) (n : Node) : Prop :=
  n.handler? registry = some Tags.extendsTag.handler

theorem Handler.IsBuiltin.eq_extends {h : Handler} (isBuiltin : h.IsBuiltin)
    (type : h.identity.type = "extends") : h = Tags.extendsTag.handler := by
  obtain ⟨name, bound⟩ := isBuiltin
  have listed := Table.mem_ofList (Table.mem_of_find? bound)
  simp only [List.mem_cons, List.not_mem_nil, or_false, Prod.mk.injEq] at listed
  rcases listed with ⟨-, rfl⟩ | ⟨-, rfl⟩ | ⟨-, rfl⟩ | ⟨-, rfl⟩ | ⟨-, rfl⟩ | ⟨-, rfl⟩ | ⟨-, rfl⟩ |
    ⟨-, rfl⟩ | ⟨-, rfl⟩ | ⟨-, rfl⟩ | ⟨-, rfl⟩ | ⟨-, rfl⟩ | ⟨-, rfl⟩
  case inr.inr.inr.inr.inr.inr.inr.inr.inr.inr.inr.inl => rfl
  all_goals exact absurd type (by decide)

section Extensions

variable {settings : Settings} {sub : Renderer} {s : State} {n : Node}

/-- An extension that does not find its parent asks for no nodes. -/
theorem Node.IsExtension.parent_of_asked (isExtension : n.IsExtension settings.environment.registry)
    (asked : s.descents settings sub n ≠ []) : ∃ p, s.role settings n = .parent p := by
  cases n with
  | text => cases isExtension
  | «variable» => cases isExtension
  | tag name markup payload span =>
    have bound : settings.environment.registry.find? name = some Tags.extendsTag.handler :=
      isExtension
    have role : s.role settings (.tag name markup payload span) =
        .ofParent ((Tags.parentOf payload).answer settings s) := by
      simp only [State.role, Node.handler?, Node.call?, bound]
      rfl
    simp only [State.descents, bound, Tags.render_extends,
      (Tags.looks_parentOf payload).descents_bind] at asked
    cases found : (Tags.parentOf payload).answer settings s with
    | ok p =>
      rw [role, found]
      exact ⟨p, rfl⟩
    | error e =>
      rw [found] at asked
      exact absurd rfl asked
  | block name markup payload span body clauses =>
    have bound : settings.environment.registry.find? name = some Tags.extendsTag.handler :=
      isExtension
    simp only [State.descents, bound] at asked
    exact absurd rfl asked

theorem Node.isExtension_of_parent (isBuiltin : settings.environment.registry.OnlyBuiltin)
    {p : Template} (isParent : s.role settings n = .parent p) :
    n.IsExtension settings.environment.registry := by
  unfold State.role at isParent
  split at isParent
  · next h c bound call =>
    rw [IsExtension, bound]
    have type := (Handler.extends_of_role isParent).1
    exact congrArg some ((isBuiltin.of_handler? n h bound).eq_extends type)
  · cases isParent

end Extensions

/-! ## Where a render comes to -/

/-- What is left of a list of nodes, the state before it, and how many lists are being rendered,
with this one. -/
structure Spot where
  depth : Nat
  nodes : List Node
  state : State

section Spots

variable (settings : Settings)

/-- The spots that come next. -/
inductive Spot.Leads : Spot → Spot → Prop
  /-- The node leaves no signal: its following sibling is next. -/
  | sibling {depth : Nat} {n : Node} {ns : List Node} {s : State}
    (goesOn : (s.renderNode settings (renderAt settings depth) n).context.signal = .normal) :
    Leads ⟨depth, n :: ns, s⟩ ⟨depth, ns, s.renderNode settings (renderAt settings depth) n⟩
  /-- The node asks for nodes, which are not refused. -/
  | inside {depth : Nat} {n : Node} {ns : List Node} {s : State} {d : Descent}
    (asked : d ∈ s.descents settings (renderAt settings depth) n)
    (accepted : (renderAt settings depth d.nodes d.state).1 = .ok ()) :
    Leads ⟨depth, n :: ns, s⟩ ⟨depth + 1, d.nodes, d.state⟩

/-- Rendering what is left at one spot comes to another. -/
def Spot.Reaches : Spot → Spot → Prop := Relation.ReflTransGen (Spot.Leads settings)

/-- No more lists are open than may be, and no signal is up. -/
structure Spot.Sound (p : Spot) : Prop where
  shallow : p.depth ≤ maxLevels
  normal : p.state.context.signal = .normal

variable {settings}

theorem Spot.Leads.sound (isBuiltin : settings.environment.registry.OnlyBuiltin) {p q : Spot}
    (leads : p.Leads settings q) (sound : p.Sound) : q.Sound := by
  cases leads with
  | sibling goesOn => exact ⟨sound.shallow, goesOn⟩
  | @inside depth n ns s d asked accepted =>
    have course := s.course settings (renderAt settings depth) (isBuiltin.of_handler? n)
    have passes := course.passesSignals (isUniform_renderNodes settings _) sound.normal
    refine ⟨?_, passes.1.started d asked⟩
    by_contra tooDeep
    have full : maxLevels ≤ depth := by
      have : ¬ depth + 1 ≤ maxLevels := tooDeep
      omega
    rw [renderAt_of_le settings full] at accepted
    cases accepted

/-- A render never has more lists of nodes open than it may. -/
theorem Spot.Reaches.sound (isBuiltin : settings.environment.registry.OnlyBuiltin) {p q : Spot}
    (reaches : p.Reaches settings q) (sound : p.Sound) : q.Sound := by
  induction reaches with
  | refl => exact sound
  | tail _ leads ih => exact leads.sound isBuiltin ih

/-- How many lists of nodes a node is rendered in: its own, and one for each node around it. -/
def Visit.depth (v : Visit) : Nat := v.around.length + 1

/-- Every node that a history tells of is reached from where the history begins. -/
theorem history_reaches (levels depth : Nat) (left : levels + depth = maxLevels + 1)
    (nodes : List Node) (s : State) :
    ∀ e ∈ history settings levels nodes s, ∃ siblings,
      Spot.Reaches settings ⟨depth, nodes, s⟩
        ⟨depth + e.visit.around.length, e.visit.node :: siblings, e.visit.state⟩ := by
  induction levels generalizing depth nodes s with
  | zero => exact fun _ h => absurd h List.not_mem_nil
  | succ levels ihLevels =>
    have sub : renderNodes settings levels = renderAt settings depth := by
      have : levels = maxLevels - depth := by omega
      rw [this, renderAt]
    show ∀ e ∈ s.eventsOfList settings (renderNodes settings levels) (history settings levels) nodes,
      _
    induction nodes generalizing s with
    | nil => exact fun _ h => absurd h List.not_mem_nil
    | cons n ns ihNodes =>
      intro e he
      rw [State.eventsOfList] at he
      rcases List.mem_append.1 he with he | he
      · rcases List.mem_append.1 he with he | he
        · rcases List.mem_cons.1 he with rfl | he
          · exact ⟨ns, .refl⟩
          · -- Inside of the node the list is one level further down.
            obtain ⟨f, hf, rfl⟩ := List.mem_map.1 he
            obtain ⟨d, asked, hf⟩ := List.mem_flatMap.1 hf
            obtain ⟨siblings, reaches⟩ := ihLevels (depth + 1) (by omega) d.nodes d.state f hf
            have accepted : (renderNodes settings levels d.nodes d.state).1 = .ok () := by
              cases levels with
              | zero => exact absurd hf List.not_mem_nil
              | succ levels => exact accepts_renderNodes settings levels d.nodes d.state
            rw [sub] at asked accepted
            refine ⟨siblings, ?_⟩
            rw [Event.visit_within, List.length_append, List.length_singleton]
            have first : Spot.Leads settings ⟨depth, n :: ns, s⟩ ⟨depth + 1, d.nodes, d.state⟩ :=
              .inside asked accepted
            have deeper : depth + 1 + f.visit.around.length =
                depth + (f.visit.around.length + 1) := by omega
            rw [deeper] at reaches
            exact .head first reaches
        · rw [List.mem_singleton.1 he]
          exact ⟨ns, .refl⟩
      · split at he
        · next normal =>
          obtain ⟨siblings, reaches⟩ := ihNodes _ e he
          rw [sub] at normal reaches
          exact ⟨siblings, .head (.sibling normal) reaches⟩
        · exact absurd he List.not_mem_nil

end Spots

/-! ## The last level -/

section LastLevel

variable (settings : Settings) (s : State) (n : Node)

/-- The error of a node that asks for nodes where no level is left. -/
def State.limitError : Error := s.placed n.span? Cause.recursionLimit

/-- The state behind a node of the last level. -/
def State.behind : State := s.renderNode settings (renderAt settings maxLevels) n

/-- What comes of a node that asks for nodes where no level is left. -/
structure State.ReportsLimit : Prop where
  /-- It asks once, and it is refused. -/
  refused : ∃ d, s.descents settings (renderAt settings maxLevels) n = [d] ∧
    renderAt settings maxLevels d.nodes d.state = (.error Cause.recursionLimit, d.state)
  /-- No other node is rendered between entering it and leaving it. -/
  events : s.events settings (renderAt settings maxLevels) (history settings 0) n =
    [.enter ⟨n, s, []⟩, .leave ⟨n, s, []⟩ (.error Cause.recursionLimit) (s.behind settings n)]
  kind : (s.limitError n).kind = .invalidOperation
  detail : (s.limitError n).detail = some "recursion limit exceeded"
  /-- The error is located at the node, which is a tag or a block. -/
  location : n.call?.isSome ∧ ∃ span, n.span? = some span ∧
    (s.limitError n).location = some ⟨s.context.template.name, span.start.line⟩
  /-- In strict mode nothing happens but that the error is recorded. -/
  strict : settings.environment.errorMode = .strict → (s.behind settings n).output = s.output ∧
    (s.behind settings n).context.errors = s.context.errors ++ [s.limitError n]
  /-- In lax mode nothing happens but that its message is written. -/
  lax : settings.environment.errorMode = .lax →
    (s.behind settings n).output = s.output.write (s.limitError n).inlineMessage ∧
      (s.behind settings n).context.errors = s.context.errors
  /-- The following sibling is next, unless the node is an extension. -/
  goesOn : ¬ n.IsExtension settings.environment.registry → ∀ siblings,
    Spot.Leads settings ⟨maxLevels, n :: siblings, s⟩ ⟨maxLevels, siblings, s.behind settings n⟩
  extended : n.IsExtension settings.environment.registry →
    (s.behind settings n).context.signal = .extended

end LastLevel

section Refused

variable {settings : Settings} {s : State} {n : Node}

theorem State.events_of_refused {outcome : Except Error Unit}
    (failed : (s.attempt settings (renderAt settings maxLevels) n).1 = outcome) :
    s.events settings (renderAt settings maxLevels) (history settings 0) n =
      [.enter ⟨n, s, []⟩, .leave ⟨n, s, []⟩ outcome (s.behind settings n)] := by
  have nothing : ((s.descents settings (renderAt settings maxLevels) n).flatMap fun d =>
      history settings 0 d.nodes d.state) = [] := by
    simp [history]
  rw [State.events, nothing, failed]
  rfl

theorem State.call_of_asked {sub : Renderer} (asked : s.descents settings sub n ≠ []) :
    n.call?.isSome ∧ n.isVariable = false ∧ ∃ span, n.span? = some span := by
  cases n with
  | text => exact absurd rfl asked
  | «variable» => exact absurd rfl asked
  | tag => exact ⟨rfl, rfl, _, rfl⟩
  | block => exact ⟨rfl, rfl, _, rfl⟩

theorem State.reportsLimit (isBuiltin : settings.environment.registry.OnlyBuiltin)
    (normal : s.context.signal = .normal)
    (asked : s.descents settings (renderAt settings maxLevels) n ≠ []) :
    s.ReportsLimit settings n := by
  have refuses : (renderAt settings maxLevels).Refuses Cause.recursionLimit :=
    renderAt_of_le settings (Nat.le_refl maxLevels)
  have course := s.course settings (renderAt settings maxLevels) (isBuiltin.of_handler? n)
  obtain ⟨⟨d, once⟩, failed, untouched, signal⟩ := course.of_refuses refuses asked
  obtain ⟨isCall, notVariable, span, spanned⟩ := State.call_of_asked asked
  have behind : s.behind settings n =
      (s.attempt settings (renderAt settings maxLevels) n).2.recover settings false n.span?
        Cause.recursionLimit := by
    rw [State.behind, renderNode_of_failed (Prod.ext failed rfl), notVariable]
  have signalBehind : (s.behind settings n).context.signal =
      (s.role settings n).afterRefusal .normal := by
    rw [State.behind, State.signal_renderNode, signal, normal]
  have placed : (s.attempt settings (renderAt settings maxLevels) n).2.placed n.span?
      Cause.recursionLimit = s.limitError n := by
    unfold State.limitError State.placed
    rw [untouched.template]
  have located : s.limitError n =
      (Cause.recursionLimit : Error).locatedAt s.context.template.name span.start.line := by
    rw [State.limitError, spanned]
    rfl
  constructor
  case refused => exact ⟨d, once, refuses d.nodes d.state⟩
  case events => exact State.events_of_refused failed
  case kind => rw [located]; rfl
  case detail => rw [located]; rfl
  case location => exact ⟨isCall, span, spanned, by rw [located]; rfl⟩
  case strict =>
    intro strict
    rw [behind, recover_of_strict strict, placed]
    refine ⟨untouched.output, ?_⟩
    show (Context.record _ _).errors = _
    rw [Context.errors_record, Context.errors, untouched.failures]
    rfl
  case lax =>
    intro lax
    have message : (s.limitError n).inlineMessage =
        (Cause.recursionLimit : Error).inlineMessage := by
      rw [located]
      rfl
    rw [behind, recover_of_lax lax, message]
    refine ⟨congrArg (Output.write · _) untouched.output, ?_⟩
    show Context.errors _ = _
    rw [Context.errors, Context.errors, State.context_write, untouched.failures]
  case goesOn =>
    intro notExtension siblings
    refine .sibling (signalBehind.trans ?_)
    cases role : s.role settings n with
    | parent p => exact absurd (Node.isExtension_of_parent isBuiltin role) notExtension
    | _ => rfl
  case extended =>
    intro isExtension
    obtain ⟨p, isParent⟩ := isExtension.parent_of_asked asked
    rw [signalBehind, isParent]
    rfl

end Refused

/-! ## Whole renders -/

namespace Environment

/-- How far down a render goes, and what becomes of the nodes that ask for more. -/
structure BoundsLevels (env : Environment) (template : Template) (assigns : Value)
    (options : RenderOptions) : Prop where
  /-- With nothing but a counter to stop it, the render comes to its final state. -/
  ends : ∀ r c, Counted.EndsNodes (env.settings options) template.nodes
    ⟨startState template assigns options, 0⟩ r c ↔
      r = .ok () ∧ c = ⟨env.finalState template assigns options, 0⟩
  /-- No node is rendered in more lists than there are levels. -/
  shallow : ∀ e ∈ env.history template assigns options, e.visit.depth ≤ maxLevels
  reached : ∀ e ∈ env.history template assigns options, ∃ siblings,
    Spot.Reaches (env.settings options) ⟨1, template.nodes, startState template assigns options⟩
      ⟨e.visit.depth, e.visit.node :: siblings, e.visit.state⟩
  /-- A node of the last level that asks for nodes reports that there is no level left. -/
  refused : ∀ n siblings s,
    Spot.Reaches (env.settings options) ⟨1, template.nodes, startState template assigns options⟩
      ⟨maxLevels, n :: siblings, s⟩ →
    s.descents (env.settings options) (renderAt (env.settings options) maxLevels) n ≠ [] →
    s.ReportsLimit (env.settings options) n

/-- With the built-in handlers every render is bounded, whatever templates are stored. -/
theorem boundsLevels (env : Environment) (isBuiltin : env.registry.OnlyBuiltin)
    (template : Template) (assigns : Value) (options : RenderOptions) :
    env.BoundsLevels template assigns options := by
  let first : Spot := ⟨1, template.nodes, startState template assigns options⟩
  have start : first.Sound := ⟨by show 1 ≤ maxLevels; decide, rfl⟩
  have reached : ∀ e ∈ env.history template assigns options, ∃ siblings,
      first.Reaches (env.settings options)
        ⟨e.visit.depth, e.visit.node :: siblings, e.visit.state⟩ := by
    intro e he
    obtain ⟨siblings, reaches⟩ := history_reaches maxLevels 1 rfl template.nodes _ e he
    rw [Nat.add_comm] at reaches
    exact ⟨siblings, reaches⟩
  constructor
  case ends => exact fun _ _ => Counted.endsNodes_iff
  case shallow =>
    intro e he
    obtain ⟨siblings, reaches⟩ := reached e he
    exact (Spot.Reaches.sound isBuiltin reaches start).shallow
  case reached => exact reached
  case refused =>
    intro n siblings s reaches asked
    exact State.reportsLimit isBuiltin (Spot.Reaches.sound isBuiltin reaches start).normal asked

/-- A template that extends itself. -/
def circlePage : Template := .ofNodes "circle" [
  .tag "extends" "'circle'" (.expr (.const (.string "circle"))) ⟨⟨1, 0⟩, ⟨1, 22⟩⟩]

/-- The standard environment in strict mode with the template that extends itself. -/
def circleEnvironment : Environment :=
  { standard with templates := [("circle", circlePage)], errorMode := .strict }

theorem boundsLevels_circlePage :
    circleEnvironment.registry.OnlyBuiltin ∧
      circleEnvironment.BoundsLevels circlePage .none .default :=
  ⟨Registry.onlyBuiltin_builtin,
    boundsLevels circleEnvironment Registry.onlyBuiltin_builtin circlePage .none .default⟩

/-- The last of the extensions is refused, and the others end with it. -/
example : (circleEnvironment.finalState circlePage .none .default).context.failures =
    [⟨.recursionLimit, some ⟨"circle", 1⟩, []⟩] := by decide +kernel

end Environment

end Stencil
