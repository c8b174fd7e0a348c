import Stencil.Proofs.Render.History
import Stencil.Proofs.Render.Simulation

/-!
# What rendering leaves alone

With the built-in handlers, rendering nodes closes every scope and every capture that it opens and
comes back to the template that it was in, whatever signals are left and whatever fails.  It only
adds to the innermost output, to the errors and to the overrides (`State.Frame`).

How deep lists of nodes are nested is not part of a state: `renderNodes` gets the levels that are
left.  `Counted.Counts` says what it is to keep the depth as a counter instead, and there is one way
to do it (`Counted.counts_iff`): the counter is handed back as it was.
-/

namespace Stencil

/-! ## Output that grows -/

/-- Text has been added behind all other. -/
inductive Sink.Grows : Sink → Sink → Prop
  | joined (text more : String) : Grows (.joined text) (.joined (text ++ more))
  | fragments (parts more : List String) : Grows (.fragments parts) (.fragments (more ++ parts))

/-- Text has been added to the innermost capture, or to the sink if there is none. -/
inductive Output.Grows : Output → Output → Prop
  | sink {s t : Sink} (grows : s.Grows t) : Grows ⟨s, []⟩ ⟨t, []⟩
  | capture (s : Sink) (text more : String) (cs : List String) :
    Grows ⟨s, text :: cs⟩ ⟨s, (text ++ more) :: cs⟩

namespace Sink.Grows

theorem refl (s : Sink) : s.Grows s := by
  cases s with
  | joined text => simpa using joined text ""
  | fragments parts => exact fragments parts []

theorem trans {s t u : Sink} (first : s.Grows t) (second : t.Grows u) : s.Grows u := by
  cases first with
  | joined text more =>
    cases second with
    | joined _ others =>
      rw [String.append_assoc]
      exact .joined text (more ++ others)
  | fragments parts more =>
    cases second with
    | fragments _ others =>
      rw [← List.append_assoc]
      exact .fragments parts (others ++ more)

theorem write (s : Sink) (text : String) : s.Grows (s.write text) := by
  cases s with
  | joined t => exact joined t text
  | fragments parts =>
    by_cases empty : text = ""
    · simpa [Sink.write, empty] using fragments parts []
    · simpa [Sink.write, empty] using fragments parts [text]

end Sink.Grows

/-- The output without its innermost captures. -/
def Output.below (o : Output) (n : Nat) : Output := { o with captures := o.captures.drop n }

namespace Output.Grows

theorem refl (o : Output) : o.Grows o := by
  obtain ⟨s, captures⟩ := o
  cases captures with
  | nil => exact .sink (.refl s)
  | cons text cs => simpa using capture s text "" cs

theorem trans {o p q : Output} (first : o.Grows p) (second : p.Grows q) : o.Grows q := by
  cases first with
  | sink grows =>
    cases second with
    | sink more => exact .sink (grows.trans more)
  | capture s text more cs =>
    cases second with
    | capture _ _ others _ =>
      rw [String.append_assoc]
      exact .capture s text (more ++ others) cs

theorem write (o : Output) (text : String) : o.Grows (o.write text) := by
  obtain ⟨s, captures⟩ := o
  cases captures with
  | nil => exact .sink (.write s text)
  | cons first cs => exact .capture s first text cs

theorem length_captures {o p : Output} (grows : o.Grows p) :
    p.captures.length = o.captures.length := by
  cases grows <;> rfl

theorem below {o p : Output} (grows : o.Grows p) (n : Nat) : (o.below n).Grows (p.below n) := by
  cases n with
  | zero => exact grows
  | succ n =>
    cases grows with
    | sink grows => exact .sink grows
    | capture s text more cs => exact .refl _

end Output.Grows

/-! ## The frame -/

namespace State

/-- What the state is like after nodes, as seen from the state before them. -/
structure Frame (s t : State) : Prop where
  scopes : t.context.locals = s.context.locals
  template : t.context.template = s.context.template
  assigns : t.context.assigns = s.context.assigns
  captures : t.output.captures.length = s.output.captures.length
  output : s.output.Grows t.output
  errors : s.context.errors <+: t.context.errors
  overrides : ∀ name nodes, Table.find? s.context.overrides name = some nodes →
    Table.find? t.context.overrides name = some nodes

/-- The state without the scopes and captures that have been opened. -/
def below (t : State) (i : Opened) : State where
  context := { t.context with locals := t.context.locals.drop i.scopes }
  output := t.output.below i.captures

namespace Frame

theorem refl (s : State) : s.Frame s :=
  ⟨rfl, rfl, rfl, rfl, .refl _, List.prefix_rfl, fun _ _ h => h⟩

theorem trans {s t u : State} (first : s.Frame t) (second : t.Frame u) : s.Frame u where
  scopes := second.scopes.trans first.scopes
  template := second.template.trans first.template
  assigns := second.assigns.trans first.assigns
  captures := second.captures.trans first.captures
  output := first.output.trans second.output
  errors := first.errors.trans second.errors
  overrides name nodes bound := second.overrides name nodes (first.overrides name nodes bound)

theorem below {t u : State} (frame : t.Frame u) (i : Opened) : (t.below i).Frame (u.below i) where
  scopes := congrArg (List.drop i.scopes) frame.scopes
  template := frame.template
  assigns := frame.assigns
  captures := (frame.output.below i.captures).length_captures
  output := frame.output.below i.captures
  errors := frame.errors
  overrides := frame.overrides

theorem write (s : State) (text : String) : s.Frame (s.write text) where
  scopes := rfl
  template := rfl
  assigns := rfl
  captures := (Output.Grows.write s.output text).length_captures
  output := .write s.output text
  errors := List.prefix_rfl
  overrides _ _ bound := bound

theorem recover (settings : Settings) (ofVariable : Bool) (span : Option Span) (e : Error)
    (s : State) : s.Frame (s.recover settings ofVariable span e) := by
  unfold State.recover
  cases settings.environment.errorMode with
  | lax => exact write ..
  | strict =>
    have errors : s.context.errors <+: (s.context.record (s.placed span e)).errors := by simp
    exact { refl s with errors := errors }

/-- The nodes of a parent are rendered with more overrides than before, and the template that
extends it is restored behind them. -/
theorem leaveParent {s t : State} {parent : Template} (inner : (s.enterParent parent).Frame t) :
    s.Frame (t.leaveParent s.context.template) where
  scopes := inner.scopes
  template := rfl
  assigns := inner.assigns
  captures := inner.captures
  output := inner.output
  errors := inner.errors
  overrides name nodes bound := by
    have kept : Table.find? (s.enterParent parent).context.overrides name = some nodes := by
      show Table.find? (List.foldl _ _ _) name = _
      rw [Table.find?_foldl_setNew, bound]
      rfl
    exact inner.overrides name nodes kept

end Frame

end State

/-! ## Actions within the frame -/

/-- Rendering nodes stays within the frame. -/
def Renderer.Frames (sub : Renderer) : Prop := ∀ nodes (s : State), s.Frame (sub nodes s).2

section Actions

variable {settings : Settings} {sub : Renderer}

/-- An operation changes nothing below what is open. -/
theorem Op.Moves.frame {op : Op} {i j : Opened} (moves : op.Moves i j) (t : State) :
    (t.below i).Frame ((op.exec settings sub t).2.below j) := by
  have same (s : State) : s.Frame s := .refl s
  cases moves with
  | write s i => exact (State.Frame.write t s).below i
  | setLocal name v m n =>
    -- Without a scope the variable is bound globally, and with one in the innermost.
    obtain ⟨⟨template, assigns, globals, locals, _⟩, o⟩ := t
    cases locals <;> exact { same _ with }
  | popScope m n =>
    obtain ⟨⟨template, assigns, globals, locals, _⟩, o⟩ := t
    cases locals with
    | nil => simpa [State.below, Op.exec, State.update, Context.popScope] using same _
    | cons => exact same _
  | endCapture m n =>
    obtain ⟨c, ⟨sink, captures⟩⟩ := t
    cases captures with
    | nil => simpa [State.below, Op.exec, Output.endCapture, Output.below] using same _
    | cons => exact same _
  | _ => exact { same _ with }

/-- An action that closes what it opens stays within the frame, wherever it fails, if the nodes do
that it asks to render. -/
theorem Action.Alike.frame (settings : Settings) {α β : Type} {A : α → β → Prop} {i j : Opened}
    {a : Action α} {b : Action β} (alike : a.Alike .same A i j b) {s t : State}
    (keeps : ∀ d ∈ a.descents settings sub t, d.state.Frame (d.exit sub))
    (frame : s.Frame (t.below i)) :
    match a.run settings sub t with
    | (.ok x, u) => (∃ y, A x y) ∧ s.Frame (u.below j)
    | (.error _, u) => s.Frame u := by
  induction alike generalizing s t with
  | @done _ _ _ _ y related => exact ⟨⟨y, related⟩, frame⟩
  | fail => exact frame
  | @bind _ _ _ _ A B i j k a b f g first rest ihFirst ihRest =>
    rw [Action.descents_bind] at keeps
    have after := ihFirst (fun d hd => keeps d (List.mem_append_left _ hd)) frame
    rw [Action.run_bind]
    rcases ran : a.run settings sub t with ⟨e | x, u⟩ <;> rw [ran] at after keeps
    · exact after
    · obtain ⟨⟨y, related⟩, frame⟩ := after
      exact ihRest x y related (fun d hd => keeps d (List.mem_append_right _ hd)) frame
  | ask moves => exact ⟨⟨_, rfl⟩, frame.trans (moves.frame t)⟩
  | @render ns _ related i =>
    exact ⟨⟨_, rfl⟩, frame.trans ((keeps ⟨ns, t⟩ (List.mem_singleton.2 rfl)).below i)⟩
  | override name i => exact ⟨⟨_, Likeness.same_option _⟩, frame⟩
  | find name => exact ⟨⟨_, .refl _⟩, frame⟩
  | @extend p _ related =>
    obtain ⟨ran, asked⟩ := @Tags.run_renderParent settings sub t p
    rw [asked] at keeps
    rw [ran]
    have inner := keeps ⟨p.nodes, t.enterParent p⟩ (List.mem_singleton.2 rfl)
    have after := frame.trans (State.Frame.leaveParent inner)
    cases outcome : (sub p.nodes (t.enterParent p)).1 with
    | error e => exact after
    | ok => exact ⟨⟨_, rfl⟩, after⟩

theorem Node.alike_same (n : Node) : n.Alike .same n := by
  cases n with
  | text t => exact .text t
  | «variable» v span => exact .variable v span
  | tag name markup payload span => exact .tag name markup payload span
  | block name markup payload span body clauses =>
    exact .block name markup payload span rfl (List.forall₂_same.2 fun _ _ => ⟨rfl, rfl, rfl, rfl⟩)

theorem State.frame_attempt {s : State} {n : Node}
    (isBuiltin : ∀ h, n.handler? settings.environment.registry = some h → h.IsBuiltin)
    (keeps : ∀ d ∈ s.descents settings sub n, d.state.Frame (d.exit sub)) :
    s.Frame (s.attempt settings sub n).2 := by
  rw [descents_eq] at keeps
  have after := (Node.alike_action isBuiltin n.alike_same).frame settings keeps (State.Frame.refl s)
  rw [attempt_eq_run]
  rcases ran : (n.action settings).run settings sub s with ⟨_ | _, t⟩ <;> rw [ran] at after
  · exact after
  · exact after.2

theorem State.frame_renderNode {s : State} {n : Node}
    (isBuiltin : ∀ h, n.handler? settings.environment.registry = some h → h.IsBuiltin)
    (keeps : ∀ d ∈ s.descents settings sub n, d.state.Frame (d.exit sub)) :
    s.Frame (s.renderNode settings sub n) := by
  have attempted := frame_attempt isBuiltin keeps
  rw [renderNode_eq]
  rcases ran : s.attempt settings sub n with ⟨e | _, t⟩ <;> rw [ran] at attempted
  · exact attempted.trans (.recover ..)
  · exact attempted

end Actions

/-! ## Nodes within the frame -/

/-- The node of the event has a built-in handler or none. -/
def Event.IsBuiltin (settings : Settings) (e : Event) : Prop :=
  ∀ h, e.visit.node.handler? settings.environment.registry = some h → h.IsBuiltin

theorem Event.isBuiltin_within (settings : Settings) (r : Role) (e : Event) :
    (e.within r).IsBuiltin settings ↔ e.IsBuiltin settings := by
  rw [IsBuiltin, visit_within]
  rfl

/-- Nodes stay within the frame if all that is come to in rendering them has built-in handlers. -/
theorem frame_of_history {settings : Settings} (levels : Nat) (nodes : List Node) (s : State) :
    (∀ e ∈ history settings levels nodes s, e.IsBuiltin settings) →
      s.Frame (renderNodes settings levels nodes s).2 := by
  refine history_induction
    (P := fun _ s es t => (∀ e ∈ es, e.IsBuiltin settings) → s.Frame t)
    (Q := fun _ s es t => (∀ e ∈ es, e.IsBuiltin settings) → s.Frame t)
    (fun _ s _ => .refl s) (fun _ _ _ _ _ ofNode _ => ofNode) ?_ ?_ levels nodes s
  · intro n ns s es t fs u first normal rest all
    exact (first fun e he => all e (List.mem_append_left _ he)).trans
      (rest fun e he => all e (List.mem_append_right _ he))
  · intro levels inner n s all
    rw [State.forall_events settings _ _ (Event.isBuiltin_within settings)] at all
    exact State.frame_renderNode all.1 fun d hd => inner d.nodes d.state (all.2.1 d hd)

theorem frames_renderNodes {settings : Settings}
    (isBuiltin : settings.environment.registry.OnlyBuiltin) (levels : Nat) :
    (renderNodes settings levels).Frames := fun nodes s =>
  frame_of_history levels nodes s fun e _ => isBuiltin.of_handler? e.visit.node

/-! ## The depth as a counter -/

/-- A state of a render with the number of lists of nodes that are being rendered. -/
structure Counted where
  state : State
  depth : Nat

namespace Counted

/-- A way to render a list of nodes that keeps count of the depth. -/
abbrev Renderer := List Node → Counted → Except Error Unit × Counted

section Rendering

variable (settings : Settings) (render : Renderer)

/-- Performs an operation.  None but `renderNodes` knows of the depth. -/
def exec : (op : Op) → Counted → op.Answer × Counted
  | .renderNodes nodes, c => render nodes c
  | op, c =>
    -- Any renderer would do: no other operation renders.
    let r := op.exec settings (renderNodes settings 0) c.state
    (r.1, { c with state := r.2 })

def run {α : Type} : Action α → Counted → Except Error α × Counted
  | .done a, c => (.ok a, c)
  | .fail e, c => (.error e, c)
  | .perform op next, c =>
    let r := exec settings render op c
    run (next r.1) r.2

def renderNode (c : Counted) (n : Node) : Counted :=
  match run settings render (n.action settings) c with
  | (.ok (), d) => d
  | (.error e, d) => { d with state := d.state.recover settings n.isVariable n.span? e }

def renderList (c : Counted) : List Node → Counted
  | [] => c
  | n :: ns =>
    let d := c.renderNode settings render n
    if d.state.context.signal = .normal then d.renderList ns else d

/-- Each list of nodes is counted while it is rendered, and refused if there are too many. -/
def Counts : Prop :=
  ∀ nodes c, render nodes c =
    if maxLevels < c.depth + 1 then (.error Cause.recursionLimit, c)
    else
      let d := renderList settings render { c with depth := c.depth + 1 } nodes
      (.ok (), { d with depth := d.depth - 1 })

end Rendering

section Lifting

variable {settings : Settings} {render : Renderer} {sub : Stencil.Renderer} {depth : Nat}

/-- At the given depth, what renders with a counter does what another does without. -/
def Lifts (render : Renderer) (sub : Stencil.Renderer) (depth : Nat) : Prop :=
  ∀ nodes s, render nodes ⟨s, depth⟩ = ((sub nodes s).1, ⟨(sub nodes s).2, depth⟩)

theorem Lifts.exec_eq (lifts : Lifts render sub depth) (op : Op) (s : State) :
    exec settings render op ⟨s, depth⟩ =
      ((op.exec settings sub s).1, ⟨(op.exec settings sub s).2, depth⟩) := by
  cases op
  case renderNodes nodes => exact lifts nodes s
  all_goals rfl

theorem Lifts.run_eq (lifts : Lifts render sub depth) {α : Type} (a : Action α) (s : State) :
    run settings render a ⟨s, depth⟩ =
      ((a.run settings sub s).1, ⟨(a.run settings sub s).2, depth⟩) := by
  induction a generalizing s with
  | done => rfl
  | fail => rfl
  | perform op next ih =>
    rw [run, lifts.exec_eq]
    exact ih _ _

theorem Lifts.renderNode_eq (lifts : Lifts render sub depth) (s : State) (n : Node) :
    renderNode settings render ⟨s, depth⟩ n = ⟨s.renderNode settings sub n, depth⟩ := by
  rw [renderNode, lifts.run_eq, State.renderNode_eq, State.attempt_eq_run]
  rcases (n.action settings).run settings sub s with ⟨e | _, t⟩ <;> rfl

theorem Lifts.renderList_eq (lifts : Lifts render sub depth) (nodes : List Node) (s : State) :
    renderList settings render ⟨s, depth⟩ nodes = ⟨s.renderList settings sub nodes, depth⟩ := by
  induction nodes generalizing s with
  | nil => rfl
  | cons n ns ih =>
    rw [renderList, lifts.renderNode_eq, State.renderList]
    by_cases normal : (s.renderNode settings sub n).context.signal = .normal
    · simp only [normal, if_true]
      exact ih _
    · simp only [normal, if_false]

/-- Counting the depth is nothing but knowing how many levels are left: the counter is handed back
as it was, whatever is rendered. -/
theorem counts_iff : Counts settings render ↔
    ∀ depth, Lifts render (renderNodes settings (maxLevels - depth)) depth := by
  constructor
  · intro counts depth
    -- The deepest lists come first: they are refused, and the others only render deeper ones.
    generalize left : maxLevels - depth = levels
    induction levels generalizing depth with
    | zero =>
      intro nodes s
      have tooDeep : maxLevels < depth + 1 := by omega
      rw [counts, if_pos tooDeep]
      rfl
    | succ levels ih =>
      intro nodes s
      have allowed : ¬ maxLevels < depth + 1 := by omega
      have deeper := ih (depth + 1) (by omega)
      rw [counts, if_neg allowed]
      simp only [deeper.renderList_eq]
      rfl
  · intro lifts nodes c
    obtain ⟨s, depth⟩ := c
    rw [lifts depth]
    by_cases tooDeep : maxLevels < depth + 1
    · rw [if_pos tooDeep, show maxLevels - depth = 0 by omega]
      rfl
    · rw [if_neg tooDeep, show maxLevels - depth = maxLevels - (depth + 1) + 1 by omega]
      simp only [(lifts (depth + 1)).renderList_eq]
      rfl

/-- There is one way to count: to do what `renderNodes` does and to hand the counter back. -/
theorem existsUnique_counts (settings : Settings) : ∃! render, Counts settings render := by
  let counting : Renderer := fun nodes c =>
    let r := Stencil.renderNodes settings (maxLevels - c.depth) nodes c.state
    (r.1, ⟨r.2, c.depth⟩)
  refine ⟨counting, counts_iff.2 fun _ _ _ => rfl, fun render counts => ?_⟩
  funext nodes c
  exact counts_iff.1 counts c.depth nodes c.state

end Lifting

end Counted

/-! ## What a list of nodes leaves alone -/

/-- Whatever comes of nodes, rendering them stays within the frame.  Where the depth is kept as a
counter, it is handed back with the state. -/
theorem renderNodes_leaves_frame {settings : Settings}
    (isBuiltin : settings.environment.registry.OnlyBuiltin) (nodes : List Node) (s : State) :
    (∀ levels, s.Frame (renderNodes settings levels nodes s).2) ∧
      (∃! render, Counted.Counts settings render) ∧
      ∀ render, Counted.Counts settings render → ∀ depth, render nodes ⟨s, depth⟩ =
        ((renderNodes settings (maxLevels - depth) nodes s).1,
          ⟨(renderNodes settings (maxLevels - depth) nodes s).2, depth⟩) :=
  ⟨fun levels => frames_renderNodes isBuiltin levels nodes s, Counted.existsUnique_counts settings,
    fun _ counts depth => Counted.counts_iff.1 counts depth nodes s⟩

/-- A loop that is left from inside of a capture. -/
def leftInCapture : Template := .ofNodes "page" [
  .block "for" "i in (1..3)"
    (.loop ⟨"i", .range (.const (.int 1)) (.const (.int 3)), none, none, false⟩)
    ⟨⟨1, 0⟩, ⟨1, 21⟩⟩ [
      .block "capture" "c" (.text "c") ⟨⟨1, 21⟩, ⟨1, 36⟩⟩ [
        .text "in", .tag "break" "" .unit ⟨⟨1, 38⟩, ⟨1, 49⟩⟩] []] []]

/-- The loop has closed its scope and the capture that it was left from. -/
theorem renderNodes_leaves_frame_leftInCapture :
    Environment.standard.registry.OnlyBuiltin ∧
      (Environment.startState leftInCapture .none .default).Frame
        (Environment.standard.finalState leftInCapture .none .default) :=
  ⟨Registry.onlyBuiltin_builtin,
    (@renderNodes_leaves_frame (Environment.standard.settings .default)
      Registry.onlyBuiltin_builtin leftInCapture.nodes _).1 maxLevels⟩

end Stencil
