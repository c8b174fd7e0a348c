import Stencil.Proofs.Render.Frame

/-!
# What a capture binds

With the built-in handlers, rendering does not depend on what has been written before.  From one
context, nodes come to one context and write the same texts, whether these are joined, kept as
fragments or go into a capture (`Renderer.Writes`).  So a capture binds what its nodes would have
written in its place, and leaves everything else as they would have left it.
-/

namespace Stencil

/-! ## Text that has been added -/

/-- The text has been added behind all other. -/
inductive Sink.Appends (text : String) : Sink → Sink → Prop
  | joined (t : String) : Appends text (.joined t) (.joined (t ++ text))
  | fragments (parts more : List String) (joins : String.join more.reverse = text) :
    Appends text (.fragments parts) (.fragments (more ++ parts))

/-- The text has been added to the innermost capture, or to the sink if there is none. -/
inductive Output.Appends (text : String) : Output → Output → Prop
  | sink {s t : Sink} (appends : s.Appends text t) : Appends text ⟨s, []⟩ ⟨t, []⟩
  | capture (s : Sink) (c : String) (cs : List String) :
    Appends text ⟨s, c :: cs⟩ ⟨s, (c ++ text) :: cs⟩

/-- Adding the second text behind the first is adding both. -/
theorem Sink.Appends.trans {s t u : Sink} {first second : String} (h : s.Appends first t)
    (k : t.Appends second u) : s.Appends (first ++ second) u := by
  cases h with
  | joined text =>
    cases k with
    | joined =>
      rw [String.append_assoc]
      exact .joined text
  | fragments parts more joins =>
    cases k with
    | fragments _ others joinsToo =>
      rw [← List.append_assoc]
      refine .fragments parts (others ++ more) ?_
      rw [List.reverse_append, String.join_append, joins, joinsToo]

namespace Output

theorem Appends.trans {o p q : Output} {first second : String} (h : o.Appends first p)
    (k : p.Appends second q) : o.Appends (first ++ second) q := by
  cases h with
  | sink appends =>
    cases k with
    | sink more => exact .sink (appends.trans more)
  | capture s c cs =>
    cases k with
    | capture =>
      rw [String.append_assoc]
      exact .capture s c cs

theorem appends_nothing (o : Output) : o.Appends "" o := by
  obtain ⟨s, captures⟩ := o
  cases captures with
  | nil =>
    cases s with
    | joined t => exact .sink (by simpa using @Sink.Appends.joined "" t)
    | fragments parts => exact .sink (.fragments parts [] rfl)
  | cons c cs => simpa using @Appends.capture "" s c cs

theorem appends_write (o : Output) (text : String) : o.Appends text (o.write text) := by
  obtain ⟨s, captures⟩ := o
  cases captures with
  | nil =>
    cases s with
    | joined t => exact .sink (.joined t)
    | fragments parts =>
      rw [write_sink, Sink.write]
      split
      · next empty => exact .sink (.fragments parts [] empty.symm)
      · exact .sink (.fragments parts [text] (by simp))
  | cons c cs => exact .capture s c cs

/-- The text of the innermost capture, or of the sink if there is none. -/
def innermost (o : Output) : String :=
  match o.captures, o.sink with
  | c :: _, _ => c
  | [], .joined t => t
  | [], .fragments parts => String.join parts.reverse

theorem Appends.innermost_eq {o p : Output} {text : String} (appends : o.Appends text p) :
    p.innermost = o.innermost ++ text := by
  cases appends with
  | sink appends =>
    cases appends with
    | joined => rfl
    | fragments parts more joins =>
      show String.join (more ++ parts).reverse = String.join parts.reverse ++ text
      rw [List.reverse_append, String.join_append, joins]
  | capture => rfl

/-- There is only one text that has been added. -/
theorem Appends.unique {o p : Output} {text other : String} (first : o.Appends text p)
    (second : o.Appends other p) : text = other :=
  (String.append_right_inj o.innermost).1 (first.innermost_eq.symm.trans second.innermost_eq)

/-! ## One text after the other -/

/-- Writes texts one after the other. -/
def writeAll (o : Output) (texts : List String) : Output := texts.foldl write o

theorem writeAll_append (o : Output) (texts more : List String) :
    o.writeAll (texts ++ more) = (o.writeAll texts).writeAll more :=
  List.foldl_append

theorem appends_writeAll (o : Output) (texts : List String) :
    o.Appends (String.join texts) (o.writeAll texts) := by
  induction texts generalizing o with
  | nil => exact o.appends_nothing
  | cons text texts ih =>
    rw [String.join_cons]
    exact (o.appends_write text).trans (ih (o.write text))

theorem writeAll_capture (s : Sink) (c : String) (cs texts : List String) :
    (Output.mk s (c :: cs)).writeAll texts = ⟨s, (c ++ String.join texts) :: cs⟩ := by
  have appends := appends_writeAll ⟨s, c :: cs⟩ texts
  generalize (Output.mk s (c :: cs)).writeAll texts = o at appends
  cases appends
  rfl

/-- The output with more captures opened. -/
def hold (o : Output) (held : List String) : Output := { o with captures := held ++ o.captures }

/-- What is written while captures are held open goes into the innermost of these, and into the
output below if there is none. -/
theorem writeAll_hold (held texts : List String) :
    ∃ more later, later.length = held.length ∧
      ∀ o : Output, (o.hold held).writeAll texts = (o.writeAll more).hold later := by
  cases held with
  | nil => exact ⟨texts, [], rfl, fun _ => rfl⟩
  | cons c cs =>
    exact ⟨[], (c ++ String.join texts) :: cs, rfl, fun o => writeAll_capture o.sink c _ texts⟩

end Output

/-! ## Whatever the output is -/

/-- From a context, rendering the nodes comes to one context and writes the same texts, whatever the
output is. -/
def Renderer.Writes (sub : Renderer) (nodes : List Node) (c : Context) : Prop :=
  ∃ outcome d texts, ∀ o, sub nodes ⟨c, o⟩ = (outcome, ⟨d, o.writeAll texts⟩)

section Actions

variable {settings : Settings} {sub : Renderer}

theorem Op.Moves.writes {op : Op} {i j : Opened} (moves : op.Moves i j) (c : Context)
    {held : List String} (length : held.length = i.captures) :
    ∃ answer d texts later, later.length = j.captures ∧ ∀ o : Output,
      op.exec settings sub ⟨c, o.hold held⟩ = (answer, ⟨d, (o.writeAll texts).hold later⟩) := by
  -- What the operation answers and does to the context may be read off any output.
  refine ⟨(op.exec settings sub ⟨c, Output.joining.hold held⟩).1,
    (op.exec settings sub ⟨c, Output.joining.hold held⟩).2.context, ?_⟩
  cases moves with
  | write s i =>
    obtain ⟨more, later, laterLength, holds⟩ := Output.writeAll_hold held [s]
    exact ⟨more, later, laterLength.trans length, fun o =>
      congrArg (fun p => ((), State.mk c p)) (holds o)⟩
  | beginCapture m n => exact ⟨[], "" :: held, congrArg Nat.succ length, fun _ => rfl⟩
  | endCapture m n =>
    cases held with
    | nil => cases length
    | cons text later => exact ⟨[], later, Nat.succ.inj length, fun _ => rfl⟩
  | _ => exact ⟨[], held, length, fun _ => rfl⟩

/-- An action does the same on every output, if the nodes do that it asks to render.  The captures
that it has opened are held above the output. -/
theorem Action.Alike.writes {α β : Type} {A : α → β → Prop} {i j : Opened} {a : Action α}
    {b : Action β} (alike : a.Alike .same A i j b) {c : Context} {held : List String}
    (length : held.length = i.captures) {o : Output}
    (inner : ∀ d ∈ a.descents settings sub ⟨c, o.hold held⟩, sub.Writes d.nodes d.state.context) :
    ∃ r d texts later,
      (∀ p : Output, a.run settings sub ⟨c, p.hold held⟩ =
        (r, ⟨d, (p.writeAll texts).hold later⟩)) ∧
      match r with
      | .ok x => (∃ y, A x y) ∧ later.length = j.captures
      | .error _ => later = [] := by
  induction alike generalizing c held o with
  | @done _ _ _ x y related => exact ⟨.ok x, c, [], held, fun _ => rfl, ⟨y, related⟩, length⟩
  | fail e =>
    obtain rfl := List.length_eq_zero_iff.1 length
    exact ⟨.error e, c, [], [], fun _ => rfl, rfl⟩
  | @bind _ _ _ _ A B i j k a b f g first rest ihFirst ihRest =>
    rw [Action.descents_bind] at inner
    obtain ⟨r, d, texts, later, ran, after⟩ := ihFirst length fun d hd =>
      inner d (List.mem_append_left _ hd)
    cases r with
    | error e =>
      refine ⟨.error e, d, texts, later, fun p => ?_, after⟩
      rw [Action.run_bind, ran]
    | ok x =>
      obtain ⟨⟨y, related⟩, laterLength⟩ := after
      rw [ran] at inner
      obtain ⟨r, e, more, last, ranRest, afterRest⟩ := ihRest x y related laterLength fun d hd =>
        inner d (List.mem_append_right _ hd)
      refine ⟨r, e, texts ++ more, last, fun p => ?_, afterRest⟩
      rw [Action.run_bind, ran, Output.writeAll_append]
      exact ranRest (p.writeAll texts)
  | @ask op i j moves =>
    obtain ⟨answer, d, texts, later, laterLength, ran⟩ := moves.writes c length
    refine ⟨.ok answer, d, texts, later, fun p => ?_, ⟨answer, rfl⟩, laterLength⟩
    show (Except.ok (op.exec settings sub _).1, (op.exec settings sub _).2) = _
    rw [ran]
  | @render ns _ related i =>
    obtain ⟨outcome, d, texts, ran⟩ := inner ⟨ns, c, o.hold held⟩ (List.mem_singleton.2 rfl)
    obtain ⟨more, later, laterLength, holds⟩ := Output.writeAll_hold held texts
    refine ⟨.ok outcome, d, more, later, fun p => ?_, ⟨outcome, rfl⟩, laterLength.trans length⟩
    show (Except.ok (sub ns _).1, (sub ns _).2) = _
    rw [ran, holds]
    rfl
  | override name i =>
    exact ⟨.ok (Table.find? c.overrides name), c, [], held, fun _ => rfl,
      ⟨_, Likeness.same_option _⟩, length⟩
  | find name =>
    exact ⟨.ok (settings.environment.findTemplate name), c, [], held, fun _ => rfl, ⟨_, .refl _⟩,
      length⟩
  | @extend p _ related =>
    obtain rfl := List.length_eq_zero_iff.1 length
    rw [(Tags.run_renderParent p).2] at inner
    obtain ⟨outcome, d, texts, ran⟩ := inner ⟨p.nodes, State.enterParent ⟨c, o⟩ p⟩
      (List.mem_singleton.2 rfl)
    replace ran : ∀ q, sub p.nodes (State.enterParent ⟨c, q⟩ p) =
      (outcome, ⟨d, q.writeAll texts⟩) := ran
    refine ⟨outcome, { d with template := c.template, signal := .extended }, texts, [],
      fun q => ?_, ?_⟩
    · rw [(Tags.run_renderParent p).1]
      show ((sub p.nodes (State.enterParent ⟨c, q⟩ p)).1,
        (sub p.nodes (State.enterParent ⟨c, q⟩ p)).2.leaveParent c.template) = _
      rw [ran]
      rfl
    · cases outcome with
      | error => rfl
      | ok => exact ⟨⟨_, rfl⟩, rfl⟩

namespace State

theorem writes_attempt {c : Context} {o : Output} {n : Node}
    (isBuiltin : ∀ h, n.handler? settings.environment.registry = some h → h.IsBuiltin)
    (inner : ∀ d ∈ State.descents settings sub ⟨c, o⟩ n, sub.Writes d.nodes d.state.context) :
    ∃ r d texts, ∀ p, State.attempt settings sub ⟨c, p⟩ n = (r, ⟨d, p.writeAll texts⟩) := by
  rw [descents_eq] at inner
  have nothingHeld : ([] : List String).length = Opened.nothing.captures := rfl
  obtain ⟨r, d, texts, later, ran, after⟩ :=
    (Node.alike_action isBuiltin n.alike_same).writes nothingHeld inner
  obtain rfl : later = [] := by
    cases r with
    | error => exact after
    | ok => exact List.length_eq_zero_iff.1 after.2
  exact ⟨r, d, texts, fun p => (attempt_eq_run settings sub ⟨c, p⟩ n).trans (ran p)⟩

theorem writes_recover (ofVariable : Bool) (span : Option Span) (e : Error) (c : Context) :
    ∃ d texts, ∀ o, recover settings ofVariable span e ⟨c, o⟩ = ⟨d, o.writeAll texts⟩ := by
  obtain ⟨f, placed_eq⟩ : ∃ f, ∀ o, placed ⟨c, o⟩ span e = f := by
    cases span with
    | none => exact ⟨e, fun _ => rfl⟩
    | some span => exact ⟨e.orLocatedAt c.template.name span.start.line, fun _ => rfl⟩
  simp only [recover, placed_eq]
  cases settings.environment.errorMode with
  | lax =>
    let message := f.inlineMessage
    exact ⟨c, [if ofVariable && settings.escapeVariables then escaped message else message],
      fun _ => rfl⟩
  | strict => exact ⟨c.record f, [], fun _ => rfl⟩

theorem writes_renderNode {c : Context} {o : Output} {n : Node}
    (isBuiltin : ∀ h, n.handler? settings.environment.registry = some h → h.IsBuiltin)
    (inner : ∀ d ∈ State.descents settings sub ⟨c, o⟩ n, sub.Writes d.nodes d.state.context) :
    ∃ d texts, ∀ p, State.renderNode settings sub ⟨c, p⟩ n = ⟨d, p.writeAll texts⟩ := by
  obtain ⟨r, d, texts, ran⟩ := writes_attempt isBuiltin inner
  cases r with
  | ok =>
    refine ⟨d, texts, fun p => ?_⟩
    rw [renderNode_eq, ran]
  | error e =>
    obtain ⟨u, more, recovered⟩ := @writes_recover settings n.isVariable n.span? e d
    refine ⟨u, texts ++ more, fun p => ?_⟩
    rw [renderNode_eq, ran, Output.writeAll_append]
    exact recovered (p.writeAll texts)

theorem writes_renderList {inner : List Node → State → List Event}
    (deeper : ∀ nodes s, (∀ e ∈ inner nodes s, e.IsBuiltin settings) → sub.Writes nodes s.context)
    {nodes : List Node} {s : State}
    (all : ∀ e ∈ s.eventsOfList settings sub inner nodes, e.IsBuiltin settings) :
    ∃ d texts, ∀ p, renderList settings sub ⟨s.context, p⟩ nodes = ⟨d, p.writeAll texts⟩ := by
  induction nodes generalizing s with
  | nil => exact ⟨s.context, [], fun _ => rfl⟩
  | cons n ns ih =>
    obtain ⟨c, o⟩ := s
    rw [eventsOfList, List.forall_mem_append,
      forall_events settings _ _ (Event.isBuiltin_within settings)] at all
    obtain ⟨⟨isBuiltin, inside, -⟩, behind⟩ := all
    obtain ⟨d, texts, rendered⟩ := writes_renderNode (n := n) isBuiltin fun e he =>
      deeper e.nodes e.state (inside e he)
    by_cases normal : d.signal = .normal
    · rw [rendered, if_pos normal] at behind
      obtain ⟨u, more, renderedRest⟩ := ih behind
      refine ⟨u, texts ++ more, fun p => ?_⟩
      rw [renderList, rendered, if_pos normal, Output.writeAll_append]
      exact renderedRest (p.writeAll texts)
    · refine ⟨d, texts, fun p => ?_⟩
      rw [renderList, rendered, if_neg normal]

end State

end Actions

/-- Nodes write the same into every output if all that is come to in rendering them into one has
built-in handlers. -/
theorem writes_renderNodes {settings : Settings} (levels : Nat) (nodes : List Node) (s : State)
    (all : ∀ e ∈ history settings levels nodes s, e.IsBuiltin settings) :
    (renderNodes settings levels).Writes nodes s.context := by
  induction levels generalizing nodes s with
  | zero => exact ⟨_, s.context, [], fun _ => rfl⟩
  | succ levels ih =>
    obtain ⟨d, texts, rendered⟩ := State.writes_renderList ih all
    exact ⟨.ok (), d, texts, fun o => congrArg (Prod.mk _) (rendered o)⟩

/-! ## Captures -/

/-- If nodes write the same into every output, a capture of them binds what they write and comes to
their context. -/
theorem Tags.run_captureNodes (settings : Settings) {sub : Renderer} {nodes : List Node}
    {c d : Context} {texts : List String}
    (writes : ∀ o, sub nodes ⟨c, o⟩ = (.ok (), ⟨d, o.writeAll texts⟩)) (name : String)
    (o : Output) :
    (captureNodes name nodes).run settings sub ⟨c, o⟩ =
      (.ok (), ⟨d.setGlobal name (.string (String.join texts)), o⟩) := by
  have inside : sub nodes ⟨c, o.beginCapture⟩ =
      (.ok (), ⟨d, ⟨o.sink, String.join texts :: o.captures⟩⟩) := by
    rw [writes, Output.beginCapture, Output.writeAll_capture, String.empty_append]
  let finish (outcome : Except Error Unit) : Action Unit := do
    let text : String ← Action.ask .endCapture
    Action.ofExcept outcome
    Action.setGlobal name (.string text)
  show (finish (sub nodes ⟨c, o.beginCapture⟩).1).run settings sub
    (sub nodes ⟨c, o.beginCapture⟩).2 = _
  rw [inside]
  rfl

theorem Body.nodes_of_ofBlock {μ κ : Type} [MarkupType μ] [MarkupType κ] {name : String}
    {payload : Payload} {nodes : List Node} {clauses : List (Clause Node)} {body : Body μ κ}
    (read : Body.ofBlock name payload nodes clauses = .ok body) : body.nodes = nodes := by
  obtain ⟨_, -, read⟩ := bind_eq_ok.1 read
  obtain ⟨_, -, read⟩ := bind_eq_ok.1 read
  exact congrArg Body.nodes (Except.ok.inj read).symm

/-- A capture binds exactly what its nodes add to the output if they are rendered in its place, and
leaves the output as it was.  Everything else is left as the nodes leave it: the other variables, the
scopes, registers, errors, overrides and the signal. -/
theorem Tags.capture_binds_text {settings : Settings} {name : String}
    (bound : settings.environment.registry.find? name = some capture.handler) {payload : Payload}
    {nodes : List Node} {clauses : List (Clause Node)} {body : Body String Unit}
    (read : Body.ofBlock name payload nodes clauses = .ok body) (markup : String) (span : Span)
    (levels : Nat) (s : State)
    (isBuiltin : ∀ e ∈ history settings (levels + 1) nodes s, e.IsBuiltin settings) :
    ∃ direct text, renderNodes settings (levels + 1) nodes s = (.ok (), direct) ∧
      s.output.Appends text direct.output ∧
      s.renderNode settings (renderNodes settings (levels + 1))
          (.block name markup payload span nodes clauses) =
        ⟨direct.context.setGlobal body.markup (.string text), s.output⟩ := by
  obtain ⟨outcome, d, texts, writes⟩ := writes_renderNodes (levels + 1) nodes s isBuiltin
  obtain rfl : outcome = .ok () := (congrArg Prod.fst (writes s.output)).symm
  refine ⟨⟨d, s.output.writeAll texts⟩, String.join texts, writes s.output,
    s.output.appends_writeAll texts, ?_⟩
  obtain ⟨attempted, -⟩ :=
    s.attempt_block settings (renderNodes settings (levels + 1)) bound read markup span
  have captured := run_captureNodes settings writes body.markup s.output
  rw [← Body.nodes_of_ofBlock read] at captured
  replace attempted := attempted.trans captured
  rw [State.renderNode_eq, attempted]

/-- The body of a capture that is cut short by a signal. -/
def brokenOff : List Node :=
  [.text "in", .tag "break" "" .unit ⟨⟨1, 17⟩, ⟨1, 28⟩⟩, .text "side"]

/-- A state in which text goes into an open capture. -/
def capturing : State where
  context := (Environment.startState (.ofNodes "page" []) .none .default).context
  output := ⟨.fragments ["before"], [""]⟩

theorem Tags.capture_binds_text_brokenOff :
    Environment.standard.registry.OnlyBuiltin ∧
      ∃ direct, renderNodes (Environment.standard.settings .default) 99 brokenOff capturing =
          (.ok (), direct) ∧ capturing.output.Appends "in" direct.output ∧
        direct.context.signal = .break ∧
        capturing.renderNode (Environment.standard.settings .default)
            (renderNodes (Environment.standard.settings .default) 99)
            (.block "capture" "x" (.text "x") ⟨⟨1, 0⟩, ⟨1, 15⟩⟩ brokenOff []) =
          ⟨direct.context.setGlobal "x" (.string "in"), capturing.output⟩ := by
  obtain ⟨direct, text, rendered, appends, bound⟩ := @capture_binds_text
    (Environment.standard.settings .default) _ rfl (.text "x") brokenOff [] ⟨"capture", "x", _, []⟩
    rfl "x" ⟨⟨1, 0⟩, ⟨1, 15⟩⟩ 98 capturing
    fun e _ => Registry.onlyBuiltin_builtin.of_handler? e.visit.node
  obtain rfl := congrArg Prod.snd rendered
  obtain rfl : text = "in" := appends.unique (.capture _ "" [])
  exact ⟨Registry.onlyBuiltin_builtin, _, rendered, appends, rfl, bound⟩

end Stencil
