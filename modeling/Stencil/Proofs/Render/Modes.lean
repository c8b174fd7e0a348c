import Stencil.Proofs.Render.Frame
import Stencil.Proofs.Render.Lineage

/-!
# Lax and strict renders

The error mode decides what becomes of a failure and nothing else.  So a lax render and a strict one
of the same template run in lockstep (`State.Lockstep`): they come to the same bindings and to the
same signal, and the lax output is the strict one with the messages of the failures inserted where
they were recorded.

A message that is written while a capture is open ends up in a variable, and what comes of it cannot
be told.  The lockstep is therefore that of renders in which nothing fails inside of a capture.
-/

namespace Stencil

/-! ## Messages in a text -/

/-- A failure that a strict render records. -/
structure Failure where
  error : Error
  ofVariable : Bool
  /-- The length of the output when the failure is recorded. -/
  position : Nat

namespace Failure

variable (escapes : Bool)

/-- What a lax render writes instead. -/
def message (f : Failure) : String :=
  if f.ofVariable && escapes then State.escaped f.error.inlineMessage else f.error.inlineMessage

def insertInto (f : Failure) (text : List Char) : List Char :=
  text.take f.position ++ (f.message escapes).toList ++ text.drop f.position

/-- The text with the messages inserted.  The last one comes first, so that it moves none of the
positions of the others. -/
def weave (fs : List Failure) (text : List Char) : List Char := fs.foldr (insertInto escapes) text

variable {escapes}

theorem insertInto_append (f : Failure) {text : List Char} (bounded : f.position ≤ text.length)
    (more : List Char) :
    f.insertInto escapes (text ++ more) = f.insertInto escapes text ++ more := by
  unfold insertInto
  rw [List.take_append_of_le_length bounded, List.drop_append_of_le_length bounded,
    List.append_assoc _ _ more]

theorem length_le_weave (fs : List Failure) (text : List Char) :
    text.length ≤ (weave escapes fs text).length := by
  induction fs with
  | nil => exact Nat.le_refl _
  | cons f fs ih =>
    have longer (s : List Char) : s.length ≤ (f.insertInto escapes s).length := by
      simp only [insertInto, List.length_append, List.length_take, List.length_drop]
      omega
    exact Nat.le_trans ih (longer _)

/-- What is written behind all positions stays behind the messages. -/
theorem weave_append {fs : List Failure} {text : List Char}
    (bounded : ∀ f ∈ fs, f.position ≤ text.length) (more : List Char) :
    weave escapes fs (text ++ more) = weave escapes fs text ++ more := by
  induction fs with
  | nil => rfl
  | cons f fs ih =>
    have others := ih fun g hg => bounded g (List.mem_cons_of_mem _ hg)
    have within : f.position ≤ (weave escapes fs text).length :=
      Nat.le_trans (bounded f (List.mem_cons_self ..)) (length_le_weave fs text)
    show f.insertInto escapes (weave escapes fs (text ++ more)) = _
    rw [others, insertInto_append f within]
    rfl

/-- A failure at the end of the text adds its message there. -/
theorem weave_snoc {fs : List Failure} {text : List Char}
    (bounded : ∀ f ∈ fs, f.position ≤ text.length) (f : Failure)
    (atEnd : f.position = text.length) :
    weave escapes (fs ++ [f]) text = weave escapes fs text ++ (f.message escapes).toList := by
  have last : f.insertInto escapes text = text ++ (f.message escapes).toList := by
    simp [insertInto, atEnd]
  rw [weave, List.foldr_append, List.foldr_cons, List.foldr_nil, last]
  exact weave_append bounded _

end Failure

/-! ## Outputs with messages -/

def Sink.text (s : Sink) : List Char := s.close.text.toList

theorem Sink.text_write (s : Sink) (more : String) :
    (s.write more).text = s.text ++ more.toList := by
  cases s with
  | joined t => simp [write, text, close, RenderOutput.text]
  | fragments parts =>
    by_cases empty : more = ""
    · simp [write, empty]
    · simp [write, empty, text, close, RenderOutput.text]

theorem Output.text_finish {o : Output} (closed : o.captures = []) :
    o.finish.text.toList = o.sink.text := by
  rw [finish, closed]
  rfl

/-- The captures are the same, and the text has the messages of the failures inserted. -/
structure Output.Woven (escapes : Bool) (fs : List Failure) (o p : Output) : Prop where
  captures : p.captures = o.captures
  bounded : ∀ f ∈ fs, f.position ≤ o.sink.text.length
  text : p.sink.text = Failure.weave escapes fs o.sink.text
  same : fs = [] → p.sink = o.sink

namespace Output.Woven

variable {escapes : Bool} {fs : List Failure} {o p : Output}

theorem refl (o : Output) : o.Woven escapes [] o where
  captures := rfl
  bounded _ hf := absurd hf List.not_mem_nil
  text := by rw [Failure.weave, List.foldr_nil]
  same _ := rfl

theorem write (woven : o.Woven escapes fs p) (text : String) :
    (o.write text).Woven escapes fs (p.write text) := by
  obtain ⟨sink, _⟩ := o
  obtain ⟨other, captures⟩ := p
  obtain ⟨rfl, bounded, woven, same⟩ := woven
  cases captures with
  | nil =>
    refine ⟨rfl, fun f hf => ?_, ?_, fun none => ?_⟩
    · rw [Output.write_sink, Sink.text_write, List.length_append]
      exact Nat.le_add_right_of_le (bounded f hf)
    · rw [Output.write_sink, Output.write_sink, Sink.text_write, Sink.text_write,
        Failure.weave_append bounded]
      exact congrArg (· ++ text.toList) woven
    · exact congrArg (Sink.write · text) (same none)
  | cons c cs => exact ⟨rfl, bounded, woven, same⟩

/-- The message is written where nothing is. -/
theorem record (woven : o.Woven escapes fs p) (closed : o.captures = []) {f : Failure}
    (atEnd : f.position = o.sink.text.length) :
    o.Woven escapes (fs ++ [f]) (p.write (f.message escapes)) := by
  obtain ⟨sink, _⟩ := o
  obtain ⟨other, captures⟩ := p
  obtain ⟨rfl, bounded, woven, same⟩ := woven
  obtain rfl : captures = [] := closed
  refine ⟨rfl, fun g hg => ?_, ?_, fun none => ?_⟩
  · rcases List.mem_append.1 hg with hg | hg
    · exact bounded g hg
    · exact List.mem_singleton.1 hg ▸ Nat.le_of_eq atEnd
  · rw [Output.write_sink, Sink.text_write, Failure.weave_snoc bounded f atEnd]
    exact congrArg (· ++ (f.message escapes).toList) woven
  · simp at none

theorem beginCapture (woven : o.Woven escapes fs p) :
    o.beginCapture.Woven escapes fs p.beginCapture :=
  ⟨congrArg ("" :: ·) woven.captures, woven.bounded, woven.text, woven.same⟩

theorem endCapture (woven : o.Woven escapes fs p) :
    o.endCapture.1 = p.endCapture.1 ∧ o.endCapture.2.Woven escapes fs p.endCapture.2 := by
  obtain ⟨sink, _⟩ := o
  obtain ⟨other, captures⟩ := p
  obtain ⟨rfl, bounded, woven, same⟩ := woven
  cases captures <;> exact ⟨rfl, rfl, bounded, woven, same⟩

end Output.Woven

/-! ## Lockstep -/

/-- The environment in the given error mode. -/
def Environment.inMode (env : Environment) (mode : ErrorMode) : Environment :=
  { env with errorMode := mode }

def Settings.inMode (settings : Settings) (mode : ErrorMode) : Settings :=
  { settings with environment := settings.environment.inMode mode }

/-- What a strict render has come to and what a lax one has, where nothing but the failures of the
strict one has happened on the one side only. -/
structure State.Lockstep (escapes : Bool) (fs : List Failure) (s t : State) : Prop where
  context : t.context = { s.context with failures := [] }
  output : s.output.Woven escapes fs t.output

namespace Event

/-- The failure that is recorded when a node is left. -/
def failure? : Event → Option Failure
  | leave v (.error e) after =>
    some ⟨v.state.placed v.node.span? e, v.node.isVariable, after.output.finish.text.length⟩
  | _ => none

/-- No failure is recorded while a capture is open. -/
def Exposed : Event → Prop
  | leave _ (.error _) after => after.output.captures = []
  | _ => True

instance : DecidablePred Exposed
  | .enter _ => .isTrue trivial
  | .leave _ (.ok _) _ => .isTrue trivial
  | .leave _ (.error _) after => inferInstanceAs (Decidable (after.output.captures = []))

theorem failure?_within (r : Role) (e : Event) : (e.within r).failure? = e.failure? := by
  rcases e with v | ⟨v, outcome, after⟩
  · rfl
  · cases outcome <;> rfl

theorem exposed_within {r : Role} {e : Event} : (e.within r).Exposed ↔ e.Exposed := by
  rcases e with v | ⟨v, outcome, after⟩
  · rfl
  · cases outcome <;> rfl

/-- The errors of the failures are those that are recorded. -/
theorem map_error_failure? (es : List Event) :
    (es.filterMap failure?).map Failure.error = es.filterMap recorded? := by
  rw [List.map_filterMap]
  congr 1
  funext e
  rcases e with v | ⟨v, outcome, after⟩
  · rfl
  · cases outcome <;> rfl

end Event

section Lockstep

variable {settings : Settings} {sub other : Renderer} {inner : List Node → State → List Event}

/-- Two renderers run in lockstep, if the events of the strict one are `inner`. -/
def Renderer.Lockstep (escapes : Bool) (inner : List Node → State → List Event)
    (sub other : Renderer) : Prop :=
  ∀ {nodes : List Node} {fs : List Failure} {s t : State}, s.Lockstep escapes fs t →
    (∀ e ∈ inner nodes s, e.Exposed) →
    (sub nodes s).1 = (other nodes t).1 ∧
      (sub nodes s).2.Lockstep escapes (fs ++ (inner nodes s).filterMap Event.failure?)
        (other nodes t).2

/-- No operation that built-in handlers perform tells the modes apart. -/
theorem Op.Moves.lockstep {op : Op} {i j : Opened} (moves : op.Moves i j) {fs : List Failure}
    {s t : State} {escapes : Bool} (lockstep : s.Lockstep escapes fs t) :
    (op.exec (settings.inMode .strict) sub s).1 = (op.exec (settings.inMode .lax) other t).1 ∧
      (op.exec (settings.inMode .strict) sub s).2.Lockstep escapes fs
        (op.exec (settings.inMode .lax) other t).2 := by
  obtain ⟨_, p⟩ := t
  obtain ⟨c, o⟩ := s
  obtain ⟨rfl, woven⟩ := lockstep
  replace woven : o.Woven escapes fs p := woven
  cases moves with
  | write text => exact ⟨rfl, rfl, woven.write text⟩
  | beginCapture => exact ⟨rfl, rfl, woven.beginCapture⟩
  | endCapture => exact ⟨woven.endCapture.1, rfl, woven.endCapture.2⟩
  | setLocal name v =>
    obtain ⟨template, assigns, globals, locals, _⟩ := c
    cases locals <;> exact ⟨rfl, rfl, woven⟩
  | _ => exact ⟨rfl, rfl, woven⟩

theorem Renderer.Lockstep.simulation {escapes : Bool}
    (renders : Renderer.Lockstep escapes inner sub other) :
    Simulation .same (settings.inMode .strict) (settings.inMode .lax) sub other
      (fun d => ∀ e ∈ inner d.nodes d.state, e.Exposed)
      (fun d => (inner d.nodes d.state).filterMap Event.failure?)
      (State.Lockstep escapes) where
  ask moves _ _ _ lockstep := moves.lockstep lockstep
  render := by
    rintro ns _ rfl fs s t lockstep exposed
    exact renders lockstep exposed
  override lockstep name := by
    rw [lockstep.context]
    exact Likeness.same_option _
  find name := .refl _
  enter := by
    rintro parent _ rfl fs ⟨c, o⟩ ⟨_, p⟩ ⟨rfl, woven⟩
    exact ⟨rfl, woven⟩
  leave := by
    rintro _ fs ⟨c, o⟩ ⟨_, p⟩ ⟨d, q⟩ ⟨_, r⟩ ⟨rfl, -⟩ ⟨rfl, woven⟩
    exact ⟨rfl, woven⟩

theorem State.Lockstep.recover {escapes : Bool} {fs : List Failure} {s t : State} {e : Error}
    (same : settings.escapeVariables = escapes) (lockstep : s.Lockstep escapes fs t)
    (closed : s.output.captures = []) (ofVariable : Bool) (span : Option Span) :
    (s.recover (settings.inMode .strict) ofVariable span e).Lockstep escapes
      (fs ++ [⟨s.placed span e, ofVariable, s.output.finish.text.length⟩])
      (t.recover (settings.inMode .lax) ofVariable span e) := by
  obtain ⟨_, p⟩ := t
  obtain ⟨c, o⟩ := s
  obtain ⟨rfl, woven⟩ := lockstep
  have atEnd : o.finish.text.length = o.sink.text.length := by
    rw [← String.length_toList, Output.text_finish closed]
  exact ⟨rfl, same ▸ woven.record closed atEnd⟩

theorem State.Lockstep.renderNode (isBuiltin : settings.environment.registry.OnlyBuiltin)
    (frames : sub.Frames) (renders : Renderer.Lockstep settings.escapeVariables inner sub other)
    {fs : List Failure} {s t : State} (lockstep : s.Lockstep settings.escapeVariables fs t)
    (n : Node) (exposed : ∀ e ∈ s.events (settings.inMode .strict) sub inner n, e.Exposed) :
    (s.renderNode (settings.inMode .strict) sub n).Lockstep settings.escapeVariables
      (fs ++ (s.events (settings.inMode .strict) sub inner n).filterMap Event.failure?)
      (t.renderNode (settings.inMode .lax) other n) := by
  obtain ⟨-, inside, last⟩ :=
    (State.forall_events _ _ _ (fun _ _ => Event.exposed_within) s n).1 exposed
  have template :=
    (@State.frame_attempt (settings.inMode .strict) sub s n (isBuiltin.of_handler? n)
      fun d _ => frames d.nodes d.state).template
  obtain ⟨same, after⟩ :=
    renders.simulation.attempt ⟨rfl, rfl, rfl⟩ isBuiltin n.alike_same fs lockstep inside
  rw [State.filterMap_events _ _ _ (fun _ => rfl) Event.failure?_within, ← List.append_assoc]
  rw [renderNode_eq] at last ⊢
  rw [renderNode_eq]
  rcases ran : s.attempt (settings.inMode .strict) sub n with ⟨e | _, u⟩ <;>
    rcases ranOther : t.attempt (settings.inMode .lax) other n with ⟨f | _, v⟩ <;>
    rw [ran, ranOther] at same after <;> rw [ran] at last template <;> cases same
  · have placed : s.placed n.span? e = u.placed n.span? e := by
      unfold State.placed
      rw [template]
    show State.Lockstep _ (_ ++ [⟨s.placed n.span? e, n.isVariable, _⟩]) _ _
    rw [placed]
    exact after.recover rfl last n.isVariable n.span?
  · show State.Lockstep _ (_ ++ []) _ _
    rw [List.append_nil]
    exact after

/-- A list of nodes is rendered in lockstep. -/
theorem State.Lockstep.renderList (isBuiltin : settings.environment.registry.OnlyBuiltin)
    (frames : sub.Frames) (renders : Renderer.Lockstep settings.escapeVariables inner sub other)
    {fs : List Failure} {s t : State} (lockstep : s.Lockstep settings.escapeVariables fs t)
    (nodes : List Node)
    (exposed : ∀ e ∈ s.eventsOfList (settings.inMode .strict) sub inner nodes, e.Exposed) :
    (s.renderList (settings.inMode .strict) sub nodes).Lockstep settings.escapeVariables
      (fs ++ (s.eventsOfList (settings.inMode .strict) sub inner nodes).filterMap Event.failure?)
      (t.renderList (settings.inMode .lax) other nodes) := by
  induction nodes generalizing fs s t with
  | nil =>
    rw [State.eventsOfList, List.filterMap_nil, List.append_nil]
    exact lockstep
  | cons n ns ih =>
    rw [State.eventsOfList] at exposed ⊢
    obtain ⟨first, later⟩ := List.forall_mem_append.1 exposed
    have after := lockstep.renderNode isBuiltin frames renders n first
    rw [State.renderList, State.renderList, List.filterMap_append, ← List.append_assoc]
    have signal : (t.renderNode (settings.inMode .lax) other n).context.signal =
        (s.renderNode (settings.inMode .strict) sub n).context.signal := by
      rw [after.context]
    by_cases goesOn : (s.renderNode (settings.inMode .strict) sub n).context.signal = .normal
    · simp only [signal, goesOn, if_true] at later ⊢
      exact ih after later
    · simp only [signal, goesOn, if_false, List.filterMap_nil, List.append_nil]
      exact after

end Lockstep

theorem lockstep_renderNodes {settings : Settings}
    (isBuiltin : settings.environment.registry.OnlyBuiltin) (levels : Nat) :
    Renderer.Lockstep settings.escapeVariables (history (settings.inMode .strict) levels)
      (renderNodes (settings.inMode .strict) levels)
      (renderNodes (settings.inMode .lax) levels) := by
  induction levels with
  | zero =>
    intro nodes fs s t lockstep _
    refine ⟨rfl, ?_⟩
    rw [history, List.filterMap_nil, List.append_nil]
    exact lockstep
  | succ levels ih =>
    intro nodes fs s t lockstep exposed
    refine ⟨(accepts_renderNodes _ levels nodes s).trans
      (accepts_renderNodes _ levels nodes t).symm, ?_⟩
    have frames := @frames_renderNodes (settings.inMode .strict) isBuiltin levels
    exact lockstep.renderList isBuiltin frames ih nodes exposed

/-! ## Whole renders -/

/-- The result of a lax render, as the one of a strict render tells it. -/
structure Rendered.Lockstep (escapes : Bool) (fs : List Failure) (r q : Rendered) : Prop where
  errors : r.context.errors = fs.map Failure.error
  context : q.context = { r.context with failures := [] }
  text : q.output.text.toList = Failure.weave escapes fs r.output.text.toList
  same : r.context.errors = [] → q.output = r.output

theorem State.Lockstep.rendered {escapes : Bool} {fs : List Failure} {s t : State}
    (lockstep : s.Lockstep escapes fs t) (closed : s.output.captures = [])
    (errors : s.context.errors = fs.map Failure.error) :
    Rendered.Lockstep escapes fs ⟨s.output.finish, s.context⟩ ⟨t.output.finish, t.context⟩ := by
  have closedLax : t.output.captures = [] := lockstep.output.captures.trans closed
  refine ⟨errors, lockstep.context, ?_, fun none => ?_⟩
  · rw [Output.text_finish closed, Output.text_finish closedLax]
    exact lockstep.output.text
  · have noFailure : fs = [] := List.map_eq_nil_iff.1 (errors.symm.trans none)
    rw [Output.finish, Output.finish, closed, closedLax, lockstep.output.same noFailure]

namespace Environment

/-- If no failure is recorded while a capture is open, then a lax render comes to what a strict one
comes to, with the message of each failure inserted where the strict output was. -/
theorem render_lockstep (env : Environment) (isBuiltin : env.registry.OnlyBuiltin)
    (template : Template) (assigns : Value) (options : RenderOptions)
    (exposed : ∀ e ∈ (env.inMode .strict).history template assigns.imported options, e.Exposed) :
    Agree (Rendered.Lockstep options.escapeVariables
        (((env.inMode .strict).history template assigns.imported options).filterMap Event.failure?))
      ((env.inMode .strict).render template assigns options)
      ((env.inMode .lax).render template assigns options) := by
  let start := startState template assigns.imported options
  have none : start.output.captures = [] := by
    show (if options.joinOutput then Output.joining else Output.fragmenting).captures = []
    cases options.joinOutput <;> rfl
  have lockstep := (@lockstep_renderNodes (env.settings options) isBuiltin maxLevels template.nodes []
    start start ⟨rfl, .refl _⟩ exposed).2
  have kept := (@frames_renderNodes ((env.inMode .strict).settings options) isBuiltin maxLevels
    template.nodes start).captures
  rw [none] at kept
  have errors := @history_errors ((env.inMode .strict).settings options) isBuiltin rfl maxLevels
    template.nodes start
  rw [← Event.map_error_failure?] at errors
  have rendered := lockstep.rendered (List.eq_nil_of_length_eq_zero kept) errors
  exact (Agree.refl (checkAssigns assigns.imported)).bind fun _ _ _ => .ok rendered

/-- A page with a variable that fails between two texts. -/
def failingPage : Template := .ofNodes "page" [.text "a", unknownFilter, .text "b"]

theorem render_lockstep_failingPage :
    standard.registry.OnlyBuiltin ∧
      (∀ e ∈ (standard.inMode .strict).history failingPage Value.none.imported .default,
        e.Exposed) ∧
      Agree (Rendered.Lockstep false
          (((standard.inMode .strict).history failingPage Value.none.imported .default).filterMap
            Event.failure?))
        ((standard.inMode .strict).render failingPage .none .default)
        ((standard.inMode .lax).render failingPage .none .default) := by
  have exposed : ∀ e ∈ (standard.inMode .strict).history failingPage Value.none.imported .default,
      e.Exposed := by decide
  exact ⟨Registry.onlyBuiltin_builtin, exposed,
    render_lockstep standard Registry.onlyBuiltin_builtin failingPage .none .default exposed⟩

/-- The failure is recorded behind the first text. -/
example : ((((standard.inMode .strict).history failingPage .none .default).filterMap
    Event.failure?).map Failure.position) = [1] := by decide

end Environment

end Stencil
