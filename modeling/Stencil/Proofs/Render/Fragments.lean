import Stencil.Proofs.Render.Descent
import Stencil.Proofs.Render.Likeness

/-!
# Fragments and joined text

A render keeps what it writes either as fragments or as one text, and does nothing else differently.
No operation answers which of the two it is, so every handler does the same in both, and captures
are the same in both; only the sinks differ, and the fragments joined are always the text
(`Sink.Joins`).
-/

namespace Stencil

/-! ## Outputs that join to the same text -/

/-- The fragments of the first sink are not empty, and joined they are the text of the second. -/
inductive Sink.Joins : Sink → Sink → Prop
  | parts {parts : List String} (solid : ∀ p ∈ parts, p ≠ "") :
    Joins (.fragments parts) (.joined (String.join parts.reverse))

structure Output.Joins (o p : Output) : Prop where
  sink : o.sink.Joins p.sink
  captures : p.captures = o.captures

/-- The states differ in their sinks only. -/
structure State.Joins (s t : State) : Prop where
  context : t.context = s.context
  output : s.output.Joins t.output

/-- The first output is made of fragments that are not empty, and the second one is their text. -/
inductive RenderOutput.Joins : RenderOutput → RenderOutput → Prop
  | parts {parts : List String} (solid : ∀ p ∈ parts, p ≠ "") :
    Joins (.fragments parts) (.joined (String.join parts))

namespace Sink.Joins

theorem write {s t : Sink} (joins : s.Joins t) (text : String) :
    (s.write text).Joins (t.write text) := by
  cases joins with
  | @parts parts solid =>
    by_cases empty : text = ""
    · simpa [Sink.write, empty] using Joins.parts solid
    · have appended : String.join (text :: parts).reverse = String.join parts.reverse ++ text := by
        simp
      have allSolid : ∀ p ∈ text :: parts, p ≠ "" := by
        simpa [empty] using solid
      rw [Sink.write, Sink.write, if_neg empty, ← appended]
      exact .parts allSolid

theorem pour {s t : Sink} (joins : s.Joins t) (c : String) (cs : List String) :
    (Output.pour s c cs).Joins (Output.pour t c cs) := by
  induction cs generalizing c with
  | nil => exact joins.write c
  | cons d cs ih => exact ih (d ++ c)

theorem flush {s t : Sink} (joins : s.Joins t) (captures : List String) :
    (Output.flush s captures).Joins (Output.flush t captures) := by
  cases captures with
  | nil => exact joins
  | cons c cs => exact joins.pour c cs

theorem close {s t : Sink} (joins : s.Joins t) : s.close.Joins t.close := by
  cases joins with
  | parts solid => exact .parts fun p hp => solid p (List.mem_reverse.1 hp)

end Sink.Joins

namespace Output.Joins

variable {o p : Output}

theorem start : fragmenting.Joins joining := ⟨.parts (by simp), rfl⟩

theorem write (joins : o.Joins p) (text : String) : (o.write text).Joins (p.write text) := by
  obtain ⟨s, captures⟩ := o
  obtain ⟨t, others⟩ := p
  obtain ⟨sink, same⟩ := joins
  obtain rfl : others = captures := same
  cases others with
  | nil => exact ⟨sink.write text, rfl⟩
  | cons c cs => exact ⟨sink, rfl⟩

theorem beginCapture (joins : o.Joins p) : o.beginCapture.Joins p.beginCapture :=
  ⟨joins.sink, congrArg ("" :: ·) joins.captures⟩

theorem endCapture (joins : o.Joins p) :
    o.endCapture.1 = p.endCapture.1 ∧ o.endCapture.2.Joins p.endCapture.2 := by
  obtain ⟨s, captures⟩ := o
  obtain ⟨t, others⟩ := p
  obtain ⟨sink, same⟩ := joins
  obtain rfl : others = captures := same
  cases others with
  | nil => exact ⟨rfl, sink, rfl⟩
  | cons c cs => exact ⟨rfl, sink, rfl⟩

theorem isCapturing (joins : o.Joins p) : o.isCapturing = p.isCapturing := by
  rw [Output.isCapturing, Output.isCapturing, joins.captures]

/-- Captures that are still open are written out alike. -/
theorem finish (joins : o.Joins p) : o.finish.Joins p.finish := by
  rw [Output.finish, Output.finish, joins.captures]
  exact (joins.sink.flush o.captures).close

end Output.Joins

/-! ## Nothing tells the outputs apart -/

/-- Nodes are rendered alike from states that differ in their sinks. -/
def Renderer.Joins (sub : Renderer) : Prop :=
  ∀ nodes {s t : State}, s.Joins t →
    (sub nodes s).1 = (sub nodes t).1 ∧ (sub nodes s).2.Joins (sub nodes t).2

section Rendering

variable (settings : Settings) {sub : Renderer} {s t : State}

/-- Every operation answers the same. -/
theorem Op.joins_exec (renders : sub.Joins) (op : Op) (joins : s.Joins t) :
    (op.exec settings sub s).1 = (op.exec settings sub t).1 ∧
      (op.exec settings sub s).2.Joins (op.exec settings sub t).2 := by
  obtain ⟨c, o⟩ := s
  obtain ⟨_, p⟩ := t
  obtain ⟨rfl, output⟩ := joins
  replace output : o.Joins p := output
  cases op with
  | write text => exact ⟨rfl, rfl, output.write text⟩
  | beginCapture => exact ⟨rfl, rfl, output.beginCapture⟩
  | endCapture => exact ⟨output.endCapture.1, rfl, output.endCapture.2⟩
  | isCapturing => exact ⟨output.isCapturing, rfl, output⟩
  | renderNodes nodes => exact renders nodes ⟨rfl, output⟩
  | _ => exact ⟨rfl, rfl, output⟩

theorem Action.joins_run (renders : sub.Joins) {α : Type} (a : Action α) (joins : s.Joins t) :
    (a.run settings sub s).1 = (a.run settings sub t).1 ∧
      (a.run settings sub s).2.Joins (a.run settings sub t).2 := by
  induction a generalizing s t with
  | done => exact ⟨rfl, joins⟩
  | fail => exact ⟨rfl, joins⟩
  | perform op next ih =>
    obtain ⟨same, after⟩ := op.joins_exec settings renders joins
    rw [run, run, same]
    exact ih _ after

namespace State.Joins

theorem write (joins : s.Joins t) (text : String) : (s.write text).Joins (t.write text) :=
  ⟨joins.context, joins.output.write text⟩

theorem recover (joins : s.Joins t) (ofVariable : Bool) (span : Option Span) (e : Error) :
    (s.recover settings ofVariable span e).Joins (t.recover settings ofVariable span e) := by
  have placed : t.placed span e = s.placed span e := by
    unfold placed
    rw [joins.context]
  unfold State.recover
  rw [placed]
  cases settings.environment.errorMode with
  | lax => exact joins.write _
  | strict => exact ⟨congrArg (Context.record · (s.placed span e)) joins.context, joins.output⟩

theorem renderNode (renders : sub.Joins) (joins : s.Joins t) (n : Node) :
    (s.renderNode settings sub n).Joins (t.renderNode settings sub n) := by
  obtain ⟨same, after⟩ := (n.action settings).joins_run settings renders joins
  rw [renderNode_eq, renderNode_eq, attempt_eq_run, attempt_eq_run]
  rcases ran : (n.action settings).run settings sub s with ⟨e | _, u⟩ <;>
    rcases ranOther : (n.action settings).run settings sub t with ⟨f | _, v⟩ <;>
    rw [ran, ranOther] at same after <;> cases same
  · exact after.recover settings n.isVariable n.span? e
  · exact after

theorem renderList (renders : sub.Joins) (joins : s.Joins t) (nodes : List Node) :
    (s.renderList settings sub nodes).Joins (t.renderList settings sub nodes) := by
  induction nodes generalizing s t with
  | nil => exact joins
  | cons n ns ih =>
    have after := joins.renderNode settings renders n
    rw [State.renderList, State.renderList, after.context]
    by_cases normal : (s.renderNode settings sub n).context.signal = .normal
    · simp only [normal, if_true]
      exact ih after
    · simp only [normal, if_false]
      exact after

end State.Joins

theorem joins_renderNodes (settings : Settings) (levels : Nat) :
    (renderNodes settings levels).Joins := by
  induction levels with
  | zero => exact fun _ _ _ joins => ⟨rfl, joins⟩
  | succ levels ih => exact fun nodes _ _ joins => ⟨rfl, joins.renderList settings ih nodes⟩

end Rendering

/-! ## Whole renders -/

/-- What was rendered in fragments, and what was rendered into one text. -/
structure Rendered.Joins (r q : Rendered) : Prop where
  context : q.context = r.context
  output : r.output.Joins q.output

/-- The options with fragments kept, or with all joined into one text. -/
def RenderOptions.joined (options : RenderOptions) (join : Bool) : RenderOptions :=
  { options with joinOutput := join }

namespace Environment

theorem joins_startState (template : Template) (assigns : Value) (options : RenderOptions) :
    (startState template assigns (options.joined false)).Joins
      (startState template assigns (options.joined true)) :=
  ⟨rfl, .start⟩

/-- Whatever the handlers do, a render into fragments and one into a joined text come to the same
context, the fragments are not empty, and joined they are the text. -/
theorem render_joined (env : Environment) (template : Template) (assigns : Value)
    (options : RenderOptions) :
    Agree Rendered.Joins (env.render template assigns (options.joined false))
      (env.render template assigns (options.joined true)) := by
  have joins : (env.finalState template assigns.imported (options.joined false)).Joins
      (env.finalState template assigns.imported (options.joined true)) :=
    (joins_renderNodes (env.settings options) maxLevels template.nodes
      (joins_startState template assigns.imported options)).2
  exact (Agree.refl (checkAssigns assigns.imported)).bind fun _ _ _ =>
    .ok ⟨joins.context, joins.output.finish⟩

/-- A tag that opens a capture, writes and leaves the capture open. -/
def openEnded : Tag Unit where
  type := "open"
  parse _ := .ok ()
  render _ := do
    Action.ask .beginCapture
    Action.write "b"

/-- What is still open at the end is written as one fragment, and what is empty as none. -/
example :
    (finalState { empty with registry := [("open", openEnded.handler)] }
      (.ofNodes "page" [.text "a", .text "", .tag "open" "" .unit ⟨⟨1, 1⟩, ⟨1, 11⟩⟩,
        .tag "open" "" .unit ⟨⟨1, 11⟩, ⟨1, 21⟩⟩, .text "c"])
      .none (RenderOptions.default.joined false)).output.finish = .fragments ["a", "bbc"] := by
  decide

end Environment

end Stencil
