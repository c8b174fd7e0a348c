import Stencil.Extension.Handlers
import Stencil.Proofs.Render.Levels

/-!
# What is rendered while a signal is up

The signal is looked at behind every node, and not before the first node of a list.  So a list is
left behind the first node that leaves a signal, but a list that a handler asks for while a signal
is up begins all the same: whatever the handlers are, a node that is come to at a raised signal is
the first one of such a list (`Spot.isEntry_of_raised`), and a block that asks for lists without
looking at the signal goes on with their first nodes alone (`run_renderAll_of_staysUp`).
-/

namespace Stencil

section Abandoned

variable (settings : Settings)

/-! ## Where a render comes to at a raised signal -/

/-- The spot is the start of a list of nodes that a node asks for, as a render from `p` on comes to
it. -/
def Spot.IsEntry (p q : Spot) : Prop :=
  ∃ depth n siblings s d, p.Reaches settings ⟨depth, n :: siblings, s⟩ ∧
    d ∈ s.descents settings (renderAt settings depth) n ∧ q = ⟨depth + 1, d.nodes, d.state⟩

variable {settings}

/-- Nodes behind another one of their list are only come to at a normal signal. -/
theorem Spot.isEntry_of_raised {p q : Spot} (normal : p.state.context.signal = .normal)
    (reaches : p.Reaches settings q) (raised : q.state.context.signal ≠ .normal) :
    p.IsEntry settings q := by
  cases reaches with
  | refl => exact absurd normal raised
  | tail before last =>
    cases last with
    | sibling goesOn => exact absurd goesOn raised
    | inside asked accepted => exact ⟨_, _, _, _, _, before, asked, rfl⟩

/-! ## One list -/

/-- A list is left behind its first node if that one leaves a signal. -/
theorem renderNodes_eq_first (levels : Nat) (nodes : List Node) (s : State)
    (raised : (renderNodes settings levels (nodes.take 1) s).2.context.signal ≠ .normal) :
    renderNodes settings levels nodes s = renderNodes settings levels (nodes.take 1) s ∧
      history settings levels nodes s = history settings levels (nodes.take 1) s := by
  cases levels with
  | zero => exact ⟨rfl, rfl⟩
  | succ levels =>
    cases nodes with
    | nil => exact ⟨rfl, rfl⟩
    | cons n siblings =>
      have single : renderNodes settings (levels + 1) [n] s =
          (.ok (), s.renderNode settings (renderNodes settings levels) n) := by
        simp [renderNodes, State.renderList]
      rw [List.take_succ_cons, List.take_zero, single] at raised ⊢
      constructor
      · rw [renderNodes, State.renderList, if_neg raised]
      · simp only [history, State.eventsOfList, if_neg raised, List.append_nil]

end Abandoned

/-! ## Lists that are asked for one after the other -/

namespace Action

/-- Renders lists of nodes one after the other, whatever the signal is in between. -/
def renderAll : List (List Node) → Action Unit
  | [] => pure ()
  | nodes :: lists => do
    renderNodes nodes
    renderAll lists

variable {settings : Settings} {sub : Renderer}

theorem run_renderAll_cons (nodes : List Node) (lists : List (List Node)) (s : State) :
    (renderAll (nodes :: lists)).run settings sub s =
      match sub nodes s with
      | (.ok (), t) => (renderAll lists).run settings sub t
      | (.error e, t) => (.error e, t) := by
  rw [renderAll, run_bind, run_renderNodes]
  rcases sub nodes s with ⟨_ | _, t⟩ <;> rfl

theorem run_renderAll_append (before behind : List (List Node)) (s : State) :
    (renderAll (before ++ behind)).run settings sub s =
      match (renderAll before).run settings sub s with
      | (.ok (), t) => (renderAll behind).run settings sub t
      | (.error e, t) => (.error e, t) := by
  induction before generalizing s with
  | nil => rfl
  | cons nodes lists ih =>
    rw [List.cons_append, run_renderAll_cons, run_renderAll_cons]
    rcases sub nodes s with ⟨_ | _, t⟩
    · rfl
    · exact ih t

/-- The signal is up, and no first node of the lists takes it down. -/
def StaysUp (sub : Renderer) : List (List Node) → State → Prop
  | [], s => s.context.signal ≠ .normal
  | nodes :: lists, s => s.context.signal ≠ .normal ∧ StaysUp sub lists (sub (nodes.take 1) s).2

theorem StaysUp.raised {lists : List (List Node)} {s : State} (up : StaysUp sub lists s) :
    s.context.signal ≠ .normal := by
  cases lists with
  | nil => exact up
  | cons nodes lists => exact up.1

variable {levels : Nat} {lists : List (List Node)} {s : State}

/-- While the signal stays up, of each list only the first node is rendered. -/
theorem run_renderAll_of_staysUp (up : StaysUp (Stencil.renderNodes settings levels) lists s) :
    (renderAll lists).run settings (Stencil.renderNodes settings levels) s =
      (renderAll (lists.map (List.take 1))).run settings (Stencil.renderNodes settings levels) s := by
  induction lists generalizing s with
  | nil => rfl
  | cons nodes lists ih =>
    have first := (renderNodes_eq_first levels nodes s up.2.raised).1
    rw [List.map_cons, run_renderAll_cons, run_renderAll_cons, first]
    rcases rendered : Stencil.renderNodes settings levels (nodes.take 1) s with ⟨_ | _, t⟩
    · rfl
    · have rest := up.2
      rw [rendered] at rest
      exact ih rest

/-- The first nodes of the lists write nothing at a raised signal. -/
def Quiet (sub : Renderer) (lists : List (List Node)) : Prop :=
  ∀ nodes ∈ lists, ∀ s, s.context.signal ≠ .normal → (sub (nodes.take 1) s).2.output = s.output

/-- If they write nothing, then nothing more is written while the signal stays up. -/
theorem output_renderAll_of_quiet (up : StaysUp (Stencil.renderNodes settings levels) lists s)
    (quiet : Quiet (Stencil.renderNodes settings levels) lists) :
    ((renderAll lists).run settings (Stencil.renderNodes settings levels) s).2.output =
      s.output := by
  induction lists generalizing s with
  | nil => rfl
  | cons nodes lists ih =>
    obtain ⟨silent, others⟩ := List.forall_mem_cons.mp quiet
    have unwritten := silent s up.raised
    have first := (renderNodes_eq_first levels nodes s up.2.raised).1
    rw [run_renderAll_cons, first]
    rcases rendered : Stencil.renderNodes settings levels (nodes.take 1) s with ⟨_ | _, t⟩
    · rw [rendered] at unwritten
      exact unwritten
    · have rest := up.2
      rw [rendered] at unwritten rest
      exact (ih rest others).trans unwritten

end Action

/-! ## Blocks that do not look at the signal -/

/-- The handler fails, or it renders the lists of nodes that it asks for when it is called, one
after the other and without looking at the signal. -/
def Handler.AsksFor (h : Handler)
    (asks : Settings → State → Call → Except Error (List (List Node))) : Prop :=
  ∀ settings sub s call, (h.render call).run settings sub s =
    (Action.ofExcept (asks settings s call) >>= Action.renderAll).run settings sub s

namespace Extension

open Stencil.Action (renderAll)

/-- The lists of a repetition with other nodes in between. -/
def separated (nodes between : List Node) : Nat → List (List Node)
  | 0 => []
  | 1 => [nodes]
  | n + 2 => nodes :: between :: separated nodes between (n + 1)

theorem renderAll_single (nodes : List Node) : renderAll [nodes] = Action.renderNodes nodes :=
  Action.bind_done _

theorem renderTimes_eq (nodes between : List Node) (n : Nat) :
    renderTimes nodes between n = renderAll (separated nodes between n) := by
  induction n with
  | zero => rfl
  | succ n ih =>
    cases n with
    | zero => exact (renderAll_single nodes).symm
    | succ n => rw [renderTimes, ih, separated, renderAll, renderAll]

theorem renderPlainTimes_eq (nodes : List Node) (n : Nat) :
    renderPlainTimes nodes n = renderAll (List.replicate n nodes) := by
  induction n with
  | zero => rfl
  | succ n ih => rw [renderPlainTimes, ih, List.replicate_succ, renderAll]

/-- The lists of a repetition, or the failure of its value. -/
def repeatedLists (settings : Settings) (s : State) (body : Body Expr Unit) :
    Except Error (List (List Node)) := do
  let value ← (s.context.scope settings).eval body.markup
  let times := ((value.asInt?.map Int64.toInt).getD 0).toNat
  match body.clauses with
  | [] => pure (List.replicate times body.nodes)
  | c :: _ => pure (separated body.nodes c.nodes times)

/-- What a repetition asks for. -/
def repeatedBy (settings : Settings) (s : State) : Call → Except Error (List (List Node))
  | .tag name _ => .error (Cause.blockAsTag name)
  | .block name payload nodes clauses =>
    Body.ofBlock name payload nodes clauses >>= repeatedLists settings s

theorem run_repeat (settings : Settings) (sub : Renderer) (s : State) (body : Body Expr Unit) :
    («repeat».render body).run settings sub s =
      (Action.ofExcept (repeatedLists settings s body) >>= renderAll).run settings sub s := by
  simp only [«repeat», repeatedLists, (Action.Looks.evalExpr _).run_bind, Action.answer_evalExpr]
  rcases (s.context.scope settings).eval body.markup with e | value
  · rfl
  · rcases clauses : body.clauses with _ | ⟨c, _⟩
    · simp only [renderPlainTimes_eq]
      rfl
    · simp only [renderTimes_eq]
      rfl

theorem repeat_asksFor : «repeat».handler.AsksFor repeatedBy := by
  intro settings sub s call
  cases call with
  | tag name payload => rfl
  | block name payload nodes clauses =>
    simp only [repeatedBy, Block.handler]
    rcases (Body.ofBlock name payload nodes clauses : Except Error (Body Expr Unit)) with e | body
    · rfl
    · exact run_repeat settings sub s body

end Extension

/-! ## Abandonment -/

/-- What becomes of nodes while a signal is up, whatever the handlers are. -/
structure Settings.Abandons (settings : Settings) : Prop where
  /-- A node is come to at a raised signal only where it is the first one of a list that is asked
  for then. -/
  entry : ∀ p q : Spot, p.state.context.signal = .normal → p.Reaches settings q →
    q.state.context.signal ≠ .normal → p.IsEntry settings q
  /-- If the first node leaves the signal up, nothing is done behind it. -/
  first : ∀ levels nodes s,
    (renderNodes settings levels (nodes.take 1) s).2.context.signal ≠ .normal →
    renderNodes settings levels nodes s = renderNodes settings levels (nodes.take 1) s ∧
      history settings levels nodes s = history settings levels (nodes.take 1) s
  /-- Without a first node, and where lists are refused, nothing is done at all. -/
  nothing : ∀ levels nodes s, levels = 0 ∨ nodes = [] →
    (renderNodes settings levels nodes s).2 = s ∧ history settings levels nodes s = []
  /-- A block that does not look at the signal goes on with the first nodes of its lists alone. -/
  blind : ∀ h asks, Handler.AsksFor h asks → ∀ call levels s t before behind,
    asks settings s call = .ok (before ++ behind) →
    (Action.renderAll before).run settings (renderNodes settings levels) s = (.ok (), t) →
    Action.StaysUp (renderNodes settings levels) behind t →
    (h.render call).run settings (renderNodes settings levels) s =
        (Action.renderAll (behind.map (List.take 1))).run settings (renderNodes settings levels) t ∧
      (Action.Quiet (renderNodes settings levels) behind →
        ((h.render call).run settings (renderNodes settings levels) s).2.output = t.output)

theorem Handler.AsksFor.run_eq {settings : Settings} {sub : Renderer} {s t : State} {call : Call}
    {h : Handler} {asks : Settings → State → Call → Except Error (List (List Node))}
    {before behind : List (List Node)} (blind : h.AsksFor asks)
    (asked : asks settings s call = .ok (before ++ behind))
    (ran : (Action.renderAll before).run settings sub s = (.ok (), t)) :
    (h.render call).run settings sub s = (Action.renderAll behind).run settings sub t := by
  rw [blind, asked]
  show (Action.renderAll (before ++ behind)).run settings sub s = _
  rw [Action.run_renderAll_append, ran]

theorem Settings.abandons (settings : Settings) : settings.Abandons where
  entry _ _ normal reaches raised := Spot.isEntry_of_raised normal reaches raised
  first levels nodes s raised := renderNodes_eq_first levels nodes s raised
  nothing levels nodes s either := by
    rcases either with rfl | rfl
    · exact ⟨rfl, rfl⟩
    · cases levels <;> exact ⟨rfl, rfl⟩
  blind h asks blind call levels s t before behind asked ran up := by
    rw [blind.run_eq asked ran]
    exact ⟨Action.run_renderAll_of_staysUp up, Action.output_renderAll_of_quiet up⟩

/-! ### A repetition that is left -/

/-- The standard environment with the repetition. -/
def repeatEnvironment : Environment :=
  { Environment.standard with
    registry := Table.set Environment.standard.registry "repeat" Extension.«repeat».handler }

/-- Nodes that are left in their middle. -/
def leftNodes : List Node :=
  [.text "a", .tag "break" "" .unit ⟨⟨1, 15⟩, ⟨1, 26⟩⟩, .text "b"]

def repeatPage : Template := .ofNodes "page" [
  .block "repeat" "3" (.expr (.const (.int 3))) ⟨⟨1, 0⟩, ⟨1, 14⟩⟩ leftNodes []]

/-- The state behind the first pass of the repetition, in which the signal is up. -/
def leftState : State :=
  (renderNodes (repeatEnvironment.settings .default) 99 leftNodes
    (Environment.startState repeatPage .none .default)).2

/-- What is left of the repetition behind its first pass is to write the text in front twice. -/
theorem Settings.abandons_repeat :
    Extension.«repeat».handler.AsksFor Extension.repeatedBy ∧
    leftState.context.signal = .break ∧ leftState.output = ⟨.joined "a", []⟩ ∧
    (Extension.«repeat».handler.render (.block "repeat" (.expr (.const (.int 3))) leftNodes [])).run
        (repeatEnvironment.settings .default) (renderNodes (repeatEnvironment.settings .default) 99)
        (Environment.startState repeatPage .none .default) =
      (Action.renderAll [[.text "a"], [.text "a"]]).run (repeatEnvironment.settings .default)
        (renderNodes (repeatEnvironment.settings .default) 99) leftState := by
  have up : Action.StaysUp (renderNodes (repeatEnvironment.settings .default) 99)
      [leftNodes, leftNodes] leftState :=
    ⟨Signal.noConfusion, Signal.noConfusion, Signal.noConfusion⟩
  have rest := (abandons (repeatEnvironment.settings .default)).blind _ _ Extension.repeat_asksFor
    (.block "repeat" (.expr (.const (.int 3))) leftNodes []) 99
    (Environment.startState repeatPage .none .default) leftState [leftNodes]
    [leftNodes, leftNodes] rfl rfl up
  exact ⟨Extension.repeat_asksFor, rfl, rfl, rest.1⟩

/-- Nodes that are rendered once more while the signal is up write the text in front again, so a
repetition that is left in its first pass writes it in every pass. -/
theorem first_node_not_abandoned :
    leftState.context.signal = .break ∧ leftState.output = ⟨.joined "a", []⟩ ∧
    (renderNodes (repeatEnvironment.settings .default) 99 leftNodes leftState).2.output =
      ⟨.joined "aa", []⟩ ∧
    Environment.standard.register "repeat" Extension.«repeat».handler = .ok repeatEnvironment ∧
    (repeatEnvironment.finalState repeatPage .none .default).output.finish = .joined "aaa" :=
  ⟨rfl, rfl, rfl, rfl, by decide +kernel⟩

end Stencil
