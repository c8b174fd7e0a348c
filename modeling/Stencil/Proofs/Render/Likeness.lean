import Mathlib.Data.List.Forall2
import Stencil.Proofs.Render.Builtin

/-!
# Handlers treat alike what is alike

A `Likeness` says which lists of nodes, and which templates, count as alike.  Two actions are alike
(`Action.Alike`) if they perform the same operations in the same order, as long as their answers are
alike, on nodes and templates that are alike.  Every built-in handler is alike on calls that are
alike (`Handler.IsBuiltin.alike`): it renders nodes and enters templates, but does not look into
them.

The judgement also counts what an action has opened: every scope and every capture is closed in the
order in which they were opened, and an action fails only where nothing is open.
-/

namespace Stencil

/-! ## What is alike -/

/-- Which lists of nodes and which templates count as alike. -/
structure Likeness where
  nodes : List Node → List Node → Prop
  templates : Template → Template → Prop
  ofTemplates : ∀ {t u}, templates t u → nodes t.nodes u.nodes

/-- Only the same is alike. -/
def Likeness.same : Likeness := ⟨Eq, Eq, congrArg Template.nodes⟩

theorem Likeness.same_option (o : Option (List Node)) : Option.Rel same.nodes o o := by
  cases o with
  | none => exact .none
  | some nodes => exact .some rfl

section Alike

variable (l : Likeness)

structure Clause.Alike (c d : Clause Node) : Prop where
  name : c.name = d.name
  markup : c.markup = d.markup
  payload : c.payload = d.payload
  body : l.nodes c.body d.body

/-- The nodes are one but for the nodes inside of them, which are alike. -/
inductive Node.Alike : Node → Node → Prop
  | text (s : String) : Node.Alike (.text s) (.text s)
  | «variable» (v : Variable) (span : Span) : Node.Alike (.variable v span) (.variable v span)
  | tag (name markup : String) (payload : Payload) (span : Span) :
    Node.Alike (.tag name markup payload span) (.tag name markup payload span)
  | block (name markup : String) (payload : Payload) (span : Span) {ns ms : List Node}
      {cs ds : List (Clause Node)} (body : l.nodes ns ms)
      (clauses : List.Forall₂ (Clause.Alike l) cs ds) :
    Node.Alike (.block name markup payload span ns cs) (.block name markup payload span ms ds)

inductive Call.Alike : Call → Call → Prop
  | tag (name : String) (payload : Payload) : Call.Alike (.tag name payload) (.tag name payload)
  | block (name : String) (payload : Payload) {ns ms : List Node} {cs ds : List (Clause Node)}
      (body : l.nodes ns ms) (clauses : List.Forall₂ (Clause.Alike l) cs ds) :
    Call.Alike (.block name payload ns cs) (.block name payload ms ds)

structure Section.Alike {κ : Type} (c d : Section κ) : Prop where
  name : c.name = d.name
  markup : c.markup = d.markup
  nodes : l.nodes c.nodes d.nodes

structure Body.Alike {μ κ : Type} (b c : Body μ κ) : Prop where
  name : b.name = c.name
  markup : b.markup = c.markup
  nodes : l.nodes b.nodes c.nodes
  clauses : List.Forall₂ (Section.Alike l) b.clauses c.clauses

end Alike

/-- Both fail with the same error, or both succeed with what is related. -/
inductive Agree {α β : Type} (A : α → β → Prop) : Except Error α → Except Error β → Prop
  | ok {a : α} {b : β} (related : A a b) : Agree A (.ok a) (.ok b)
  | error (e : Error) : Agree A (.error e) (.error e)

namespace Agree

theorem refl {α : Type} (r : Except Error α) : Agree Eq r r := by
  cases r with
  | ok a => exact .ok rfl
  | error e => exact .error e

theorem eq {α : Type} {r q : Except Error α} (agree : Agree Eq r q) : r = q := by
  cases agree with
  | ok related => rw [related]
  | error => rfl

theorem bind {α β γ δ : Type} {A : α → β → Prop} {B : γ → δ → Prop} {r : Except Error α}
    {q : Except Error β} {f : α → Except Error γ} {g : β → Except Error δ} (agree : Agree A r q)
    (rest : ∀ a b, A a b → Agree B (f a) (g b)) : Agree B (r >>= f) (q >>= g) := by
  cases agree with
  | ok related => exact rest _ _ related
  | error e => exact .error e

end Agree

/-! ## The judgement -/

/-- How many scopes and captures are open. -/
structure Opened where
  scopes : Nat
  captures : Nat

abbrev Opened.nothing : Opened := ⟨0, 0⟩

/-- What an operation makes of what is open.  Here are the operations that built-in handlers perform
without naming nodes or templates. -/
inductive Op.Moves : Op → Opened → Opened → Prop
  | write (s : String) (i : Opened) : Moves (.write s) i i
  | setGlobal (name : String) (v : Value) (i : Opened) : Moves (.setGlobal name v) i i
  | register (key : String) (i : Opened) : Moves (.register key) i i
  | setRegister (key : String) (v : Value) (i : Opened) : Moves (.setRegister key v) i i
  | signal (i : Opened) : Moves .signal i i
  | setSignal (signal : Signal) (i : Opened) : Moves (.setSignal signal) i i
  | evalExpr (e : Expr) (i : Opened) : Moves (.evalExpr e) i i
  | evalChain (c : ConditionChain) (i : Opened) : Moves (.evalChain c) i i
  | evalVariable (v : Variable) (i : Opened) : Moves (.evalVariable v) i i
  | pushScope (m n : Nat) : Moves .pushScope ⟨m, n⟩ ⟨m + 1, n⟩
  | setLocal (name : String) (v : Value) (m n : Nat) :
    Moves (.setLocal name v) ⟨m + 1, n⟩ ⟨m + 1, n⟩
  | popScope (m n : Nat) : Moves .popScope ⟨m + 1, n⟩ ⟨m, n⟩
  | beginCapture (m n : Nat) : Moves .beginCapture ⟨m, n⟩ ⟨m, n + 1⟩
  | endCapture (m n : Nat) : Moves .endCapture ⟨m, n + 1⟩ ⟨m, n⟩

namespace Action

/-- The actions perform the same operations as long as the answers are alike.  They begin where `i`
is open and end where `j` is. -/
inductive Alike (l : Likeness) :
    {α β : Type} → (α → β → Prop) → Opened → Opened → Action α → Action β → Prop
  | done {α β : Type} {A : α → β → Prop} {a : α} {b : β} (related : A a b) (i : Opened) :
    Alike l A i i (.done a) (.done b)
  | fail {α β : Type} {A : α → β → Prop} (e : Error) (j : Opened) :
    Alike l A .nothing j (.fail e) (.fail e)
  | bind {α β γ δ : Type} {A : α → β → Prop} {B : γ → δ → Prop} {i j k : Opened} {a : Action α}
      {b : Action β} {f : α → Action γ} {g : β → Action δ} (first : Alike l A i j a b)
      (rest : ∀ x y, A x y → Alike l B j k (f x) (g y)) : Alike l B i k (a >>= f) (b >>= g)
  | ask {op : Op} {i j : Opened} (moves : op.Moves i j) : Alike l Eq i j (.ask op) (.ask op)
  | render {ns ms : List Node} (related : l.nodes ns ms) (i : Opened) :
    Alike l Eq i i (.ask (.renderNodes ns)) (.ask (.renderNodes ms))
  | override (name : String) (i : Opened) :
    Alike l (Option.Rel l.nodes) i i (.ask (.blockOverride name)) (.ask (.blockOverride name))
  | find (name : String) (i : Opened) :
    Alike l (Agree l.templates) i i (.ask (.findTemplate name)) (.ask (.findTemplate name))
  | extend {t u : Template} (related : l.templates t u) :
    Alike l Eq .nothing .nothing (Tags.renderParent t) (Tags.renderParent u)

namespace Alike

variable {l : Likeness} {i j k : Opened} {α β γ δ : Type}

/-- An action goes on alike from one result. -/
theorem andThen {B : γ → δ → Prop} {a b : Action α} {f : α → Action γ} {g : α → Action δ}
    (first : Alike l Eq i j a b) (rest : ∀ x, Alike l B j k (f x) (g x)) :
    Alike l B i k (a >>= f) (b >>= g) :=
  .bind first fun x _ same => same ▸ rest x

theorem ofExcept {A : α → β → Prop} {r : Except Error α} {q : Except Error β}
    (agree : Agree A r q) : Alike l A .nothing .nothing (ofExcept r) (ofExcept q) := by
  cases agree with
  | ok related => exact .done related _
  | error e => exact .fail e _

/-- An operation that answers with a result or a failure is followed by what it answers. -/
theorem orFail {A : α → β → Prop} {a : Action (Except Error α)} {b : Action (Except Error β)}
    (first : Alike l (Agree A) i .nothing a b) :
    Alike l A i .nothing (a >>= Action.ofExcept) (b >>= Action.ofExcept) :=
  .bind first fun _ _ agree => ofExcept agree

theorem orFailSame {a b : Action (Except Error α)} (first : Alike l Eq i .nothing a b) :
    Alike l Eq i .nothing (a >>= Action.ofExcept) (b >>= Action.ofExcept) :=
  .andThen first fun r => ofExcept (.refl r)

theorem evalExpr (e : Expr) :
    Alike l Eq .nothing .nothing (evalExpr e) (Action.evalExpr e) :=
  .orFailSame (.ask (.evalExpr e _))

theorem evalChain (c : ConditionChain) :
    Alike l Eq .nothing .nothing (evalChain c) (Action.evalChain c) :=
  .orFailSame (.ask (.evalChain c _))

theorem evalVariable (v : Variable) :
    Alike l Eq .nothing .nothing (evalVariable v) (Action.evalVariable v) :=
  .orFailSame (.ask (.evalVariable v _))

theorem findTemplate (name : String) :
    Alike l l.templates .nothing .nothing (findTemplate name) (Action.findTemplate name) :=
  .orFail (.find name _)

theorem renderNodes {ns ms : List Node} (related : l.nodes ns ms) :
    Alike l Eq .nothing .nothing (renderNodes ns) (Action.renderNodes ms) :=
  .orFailSame (.render related _)

theorem nothing : Alike l Eq i i (pure ()) (pure ()) := .done rfl _

end Alike

end Action

/-! ## Blocks as handlers see them -/

section Calls

variable {l : Likeness}

theorem Section.alike_ofClause {κ : Type} [MarkupType κ] {c d : Clause Node}
    (alike : c.Alike l d) :
    Agree (Section.Alike l (κ := κ)) (Section.ofClause c) (Section.ofClause d) := by
  unfold Section.ofClause
  rw [alike.payload]
  refine (Agree.refl _).bind fun m _ same => ?_
  subst same
  exact .ok ⟨alike.name, rfl, alike.body⟩

theorem Section.alike_mapM {κ : Type} [MarkupType κ] {cs ds : List (Clause Node)}
    (alike : List.Forall₂ (Clause.Alike l) cs ds) :
    Agree (List.Forall₂ (Section.Alike l (κ := κ))) (cs.mapM Section.ofClause)
      (ds.mapM Section.ofClause) := by
  induction alike with
  | nil => exact .ok .nil
  | cons first _ ih =>
    rw [List.mapM_cons, List.mapM_cons]
    exact (Section.alike_ofClause first).bind fun _ _ one =>
      ih.bind fun _ _ others => .ok (.cons one others)

theorem Body.alike_ofBlock {μ κ : Type} [MarkupType μ] [MarkupType κ] (name : String)
    (payload : Payload) {ns ms : List Node} {cs ds : List (Clause Node)} (body : l.nodes ns ms)
    (clauses : List.Forall₂ (Clause.Alike l) cs ds) :
    Agree (Body.Alike l (μ := μ) (κ := κ)) (Body.ofBlock name payload ns cs)
      (Body.ofBlock name payload ms ds) :=
  (Section.alike_mapM clauses).bind fun _ _ sections =>
    (Agree.refl _).bind fun _ _ same => .ok ⟨rfl, same, body, sections⟩

/-- Actions of handlers, which open nothing that they do not close. -/
abbrev Action.Balanced (l : Likeness) (a b : Action Unit) : Prop :=
  Action.Alike l Eq .nothing .nothing a b

theorem Tag.alike {μ : Type} [MarkupType μ] {t : Tag μ}
    (renders : ∀ m, Action.Balanced l (t.render m) (t.render m)) {c d : Call}
    (calls : c.Alike l d) : Action.Balanced l (t.handler.render c) (t.handler.render d) := by
  cases calls with
  | tag name payload => exact .andThen (.ofExcept (.refl _)) renders
  | block name => exact .fail _ _

theorem Block.alike {μ κ : Type} [MarkupType μ] [MarkupType κ] {k : Block μ κ}
    (renders : ∀ b c : Body μ κ, b.Alike l c → Action.Balanced l (k.render b) (k.render c))
    {c d : Call} (calls : c.Alike l d) :
    Action.Balanced l (k.handler.render c) (k.handler.render d) := by
  cases calls with
  | tag name => exact .fail _ _
  | block name payload body clauses =>
    exact .bind (.ofExcept (Body.alike_ofBlock name payload body clauses)) renders

/-! ## The built-in handlers -/

namespace Tags

open Stencil.Action (Alike Balanced)

theorem alike_assign (a : Assignment) : Balanced l (assign.render a) (assign.render a) :=
  .andThen (.evalVariable a.value) fun v => .ask (.setGlobal a.name v _)

theorem alike_captureNodes (name : String) {ns ms : List Node} (related : l.nodes ns ms) :
    Balanced l (captureNodes name ns) (captureNodes name ms) :=
  .andThen (.ask (.beginCapture 0 0)) fun _ => .andThen (.render related _) fun outcome =>
    .andThen (.ask (.endCapture 0 0)) fun text => .andThen (.ofExcept (.refl outcome)) fun _ =>
      .ask (.setGlobal name (.string text) _)

theorem alike_counter (name : String) :
    Alike l Eq .nothing .nothing (counter name) (counter name) :=
  .andThen (.ask (.register _ _)) fun _ => .done rfl _

theorem alike_increment (name : String) :
    Balanced l (increment.render name) (increment.render name) :=
  .andThen (alike_counter name) fun _ => .andThen (.ask (.write _ _)) fun _ =>
    .ask (.setRegister _ _ _)

theorem alike_decrement (name : String) :
    Balanced l (decrement.render name) (decrement.render name) :=
  .andThen (alike_counter name) fun _ => .andThen (.ask (.write _ _)) fun _ =>
    .ask (.setRegister _ _ _)

theorem alike_renderFirst {cs ds : List (Option ConditionChain × List Node)}
    (alike : List.Forall₂ (fun c d => c.1 = d.1 ∧ l.nodes c.2 d.2) cs ds) :
    Balanced l (renderFirst cs) (renderFirst ds) := by
  induction alike with
  | nil => exact .nothing
  | @cons c d _ _ first _ ih =>
    obtain ⟨condition, ns⟩ := c
    obtain ⟨_, ms⟩ := d
    obtain ⟨rfl, related⟩ := first
    cases condition with
    | none => exact .renderNodes related
    | some condition =>
      refine .andThen (.evalChain condition) fun chosen => ?_
      cases chosen with
      | true => exact .renderNodes related
      | false => exact ih

theorem alike_if {b c : Body ConditionChain (Option ConditionChain)} (alike : b.Alike l c) :
    Balanced l («if».render b) («if».render c) := by
  have sections : List.Forall₂ (fun c d => c.1 = d.1 ∧ l.nodes c.2 d.2)
      (b.clauses.map fun s => (s.markup, s.nodes))
      (c.clauses.map fun s => (s.markup, s.nodes)) := by
    rw [List.forall₂_map_left_iff, List.forall₂_map_right_iff]
    exact alike.clauses.imp fun _ _ one => ⟨one.markup, one.nodes⟩
  exact alike_renderFirst (.cons ⟨congrArg some alike.markup, alike.nodes⟩ sections)

theorem alike_unless {b c : Body ConditionChain Unit} (alike : b.Alike l c) :
    Balanced l («unless».render b) («unless».render c) := by
  show Balanced l (Action.evalChain b.markup >>= _) (Action.evalChain c.markup >>= _)
  rw [alike.markup]
  refine .andThen (.evalChain c.markup) fun chosen => ?_
  cases chosen with
  | false => exact .renderNodes alike.nodes
  | true =>
    have sections := alike.clauses
    revert sections
    cases b.clauses <;> cases c.clauses <;> intro sections <;> cases sections
    · exact .nothing
    · next first _ => exact .renderNodes first.nodes

theorem alike_anyEquals (v : Value) (es : List Expr) :
    Alike l Eq .nothing .nothing (anyEquals v es) (anyEquals v es) := by
  induction es with
  | nil => exact .done rfl _
  | cons e rest ih =>
    refine .andThen (.evalExpr e) fun candidate => ?_
    by_cases h : candidate.equals v
    · rw [if_pos h]
      exact .done rfl _
    · rw [if_neg h]
      exact ih

theorem alike_selects (v : Value) (matched : Bool) (markup : Option (List Expr)) :
    Alike l Eq .nothing .nothing (selects v matched markup) (selects v matched markup) := by
  cases markup with
  | none => exact .done rfl _
  | some es => exact alike_anyEquals v es

theorem alike_renderSections (v : Value) (matched : Bool)
    {cs ds : List (Section (Option (List Expr)))} (alike : List.Forall₂ (Section.Alike l) cs ds) :
    Balanced l (renderSections v matched cs) (renderSections v matched ds) := by
  induction alike generalizing matched with
  | nil => exact .nothing
  | @cons c d _ _ first _ ih =>
    rw [renderSections_cons, renderSections_cons, first.markup]
    refine .andThen (alike_selects v matched d.markup) fun chosen => ?_
    cases chosen with
    | false => exact ih matched
    | true =>
      refine .andThen (.renderNodes first.nodes) fun _ =>
        .andThen (.ask (.signal _)) fun signal => ?_
      by_cases normal : signal = .normal
      · rw [if_pos normal, if_pos normal]
        exact ih true
      · rw [if_neg normal, if_neg normal]
        exact .nothing

theorem alike_case {b c : Body Expr (Option (List Expr))} (alike : b.Alike l c) :
    Balanced l (case.render b) (case.render c) := by
  show Balanced l (Action.evalExpr b.markup >>= _) (Action.evalExpr c.markup >>= _)
  rw [alike.markup]
  exact .andThen (.evalExpr c.markup) fun v => alike_renderSections v false alike.clauses

/-! ### Loops -/

theorem alike_evalCount (what : String) (e : Option Expr) :
    Alike l Eq .nothing .nothing (evalCount what e) (evalCount what e) := by
  cases e with
  | none => exact .done rfl _
  | some e =>
    refine .andThen (.evalExpr e) fun v => ?_
    by_cases h : v.isNil
    · rw [if_pos h]
      exact .done rfl _
    · rw [if_neg h]
      cases v.asInt? with
      | none => exact .fail _ _
      | some n => exact .done rfl _

theorem alike_itemsOf (loop : Loop) :
    Alike l Eq .nothing .nothing (itemsOf loop) (itemsOf loop) :=
  .andThen (.evalExpr loop.items) fun _ => .andThen (.ofExcept (.refl _)) fun _ =>
    .andThen (alike_evalCount ..) fun _ => .andThen (alike_evalCount ..) fun _ => .done rfl _

/-- The rounds of a loop stand in the scope that the loop has opened. -/
theorem alike_renderItems (name : String) {ns ms : List Node} (related : l.nodes ns ms)
    (length index : Nat) (items : List Value) :
    Alike l Eq ⟨1, 0⟩ ⟨1, 0⟩ (renderItems name ns length index items)
      (renderItems name ms length index items) := by
  induction items generalizing index with
  | nil => exact .done rfl _
  | cons item rest ih =>
    refine .andThen (.ask (.setLocal name item 0 0)) fun _ =>
      .andThen (.ask (.setLocal "forloop" _ 0 0)) fun _ => .andThen (.render related _) fun r => ?_
    cases r with
    | error e => exact .done rfl _
    | ok =>
      refine .andThen (.ask (.signal _)) fun signal => ?_
      cases signal with
      | normal => exact ih (index + 1)
      | «continue» => exact .andThen (.ask (.setSignal _ _)) fun _ => ih (index + 1)
      | «break» => exact .andThen (.ask (.setSignal _ _)) fun _ => .done rfl _
      | extended => exact .done rfl _

theorem alike_renderLoop (name : String) {ns ms : List Node} (related : l.nodes ns ms)
    {cs ds : List (Section Unit)} (sections : List.Forall₂ (Section.Alike l) cs ds)
    (items : List Value) :
    Balanced l (renderLoop name ns cs items) (renderLoop name ms ds items) := by
  cases items with
  | nil =>
    cases sections with
    | nil => exact .nothing
    | cons first => exact .renderNodes first.nodes
  | cons item rest =>
    exact .andThen (.ask (.pushScope 0 0)) fun _ =>
      .andThen (alike_renderItems name related _ 0 (item :: rest)) fun outcome =>
        .andThen (.ask (.popScope 0 0)) fun _ => .ofExcept (.refl outcome)

theorem alike_for {b c : Body Loop Unit} (alike : b.Alike l c) :
    Balanced l («for».render b) («for».render c) := by
  have asks (b : Body Loop Unit) : «for».render b = (do
      let items ← itemsOf b.markup
      renderLoop b.markup.name b.nodes b.clauses items) := by
    simp only [itemsOf, Action.bind_assoc]
    rfl
  rw [asks, asks, alike.markup]
  exact .andThen (alike_itemsOf c.markup) fun items =>
    alike_renderLoop c.markup.name alike.nodes alike.clauses items

/-! ### Inheritance -/

theorem alike_extends {c d : Call} (calls : c.Alike l d) :
    Balanced l (extendsTag.handler.render c) (extendsTag.handler.render d) := by
  cases calls with
  | block name => exact .fail _ _
  | tag name payload =>
    rw [render_extends]
    have parents : Alike l l.templates .nothing .nothing (parentOf payload) (parentOf payload) :=
      .andThen (.ofExcept (.refl _)) fun e => .andThen (.evalExpr e) fun _ =>
        .andThen (.ofExcept (.refl _)) fun name => .findTemplate name
    exact .bind parents fun _ _ related => .extend related

theorem alike_namedBlock {b c : Body String Unit} (alike : b.Alike l c) :
    Balanced l (namedBlock.render b) (namedBlock.render c) := by
  show Balanced l (Action.ask (.blockOverride b.markup) >>= _)
    (Action.ask (.blockOverride c.markup) >>= _)
  rw [alike.markup]
  refine .bind (.override c.markup _) fun _ _ override => ?_
  cases override with
  | none => exact .renderNodes alike.nodes
  | some related => exact .renderNodes related

end Tags

/-- Every built-in handler does alike what it is asked alike. -/
theorem Handler.IsBuiltin.alike {h : Handler} (isBuiltin : h.IsBuiltin) {c d : Call}
    (calls : c.Alike l d) : Action.Balanced l (h.render c) (h.render d) := by
  obtain ⟨name, bound⟩ := isBuiltin
  have listed := Table.mem_ofList (Table.mem_of_find? bound)
  simp only [List.mem_cons, List.not_mem_nil, or_false, Prod.mk.injEq] at listed
  rcases listed with ⟨-, rfl⟩ | ⟨-, rfl⟩ | ⟨-, rfl⟩ | ⟨-, rfl⟩ | ⟨-, rfl⟩ | ⟨-, rfl⟩ | ⟨-, rfl⟩ |
    ⟨-, rfl⟩ | ⟨-, rfl⟩ | ⟨-, rfl⟩ | ⟨-, rfl⟩ | ⟨-, rfl⟩ | ⟨-, rfl⟩
  · exact Tag.alike Tags.alike_assign calls
  · refine Block.alike (fun b c alike => ?_) calls
    show Action.Balanced l (Tags.captureNodes b.markup b.nodes) (Tags.captureNodes c.markup c.nodes)
    rw [alike.markup]
    exact Tags.alike_captureNodes c.markup alike.nodes
  · exact Tag.alike Tags.alike_increment calls
  · exact Tag.alike Tags.alike_decrement calls
  · exact Block.alike (fun _ _ => Tags.alike_if) calls
  · exact Block.alike (fun _ _ => Tags.alike_unless) calls
  · exact Block.alike (fun _ _ => Tags.alike_case) calls
  · exact Block.alike (fun _ _ _ => .nothing) calls
  · exact Block.alike (fun _ _ => Tags.alike_for) calls
  · exact Tag.alike (fun _ => .ask (.setSignal _ _)) calls
  · exact Tag.alike (fun _ => .ask (.setSignal _ _)) calls
  · exact Tags.alike_extends calls
  · exact Block.alike (fun _ _ => Tags.alike_namedBlock) calls

end Calls

end Stencil
