import Stencil.Proofs.Document.Grammar
import Stencil.Proofs.Render.Lineage
import Stencil.Proofs.Render.Signals
import Stencil.Proofs.Render.Simulation

/-!
# Templates without comments

A comment renders nothing, so a template may lose comments, at any depth, without another result.
There is one thing about a comment that is seen elsewhere: the blocks inside of it are collected
when the template extends another.  So the result is the same as long as each name keeps its first
block (`Template.SameBlocks`), and it may be another where the comment holds that block.
-/

namespace Stencil

/-! ## Nodes without others -/

section Without

variable (deleted : Node → Prop)

/-- Whether the node is a block with nodes inside of it. -/
def Node.isBlock : Node → Bool
  | .block .. => true
  | _ => false

mutual

/-- Some of the nodes that may be deleted are, at any depth. -/
inductive Without : List Node → List Node → Prop
  | nil : Without [] []
  | deleted {n : Node} {ns ms : List Node} (isDeleted : deleted n) (rest : Without ns ms) :
    Without (n :: ns) ms
  | leaf {n : Node} {ns ms : List Node} (isLeaf : n.isBlock = false) (rest : Without ns ms) :
    Without (n :: ns) (n :: ms)
  | block (name markup : String) (payload : Payload) (span : Span) {body inner ns ms : List Node}
      {clauses sections : List (Clause Node)} (within : Without body inner)
      (withinClauses : WithoutIn clauses sections) (rest : Without ns ms) :
    Without (.block name markup payload span body clauses :: ns)
      (.block name markup payload span inner sections :: ms)

inductive WithoutIn : List (Clause Node) → List (Clause Node) → Prop
  | nil : WithoutIn [] []
  | cons (name markup : String) (payload : Payload) {body inner : List Node}
      {cs ds : List (Clause Node)} (within : Without body inner) (rest : WithoutIn cs ds) :
    WithoutIn (⟨name, markup, payload, body⟩ :: cs) (⟨name, markup, payload, inner⟩ :: ds)

end

/-- The templates are one but for nodes that have been deleted. -/
structure Template.Without (t u : Template) : Prop where
  name : u.name = t.name
  presets : u.presets = t.presets
  nodes : Stencil.Without deleted t.nodes u.nodes

/-- The first block of each name has stayed the first. -/
def Template.SameBlocks (t u : Template) : Prop :=
  ∀ name, Option.Rel (Stencil.Without deleted) (t.block? name) (u.block? name)

def Likeness.without : Likeness where
  nodes := Stencil.Without deleted
  templates t u := t.Without deleted u ∧ t.SameBlocks deleted u
  ofTemplates related := related.1.nodes

variable {deleted}

theorem WithoutIn.forall₂ {cs ds : List (Clause Node)} (without : WithoutIn deleted cs ds) :
    List.Forall₂ (Clause.Alike (.without deleted)) cs ds := by
  induction cs generalizing ds with
  | nil =>
    cases without
    exact .nil
  | cons c cs ih =>
    cases without with
    | cons name markup payload within rest => exact .cons ⟨rfl, rfl, rfl, within⟩ (ih rest)

mutual

theorem Without.refl (deleted : Node → Prop) (nodes : List Node) : Without deleted nodes nodes := by
  match nodes with
  | [] => exact .nil
  | .text _ :: ns => exact .leaf rfl (.refl deleted ns)
  | .variable .. :: ns => exact .leaf rfl (.refl deleted ns)
  | .tag .. :: ns => exact .leaf rfl (.refl deleted ns)
  | .block name markup payload span body clauses :: ns =>
    exact .block name markup payload span (.refl deleted body) (.refl deleted clauses)
      (.refl deleted ns)

theorem WithoutIn.refl (deleted : Node → Prop) (clauses : List (Clause Node)) :
    WithoutIn deleted clauses clauses := by
  match clauses with
  | [] => exact .nil
  | ⟨name, markup, payload, body⟩ :: cs =>
    exact .cons name markup payload (.refl deleted body) (.refl deleted cs)

end

/-! ### Blocks of templates without nodes -/

/-- The blocks have one name, and bodies that are one but for deleted nodes. -/
def BlockWithout (deleted : Node → Prop) (b c : String × List Node) : Prop :=
  b.1 = c.1 ∧ Without deleted b.2 c.2

theorem BlockWithout.lookup {bs cs : List (String × List Node)}
    (without : List.Forall₂ (BlockWithout deleted) bs cs) (name : String) :
    Option.Rel (Without deleted) (bs.lookup name) (cs.lookup name) := by
  induction without with
  | nil => exact .none
  | @cons b c _ _ first _ ih =>
    obtain ⟨own, body⟩ := b
    obtain ⟨_, inner⟩ := c
    obtain ⟨rfl, within⟩ := first
    rw [List.lookup_cons, List.lookup_cons]
    cases name == own with
    | true => exact .some within
    | false => exact ih

mutual

/-- Where what is deleted holds no named blocks, the blocks stay those that they were. -/
theorem Without.namedBlocks (quiet : ∀ n, deleted n → Tags.namedBlocksOf n = []) :
    ∀ {ns ms : List Node}, Without deleted ns ms →
      List.Forall₂ (BlockWithout deleted) (Tags.namedBlocks ns) (Tags.namedBlocks ms)
  | _, _, .nil => .nil
  | n :: _, _, .deleted isDeleted rest => by
    rw [Tags.namedBlocks, quiet n isDeleted]
    exact rest.namedBlocks quiet
  | n :: _, _, .leaf isLeaf rest => by
    have none : Tags.namedBlocksOf n = [] := by
      cases n with
      | block => cases isLeaf
      | _ => simp only [Tags.namedBlocksOf]
    rw [Tags.namedBlocks, Tags.namedBlocks, none]
    exact rest.namedBlocks quiet
  | _, _, .block name markup payload span within withinClauses rest => by
    have own {body inner : List Node} (within : Without deleted body inner) :
        List.Forall₂ (BlockWithout deleted)
          (if name = "block" then (Lexeme.name? markup.toList).map (·.1, body) else none).toList
          (if name = "block" then (Lexeme.name? markup.toList).map (·.1, inner)
            else none).toList := by
      by_cases isBlock : name = "block"
      · rw [if_pos isBlock, if_pos isBlock]
        cases Lexeme.name? markup.toList with
        | none => exact .nil
        | some read => exact .cons ⟨rfl, within⟩ .nil
      · rw [if_neg isBlock, if_neg isBlock]
        exact .nil
    rw [Tags.namedBlocks, Tags.namedBlocks, Tags.namedBlocksOf, Tags.namedBlocksOf]
    exact List.rel_append (List.rel_append (List.rel_append (own within) (within.namedBlocks quiet))
      (withinClauses.namedBlocks quiet)) (rest.namedBlocks quiet)

theorem WithoutIn.namedBlocks (quiet : ∀ n, deleted n → Tags.namedBlocksOf n = []) :
    ∀ {cs ds : List (Clause Node)}, WithoutIn deleted cs ds →
      List.Forall₂ (BlockWithout deleted) (Tags.namedBlocksIn cs) (Tags.namedBlocksIn ds)
  | _, _, .nil => .nil
  | _, _, .cons name markup payload within rest => by
    rw [Tags.namedBlocksIn, Tags.namedBlocksIn]
    exact List.rel_append (within.namedBlocks quiet) (rest.namedBlocks quiet)

end

theorem Template.Without.sameBlocks (quiet : ∀ n, deleted n → Tags.namedBlocksOf n = [])
    {t u : Template} (without : t.Without deleted u) : t.SameBlocks deleted u :=
  BlockWithout.lookup (without.nodes.namedBlocks quiet)

end Without

/-! ## Renders without comments -/

/-- A block that renders nothing. -/
def Node.IsComment (registry : Registry) (n : Node) : Prop :=
  ∃ name markup span body, n = .block name markup .unit span body [] ∧
    registry.find? name = some Tags.comment.handler

/-- The comments of a legal template render nothing. -/
theorem Node.Legal.isComment {registry : Registry} {maxDepth : Nat} {inside : Option Enclosure}
    {depth : Nat} {name markup : String} {payload : Payload} {span : Span} {body : List Node}
    {clauses : List (Clause Node)} (bound : registry.find? name = some Tags.comment.handler)
    (legal : Node.Legal registry maxDepth inside depth
      (.block name markup payload span body clauses)) :
    (Node.block name markup payload span body clauses).IsComment registry := by
  unfold Node.Legal at legal
  obtain ⟨-, -, h, accepts, -, legalClauses, -⟩ := legal
  obtain rfl : Tags.comment.handler = h := Option.some.inj (bound.symm.trans accepts.bound)
  obtain rfl : Payload.unit = payload := Except.ok.inj accepts.parsed
  exact ⟨name, markup, span, body, by rw [legalClauses.eq_nil rfl], bound⟩

theorem State.renderNode_comment {settings : Settings} {n : Node}
    (isComment : n.IsComment settings.environment.registry) (sub : Renderer) (s : State) :
    s.renderNode settings sub n = s := by
  obtain ⟨name, markup, span, body, rfl, bound⟩ := isComment
  simp only [renderNode, bound]
  rfl

/-- The state in another template and with other overrides. -/
def State.beside (s : State) (t : Template) (overrides : Table (List Node)) : State :=
  s.update fun c => { c with template := t, overrides := overrides }

section Renders

variable {deleted : Node → Prop} {left right : Settings} {sub other : Renderer}

/-- The states are one but for nodes that have been deleted. -/
def State.Without (deleted : Node → Prop) (s t : State) : Prop :=
  ∃ u overrides, t = s.beside u overrides ∧
    s.context.template.Without deleted u ∧ s.context.template.SameBlocks deleted u ∧
    ∀ name, Option.Rel (Stencil.Without deleted) (Table.find? s.context.overrides name)
      (Table.find? overrides name)

/-- The settings are one but for nodes that have been deleted from stored templates. -/
structure Settings.Without (deleted : Node → Prop) (left right : Settings) : Prop
    extends left.Like right where
  filters : right.environment.filters = left.environment.filters
  presets : right.environment.presets = left.environment.presets
  errorMode : right.environment.errorMode = left.environment.errorMode
  find : ∀ name, Agree (Likeness.without deleted).templates (left.environment.findTemplate name)
    (right.environment.findTemplate name)

/-- Operations do not depend on the nodes of the template and of overrides. -/
theorem Op.Moves.exec_beside (sub other : Renderer) {op : Op} {i j : Opened} (moves : op.Moves i j)
    (settings : left.Without deleted right) (s : State) {u : Template}
    (presets : u.presets = s.context.template.presets) (overrides : Table (List Node)) :
    op.exec right other (s.beside u overrides) =
        ((op.exec left sub s).1, (op.exec left sub s).2.beside u overrides) ∧
      (op.exec left sub s).2.context.template = s.context.template ∧
      (op.exec left sub s).2.context.overrides = s.context.overrides := by
  have scope : (s.beside u overrides).context.scope right = s.context.scope left := by
    have lookup : (s.beside u overrides).context.lookup right.environment.presets =
        s.context.lookup left.environment.presets := by
      funext name
      rw [settings.presets]
      simp only [Context.lookup, State.beside, State.update, presets]
      rfl
    rw [Context.scope, Context.scope, lookup, settings.filters]
  cases moves with
  | evalExpr e =>
    refine ⟨Prod.ext ?_ rfl, rfl, rfl⟩
    exact congrArg (Scope.eval · e) scope
  | evalChain c =>
    refine ⟨Prod.ext ?_ rfl, rfl, rfl⟩
    exact congrArg (Scope.holdsChain · c) scope
  | evalVariable v =>
    refine ⟨Prod.ext ?_ rfl, rfl, rfl⟩
    exact congrArg (Scope.evalVariable · v) scope
  | setLocal name v =>
    obtain ⟨⟨template, assigns, globals, locals, _⟩, o⟩ := s
    cases locals <;> exact ⟨rfl, rfl, rfl⟩
  | _ => exact ⟨rfl, rfl, rfl⟩

/-- Nodes at a normal signal are rendered alike. -/
def Renderer.Without (deleted : Node → Prop) (sub other : Renderer) : Prop :=
  ∀ {ns ms : List Node}, Stencil.Without deleted ns ms → ∀ {s t : State}, s.Without deleted t →
    s.context.signal = .normal →
    (sub ns s).1 = (other ms t).1 ∧ (sub ns s).2.Without deleted (other ms t).2

namespace State.Without

/-- The blocks of the template that is left stand in for others in both renders. -/
theorem enterParent {s t : State} (without : s.Without deleted t) {p q : Template}
    (parents : p.Without deleted q ∧ p.SameBlocks deleted q) :
    (s.enterParent p).Without deleted (t.enterParent q) := by
  obtain ⟨u, overrides, rfl, -, blocks, same⟩ := without
  refine ⟨q, (Tags.namedBlocks u.nodes).foldl (fun t b => t.setNew b.1 b.2) overrides, rfl,
    parents.1, parents.2, fun name => ?_⟩
  have both {a b c d : Option (List Node)} (first : Option.Rel (Stencil.Without deleted) a b)
      (second : Option.Rel (Stencil.Without deleted) c d) :
      Option.Rel (Stencil.Without deleted) (a.or c) (b.or d) := by
    cases first with
    | none => exact second
    | some related => exact .some related
  show Option.Rel _ (Table.find? (List.foldl _ _ _) name) (Table.find? (List.foldl _ _ _) name)
  rw [Table.find?_foldl_setNew, Table.find?_foldl_setNew]
  exact both (same name) (blocks name)

theorem leaveParent {s t u v : State} (first : s.Without deleted t) (last : u.Without deleted v) :
    (u.leaveParent s.context.template).Without deleted (v.leaveParent t.context.template) := by
  obtain ⟨p, _, rfl, template, blocks, -⟩ := first
  obtain ⟨_, overrides, rfl, -, -, same⟩ := last
  exact ⟨p, overrides, rfl, template, blocks, same⟩

theorem recover (settings : left.Without deleted right) {s t : State}
    (without : s.Without deleted t) (ofVariable : Bool) (span : Option Span) (e : Error) :
    (s.recover left ofVariable span e).Without deleted (t.recover right ofVariable span e) := by
  obtain ⟨u, overrides, rfl, template, blocks, same⟩ := without
  have placed : (s.beside u overrides).placed span e = s.placed span e := by
    unfold State.placed
    rw [← template.name]
    rfl
  unfold State.recover
  rw [settings.errorMode, settings.escapes, placed]
  cases left.environment.errorMode <;> exact ⟨u, overrides, rfl, template, blocks, same⟩

end State.Without

theorem Settings.Without.simulation (settings : left.Without deleted right)
    (renders : sub.Without deleted other) :
    Simulation (.without deleted) left right sub other (fun d => d.state.context.signal = .normal)
      (fun _ => ([] : List Unit)) fun _ s t => s.Without deleted t where
  ask moves _ s t without := by
    obtain ⟨u, overrides, rfl, template, blocks, same⟩ := without
    obtain ⟨performed, kept, keptOverrides⟩ :=
      moves.exec_beside sub other settings s template.presets overrides
    rw [performed]
    refine ⟨rfl, u, overrides, rfl, ?_⟩
    rw [kept, keptOverrides]
    exact ⟨template, blocks, same⟩
  render related _ _ _ without normal := renders related without normal
  override without name := by
    obtain ⟨_, _, rfl, -, -, same⟩ := without
    exact same name
  find := settings.find
  enter parents _ _ _ without := without.enterParent parents
  leave first last := first.leaveParent last

theorem Node.Alike.same {l : Likeness} {n m : Node} (alike : n.Alike l m) :
    m.isVariable = n.isVariable ∧ m.span? = n.span? := by
  cases alike <;> exact ⟨rfl, rfl⟩

theorem State.Without.renderNode (settings : left.Without deleted right)
    (isBuiltin : left.environment.registry.OnlyBuiltin) (isUniform : sub.IsUniform)
    (renders : sub.Without deleted other) {n m : Node} (alike : n.Alike (.without deleted) m)
    {s t : State} (without : s.Without deleted t) (normal : s.context.signal = .normal) :
    (s.renderNode left sub n).Without deleted (t.renderNode right other m) := by
  have course := s.course left sub (isBuiltin.of_handler? n)
  have started := (course.passesSignals isUniform normal).1.started
  obtain ⟨same, after⟩ :=
    (settings.simulation renders).attempt settings.toLike isBuiltin alike [] without started
  obtain ⟨isVariable, span⟩ := alike.same
  rw [renderNode_eq, renderNode_eq, isVariable, span]
  rcases ran : s.attempt left sub n with ⟨e | _, u⟩ <;>
    rcases ranOther : t.attempt right other m with ⟨f | _, v⟩ <;>
    rw [ran, ranOther] at same after <;> cases same
  · exact after.recover settings ..
  · exact after

/-- A list of nodes is rendered as it is without comments. -/
theorem State.Without.renderList (settings : left.Without deleted right)
    (isBuiltin : left.environment.registry.OnlyBuiltin)
    (comments : ∀ n, deleted n → n.IsComment left.environment.registry)
    (isUniform : sub.IsUniform) (renders : sub.Without deleted other) {ns ms : List Node}
    (nodes : Stencil.Without deleted ns ms) {s t : State} (without : s.Without deleted t)
    (normal : s.context.signal = .normal) :
    (s.renderList left sub ns).Without deleted (t.renderList right other ms) := by
  induction ns generalizing ms s t with
  | nil =>
    cases nodes
    exact without
  | cons n ns ih =>
    -- A node that is kept is rendered on both sides, and both go on or both stop behind it.
    have kept {m : Node} {ms : List Node} (alike : n.Alike (.without deleted) m)
        (rest : Stencil.Without deleted ns ms) :
        (s.renderList left sub (n :: ns)).Without deleted
          (t.renderList right other (m :: ms)) := by
      have after := without.renderNode settings isBuiltin isUniform renders alike normal
      have signal : (t.renderNode right other m).context.signal =
          (s.renderNode left sub n).context.signal := by
        obtain ⟨_, _, same, -⟩ := after
        rw [same]
        rfl
      rw [State.renderList, State.renderList, signal]
      by_cases goesOn : (s.renderNode left sub n).context.signal = .normal
      · rw [if_pos goesOn, if_pos goesOn]
        exact ih rest after goesOn
      · rw [if_neg goesOn, if_neg goesOn]
        exact after
    cases nodes with
    | deleted isDeleted rest =>
      rw [State.renderList, renderNode_comment (comments n isDeleted), if_pos normal]
      exact ih rest without normal
    | leaf isLeaf rest =>
      refine kept ?_ rest
      cases n with
      | text => exact .text _
      | «variable» => exact .variable _ _
      | tag => exact .tag _ _ _ _
      | block => cases isLeaf
    | block name markup payload span within withinClauses rest =>
      exact kept (.block name markup payload span within withinClauses.forall₂) rest

theorem Settings.Without.renderNodes (settings : left.Without deleted right)
    (isBuiltin : left.environment.registry.OnlyBuiltin)
    (comments : ∀ n, deleted n → n.IsComment left.environment.registry) (levels : Nat) :
    (Stencil.renderNodes left levels).Without deleted (Stencil.renderNodes right levels) := by
  induction levels with
  | zero => exact fun _ _ _ without _ => ⟨rfl, without⟩
  | succ levels ih =>
    intro ns ms nodes s t without normal
    refine ⟨(accepts_renderNodes left levels ns s).trans
      (accepts_renderNodes right levels ms t).symm, ?_⟩
    exact without.renderList settings isBuiltin comments (isUniform_renderNodes left levels) ih
      nodes normal

end Renders

/-! ## Whole renders -/

/-- The results of renders are one but for the template. -/
structure Rendered.Same (r q : Rendered) : Prop where
  output : q.output = r.output
  errors : q.context.errors = r.context.errors
  globals : q.context.globals = r.context.globals
  registers : q.context.registers = r.context.registers
  signal : q.context.signal = r.context.signal

namespace Environment

/-- Deleting comments changes no result, if each name keeps its first block in every template. -/
theorem render_without (env : Environment) (isBuiltin : env.registry.OnlyBuiltin)
    {deleted : Node → Prop} (comments : ∀ n, deleted n → n.IsComment env.registry)
    {templates : Table Template}
    (stored : ∀ name, Option.Rel (fun t u => t.Without deleted u ∧ t.SameBlocks deleted u)
      (env.templates.find? name) (templates.find? name))
    {t u : Template} (without : t.Without deleted u) (blocks : t.SameBlocks deleted u)
    (assigns : Value) (options : RenderOptions) :
    Agree Rendered.Same (env.render t assigns options)
      ({ env with templates := templates }.render u assigns options) := by
  have settings : (env.settings options).Without deleted
      ({ env with templates := templates }.settings options) := by
    refine ⟨⟨rfl, rfl, rfl⟩, rfl, rfl, rfl, fun name => ?_⟩
    have related := stored name
    show Agree _ (env.findTemplate name) ({ env with templates := templates }.findTemplate name)
    unfold findTemplate
    dsimp only
    generalize env.templates.find? name = a at *
    generalize templates.find? name = b at *
    cases related with
    | none => exact .error _
    | some related => exact .ok related
  have start : (startState t assigns.imported options).Without deleted
      (startState u assigns.imported options) := ⟨u, [], rfl, without, blocks, fun _ => .none⟩
  have after := (settings.renderNodes isBuiltin comments maxLevels without.nodes start rfl).2
  unfold render
  refine (Agree.refl (checkAssigns assigns.imported)).bind fun _ _ _ => .ok ?_
  rw [finalState_eq, finalState_eq]
  obtain ⟨_, _, same, -⟩ := after
  rw [same]
  exact ⟨rfl, rfl, rfl, rfl, rfl⟩

/-! ### A comment that holds a block -/

/-- A comment around the given nodes. -/
def commentOn (body : List Node) : Node := .block "comment" "" .unit ⟨⟨1, 20⟩, ⟨1, 33⟩⟩ body []

theorem isComment_commentOn (body : List Node) : (commentOn body).IsComment Registry.builtin :=
  ⟨"comment", "", ⟨⟨1, 20⟩, ⟨1, 33⟩⟩, body, rfl, rfl⟩

/-- A template with a named block, for others to extend. -/
def layout : Template := .ofNodes "layout" [
  .text "<", .block "block" "b" (.text "b") ⟨⟨1, 1⟩, ⟨1, 14⟩⟩ [.text "own"] [], .text ">"]

/-- The tag that extends it. -/
def extendsLayout : Node :=
  .tag "extends" "'layout'" (.expr (.const (.string "layout"))) ⟨⟨1, 0⟩, ⟨1, 20⟩⟩

def layoutEnvironment : Environment :=
  { Environment.standard with templates := [("layout", layout)] }

/-- A block in a comment. -/
def hiddenBlock : Node :=
  commentOn [.block "block" "b" (.text "b") ⟨⟨1, 33⟩, ⟨1, 46⟩⟩ [.text "hidden"] []]

theorem stored_refl (deleted : Node → Prop) (templates : Table Template) (name : String) :
    Option.Rel (Template.Without deleted) (templates.find? name) (templates.find? name) := by
  cases templates.find? name with
  | none => exact .none
  | some t => exact .some ⟨rfl, rfl, .refl deleted t.nodes⟩

/-- A comment without a block. -/
def remark : Node := commentOn [.text "remark"]

theorem render_without_remark :
    (∀ n, n = remark → n.IsComment layoutEnvironment.registry) ∧
      Agree Rendered.Same
        (layoutEnvironment.render (.ofNodes "page" [extendsLayout, remark]) .none .default)
        (layoutEnvironment.render (.ofNodes "page" [extendsLayout]) .none .default) := by
  have comments (n : Node) (isRemark : n = remark) : n.IsComment layoutEnvironment.registry :=
    isRemark ▸ isComment_commentOn _
  have quiet (n : Node) (isRemark : n = remark) : Tags.namedBlocksOf n = [] := by
    rw [isRemark]
    rfl
  have without : (Template.ofNodes "page" [extendsLayout, remark]).Without (· = remark)
      (.ofNodes "page" [extendsLayout]) := ⟨rfl, rfl, .leaf rfl (.deleted rfl .nil)⟩
  have withBlocks : ∀ a b : Option Template, Option.Rel (Template.Without (· = remark)) a b →
      Option.Rel (fun t u => t.Without (· = remark) u ∧ t.SameBlocks (· = remark) u) a b
    | _, _, .none => .none
    | _, _, .some related => .some ⟨related, related.sameBlocks quiet⟩
  exact ⟨comments, render_without layoutEnvironment Registry.onlyBuiltin_builtin comments
    (fun name => withBlocks _ _ (stored_refl _ _ name)) without (without.sameBlocks quiet) .none
    .default⟩

/-- The block in a comment is rendered in the place of the one that the layout has. -/
theorem not_agree_without :
    ¬ ∀ (env : Environment) (deleted : Node → Prop) (templates : Table Template) (t u : Template)
      (assigns : Value) (options : RenderOptions), env.registry.OnlyBuiltin →
      (∀ n, deleted n → n.IsComment env.registry) →
      (∀ name, Option.Rel (Template.Without deleted) (env.templates.find? name)
        (templates.find? name)) → t.Without deleted u →
      Agree Rendered.Same (env.render t assigns options)
        ({ env with templates := templates }.render u assigns options) := by
  intro always
  have agree := always layoutEnvironment (· = hiddenBlock) layoutEnvironment.templates
    (.ofNodes "page" [extendsLayout, hiddenBlock]) (.ofNodes "page" [extendsLayout]) .none .default
    Registry.onlyBuiltin_builtin (fun _ isHidden => isHidden ▸ isComment_commentOn _)
    (stored_refl _ _) ⟨rfl, rfl, .leaf rfl (.deleted rfl .nil)⟩
  have shown {r q : Rendered} (agree : Agree Rendered.Same (.ok r) (.ok q)) :
      q.output = r.output := by
    cases agree with
    | ok same => exact same.output
  exact absurd (shown agree) (by decide)

end Environment

end Stencil
