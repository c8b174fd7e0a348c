import Stencil.Proofs.Document.Reading
import Stencil.Proofs.Render.Levels
import Stencil.Proofs.Render.Lineage

/-!
# Nesting

Blocks nest in a document within one limit, and lists of nodes nest in a render within another.  In
a template that extends none, a list of nodes is rendered with as many lists around it as there are
blocks around it in the template (`LevelOf`): no block stands in for another, so that a node renders
nothing but what it holds.  A render of such a template is therefore never refused a level, unless
its blocks nest deeper than any document of the usual limit lets them.
-/

namespace Stencil

/-! ## How deep blocks nest -/

namespace Node

mutual

/-- How deep blocks nest in a node, the node itself included. -/
def nesting : Node → Nat
  | .block _ _ _ _ body clauses => max (nestingAll body) (nestingIn clauses) + 1
  | _ => 0

/-- How deep blocks nest in nodes. -/
def nestingAll : List Node → Nat
  | [] => 0
  | n :: ns => max n.nesting (nestingAll ns)

/-- How deep blocks nest in the sections of clauses. -/
def nestingIn : List (Clause Node) → Nat
  | [] => 0
  | ⟨_, _, _, body⟩ :: cs => max (nestingAll body) (nestingIn cs)

end

theorem nesting_le_of_mem {nodes : List Node} {n : Node} (mem : n ∈ nodes) :
    n.nesting ≤ nestingAll nodes := by
  induction nodes with
  | nil => cases mem
  | cons m ms ih =>
    rw [nestingAll]
    rcases List.mem_cons.1 mem with rfl | mem
    · exact Nat.le_max_left ..
    · exact Nat.le_trans (ih mem) (Nat.le_max_right ..)

theorem nestingAll_le_of_mem {clauses : List (Clause Node)} {c : Clause Node}
    (mem : c ∈ clauses) : nestingAll c.body ≤ nestingIn clauses := by
  induction clauses with
  | nil => cases mem
  | cons d ds ih =>
    rw [nestingIn]
    rcases List.mem_cons.1 mem with rfl | mem
    · exact Nat.le_max_left ..
    · exact Nat.le_trans (ih mem) (Nat.le_max_right ..)

/-- What a node holds nests less deep than the node. -/
theorem Holds.nesting_lt {n : Node} {nodes : List Node} (holds : n.Holds nodes) :
    nestingAll nodes < n.nesting := by
  cases n with
  | text => cases holds
  | «variable» => cases holds
  | tag => cases holds
  | block name markup payload span body clauses =>
    rw [nesting, Nat.lt_succ_iff]
    rcases holds with rfl | ⟨c, mem, rfl⟩
    · exact Nat.le_max_left ..
    · exact Nat.le_trans (nestingAll_le_of_mem mem) (Nat.le_max_right ..)

end Node

/-- How deep blocks nest in a template. -/
def Template.nesting (t : Template) : Nat := Node.nestingAll t.nodes

/-- The nodes are the whole or are inside of it, with the given number of blocks around them. -/
inductive LevelOf (whole : List Node) : Nat → List Node → Prop where
  | whole : LevelOf whole 0 whole
  | inside {level : Nat} {nodes inner : List Node} {n : Node} (outer : LevelOf whole level nodes)
      (mem : n ∈ nodes) (holds : n.Holds inner) : LevelOf whole (level + 1) inner

theorem LevelOf.add_nesting_le {whole nodes : List Node} {level : Nat}
    (isLevel : LevelOf whole level nodes) :
    level + Node.nestingAll nodes ≤ Node.nestingAll whole := by
  induction isLevel with
  | whole => exact Nat.le_of_eq (Nat.zero_add _)
  | inside outer mem holds ih =>
    have below := holds.nesting_lt
    have among := Node.nesting_le_of_mem mem
    omega

theorem mem_preorder_of_mem {nodes : List Node} {n : Node} (mem : n ∈ nodes) :
    n ∈ preorder nodes := by
  induction nodes with
  | nil => cases mem
  | cons m ms ih =>
    rw [preorder]
    rcases List.mem_cons.1 mem with rfl | mem
    · exact List.mem_cons_self ..
    · exact List.mem_cons_of_mem _ (List.mem_append_right _ (ih mem))

theorem preorder_subset_of_mem {clauses : List (Clause Node)} {c : Clause Node}
    (mem : c ∈ clauses) : preorder c.body ⊆ preorderIn clauses := by
  induction clauses with
  | nil => cases mem
  | cons d ds ih =>
    rw [preorderIn]
    rcases List.mem_cons.1 mem with rfl | mem
    · exact List.subset_append_left ..
    · exact fun _ h => List.mem_append_right _ (ih mem h)

/-- What a node among others holds comes behind it in the order of the document. -/
theorem Node.Holds.preorder_subset {nodes inner : List Node} {n : Node} (holds : n.Holds inner)
    (mem : n ∈ nodes) : preorder inner ⊆ preorder nodes := by
  have held : preorder inner ⊆ descendants n := by
    cases n with
    | text => cases holds
    | «variable» => cases holds
    | tag => cases holds
    | block name markup payload span body clauses =>
      rw [descendants]
      rcases holds with rfl | ⟨c, mem, rfl⟩
      · exact List.subset_append_left ..
      · exact fun m hm => List.mem_append_right _ (preorder_subset_of_mem mem hm)
  induction nodes with
  | nil => cases mem
  | cons m ms ih =>
    rw [preorder]
    rcases List.mem_cons.1 mem with rfl | mem
    · exact fun m hm => List.mem_cons_of_mem _ (List.mem_append_left _ (held hm))
    · exact fun m hm => List.mem_cons_of_mem _ (List.mem_append_right _ (ih mem hm))

theorem LevelOf.mem_preorder {whole nodes : List Node} {level : Nat}
    (isLevel : LevelOf whole level nodes) {n : Node} (mem : n ∈ nodes) : n ∈ preorder whole := by
  have subset : preorder nodes ⊆ preorder whole := by
    clear mem
    induction isLevel with
    | whole => exact fun _ h => h
    | inside outer mem holds ih => exact fun _ h => ih (holds.preorder_subset mem h)
  exact subset (mem_preorder_of_mem mem)

/-! ### Nesting in documents -/

section Documents

variable {registry : Registry} {maxDepth : Nat}

mutual

/-- Blocks of legal nodes nest within the limit, those around the nodes included. -/
theorem LegalAll.add_nesting_le {nodes : List Node} {inside : Option Enclosure} {depth : Nat}
    (legal : LegalAll registry maxDepth inside depth nodes) (within : depth ≤ maxDepth) :
    depth + Node.nestingAll nodes ≤ maxDepth := by
  match nodes with
  | [] => exact within
  | n :: ns =>
    unfold LegalAll at legal
    have first := Node.Legal.add_nesting_le legal.1 within
    have others := LegalAll.add_nesting_le legal.2 within
    rw [Node.nestingAll]
    omega

theorem Node.Legal.add_nesting_le {n : Node} {inside : Option Enclosure} {depth : Nat}
    (legal : n.Legal registry maxDepth inside depth) (within : depth ≤ maxDepth) :
    depth + n.nesting ≤ maxDepth := by
  match n with
  | .text _ => exact within
  | .variable .. => exact within
  | .tag .. => exact within
  | .block name markup payload span body clauses =>
    unfold Node.Legal at legal
    obtain ⟨-, deeper, h, -, legalBody, legalClauses, -⟩ := legal
    have ofBody := LegalAll.add_nesting_le legalBody deeper
    have ofClauses := LegalClauses.add_nesting_le legalClauses deeper
    rw [Node.nesting]
    omega

theorem LegalClauses.add_nesting_le {clauses : List (Clause Node)} {block : Enclosure}
    {depth : Nat} (legal : LegalClauses registry maxDepth block depth clauses)
    (within : depth ≤ maxDepth) : depth + Node.nestingIn clauses ≤ maxDepth := by
  match clauses with
  | [] => exact within
  | ⟨name, markup, payload, body⟩ :: cs =>
    unfold LegalClauses at legal
    obtain ⟨-, -, legalBody, legalOthers⟩ := legal
    have ofBody := LegalAll.add_nesting_le legalBody within
    have others := LegalClauses.add_nesting_le legalOthers within
    rw [Node.nestingIn]
    omega

end

/-- A document that is read is legal. -/
theorem Template.legal_of_parse {name source : String} {t : Template}
    (parsed : Template.parse registry maxDepth name source = .ok t) :
    LegalAll registry maxDepth none 0 t.nodes := by
  obtain ⟨nodes, read, made⟩ := bind_eq_ok.1 parsed
  cases made
  obtain ⟨draft, tokens, rest⟩ := bind_eq_ok.1 read
  have start : DraftHolds registry maxDepth Draft.empty.blocks Draft.empty.nodes [] :=
    ⟨trivial, .nil⟩
  have holds := start.readTokens tokens
  obtain ⟨blocks, reversed⟩ := draft
  split at rest
  · cases rest
  · cases blocks with
    | nil =>
      cases rest
      exact holds.1
    | cons b outer => cases rest

/-- Blocks nest in a document as deep as it may be read, and no deeper. -/
theorem Template.nesting_le_of_parse {name source : String} {t : Template}
    (parsed : Template.parse registry maxDepth name source = .ok t) : t.nesting ≤ maxDepth := by
  have within := (Template.legal_of_parse parsed).add_nesting_le (Nat.zero_le maxDepth)
  rwa [Nat.zero_add] at within

end Documents

/-! ## Templates that extend none -/

/-- The node is a tag that is left to the handler that extends templates. -/
def Node.Extends (registry : Registry) : Node → Prop
  | .tag name .. => registry.find? name = some Tags.extendsTag.handler
  | _ => False

/-- No tag of the template extends another one. -/
def Template.ExtendsNone (registry : Registry) (t : Template) : Prop :=
  ∀ n ∈ preorder t.nodes, ¬ n.Extends registry

/-- Only tags extend templates. -/
theorem State.extends_of_role {settings : Settings} {s : State} {n : Node}
    (isBuiltin : settings.environment.registry.OnlyBuiltin) {p : Template}
    (isParent : s.role settings n = .parent p) : n.Extends settings.environment.registry := by
  have isExtension := Node.isExtension_of_parent isBuiltin isParent
  cases n with
  | tag => exact isExtension
  | text => cases isParent
  | «variable» => cases isParent
  | block name markup payload span body clauses =>
    have bound : settings.environment.registry.find? name = some Tags.extendsTag.handler :=
      isExtension
    simp only [role, Node.handler?, Node.call?, bound] at isParent
    obtain ⟨-, _, _, isTag, -⟩ := Handler.extends_of_role isParent
    cases isTag

/-- Nothing stands in for the blocks of a template that is not extended. -/
theorem Origin.override?_ofTemplate (t : Template) (name : String) :
    (Origin.ofTemplate t).override? name = none := rfl

/-- A node of a template that extends none renders nothing but what it holds. -/
theorem Course.holds {sub : Renderer} {n : Node} {role : Role} {s t : State} {ds : List Descent}
    {r : Except Error Unit} {template : Template} (keeps : sub.Keeps)
    (course : Course sub n role s ds r t) (isAt : (Origin.ofTemplate template).Matches s)
    (extendsNone : ∀ p, role ≠ .parent p) :
    ∀ d ∈ ds, n.Holds d.nodes ∧ (Origin.ofTemplate template).Matches d.state := by
  intro d hd
  cases course with
  | refuse => cases hd
  | write => cases hd
  | raise => cases hd
  | descend _ holds =>
    rw [List.mem_singleton.1 hd]
    exact ⟨holds, isAt⟩
  | capture holds =>
    rw [List.mem_singleton.1 hd]
    exact ⟨holds, isAt.template, isAt.overrides⟩
  | choose sections => exact sections.lineage keeps isAt d hd
  | loop holds opens rounds =>
    obtain ⟨same, isAt⟩ := rounds.lineage keeps (isAt.of_rebinds opens) d hd
    rw [same]
    exact ⟨holds, isAt⟩
  | extend _ parent => exact absurd rfl (extendsNone parent)
  | override bound =>
    -- No template that extends this one could have left nodes to stand in.
    rw [isAt.overrides, Origin.override?_ofTemplate] at bound
    cases bound

/-- The built-in handlers have one that extends templates, under one name. -/
theorem Registry.eq_extends_of_find? {name : String}
    (bound : Registry.builtin.find? name = some Tags.extendsTag.handler) : name = "extends" := by
  have listed := Table.mem_ofList (Table.mem_of_find? bound)
  simp only [List.mem_cons, List.not_mem_nil, or_false, Prod.mk.injEq] at listed
  rcases listed with ⟨-, h⟩ | ⟨-, h⟩ | ⟨-, h⟩ | ⟨-, h⟩ | ⟨-, h⟩ | ⟨-, h⟩ | ⟨-, h⟩ | ⟨-, h⟩ |
    ⟨-, h⟩ | ⟨-, h⟩ | ⟨-, h⟩ | ⟨same, -⟩ | ⟨-, h⟩
  case inr.inr.inr.inr.inr.inr.inr.inr.inr.inr.inr.inl => exact same
  all_goals exact absurd (congrArg (·.identity.type) h) (by decide)

/-! ## Where a render of such a template comes to -/

section Spots

variable {settings : Settings} {template : Template}

/-- What is left at the spot is from one list of the template, which has one block less around it
than there are lists being rendered. -/
structure Spot.Within (template : Template) (p : Spot) : Prop where
  placed : ∃ level nodes, p.depth = level + 1 ∧ LevelOf template.nodes level nodes ∧
    ∀ n ∈ p.nodes, n ∈ nodes
  isAt : (Origin.ofTemplate template).Matches p.state

/-- What a node at such a spot asks for is inside of it. -/
theorem Spot.Within.descent (isBuiltin : settings.environment.registry.OnlyBuiltin)
    (extendsNone : template.ExtendsNone settings.environment.registry) {depth : Nat} {n : Node}
    {siblings : List Node} {s : State} (within : Spot.Within template ⟨depth, n :: siblings, s⟩)
    {d : Descent} (asked : d ∈ s.descents settings (renderAt settings depth) n) :
    LevelOf template.nodes depth d.nodes ∧ (Origin.ofTemplate template).Matches d.state := by
  obtain ⟨⟨level, nodes, counted, isLevel, among⟩, isAt⟩ := within
  have mem : n ∈ nodes := among n (List.mem_cons_self ..)
  have course := s.course settings (renderAt settings depth) (isBuiltin.of_handler? n)
  have noParent : ∀ p, s.role settings n ≠ .parent p := fun p isParent =>
    extendsNone n (isLevel.mem_preorder mem) (State.extends_of_role isBuiltin isParent)
  obtain ⟨holds, isAtInside⟩ := course.holds (keeps_renderNodes isBuiltin _) isAt noParent d asked
  obtain rfl : depth = level + 1 := counted
  exact ⟨.inside isLevel mem holds, isAtInside⟩

theorem Spot.Leads.within (isBuiltin : settings.environment.registry.OnlyBuiltin)
    (extendsNone : template.ExtendsNone settings.environment.registry) {p q : Spot}
    (leads : p.Leads settings q) (within : p.Within template) : q.Within template := by
  cases leads with
  | @sibling depth n ns s goesOn =>
    obtain ⟨⟨level, nodes, counted, isLevel, among⟩, isAt⟩ := within
    have course := s.course settings (renderAt settings depth) (isBuiltin.of_handler? n)
    have kept := State.kept_renderNode (course.kept (keeps_renderNodes isBuiltin _))
    exact ⟨⟨level, nodes, counted, isLevel, fun m hm => among m (List.mem_cons_of_mem _ hm)⟩,
      isAt.of_kept kept (Signal.ne_extended_of_goesOn (.inl goesOn))⟩
  | inside asked accepted =>
    obtain ⟨isLevel, isAt⟩ := within.descent isBuiltin extendsNone asked
    exact ⟨⟨_, _, rfl, isLevel, fun _ h => h⟩, isAt⟩

theorem Spot.Reaches.within (isBuiltin : settings.environment.registry.OnlyBuiltin)
    (extendsNone : template.ExtendsNone settings.environment.registry) {p q : Spot}
    (reaches : p.Reaches settings q) (within : p.Within template) : q.Within template := by
  induction reaches with
  | refl => exact within
  | tail _ leads ih => exact leads.within isBuiltin extendsNone ih

end Spots

/-! ## Renders within the limits -/

namespace Environment

/-- In the render of a template, the nodes are asked for while the given number of lists are being
rendered: the nodes of the template by the render itself, and others by a node that it comes to. -/
inductive Asks (env : Environment) (template : Template) (assigns : Value)
    (options : RenderOptions) : Nat → Descent → Prop where
  | template : Asks env template assigns options 0
      ⟨template.nodes, startState template assigns options⟩
  | node {depth : Nat} {n : Node} {siblings : List Node} {s : State} {d : Descent}
      (reaches : Spot.Reaches (env.settings options)
        ⟨1, template.nodes, startState template assigns options⟩ ⟨depth, n :: siblings, s⟩)
      (asked : d ∈ s.descents (env.settings options) (renderAt (env.settings options) depth) n) :
      Asks env template assigns options depth d

/-- The limit of rendering is not felt. -/
structure KeepsLevels (env : Environment) (template : Template) (assigns : Value)
    (options : RenderOptions) : Prop where
  /-- No nodes that are asked for are refused. -/
  accepted : ∀ depth d, env.Asks template assigns options depth d →
    (renderAt (env.settings options) depth d.nodes d.state).1 = .ok ()
  /-- Whatever keeps the depth as a counter accepts them too, and hands the counter back. -/
  restored : ∀ render, Counted.Counts (env.settings options) render →
    ∀ depth d, env.Asks template assigns options depth d →
    ∃ t, render d.nodes ⟨d.state, depth⟩ = (.ok (), ⟨t, depth⟩)
  /-- As many lists are being rendered as there are blocks around the nodes that are asked for. -/
  asked : ∀ depth d, env.Asks template assigns options depth d →
    LevelOf template.nodes depth d.nodes
  /-- Wherever a node is rendered, the lists being rendered are one more than the blocks around
  it. -/
  counted : ∀ e ∈ env.history template assigns options, ∃ level nodes,
    e.visit.depth = level + 1 ∧ LevelOf template.nodes level nodes ∧ e.visit.node ∈ nodes
  /-- Whatever has been read under the usual limit nests within that of rendering. -/
  parsed : ∀ registry name source t,
    Template.parse registry defaultMaxDepth name source = .ok t → t.nesting < maxLevels

/-- With the built-in handlers, a template that extends none is rendered without being refused a
level, whatever is repeated, chosen and captured in it, if its blocks nest less deep than lists of
nodes may. -/
theorem keepsLevels (env : Environment) (isBuiltin : env.registry.OnlyBuiltin)
    (template : Template) (shallow : template.nesting < maxLevels)
    (extendsNone : template.ExtendsNone env.registry) (assigns : Value) (options : RenderOptions) :
    env.KeepsLevels template assigns options := by
  let first : Spot := ⟨1, template.nodes, startState template assigns options⟩
  have start : first.Within template := ⟨⟨0, _, rfl, .whole, fun _ h => h⟩, ⟨rfl, fun _ => rfl⟩⟩
  have within {p : Spot} (reaches : first.Reaches (env.settings options) p) :
      p.Within template := Spot.Reaches.within isBuiltin extendsNone reaches start
  have asked : ∀ depth d, env.Asks template assigns options depth d →
      LevelOf template.nodes depth d.nodes := by
    intro depth d asks
    cases asks with
    | template => exact .whole
    | node reaches asked => exact ((within reaches).descent isBuiltin extendsNone asked).1
  have accepted : ∀ depth d, env.Asks template assigns options depth d →
      (renderAt (env.settings options) depth d.nodes d.state).1 = .ok () := by
    intro depth d asks
    have nested : depth + _ ≤ template.nesting := (asked depth d asks).add_nesting_le
    have allowed : depth < maxLevels := by omega
    rw [renderAt_of_lt _ allowed]
  constructor
  case accepted => exact accepted
  case restored =>
    intro render counts depth d asks
    refine ⟨(renderAt (env.settings options) depth d.nodes d.state).2, ?_⟩
    rw [Counted.counts_iff.1 counts depth, ← renderAt, accepted depth d asks]
  case asked => exact asked
  case counted =>
    intro e he
    obtain ⟨siblings, reaches⟩ := history_reaches maxLevels 1 rfl template.nodes _ e he
    obtain ⟨level, nodes, counted, isLevel, among⟩ := (within reaches).placed
    rw [Nat.add_comm] at counted
    exact ⟨level, nodes, counted, isLevel, among _ (List.mem_cons_self ..)⟩
  case parsed =>
    intro registry name source t parsed
    exact Nat.lt_of_le_of_lt (Template.nesting_le_of_parse parsed) (by decide)

/-- A page with a capture in a loop that goes on with the next item from inside of the capture. -/
def nestedPage : Template := .ofNodes "page" [
  .block "for" "i in (1..3)"
    (.loop ⟨"i", .range (.const (.int 1)) (.const (.int 3)), none, none, false⟩)
    ⟨⟨1, 0⟩, ⟨1, 21⟩⟩ [
      .block "capture" "x" (.text "x") ⟨⟨1, 21⟩, ⟨1, 36⟩⟩ [
        .text "in", .tag "continue" "" .unit ⟨⟨1, 38⟩, ⟨1, 52⟩⟩] []] []]

theorem extendsNone_nestedPage : nestedPage.ExtendsNone Registry.builtin := by
  intro n mem bound
  simp only [nestedPage, Template.ofNodes, preorder, descendants, preorderIn, List.mem_cons,
    List.append_nil, List.nil_append, List.not_mem_nil, or_false] at mem
  rcases mem with rfl | rfl | rfl | rfl
  · cases bound
  · cases bound
  · cases bound
  · exact absurd (Registry.eq_extends_of_find? bound) (by decide)

theorem keepsLevels_nestedPage :
    standard.registry.OnlyBuiltin ∧ nestedPage.nesting < maxLevels ∧
      nestedPage.ExtendsNone standard.registry ∧
      standard.KeepsLevels nestedPage .none .default := by
  have shallow : nestedPage.nesting < maxLevels := by decide
  exact ⟨Registry.onlyBuiltin_builtin, shallow, extendsNone_nestedPage,
    keepsLevels standard Registry.onlyBuiltin_builtin nestedPage shallow extendsNone_nestedPage
      .none .default⟩

end Environment

end Stencil
