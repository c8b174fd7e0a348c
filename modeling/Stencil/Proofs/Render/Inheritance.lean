import Stencil.Proofs.Document.Grammar
import Stencil.Proofs.Markup.Reading
import Stencil.Proofs.Render.Lineage

/-!
# Which block stands in

The templates that a render has gone through form a chain: the one that it was started with, the
parent of that one, and so on up to the one that is being rendered (`Visit.chain`).  A named block
is rendered as the first block of that name in the lowest template of the chain that has one, where
the first is the first in the order of the document (`Template.firstBlock?`).

The name of a block is read twice, by the handler of the block and by the walk that collects blocks.
In a legal template both read the same (`Tags.namedBlocks_eq`).
-/

namespace Stencil

/-! ## Blocks in the order of the document -/

mutual

/-- The nodes and the nodes inside of them, an outer one before those inside of it. -/
def preorder : List Node → List Node
  | [] => []
  | n :: ns => n :: (descendants n ++ preorder ns)

/-- The nodes inside of a node: its body and then its sections. -/
def descendants : Node → List Node
  | .block _ _ _ _ body clauses => preorder body ++ preorderIn clauses
  | _ => []

def preorderIn : List (Clause Node) → List Node
  | [] => []
  | ⟨_, _, _, body⟩ :: cs => preorder body ++ preorderIn cs

end

/-- The name of a named block, as its handler has read it, and its body. -/
def Node.named? : Node → Option (String × List Node)
  | .block kind _ (.text name) _ body _ => if kind = "block" then some (name, body) else none
  | _ => none

/-- The body of the node, if it is a block of the given name. -/
def Node.bodyOf? (name : String) (n : Node) : Option (List Node) :=
  match n.named? with
  | some (own, body) => if own = name then some body else none
  | none => none

/-- The body of the first block of the given name in the order of the document. -/
def Template.firstBlock? (t : Template) (name : String) : Option (List Node) :=
  (preorder t.nodes).findSome? (Node.bodyOf? name)

/-! ## Names are read alike -/

/-- A name that is the whole markup is what the markup begins with. -/
theorem Tags.name?_of_readName {markup name : String} (read : readName markup = .ok name) :
    (Lexeme.name? markup.toList).map (·.1) = some name := by
  unfold readName Reader.readAll at read
  rcases found : Lexeme.name? markup.toList with _ | ⟨own, rest⟩
  · have failed := Reader.run_name_of_none (r := .ofMarkup markup) found
    rw [Reader.run_bind, failed] at read
    cases read
  · have answer : Reader.run Reader.name (.ofMarkup markup) = (.ok own, ⟨rest, 0⟩) :=
      Reader.run_name found
    rw [Reader.run_bind_of_ok answer, Reader.run_bind] at read
    rcases ended : Reader.run Reader.expectEnd ⟨rest, 0⟩ with ⟨_ | _, _⟩ <;> rw [ended] at read
    · cases read
    · exact congrArg some (Except.ok.inj read)

/-! ## Legal templates -/

section Legal

variable {registry : Registry} {maxDepth : Nat}

/-- What is inside of a legal template is legal where it stands. -/
theorem PartOf.legal {whole nodes : List Node} (part : PartOf whole nodes)
    (legal : LegalAll registry maxDepth none 0 whole) :
    ∃ inside depth, LegalAll registry maxDepth inside depth nodes := by
  induction part with
  | whole => exact ⟨none, 0, legal⟩
  | @inside _ inner n _ mem holds ih =>
    obtain ⟨inside, depth, legal⟩ := ih
    have ofNode := Node.Legal.of_mem legal mem
    cases n with
    | text => cases holds
    | «variable» => cases holds
    | tag => cases holds
    | block name markup payload span body clauses =>
      unfold Node.Legal at ofNode
      obtain ⟨-, -, h, -, legalBody, legalClauses, -⟩ := ofNode
      rcases holds with rfl | ⟨c, mem, rfl⟩
      · exact ⟨_, _, legalBody⟩
      · exact ⟨_, _, (legalClauses.of_mem mem).2⟩

/-- The registry binds the name of named blocks to their handler. -/
def Registry.BindsBlocks (registry : Registry) : Prop :=
  registry.find? "block" = some Tags.namedBlock.handler

/-- Of a legal block that is named, the handler has read the name that its markup begins with. -/
theorem Node.Legal.named (binds : registry.BindsBlocks) {inside : Option Enclosure} {depth : Nat}
    {markup : String} {payload : Payload} {span : Span} {body : List Node}
    {clauses : List (Clause Node)}
    (legal : Node.Legal registry maxDepth inside depth
      (.block "block" markup payload span body clauses)) :
    ∃ name, payload = .text name ∧ (Lexeme.name? markup.toList).map (·.1) = some name ∧
      clauses = [] := by
  unfold Node.Legal at legal
  obtain ⟨-, -, h, accepts, -, legalClauses, -⟩ := legal
  obtain rfl : Tags.namedBlock.handler = h := Option.some.inj (binds.symm.trans accepts.bound)
  have parsed : (Tags.readName markup).map Payload.text = .ok payload := accepts.parsed
  cases read : Tags.readName markup with
  | error e =>
    rw [read] at parsed
    cases parsed
  | ok name =>
    rw [read] at parsed
    exact ⟨name, (Except.ok.inj parsed).symm, Tags.name?_of_readName read, legalClauses.eq_nil rfl⟩

namespace Tags

mutual

/-- The walk that collects blocks comes upon them in the order of the document. -/
theorem namedBlocks_eq (binds : registry.BindsBlocks) {nodes : List Node}
    {inside : Option Enclosure} {depth : Nat}
    (legal : LegalAll registry maxDepth inside depth nodes) :
    namedBlocks nodes = (preorder nodes).filterMap Node.named? := by
  match nodes with
  | [] => rfl
  | n :: ns =>
    unfold LegalAll at legal
    rw [namedBlocks, preorder, namedBlocksOf_eq binds legal.1, namedBlocks_eq binds legal.2]
    cases named : n.named? with
    | none => rw [List.filterMap_cons_none named, List.filterMap_append]; rfl
    | some b => rw [List.filterMap_cons_some named, List.filterMap_append]; rfl

theorem namedBlocksOf_eq (binds : registry.BindsBlocks) {n : Node} {inside : Option Enclosure}
    {depth : Nat} (legal : n.Legal registry maxDepth inside depth) :
    namedBlocksOf n = n.named?.toList ++ (descendants n).filterMap Node.named? := by
  match n with
  | .text _ => simp [namedBlocksOf, Node.named?, descendants]
  | .variable .. => simp [namedBlocksOf, Node.named?, descendants]
  | .tag .. => simp [namedBlocksOf, Node.named?, descendants]
  | .block kind markup payload span body clauses =>
    have own : (if kind = "block" then (Lexeme.name? markup.toList).map (·.1, body) else none) =
        (Node.block kind markup payload span body clauses).named? := by
      by_cases isBlock : kind = "block"
      · subst isBlock
        obtain ⟨name, rfl, read, -⟩ := legal.named binds
        obtain ⟨⟨first, rest⟩, found, same⟩ := Option.map_eq_some_iff.1 read
        simp only [Node.named?, found, if_true, Option.map_some, ← same]
      · cases payload <;> simp [Node.named?, isBlock]
    unfold Node.Legal at legal
    obtain ⟨-, -, h, -, legalBody, legalClauses, -⟩ := legal
    rw [namedBlocksOf, own, descendants, List.filterMap_append,
      namedBlocks_eq binds legalBody, namedBlocksIn_eq binds legalClauses, List.append_assoc]

theorem namedBlocksIn_eq (binds : registry.BindsBlocks) {clauses : List (Clause Node)}
    {block : Enclosure} {depth : Nat}
    (legal : LegalClauses registry maxDepth block depth clauses) :
    namedBlocksIn clauses = (preorderIn clauses).filterMap Node.named? := by
  match clauses with
  | [] => rfl
  | ⟨_, _, _, body⟩ :: cs =>
    unfold LegalClauses at legal
    rw [namedBlocksIn, preorderIn, List.filterMap_append, namedBlocks_eq binds legal.2.2.1,
      namedBlocksIn_eq binds legal.2.2.2]

end

end Tags

theorem lookup_filterMap_named (nodes : List Node) (name : String) :
    (nodes.filterMap Node.named?).lookup name = nodes.findSome? (Node.bodyOf? name) := by
  induction nodes with
  | nil => rfl
  | cons n ns ih =>
    rcases named : n.named? with _ | ⟨own, body⟩
    · rw [List.filterMap_cons_none named, List.findSome?_cons, ih]
      simp only [Node.bodyOf?, named]
    · rw [List.filterMap_cons_some named, List.findSome?_cons, List.lookup_cons, ih]
      by_cases same : own = name
      · simp [Node.bodyOf?, named, same]
      · have differ : (name == own) = false := by simpa using Ne.symm same
        simp [Node.bodyOf?, named, same, differ]

/-- A template with which the registry has been used to read a document, and with any limit. -/
def Template.IsLegal (registry : Registry) (t : Template) : Prop :=
  ∃ maxDepth, LegalAll registry maxDepth none 0 t.nodes

theorem Template.IsLegal.block?_eq {t : Template} (legal : t.IsLegal registry)
    (binds : registry.BindsBlocks) (name : String) : t.block? name = t.firstBlock? name := by
  obtain ⟨maxDepth, legal⟩ := legal
  rw [block?, Tags.namedBlocks_eq binds legal, lookup_filterMap_named, firstBlock?]

end Legal

/-! ## Chains -/

/-- The template whose nodes are rendered as those of a parent. -/
def Role.parent? : Role → Option Template
  | .parent t => some t
  | _ => none

/-- The templates that a render of `template` has gone through: each but the first is the parent of
the one before, and the last is being rendered. -/
def Visit.chain (v : Visit) (template : Template) : List Template :=
  template :: (v.around.filterMap Role.parent?).reverse

theorem Origin.chain_along (o : Origin) (around : List Role) :
    (o.along around).derived.reverse ++ [(o.along around).current] =
      o.derived.reverse ++ o.current :: (around.filterMap Role.parent?).reverse := by
  induction around with
  | nil => rfl
  | cons r rs ih =>
    have entered : o.along (r :: rs) = (o.along rs).enter r := rfl
    rw [entered]
    cases r with
    | parent t =>
      have last : (Role.parent t :: rs).filterMap Role.parent? =
          t :: rs.filterMap Role.parent? := rfl
      show ((o.along rs).current :: (o.along rs).derived).reverse ++ [t] = _
      rw [last, List.reverse_cons, List.reverse_cons, ih]
      simp
    | _ => exact ih

theorem Visit.chain_eq (v : Visit) (template : Template) :
    v.chain template =
      (v.origin template).derived.reverse ++ [(v.origin template).current] :=
  ((Origin.ofTemplate template).chain_along v.around).symm

/-! ### Parents are stored -/

theorem Tags.answer_parentOf (settings : Settings) (s : State) (payload : Payload) :
    (parentOf payload).answer settings s = (do
      let e : Expr ← MarkupType.typed payload
      let value ← (s.context.scope settings).eval e
      let name ← templateName value
      settings.environment.findTemplate name) := by
  have evaluated (e : Expr) : (Action.evalExpr e).answer settings s =
      (s.context.scope settings).eval e := Action.answer_ofExcept settings _ s
  have found (name : String) : (Action.findTemplate name).answer settings s =
      settings.environment.findTemplate name := Action.answer_ofExcept settings _ s
  unfold parentOf
  simp only [(Action.Looks.ofExcept _).answer_bind, (Action.Looks.evalExpr _).answer_bind,
    Action.answer_ofExcept, evaluated, found]

theorem Role.ofParent_eq_parent {r : Except Error Template} {t : Template}
    (isParent : ofParent r = .parent t) : r = .ok t := by
  cases r with
  | error e => cases isParent
  | ok u => rw [parent.inj isParent]

theorem Role.ofLoop_ne_parent (r : Except Error (Body Loop Unit × List Value)) (t : Template) :
    ofLoop r ≠ .parent t := by
  unfold ofLoop
  split <;> exact nofun

theorem Role.ofOverride_ne_parent (r : Except Error (Body String Unit × Option (List Node)))
    (t : Template) : ofOverride r ≠ .parent t := by
  unfold ofOverride
  split <;> exact nofun

/-- Only an extension renders a parent, the one that its markup names. -/
theorem Handler.extends_of_role {h : Handler} {settings : Settings} {s : State} {c : Call}
    {t : Template} (isParent : h.role settings s c = .parent t) :
    h.identity.type = "extends" ∧
      ∃ name payload, c = .tag name payload ∧ (Tags.parentOf payload).answer settings s = .ok t := by
  cases c with
  | tag name payload =>
    rw [role] at isParent
    split at isParent
    next type => exact ⟨type, name, payload, rfl, Role.ofParent_eq_parent isParent⟩
    · cases isParent
  | block name payload body clauses =>
    rw [role] at isParent
    split at isParent
    · exact absurd isParent (Role.ofLoop_ne_parent _ t)
    · split at isParent
      · exact absurd isParent (Role.ofOverride_ne_parent _ t)
      · split at isParent <;> cases isParent

/-- A parent that is rendered is stored. -/
theorem Handler.stored_of_role {h : Handler} {settings : Settings} {s : State} {c : Call}
    {t : Template} (isParent : h.role settings s c = .parent t) :
    ∃ name, settings.environment.findTemplate name = .ok t := by
  obtain ⟨-, -, payload, -, found⟩ := Handler.extends_of_role isParent
  rw [Tags.answer_parentOf] at found
  obtain ⟨e, -, found⟩ := bind_eq_ok.1 found
  obtain ⟨value, -, found⟩ := bind_eq_ok.1 found
  obtain ⟨name, -, found⟩ := bind_eq_ok.1 found
  exact ⟨name, found⟩

theorem State.stored_of_role {settings : Settings} {s : State} {n : Node} {t : Template}
    (isParent : s.role settings n = .parent t) :
    ∃ name, settings.environment.findTemplate name = .ok t := by
  unfold role at isParent
  split at isParent
  · exact Handler.stored_of_role isParent
  · cases isParent

/-- The parents around a visit are stored. -/
theorem history_stored (settings : Settings) (levels : Nat) (nodes : List Node) (s : State) :
    ∀ e ∈ history settings levels nodes s, ∀ t, .parent t ∈ e.visit.around →
      ∃ name, settings.environment.findTemplate name = .ok t := by
  refine history_induction
    (P := fun _ _ es _ => ∀ e ∈ es, ∀ t, .parent t ∈ e.visit.around →
      ∃ name, settings.environment.findTemplate name = .ok t)
    (Q := fun _ _ es _ => ∀ e ∈ es, ∀ t, .parent t ∈ e.visit.around →
      ∃ name, settings.environment.findTemplate name = .ok t)
    (fun _ _ _ h => absurd h List.not_mem_nil) (fun _ _ _ _ _ ofNode _ => ofNode) ?_ ?_ levels
    nodes s
  · intro n ns s es t fs u first _ rest e he
    exact (List.mem_append.1 he).elim (first e) (rest e)
  · intro levels further n s e he t isParent
    rcases List.mem_append.1 he with he | he
    · rcases List.mem_cons.1 he with rfl | he
      · cases isParent
      · obtain ⟨f, hf, rfl⟩ := List.mem_map.1 he
        obtain ⟨d, -, hf⟩ := List.mem_flatMap.1 hf
        rw [Event.visit_within] at isParent
        rcases List.mem_append.1 isParent with isParent | isParent
        · exact further d.nodes d.state f hf t isParent
        · exact State.stored_of_role (List.mem_singleton.1 isParent).symm
    · rw [List.mem_singleton.1 he] at isParent
      cases isParent

/-! ## Named blocks -/

section Blocks

variable {settings : Settings} {sub : Renderer} {s : State}

/-- A named block is rendered as the nodes that stand in for it, or else as its own. -/
theorem State.attempt_namedBlock (binds : settings.environment.registry.BindsBlocks)
    (markup name : String) (span : Span) (body : List Node) :
    let nodes := (Table.find? s.context.overrides name).getD body
    s.attempt settings sub (.block "block" markup (.text name) span body []) = sub nodes s ∧
      s.descents settings sub (.block "block" markup (.text name) span body []) =
        [⟨nodes, s⟩] := by
  have asks : Tags.namedBlock.handler.render (.block "block" (.text name) body []) = (do
      let override : Option (List Node) ← Action.ask (.blockOverride name)
      Action.renderNodes (override.getD body)) := rfl
  have bound : settings.environment.registry.find? "block" = some Tags.namedBlock.handler := binds
  simp only [attempt, descents, bound, asks]
  exact ⟨Action.run_renderNodes .., Action.descents_renderNodes ..⟩

theorem Course.descents_of_parent {n : Node} {t u : State} {p : Template} {ds : List Descent}
    {r : Except Error Unit} (course : Course sub n (.parent p) t ds r u) :
    ds = [⟨p.nodes, t.enterParent p⟩] := by
  cases course with
  | refuse isPlain => rcases isPlain with isPlain | isPlain <;> cases isPlain
  | extend => rfl

theorem State.role_extends {e : Expr} {kind markup name : String} {span : Span} {t : Template}
    (bound : settings.environment.registry.find? kind = some Tags.extendsTag.handler)
    (evaluated : (s.context.scope settings).eval e = .ok (.string name))
    (stored : settings.environment.findTemplate name = .ok t) :
    s.role settings (.tag kind markup (.expr e) span) = .parent t := by
  have found : (Tags.parentOf (.expr e)).answer settings s = .ok t := by
    rw [Tags.answer_parentOf]
    show (s.context.scope settings).eval e >>= _ = _
    rw [evaluated]
    exact stored
  simp only [role, Node.handler?, Node.call?, bound]
  show Role.ofParent _ = _
  rw [found]
  rfl

end Blocks

/-- The first of the templates that have a block of the name decides. -/
theorem findSome?_block?_eq {registry : Registry} (binds : registry.BindsBlocks)
    {ts : List Template} (legal : ∀ t ∈ ts, t.IsLegal registry) (name : String) :
    (ts.findSome? fun t => t.block? name) = ts.findSome? fun t => t.firstBlock? name := by
  induction ts with
  | nil => rfl
  | cons t ts ih =>
    rw [List.findSome?_cons, List.findSome?_cons, (legal t (List.mem_cons_self ..)).block?_eq binds,
      ih fun u hu => legal u (List.mem_cons_of_mem _ hu)]

namespace Visit.IsFrom

variable {registry : Registry} {template : Template} {v : Visit}

/-- For the blocks of a name stands the first block of that name below the last template. -/
theorem overrides_eq (isFrom : v.IsFrom (v.origin template)) (binds : registry.BindsBlocks)
    (legal : ∀ t ∈ v.chain template, t.IsLegal registry) (name : String) :
    Table.find? v.state.context.overrides name =
      (v.chain template).dropLast.findSome? fun t => t.firstBlock? name := by
  rw [← findSome?_block?_eq binds fun t ht => legal t (List.dropLast_subset _ ht),
    isFrom.isAt.overrides name, chain_eq, List.dropLast_concat]
  rfl

/-- In the nodes of a parent, the blocks of the last template stand for others as well. -/
theorem overrides_enterParent (isFrom : v.IsFrom (v.origin template))
    (binds : registry.BindsBlocks) (legal : ∀ t ∈ v.chain template, t.IsLegal registry)
    (parent : Template) (name : String) :
    Table.find? (v.state.enterParent parent).context.overrides name =
      (v.chain template).findSome? fun t => t.firstBlock? name := by
  have entered := isFrom.isAt.enterParent parent
  rw [← findSome?_block?_eq binds legal, chain_eq, entered.overrides name, ← List.reverse_cons]
  rfl

theorem legal_node (isFrom : v.IsFrom (v.origin template))
    (legal : ∀ t ∈ v.chain template, t.IsLegal registry) :
    ∃ maxDepth inside depth, v.node.Legal registry maxDepth inside depth := by
  obtain ⟨nodes, part, mem⟩ := isFrom.contains
  have inChain : (v.origin template).writer ∈ v.chain template := by
    rw [chain_eq, Origin.writer]
    cases owned : (v.origin template).owner with
    | none => simp
    | some t => simp [isFrom.derived t owned]
  obtain ⟨maxDepth, legal⟩ := legal _ inChain
  obtain ⟨inside, depth, legal⟩ := part.legal legal
  exact ⟨maxDepth, inside, depth, .of_mem legal mem⟩

end Visit.IsFrom

/-- The templates of a chain are legal if those are that can be in it. -/
theorem Environment.legal_chain {env : Environment} {template : Template} {assigns : Value}
    {options : RenderOptions} (legal : template.IsLegal env.registry)
    (stored : ∀ name t, env.findTemplate name = .ok t → t.IsLegal env.registry) :
    ∀ e ∈ env.history template assigns options, ∀ t ∈ e.visit.chain template,
      t.IsLegal env.registry := by
  intro e he t ht
  rcases List.mem_cons.1 ht with rfl | ht
  · exact legal
  · obtain ⟨r, mem, isParent⟩ := List.mem_filterMap.1 (List.mem_reverse.1 ht)
    cases r with
    | parent p =>
      obtain rfl := Option.some.inj isParent
      obtain ⟨name, found⟩ := history_stored (env.settings options) maxLevels template.nodes
        (startState template assigns options) e he p mem
      exact stored name p found
    | _ => cases isParent

namespace Environment

/-- Which nodes a render lets stand in for named blocks. -/
structure ResolvesBlocks (env : Environment) (template : Template) (assigns : Value)
    (options : RenderOptions) : Prop where
  /-- The template that is being rendered is the last of the chain. -/
  current : ∀ e ∈ env.history template assigns options,
    (e.visit.chain template).getLast? = some e.visit.state.context.template
  /-- For the blocks of a name stands the first block of that name in the lowest template of the
  chain, without the last, that has one. -/
  overrides : ∀ e ∈ env.history template assigns options, ∀ name,
    Table.find? e.visit.state.context.overrides name =
      (e.visit.chain template).dropLast.findSome? fun t => t.firstBlock? name
  /-- An extension that names a stored template renders its nodes, and the template that is being
  rendered has become one of those whose blocks stand for others. -/
  extensions : ∀ e ∈ env.history template assigns options, ∀ kind markup parentName p expr span,
    e.visit.node = .tag kind markup (.expr expr) span →
    env.registry.find? kind = some Tags.extendsTag.handler →
    (e.visit.state.context.scope (env.settings options)).eval expr = .ok (.string parentName) →
    env.findTemplate parentName = .ok p →
    e.visit.role (env.settings options) = .parent p ∧ ∃ s,
      (∀ sub, e.visit.state.descents (env.settings options) sub e.visit.node = [⟨p.nodes, s⟩]) ∧
      s.context.template = p ∧
      ∀ name, Table.find? s.context.overrides name =
        (e.visit.chain template).findSome? fun t => t.firstBlock? name
  /-- A named block renders the nodes that stand for it, and its own if there are none. -/
  blocks : ∀ e ∈ env.history template assigns options, ∀ markup payload span body clauses,
    e.visit.node = .block "block" markup payload span body clauses →
    ∃ name, payload = .text name ∧ clauses = [] ∧ ∀ sub,
      let nodes := ((e.visit.chain template).dropLast.findSome? fun t =>
        t.firstBlock? name).getD body
      e.visit.state.attempt (env.settings options) sub e.visit.node = sub nodes e.visit.state ∧
        e.visit.state.descents (env.settings options) sub e.visit.node =
          [⟨nodes, e.visit.state⟩]

/-- With the built-in handlers, the block of the template furthest down wins. -/
theorem resolvesBlocks (env : Environment) (isBuiltin : env.registry.OnlyBuiltin)
    (binds : env.registry.BindsBlocks) (template : Template) (legal : template.IsLegal env.registry)
    (stored : ∀ name t, env.findTemplate name = .ok t → t.IsLegal env.registry) (assigns : Value)
    (options : RenderOptions) : env.ResolvesBlocks template assigns options := by
  have start : (Origin.ofTemplate template).Matches (startState template assigns options) :=
    ⟨rfl, fun _ => rfl⟩
  have isFrom : ∀ e ∈ env.history template assigns options,
      e.visit.IsFrom (e.visit.origin template) :=
    @history_isFrom (env.settings options) isBuiltin maxLevels template.nodes _ _ start nofun .whole
  have legalChain : ∀ e ∈ env.history template assigns options, ∀ t ∈ e.visit.chain template,
      t.IsLegal env.registry := legal_chain legal stored
  constructor
  case current =>
    intro e he
    rw [Visit.chain_eq, List.getLast?_concat, (isFrom e he).isAt.template]
  case overrides => exact fun e he => (isFrom e he).overrides_eq binds (legalChain e he)
  case extensions =>
    intro e he kind markup parentName p expr span node bound evaluated found
    have role : e.visit.role (env.settings options) = .parent p := by
      rw [Visit.role, node]
      exact State.role_extends bound evaluated found
    refine ⟨role, e.visit.state.enterParent p, fun sub => ?_, rfl,
      (isFrom e he).overrides_enterParent binds (legalChain e he) p⟩
    have course := e.visit.state.course (env.settings options) sub
      (isBuiltin.of_handler? e.visit.node)
    rw [show e.visit.state.role _ _ = _ from role] at course
    exact course.descents_of_parent
  case blocks =>
    intro e he markup payload span body clauses node
    obtain ⟨maxDepth, inside, depth, isLegal⟩ := (isFrom e he).legal_node (legalChain e he)
    rw [node] at isLegal
    obtain ⟨name, rfl, -, rfl⟩ := isLegal.named binds
    refine ⟨name, rfl, rfl, fun sub => ?_⟩
    rw [node, ← (isFrom e he).overrides_eq binds (legalChain e he) name]
    exact State.attempt_namedBlock binds markup name span body

end Environment

/-! ### A block that is defined three times -/

/-- A template that extends `childPage`, whose block fails, and `basePage` through it. -/
def leafPage : Template := .ofNodes "leaf" [
  .tag "extends" "'child'" (.expr (.const (.string "child"))) ⟨⟨1, 0⟩, ⟨1, 21⟩⟩,
  .block "block" "b" (.text "b") ⟨⟨1, 21⟩, ⟨1, 34⟩⟩ [.text "leaf"] []]

/-- The standard environment with the templates that are extended. -/
def leafEnvironment : Environment :=
  { Environment.standard with templates := [("base", basePage), ("child", childPage)] }

theorem Node.legal_extends {markup : String} {e : Expr} (parsed : Expr.parse markup = .ok e)
    (span : Span) :
    Node.Legal Registry.builtin 64 none 0 (.tag "extends" markup (.expr e) span) := by
  unfold Node.Legal
  refine ⟨nofun, Tags.extendsTag.handler, rfl, rfl, ?_⟩
  show (Expr.parse markup).map Payload.expr = _
  rw [parsed]
  rfl

theorem Node.legal_namedBlock {markup name : String} {body : List Node}
    (read : Tags.readName markup = .ok name) (span : Span)
    (legal : ∀ inside, LegalAll Registry.builtin 64 inside 1 body) :
    Node.Legal Registry.builtin 64 none 0 (.block "block" markup (.text name) span body []) := by
  unfold Node.Legal
  refine ⟨nofun, by decide, Tags.namedBlock.handler, ⟨rfl, rfl, ?_⟩, legal _, ?_, .nil⟩
  · show (Tags.readName markup).map Payload.text = _
    rw [read]
    rfl
  · unfold LegalClauses
    trivial

theorem Node.legal_text (registry : Registry) (maxDepth : Nat) (inside : Option Enclosure)
    (depth : Nat) (text : String) : Node.Legal registry maxDepth inside depth (.text text) := by
  unfold Node.Legal
  trivial

theorem Node.legal_variable (registry : Registry) (maxDepth : Nat) (inside : Option Enclosure)
    (depth : Nat) (v : Variable) (span : Span) :
    Node.Legal registry maxDepth inside depth (.variable v span) := by
  unfold Node.Legal
  trivial

theorem isLegal_basePage : basePage.IsLegal Registry.builtin := by
  refine ⟨64, ?_⟩
  simp only [basePage, Template.ofNodes, LegalAll, Node.legal_text, and_true, true_and]
  exact Node.legal_namedBlock rfl _ fun _ => by simp only [LegalAll]

theorem isLegal_childPage : childPage.IsLegal Registry.builtin := by
  refine ⟨64, ?_⟩
  simp only [childPage, Template.ofNodes, LegalAll, Node.legal_text, and_true, true_and]
  refine ⟨Node.legal_extends rfl _, Node.legal_namedBlock rfl _ fun _ => ?_⟩
  simp only [unknownFilter, LegalAll, Node.legal_variable, and_self]

theorem isLegal_leafPage : leafPage.IsLegal Registry.builtin := by
  refine ⟨64, ?_⟩
  simp only [leafPage, Template.ofNodes, LegalAll, and_true]
  refine ⟨Node.legal_extends rfl _, Node.legal_namedBlock rfl _ fun _ => ?_⟩
  simp only [LegalAll, Node.legal_text, and_self]

theorem Environment.resolvesBlocks_leafPage :
    leafEnvironment.registry.OnlyBuiltin ∧ leafEnvironment.registry.BindsBlocks ∧
      leafPage.IsLegal leafEnvironment.registry ∧
      (∀ name t, leafEnvironment.findTemplate name = .ok t →
        t.IsLegal leafEnvironment.registry) ∧
      leafEnvironment.ResolvesBlocks leafPage .none .default := by
  have stored (name : String) (t : Template) (found : leafEnvironment.findTemplate name = .ok t) :
      t.IsLegal leafEnvironment.registry := by
    unfold Environment.findTemplate at found
    split at found
    · next bound =>
      rw [Except.ok.inj found] at bound
      have listed : (name, t) ∈ [("base", basePage), ("child", childPage)] :=
        Table.mem_of_find? bound
      simp only [List.mem_cons, List.not_mem_nil, or_false, Prod.mk.injEq] at listed
      rcases listed with ⟨-, rfl⟩ | ⟨-, rfl⟩
      · exact isLegal_basePage
      · exact isLegal_childPage
    · cases found
  exact ⟨Registry.onlyBuiltin_builtin, rfl, isLegal_leafPage, stored,
    resolvesBlocks leafEnvironment Registry.onlyBuiltin_builtin rfl leafPage isLegal_leafPage
      stored .none .default⟩

/-- The block of the template furthest down is rendered in the place of both others. -/
example : (leafEnvironment.finalState leafPage .none .default).output = ⟨.joined "<leaf>", []⟩ :=
  rfl

end Stencil
