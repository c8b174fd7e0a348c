import Stencil.Proofs.Render.Failures

/-!
# Where nodes are from

A render goes through nodes of several templates: those of the template that it is started with, of
the templates that are extended, and of the blocks that stand in for blocks further up.  An `Origin`
tells the template that a node is from, and the roles of the nodes around a node tell its origin.

The template of the render is the one that is extended last.  So it is the template that a node is
from, unless the node is in a block that stands in for one of that template: then the node is from a
template that extends it, directly or through others.
-/

namespace Stencil

/-! ## Nodes inside of others -/

/-- The nodes are the whole or are inside of it at some depth. -/
inductive PartOf (whole : List Node) : List Node → Prop where
  | whole : PartOf whole whole
  | inside {nodes inner : List Node} {n : Node} (part : PartOf whole nodes) (mem : n ∈ nodes)
      (holds : n.Holds inner) : PartOf whole inner

/-- The template holds the node at some depth. -/
def Template.Contains (t : Template) (n : Node) : Prop := ∃ nodes, PartOf t.nodes nodes ∧ n ∈ nodes

namespace Tags

mutual

/-- The named blocks in nodes are inside of them. -/
theorem partOf_of_namedBlocks {whole nodes : List Node} {name : String} {body : List Node} :
    ∀ {part : List Node}, (name, body) ∈ namedBlocks nodes → PartOf whole part →
      (∀ n ∈ nodes, n ∈ part) → PartOf whole body := by
  intro part found isPart inPart
  match nodes with
  | [] => cases found
  | n :: ns =>
    rcases List.mem_append.1 found with found | found
    · exact partOf_of_namedBlocksOf found isPart (inPart n (List.mem_cons_self ..))
    · exact partOf_of_namedBlocks found isPart fun m hm => inPart m (List.mem_cons_of_mem _ hm)

theorem partOf_of_namedBlocksOf {whole : List Node} {n : Node} {name : String} {body : List Node} :
    ∀ {part : List Node}, (name, body) ∈ namedBlocksOf n → PartOf whole part → n ∈ part →
      PartOf whole body := by
  intro part found isPart inPart
  match n with
  | .text _ => cases found
  | .variable .. => cases found
  | .tag .. => cases found
  | .block blockName markup payload span inner clauses =>
    have isPartInner : PartOf whole inner := .inside isPart inPart (.inl rfl)
    rcases List.mem_append.1 found with found | found
    · rcases List.mem_append.1 found with found | found
      · have own : body = inner := by
          split at found
          · rw [Option.mem_toList, Option.map_eq_some_iff] at found
            obtain ⟨_, -, same⟩ := found
            exact (Prod.mk.inj same).2.symm
          · cases found
        rwa [own]
      · exact partOf_of_namedBlocks found isPartInner fun _ h => h
    · exact partOf_of_namedBlocksIn found isPart inPart fun c hc => .inr ⟨c, hc, rfl⟩

theorem partOf_of_namedBlocksIn {whole : List Node} {n : Node} {clauses : List (Clause Node)}
    {name : String} {body : List Node} :
    ∀ {part : List Node}, (name, body) ∈ namedBlocksIn clauses → PartOf whole part → n ∈ part →
      (∀ c ∈ clauses, n.Holds c.body) → PartOf whole body := by
  intro part found isPart inPart holds
  match clauses with
  | [] => cases found
  | ⟨clauseName, markup, payload, inner⟩ :: cs =>
    rcases List.mem_append.1 found with found | found
    · exact partOf_of_namedBlocks found (.inside isPart inPart (holds _ (List.mem_cons_self ..)))
        fun _ h => h
    · exact partOf_of_namedBlocksIn found isPart inPart fun c hc =>
        holds c (List.mem_cons_of_mem _ hc)

end

end Tags

/-! ## Origins -/

/-- The template that is rendered, and the one that a node in it is from. -/
structure Origin where
  /-- The template that has been extended last. -/
  current : Template
  /-- The templates that extend it, directly or through others, the nearest one first. -/
  derived : List Template
  /-- The template of the block that stands in around the node, if one does. -/
  owner : Option Template

/-- The body of the first block of a template with the given name. -/
def Template.block? (t : Template) (name : String) : Option (List Node) :=
  (Tags.namedBlocks t.nodes).lookup name

theorem Template.partOf_of_block? {t : Template} {name : String} {body : List Node}
    (found : t.block? name = some body) : PartOf t.nodes body :=
  Tags.partOf_of_namedBlocks (Table.mem_of_find? found) .whole fun _ h => h

namespace Origin

/-- The origin of the nodes of a template that is rendered. -/
def ofTemplate (t : Template) : Origin := ⟨t, [], none⟩

/-- The template that the node is from. -/
def writer (o : Origin) : Template := o.owner.getD o.current

/-- The template whose block stands in for those of the given name: the one furthest down. -/
def owner? (o : Origin) (name : String) : Option Template :=
  o.derived.reverse.find? fun t => (t.block? name).isSome

/-- The body of that block. -/
def override? (o : Origin) (name : String) : Option (List Node) :=
  o.derived.reverse.findSome? fun t => t.block? name

/-- The origin of the nodes that a node in the given role renders. -/
def enter (o : Origin) : Role → Origin
  | .parent t => ⟨t, o.current :: o.derived, none⟩
  | .override name => { o with owner := o.owner? name }
  | _ => o

/-- The origin of a node inside of nodes in the given roles, the innermost first. -/
def along (o : Origin) (around : List Role) : Origin := around.foldr (fun r o => o.enter r) o

@[simp] theorem along_append (o : Origin) (around : List Role) (r : Role) :
    o.along (around ++ [r]) = (o.enter r).along around := by
  simp [along]

/-- A block that stands in is from a template that extends the one that is rendered. -/
def OwnerDerived (o : Origin) : Prop := ∀ t, o.owner = some t → t ∈ o.derived

theorem OwnerDerived.enter {o : Origin} (derived : o.OwnerDerived) (r : Role) :
    (o.enter r).OwnerDerived := by
  intro t owns
  cases r with
  | parent p => cases owns
  | override name => exact List.mem_reverse.1 (List.mem_of_find?_eq_some owns)
  | _ => exact derived t owns

/-- The body that stands in is inside of its template. -/
theorem partOf_of_override? {o : Origin} {name : String} {body : List Node}
    (found : o.override? name = some body) :
    PartOf (o.enter (.override name)).writer.nodes body := by
  have owned (ts : List Template) (found : (ts.findSome? fun t => t.block? name) = some body) :
      ∃ t, (ts.find? fun t => (t.block? name).isSome) = some t ∧ t.block? name = some body := by
    induction ts with
    | nil => cases found
    | cons t ts ih =>
      rw [List.findSome?_cons] at found
      rw [List.find?_cons]
      cases h : t.block? name with
      | none =>
        rw [h] at found
        exact ih found
      | some b =>
        rw [h] at found
        exact ⟨t, rfl, h.trans found⟩
  obtain ⟨t, owns, block⟩ := owned _ found
  have writer : (o.enter (.override name)).writer = t := by
    show ((o.owner? name).getD o.current) = t
    rw [owner?, owns]
    rfl
  rw [writer]
  exact Template.partOf_of_block? block

end Origin

/-! ## The state of a render and its origin -/

namespace State

/-- The template is the same, and so are the overrides unless the template has been extended. -/
structure Kept (s t : State) : Prop where
  template : t.context.template = s.context.template
  overrides : t.context.signal ≠ .extended → t.context.overrides = s.context.overrides

theorem Kept.refl (s : State) : s.Kept s := ⟨rfl, fun _ => rfl⟩

theorem Kept.trans {s t u : State} (first : s.Kept t) (second : t.Kept u)
    (goesOn : t.context.signal ≠ .extended) : s.Kept u :=
  ⟨second.template.trans first.template, fun h => (second.overrides h).trans (first.overrides goesOn)⟩

theorem Rebinds.kept_of_kept {s t u : State} (rebinds : s.Rebinds t) (kept : t.Kept u) :
    s.Kept u := by
  obtain ⟨_, _, _, rfl⟩ := rebinds
  exact ⟨kept.template, kept.overrides⟩

theorem Kept.of_rebinds {s t u : State} (kept : s.Kept t) (rebinds : t.Rebinds u) : s.Kept u := by
  obtain ⟨_, _, _, rfl⟩ := rebinds
  exact ⟨kept.template, kept.overrides⟩

end State

namespace Origin

/-- The state of a render is as the origin tells. -/
structure Matches (o : Origin) (s : State) : Prop where
  template : s.context.template = o.current
  overrides : ∀ name, Table.find? s.context.overrides name = o.override? name

theorem Matches.of_kept {o : Origin} {s t : State} (isAt : o.Matches s) (kept : s.Kept t)
    (goesOn : t.context.signal ≠ .extended) : o.Matches t := by
  refine ⟨kept.template.trans isAt.template, fun name => ?_⟩
  rw [kept.overrides goesOn]
  exact isAt.overrides name

theorem Matches.of_rebinds {o : Origin} {s t : State} (isAt : o.Matches s)
    (rebinds : s.Rebinds t) : o.Matches t := by
  obtain ⟨_, _, _, rfl⟩ := rebinds
  exact ⟨isAt.template, isAt.overrides⟩

theorem Matches.enterParent {o : Origin} {s : State} (isAt : o.Matches s) (parent : Template) :
    (o.enter (.parent parent)).Matches (s.enterParent parent) := by
  refine ⟨rfl, fun name => ?_⟩
  show Table.find? (List.foldl _ _ _) name =
    (o.current :: o.derived).reverse.findSome? fun t => t.block? name
  rw [Table.find?_foldl_setNew, isAt.overrides, isAt.template, List.reverse_cons,
    List.findSome?_append]
  have last : ([o.current].findSome? fun t => t.block? name) =
      List.lookup name (Tags.namedBlocks o.current.nodes) := by
    rw [List.findSome?_cons]
    unfold Template.block?
    cases List.lookup name (Tags.namedBlocks o.current.nodes) <;> rfl
  rw [last]
  rfl

end Origin

section Courses

variable {sub : Renderer} {role : Role} {n : Node} {s t : State} {ds : List Descent}
  {r : Except Error Unit} {o : Origin}

/-- Nodes leave the template and the overrides as they should. -/
def Renderer.Keeps (sub : Renderer) : Prop :=
  ∀ nodes (s : State), s.Kept (sub nodes s).2

theorem Renderer.Keeps.of_rendered (keeps : sub.Keeps) {nodes : List Node}
    (rendered : sub nodes s = (r, t)) : s.Kept t := by
  have kept := keeps nodes s
  rwa [rendered] at kept

/-- The signal that a loop goes on with is no extension. -/
theorem Signal.ne_extended_of_goesOn {signal : Signal}
    (goesOn : signal = .normal ∨ signal = .continue) : signal ≠ .extended := by
  rcases goesOn with h | h <;> rw [h] <;> exact nofun

theorem Rounds.kept (keeps : sub.Keeps) {nodes : List Node}
    (rounds : Rounds sub nodes s ds r t) : s.Kept t := by
  induction rounds with
  | finished s => exact .refl s
  | refused rebinds rendered => exact rebinds.kept_of_kept (keeps.of_rendered rendered)
  | @next s t u v ds r rebinds rendered goesOn rest ih =>
    have kept := rebinds.kept_of_kept (keeps.of_rendered rendered)
    have up : u.context.signal ≠ .extended := Signal.ne_extended_of_goesOn goesOn
    exact ⟨ih.template.trans kept.template,
      fun h => (ih.overrides h).trans (kept.overrides up)⟩
  | left rebinds rendered signal =>
    have kept := rebinds.kept_of_kept (keeps.of_rendered rendered)
    exact ⟨kept.template, fun _ => kept.overrides (signal ▸ nofun)⟩
  | extended rebinds rendered => exact rebinds.kept_of_kept (keeps.of_rendered rendered)

theorem Rounds.lineage (keeps : sub.Keeps) {nodes : List Node}
    (rounds : Rounds sub nodes s ds r t) (isAt : o.Matches s) :
    ∀ d ∈ ds, d.nodes = nodes ∧ o.Matches d.state := by
  have atFirst {s t : State} (isAt : o.Matches s) (rebinds : s.Rebinds t) :
      ∀ d ∈ [Descent.mk nodes t], d.nodes = nodes ∧ o.Matches d.state := by
    intro d hd
    rw [List.mem_singleton.1 hd]
    exact ⟨rfl, isAt.of_rebinds rebinds⟩
  induction rounds with
  | finished s => exact fun _ h => absurd h List.not_mem_nil
  | refused rebinds => exact atFirst isAt rebinds
  | @next s t u v ds r rebinds rendered goesOn rest ih =>
    have up : u.context.signal ≠ .extended := Signal.ne_extended_of_goesOn goesOn
    have resumed := isAt.of_kept (rebinds.kept_of_kept (keeps.of_rendered rendered)) up
    intro d hd
    rcases List.mem_cons.1 hd with rfl | hd
    · exact ⟨rfl, isAt.of_rebinds rebinds⟩
    · exact ih ⟨resumed.template, resumed.overrides⟩ d hd
  | left rebinds => exact atFirst isAt rebinds
  | extended rebinds => exact atFirst isAt rebinds

theorem Sections.kept (keeps : sub.Keeps) (sections : Sections sub n s ds r t) : s.Kept t := by
  induction sections with
  | finished s => exact .refl s
  | undecided s => exact .refl s
  | refused holds rendered => exact keeps.of_rendered rendered
  | next holds rendered goesOn rest ih =>
    exact (keeps.of_rendered rendered).trans ih (by rw [goesOn]; exact nofun)
  | left holds rendered => exact keeps.of_rendered rendered

theorem Sections.lineage (keeps : sub.Keeps) (sections : Sections sub n s ds r t)
    (isAt : o.Matches s) : ∀ d ∈ ds, n.Holds d.nodes ∧ o.Matches d.state := by
  induction sections with
  | finished s => exact fun _ h => absurd h List.not_mem_nil
  | undecided s => exact fun _ h => absurd h List.not_mem_nil
  | refused holds =>
    intro d hd
    rw [List.mem_singleton.1 hd]
    exact ⟨holds, isAt⟩
  | @next s t u nodes ds r holds rendered goesOn rest ih =>
    have up : t.context.signal ≠ .extended := by
      rw [goesOn]
      exact nofun
    intro d hd
    rcases List.mem_cons.1 hd with rfl | hd
    · exact ⟨holds, isAt⟩
    · exact ih (isAt.of_kept (keeps.of_rendered rendered) up) d hd
  | left holds =>
    intro d hd
    rw [List.mem_singleton.1 hd]
    exact ⟨holds, isAt⟩

theorem Course.kept (keeps : sub.Keeps) (course : Course sub n role s ds r t) : s.Kept t := by
  cases course with
  | refuse => exact .refl s
  | write rebinds =>
    obtain ⟨_, _, _, rfl⟩ := rebinds
    exact ⟨rfl, fun _ => rfl⟩
  | raise => exact ⟨rfl, fun _ => rfl⟩
  | descend => exact keeps ..
  | @capture _ _ inner holds rebinds =>
    have kept := keeps inner s.openCapture
    have closed : s.Kept (sub inner s.openCapture).2.closeCapture :=
      ⟨kept.template, kept.overrides⟩
    exact closed.of_rebinds rebinds
  | choose sections => exact sections.kept keeps
  | loop holds opens rounds closes =>
    exact (opens.kept_of_kept (rounds.kept keeps)).of_rebinds closes
  | extend => exact ⟨rfl, fun h => absurd rfl h⟩
  | override => exact keeps ..

/-- What a node renders is as its origin and its role tell. -/
theorem Course.lineage (keeps : sub.Keeps) (course : Course sub n role s ds r t)
    (isAt : o.Matches s) {nodes : List Node} (isPart : PartOf o.writer.nodes nodes)
    (mem : n ∈ nodes) :
    ∀ d ∈ ds, (o.enter role).Matches d.state ∧ PartOf (o.enter role).writer.nodes d.nodes := by
  have inside {inner : List Node} (holds : n.Holds inner) : PartOf o.writer.nodes inner :=
    .inside isPart mem holds
  intro d hd
  cases course with
  | refuse => cases hd
  | write => cases hd
  | raise => cases hd
  | descend _ holds =>
    rw [List.mem_singleton.1 hd]
    exact ⟨isAt, inside holds⟩
  | capture holds =>
    rw [List.mem_singleton.1 hd]
    exact ⟨⟨isAt.template, isAt.overrides⟩, inside holds⟩
  | choose sections =>
    obtain ⟨holds, isAt⟩ := sections.lineage keeps isAt d hd
    exact ⟨isAt, inside holds⟩
  | loop holds opens rounds closes =>
    obtain ⟨same, isAt⟩ := rounds.lineage keeps (isAt.of_rebinds opens) d hd
    rw [same]
    exact ⟨isAt, inside holds⟩
  | extend _ parent =>
    rw [List.mem_singleton.1 hd]
    exact ⟨isAt.enterParent parent, .whole⟩
  | override bound =>
    rw [List.mem_singleton.1 hd]
    refine ⟨⟨isAt.template, isAt.overrides⟩, Origin.partOf_of_override? ?_⟩
    rw [← isAt.overrides]
    exact bound

end Courses

/-! ## Histories -/

/-- The state of a visit is as its origin tells, and its node is from the template that its origin
tells. -/
structure Visit.IsFrom (v : Visit) (o : Origin) : Prop where
  isAt : o.Matches v.state
  contains : o.writer.Contains v.node
  derived : o.OwnerDerived

theorem State.kept_renderNode {settings : Settings} {sub : Renderer} {s : State} {n : Node}
    (kept : s.Kept (s.attempt settings sub n).2) : s.Kept (s.renderNode settings sub n) := by
  rw [renderNode_eq]
  rcases h : s.attempt settings sub n with ⟨e | _, t⟩
  · rw [h] at kept
    obtain ⟨signal, template, overrides⟩ := t.context_recover settings n.isVariable n.span? e
    exact ⟨template.trans kept.template,
      fun up => overrides.trans (kept.overrides (signal ▸ up))⟩
  · rwa [h] at kept

/-- Whatever is rendered keeps the template, and the overrides unless there is an extension. -/
theorem keeps_renderNodes {settings : Settings}
    (isBuiltin : settings.environment.registry.OnlyBuiltin) (levels : Nat) :
    (renderNodes settings levels).Keeps := by
  refine history_induction (P := fun _ s _ t => s.Kept t) (Q := fun _ s _ t => s.Kept t)
    (fun _ s => .refl s) (fun _ _ _ _ _ kept _ => kept) ?_ ?_ levels
  · intro n ns s es t fs u first normal rest
    exact first.trans rest (by rw [normal]; exact nofun)
  · intro levels keeps n s
    exact State.kept_renderNode ((s.course settings _ (isBuiltin.of_handler? n)).kept keeps)

/-- Every visit of a history is from where the roles around it tell. -/
theorem history_isFrom {settings : Settings}
    (isBuiltin : settings.environment.registry.OnlyBuiltin) (levels : Nat) (nodes : List Node)
    (s : State) (o : Origin) (isAt : o.Matches s) (derived : o.OwnerDerived)
    (isPart : PartOf o.writer.nodes nodes) :
    ∀ e ∈ history settings levels nodes s, e.visit.IsFrom (o.along e.visit.around) := by
  refine history_induction
    (P := fun nodes s es _ => ∀ (o : Origin) (part : List Node), o.Matches s → o.OwnerDerived →
      PartOf o.writer.nodes part → (∀ n ∈ nodes, n ∈ part) →
      ∀ e ∈ es, e.visit.IsFrom (o.along e.visit.around))
    (Q := fun n s es t => s.Kept t ∧ ∀ (o : Origin) (part : List Node), o.Matches s →
      o.OwnerDerived → PartOf o.writer.nodes part → n ∈ part →
      ∀ e ∈ es, e.visit.IsFrom (o.along e.visit.around))
    ?_ ?_ ?_ ?_ levels nodes s o nodes isAt derived isPart fun _ h => h
  · exact fun _ _ _ _ _ _ _ _ _ h => absurd h List.not_mem_nil
  · intro n ns s es t ofNode _ o part isAt derived isPart mem
    exact ofNode.2 o part isAt derived isPart (mem n (List.mem_cons_self ..))
  · intro n ns s es t fs u ofNode normal rest o part isAt derived isPart mem e he
    obtain ⟨kept, first⟩ := ofNode
    rcases List.mem_append.1 he with he | he
    · exact first o part isAt derived isPart (mem n (List.mem_cons_self ..)) e he
    · have goesOn := isAt.of_kept kept (by rw [normal]; exact nofun)
      exact rest o part goesOn derived isPart (fun m hm => mem m (List.mem_cons_of_mem _ hm)) e he
  · intro levels further n s
    have keeps := keeps_renderNodes isBuiltin levels
    have course := s.course settings (renderNodes settings levels) (isBuiltin.of_handler? n)
    refine ⟨State.kept_renderNode (course.kept keeps), ?_⟩
    intro o part isAt derived isPart mem e he
    have own : (Visit.mk n s []).IsFrom o := ⟨isAt, ⟨part, isPart, mem⟩, derived⟩
    rcases List.mem_append.1 he with he | he
    · rcases List.mem_cons.1 he with rfl | he
      · exact own
      · obtain ⟨f, hf, rfl⟩ := List.mem_map.1 he
        obtain ⟨d, hd, hf⟩ := List.mem_flatMap.1 hf
        obtain ⟨inside, isPartInside⟩ := course.lineage keeps isAt isPart mem d hd
        have isFrom := further d.nodes d.state _ _ inside (derived.enter _) isPartInside
          (fun _ h => h) f hf
        rw [Event.visit_within, Origin.along_append]
        exact ⟨isFrom.isAt, isFrom.contains, isFrom.derived⟩
    · rw [List.mem_singleton.1 he]
      exact own

/-! ## The errors of a render -/

theorem State.Rebinds.errors_eq {s t : State} (rebinds : s.Rebinds t) :
    t.context.errors = s.context.errors := by
  obtain ⟨_, _, _, rfl⟩ := rebinds
  rfl

/-- No errors are recorded but those of the descents. -/
inductive RecordsNothing (sub : Renderer) : State → List Descent → State → Prop where
  | nil {s t : State} (same : t.context.errors = s.context.errors) : RecordsNothing sub s [] t
  | cons {s t : State} {d : Descent} {ds : List Descent}
      (same : d.state.context.errors = s.context.errors)
      (rest : RecordsNothing sub (d.exit sub) ds t) : RecordsNothing sub s (d :: ds) t

section Errors

variable {sub : Renderer} {role : Role} {n : Node} {s t : State} {ds : List Descent}
  {r : Except Error Unit}

namespace RecordsNothing

theorem single {d : Descent} (first : d.state.context.errors = s.context.errors)
    (last : t.context.errors = (d.exit sub).context.errors) : RecordsNothing sub s [d] t :=
  .cons first (.nil last)

/-- What happens around the descents may change as long as the errors do not. -/
theorem congr {u v : State} (records : RecordsNothing sub s ds t)
    (first : u.context.errors = s.context.errors) (last : v.context.errors = t.context.errors) :
    RecordsNothing sub u ds v := by
  induction records generalizing u with
  | nil same => exact .nil ((last.trans same).trans first.symm)
  | cons same rest ih => exact .cons (same.trans first.symm) (ih rfl last)

theorem errors_eq (records : RecordsNothing sub s ds t) {recorded : Descent → List Error}
    (each : ∀ d ∈ ds, (d.exit sub).context.errors = d.state.context.errors ++ recorded d) :
    t.context.errors = s.context.errors ++ ds.flatMap recorded := by
  induction records with
  | nil same => rw [same, List.flatMap_nil, List.append_nil]
  | @cons s t d ds same rest ih =>
    rw [ih fun d' h => each d' (List.mem_cons_of_mem _ h), each d (List.mem_cons_self ..), same,
      List.flatMap_cons, List.append_assoc]

end RecordsNothing

theorem Descent.errors_of_rendered {nodes : List Node} (rendered : sub nodes s = (r, t)) :
    t.context.errors = (Descent.exit sub ⟨nodes, s⟩).context.errors := by
  rw [Descent.exit_of_rendered rendered]

theorem Rounds.recordsNothing {nodes : List Node} (rounds : Rounds sub nodes s ds r t) :
    RecordsNothing sub s ds t := by
  induction rounds with
  | finished s => exact .nil rfl
  | refused rebinds rendered =>
    exact .single rebinds.errors_eq (Descent.errors_of_rendered rendered)
  | next rebinds rendered goesOn rest ih =>
    exact .cons rebinds.errors_eq (ih.congr (Descent.errors_of_rendered rendered).symm rfl)
  | @left s t u rebinds rendered =>
    have last : u.context.errors = _ := Descent.errors_of_rendered rendered
    exact .single rebinds.errors_eq last
  | extended rebinds rendered =>
    exact .single rebinds.errors_eq (Descent.errors_of_rendered rendered)

theorem Sections.recordsNothing (sections : Sections sub n s ds r t) :
    RecordsNothing sub s ds t := by
  induction sections with
  | finished s => exact .nil rfl
  | undecided s => exact .nil rfl
  | refused holds rendered => exact .single rfl (Descent.errors_of_rendered rendered)
  | next holds rendered goesOn rest ih =>
    exact .cons rfl (ih.congr (Descent.errors_of_rendered rendered).symm rfl)
  | left holds rendered => exact .single rfl (Descent.errors_of_rendered rendered)

theorem Course.recordsNothing (course : Course sub n role s ds r t) : RecordsNothing sub s ds t := by
  cases course with
  | refuse => exact .nil rfl
  | write rebinds => exact .nil rebinds.errors_eq
  | raise => exact .nil rfl
  | descend => exact .single rfl rfl
  | capture holds rebinds => exact .single rfl rebinds.errors_eq
  | choose sections => exact sections.recordsNothing
  | loop holds opens rounds closes =>
    exact rounds.recordsNothing.congr opens.errors_eq.symm closes.errors_eq
  | extend => exact .single rfl rfl
  | override => exact .single rfl rfl

end Errors

/-- The error that is recorded when a node is left in strict mode. -/
def Event.recorded? : Event → Option Error
  | .leave v (.error e) _ => some (v.state.placed v.node.span? e)
  | _ => none

@[simp] theorem Event.recorded?_within (r : Role) (e : Event) :
    (e.within r).recorded? = e.recorded? := by
  rcases e with v | ⟨v, outcome, after⟩
  · rfl
  · cases outcome <;> rfl

/-- In strict mode, errors are recorded in the order in which nodes are left, each with the template
of the render and with the line of the node that failed. -/
theorem history_errors {settings : Settings}
    (isBuiltin : settings.environment.registry.OnlyBuiltin)
    (strict : settings.environment.errorMode = .strict) (levels : Nat) (nodes : List Node)
    (s : State) :
    (renderNodes settings levels nodes s).2.context.errors =
      s.context.errors ++ (history settings levels nodes s).filterMap Event.recorded? := by
  refine history_induction
    (P := fun _ s es t => t.context.errors = s.context.errors ++ es.filterMap Event.recorded?)
    (Q := fun _ s es t => t.context.errors = s.context.errors ++ es.filterMap Event.recorded?)
    (fun _ _ => (List.append_nil _).symm) (fun _ _ _ _ _ ofNode _ => ofNode) ?_ ?_ levels nodes s
  · intro n ns s es t fs u first _ rest
    rw [rest, first, List.filterMap_append, List.append_assoc]
  · intro levels further n s
    have course := s.course settings (renderNodes settings levels) (isBuiltin.of_handler? n)
    have inside := course.recordsNothing.errors_eq fun d _ => further d.nodes d.state
    have kept := course.kept (keeps_renderNodes isBuiltin levels)
    have events := State.filterMap_events settings (renderNodes settings levels)
      (history settings levels) (fun _ => rfl) Event.recorded?_within s n
    rw [events, ← List.append_assoc, ← inside, State.renderNode_eq]
    rcases failed : s.attempt settings (renderNodes settings levels) n with ⟨e | _, t⟩
    · rw [failed] at kept
      have placed : t.placed n.span? e = s.placed n.span? e := by
        unfold State.placed
        rw [kept.template]
      show (t.recover settings n.isVariable n.span? e).context.errors =
        t.context.errors ++ [s.placed n.span? e]
      rw [State.recover_of_strict strict, placed]
      exact Context.errors_record ..
    · exact (List.append_nil _).symm

/-! ## The template of a render -/

/-- Where the node of a visit is from, in a render of the given template. -/
def Visit.origin (v : Visit) (template : Template) : Origin :=
  (Origin.ofTemplate template).along v.around

namespace Environment

/-- What the template of a render tells about the nodes that are rendered. -/
structure TellsTemplates (env : Environment) (template : Template) (assigns : Value)
    (options : RenderOptions) : Prop where
  /-- A node is in the tree of the template that the roles around it tell. -/
  contains : ∀ e ∈ env.history template assigns options,
    (e.visit.origin template).writer.Contains e.visit.node
  /-- That is the template of the render, unless the node is in a block that stands in for one of
  that template. -/
  own : ∀ e ∈ env.history template assigns options,
    e.visit.state.context.template = (e.visit.origin template).writer ↔
      ∀ t, (e.visit.origin template).owner = some t → t = (e.visit.origin template).current
  /-- A block that stands in is from a template that extends the template of the render. -/
  derived : ∀ e ∈ env.history template assigns options,
    e.visit.state.context.template = (e.visit.origin template).current ∧
      ∀ t, (e.visit.origin template).owner = some t → t ∈ (e.visit.origin template).derived
  /-- In strict mode an error is recorded for each node that fails, with the name of the template of
  the render and the line of the node. -/
  errors : env.errorMode = .strict →
    (env.finalState template assigns options).context.errors =
      (env.history template assigns options).filterMap Event.recorded?
  /-- The error gets that name and that line unless it has a place already. -/
  places : ∀ v e t, .leave v (.error e) t ∈ env.history template assigns options →
    e.location = none → ∀ span, v.node.span? = some span →
    (v.state.placed v.node.span? e).location =
      some ⟨(v.origin template).current.name, span.start.line⟩
  /-- Presets are those of the template that a node is from, with the same exception. -/
  presets : ∀ e ∈ env.history template assigns options,
    (∀ t, (e.visit.origin template).owner = some t → t = (e.visit.origin template).current) →
    ∀ presets name, e.visit.state.context.lookup presets name =
      { e.visit.state.context with template := (e.visit.origin template).writer }.lookup presets name

/-- With the built-in handlers, the template of a render is the one that the node is from, unless
the node is in a block that stands in for another one. -/
theorem tellsTemplates (env : Environment) (isBuiltin : env.registry.OnlyBuiltin)
    (template : Template) (assigns : Value) (options : RenderOptions) :
    env.TellsTemplates template assigns options := by
  have start : (Origin.ofTemplate template).Matches (startState template assigns options) :=
    ⟨rfl, fun _ => rfl⟩
  have isFrom : ∀ e ∈ env.history template assigns options,
      e.visit.IsFrom (e.visit.origin template) :=
    @history_isFrom (env.settings options) isBuiltin maxLevels template.nodes _ _ start nofun .whole
  have own (e : Event) (he : e ∈ env.history template assigns options) :
      e.visit.state.context.template = (e.visit.origin template).writer ↔
        ∀ t, (e.visit.origin template).owner = some t →
          t = (e.visit.origin template).current := by
    rw [(isFrom e he).isAt.template, Origin.writer]
    cases (e.visit.origin template).owner with
    | none => exact ⟨fun _ => nofun, fun _ => rfl⟩
    | some t => exact ⟨fun same u hu => Option.some.inj hu ▸ same.symm, fun same => (same t rfl).symm⟩
  constructor
  case contains => exact fun e he => (isFrom e he).contains
  case own => exact own
  case derived => exact fun e he => ⟨(isFrom e he).isAt.template, (isFrom e he).derived⟩
  case errors =>
    intro strict
    exact @history_errors (env.settings options) isBuiltin strict maxLevels template.nodes
      (startState template assigns options)
  case places =>
    intro v e t left unplaced span atSpan
    have current : v.state.context.template = (v.origin template).current :=
      (isFrom _ left).isAt.template
    rw [atSpan]
    show (e.orLocatedAt v.state.context.template.name span.start.line).location = _
    rw [Error.orLocatedAt_of_none unplaced, current]
    rfl
  case presets =>
    intro e he ownBlock presets name
    rw [← (own e he).2 ownBlock]

end Environment

/-! ### A block that stands in and fails -/

/-- A template of one line with a named block. -/
def basePage : Template := .ofNodes "base" [
  .text "<", .block "block" "b" (.text "b") ⟨⟨1, 1⟩, ⟨1, 14⟩⟩ [] [], .text ">"]

/-- A variable with a filter that there is not. -/
def unknownFilter : Node := .variable ⟨.const (.int 1), [⟨"nope", []⟩]⟩ ⟨⟨3, 13⟩, ⟨3, 27⟩⟩

/-- A template that extends it, and whose block fails in the third line. -/
def childPage : Template := .ofNodes "child" [
  .tag "extends" "'base'" (.expr (.const (.string "base"))) ⟨⟨1, 0⟩, ⟨1, 20⟩⟩, .text "\n\n",
  .block "block" "b" (.text "b") ⟨⟨3, 0⟩, ⟨3, 13⟩⟩ [unknownFilter] []]

/-- The standard environment in strict mode, with the template that is extended. -/
def baseEnvironment : Environment :=
  { Environment.standard with errorMode := .strict, templates := [("base", basePage)] }

theorem tellsTemplates_childPage :
    baseEnvironment.registry.OnlyBuiltin ∧
      baseEnvironment.TellsTemplates childPage .none .default :=
  ⟨Registry.onlyBuiltin_builtin,
    Environment.tellsTemplates baseEnvironment Registry.onlyBuiltin_builtin childPage .none .default⟩

theorem not_contains_unknownFilter : ¬ basePage.Contains unknownFilter := by
  rintro ⟨nodes, isPart, mem⟩
  have parts : nodes = basePage.nodes ∨ nodes = [] := by
    clear mem
    induction isPart with
    | whole => exact .inl rfl
    | inside _ mem holds ih =>
      rcases ih with rfl | rfl
      · simp only [basePage, Template.ofNodes, List.mem_cons, List.not_mem_nil, or_false] at mem
        rcases mem with rfl | rfl | rfl
        · cases holds
        · rcases holds with rfl | ⟨c, hc, -⟩
          · exact .inr rfl
          · cases hc
        · cases holds
      · cases mem
  rcases parts with rfl | rfl
  · simp [basePage, unknownFilter, Template.ofNodes] at mem
  · cases mem

/-- The variable fails in the template that is extended, which does not hold it. -/
theorem not_contains_of_override :
    ¬ ∀ (env : Environment) (template : Template) (assigns : Value) (options : RenderOptions),
      env.registry.OnlyBuiltin → ∀ e ∈ env.history template assigns options,
      e.visit.state.context.template.Contains e.visit.node := by
  intro always
  have entered : ∃ v, (baseEnvironment.history childPage .none .default)[4]? = some (.enter v) ∧
      v.state.context.template = basePage ∧ v.node = unknownFilter := ⟨_, rfl, rfl, rfl⟩
  obtain ⟨v, entered, template, node⟩ := entered
  have contains := always baseEnvironment childPage .none .default Registry.onlyBuiltin_builtin _
    (List.mem_of_getElem? entered)
  change v.state.context.template.Contains v.node at contains
  rw [template, node] at contains
  exact not_contains_unknownFilter contains

/-- The error is recorded at a line that the template of its name does not have. -/
example : (baseEnvironment.finalState childPage .none .default).context.errors.map Error.location =
    [some ⟨"base", 3⟩] := rfl

end Stencil
