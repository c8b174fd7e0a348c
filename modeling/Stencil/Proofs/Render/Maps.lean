import Stencil.Proofs.Handler.Maps
import Stencil.Proofs.Handler.Registration
import Stencil.Proofs.Render.Nesting
import Stencil.Proofs.Value.Import

/-!
# Renders keep maps in order

A render begins with sorted values, and what it binds, registers and notes along its way is sorted
again (`Environment.IsSorted.render`), as every operation leaves a sorted context and answers with
sorted things (`Op.exec_isSorted`).  So nothing that a template can come upon is a map out of order.
-/

namespace Stencil

/-! ## Contexts -/

/-- Everything in the context is sorted, wherever it is held. -/
structure Context.IsSorted (c : Context) : Prop where
  template : c.template.IsSorted
  assigns : c.assigns.IsSorted
  globals : (Value.map c.globals).IsSorted
  locals : ∀ t ∈ c.locals, (Value.map t).IsSorted
  registers : (Value.map c.registers).IsSorted
  /-- The names of the blocks that nodes stand for. -/
  named : Table.IsSorted c.overrides
  overrides : ∀ e ∈ c.overrides, ∀ n ∈ e.2, n.IsSorted
  notes : ∀ v ∈ c.notes, v.IsSorted

namespace Context.IsSorted

variable {c : Context}

theorem start {template : Template} (own : template.IsSorted) {assigns : Value}
    (assigned : assigns.IsSorted) {registers : Table Value}
    (registered : (Value.map registers).IsSorted) :
    (Context.start template assigns registers).IsSorted where
  template := own
  assigns := assigned
  globals := Value.isSorted_empty
  locals := List.forall_mem_nil _
  registers := registered
  named := Table.isSorted_nil
  overrides := List.forall_mem_nil _
  notes := List.forall_mem_nil _

theorem assigned? (sorted : c.IsSorted) (name : String) :
    ∀ v ∈ c.assigned? name, v.IsSorted := by
  intro v found
  obtain ⟨t, isMap, found⟩ := Option.bind_eq_some_iff.mp found
  have assigns := sorted.assigns
  cases held : c.assigns with
  | map entries =>
    rw [held] at assigns isMap
    cases isMap
    exact assigns.find? found
  | _ =>
    rw [held] at isMap
    cases isMap

/-- Whichever place a name is found in, it stands for a sorted value. -/
theorem lookup (sorted : c.IsSorted) {presets : Table Value}
    (preset : (Value.map presets).IsSorted) (name : String) :
    (c.lookup presets name).IsSorted := by
  have orElse {a b : Option Value} (first : ∀ v ∈ a, v.IsSorted) (second : ∀ v ∈ b, v.IsSorted) :
      ∀ v ∈ (a <|> b), v.IsSorted := by
    cases a with
    | none => exact second
    | some v => exact first
  have local? : ∀ v ∈ c.locals.findSome? fun t => t.find? name, v.IsSorted := by
    intro v found
    obtain ⟨t, mem, found⟩ := List.exists_of_findSome?_eq_some found
    exact (sorted.locals t mem).find? found
  exact Value.isSorted_getD (orElse local? (orElse (fun _ => sorted.globals.find?)
    (orElse (sorted.assigned? name)
      (orElse (fun _ => sorted.template.presets.find?) fun _ => preset.find?))))

theorem setGlobal (sorted : c.IsSorted) (name : String) {v : Value} (value : v.IsSorted) :
    (c.setGlobal name v).IsSorted :=
  { sorted with globals := sorted.globals.set name value }

theorem setLocal (sorted : c.IsSorted) (name : String) {v : Value} (value : v.IsSorted) :
    (c.setLocal name v).IsSorted := by
  unfold Context.setLocal
  split
  · exact sorted.setGlobal name value
  next t ts held =>
    have locals := sorted.locals
    rw [held] at locals
    obtain ⟨first, others⟩ := List.forall_mem_cons.mp locals
    exact { sorted with locals := List.forall_mem_cons.mpr ⟨first.set name value, others⟩ }

theorem pushScope (sorted : c.IsSorted) : c.pushScope.IsSorted :=
  { sorted with locals := List.forall_mem_cons.mpr ⟨Value.isSorted_empty, sorted.locals⟩ }

theorem popScope (sorted : c.IsSorted) : c.popScope.IsSorted :=
  { sorted with locals := fun t mem => sorted.locals t (List.mem_of_mem_tail mem) }

theorem setRegister (sorted : c.IsSorted) (key : String) {v : Value} (value : v.IsSorted) :
    (c.setRegister key v).IsSorted :=
  { sorted with registers := sorted.registers.set key value }

theorem setSignal (sorted : c.IsSorted) (signal : Signal) : (c.setSignal signal).IsSorted :=
  { sorted with }

theorem enter (sorted : c.IsSorted) {t : Template} (entered : t.IsSorted) :
    IsSorted { c with template := t } :=
  { sorted with template := entered }

theorem addOverride (sorted : c.IsSorted) (name : String) {nodes : List Node}
    (each : ∀ n ∈ nodes, n.IsSorted) : (c.addOverride name nodes).IsSorted where
  __ := sorted
  named := sorted.named.setNew name nodes
  overrides e mem := by
    unfold Context.addOverride Table.setNew at mem
    dsimp only at mem
    split at mem
    · exact sorted.overrides e mem
    · rcases Table.mem_set mem with rfl | mem
      · exact each
      · exact sorted.overrides e mem

theorem record (sorted : c.IsSorted) (e : Error) : (c.record e).IsSorted :=
  { sorted with }

theorem note (sorted : c.IsSorted) {v : Value} (value : v.IsSorted) : (c.note v).IsSorted :=
  { sorted with notes := List.forall_mem_cons.mpr ⟨value, sorted.notes⟩ }

end Context.IsSorted

/-! ## Environments -/

/-- Everything that the environment holds is sorted, and its filters and handlers keep things
sorted. -/
structure Environment.IsSorted (env : Environment) : Prop where
  presets : (Value.map env.presets).IsSorted
  templates : ∀ e ∈ env.templates, e.2.IsSorted
  filters : ∀ name f, env.filters.find? name = some f → f.KeepsSorted
  handlers : env.registry.Satisfies fun _ h => h.KeepsSorted

namespace Environment

theorem isSorted_standard : standard.IsSorted where
  presets := Value.isSorted_empty
  templates := List.forall_mem_nil _
  filters name _ bound := Filter.IsBuiltin.keepsSorted ⟨name, bound⟩
  handlers name _ bound := Handler.IsBuiltin.keepsSorted ⟨name, bound⟩

namespace IsSorted

variable {env : Environment}

theorem addPreset (sorted : env.IsSorted) (name : String) {v : Value} (value : v.IsSorted) :
    (env.addPreset name v).IsSorted :=
  { sorted with presets := sorted.presets.set name (Value.IsSorted.imported value) }

theorem addFilter (sorted : env.IsSorted) (name : String) {f : Filter} (keeps : f.KeepsSorted) :
    (env.addFilter name f).IsSorted where
  __ := sorted
  filters other g bound := by
    by_cases same : other = name
    · subst same
      rw [Environment.addFilter, Table.find?_set_self] at bound
      cases bound
      exact keeps
    · rw [Environment.addFilter, Table.find?_set_of_ne _ same] at bound
      exact sorted.filters other g bound

theorem register (sorted : env.IsSorted) {name : String} {h : Handler} (keeps : h.KeepsSorted)
    {after : Environment} (registered : env.register name h = .ok after) : after.IsSorted := by
  obtain ⟨registry, done, rfl⟩ := register_eq_ok_iff.mp registered
  exact { sorted with handlers := sorted.handlers.register keeps done }

/-- A document that is read presets nothing, and its constants are sorted. -/
theorem parseNamed (sorted : env.IsSorted) (name source : String) :
    Gives Template.IsSorted (env.parseNamed name source) := by
  intro t parsed
  have legal := Template.legal_of_parse parsed
  obtain ⟨nodes, -, made⟩ := bind_eq_ok.mp parsed
  cases made
  exact Template.isSorted_ofNodes (LegalAll.isSorted
    (fun name h bound => (sorted.handlers name h bound).toReadsSorted) nodes legal)

theorem addTemplate (sorted : env.IsSorted) {name source : String} {after : Environment}
    (added : env.addTemplate name source = .ok after) : after.IsSorted := by
  obtain ⟨t, parsed, added⟩ := bind_eq_ok.mp added
  cases added
  refine { sorted with templates := fun e mem => ?_ }
  rcases Table.mem_set mem with rfl | mem
  · exact sorted.parseNamed name source t parsed
  · exact sorted.templates e mem

theorem findTemplate (sorted : env.IsSorted) (name : String) :
    Gives Template.IsSorted (env.findTemplate name) := by
  unfold Environment.findTemplate
  split
  next t found => exact .ok (sorted.templates _ (Table.mem_of_find? found))
  · exact .error

end IsSorted

end Environment

/-! ## Runs -/

/-- Rendering sorted nodes leaves a sorted context sorted. -/
def Renderer.KeepsSorted (sub : Renderer) : Prop :=
  ∀ nodes, (∀ n ∈ nodes, n.IsSorted) → ∀ s : State, s.context.IsSorted →
    (sub nodes s).2.context.IsSorted

section Runs

variable {settings : Settings} {sub : Renderer}

theorem Op.exec_isSorted (env : settings.environment.IsSorted) (keeps : sub.KeepsSorted) {op : Op}
    (handed : op.IsSorted) {s : State} (sorted : s.context.IsSorted) :
    op.AnswersSorted (op.exec settings sub s).1 ∧ (op.exec settings sub s).2.context.IsSorted := by
  have scope : (s.context.scope settings).IsSorted := ⟨sorted.lookup env.presets, env.filters⟩
  cases op with
  | lookup name => exact ⟨sorted.lookup env.presets name, sorted⟩
  | setGlobal name v => exact ⟨trivial, sorted.setGlobal name handed⟩
  | setLocal name v => exact ⟨trivial, sorted.setLocal name handed⟩
  | pushScope => exact ⟨trivial, sorted.pushScope⟩
  | popScope => exact ⟨trivial, sorted.popScope⟩
  | globals => exact ⟨sorted.globals, sorted⟩
  | assigns => exact ⟨sorted.assigns, sorted⟩
  | register key => exact ⟨fun v found => sorted.registers.find? found, sorted⟩
  | setRegister key v => exact ⟨trivial, sorted.setRegister key handed⟩
  | registers => exact ⟨sorted.registers, sorted⟩
  | setSignal signal => exact ⟨trivial, sorted.setSignal signal⟩
  | takeSignal => exact ⟨trivial, sorted.setSignal .normal⟩
  | presets => exact ⟨env.presets, sorted⟩
  | template => exact ⟨sorted.template, sorted⟩
  | findTemplate name => exact ⟨env.findTemplate name, sorted⟩
  | enterTemplate t => exact ⟨sorted.template, sorted.enter handed⟩
  | blockOverride name =>
    exact ⟨fun nodes found => sorted.overrides _ (Table.mem_of_find? found), sorted⟩
  | addOverride name nodes => exact ⟨trivial, sorted.addOverride name handed⟩
  | evalExpr e => exact ⟨Scope.givesSorted_eval scope e handed, sorted⟩
  | evalVariable v => exact ⟨Scope.givesSorted_evalVariable scope handed, sorted⟩
  | renderNodes nodes => exact ⟨trivial, keeps nodes handed s sorted⟩
  | parseTemplate name source => exact ⟨env.parseNamed name source, sorted⟩
  | note v => exact ⟨trivial, sorted.note handed⟩
  | _ => exact ⟨trivial, sorted⟩

theorem Action.KeepsSorted.run (env : settings.environment.IsSorted) (keeps : sub.KeepsSorted)
    {α : Type} {P : α → Prop} {a : Action α} (orderly : a.KeepsSorted P) {s : State}
    (sorted : s.context.IsSorted) :
    Gives P (a.run settings sub s).1 ∧ (a.run settings sub s).2.context.IsSorted := by
  induction a generalizing s with
  | done x => exact ⟨.ok orderly, sorted⟩
  | fail e => exact ⟨.error, sorted⟩
  | perform op next ih =>
    obtain ⟨answer, after⟩ := op.exec_isSorted env keeps orderly.1 sorted
    exact ih _ (orderly.2 _ answer) after

theorem Context.IsSorted.recover {s : State} (sorted : s.context.IsSorted) (ofVariable : Bool)
    (span : Option Span) (e : Error) : (s.recover settings ofVariable span e).context.IsSorted := by
  unfold State.recover
  cases settings.environment.errorMode with
  | lax => exact sorted
  | strict => exact sorted.record _

theorem State.isSorted_settle {r : Except Error Unit × State} (sorted : r.2.context.IsSorted)
    (span : Span) : (settle settings span r).context.IsSorted := by
  unfold settle
  split
  · exact sorted
  · exact sorted.recover _ _ _

theorem State.isSorted_renderNode (env : settings.environment.IsSorted) (keeps : sub.KeepsSorted)
    {s : State} (sorted : s.context.IsSorted) {n : Node} (own : n.IsSorted) :
    (s.renderNode settings sub n).context.IsSorted := by
  cases own with
  | text t => exact sorted
  | «variable» v span =>
    -- The value is written, and nothing else becomes of it.
    rw [renderNode, renderVariable]
    split
    · exact sorted
    · exact sorted.recover _ _ _
  | @tag name _ payload _ own =>
    rw [renderNode]
    split
    next h bound =>
      have call := (env.handlers name h bound).render (.tag name payload) own
      exact isSorted_settle (call.run env keeps sorted).2 _
    · exact sorted
  | @block name _ payload _ body clauses own nodes sections inner =>
    rw [renderNode]
    split
    next h bound =>
      have call := (env.handlers name h bound).render (.block name payload body clauses)
        ⟨own, nodes, fun c mem => ⟨sections c mem, inner c mem⟩⟩
      exact isSorted_settle (call.run env keeps sorted).2 _
    · exact isSorted_settle (keeps _ nodes s sorted) _

theorem keepsSorted_renderNodes (env : settings.environment.IsSorted) (levels : Nat) :
    (renderNodes settings levels).KeepsSorted := by
  induction levels with
  | zero => exact fun _ _ _ sorted => sorted
  | succ levels ih =>
    intro nodes own s sorted
    show (s.renderList settings (renderNodes settings levels) nodes).context.IsSorted
    induction nodes generalizing s with
    | nil => exact sorted
    | cons n ns rest =>
      obtain ⟨first, others⟩ := List.forall_mem_cons.mp own
      have after := State.isSorted_renderNode env ih sorted first
      rw [State.renderList]
      split
      · exact rest others _ after
      · exact after

end Runs

/-- Whatever a render leaves behind is sorted. -/
theorem Environment.IsSorted.render {env : Environment} (sorted : env.IsSorted)
    {template : Template} (own : template.IsSorted) {assigns : Value} (assigned : assigns.IsSorted)
    {options : RenderOptions} (registered : (Value.map options.registers).IsSorted)
    {r : Rendered} (rendered : env.render template assigns options = .ok r) :
    r.context.IsSorted := by
  obtain ⟨_, -, rendered⟩ := bind_eq_ok.mp rendered
  cases rendered
  have start : (startState template assigns.imported options).context.IsSorted :=
    .start own assigned.imported registered
  have keeps : (renderNodes (env.settings options) maxLevels).KeepsSorted :=
    keepsSorted_renderNodes sorted maxLevels
  have after := keeps template.nodes own.nodes _ start
  rwa [← finalState_eq] at after

end Stencil
