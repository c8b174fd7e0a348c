import Stencil.Proofs.Document.Places
import Stencil.Proofs.Render.Builtin
import Stencil.Proofs.Render.Evaluation
import Stencil.Proofs.Render.History

/-!
# The phases that errors belong to

The category of an error tells when it was found.  What a document is at fault for has a cause of
parsing.  `Action.Ensures` says of an action that it fails with errors of rendering only, as long as
what it asks for does; the built-in handlers are such actions, and so every error that a render
records is one of rendering.
-/

namespace Stencil

/-! ## Parsing -/

section Documents

variable {registry : Registry} {maxDepth : Nat} {source : String}

theorem Cause.category_of_isRefusal {cause : Cause} (refusal : cause.isRefusal = true) :
    cause.kind.category = .parsing := by
  cases cause with
  | unnamedTag => rfl
  | _ => exact beq_iff_eq.mp refusal

/-- A construct that a document is at fault for is a matter of parsing. -/
theorem Fault.category (refuses : ∀ name h, registry.find? name = some h → h.Refuses)
    {before construct after : List Char} {cause : Cause}
    (fault : Fault registry maxDepth source before construct after cause) :
    cause.kind.category = .parsing := by
  cases fault with
  | unterminated => rfl
  | broken read broken => cases broken <;> rfl
  | rejected read covers rejects =>
    refine Cause.category_of_isRefusal (rejects.isRefusal refuses fun b mem => ?_)
    obtain ⟨ts, segments, -, -, -, holds⟩ := read.tokens
    obtain ⟨name, bound⟩ := holds.bound b mem
    exact refuses name b.handler bound

/-- Every error that a document is not read for is one of parsing. -/
theorem category_of_readNodes (refuses : ∀ name h, registry.find? name = some h → h.Refuses)
    {name : String} {e : Error}
    (failed : Template.readNodes registry maxDepth name source = .error e) :
    e.category = .parsing := by
  unfold Template.readNodes at failed
  dsimp only at failed
  rcases bind_eq_error.mp failed with failed | ⟨d, read, rest⟩
  · obtain ⟨before, construct, after, cause, fault, rfl⟩ := Fault.of_readTokens refuses failed
    exact fault.category refuses
  · cases stopped : (Token.scan source).failure with
    | some failure =>
      obtain ⟨before, construct, after, fault, -⟩ := Fault.of_scan read stopped
      rw [Scan.error?, stopped] at rest
      obtain rfl := Except.error.inj rest
      exact fault.category refuses
    | none =>
      rw [Scan.error?, stopped] at rest
      obtain ⟨blocks, nodes⟩ := d
      cases blocks with
      | nil => cases rest
      | cons b outer =>
        obtain rfl := Except.error.inj rest
        rfl

end Documents

/-! ## Actions that fail with errors of rendering -/

/-- An answer that is a failure is an error of rendering.  Documents are another matter: they are
parsed. -/
def Op.Answers : (op : Op) → op.Answer → Prop
  | .findTemplate _, r => FailsRendering r
  | .evalExpr _, r => FailsRendering r
  | .evalChain _, r => FailsRendering r
  | .evalVariable _, r => FailsRendering r
  | .renderNodes _, r => FailsRendering r
  | _, _ => True

namespace Action

variable {α β : Type}

/-- Whatever the action fails with is an error of rendering, and its result has the property, as
long as the same is true of what it asks for. -/
def Ensures (P : α → Prop) : Action α → Prop
  | done a => P a
  | fail e => e.category = .rendering
  | perform op next => ∀ answer, op.Answers answer → (next answer).Ensures P

namespace Ensures

variable {P : α → Prop} {Q : β → Prop}

theorem bind {a : Action α} {f : α → Action β} (first : a.Ensures P)
    (next : ∀ x, P x → (f x).Ensures Q) : (a >>= f).Ensures Q := by
  induction a with
  | done x => exact next x first
  | fail e => exact first
  | perform op rest ih => exact fun answer answers => ih answer (first answer answers)

/-- An action whose result may be anything. -/
theorem andThen {a : Action α} {f : α → Action β} (first : a.Ensures fun _ => True)
    (next : ∀ x, (f x).Ensures Q) : (a >>= f).Ensures Q :=
  first.bind fun x _ => next x

theorem ask (op : Op) : (Action.ask op).Ensures op.Answers := fun _ answers => answers

theorem ofExcept {r : Except Error α} (fails : FailsRendering r) :
    (Action.ofExcept r).Ensures fun _ => True := by
  cases r with
  | ok a => trivial
  | error e => exact fails e rfl

theorem evalExpr (e : Expr) : (Action.evalExpr e).Ensures fun _ => True :=
  fun _ answers => ofExcept answers

theorem evalChain (c : ConditionChain) : (Action.evalChain c).Ensures fun _ => True :=
  fun _ answers => ofExcept answers

theorem evalVariable (v : Variable) : (Action.evalVariable v).Ensures fun _ => True :=
  fun _ answers => ofExcept answers

theorem renderNodes (nodes : List Node) : (Action.renderNodes nodes).Ensures fun _ => True :=
  fun _ answers => ofExcept answers

theorem findTemplate (name : String) : (Action.findTemplate name).Ensures fun _ => True :=
  fun _ answers => ofExcept answers

end Ensures

end Action

/-! ### The built-in handlers -/

/-- Handlers come to nothing, so that only their failures matter. -/
abbrev Action.Fails (a : Action Unit) : Prop := a.Ensures fun _ => True

theorem failsRendering_typed {μ : Type} [MarkupType μ] (p : Payload) :
    FailsRendering (MarkupType.typed p : Except Error μ) := by
  unfold MarkupType.typed
  split
  · exact .ok _
  · exact .error rfl

theorem failsRendering_ofBlock {μ κ : Type} [MarkupType μ] [MarkupType κ] (name : String)
    (payload : Payload) (body : List Node) (clauses : List (Clause Node)) :
    FailsRendering (Body.ofBlock name payload body clauses : Except Error (Body μ κ)) := by
  have sections (c : Clause Node) :
      FailsRendering (Section.ofClause c : Except Error (Section κ)) :=
    (failsRendering_typed c.payload).bind fun _ => .ok _
  exact (FailsRendering.mapM sections clauses).bind fun _ =>
    (failsRendering_typed payload).bind fun _ => .ok _

theorem Tag.fails {μ : Type} [MarkupType μ] {t : Tag μ} (renders : ∀ m, (t.render m).Fails)
    (c : Call) : (t.handler.render c).Fails := by
  cases c with
  | tag name payload => exact .andThen (.ofExcept (failsRendering_typed payload)) renders
  | block name => exact rfl

theorem Block.fails {μ κ : Type} [MarkupType μ] [MarkupType κ] {b : Block μ κ}
    (renders : ∀ body, (b.render body).Fails) (c : Call) : (b.handler.render c).Fails := by
  cases c with
  | tag name => exact rfl
  | block name payload body clauses =>
    exact .andThen (.ofExcept (failsRendering_ofBlock name payload body clauses)) renders

namespace Tags

open Stencil.Action (Ensures Fails)

theorem fails_assign (a : Assignment) : (assign.render a).Fails :=
  .andThen (.evalVariable a.value) fun _ => .ask _

theorem fails_captureNodes (name : String) (nodes : List Node) : (captureNodes name nodes).Fails :=
  .andThen (.ask _) fun _ => .bind (.ask (.renderNodes nodes)) fun _ outcome =>
    .andThen (.ask _) fun _ => .andThen (.ofExcept outcome) fun _ => .ask _

theorem ensures_counter (name : String) : (counter name).Ensures fun _ => True :=
  .andThen (.ask _) fun _ => trivial

theorem fails_increment (name : String) : (increment.render name).Fails :=
  .andThen (ensures_counter name) fun _ => .andThen (.ask _) fun _ => .ask _

theorem fails_decrement (name : String) : (decrement.render name).Fails :=
  .andThen (ensures_counter name) fun _ => .andThen (.ask _) fun _ => .ask _

theorem fails_renderFirst (sections : List (Option ConditionChain × List Node)) :
    (renderFirst sections).Fails := by
  induction sections with
  | nil => exact trivial
  | cons c rest ih =>
    obtain ⟨condition, nodes⟩ := c
    cases condition with
    | none => exact .renderNodes nodes
    | some condition =>
      refine .andThen (.evalChain condition) fun chosen => ?_
      cases chosen with
      | true => exact .renderNodes nodes
      | false => exact ih

theorem fails_unless (body : Body ConditionChain Unit) : («unless».render body).Fails := by
  refine .andThen (.evalChain body.markup) fun chosen => ?_
  cases chosen with
  | false => exact .renderNodes body.nodes
  | true =>
    simp only [if_true]
    cases body.clauses with
    | nil => exact trivial
    | cons first rest => exact .renderNodes first.nodes

theorem ensures_anyEquals (v : Value) (es : List Expr) :
    (anyEquals v es).Ensures fun _ => True := by
  induction es with
  | nil => exact trivial
  | cons e rest ih =>
    refine .andThen (.evalExpr e) fun candidate => ?_
    by_cases same : candidate.equals v
    · rw [if_pos same]
      exact trivial
    · rw [if_neg same]
      exact ih

theorem ensures_selects (v : Value) (matched : Bool) (markup : Option (List Expr)) :
    (selects v matched markup).Ensures fun _ => True := by
  cases markup with
  | none => exact trivial
  | some es => exact ensures_anyEquals v es

theorem fails_renderSections (v : Value) (matched : Bool)
    (sections : List (Section (Option (List Expr)))) :
    (renderSections v matched sections).Fails := by
  induction sections generalizing matched with
  | nil => exact trivial
  | cons c rest ih =>
    rw [renderSections_cons]
    refine .andThen (ensures_selects v matched c.markup) fun chosen => ?_
    cases chosen with
    | false => exact ih matched
    | true =>
      refine .andThen (.renderNodes c.nodes) fun _ => .andThen (.ask .signal) fun signal => ?_
      by_cases normal : signal = .normal
      · rw [if_pos normal]
        exact ih true
      · rw [if_neg normal]
        exact trivial

theorem fails_case (body : Body Expr (Option (List Expr))) : (case.render body).Fails :=
  .andThen (.evalExpr body.markup) fun v => fails_renderSections v false body.clauses

theorem ensures_evalCount (what : String) (e : Option Expr) :
    (evalCount what e).Ensures fun _ => True := by
  cases e with
  | none => exact trivial
  | some e =>
    refine .andThen (.evalExpr e) fun v => ?_
    by_cases nil : v.isNil
    · rw [if_pos nil]
      exact trivial
    · rw [if_neg nil]
      cases v.asInt? with
      | none => exact rfl
      | some n => exact trivial

/-- The rounds of a loop come to the refusal that has ended them. -/
theorem ensures_renderItems (name : String) (nodes : List Node) (length index : Nat)
    (items : List Value) : (renderItems name nodes length index items).Ensures FailsRendering := by
  induction items generalizing index with
  | nil => exact .ok ()
  | cons item rest ih =>
    refine .andThen (.ask (.setLocal name item)) fun _ => .andThen (.ask (.setLocal "forloop" _))
      fun _ => .bind (.ask (.renderNodes nodes)) fun outcome fails => ?_
    cases outcome with
    | error e => exact fails
    | ok =>
      refine .andThen (.ask .signal) fun signal => ?_
      cases signal with
      | normal => exact ih (index + 1)
      | «continue» => exact .andThen (.ask (.setSignal .normal)) fun _ => ih (index + 1)
      | «break» =>
        exact .andThen (.ask (.setSignal .normal)) fun _ => FailsRendering.ok ()
      | extended => exact .ok ()

theorem fails_renderLoop (name : String) (nodes : List Node) (sections : List (Section Unit))
    (items : List Value) : (renderLoop name nodes sections items).Fails := by
  cases items with
  | nil =>
    cases sections with
    | nil => exact trivial
    | cons first rest => exact .renderNodes first.nodes
  | cons item rest =>
    exact .andThen (.ask .pushScope) fun _ =>
      .bind (ensures_renderItems name nodes _ 0 (item :: rest)) fun _ fails =>
        .andThen (.ask .popScope) fun _ => .ofExcept fails

theorem fails_for (body : Body Loop Unit) : («for».render body).Fails :=
  .andThen (.evalExpr body.markup.items) fun v =>
    .andThen (.ofExcept v.failsRendering_iterate) fun _ =>
      .andThen (ensures_evalCount "offset" body.markup.offset) fun _ =>
        .andThen (ensures_evalCount "limit" body.markup.limit) fun _ =>
          fails_renderLoop body.markup.name body.nodes body.clauses _

theorem fails_addOverrides (blocks : List (String × List Node)) : (addOverrides blocks).Fails := by
  induction blocks with
  | nil => exact trivial
  | cons b rest ih => exact .andThen (.ask (.addOverride b.1 b.2)) fun _ => ih

theorem fails_renderParent (parent : Template) : (renderParent parent).Fails :=
  .andThen (.ask .template) fun child => .andThen (fails_addOverrides (namedBlocks child.nodes))
    fun _ => .andThen (.ask (.enterTemplate parent)) fun child =>
      .bind (.ask (.renderNodes parent.nodes)) fun _ outcome =>
        .andThen (.ask (.enterTemplate child)) fun _ =>
          .andThen (.ask (.setSignal .extended)) fun _ => .ofExcept outcome

theorem failsRendering_templateName (v : Value) : FailsRendering (templateName v) := by
  cases v with
  | string name => exact .ok name
  | _ => exact .error rfl

theorem fails_comment (body : Body Unit Unit) : (comment.render body).Fails := trivial

theorem fails_break (m : Unit) : («break».render m).Fails := .ask _

theorem fails_continue (m : Unit) : («continue».render m).Fails := .ask _

theorem fails_extends (e : Expr) : (extendsTag.render e).Fails :=
  .andThen (.evalExpr e) fun v => .andThen (.ofExcept (failsRendering_templateName v)) fun name =>
    .andThen (.findTemplate name) fails_renderParent

theorem fails_namedBlock (body : Body String Unit) : (namedBlock.render body).Fails :=
  .andThen (.ask (.blockOverride body.markup)) fun _ => .renderNodes _

end Tags

/-- Whatever a built-in handler fails with is an error of rendering. -/
theorem Handler.IsBuiltin.fails {h : Handler} (isBuiltin : h.IsBuiltin) (c : Call) :
    (h.render c).Fails := by
  obtain ⟨name, bound⟩ := isBuiltin
  have listed := Table.mem_ofList (Table.mem_of_find? bound)
  simp only [List.mem_cons, List.not_mem_nil, or_false, Prod.mk.injEq] at listed
  rcases listed with ⟨-, rfl⟩ | ⟨-, rfl⟩ | ⟨-, rfl⟩ | ⟨-, rfl⟩ | ⟨-, rfl⟩ | ⟨-, rfl⟩ | ⟨-, rfl⟩ |
    ⟨-, rfl⟩ | ⟨-, rfl⟩ | ⟨-, rfl⟩ | ⟨-, rfl⟩ | ⟨-, rfl⟩ | ⟨-, rfl⟩
  · exact Tag.fails Tags.fails_assign c
  · exact Block.fails (fun b => Tags.fails_captureNodes b.markup b.nodes) c
  · exact Tag.fails Tags.fails_increment c
  · exact Tag.fails Tags.fails_decrement c
  · exact Block.fails (fun _ => Tags.fails_renderFirst _) c
  · exact Block.fails Tags.fails_unless c
  · exact Block.fails Tags.fails_case c
  · exact Block.fails Tags.fails_comment c
  · exact Block.fails Tags.fails_for c
  · exact Tag.fails Tags.fails_break c
  · exact Tag.fails Tags.fails_continue c
  · exact Tag.fails Tags.fails_extends c
  · exact Block.fails Tags.fails_namedBlock c

/-! ## Renders -/

/-- What stays fixed during a render has nothing but built-in handlers and filters. -/
structure Settings.OnlyBuiltin (settings : Settings) : Prop where
  handlers : settings.environment.registry.OnlyBuiltin
  filters : Filter.OnlyBuiltin settings.environment.filters
  noFilter : settings.globalFilter = none

/-- Every error that has been recorded is one of rendering. -/
def State.RecordsRendering (s : State) : Prop :=
  ∀ e ∈ s.context.failures, e.category = .rendering

/-- Rendering nodes fails with errors of rendering, and records no others. -/
structure Renderer.InPhase (sub : Renderer) : Prop where
  fails : ∀ nodes s, FailsRendering (sub nodes s).1
  records : ∀ nodes s, s.RecordsRendering → (sub nodes s).2.RecordsRendering

section Renders

variable {settings : Settings} {sub : Renderer}

theorem Environment.failsRendering_findTemplate (env : Environment) (name : String) :
    FailsRendering (env.findTemplate name) := by
  unfold findTemplate
  split
  · exact .ok _
  · exact .error rfl

theorem Op.answers_exec (filters : Filter.OnlyBuiltin settings.environment.filters)
    (inPhase : sub.InPhase) (op : Op) (s : State) : op.Answers (op.exec settings sub s).1 := by
  cases op with
  | findTemplate name => exact settings.environment.failsRendering_findTemplate name
  | evalExpr e => exact Scope.failsRendering_eval _ e
  | evalChain c => exact Scope.failsRendering_holdsLinked _ c.first c.rest
  | evalVariable v =>
    have inScope : Filter.OnlyBuiltin (s.context.scope settings).filters := filters
    exact Scope.failsRendering_evalVariable inScope v
  | renderNodes nodes => exact inPhase.fails nodes s
  | _ => trivial

/-- No operation records an error, unless it renders nodes. -/
theorem Op.recordsRendering_exec (inPhase : sub.InPhase) (op : Op) {s : State}
    (records : s.RecordsRendering) : (op.exec settings sub s).2.RecordsRendering := by
  cases op with
  | renderNodes nodes => exact inPhase.records nodes s records
  | setLocal name v =>
    obtain ⟨⟨template, assigns, globals, locals, _⟩, o⟩ := s
    cases locals <;> exact records
  | _ => exact records

theorem Action.Ensures.run (filters : Filter.OnlyBuiltin settings.environment.filters)
    (inPhase : sub.InPhase) {α : Type} {P : α → Prop} {a : Action α} (ensures : a.Ensures P)
    (s : State) : FailsRendering (a.run settings sub s).1 := by
  induction a generalizing s with
  | done x => exact .ok x
  | fail e => exact .error ensures
  | perform op next ih => exact ih _ (ensures _ (op.answers_exec filters inPhase s)) _

theorem Action.recordsRendering_run (settings : Settings) (inPhase : sub.InPhase) {α : Type}
    (a : Action α) {s : State} (records : s.RecordsRendering) :
    (a.run settings sub s).2.RecordsRendering := by
  induction a generalizing s with
  | done => exact records
  | fail => exact records
  | perform op next ih => exact ih _ (op.recordsRendering_exec inPhase records)

/-- Without a global filter a variable fails in its evaluation. -/
theorem Node.fails_action (isBuiltin : settings.OnlyBuiltin) (n : Node) :
    (n.action settings).Fails := by
  cases n with
  | text t => exact .ask (.write t)
  | «variable» v span =>
    refine .andThen (.evalVariable v) fun value => .andThen (.ofExcept ?_) fun _ => .ask _
    unfold Settings.filtered
    rw [isBuiltin.noFilter]
    exact .ok value
  | tag name markup payload span =>
    simp only [Node.action]
    cases bound : settings.environment.registry.find? name with
    | none => exact trivial
    | some h => exact (isBuiltin.handlers name h bound).fails _
  | block name markup payload span body clauses =>
    simp only [Node.action]
    cases bound : settings.environment.registry.find? name with
    | none => exact .renderNodes body
    | some h => exact (isBuiltin.handlers name h bound).fails _

theorem State.category_placed (s : State) (span : Option Span) (e : Error) :
    (s.placed span e).category = e.category := by
  cases span with
  | none => rfl
  | some span =>
    unfold placed Error.orLocatedAt
    dsimp only
    split <;> rfl

theorem State.RecordsRendering.recover {s : State} (records : s.RecordsRendering) {e : Error}
    (rendering : e.category = .rendering) (ofVariable : Bool) (span : Option Span) :
    (s.recover settings ofVariable span e).RecordsRendering := by
  unfold State.recover
  cases settings.environment.errorMode with
  | lax => exact records
  | strict =>
    refine List.forall_mem_cons.mpr ⟨?_, records⟩
    rw [s.category_placed]
    exact rendering

theorem State.RecordsRendering.renderNode (isBuiltin : settings.OnlyBuiltin)
    (inPhase : sub.InPhase) {s : State} (records : s.RecordsRendering) (n : Node) :
    (s.renderNode settings sub n).RecordsRendering := by
  have fails := (n.fails_action isBuiltin).run isBuiltin.filters inPhase s
  have after := (n.action settings).recordsRendering_run settings inPhase records
  rw [renderNode_eq, attempt_eq_run]
  rcases ran : (n.action settings).run settings sub s with ⟨e | _, t⟩ <;> rw [ran] at fails after
  · exact after.recover (fails e rfl) _ _
  · exact after

theorem inPhase_renderNodes (isBuiltin : settings.OnlyBuiltin) (levels : Nat) :
    (renderNodes settings levels).InPhase := by
  induction levels with
  | zero => exact ⟨fun _ _ => .error rfl, fun _ _ records => records⟩
  | succ levels ih =>
    refine ⟨fun _ _ => .ok (), fun nodes s records => ?_⟩
    show (s.renderList settings (renderNodes settings levels) nodes).RecordsRendering
    induction nodes generalizing s with
    | nil => exact records
    | cons n ns rest =>
      have first := records.renderNode isBuiltin ih n
      rw [State.renderList]
      by_cases normal : (s.renderNode settings (renderNodes settings levels) n).context.signal =
          .normal
      · rw [if_pos normal]
        exact rest _ first
      · rw [if_neg normal]
        exact first

end Renders

/-! ## The phases of an environment -/

namespace Environment

/-- The category of an error tells the phase that it was found in. -/
structure TellsPhases (env : Environment) : Prop where
  parse : ∀ source e, env.parse source = .error e → e.category = .parsing
  parseNamed : ∀ name source e, env.parseNamed name source = .error e → e.category = .parsing
  addTemplate : ∀ name source e, env.addTemplate name source = .error e → e.category = .parsing
  /-- Renders without a global filter record errors of rendering. -/
  render : ∀ template assigns options r, options.globalFilter = none →
    env.render template assigns options = .ok r → ∀ e ∈ r.context.errors, e.category = .rendering

theorem category_of_parseNamed {env : Environment} (isBuiltin : env.registry.OnlyBuiltin)
    {name source : String} {e : Error} (failed : env.parseNamed name source = .error e) :
    e.category = .parsing := by
  rcases bind_eq_error.mp failed with failed | ⟨nodes, -, parsed⟩
  · exact category_of_readNodes (fun name h bound => (isBuiltin name h bound).refuses) failed
  · cases parsed

/-- With the built-in handlers and filters, errors tell their phases. -/
theorem tellsPhases (env : Environment) (isBuiltin : env.registry.OnlyBuiltin)
    (filters : Filter.OnlyBuiltin env.filters) : env.TellsPhases where
  parse source e failed := category_of_parseNamed isBuiltin failed
  parseNamed name source e failed := category_of_parseNamed isBuiltin failed
  addTemplate name source e failed := by
    rcases bind_eq_error.mp failed with failed | ⟨template, -, added⟩
    · exact category_of_parseNamed isBuiltin failed
    · cases added
  render template assigns options r noFilter rendered e recorded := by
    obtain ⟨_, -, rendered⟩ := bind_eq_ok.1 rendered
    obtain rfl := Except.ok.inj rendered
    have inPhase : (renderNodes (env.settings options) maxLevels).InPhase :=
      inPhase_renderNodes ⟨isBuiltin, filters, noFilter⟩ maxLevels
    have start : (startState template assigns.imported options).RecordsRendering :=
      List.forall_mem_nil _
    have records := inPhase.records template.nodes _ start
    rw [← finalState_eq] at records
    exact records e (List.mem_reverse.mp recorded)

/-- The standard environment in strict mode. -/
def strict : Environment := { standard with errorMode := .strict }

/-- A page with a filter that does not exist. -/
def unfilteredPage : Template := .ofNodes "page" [
  .variable ⟨.const (.int 1), [⟨"nope", []⟩]⟩ ⟨⟨1, 0⟩, ⟨1, 14⟩⟩]

/-- The page is rendered with an error of rendering, and a document that ends a block that is not
open is not read for an error of parsing. -/
theorem tellsPhases_unfilteredPage :
    (∃ r, strict.render unfilteredPage .none .default = .ok r ∧ r.context.errors ≠ [] ∧
      ∀ e ∈ r.context.errors, e.category = .rendering) ∧
    ∃ e, strict.parse "\x7b% endif %\x7d" = .error e ∧ e.category = .parsing := by
  have tells : strict.TellsPhases :=
    tellsPhases strict Registry.onlyBuiltin_builtin Filter.onlyBuiltin_builtin
  have unread : (strict.parse "\x7b% endif %\x7d").toOption.isNone = true := by decide +kernel
  refine ⟨⟨_, rfl, List.cons_ne_nil _ _, tells.render unfilteredPage .none .default _ rfl rfl⟩, ?_⟩
  cases failed : strict.parse "\x7b% endif %\x7d" with
  | error e => exact ⟨e, rfl, tells.parse _ e failed⟩
  | ok template =>
    rw [failed] at unread
    cases unread

end Environment

end Stencil
