import Stencil.Proofs.Document.Constants
import Stencil.Proofs.Filter.Maps
import Stencil.Proofs.Render.Loops

/-!
# Handlers keep maps in order

`Action.KeepsSorted` says of an action that it hands sorted values, nodes and markup to its
operations, as long as those answer with sorted things.  A handler keeps to it if its action does,
and if the constants in the markup that it reads are sorted (`Handler.KeepsSorted`); the handlers
that every engine starts with are of this kind.
-/

namespace Stencil

namespace Op

/-- The values, the nodes and the markup that are handed to the operation are sorted. -/
def IsSorted : Op → Prop
  | .setGlobal _ value | .setLocal _ value | .setRegister _ value | .note value => value.IsSorted
  | .enterTemplate t => t.IsSorted
  | .addOverride _ nodes | .renderNodes nodes => ∀ n ∈ nodes, n.IsSorted
  | .evalExpr e => e.IsSorted
  | .evalVariable v => ∀ e ∈ v.exprs, e.IsSorted
  | _ => True

/-- The answer is sorted. -/
def AnswersSorted : (op : Op) → op.Answer → Prop
  | .lookup _, v | .assigns, v => v.IsSorted
  | .globals, t | .registers, t | .presets, t => (Value.map t).IsSorted
  | .register _, (found : Option Value) => ∀ v ∈ found, v.IsSorted
  | .template, t | .enterTemplate _, t => t.IsSorted
  | .findTemplate _, r | .parseTemplate .., r => Gives Template.IsSorted r
  | .blockOverride _, (found : Option (List Node)) => ∀ nodes ∈ found, ∀ n ∈ nodes, n.IsSorted
  | .evalExpr _, r | .evalVariable _, r => GivesSorted r
  | _, _ => True

end Op

namespace Action

variable {α β : Type}

/-- Every operation that is performed is handed sorted things, as long as those before answer with
sorted things, and so the result has the property. -/
def KeepsSorted (P : α → Prop) : Action α → Prop
  | .done a => P a
  | .fail _ => True
  | .perform op next =>
    op.IsSorted ∧ ∀ answer, op.AnswersSorted answer → (next answer).KeepsSorted P

namespace KeepsSorted

variable {P : α → Prop} {Q : β → Prop}

theorem bind {a : Action α} {f : α → Action β} (first : a.KeepsSorted P)
    (next : ∀ x, P x → (f x).KeepsSorted Q) : (a >>= f).KeepsSorted Q := by
  induction a with
  | done x => exact next x first
  | fail e => trivial
  | perform op rest ih => exact ⟨first.1, fun answer sorted => ih answer (first.2 answer sorted)⟩

/-- An action whose result may be anything. -/
theorem andThen {a : Action α} {f : α → Action β} (first : a.KeepsSorted fun _ => True)
    (next : ∀ x, (f x).KeepsSorted Q) : (a >>= f).KeepsSorted Q :=
  first.bind fun x _ => next x

theorem ask {op : Op} (sorted : op.IsSorted) : (Action.ask op).KeepsSorted op.AnswersSorted :=
  ⟨sorted, fun _ sorted => sorted⟩

/-- An operation whose answer does not matter. -/
theorem perform {op : Op} (sorted : op.IsSorted) : (Action.ask op).KeepsSorted fun _ => True :=
  ⟨sorted, fun _ _ => trivial⟩

theorem ofExcept {r : Except Error α} (gives : Gives P r) : (Action.ofExcept r).KeepsSorted P := by
  cases r with
  | ok a => exact gives a rfl
  | error e => trivial

theorem evalExpr {e : Expr} (sorted : e.IsSorted) :
    (Action.evalExpr e).KeepsSorted Value.IsSorted :=
  ⟨sorted, fun _ gives => ofExcept gives⟩

theorem evalChain (c : ConditionChain) : (Action.evalChain c).KeepsSorted fun _ => True :=
  ⟨trivial, fun _ _ => ofExcept .any⟩

theorem evalVariable {v : Variable} (sorted : ∀ e ∈ v.exprs, e.IsSorted) :
    (Action.evalVariable v).KeepsSorted Value.IsSorted :=
  ⟨sorted, fun _ gives => ofExcept gives⟩

theorem renderNodes {nodes : List Node} (sorted : ∀ n ∈ nodes, n.IsSorted) :
    (Action.renderNodes nodes).KeepsSorted fun _ => True :=
  ⟨sorted, fun _ _ => ofExcept .any⟩

theorem findTemplate (name : String) :
    (Action.findTemplate name).KeepsSorted Template.IsSorted :=
  ⟨trivial, fun _ gives => ofExcept gives⟩

end KeepsSorted

/-- Handlers come to nothing, so that only their operations matter. -/
abbrev Orderly (a : Action Unit) : Prop := a.KeepsSorted fun _ => True

end Action

/-- Everything that a node asks its handler with is sorted. -/
def Call.IsSorted : Call → Prop
  | .tag _ payload => payload.IsSorted
  | .block _ payload body clauses =>
    payload.IsSorted ∧ (∀ n ∈ body, n.IsSorted) ∧
      ∀ c ∈ clauses, c.payload.IsSorted ∧ ∀ n ∈ c.body, n.IsSorted

/-- The handler reads sorted markup, and rendered with sorted things it goes on with sorted
things. -/
structure Handler.KeepsSorted (h : Handler) : Prop extends h.ReadsSorted where
  render : ∀ c : Call, c.IsSorted → (h.render c).Orderly

/-! ## Markup in its own type -/

/-- What a type of markup takes from a payload makes up the payload. -/
class LawfulMarkup (μ : Type) [MarkupType μ] : Prop where
  toPayload_of_ofPayload? : ∀ (p : Payload) (m : μ), MarkupType.ofPayload? p = some m →
    MarkupType.toPayload m = p

namespace LawfulMarkup

instance : LawfulMarkup Unit := ⟨by rintro ⟨⟩ _ ⟨⟩; rfl⟩

instance : LawfulMarkup String := ⟨by rintro ⟨⟩ _ ⟨⟩; rfl⟩

instance : LawfulMarkup Expr := ⟨by rintro ⟨⟩ _ ⟨⟩; rfl⟩

instance : LawfulMarkup ConditionChain := ⟨by rintro ⟨⟩ _ ⟨⟩; rfl⟩

instance : LawfulMarkup Assignment := ⟨by rintro ⟨⟩ _ ⟨⟩; rfl⟩

instance : LawfulMarkup Loop := ⟨by rintro ⟨⟩ _ ⟨⟩; rfl⟩

instance : LawfulMarkup (Option ConditionChain) := ⟨by rintro ⟨⟩ _ ⟨⟩; rfl⟩

instance : LawfulMarkup (Option (List Expr)) := ⟨by rintro ⟨⟩ _ ⟨⟩; rfl⟩

end LawfulMarkup

section Markup

variable {μ κ : Type} [MarkupType μ] [LawfulMarkup μ] [MarkupType κ] [LawfulMarkup κ]

theorem gives_typed {p : Payload} (sorted : p.IsSorted) :
    Gives (@MarkupType.IsSorted μ _) (MarkupType.typed p) := by
  unfold MarkupType.typed
  split
  next m taken =>
    refine .ok ?_
    rwa [MarkupType.IsSorted, LawfulMarkup.toPayload_of_ofPayload? p m taken]
  · exact .error

/-- The markup and the nodes of the section are sorted. -/
structure Section.IsSorted (c : Section κ) : Prop where
  markup : MarkupType.IsSorted c.markup
  nodes : ∀ n ∈ c.nodes, n.IsSorted

/-- The markup and the nodes of the block are sorted, and so are its sections. -/
structure Body.IsSorted (b : Body μ κ) : Prop where
  markup : MarkupType.IsSorted b.markup
  nodes : ∀ n ∈ b.nodes, n.IsSorted
  clauses : ∀ c ∈ b.clauses, c.IsSorted

theorem gives_ofClause {c : Clause Node} (markup : c.payload.IsSorted)
    (nodes : ∀ n ∈ c.body, n.IsSorted) :
    Gives Section.IsSorted (Section.ofClause c : Except Error (Section κ)) :=
  (gives_typed markup).bind fun _ own => .ok ⟨own, nodes⟩

theorem gives_ofBlock {name : String} {payload : Payload} {body : List Node}
    {clauses : List (Clause Node)} (sorted : (Call.block name payload body clauses).IsSorted) :
    Gives Body.IsSorted (Body.ofBlock name payload body clauses : Except Error (Body μ κ)) := by
  obtain ⟨markup, nodes, each⟩ := sorted
  have sections : Gives (fun sections : List (Section κ) => ∀ c ∈ sections, c.IsSorted)
      (clauses.mapM Section.ofClause) :=
    .mapM fun c mem => gives_ofClause (each c mem).1 (each c mem).2
  exact sections.bind fun _ inner => (gives_typed markup).bind fun _ own =>
    .ok ⟨own, nodes, inner⟩

theorem Tag.keepsSorted {t : Tag μ} (reads : t.handler.ReadsSorted)
    (renders : ∀ m, MarkupType.IsSorted m → (t.render m).Orderly) :
    t.handler.KeepsSorted where
  toReadsSorted := reads
  render c sorted := by
    cases c with
    | tag name payload => exact .bind (.ofExcept (gives_typed sorted)) renders
    | block name => trivial

theorem Block.keepsSorted {b : Block μ κ} (reads : b.handler.ReadsSorted)
    (renders : ∀ body : Body μ κ, body.IsSorted → (b.render body).Orderly) :
    b.handler.KeepsSorted where
  toReadsSorted := reads
  render c sorted := by
    cases c with
    | tag name => trivial
    | block name payload body clauses =>
      exact .bind (.ofExcept (gives_ofBlock sorted)) renders

end Markup

/-! ## The built-in handlers -/

namespace Tags

open Stencil.Action (KeepsSorted Orderly)

theorem gives_parseExpr (markup : String) :
    Gives (fun e => (Payload.expr e).IsSorted) (Expr.parse markup) :=
  (Reader.yields_sorted.mono fun _ => List.forall_mem_singleton.mpr).readAll markup

theorem gives_parseChain (markup : String) :
    Gives (fun c => (Payload.chain c).IsSorted) (ConditionChain.parse markup) :=
  Reader.yields_sortedChain.readAll markup

/-- Markup that is nothing or a name has no constants. -/
theorem gives_unit {r : Except Error Unit} : Gives MarkupType.IsSorted r :=
  fun _ _ => Payload.isSorted_unit

theorem gives_text {r : Except Error String} : Gives MarkupType.IsSorted r :=
  fun _ _ => Payload.isSorted_text _

theorem keepsSorted_assign : assign.handler.KeepsSorted :=
  Tag.keepsSorted (Tag.readsSorted yields_readAssignment.readAll) fun _ sorted =>
    .bind (.evalVariable sorted) fun _ value => .perform value

theorem orderly_captureNodes (name : String) {nodes : List Node}
    (sorted : ∀ n ∈ nodes, n.IsSorted) : (captureNodes name nodes).Orderly :=
  .andThen (.perform trivial) fun _ => .andThen (.perform sorted) fun _ =>
    .andThen (.perform trivial) fun _ => .andThen (.ofExcept .any) fun _ =>
      .perform (Value.isSorted_scalar rfl rfl)

theorem keepsSorted_capture : capture.handler.KeepsSorted :=
  Block.keepsSorted (Block.readsSorted (fun _ => gives_text)
    fun _ _ => gives_unit) fun body sorted =>
      orderly_captureNodes body.markup sorted.nodes

theorem keepsSorted_counter (name : String) : (counter name).KeepsSorted fun _ => True :=
  .andThen (.perform trivial) fun _ => trivial

theorem orderly_setCounter (name : String) (n : Int64) : (setCounter name n).Orderly :=
  .perform (Value.isSorted_scalar rfl rfl)

theorem keepsSorted_increment : increment.handler.KeepsSorted :=
  Tag.keepsSorted (Tag.readsSorted fun _ => gives_text) fun name _ =>
    .andThen (keepsSorted_counter name) fun _ => .andThen (.perform trivial) fun _ =>
      orderly_setCounter name _

theorem keepsSorted_decrement : decrement.handler.KeepsSorted :=
  Tag.keepsSorted (Tag.readsSorted fun _ => gives_text) fun name _ =>
    .andThen (keepsSorted_counter name) fun _ => .andThen (.perform trivial) fun _ =>
      orderly_setCounter name _

/-- Conditions are only asked whether they hold, so that their constants go no further. -/
theorem orderly_renderFirst {sections : List (Option ConditionChain × List Node)}
    (sorted : ∀ c ∈ sections, ∀ n ∈ c.2, n.IsSorted) : (renderFirst sections).Orderly := by
  induction sections with
  | nil => trivial
  | cons c rest ih =>
    obtain ⟨first, others⟩ := List.forall_mem_cons.mp sorted
    obtain ⟨condition, nodes⟩ := c
    cases condition with
    | none => exact .renderNodes first
    | some condition =>
      refine .andThen (.evalChain condition) fun chosen => ?_
      cases chosen with
      | true => exact .renderNodes first
      | false => exact ih others

theorem keepsSorted_if : «if».handler.KeepsSorted := by
  refine Block.keepsSorted (Block.readsSorted gives_parseChain fun name markup => ?_)
    fun body sorted => orderly_renderFirst ?_
  · simp only [«if»]
    split
    · exact (gives_parseChain markup).map fun _ sorted => sorted
    · exact Gives.any.map fun _ _ => List.forall_mem_nil _
  · exact List.forall_mem_cons.mpr
      ⟨sorted.nodes, List.forall_mem_map.mpr fun c mem => (sorted.clauses c mem).nodes⟩

theorem keepsSorted_unless : «unless».handler.KeepsSorted := by
  refine Block.keepsSorted (Block.readsSorted gives_parseChain fun _ _ => gives_unit)
    fun body sorted => .andThen (.evalChain body.markup) fun chosen => ?_
  cases chosen with
  | false => exact .renderNodes sorted.nodes
  | true =>
    simp only [if_true]
    cases clauses : body.clauses with
    | nil => trivial
    | cons first rest =>
      have mem : first ∈ body.clauses := clauses ▸ List.mem_cons_self
      exact .renderNodes (sorted.clauses first mem).nodes

theorem keepsSorted_anyEquals (v : Value) {es : List Expr} (sorted : ∀ e ∈ es, e.IsSorted) :
    (anyEquals v es).KeepsSorted fun _ => True := by
  induction es with
  | nil => trivial
  | cons e rest ih =>
    obtain ⟨first, others⟩ := List.forall_mem_cons.mp sorted
    refine .bind (.evalExpr first) fun candidate _ => ?_
    by_cases same : candidate.equals v
    · rw [if_pos same]
      trivial
    · rw [if_neg same]
      exact ih others

theorem orderly_renderSections (v : Value) (matched : Bool)
    {sections : List (Section (Option (List Expr)))} (sorted : ∀ c ∈ sections, c.IsSorted) :
    (renderSections v matched sections).Orderly := by
  induction sections generalizing matched with
  | nil => trivial
  | cons c rest ih =>
    obtain ⟨first, others⟩ := List.forall_mem_cons.mp sorted
    obtain ⟨name, markup, nodes⟩ := c
    rw [renderSections_cons]
    have chosen : (selects v matched markup).KeepsSorted fun _ => True := by
      cases markup with
      | none => trivial
      | some es => exact keepsSorted_anyEquals v first.markup
    refine .andThen chosen fun chosen => ?_
    cases chosen with
    | false => exact ih matched others
    | true =>
      refine .andThen (.renderNodes first.nodes) fun _ => .andThen (.perform trivial)
        fun signal => ?_
      by_cases normal : signal = .normal
      · rw [if_pos normal]
        exact ih true others
      · rw [if_neg normal]
        trivial

theorem keepsSorted_case : case.handler.KeepsSorted := by
  refine Block.keepsSorted (Block.readsSorted gives_parseExpr fun name markup => ?_)
    fun body sorted => ?_
  · simp only [case]
    split
    · exact (yields_candidates.readAll markup).map fun _ sorted => sorted
    · exact Gives.any.map fun _ _ => List.forall_mem_nil _
  · exact .bind (.evalExpr (List.forall_mem_singleton.mp sorted.markup)) fun v _ =>
      orderly_renderSections v false sorted.clauses

theorem keepsSorted_comment : comment.handler.KeepsSorted :=
  Block.keepsSorted (Block.readsSorted (fun _ => gives_unit)
    fun _ _ => gives_unit) fun _ _ => trivial

theorem keepsSorted_evalCount (what : String) {e : Option Expr} (sorted : ∀ x ∈ e, x.IsSorted) :
    (evalCount what e).KeepsSorted fun _ => True := by
  cases e with
  | none => trivial
  | some e =>
    refine .bind (.evalExpr (sorted e rfl)) fun v _ => ?_
    by_cases nil : v.isNil
    · rw [if_pos nil]
      trivial
    · rw [if_neg nil]
      cases v.asInt? <;> trivial

theorem isSorted_forloop (index length : Nat) : (forloop index length).IsSorted := by
  refine Value.isSorted_ofEntries ?_
  simp only [List.forall_mem_cons]
  exact ⟨Value.isSorted_ofNat _, Value.isSorted_ofNat _, Value.isSorted_ofNat _,
    Value.isSorted_ofNat _, Value.isSorted_scalar rfl rfl, Value.isSorted_scalar rfl rfl,
    Value.isSorted_ofNat _, List.forall_mem_nil _⟩

theorem keepsSorted_renderItems (name : String) {nodes : List Node}
    (sorted : ∀ n ∈ nodes, n.IsSorted) (length index : Nat) {items : List Value}
    (each : ∀ v ∈ items, v.IsSorted) :
    (renderItems name nodes length index items).KeepsSorted fun _ => True := by
  induction items generalizing index with
  | nil => trivial
  | cons item rest ih =>
    obtain ⟨first, others⟩ := List.forall_mem_cons.mp each
    refine .andThen (.perform first) fun _ => .andThen (.perform (isSorted_forloop index length))
      fun _ => .andThen (.perform sorted) fun outcome => ?_
    cases outcome with
    | error e => trivial
    | ok =>
      refine .andThen (.perform trivial) fun signal => ?_
      cases signal with
      | normal => exact ih (index + 1) others
      | «continue» => exact .andThen (.perform trivial) fun _ => ih (index + 1) others
      | «break» => exact .andThen (.perform trivial) fun _ => trivial
      | extended => trivial

theorem orderly_renderLoop (name : String) {nodes : List Node} {sections : List (Section Unit)}
    (sorted : ∀ n ∈ nodes, n.IsSorted) (inner : ∀ c ∈ sections, c.IsSorted) {items : List Value}
    (each : ∀ v ∈ items, v.IsSorted) : (renderLoop name nodes sections items).Orderly := by
  cases items with
  | nil =>
    cases sections with
    | nil => trivial
    | cons first rest => exact .renderNodes (inner first List.mem_cons_self).nodes
  | cons item rest =>
    exact .andThen (.perform trivial) fun _ =>
      .andThen (keepsSorted_renderItems name sorted _ 0 each) fun _ =>
        .andThen (.perform trivial) fun _ => .ofExcept .any

theorem mem_of_mem_selectItems {items : List Value} {offset limit : Option Nat} {reversed : Bool}
    {v : Value} (mem : v ∈ selectItems items offset limit reversed) : v ∈ items := by
  rw [selectItems_eq] at mem
  have kept : v ∈ (items.drop (offset.getD 0)).take (limit.getD items.length) := by
    cases reversed with
    | false => exact mem
    | true => exact List.mem_reverse.mp mem
  exact List.mem_of_mem_drop (List.mem_of_mem_take kept)

theorem keepsSorted_for : «for».handler.KeepsSorted := by
  refine Block.keepsSorted (Block.readsSorted (yields_readLoop.readAll)
    fun _ _ => gives_unit) fun body sorted => ?_
  obtain ⟨items, limit, offset⟩ := isSorted_loop_iff.mp sorted.markup
  refine .bind (.evalExpr items) fun v value => .bind (.ofExcept fun _ => value.iterate)
    fun items each => .andThen (keepsSorted_evalCount "offset" offset) fun _ =>
      .andThen (keepsSorted_evalCount "limit" limit) fun _ => ?_
  exact orderly_renderLoop _ sorted.nodes sorted.clauses fun v mem =>
    each v (mem_of_mem_selectItems mem)

theorem keepsSorted_break : «break».handler.KeepsSorted :=
  Tag.keepsSorted (Tag.readsSorted fun _ => gives_unit) fun _ _ => .perform trivial

theorem keepsSorted_continue : «continue».handler.KeepsSorted :=
  Tag.keepsSorted (Tag.readsSorted fun _ => gives_unit) fun _ _ => .perform trivial

theorem namedBlocks_eq_flatMap (nodes : List Node) :
    namedBlocks nodes = nodes.flatMap namedBlocksOf := by
  induction nodes with
  | nil => rw [namedBlocks, List.flatMap_nil]
  | cons n nodes ih => rw [namedBlocks, ih, List.flatMap_cons]

theorem namedBlocksIn_eq_flatMap (clauses : List (Clause Node)) :
    namedBlocksIn clauses = clauses.flatMap fun c => c.body.flatMap namedBlocksOf := by
  induction clauses with
  | nil => rw [namedBlocksIn, List.flatMap_nil]
  | cons c clauses ih => rw [namedBlocksIn, ih, List.flatMap_cons, namedBlocks_eq_flatMap]

/-- What stands for a named block is a part of the document. -/
theorem isSorted_namedBlocksOf {n : Node} (sorted : n.IsSorted) :
    ∀ b ∈ namedBlocksOf n, ∀ m ∈ b.2, m.IsSorted := by
  induction sorted with
  | block own nodes sections inner ihNodes ihInner =>
    rw [namedBlocksOf, namedBlocks_eq_flatMap, namedBlocksIn_eq_flatMap]
    refine List.forall_mem_append.mpr ⟨List.forall_mem_append.mpr ⟨?_, ?_⟩, ?_⟩
    · intro b mem
      split at mem
      · obtain ⟨_, -, rfl⟩ := Option.map_eq_some_iff.mp (Option.mem_toList.mp mem)
        exact nodes
      · cases mem
    · exact List.forall_mem_flatMap.mpr ihNodes
    · exact List.forall_mem_flatMap.mpr fun c mem => List.forall_mem_flatMap.mpr (ihInner c mem)
  | _ =>
    simp only [namedBlocksOf]
    exact List.forall_mem_nil _

theorem orderly_addOverrides {blocks : List (String × List Node)}
    (sorted : ∀ b ∈ blocks, ∀ n ∈ b.2, n.IsSorted) : (addOverrides blocks).Orderly := by
  induction blocks with
  | nil => trivial
  | cons b rest ih =>
    obtain ⟨first, others⟩ := List.forall_mem_cons.mp sorted
    exact .andThen (.perform first) fun _ => ih others

theorem orderly_renderParent {parent : Template} (sorted : parent.IsSorted) :
    (renderParent parent).Orderly := by
  refine .bind (.ask trivial) fun child own => .andThen (orderly_addOverrides ?_) fun _ =>
    .bind (.ask sorted) fun child before => .andThen (.perform sorted.nodes) fun _ =>
      .andThen (.perform before) fun _ => .andThen (.perform trivial) fun _ => .ofExcept .any
  rw [namedBlocks_eq_flatMap]
  exact List.forall_mem_flatMap.mpr fun n mem => isSorted_namedBlocksOf (own.nodes n mem)

theorem keepsSorted_extends : extendsTag.handler.KeepsSorted :=
  Tag.keepsSorted (Tag.readsSorted gives_parseExpr) fun _ sorted =>
    .bind (.evalExpr (List.forall_mem_singleton.mp sorted)) fun _ _ =>
      .andThen (.ofExcept .any) fun name => .bind (.findTemplate name) fun _ => orderly_renderParent

theorem keepsSorted_namedBlock : namedBlock.handler.KeepsSorted := by
  refine Block.keepsSorted (Block.readsSorted (fun _ => gives_text)
    fun _ _ => gives_unit) fun body sorted => .bind (.ask trivial)
      fun found others => .renderNodes ?_
  cases found with
  | none => exact sorted.nodes
  | some nodes => exact others nodes rfl

end Tags

theorem Handler.IsBuiltin.keepsSorted {h : Handler} (isBuiltin : h.IsBuiltin) : h.KeepsSorted := by
  obtain ⟨name, bound⟩ := isBuiltin
  have listed := Table.mem_ofList (Table.mem_of_find? bound)
  simp only [List.mem_cons, List.not_mem_nil, or_false, Prod.mk.injEq] at listed
  rcases listed with ⟨-, rfl⟩ | ⟨-, rfl⟩ | ⟨-, rfl⟩ | ⟨-, rfl⟩ | ⟨-, rfl⟩ | ⟨-, rfl⟩ | ⟨-, rfl⟩ |
    ⟨-, rfl⟩ | ⟨-, rfl⟩ | ⟨-, rfl⟩ | ⟨-, rfl⟩ | ⟨-, rfl⟩ | ⟨-, rfl⟩
  · exact Tags.keepsSorted_assign
  · exact Tags.keepsSorted_capture
  · exact Tags.keepsSorted_increment
  · exact Tags.keepsSorted_decrement
  · exact Tags.keepsSorted_if
  · exact Tags.keepsSorted_unless
  · exact Tags.keepsSorted_case
  · exact Tags.keepsSorted_comment
  · exact Tags.keepsSorted_for
  · exact Tags.keepsSorted_break
  · exact Tags.keepsSorted_continue
  · exact Tags.keepsSorted_extends
  · exact Tags.keepsSorted_namedBlock

end Stencil
