import Stencil.Proofs.Document.Grammar
import Stencil.Proofs.Markup.RoundTrip
import Stencil.Proofs.Value.Sorted
import Stencil.Tags.Builtin

/-!
# The constants of documents

What a document says by itself are the constants in its expressions.  Those that are read from text
are no sequences and no maps, so they are sorted, and every document that is read with handlers that
keep to this (`Handler.ReadsSorted`) has sorted constants only (`Node.IsSorted`).  Variables count
for nothing here: what they come to is written and goes no further.
-/

namespace Stencil

/-! ## What is answered -/

/-- Whatever it answers has the property. -/
def Gives {α : Type} (P : α → Prop) (r : Except Error α) : Prop := ∀ a, r = .ok a → P a

namespace Gives

variable {α β : Type} {P : α → Prop} {Q : β → Prop} {r : Except Error α}

theorem ok {a : α} (holds : P a) : Gives P (.ok a : Except Error α) := by
  rintro _ ⟨⟩
  exact holds

theorem error {e : Error} : Gives P (.error e : Except Error α) := by
  rintro _ ⟨⟩

theorem any : Gives (fun _ => True) r := fun _ _ => trivial

theorem bind {f : α → Except Error β} (first : Gives P r) (next : ∀ a, P a → Gives Q (f a)) :
    Gives Q (r >>= f) := by
  intro b answer
  obtain ⟨a, given, answer⟩ := bind_eq_ok.mp answer
  exact next a (first a given) b answer

/-- Something comes first, whatever it answers. -/
theorem after {f : α → Except Error β} (next : ∀ a, Gives Q (f a)) : Gives Q (r >>= f) :=
  any.bind fun a _ => next a

theorem map {f : α → β} (gives : Gives P r) (holds : ∀ a, P a → Q (f a)) :
    Gives Q (r.map f) := by
  cases r with
  | error e => exact .error
  | ok a => exact .ok (holds a (gives a rfl))

theorem mapM {f : α → Except Error β} {items : List α} (each : ∀ a ∈ items, Gives Q (f a)) :
    Gives (fun bs => ∀ b ∈ bs, Q b) (items.mapM f) := by
  induction items with
  | nil => exact .ok (List.forall_mem_nil _)
  | cons a items ih =>
    obtain ⟨first, others⟩ := List.forall_mem_cons.mp each
    rw [List.mapM_cons]
    exact first.bind fun _ here => (ih others).bind fun _ also =>
      .ok (List.forall_mem_cons.mpr ⟨here, also⟩)

end Gives

/-! ## Expressions -/

mutual

/-- Every constant in the expression is sorted. -/
def Expr.IsSorted : Expr → Prop
  | .const v => v.IsSorted
  | .empty => True
  | .path _ ss => Expr.SegmentsSorted ss
  | .range a b => a.IsSorted ∧ b.IsSorted

def Expr.SegmentsSorted : List (Segment Expr) → Prop
  | [] => True
  | .attr _ :: ss => Expr.SegmentsSorted ss
  | .index e :: ss => e.IsSorted ∧ Expr.SegmentsSorted ss

end

mutual

theorem Expr.Built.isSorted {literal : Value → Prop} (sorted : ∀ v, literal v → v.IsSorted)
    (e : Expr) (built : e.Built literal) : e.IsSorted := by
  match e with
  | .const v => exact sorted v built
  | .empty => trivial
  | .path _ ss =>
    rw [Expr.Built] at built
    exact Expr.BuiltSegments.segmentsSorted sorted ss built.2.2
  | .range a b =>
    rw [Expr.Built] at built
    exact ⟨Expr.Built.isSorted sorted a built.1, Expr.Built.isSorted sorted b built.2⟩

theorem Expr.BuiltSegments.segmentsSorted {literal : Value → Prop}
    (sorted : ∀ v, literal v → v.IsSorted) (ss : List (Segment Expr))
    (built : Expr.BuiltSegments literal ss) : Expr.SegmentsSorted ss := by
  match ss with
  | [] => trivial
  | .attr _ :: ss =>
    rw [Expr.BuiltSegments] at built
    exact Expr.BuiltSegments.segmentsSorted sorted ss built.2
  | .index e :: ss =>
    rw [Expr.BuiltSegments] at built
    exact ⟨Expr.Built.isSorted sorted e built.1,
      Expr.BuiltSegments.segmentsSorted sorted ss built.2⟩

end

theorem Reader.IsRead.isSorted (v : Value) (read : Reader.IsRead v) : v.IsSorted := by
  rcases read with literal | ⟨x, rfl⟩
  · cases v with
    | seq items => exact literal.elim
    | map entries => exact literal.elim
    | _ => exact Value.isSorted_scalar rfl rfl
  · exact Value.isSorted_scalar rfl rfl

/-! ## Markup and nodes -/

/-- The expressions in a variable. -/
def Variable.exprs (v : Variable) : List Expr := v.expr :: v.filters.flatMap FilterCall.args

namespace Payload

/-- The expressions in markup that has been read. -/
def exprs : Payload → List Expr
  | .unit | .text _ => []
  | .expr e => [e]
  | .chain c => c.exprs
  | .assignment a => a.value.exprs
  | .loop l => l.items :: (l.limit.toList ++ l.offset.toList)
  | .optionalChain c => c.elim [] ConditionChain.exprs
  | .optionalExprs es => es.getD []

def IsSorted (p : Payload) : Prop := ∀ e ∈ p.exprs, e.IsSorted

theorem isSorted_unit : unit.IsSorted := List.forall_mem_nil _

theorem isSorted_text (s : String) : (text s).IsSorted := List.forall_mem_nil _

end Payload

/-- Every constant in the markup of the node and of the nodes in it is sorted. -/
inductive Node.IsSorted : Node → Prop
  | text (s : String) : IsSorted (.text s)
  | variable (v : Variable) (span : Span) : IsSorted (.variable v span)
  | tag {name markup : String} {payload : Payload} {span : Span} (own : payload.IsSorted) :
    IsSorted (.tag name markup payload span)
  | block {name markup : String} {payload : Payload} {span : Span} {body : List Node}
      {clauses : List (Clause Node)} (own : payload.IsSorted) (nodes : ∀ n ∈ body, IsSorted n)
      (sections : ∀ c ∈ clauses, c.payload.IsSorted)
      (inner : ∀ c ∈ clauses, ∀ n ∈ c.body, IsSorted n) :
    IsSorted (.block name markup payload span body clauses)

/-- The constants of the template and its presets are sorted. -/
structure Template.IsSorted (t : Template) : Prop where
  nodes : ∀ n ∈ t.nodes, n.IsSorted
  presets : (Value.map t.presets).IsSorted

theorem Template.isSorted_ofNodes {name : String} {nodes : List Node}
    (sorted : ∀ n ∈ nodes, n.IsSorted) : (Template.ofNodes name nodes).IsSorted :=
  ⟨sorted, Value.isSorted_empty⟩

theorem Template.IsSorted.preset {t : Template} (sorted : t.IsSorted) (name : String) {v : Value}
    (imported : v.imported.IsSorted) : (t.preset name v).IsSorted :=
  ⟨sorted.nodes, sorted.presets.set name imported⟩

/-! ## Constants that are read -/

namespace Reader

theorem Yields.readAll {α : Type} {op : Read α} {P : α → Prop} (yields : Yields op P)
    (markup : String) : Gives P (readAll op markup) := by
  have yielded : Yields (do let a ← op; expectEnd; return a) P :=
    yields.bind fun a holds => Yields.trivial.bind fun _ _ => .pure holds
  exact fun a read => yielded _ a read

theorem yields_sorted : Yields expr Expr.IsSorted :=
  yields_expr.mono fun e read => Expr.Built.isSorted IsRead.isSorted e read.built

theorem yields_sortedChain : Yields chain fun c => ∀ e ∈ c.exprs, e.IsSorted :=
  yields_chain.mono fun _ read e mem => Expr.Built.isSorted IsRead.isSorted e (read e mem).built

theorem yields_readVariable : Yields readVariable fun v => ∀ e ∈ v.exprs, e.IsSorted := by
  refine Yields.trivial.bind fun r _ => ?_
  dsimp only
  split
  · exact .refuse
  · split
    · exact .refuse
    · refine yields_sorted.bind fun e sorted => yields_filters.bind fun fs read => .pure ?_
      refine List.forall_mem_cons.mpr ⟨sorted, List.forall_mem_flatMap.mpr fun f mem a given => ?_⟩
      exact Expr.Built.isSorted IsRead.isSorted a ((read f mem).2 a given).built

end Reader

namespace Tags

open Reader (Yields yields_sorted)

theorem yields_readAssignment :
    Yields readAssignment fun a => (Payload.assignment a).IsSorted :=
  Yields.trivial.bind fun _ _ => Yields.trivial.bind fun _ _ =>
    Reader.yields_readVariable.bind fun _ sorted => .pure sorted

theorem isSorted_loop_iff {l : Loop} : (Payload.loop l).IsSorted ↔
    l.items.IsSorted ∧ (∀ e ∈ l.limit, e.IsSorted) ∧ ∀ e ∈ l.offset, e.IsSorted := by
  simp [Payload.IsSorted, Payload.exprs, or_imp, forall_and]

/-- An option of a loop brings no other constants than its own. -/
theorem yields_loopOption? : Yields loopOption? fun o => ∀ change ∈ o, ∀ l,
    (Payload.loop l).IsSorted → (Payload.loop (change l)).IsSorted := by
  refine Yields.trivial.bind fun _ _ => ?_
  split
  · refine .pure ?_
    rintro _ ⟨⟩ l sorted
    exact sorted
  · refine Yields.trivial.bind fun _ _ => ?_
    split
    · refine Yields.trivial.bind fun _ _ => yields_sorted.bind fun e limit => .pure ?_
      rintro _ ⟨⟩ l sorted
      obtain ⟨items, -, offset⟩ := isSorted_loop_iff.mp sorted
      refine isSorted_loop_iff.mpr ⟨items, ?_, offset⟩
      rintro _ ⟨⟩
      exact limit
    · refine Yields.trivial.bind fun _ _ => ?_
      split
      · refine Yields.trivial.bind fun _ _ => yields_sorted.bind fun e offset => .pure ?_
        rintro _ ⟨⟩ l sorted
        obtain ⟨items, limit, -⟩ := isSorted_loop_iff.mp sorted
        refine isSorted_loop_iff.mpr ⟨items, limit, ?_⟩
        rintro _ ⟨⟩
        exact offset
      · exact .none

theorem yields_readLoop : Yields readLoop fun l => (Payload.loop l).IsSorted := by
  refine Yields.trivial.bind fun name _ => Yields.trivial.bind fun _ _ => ?_
  split
  · refine yields_sorted.bind fun items sorted =>
      yields_loopOption?.repeated.bind fun options keep => .pure ?_
    have start : (Payload.loop ⟨name, items, none, none, false⟩).IsSorted :=
      isSorted_loop_iff.mpr ⟨sorted, fun e mem => absurd mem (Option.not_mem_none e),
        fun e mem => absurd mem (Option.not_mem_none e)⟩
    generalize (⟨name, items, none, none, false⟩ : Loop) = l at start
    induction options generalizing l with
    | nil => exact start
    | cons change options ih =>
      obtain ⟨first, others⟩ := List.forall_mem_cons.mp keep
      exact ih others _ (first l start)
  · exact .refuse

theorem yields_candidates : Yields candidates fun es => ∀ e ∈ es, e.IsSorted := by
  have next : Yields nextCandidate? fun o => ∀ e ∈ o, e.IsSorted := by
    have given : Yields (do return some (← Reader.expr)) fun o => ∀ e ∈ o, e.IsSorted := by
      refine yields_sorted.bind fun e sorted => .pure ?_
      rintro _ ⟨⟩
      exact sorted
    refine Yields.trivial.bind fun _ _ => ?_
    split
    · exact given
    · refine Yields.trivial.bind fun _ _ => ?_
      split
      · exact given
      · exact .none
  exact yields_sorted.bind fun first sorted => next.repeated.bind fun others also =>
    .pure (List.forall_mem_cons.mpr ⟨sorted, also⟩)

end Tags

/-! ## Documents that are read -/

/-- Whatever markup the handler reads, the constants in it are sorted. -/
structure Handler.ReadsSorted (h : Handler) : Prop where
  markup : ∀ markup, Gives Payload.IsSorted (h.parse markup)
  clause : ∀ name markup, Gives Payload.IsSorted (h.parseClause name markup)

section Handlers

variable {μ κ : Type} [MarkupType μ] [MarkupType κ]

/-- What makes up a sorted payload. -/
abbrev MarkupType.IsSorted (m : μ) : Prop := (toPayload m).IsSorted

theorem Tag.readsSorted {t : Tag μ} (reads : ∀ markup, Gives MarkupType.IsSorted (t.parse markup)) :
    t.handler.ReadsSorted where
  markup markup := (reads markup).map fun _ sorted => sorted
  clause _ _ := .error

theorem Block.readsSorted {b : Block μ κ}
    (reads : ∀ markup, Gives MarkupType.IsSorted (b.parse markup))
    (readsClause : ∀ name markup, Gives MarkupType.IsSorted (b.parseClause name markup)) :
    b.handler.ReadsSorted where
  markup markup := (reads markup).map fun _ sorted => sorted
  clause name markup := (readsClause name markup).map fun _ sorted => sorted

end Handlers

section Legal

variable {registry : Registry} {maxDepth : Nat}

mutual

theorem Node.Legal.isSorted (reads : ∀ name h, registry.find? name = some h → h.ReadsSorted)
    {inside : Option Enclosure} {depth : Nat} (n : Node)
    (legal : n.Legal registry maxDepth inside depth) : n.IsSorted := by
  match n with
  | .text s => exact .text s
  | .variable v span => exact .variable v span
  | .tag name markup payload span =>
    rw [Node.Legal] at legal
    obtain ⟨-, h, accepts⟩ := legal
    exact .tag ((reads name h accepts.bound).markup markup payload accepts.parsed)
  | .block name markup payload span body clauses =>
    rw [Node.Legal] at legal
    obtain ⟨-, -, h, accepts, inBody, inClauses, -⟩ := legal
    have handler := reads name h accepts.bound
    obtain ⟨sections, inner⟩ := LegalClauses.isSorted reads handler clauses inClauses
    exact .block (handler.markup markup payload accepts.parsed)
      (LegalAll.isSorted reads body inBody) sections inner

theorem LegalAll.isSorted (reads : ∀ name h, registry.find? name = some h → h.ReadsSorted)
    {inside : Option Enclosure} {depth : Nat} (nodes : List Node)
    (legal : LegalAll registry maxDepth inside depth nodes) : ∀ n ∈ nodes, n.IsSorted := by
  match nodes with
  | [] => exact List.forall_mem_nil _
  | n :: rest =>
    rw [LegalAll] at legal
    exact List.forall_mem_cons.mpr
      ⟨Node.Legal.isSorted reads n legal.1, LegalAll.isSorted reads rest legal.2⟩

theorem LegalClauses.isSorted (reads : ∀ name h, registry.find? name = some h → h.ReadsSorted)
    {block : Enclosure} (own : block.handler.ReadsSorted) {depth : Nat}
    (clauses : List (Clause Node)) (legal : LegalClauses registry maxDepth block depth clauses) :
    (∀ c ∈ clauses, c.payload.IsSorted) ∧ ∀ c ∈ clauses, ∀ n ∈ c.body, n.IsSorted := by
  match clauses with
  | [] => exact ⟨List.forall_mem_nil _, List.forall_mem_nil _⟩
  | ⟨name, markup, payload, body⟩ :: rest =>
    rw [LegalClauses] at legal
    obtain ⟨-, parsed, inBody, inRest⟩ := legal
    obtain ⟨sections, inner⟩ := LegalClauses.isSorted reads own rest inRest
    exact ⟨List.forall_mem_cons.mpr ⟨own.clause name markup payload parsed, sections⟩,
      List.forall_mem_cons.mpr ⟨LegalAll.isSorted reads body inBody, inner⟩⟩

end

end Legal

end Stencil
