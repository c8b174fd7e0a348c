import Stencil.Document.Reader

/-!
# The grammar of documents

Which forests a registry admits, and which tokens a forest stands for.  `Node.Legal` says that every
name is bound to a handler of the right kind that accepts the markup, that names which mean
something to the innermost open block are left to it, and that blocks nest within the limit.
`Spells` relates a forest to its tokens in the order of the document; the markup of an end marker and
the spans of texts, clauses and end markers are free.
-/

namespace Stencil

/-! ## Names inside of a block -/

/-- The block whose sections are being read: what it is called and its handler. -/
structure Enclosure where
  name : String
  handler : Handler

namespace Enclosure

/-- The name of the tag that closes the block. -/
def endName (e : Enclosure) : String := "end" ++ e.name

/-- The block gives a meaning to the name, so the registry is not asked. -/
def Takes (e : Enclosure) (name : String) : Prop :=
  name = e.endName ∨ name ∈ e.handler.clauses

/-- The name opens a section of the block.  The end marker comes before the clauses. -/
def Divides (e : Enclosure) (name : String) : Prop :=
  name ≠ e.endName ∧ name ∈ e.handler.clauses

end Enclosure

/-- No open block gives a meaning to the name. -/
def Unclaimed (inside : Option Enclosure) (name : String) : Prop :=
  ∀ e ∈ inside, ¬ e.Takes name

/-- The registry binds the name to a handler of the kind that accepts the markup. -/
structure Accepts (registry : Registry) (kind : HandlerKind) (name markup : String)
    (payload : Payload) (h : Handler) : Prop where
  bound : registry.find? name = some h
  ofKind : h.kind = kind
  parsed : h.parse markup = .ok payload

/-! ## Legal forests -/

section Legal

variable (registry : Registry) (maxDepth : Nat)

mutual

/-- A node that may stand in a section of `inside`, with `depth` blocks around it. -/
def Node.Legal (inside : Option Enclosure) (depth : Nat) : Node → Prop
  | .text _ => True
  | .variable .. => True
  | .tag name markup payload _ =>
    Unclaimed inside name ∧ ∃ h, Accepts registry .tag name markup payload h
  | .block name markup payload _ body clauses =>
    Unclaimed inside name ∧ depth < maxDepth ∧
      ∃ h, Accepts registry .block name markup payload h ∧
        LegalAll (some ⟨name, h⟩) (depth + 1) body ∧
        LegalClauses ⟨name, h⟩ (depth + 1) clauses ∧
        clauses.Pairwise fun c _ => c.name ∉ h.finalClauses

/-- Nodes that may stand in one section. -/
def LegalAll (inside : Option Enclosure) (depth : Nat) : List Node → Prop
  | [] => True
  | n :: ns => n.Legal inside depth ∧ LegalAll inside depth ns

/-- Clauses that the block knows, each with markup that the handler accepts. -/
def LegalClauses (block : Enclosure) (depth : Nat) : List (Clause Node) → Prop
  | [] => True
  | ⟨name, markup, payload, body⟩ :: cs =>
    block.Divides name ∧ block.handler.parseClause name markup = .ok payload ∧
      LegalAll (some block) depth body ∧ LegalClauses block depth cs

end

end Legal

/-! ## The tokens of a forest -/

mutual

/-- The tokens that a node stands for. -/
inductive Spells : Node → List (Token × Span) → Prop
  | text (s : String) (span : Span) : Spells (.text s) [(.text s, span)]
  | «variable» {markup : String} {v : Variable} (span : Span) (parsed : Variable.parse markup = .ok v) :
    Spells (.variable v span) [(.variable markup, span)]
  | tag (name markup : String) (payload : Payload) (span : Span) :
    Spells (.tag name markup payload span) [(.tag name markup, span)]
  | block {name markup : String} {payload : Payload} {span : Span} {body : List Node}
      {clauses : List (Clause Node)} {inner sections : List (Token × Span)} (ignored : String)
      (last : Span) (bodySpelled : SpellsAll body inner)
      (clausesSpelled : SpellsClauses clauses sections) :
    Spells (.block name markup payload span body clauses)
      ((.tag name markup, span) :: (inner ++ (sections ++ [(.tag ("end" ++ name) ignored, last)])))

/-- The tokens that nodes stand for, one node after the other. -/
inductive SpellsAll : List Node → List (Token × Span) → Prop
  | nil : SpellsAll [] []
  | cons {n : Node} {ns : List Node} {ts us : List (Token × Span)} (first : Spells n ts)
      (others : SpellsAll ns us) : SpellsAll (n :: ns) (ts ++ us)

/-- The tokens that sections stand for: the tag of each clause and what follows it. -/
inductive SpellsClauses : List (Clause Node) → List (Token × Span) → Prop
  | nil : SpellsClauses [] []
  | cons {name markup : String} {payload : Payload} {body : List Node} {cs : List (Clause Node)}
      {ts us : List (Token × Span)} (span : Span) (bodySpelled : SpellsAll body ts)
      (others : SpellsClauses cs us) :
    SpellsClauses (⟨name, markup, payload, body⟩ :: cs) ((.tag name markup, span) :: (ts ++ us))

end

/-! ## Forests put together -/

section Append

variable {registry : Registry} {maxDepth depth : Nat}

theorem legalAll_append {inside : Option Enclosure} {ns ms : List Node} :
    LegalAll registry maxDepth inside depth (ns ++ ms) ↔
      LegalAll registry maxDepth inside depth ns ∧ LegalAll registry maxDepth inside depth ms := by
  induction ns with
  | nil => simp [LegalAll]
  | cons n ns ih => simp only [List.cons_append, LegalAll, ih, and_assoc]

theorem legalClauses_append {block : Enclosure} {cs ds : List (Clause Node)} :
    LegalClauses registry maxDepth block depth (cs ++ ds) ↔
      LegalClauses registry maxDepth block depth cs ∧
        LegalClauses registry maxDepth block depth ds := by
  induction cs with
  | nil => simp [LegalClauses]
  | cons c cs ih =>
    obtain ⟨name, markup, payload, body⟩ := c
    simp only [List.cons_append, LegalClauses, ih, and_assoc]

theorem SpellsAll.append {ns ms : List Node} {ts us : List (Token × Span)} (h : SpellsAll ns ts)
    (k : SpellsAll ms us) : SpellsAll (ns ++ ms) (ts ++ us) := by
  induction ns generalizing ts with
  | nil =>
    cases h
    exact k
  | cons n ns ih =>
    cases h with
    | cons first others =>
      rw [List.append_assoc]
      exact .cons first (ih others)

theorem SpellsAll.single {n : Node} {ts : List (Token × Span)} (h : Spells n ts) :
    SpellsAll [n] ts := by
  have := SpellsAll.cons h .nil
  rwa [List.append_nil] at this

theorem SpellsClauses.append {cs ds : List (Clause Node)} {ts us : List (Token × Span)}
    (h : SpellsClauses cs ts) (k : SpellsClauses ds us) : SpellsClauses (cs ++ ds) (ts ++ us) := by
  induction cs generalizing ts with
  | nil =>
    cases h
    exact k
  | cons c cs ih =>
    cases h with
    | cons span bodySpelled others =>
      rw [List.cons_append, List.cons_append, List.append_assoc]
      exact .cons span bodySpelled (ih others)

/-- Sections whose last one has the given clause and body. -/
theorem SpellsClauses.of_append_single {cs : List (Clause Node)} {c : Clause Node}
    {ts : List (Token × Span)} (h : SpellsClauses (cs ++ [c]) ts) :
    ∃ us vs span, ts = us ++ (.tag c.name c.markup, span) :: vs ∧ SpellsClauses cs us ∧
      SpellsAll c.body vs := by
  induction cs generalizing ts with
  | nil =>
    cases h with
    | @cons name markup payload body _ vs _ span bodySpelled others =>
      cases others
      exact ⟨[], vs, span, by rw [List.append_nil, List.nil_append], .nil, bodySpelled⟩
  | cons d cs ih =>
    cases h with
    | @cons name markup payload body _ before _ first bodySpelled others =>
      obtain ⟨us, vs, span, rfl, h, k⟩ := ih others
      exact ⟨_, vs, span, by rw [← List.append_assoc, ← List.cons_append], .cons first bodySpelled h, k⟩

end Append

/-! ## Nodes and clauses of legal forests -/

section Members

variable {registry : Registry} {maxDepth depth : Nat}

theorem Node.Legal.of_mem {inside : Option Enclosure} {nodes : List Node} {n : Node}
    (legal : LegalAll registry maxDepth inside depth nodes) (mem : n ∈ nodes) :
    n.Legal registry maxDepth inside depth := by
  induction nodes with
  | nil => cases mem
  | cons m ms ih =>
    unfold LegalAll at legal
    rcases List.mem_cons.1 mem with rfl | mem
    · exact legal.1
    · exact ih legal.2 mem

theorem LegalClauses.of_mem {block : Enclosure} {clauses : List (Clause Node)}
    {c : Clause Node} (legal : LegalClauses registry maxDepth block depth clauses)
    (mem : c ∈ clauses) :
    c.name ∈ block.handler.clauses ∧ LegalAll registry maxDepth (some block) depth c.body := by
  induction clauses with
  | nil => cases mem
  | cons d ds ih =>
    obtain ⟨name, markup, payload, body⟩ := d
    unfold LegalClauses at legal
    obtain ⟨divides, -, legalBody, others⟩ := legal
    rcases List.mem_cons.1 mem with rfl | mem
    · exact ⟨divides.2, legalBody⟩
    · exact ih others mem

/-- A block has no clauses if its handler knows none. -/
theorem LegalClauses.eq_nil {block : Enclosure} {clauses : List (Clause Node)}
    (legal : LegalClauses registry maxDepth block depth clauses)
    (none : block.handler.clauses = []) : clauses = [] := by
  refine List.eq_nil_iff_forall_not_mem.2 fun c mem => ?_
  have known := (legal.of_mem mem).1
  rw [none] at known
  cases known

end Members

end Stencil
