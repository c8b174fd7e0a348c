import Stencil.Handler.Action

/-!
# Handlers

A handler gives a name its meaning: it reads the markup that follows the name, and it says what
rendering does.  Tags stand alone; blocks have a body and may know clauses that divide it, some of
which are final.  `Tag` and `Block` are handlers over the type of their markup, and `handler` makes
of each a handler whose markup is one of the forms of `Payload`.  A handler fails on markup that
another type of handler has read.
-/

namespace Stencil

/-- What makes a handler the same as another: its kind, its type, and, if it has a state of its
own, the box that it was put into. -/
structure Identity where
  kind : HandlerKind
  type : String
  box : Option Nat
  deriving DecidableEq

/-- What a node asks of its handler. -/
inductive Call where
  | tag (name : String) (payload : Payload)
  | block (name : String) (payload : Payload) (body : List Node) (clauses : List (Clause Node))

/-- The meaning of the name of a tag or block. -/
structure Handler where
  identity : Identity
  /-- The clauses that divide a block. -/
  clauses : List String
  /-- The clauses that no other clause may follow. -/
  finalClauses : List String
  /-- Reads the markup behind the name. -/
  parse : String → Except Error Payload
  /-- Reads the markup behind a clause of the given name. -/
  parseClause : String → String → Except Error Payload
  render : Call → Action Unit

/-- Whether the handler stands for tags or for blocks. -/
def Handler.kind (h : Handler) : HandlerKind := h.identity.kind

/-- Whether two handlers are one and the same. -/
def Handler.same (h k : Handler) : Bool := decide (h.identity = k.identity)

/-- The handler with a state of its own, in the box of the given number. -/
def Handler.boxed (h : Handler) (box : Nat) : Handler :=
  { h with identity := { h.identity with box := some box } }

/-! ## Types of markup -/

/-- A type that markup is read into, as one of the forms of `Payload`. -/
class MarkupType (μ : Type) where
  toPayload : μ → Payload
  ofPayload? : Payload → Option μ

namespace MarkupType

instance : MarkupType Unit where
  toPayload _ := .unit
  ofPayload?
    | .unit => some ()
    | _ => none

instance : MarkupType String where
  toPayload := .text
  ofPayload?
    | .text s => some s
    | _ => none

instance : MarkupType Expr where
  toPayload := .expr
  ofPayload?
    | .expr e => some e
    | _ => none

instance : MarkupType ConditionChain where
  toPayload := .chain
  ofPayload?
    | .chain c => some c
    | _ => none

instance : MarkupType Assignment where
  toPayload := .assignment
  ofPayload?
    | .assignment a => some a
    | _ => none

instance : MarkupType Loop where
  toPayload := .loop
  ofPayload?
    | .loop l => some l
    | _ => none

instance : MarkupType (Option ConditionChain) where
  toPayload := .optionalChain
  ofPayload?
    | .optionalChain c => some c
    | _ => none

instance : MarkupType (Option (List Expr)) where
  toPayload := .optionalExprs
  ofPayload?
    | .optionalExprs es => some es
    | _ => none

/-- The markup in its own type, or the failure of a handler that meets foreign markup. -/
def typed {μ : Type} [MarkupType μ] (p : Payload) : Except Error μ :=
  match ofPayload? p with
  | some m => .ok m
  | none => .error Cause.foreignMarkup

end MarkupType

/-! ## Tags -/

/-- A tag with markup of type `μ`. -/
structure Tag (μ : Type) where
  type : String
  parse : String → Except Error μ
  render : μ → Action Unit

def Tag.handler {μ : Type} [MarkupType μ] (t : Tag μ) : Handler where
  identity := ⟨.tag, t.type, none⟩
  clauses := []
  finalClauses := []
  parse markup := (t.parse markup).map MarkupType.toPayload
  parseClause name _ := .error (Cause.unexpectedClause name)
  render
    | .tag _ payload => do
      let markup : μ ← Action.ofExcept (MarkupType.typed payload)
      t.render markup
    | .block name .. => .fail (Cause.tagAsBlock name)

/-! ## Blocks -/

/-- A section of a block whose clauses have markup of type `κ`. -/
structure Section (κ : Type) where
  name : String
  markup : κ
  nodes : List Node

/-- A block as its handler sees it. -/
structure Body (μ κ : Type) where
  name : String
  markup : μ
  nodes : List Node
  clauses : List (Section κ)

/-- A block with markup of type `μ` and with clauses that have markup of type `κ`. -/
structure Block (μ κ : Type) where
  type : String
  parse : String → Except Error μ
  clauses : List String := []
  finalClauses : List String := []
  parseClause : String → String → Except Error κ := fun name _ =>
    .error (Cause.unexpectedClause name)
  render : Body μ κ → Action Unit

/-- A section with its markup in its own type. -/
def Section.ofClause {κ : Type} [MarkupType κ] (c : Clause Node) : Except Error (Section κ) := do
  let markup ← MarkupType.typed c.payload
  pure ⟨c.name, markup, c.body⟩

/-- A block with all its markup in its own type.  Clauses are looked at before the block. -/
def Body.ofBlock {μ κ : Type} [MarkupType μ] [MarkupType κ] (name : String) (payload : Payload)
    (body : List Node) (clauses : List (Clause Node)) : Except Error (Body μ κ) := do
  let sections ← clauses.mapM Section.ofClause
  let markup ← MarkupType.typed payload
  pure ⟨name, markup, body, sections⟩

def Block.handler {μ κ : Type} [MarkupType μ] [MarkupType κ] (b : Block μ κ) :
    Handler where
  identity := ⟨.block, b.type, none⟩
  clauses := b.clauses
  finalClauses := b.finalClauses
  parse markup := (b.parse markup).map MarkupType.toPayload
  parseClause name markup := (b.parseClause name markup).map MarkupType.toPayload
  render
    | .tag name _ => .fail (Cause.blockAsTag name)
    | .block name payload body clauses => do
      let body : Body μ κ ← Action.ofExcept (Body.ofBlock name payload body clauses)
      b.render body

end Stencil
