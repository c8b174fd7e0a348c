import Stencil.Handler.Registry
import Stencil.Markup.Reader

/-!
# Reading documents

A document is read token by token with a stack of the blocks that are open.  A tag either closes
the innermost open block, or opens a section of it, or is looked up in the registry: then it stands
alone or opens a block.  The end marker and the clauses of the innermost block come before the
registry.  At the end no block may be open.
-/

namespace Stencil

/-- The section that is being read: the block's own body, or what follows a clause. -/
inductive OpenSection where
  | body
  | clause (name markup : String) (payload : Payload)

/-- A block that has been opened and not yet closed. -/
structure OpenBlock where
  name : String
  markup : String
  payload : Payload
  span : Span
  handler : Handler
  /-- The body, once the first clause has been met. -/
  body : List Node
  clauses : List (Clause Node)
  /-- The section that is being read. -/
  current : OpenSection
  /-- The nodes before the block, the last one first. -/
  before : List Node

/-- The state of reading: the open blocks, the innermost first, and the nodes read so far in the
section that is being read, the last one first. -/
structure Draft where
  blocks : List OpenBlock
  nodes : List Node

namespace OpenBlock

/-- The name of the tag that closes the block. -/
def endName (b : OpenBlock) : String := "end" ++ b.name

/-- The name of the last clause of the block. -/
def lastClause? (b : OpenBlock) : Option String :=
  match b.current with
  | .body => none
  | .clause name _ _ => some name

/-- The block after the section that is being read is complete. -/
def closeSection (b : OpenBlock) (nodes : List Node) : OpenBlock :=
  match b.current with
  | .body => { b with body := nodes }
  | .clause name markup payload => { b with clauses := b.clauses ++ [⟨name, markup, payload, nodes⟩] }

/-- The block as a node, after its last section is complete. -/
def toNode (b : OpenBlock) : Node := .block b.name b.markup b.payload b.span b.body b.clauses

end OpenBlock

namespace Draft

def empty : Draft := ⟨[], []⟩

/-- Adds a node to the section that is being read. -/
def push (d : Draft) (n : Node) : Draft := { d with nodes := n :: d.nodes }

/-- What a tag means that no handler has the name of. -/
def unknown (registry : Registry) (name : String) : Cause :=
  if "end".toList.isPrefixOf name.toList then .strayEnd name
  else if registry.knowsClause name then .strayClause name
  else .unknownTag name

/-- Opens a section of the innermost block. -/
def openClause (b : OpenBlock) (outer : List OpenBlock) (nodes : List Node) (name markup : String) :
    Except Error Draft :=
  match b.lastClause?.filter b.handler.finalClauses.contains with
  | some last => .error (Cause.clauseAfterFinal name last b.name)
  | none => do
    let payload ← b.handler.parseClause name markup
    pure ⟨{ b.closeSection nodes.reverse with current := .clause name markup payload } :: outer, []⟩

def closeBlock (b : OpenBlock) (outer : List OpenBlock) (nodes : List Node) : Draft :=
  ⟨outer, (b.closeSection nodes.reverse).toNode :: b.before⟩

/-- Adds a tag, or opens a block, by the handler of the name. -/
def openHandler (d : Draft) (h : Handler) (maxDepth : Nat) (name markup : String) (span : Span) :
    Except Error Draft :=
  match h.kind with
  | .tag => do
    let payload ← h.parse markup
    pure (d.push (.tag name markup payload span))
  | .block =>
    if maxDepth ≤ d.blocks.length then .error (Cause.blocksTooDeep maxDepth)
    else do
      let payload ← h.parse markup
      pure ⟨⟨name, markup, payload, span, h, [], [], .body, d.nodes⟩ :: d.blocks, []⟩

/-- Looks a tag up in the registry. -/
def openTag (d : Draft) (registry : Registry) (maxDepth : Nat) (name markup : String)
    (span : Span) : Except Error Draft :=
  match registry.find? name with
  | none => .error (unknown registry name)
  | some h => d.openHandler h maxDepth name markup span

def readTag (d : Draft) (registry : Registry) (maxDepth : Nat) (name markup : String)
    (span : Span) : Except Error Draft :=
  match d.blocks with
  | [] => d.openTag registry maxDepth name markup span
  | b :: outer =>
    if name = b.endName then .ok (closeBlock b outer d.nodes)
    else if b.handler.clauses.contains name then openClause b outer d.nodes name markup
    else d.openTag registry maxDepth name markup span

def readToken (d : Draft) (registry : Registry) (maxDepth : Nat) (token : Token) (span : Span) :
    Except Error Draft :=
  match token with
  | .text s => .ok (d.push (.text s))
  | .variable markup => do
    let v ← Variable.parse markup
    pure (d.push (.variable v span))
  | .tag name markup => d.readTag registry maxDepth name markup span

/-- Reads tokens one after the other.  A failure without a place is at the line that its token
begins on. -/
def readTokens (registry : Registry) (maxDepth : Nat) (template : String) :
    Draft → List (Token × Span) → Except Error Draft
  | d, [] => .ok d
  | d, (token, span) :: rest =>
    match d.readToken registry maxDepth token span with
    | .error e => .error (e.orLocatedAt template span.start.line)
    | .ok d => readTokens registry maxDepth template d rest

/-- The nodes that were read, unless a block is open. -/
def finish (d : Draft) (template : String) : Except Error (List Node) :=
  match d.blocks with
  | [] => .ok d.nodes.reverse
  | b :: _ =>
    .error ((Cause.unterminatedBlock b.name : Error).locatedAt template b.span.start.line)

end Draft

namespace Template

def readNodes (registry : Registry) (maxDepth : Nat) (name source : String) :
    Except Error (List Node) := do
  let scan := Token.scan source
  let draft ← Draft.empty.readTokens registry maxDepth name scan.tokens
  match scan.error? name with
  | some e => .error e
  | none => draft.finish name

def parse (registry : Registry) (maxDepth : Nat) (name source : String) : Except Error Template := do
  let nodes ← readNodes registry maxDepth name source
  pure (ofNodes name nodes)

end Template

end Stencil
