import Stencil.Document.Token
import Stencil.Json
import Stencil.Markup.Basic

/-!
# Documents

The tree of a document: texts, variables, tags, and blocks with a body and with the sections that
clauses open in it.  A tag, a block and a clause hold the markup as text and as the handler of the
name has read it.
-/

namespace Stencil

/-- What an `assign` tag binds. -/
structure Assignment where
  name : String
  value : Variable

/-- What a `for` block runs over, and how. -/
structure Loop where
  name : String
  items : Expr
  limit : Option Expr
  offset : Option Expr
  reversed : Bool

/-- Markup as a handler has read it.  There is one form for each type of markup. -/
inductive Payload where
  | unit
  | text (s : String)
  | expr (e : Expr)
  | chain (c : ConditionChain)
  | assignment (a : Assignment)
  | loop (l : Loop)
  | optionalChain (c : Option ConditionChain)
  | optionalExprs (es : Option (List Expr))

/-- A section of a block over nodes `ν`: the clause that opens it and what follows. -/
structure Clause (ν : Type) where
  name : String
  markup : String
  payload : Payload
  body : List ν

/-- A node of a document. -/
inductive Node where
  | text (s : String)
  | «variable» (v : Variable) (span : Span)
  | tag (name markup : String) (payload : Payload) (span : Span)
  | block (name markup : String) (payload : Payload) (span : Span) (body : List Node)
      (clauses : List (Clause Node))

instance : Inhabited Node := ⟨.text ""⟩

/-- A document with its name and with the values that it presets. -/
structure Template where
  name : String
  nodes : List Node
  presets : Table Value

namespace Template

def ofNodes (name : String) (nodes : List Node) : Template := ⟨name, nodes, []⟩

/-- The template with one more preset, which goes through a JSON document first. -/
def preset (t : Template) (name : String) (value : Value) : Template :=
  { t with presets := Table.set t.presets name value.imported }

end Template

namespace Node

mutual

/-- Equality of nodes.  Spans do not count, and markup of tags, blocks and clauses counts as
text. -/
def equals : Node → Node → Bool
  | .text s, n => match n with
    | .text t => s == t
    | _ => false
  | .variable v _, n => match n with
    | .variable w _ => v.equals w
    | _ => false
  | .tag name markup _ _, n => match n with
    | .tag otherName otherMarkup _ _ => name == otherName && markup == otherMarkup
    | _ => false
  | .block name markup _ _ body clauses, n => match n with
    | .block otherName otherMarkup _ _ otherBody otherClauses =>
      name == otherName && markup == otherMarkup && equalLists body otherBody &&
        equalClauses clauses otherClauses
    | _ => false

def equalLists : List Node → List Node → Bool
  | [], [] => true
  | m :: ms, n :: ns => m.equals n && equalLists ms ns
  | _, _ => false

/-- Equality of the sections of two blocks. -/
def equalClauses : List (Clause Node) → List (Clause Node) → Bool
  | [], [] => true
  | ⟨name, markup, _, body⟩ :: cs, ⟨otherName, otherMarkup, _, otherBody⟩ :: ds =>
    name == otherName && markup == otherMarkup && equalLists body otherBody && equalClauses cs ds
  | _, _ => false

end

end Node

end Stencil
