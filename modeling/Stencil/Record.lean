import Stencil.Render.Template

/-!
# Records

The structure of templates, environments, options and finished renders as text: the name of a
record and its fields in braces, lists in brackets, texts quoted.
-/

namespace Stencil.Record

/-- A record with its fields in order. -/
def record (name : String) (fields : List (String × String)) : String :=
  name ++ " \x7b " ++ String.intercalate ", " (fields.map fun f => f.1 ++ ": " ++ f.2) ++ " \x7d"

/-- Something with its arguments in parentheses. -/
def applied (name : String) (args : List String) : String :=
  name ++ "(" ++ String.intercalate ", " args ++ ")"

def bracketed (items : List String) : String := "[" ++ String.intercalate ", " items ++ "]"

def braced (entries : List (String × String)) : String :=
  "\x7b" ++ String.intercalate ", " (entries.map fun e => Text.quoted e.1 ++ ": " ++ e.2) ++ "\x7d"

def ofBool : Bool → String := Value.boolText

/-! ## Templates -/

mutual

def ofExpr : Expr → String
  | .const v => applied "Const" [v.inspect]
  | .empty => "Empty"
  | .path root segments =>
    applied "Path" [record "Path" [("root", Text.quoted root),
      ("segments", bracketed (ofSegments segments))]]
  | .range first last => applied "Range" [ofExpr first, ofExpr last]

def ofSegments : List (Segment Expr) → List String
  | [] => []
  | .attr name :: rest => applied "Attr" [Text.quoted name] :: ofSegments rest
  | .index e :: rest => applied "Index" [ofExpr e] :: ofSegments rest

end

def ofCall (c : FilterCall) : String :=
  record "Filter" [("name", Text.quoted c.name), ("args", bracketed (c.args.map ofExpr))]

def ofVariable (v : Variable) : String :=
  record "Variable" [("expr", ofExpr v.expr), ("filters", bracketed (v.filters.map ofCall))]

mutual

def ofNode : Node → String
  | .text s => applied "Literal" [Text.quoted s]
  | .variable v span => applied "Variable" [ofVariable v ++ span.text]
  | .tag name markup _ span =>
    applied "Tag" [record "TagNode" [("name", Text.quoted name), ("markup", Text.quoted markup)] ++
      span.text]
  | .block name markup _ span body clauses =>
    applied "Block" [record "BlockNode" [("name", Text.quoted name), ("markup", Text.quoted markup),
      ("body", bracketed (ofNodes body)), ("clauses", bracketed (ofClauses clauses))] ++ span.text]

def ofNodes : List Node → List String
  | [] => []
  | n :: rest => ofNode n :: ofNodes rest

/-- The sections of a block, one by one. -/
def ofClauses : List (Clause Node) → List String
  | [] => []
  | ⟨name, markup, _, body⟩ :: rest =>
    record "Clause" [("name", Text.quoted name), ("markup", Text.quoted markup),
      ("body", bracketed (ofNodes body))] :: ofClauses rest

end

def ofTemplate (t : Template) : String :=
  record "Template" [("name", Text.quoted t.name), ("nodes", bracketed (ofNodes t.nodes)),
    ("presets", Value.inspectTable t.presets)]

/-! ## Environments -/

/-- A handler, of which only the kind is shown. -/
def ofHandler (h : Handler) : String :=
  record "BoxedHandler" [("kind", match h.kind with
    | .tag => "Tag"
    | .block => "Block")]

def ofRegistry (r : Registry) : String :=
  record "Registry" [("handlers", braced (r.map fun e => (e.1, ofHandler e.2)))]

def ofEnvironment (env : Environment) : String :=
  record "Environment" [("registry", ofRegistry env.registry),
    ("filters", bracketed (env.filters.names.map Text.quoted)),
    ("presets", Value.inspectTable env.presets),
    ("templates", bracketed (env.templates.names.map Text.quoted)),
    ("error_mode", env.errorMode.name)]

/-! ## Renders -/

def ofOptions (o : RenderOptions) : String :=
  record "RenderOptions" [("registers", Value.inspectTable o.registers),
    ("escape_variables", ofBool o.escapeVariables), ("stringify_output", ofBool o.joinOutput),
    ("global_filter", ofBool o.globalFilter.isSome)]

/-- The output of a finished render. -/
def ofOutput : RenderOutput → String
  | .joined text => applied "Joined" [Text.quoted text]
  | .fragments parts => applied "Fragments" [bracketed (parts.map Text.quoted)]

/-- The context that a render was left in. -/
def ofContext (c : Context) : String :=
  record "Context" [("template", Text.quoted c.template.name), ("assigns", c.assigns.inspect),
    ("scopes", bracketed (c.scopes.map Value.inspectTable)),
    ("registers", Value.inspectTable c.registers), ("signal", c.signal.name),
    ("errors", bracketed (c.errors.map Error.record))]

def ofRendered (r : Rendered) : String :=
  record "Rendered" [("output", ofOutput r.output), ("context", ofContext r.context)]

end Stencil.Record
