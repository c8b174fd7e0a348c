import Stencil.Document.Reader
import Stencil.Filter.Builtin

/-!
# Environments

What templates are parsed and rendered in: the handlers, the filters, the values that every render
presets, the stored templates, what becomes of errors, and how deep blocks may nest.
-/

namespace Stencil

/-- What templates are parsed and rendered in. -/
structure Environment where
  registry : Registry
  filters : Table Filter
  presets : Table Value
  templates : Table Template
  errorMode : ErrorMode
  maxDepth : Nat

namespace Environment

/-- How deep blocks may nest unless the environment says otherwise. -/
def defaultMaxDepth : Nat := 64

/-- An environment without handlers and filters. -/
def empty : Environment := ⟨[], [], [], [], .lax, defaultMaxDepth⟩

def register (env : Environment) (name : String) (h : Handler) : Except Error Environment := do
  let registry ← Registry.register env.registry name h
  pure { env with registry := registry }

/-- Adds a filter, in the place of an older one of the name. -/
def addFilter (env : Environment) (name : String) (f : Filter) : Environment :=
  { env with filters := env.filters.set name f }

def removeFilter (env : Environment) (name : String) : Environment :=
  { env with filters := env.filters.unset name }

/-- Presets a value, which goes through a JSON document first. -/
def addPreset (env : Environment) (name : String) (value : Value) : Environment :=
  { env with presets := Table.set env.presets name value.imported }

/-- Parses a document under a name. -/
def parseNamed (env : Environment) (name source : String) : Except Error Template :=
  Template.parse env.registry env.maxDepth name source

/-- The name of a template that is given none. -/
def anonymous : String := "<string>"

def parse (env : Environment) (source : String) : Except Error Template :=
  env.parseNamed anonymous source

/-- Parses a document and stores it under its name. -/
def addTemplate (env : Environment) (name source : String) : Except Error Environment := do
  let template ← env.parseNamed name source
  pure { env with templates := env.templates.set name template }

def removeTemplate (env : Environment) (name : String) : Environment :=
  { env with templates := env.templates.unset name }

def findTemplate (env : Environment) (name : String) : Except Error Template :=
  match env.templates.find? name with
  | some t => .ok t
  | none => .error (Cause.templateNotFound name)

end Environment

end Stencil
