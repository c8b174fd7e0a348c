import Stencil.Text.Quoted
import Stencil.Value.Kind

/-!
# Errors

Every failure has a cause.  A cause belongs to a kind, which has a category (found while parsing,
while rendering or while an engine is set up), and it may have a detail, the text that says what
was wrong.  An error is a cause with the place in a template that it was found at, and with the
causes of the errors behind it.
-/

namespace Stencil

/-- The kind of an error. -/
inductive ErrorKind where
  | syntaxError
  | unknownTag
  | unterminatedBlock
  | invalidVariableName
  | emptyFilter
  | nestingTooDeep
  | unknownFilter
  | invalidArguments
  | invalidOperation
  | templateNotFound
  | badSerialization
  | duplicateRegistration
  deriving DecidableEq

/-- The phase that an error belongs to. -/
inductive ErrorCategory where
  /-- Found while parsing, which stops. -/
  | parsing
  /-- Found while rendering, which goes on. -/
  | rendering
  /-- Found while an engine is set up. -/
  | configuration
  deriving DecidableEq

/-- What becomes of an error while rendering. -/
inductive ErrorMode where
  /-- The message is written in the place of the node. -/
  | lax
  /-- Nothing is written, and the error is recorded. -/
  | strict
  deriving DecidableEq

/-- The name of an error mode. -/
def ErrorMode.name : ErrorMode → String
  | .lax => "Lax"
  | .strict => "Strict"

def ErrorKind.words : ErrorKind → String
  | .syntaxError => "syntax error"
  | .unknownTag => "unknown tag"
  | .unterminatedBlock => "unterminated block"
  | .invalidVariableName => "invalid variable name"
  | .emptyFilter => "empty filter"
  | .nestingTooDeep => "nesting too deep"
  | .unknownFilter => "unknown filter"
  | .invalidArguments => "invalid arguments"
  | .invalidOperation => "invalid operation"
  | .templateNotFound => "template not found"
  | .badSerialization => "could not serialize to internal format"
  | .duplicateRegistration => "duplicate registration"

def ErrorKind.name : ErrorKind → String
  | .syntaxError => "SyntaxError"
  | .unknownTag => "UnknownTag"
  | .unterminatedBlock => "UnterminatedBlock"
  | .invalidVariableName => "InvalidVariableName"
  | .emptyFilter => "EmptyFilter"
  | .nestingTooDeep => "NestingTooDeep"
  | .unknownFilter => "UnknownFilter"
  | .invalidArguments => "InvalidArguments"
  | .invalidOperation => "InvalidOperation"
  | .templateNotFound => "TemplateNotFound"
  | .badSerialization => "BadSerialization"
  | .duplicateRegistration => "DuplicateRegistration"

def ErrorKind.all : List ErrorKind :=
  [.syntaxError, .unknownTag, .unterminatedBlock, .invalidVariableName, .emptyFilter,
    .nestingTooDeep, .unknownFilter, .invalidArguments, .invalidOperation, .templateNotFound,
    .badSerialization, .duplicateRegistration]

def ErrorKind.ofName? (name : String) : Option ErrorKind :=
  ErrorKind.all.find? fun k => k.name = name

def ErrorKind.category : ErrorKind → ErrorCategory
  | .syntaxError | .unknownTag | .unterminatedBlock | .invalidVariableName | .emptyFilter
  | .nestingTooDeep => .parsing
  | .unknownFilter | .invalidArguments | .invalidOperation | .templateNotFound
  | .badSerialization => .rendering
  | .duplicateRegistration => .configuration

/-- Whether a handler stands for a tag or for a block. -/
inductive HandlerKind where
  | tag
  | block
  deriving DecidableEq

/-- The word for a kind of handler. -/
def HandlerKind.word : HandlerKind → String
  | .tag => "tag"
  | .block => "block"

/-- What went wrong. -/
inductive Cause where
  | unclosedVariable
  | unclosedTag
  /-- A tag does not begin with a name. -/
  | unnamedTag
  | trailingMarkup (found : Option Char)
  | expectedToken (token : String) (found : Option Char)
  | expectedName (found : Option Char)
  | expectedValue (found : Option Char)
  | expressionTooDeep
  | missingFilterName
  | missingFilterInput
  /-- The name of a variable holds a percent sign. -/
  | badVariableName (head : String)
  /-- A loop does not name what it runs over. -/
  | expectedIn (name : String)
  | takesNoArguments (name : String)
  /-- A block does not know the clause, or not in this form. -/
  | unexpectedClause (name : String)
  /-- An end marker stands outside of its block. -/
  | strayEnd (name : String)
  | strayClause (name : String)
  | unknownTag (name : String)
  | unterminatedBlock (name : String)
  /-- A clause stands behind the last one that may stand. -/
  | clauseAfterFinal (clause last block : String)
  | blocksTooDeep (limit : Nat)
  | unknownFilter (name : String)
  | missingArgument
  | unexpectedArgument (expected : String) (got : Kind)
  | negativeArgument (got : Int64)
  | tooManyArguments (most given : Nat)
  /-- A value that is no sequence cannot be rearranged. -/
  | cannotArrange (how : String) (got : Kind)
  /-- The bound of a loop is no integer. -/
  | countNotNumber (what : String) (got : Kind)
  /-- A template is named by something else than a string. -/
  | templateNameNotString (got : Kind)
  | assignsNotMap (got : Kind)
  /-- A handler is registered under something that is no name. -/
  | invalidTagName (name : String)
  | notIterable (got : Kind)
  | notNumeral (text : String)
  | notNumber (got : Kind)
  /-- The result of an operation does not fit. -/
  | cannotCalculate (left op right : String)
  | dividedByZero
  | absOverflow
  /-- Node lists are nested deeper than the renderer goes. -/
  | recursionLimit
  | rangeTooLong
  /-- The bound of a range is no number. -/
  | rangeBound (got : Kind)
  | cannotCompare (left right : Kind)
  | blockAsTag (name : String)
  | tagAsBlock (name : String)
  /-- The markup of a node does not suit its handler. -/
  | foreignMarkup
  | templateNotFound (name : String)
  | unconvertible
  | duplicateHandler (name : String) (kind : HandlerKind)
  | globalEnvironmentSet
  | formattingFailed
  /-- A cause that a handler or filter gives itself. -/
  | other (kind : ErrorKind) (detail : Option String)
  deriving DecidableEq

/-- What a message says stands at some place of the markup. -/
def describe : Option Char → String
  | some c => "`" ++ String.singleton c ++ "`"
  | none => "end of markup"

def Cause.kind : Cause → ErrorKind
  | unclosedVariable | unclosedTag | unnamedTag | trailingMarkup _ | expectedToken .. |
    expectedName _ | expectedValue _ | expectedIn _ | takesNoArguments _ | unexpectedClause _ |
    strayEnd _ | strayClause _ | clauseAfterFinal .. => .syntaxError
  | expressionTooDeep | blocksTooDeep _ => .nestingTooDeep
  | missingFilterName | missingFilterInput => .emptyFilter
  | badVariableName _ => .invalidVariableName
  | unknownTag _ => .unknownTag
  | unterminatedBlock _ => .unterminatedBlock
  | unknownFilter _ => .unknownFilter
  | missingArgument | unexpectedArgument .. | negativeArgument _ | tooManyArguments .. |
    cannotArrange .. | countNotNumber .. | templateNameNotString _ | assignsNotMap _ |
    invalidTagName _ => .invalidArguments
  | notIterable _ | notNumeral _ | notNumber _ | cannotCalculate .. | dividedByZero | absOverflow |
    recursionLimit | rangeTooLong | rangeBound _ | cannotCompare .. | blockAsTag _ | tagAsBlock _ |
    foreignMarkup | formattingFailed => .invalidOperation
  | templateNotFound _ => .templateNotFound
  | unconvertible => .badSerialization
  | duplicateHandler .. | globalEnvironmentSet => .duplicateRegistration
  | other kind _ => kind

def Cause.detail : Cause → Option String
  | unclosedVariable => some "unexpected end of variable block"
  | unclosedTag => some "unexpected end of block"
  | unnamedTag => some "expected tag name"
  | trailingMarkup found => some ("unexpected " ++ describe found)
  | expectedToken token found => some ("expected `" ++ token ++ "`, found " ++ describe found)
  | expectedName found => some ("expected a name, found " ++ describe found)
  | expectedValue found => some ("expected a value, found " ++ describe found)
  | expressionTooDeep => some "expression nested too deeply"
  | missingFilterName => some "expected a filter name after `|`"
  | missingFilterInput => some "expected a value before `|`"
  | badVariableName head => some ("invalid variable name `" ++ head ++ "`")
  | expectedIn name => some ("expected `in` after `" ++ name ++ "`")
  | takesNoArguments name => some ("`" ++ name ++ "` does not take any arguments")
  | unexpectedClause name => some ("unexpected clause `" ++ name ++ "`")
  | strayEnd name => some ("unexpected `" ++ name ++ "`")
  | strayClause name => some ("unexpected `" ++ name ++ "` outside of its block")
  | unknownTag name => some ("unknown tag `" ++ name ++ "`")
  | unterminatedBlock name => some ("`" ++ name ++ "` is missing its `end" ++ name ++ "`")
  | clauseAfterFinal clause last block =>
    some ("`" ++ clause ++ "` cannot follow `" ++ last ++ "` in `" ++ block ++ "`")
  | blocksTooDeep limit => some ("blocks are nested deeper than " ++ toString limit ++ " levels")
  | unknownFilter name => some ("unknown filter `" ++ name ++ "`")
  | missingArgument => some "missing argument"
  | unexpectedArgument expected got => some ("expected " ++ expected ++ ", got " ++ got.word)
  | negativeArgument got => some ("expected a non-negative integer, got " ++ toString got.toInt)
  | tooManyArguments most given =>
    some ("expected at most " ++ toString most ++ " arguments, got " ++ toString given)
  | cannotArrange how got => some ("cannot " ++ how ++ " " ++ got.word)
  | countNotNumber what got => some (what ++ " must be a number, got " ++ got.word)
  | templateNameNotString got => some ("template name must be a string, got " ++ got.word)
  | assignsNotMap got => some ("assigns must be a map, got " ++ got.word)
  | invalidTagName name => some ("`" ++ name ++ "` is not a valid tag name")
  | notIterable got => some (got.word ++ " is not iterable")
  | notNumeral text => some ("could not convert " ++ Text.quoted text ++ " to a number")
  | notNumber got => some ("cannot use " ++ got.word ++ " as a number")
  | cannotCalculate left op right =>
    some ("unable to calculate " ++ left ++ " " ++ op ++ " " ++ right)
  | dividedByZero => some "divided by 0"
  | absOverflow => some "overflow in abs"
  | recursionLimit => some "recursion limit exceeded"
  | rangeTooLong => some "range has too many elements"
  | rangeBound got => some ("range bounds must be numbers, got " ++ got.word)
  | cannotCompare left right => some ("cannot compare " ++ left.word ++ " with " ++ right.word)
  | blockAsTag name => some ("`" ++ name ++ "` is a block, not a tag")
  | tagAsBlock name => some ("`" ++ name ++ "` is a tag, not a block")
  | foreignMarkup => some "markup was parsed by a different handler"
  | templateNotFound name => some ("template " ++ Text.quoted name ++ " does not exist")
  | unconvertible => some "unable to convert value"
  | duplicateHandler name kind =>
    some ("`" ++ name ++ "` is already registered as a " ++ kind.word)
  | globalEnvironmentSet => some "the global environment is already initialized"
  | formattingFailed => some "formatting failed"
  | other _ detail => detail

/-- The place of an error: the name of the template and the line, counted from 1. -/
structure Location where
  template : String
  line : Nat
  deriving DecidableEq

/-- A failure: its cause, its place if that is known, and the causes of the errors behind it, the
nearest first. -/
structure Error where
  cause : Cause
  location : Option Location := none
  sources : List (Cause × Option Location) := []
  deriving DecidableEq

namespace Error

instance : Coe Cause Error := ⟨fun cause => ⟨cause, none, []⟩⟩

def kind (e : Error) : ErrorKind := e.cause.kind

def category (e : Error) : ErrorCategory := e.kind.category

def detail (e : Error) : Option String := e.cause.detail

/-- Whether two errors are of one kind, which is what counts as equal. -/
def sameKind (a b : Error) : Bool := decide (a.kind = b.kind)

/-- The error with a place, in the stead of the one it had. -/
def locatedAt (e : Error) (template : String) (line : Nat) : Error :=
  { e with location := some ⟨template, line⟩ }

/-- The error with a place, unless it has one. -/
def orLocatedAt (e : Error) (template : String) (line : Nat) : Error :=
  if e.location.isSome then e else e.locatedAt template line

/-- The error with another one behind it. -/
def because (e source : Error) : Error :=
  { e with sources := (source.cause, source.location) :: source.sources }

def source? (e : Error) : Option Error :=
  match e.sources with
  | [] => none
  | (cause, location) :: rest => some ⟨cause, location, rest⟩

def inlineMessage (e : Error) : String :=
  match e.detail with
  | some detail => e.kind.words ++ ": " ++ detail
  | none => e.kind.words

/-- The message with the place, if there is one. -/
def message (e : Error) : String :=
  match e.location with
  | some l => e.inlineMessage ++ " (in " ++ l.template ++ ":" ++ toString l.line ++ ")"
  | none => e.inlineMessage

/-- An optional text as it is shown inside of a record. -/
def showText : Option String → String
  | some s => "Some(" ++ Text.quoted s ++ ")"
  | none => "None"

/-- The fields of an error with what stands for the error behind it. -/
def showRecord (cause : Cause) (location : Option Location) (source : String) : String :=
  "Error \x7b kind: " ++ cause.kind.name ++ ", detail: " ++ showText cause.detail ++
    ", name: " ++ showText (location.map Location.template) ++
    ", lineno: " ++ toString ((location.map Location.line).getD 0) ++
    ", source: " ++ source ++ " \x7d"

/-- The record of the errors behind an error. -/
def showSources : List (Cause × Option Location) → String
  | [] => "None"
  | (cause, location) :: rest => "Some(" ++ showRecord cause location (showSources rest) ++ ")"

/-- The error as a record with all its fields. -/
def record (e : Error) : String := showRecord e.cause e.location (showSources e.sources)

/-! ## Small facts -/

@[simp] theorem kind_locatedAt (e : Error) (t : String) (n : Nat) :
    (e.locatedAt t n).kind = e.kind := rfl

@[simp] theorem detail_locatedAt (e : Error) (t : String) (n : Nat) :
    (e.locatedAt t n).detail = e.detail := rfl

theorem orLocatedAt_of_none {e : Error} (h : e.location = none) (t : String) (n : Nat) :
    e.orLocatedAt t n = e.locatedAt t n := by
  simp [orLocatedAt, h]

theorem orLocatedAt_of_some {e : Error} {l : Location} (h : e.location = some l) (t : String)
    (n : Nat) : e.orLocatedAt t n = e := by
  simp [orLocatedAt, h]

@[simp] theorem inlineMessage_locatedAt (e : Error) (t : String) (n : Nat) :
    (e.locatedAt t n).inlineMessage = e.inlineMessage := rfl

end Error

/-- Two steps one after the other succeed if the first one does, and the second one does with its
result. -/
theorem bind_eq_ok {α β : Type} {first : Except Error α} {second : α → Except Error β} {b : β} :
    first >>= second = .ok b ↔ ∃ a, first = .ok a ∧ second a = .ok b := by
  cases first with
  | error e => exact ⟨nofun, nofun⟩
  | ok a => exact ⟨fun h => ⟨a, rfl, h⟩, fun ⟨_, rfl, h⟩ => h⟩

/-- Two steps one after the other fail if the first one does, or the second one with its result. -/
theorem bind_eq_error {α β : Type} {first : Except Error α} {second : α → Except Error β}
    {e : Error} : first >>= second = .error e ↔
      first = .error e ∨ ∃ a, first = .ok a ∧ second a = .error e := by
  cases first with
  | error e' =>
    constructor
    · rintro ⟨⟩
      exact Or.inl rfl
    · rintro (⟨⟨⟩⟩ | ⟨a, ⟨⟩, -⟩)
      rfl
  | ok a =>
    constructor
    · intro failed
      exact Or.inr ⟨a, rfl, failed⟩
    · rintro (⟨⟨⟩⟩ | ⟨a, ⟨⟩, failed⟩)
      exact failed

theorem map_eq_error {α β : Type} {f : α → β} {r : Except Error α} {e : Error} :
    r.map f = .error e ↔ r = .error e := by
  cases r <;> simp [Except.map]

end Stencil
