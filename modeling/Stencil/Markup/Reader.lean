import Stencil.Markup.Lexeme

/-!
# Reading markup

A reader goes through markup from left to right.  Its operations take what they recognise from the
front; an operation that fails leaves the reader where it stopped, and it can be used further.
Expressions may nest; the reader counts the levels it has entered and refuses one beyond the limit.
-/

namespace Stencil

/-- The state of reading: the markup that is left, and the levels of expressions entered. -/
structure Reader where
  rest : List Char
  depth : Nat

/-- An operation of a reader.  The reader goes on from the state that the operation leaves, also
when the operation fails. -/
abbrev Read (α : Type) := ExceptT Error (StateM Reader) α

namespace Reader

/-- A reader at the start of some markup. -/
def ofMarkup (markup : String) : Reader := ⟨markup.toList, 0⟩

def maxDepth : Nat := 150

/-- The markup that is left, from its first character that is not blank. -/
def remaining (r : Reader) : List Char := Lexeme.skipBlanks r.rest

def atEnd (r : Reader) : Bool := r.remaining.isEmpty

def run {α : Type} (op : Read α) (r : Reader) : Except Error α × Reader := op r

/-! ## Tokens and names -/

/-- The markup that is left, with its blanks. -/
def getRest : Read (List Char) := do return (← get).rest

def goTo (rest : List Char) : Read Unit := modify fun r => { r with rest := rest }

def refuse {α : Type} (cause : Cause) : Read α := throw (cause : Error)

/-- Takes a token, if it comes next. -/
def eat (token : String) : Read Bool := do
  match Lexeme.token? token.toList (← getRest) with
  | some rest => goTo rest; return true
  | none => return false

/-- Takes a token that has to come next. -/
def expect (token : String) : Read Unit := do
  if ← eat token then return ()
  else refuse (.expectedToken token (Lexeme.next? (← getRest)))

/-- Takes a name, if it comes next and is the given word. -/
def eatKeyword (word : String) : Read Bool := do
  match Lexeme.name? (← getRest) with
  | some (name, rest) => if name = word then goTo rest; return true else return false
  | none => return false

def name : Read String := do
  match Lexeme.name? (← getRest) with
  | some (name, rest) => goTo rest; return name
  | none => refuse (.expectedName (Lexeme.next? (← getRest)))

/-- Fails unless only blanks are left. -/
def expectEnd : Read Unit := do
  if (← get).atEnd then return ()
  else refuse (.trailingMarkup (Lexeme.next? (← getRest)))

/-! ## Repetition -/

/-- Repeats a step until it answers nothing, at most once for each character of a text. -/
def many {α : Type} (step : Read (Option α)) : List Char → Read (List α)
  | [] => return []
  | _ :: s => do
    match ← step with
    | none => return []
    | some a => return a :: (← many step s)

/-- Repeats a step, which takes at least one character, until it answers nothing. -/
def repeated {α : Type} (step : Read (Option α)) : Read (List α) := do
  many step (← getRest)

/-! ## Expressions -/

/-- The expression that a word stands for, if it is not a name of a variable. -/
def word? (name : String) : Option Expr :=
  if name = "true" then some (.const (.bool true))
  else if name = "false" then some (.const (.bool false))
  else if name = "nil" ∨ name = "null" then some (.const .none)
  else if name = "empty" ∨ name = "blank" then some .empty
  else none

/-- One segment of a path, right behind the one before.  Two points are no segment. -/
def segment? (sub : Read Expr) : Read (Option (Segment Expr)) := do
  match ← getRest with
  | '.' :: '.' :: _ => return none
  | '.' :: rest =>
    goTo rest
    return some (.attr (← name))
  | '[' :: rest =>
    goTo rest
    let key ← sub
    expect "]"
    return some (.index key)
  | _ => return none

/-- The bounds of a range, behind its opening parenthesis. -/
def rangeBounds (sub : Read Expr) : Read Expr := do
  let first ← sub
  expect ".."
  let last ← sub
  expect ")"
  return .range first last

def wordOrPath (sub : Read Expr) : Read Expr := do
  match Lexeme.name? (← getRest) with
  | none => refuse (.expectedValue (Lexeme.next? (← getRest)))
  | some (root, rest) =>
    goTo rest
    match word? root with
    | some e => return e
    | none => return .path root (← repeated (segment? sub))

/-- An expression whose parts are read with `sub`. -/
def primary (sub : Read Expr) : Read Expr := do
  match Lexeme.quoted? (← getRest) with
  | some (s, rest) =>
    goTo rest
    return .const (.string s)
  | none =>
    match Lexeme.number? (← getRest) with
    | some (n, rest) =>
      goTo rest
      return .const n
    | none => if ← eat "(" then rangeBounds sub else wordOrPath sub

/-- An expression that may nest `levels` deep.  The level that is refused stays entered. -/
def exprWithin : Nat → Read Expr
  | 0 => do
    modify fun r => { r with depth := r.depth + 1 }
    refuse .expressionTooDeep
  | levels + 1 => primary (exprWithin levels)

def expr : Read Expr := do
  exprWithin (maxDepth - (← get).depth)

/-! ## Conditions, filters and variables -/

def condition : Read Condition := do
  let left ← expr
  match Lexeme.comparison? (← getRest) with
  | none => return .value left
  | some (op, rest) =>
    goTo rest
    return .compare left op (← expr)

/-- A connective and the condition behind it. -/
def linked? : Read (Option (Connective × Condition)) := do
  match Lexeme.connective? (← getRest) with
  | none => return none
  | some (op, rest) =>
    goTo rest
    return some (op, ← condition)

def chain : Read ConditionChain := do
  let first ← condition
  return ⟨first, ← repeated linked?⟩

/-- A comma and the expression behind it. -/
def nextArg? : Read (Option Expr) := do
  if ← eat "," then return some (← expr) else return none

/-- The arguments of a filter; there may be none. -/
def args : Read (List Expr) := do
  if ← eat ":" then
    let first ← expr
    return first :: (← repeated nextArg?)
  else return []

/-- A pipe and the filter behind it. -/
def filter? : Read (Option FilterCall) := do
  if ← eat "|" then
    match Lexeme.filterName? (← getRest) with
    | none => refuse .missingFilterName
    | some (name, rest) =>
      goTo rest
      return some ⟨name, ← args⟩
  else return none

def filters : Read (List FilterCall) := repeated filter?

/-- What a variable is told from by its first word: up to a pipe or a blank. -/
def variableHead (s : List Char) : List Char :=
  s.takeWhile fun c => c != '|' && !Text.isMarkupBlank c

/-- An expression and the filters behind it.  Unless it begins with a quote, its first word holds
no percent sign. -/
def readVariable : Read Variable := do
  let body := (← get).remaining
  match body.head? with
  | some '|' => refuse .missingFilterInput
  | start =>
    let head := variableHead body
    if !start.any Lexeme.isQuote && head.contains '%' then
      refuse (.badVariableName (String.ofList head))
    else
      let e ← expr
      return ⟨e, ← filters⟩

/-! ## Whole markup -/

/-- Reads markup from its start to its end. -/
def readAll {α : Type} (op : Read α) (markup : String) : Except Error α :=
  (run (do let a ← op; expectEnd; return a) (ofMarkup markup)).1

end Reader

def Expr.parse (markup : String) : Except Error Expr := Reader.readAll Reader.expr markup

def ConditionChain.parse (markup : String) : Except Error ConditionChain :=
  Reader.readAll Reader.chain markup

def Variable.parse (markup : String) : Except Error Variable :=
  Reader.readAll Reader.readVariable markup

end Stencil
