import Stencil.Markup.Lexeme
import Stencil.Text.Search

/-!
# Tokens of a document

A document is text with variables in double braces and tags between a brace and a percent sign.
`scan` cuts a document into tokens, each with the span it takes up.  Tokens touch: each begins
where the one before ends.  Scanning stops at a delimiter that is not closed and at a tag without a
name; the tokens before stay.
-/

namespace Stencil

/-- A place in a document: the line, counted from 1, and the characters before it in the line. -/
structure Position where
  line : Nat
  column : Nat
  deriving DecidableEq

namespace Position

def start : Position := ⟨1, 0⟩

def next (p : Position) (c : Char) : Position :=
  if c = '\n' then ⟨p.line + 1, 0⟩ else ⟨p.line, p.column + 1⟩

def advance (p : Position) (s : List Char) : Position := s.foldl next p

@[simp] theorem advance_nil (p : Position) : p.advance [] = p := rfl

@[simp] theorem advance_cons (p : Position) (c : Char) (s : List Char) :
    p.advance (c :: s) = (p.next c).advance s := rfl

theorem advance_append (p : Position) (s t : List Char) :
    p.advance (s ++ t) = (p.advance s).advance t := by
  simp [advance]

end Position

/-- The part of a document from one place up to another. -/
structure Span where
  start : Position
  stop : Position
  deriving DecidableEq

/-- A span as it stands behind what it is the span of. -/
def Span.text (s : Span) : String :=
  " @ " ++ toString s.start.line ++ ":" ++ toString s.start.column ++ "-" ++
    toString s.stop.line ++ ":" ++ toString s.stop.column

/-- A token of a document. -/
inductive Token where
  /-- Text that is written as it stands. -/
  | text (s : String)
  /-- The markup of a variable, without the blanks around it. -/
  | «variable» (markup : String)
  /-- The name of a tag and its markup, without the blanks around it. -/
  | tag (name markup : String)
  deriving DecidableEq

def Token.title : Token → String
  | .text _ => "template-data"
  | .variable _ => "variable"
  | .tag name _ => "tag `" ++ name ++ "`"

/-- The tokens of a document with their spans, and why scanning stopped before the end, if it did:
the cause and the line. -/
structure Scan where
  tokens : List (Token × Span)
  failure : Option (Cause × Nat)

namespace Scan

def finished : Scan := ⟨[], none⟩

def stopped (cause : Cause) (line : Nat) : Scan := ⟨[], some (cause, line)⟩

/-- The scan with one more token in front. -/
def cons (token : Token) (span : Span) (s : Scan) : Scan := { s with tokens := (token, span) :: s.tokens }

/-- The error that scanning stopped with, in a template of the given name. -/
def error? (s : Scan) (template : String) : Option Error :=
  s.failure.map fun f => (f.1 : Error).locatedAt template f.2

end Scan

namespace Token

/-- The text up to the next opening delimiter, and what is left from there on. -/
def plainText : List Char → List Char × List Char
  | [] => ([], [])
  | '\x7b' :: '\x7b' :: s => ([], '\x7b' :: '\x7b' :: s)
  | '\x7b' :: '%' :: s => ([], '\x7b' :: '%' :: s)
  | c :: s =>
    let (lead, rest) := plainText s
    (c :: lead, rest)

def variableOpen : List Char := ['\x7b', '\x7b']
def variableClose : List Char := ['\x7d', '\x7d']
def tagOpen : List Char := ['\x7b', '%']
def tagClose : List Char := ['%', '\x7d']

theorem length_cut? {needle s before rest : List Char} (h : Text.cut? needle s = some (before, rest)) :
    rest.length ≤ s.length := by
  have := Text.cut?_eq_some h
  subst this
  simp only [List.length_append]
  omega

theorem plainText_append (s : List Char) : (plainText s).1 ++ (plainText s).2 = s := by
  fun_induction plainText s <;> simp_all

theorem length_plainText (s : List Char) : (plainText s).2.length ≤ s.length := by
  have := congrArg List.length (plainText_append s)
  simp only [List.length_append] at this
  omega

/-- The tokens of what is left of a document, from a place on. -/
def scanFrom (p : Position) : List Char → Scan
  | [] => Scan.finished
  | '\x7b' :: '\x7b' :: s =>
    match h : Text.cut? variableClose s with
    | none => Scan.stopped .unclosedVariable p.line
    | some (body, rest) =>
      have := length_cut? h
      let stop := p.advance (variableOpen ++ body ++ variableClose)
      (scanFrom stop rest).cons (.variable (String.ofList (Lexeme.trimBlanks body))) ⟨p, stop⟩
  | '\x7b' :: '%' :: s =>
    match h : Text.cut? tagClose s with
    | none => Scan.stopped .unclosedTag p.line
    | some (inner, rest) =>
      have := length_cut? h
      let stop := p.advance (tagOpen ++ inner ++ tagClose)
      match Lexeme.name? inner with
      | none => Scan.stopped .unnamedTag stop.line
      | some (name, markup) =>
        (scanFrom stop rest).cons (.tag name (String.ofList (Lexeme.trimBlanks markup))) ⟨p, stop⟩
  | c :: s =>
    have := length_plainText s
    let lead := c :: (plainText s).1
    let stop := p.advance lead
    (scanFrom stop (plainText s).2).cons (.text (String.ofList lead)) ⟨p, stop⟩
  termination_by s => s.length
  decreasing_by all_goals (simp only [List.length_cons]; omega)

/-- The tokens of a document.  An empty document is one empty text. -/
def scan (source : String) : Scan :=
  if source.isEmpty then Scan.finished.cons (.text "") ⟨.start, .start⟩
  else scanFrom .start source.toList

end Token

end Stencil
