import Stencil.Markup.Basic
import Stencil.Number.Numeral
import Stencil.Text.Blank
import Stencil.Text.Search

/-!
# Lexemes of markup

The smallest pieces of markup.  Each function looks at the text from its start, passing over blanks
where blanks may stand, and answers what it read together with the text that is left; where the
text does not begin with such a piece it answers nothing.
-/

namespace Stencil.Lexeme

open Text (isMarkupBlank)

/-- The text from its first character that is not blank. -/
def skipBlanks (s : List Char) : List Char := s.dropWhile isMarkupBlank

/-- The text without the blanks around it. -/
def trimBlanks (s : List Char) : List Char := Text.trim isMarkupBlank s

/-- The characters that names begin with. -/
def isNameStart (c : Char) : Bool := c.isAlpha || c == '_'

/-- The characters that names go on with. -/
def isNameRest (c : Char) : Bool := c.isAlphanum || c == '_' || c == '-'

/-- A name: a letter or underscore, then letters, digits, underscores and hyphens, and possibly a
question mark. -/
def name? (s : List Char) : Option (String × List Char) :=
  match skipBlanks s with
  | [] => none
  | c :: t =>
    if isNameStart c then
      let body := c :: t.takeWhile isNameRest
      match t.dropWhile isNameRest with
      | '?' :: rest => some (String.ofList (body ++ ['?']), rest)
      | rest => some (String.ofList body, rest)
    else none

/-- The characters that end the name of a filter. -/
def endsFilterName (c : Char) : Bool :=
  c == ':' || c == '|' || c == '\x7d' || isMarkupBlank c

/-- The name of a filter: everything up to a colon, a pipe, a closing brace or a blank. -/
def filterName? (s : List Char) : Option (String × List Char) :=
  let t := skipBlanks s
  let name := t.takeWhile (!endsFilterName ·)
  if name.isEmpty then none
  else some (String.ofList name, t.dropWhile (!endsFilterName ·))

/-- The quotes that a string may stand in. -/
def isQuote (c : Char) : Bool := c == '"' || c == '\''

/-- A string in quotes.  It holds neither its quote nor a comma. -/
def quoted? (s : List Char) : Option (String × List Char) :=
  match skipBlanks s with
  | [] => none
  | q :: t =>
    if isQuote q then
      match t.dropWhile (fun c => c != q && c != ',') with
      | [] => none
      | c :: rest =>
        if c = q then some (String.ofList (t.takeWhile fun c => c != q && c != ','), rest)
        else none
    else none

/-- The value that a numeral stands for: an integer if there is no point and it fits in 64 bits. -/
def numeralValue? (text : List Char) (fractional : Bool) : Option Value :=
  let float := (Numeral.readBinary64? text).map Value.float
  if fractional then float
  else match Numeral.readInt64? text with
    | some n => some (.int n)
    | none => float

/-- A number: digits, possibly behind a minus and possibly followed by a point and more digits.  No
name may begin right behind it. -/
def number? (s : List Char) : Option (Value × List Char) :=
  let (sign, t) := match skipBlanks s with
    | '-' :: t => (['-'], t)
    | t => ([], t)
  let whole := t.takeWhile Numeral.isDigit
  let rest := t.dropWhile Numeral.isDigit
  let (fraction, rest) := match rest with
    | '.' :: d :: u =>
      if Numeral.isDigit d then
        ('.' :: (d :: u).takeWhile Numeral.isDigit, (d :: u).dropWhile Numeral.isDigit)
      else ([], rest)
    | _ => ([], rest)
  if whole.isEmpty || (rest.head?.any isNameStart) then none
  else (numeralValue? (sign ++ whole ++ fraction) !fraction.isEmpty).map (·, rest)

/-- A word that is not merely the beginning of a longer name, without blanks before it. -/
def keyword? (word : List Char) (s : List Char) : Option (List Char) :=
  match Text.dropStart? word s with
  | some rest => if rest.head?.any (fun c => isNameRest c || c == '?') then none else some rest
  | none => none

def token? (token : List Char) (s : List Char) : Option (List Char) :=
  Text.dropStart? token (skipBlanks s)

/-- The signs of comparisons.  A sign stands before its own beginnings. -/
def comparisonSigns : List (List Char × Comparison) :=
  [(['=', '='], .eq), (['>', '='], .ge), (['<', '='], .le), (['!', '='], .ne), (['<', '>'], .ne),
    (['>'], .gt), (['<'], .lt)]

def comparison? (s : List Char) : Option (Comparison × List Char) :=
  let t := skipBlanks s
  match comparisonSigns.findSome? fun e => (Text.dropStart? e.1 t).map (e.2, ·) with
  | some found => some found
  | none => (keyword? "contains".toList t).map (Comparison.contains, ·)

/-- A connective; a comma is an `or`. -/
def connective? (s : List Char) : Option (Connective × List Char) :=
  match skipBlanks s with
  | ',' :: rest => some (.or, rest)
  | t =>
    match keyword? "and".toList t with
    | some rest => some (.and, rest)
    | none => (keyword? "or".toList t).map (Connective.or, ·)

/-- The first character that is not blank. -/
def next? (s : List Char) : Option Char := (skipBlanks s).head?

/-- Whether a text is a name and nothing else. -/
def isName (s : String) : Bool := name? s.toList == some (s, [])

end Stencil.Lexeme
