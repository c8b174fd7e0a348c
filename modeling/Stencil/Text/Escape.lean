/-!
# Escaping for markup and for script literals

Two escapes of text.  `markup` replaces the six characters that have a meaning in HTML by entities,
one character at a time.  `script` makes a text safe inside a string literal of JavaScript: line
and paragraph separators, NUL, tabs and line ends become escape sequences, quotes, backslashes and
backticks take a backslash, and `</` cannot occur.
-/

namespace Stencil.Text.Escape

/-- The entity of a character that has a meaning in HTML, and any other character itself. -/
def entity (c : Char) : List Char :=
  if c = '<' then ['&', 'l', 't', ';']
  else if c = '>' then ['&', 'g', 't', ';']
  else if c = '&' then ['&', 'a', 'm', 'p', ';']
  else if c = '"' then ['&', 'q', 'u', 'o', 't', ';']
  else if c = '\'' then ['&', '#', 'x', '2', '7', ';']
  else if c = '/' then ['&', '#', 'x', '2', 'f', ';']
  else [c]

/-- The text with every character replaced by its entity. -/
def markup (s : List Char) : List Char := s.flatMap entity

/-- The escape of a character that needs no look at the next one. -/
def scriptChar (c : Char) : List Char :=
  if c = '\u2028' then ['\\', 'u', '2', '0', '2', '8']
  else if c = '\u2029' then ['\\', 'u', '2', '0', '2', '9']
  else if c = '\x00' then ['\\', 'u', '0', '0', '0', '0']
  else if c = '\t' then ['\\', 't']
  else if c = '\n' then ['\\', 'n']
  else if c = '\r' then ['\\', 'n']
  else if c = '"' then ['\\', '"']
  else if c = '\'' then ['\\', '\'']
  else if c = '\\' then ['\\', '\\']
  else if c = '\x60' then ['\\', '\x60']
  else [c]

/-- The text as it stands in a script literal.  A carriage return and the line feed after it are
one line end, and the slash of `</` takes a backslash. -/
def script : List Char → List Char
  | [] => []
  | '\r' :: '\n' :: s => '\\' :: 'n' :: script s
  | '<' :: '/' :: s => '<' :: '\\' :: '/' :: script s
  | c :: s => scriptChar c ++ script s

@[simp] theorem markup_nil : markup [] = [] := rfl

@[simp] theorem markup_cons (c : Char) (s : List Char) : markup (c :: s) = entity c ++ markup s :=
  rfl

theorem markup_append (s t : List Char) : markup (s ++ t) = markup s ++ markup t := by
  simp [markup]

@[simp] theorem script_nil : script [] = [] := rfl

end Stencil.Text.Escape
