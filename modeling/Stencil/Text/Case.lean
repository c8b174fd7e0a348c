import Stencil.Text.CaseTable

/-!
# Upper and lower case

Case mapping of whole texts.  A character maps to one or more characters, whatever stands around
it, with one exception: the capital sigma at the end of a word becomes the final small sigma.
-/

namespace Stencil.Text

/-- The character that a run maps `n` to, if the run holds `n`. -/
def CaseRun.apply? (r : CaseRun) (n : Nat) : Option Char :=
  if r.first ≤ n ∧ n ≤ r.last ∧ (n - r.first) % r.step = 0 then
    some (Char.ofNat ((n : Int) + r.shift).toNat)
  else none

/-- The image of a code point under a table of runs and special cases. -/
def mapCase (specials : List (Nat × List Nat)) (runs : List CaseRun) (c : Char) : List Char :=
  match specials.lookup c.toNat with
  | some image => image.map Char.ofNat
  | none => [(runs.findSome? fun r => r.apply? c.toNat).getD c]

/-- The upper case of a character. -/
def upperChar (c : Char) : List Char :=
  if c.toNat < 0x80 then [c.toUpper] else mapCase upperSpecials upperRuns c

/-- The lower case of a character that is not looked at in a text. -/
def lowerChar (c : Char) : List Char :=
  if c.toNat < 0x80 then [c.toLower] else mapCase lowerSpecials lowerRuns c

/-- Whether the first character that is not skipped has case. -/
def casedFirst (s : List Char) : Bool :=
  match s.dropWhile caseIgnorableRanges.holds with
  | [] => false
  | c :: _ => casedRanges.holds c

/-- Lower case with the characters already read, the last of them first. -/
def lowerAfter (before : List Char) : List Char → List Char
  | [] => []
  | c :: s =>
    (if c = 'Σ' then [if casedFirst before && !casedFirst s then 'ς' else 'σ'] else lowerChar c) ++
      lowerAfter (c :: before) s

def upper (s : List Char) : List Char := s.flatMap upperChar

def lower (s : List Char) : List Char := lowerAfter [] s

/-- The text with its first character in upper case and the others, each by itself, in lower
case. -/
def capitalize : List Char → List Char
  | [] => []
  | c :: s => upperChar c ++ s.flatMap lowerChar

end Stencil.Text
