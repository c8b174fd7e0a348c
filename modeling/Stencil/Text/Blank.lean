/-!
# Blank characters

Two notions of white space.  Template markup knows four blank characters; filters that strip or
split text use the `White_Space` property of the Unicode standard.  Both are predicates on
characters, and trimming and splitting take the predicate as an argument.
-/

namespace Stencil.Text

/-- The blank characters of template markup: space, tab, carriage return and line feed. -/
def isMarkupBlank (c : Char) : Bool :=
  c == ' ' || c == '\t' || c == '\r' || c == '\n'

/-- The `White_Space` property of the Unicode standard. -/
def isBlank (c : Char) : Bool :=
  let n := c.toNat
  (0x9 ≤ n && n ≤ 0xD) || n == 0x20 || n == 0x85 || n == 0xA0 || n == 0x1680 ||
    (0x2000 ≤ n && n ≤ 0x200A) || n == 0x2028 || n == 0x2029 || n == 0x202F || n == 0x205F ||
    n == 0x3000

/-- The text without the characters at its start that satisfy `p`. -/
def trimStart (p : Char → Bool) (s : List Char) : List Char := s.dropWhile p

/-- The text without the characters at its end that satisfy `p`. -/
def trimEnd (p : Char → Bool) (s : List Char) : List Char := (s.reverse.dropWhile p).reverse

/-- The text without the characters at both ends that satisfy `p`. -/
def trim (p : Char → Bool) (s : List Char) : List Char := trimEnd p (trimStart p s)

/-- The maximal runs of characters that do not satisfy `p`, in order. -/
def words (p : Char → Bool) : List Char → List (List Char)
  | [] => []
  | c :: s =>
    if p c then words p s
    else match s with
      | [] => [[c]]
      | d :: _ =>
        if p d then [c] :: words p s
        else match words p s with
          | [] => [[c]]
          | w :: ws => (c :: w) :: ws

/-! ## What trimming and splitting leave -/

@[simp] theorem trimStart_nil (p : Char → Bool) : trimStart p [] = [] := rfl

@[simp] theorem trimEnd_nil (p : Char → Bool) : trimEnd p [] = [] := rfl

@[simp] theorem trim_nil (p : Char → Bool) : trim p [] = [] := rfl

theorem words_of_blank {p : Char → Bool} {c : Char} (h : p c = true) (s : List Char) :
    words p (c :: s) = words p s := by
  simp [words, h]

/-- Every blank character of markup is a blank character. -/
theorem isBlank_of_isMarkupBlank {c : Char} (h : isMarkupBlank c = true) : isBlank c = true := by
  simp only [isMarkupBlank, Bool.or_eq_true, beq_iff_eq] at h
  rcases h with ((rfl | rfl) | rfl) | rfl <;> decide

end Stencil.Text
