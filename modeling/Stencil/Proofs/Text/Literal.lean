import Stencil.Proofs.Text.Script
import Stencil.Proofs.Text.Stretches

/-!
# What a script literal stands for

A reader of literals (`unescape?`) knows a few escapes and refuses all others.  Reading what
`script` writes gives the text back with line feeds for its line ends (`unescape?_script`): nothing
else is lost, whatever characters stand next to each other.

`script` itself says what is written character by character.  Copying in stretches with the rule
for literals writes the same (`copied_scriptRule`).
-/

namespace Stencil.Text

/-- The text with a line feed for every carriage return, and for a carriage return with a line feed
behind it. -/
def unixLineEnds (s : List Char) : List Char :=
  replace ['\r'] ['\n'] (replace ['\r', '\n'] ['\n'] s)

theorem unixLineEnds_crlf (s : List Char) :
    unixLineEnds ('\r' :: '\n' :: s) = '\n' :: unixLineEnds s := by
  have pair : replace ['\r', '\n'] ['\n'] ('\r' :: '\n' :: s)
      = '\n' :: replace ['\r', '\n'] ['\n'] s :=
    replace_append (List.cons_ne_nil _ _) ['\n'] s
  have feed : ¬ ['\r'] <+: '\n' :: replace ['\r', '\n'] ['\n'] s := by
    rw [List.cons_prefix_cons]
    exact fun same => absurd same.1 (by decide)
  rw [unixLineEnds, pair, replace_cons (List.cons_ne_nil _ _) ['\n'] feed, unixLineEnds]

theorem unixLineEnds_cons {c : Char} {s : List Char}
    (single : ¬ ['\r', '\n'] <+: c :: s) :
    unixLineEnds (c :: s) = (if c = '\r' then '\n' else c) :: unixLineEnds s := by
  rw [unixLineEnds, replace_cons (List.cons_ne_nil _ _) ['\n'] single, unixLineEnds]
  by_cases carriage : c = '\r'
  · rw [if_pos carriage, carriage]
    exact replace_append (List.cons_ne_nil _ _) ['\n'] _
  · have other : ¬ ['\r'] <+: c :: replace ['\r', '\n'] ['\n'] s := by
      rw [List.cons_prefix_cons]
      exact fun same => carriage same.1.symm
    rw [if_neg carriage, replace_cons (List.cons_ne_nil _ _) ['\n'] other]

theorem unixLineEnds_plain {c : Char} (plain : c ≠ '\r') (s : List Char) :
    unixLineEnds (c :: s) = c :: unixLineEnds s := by
  have single : ¬ ['\r', '\n'] <+: c :: s := by
    rw [List.cons_prefix_cons]
    exact fun same => plain same.1.symm
  rw [unixLineEnds_cons single, if_neg plain]

namespace Escape

/-- The character with a code of four digits, among those that have such an escape. -/
def codeEscape? (digits : List Char) : Option Char :=
  if digits = ['2', '0', '2', '8'] then some '\u2028'
  else if digits = ['2', '0', '2', '9'] then some '\u2029'
  else if digits = ['0', '0', '0', '0'] then some '\x00'
  else none

/-- What a character stands for behind a backslash. -/
def shortEscape? (c : Char) : Option Char :=
  if c = 't' then some '\t'
  else if c = 'n' then some '\n'
  else if c ∈ ['"', '\'', '\\', '\x60', '/'] then some c
  else none

/-- The text that a literal stands for, if all of its escapes are known.  It is read from the left,
and every character that is not in an escape stands for itself. -/
def unescape? : List Char → Option (List Char)
  | [] => some []
  | '\\' :: 'u' :: a :: b :: c :: d :: s => do
    let first ← codeEscape? [a, b, c, d]
    let others ← unescape? s
    return first :: others
  | '\\' :: c :: s => do
    let first ← shortEscape? c
    let others ← unescape? s
    return first :: others
  | ['\\'] => none
  | c :: s => do
    let others ← unescape? s
    return c :: others

theorem unescape?_plain {c : Char} (plain : c ≠ '\\') {s t : List Char}
    (others : unescape? s = some t) : unescape? (c :: s) = some (c :: t) := by
  rw [unescape?, others]
  · rfl
  · rintro _ _ _ _ _ rfl _
    exact plain rfl
  · rintro _ _ rfl _
    exact plain rfl
  · rintro rfl _
    exact plain rfl

/-- A character comes back from its escape, unless it ends a line. -/
theorem unescape?_scriptChar (c : Char) {s t : List Char} (others : unescape? s = some t) :
    unescape? (scriptChar c ++ s) = some ((if c = '\r' then '\n' else c) :: t) := by
  by_cases special : c ∈ escapedChars
  · simp only [escapedChars, controls, lineEnds, literalQuotes, List.cons_append, List.nil_append,
      List.mem_cons, List.not_mem_nil, or_false] at special
    rcases special with rfl | rfl | rfl | rfl | rfl | rfl | rfl | rfl | rfl | rfl
    all_goals
      change (unescape? s).bind _ = _
      rw [others]
      rfl
  · have carriage : c ≠ '\r' := by
      rintro rfl
      exact special (by decide)
    have backslash : c ≠ '\\' := by
      rintro rfl
      exact special (by decide)
    rw [scriptChar_plain special, if_neg carriage]
    exact unescape?_plain backslash others

theorem unescape?_script (s : List Char) : unescape? (script s) = some (unixLineEnds s) := by
  fun_induction script s with
  | case1 => rfl
  | case2 s ih =>
    rw [unixLineEnds_crlf]
    change (unescape? (script s)).bind _ = _
    rw [ih]
    rfl
  | case3 s ih =>
    rw [unixLineEnds_plain (by decide), unixLineEnds_plain (by decide)]
    refine unescape?_plain (by decide) ?_
    change (unescape? (script s)).bind _ = _
    rw [ih]
    rfl
  | case4 c s noLineEnd noEndTag ih =>
    have single : ¬ ['\r', '\n'] <+: c :: s := by
      rintro ⟨rest, same⟩
      obtain ⟨rfl, behind⟩ := List.cons.inj same
      exact noLineEnd rest rfl behind.symm
    rw [unixLineEnds_cons single]
    exact unescape?_scriptChar c ih

/-- The rule of `script`: at a carriage return and at `<` it looks at the next character. -/
def scriptRule : Rule
  | '\r', '\n' :: _ => some ⟨['\\', 'n'], 2, 1⟩
  | '<', '/' :: _ => some ⟨['<', '\\', '/'], 2, 1⟩
  | c, _ => if c ∈ escapedChars then some ⟨scriptChar c, c.utf8Size, 0⟩ else none

theorem exact_scriptRule : scriptRule.Exact := by
  intro c rest r
  fun_cases scriptRule c rest with
  | case1 rest => exact fun replaced => Option.some.inj replaced ▸ rfl
  | case2 rest => exact fun replaced => Option.some.inj replaced ▸ rfl
  | case3 noLineEnd noEndTag special => exact fun replaced => Option.some.inj replaced ▸ rfl
  | case4 noLineEnd noEndTag plain =>
    exact fun replaced => absurd replaced (Option.some_ne_none r).symm

theorem rewrite_scriptRule (s : List Char) : scriptRule.rewrite s = script s := by
  fun_induction script s with
  | case1 => rw [Rule.rewrite]
  | case2 s ih =>
    rw [Rule.rewrite]
    exact congrArg (['\\', 'n'] ++ ·) ih
  | case3 s ih =>
    rw [Rule.rewrite]
    exact congrArg (['<', '\\', '/'] ++ ·) ih
  | case4 c s noLineEnd noEndTag ih =>
    rw [Rule.rewrite, scriptRule]
    · by_cases special : c ∈ escapedChars
      · rw [if_pos special]
        exact congrArg (scriptChar c ++ ·) ih
      · rw [if_neg special, scriptChar_plain special]
        exact congrArg (c :: ·) ih
    · exact noLineEnd
    · exact noEndTag

/-- Copying in stretches is one way to write it. -/
theorem copied_scriptRule (s : List Char) : scriptRule.copied s = some (script s) := by
  rw [Rule.copied_eq_rewrite exact_scriptRule, rewrite_scriptRule]

/-- Escaping for a literal is safe, and it loses nothing but the difference between line ends. -/
theorem script_reads_back (s : List Char) :
    scriptRule.copied s = some (script s) ∧
      unescape? (script s) = some (unixLineEnds s) ∧ Inert (script s) :=
  ⟨copied_scriptRule s, unescape?_script s, (pieces_script s).inert⟩

end Escape

end Stencil.Text
