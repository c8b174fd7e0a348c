import Stencil.Text.Escape
import Stencil.Text.Search

/-!
# Text inside of a script literal

What makes a text harmless between the quotes of a literal (`Inert`): nothing in it ends a line or a
script, and whatever could end the literal stands behind a backslash that escapes it.  Text is
harmless if it can be cut into plain characters and escapes (`Pieces`), and that is how `script`
writes.
-/

namespace Stencil.Text

/-- The characters that end lines. -/
def lineEnds : List Char := ['\n', '\r', '\u2028', '\u2029']

/-- The characters that do not occur in what is escaped: NUL, the tab and the ends of lines. -/
def controls : List Char := '\x00' :: '\t' :: lineEnds

/-- The characters that begin and end literals. -/
def literalQuotes : List Char := ['"', '\'', '\x60']

/-- The characters that never stand for themselves. -/
def escapedChars : List Char := controls ++ '\\' :: literalQuotes

/-- Whether a text, read from the left, ends in a backslash that escapes what comes next. -/
def escapeOpen : List Char → Bool
  | [] => false
  | ['\\'] => true
  | '\\' :: _ :: s => escapeOpen s
  | _ :: s => escapeOpen s

/-- What comes behind a literal that has begun with a quote, if it ends before its line does. -/
def literalRest? (quote : Char) : List Char → Option (List Char)
  | [] => none
  | '\\' :: _ :: s => literalRest? quote s
  | c :: s =>
    if c = quote then some s else if c ∈ lineEnds then none else literalRest? quote s

/-- A text that is harmless inside of a script literal. -/
structure Inert (s : List Char) : Prop where
  noControls : ∀ c ∈ controls, c ∉ s
  noEndTag : ¬ ['<', '/'] <:+: s
  /-- Every quote in it is escaped. -/
  quotesEscaped : ∀ before quote behind, s = before ++ quote :: behind → quote ∈ literalQuotes →
    escapeOpen before = true
  /-- A literal that holds it goes on behind it. -/
  passes : ∀ quote ∈ literalQuotes, ∀ behind,
    literalRest? quote (s ++ behind) = literalRest? quote behind

/-- A text of plain characters and escapes. -/
inductive Pieces : List Char → Prop
  | nil : Pieces []
  | plain {c : Char} {s : List Char} (allowed : c ∉ escapedChars)
      (apart : c = '<' → s.head? ≠ some '/') (others : Pieces s) : Pieces (c :: s)
  | escape {c : Char} {s : List Char} (allowed : c ∉ '<' :: controls) (others : Pieces s) :
    Pieces ('\\' :: c :: s)

namespace Pieces

theorem of_plain {s : List Char} (plain : ∀ c ∈ s, c ∉ '<' :: escapedChars) : Pieces s := by
  induction s with
  | nil => exact .nil
  | cons c s ih =>
    obtain ⟨here, others⟩ := List.forall_mem_cons.mp plain
    rw [List.mem_cons, not_or] at here
    exact .plain here.2 (absurd · here.1) (ih others)

theorem noControls {s : List Char} (pieces : Pieces s) : ∀ c ∈ controls, c ∉ s := by
  intro c control
  induction pieces with
  | nil => exact List.not_mem_nil
  | plain allowed apart others ih =>
    rw [List.mem_cons, not_or]
    refine ⟨?_, ih⟩
    rintro rfl
    exact allowed (List.mem_append_left _ control)
  | escape allowed others ih =>
    rw [List.mem_cons, List.mem_cons, not_or, not_or]
    refine ⟨?_, ?_, ih⟩
    · rintro rfl
      exact absurd control (by decide)
    · rintro rfl
      exact allowed (List.mem_cons_of_mem _ control)

theorem noEndTag {s : List Char} (pieces : Pieces s) : ¬ ['<', '/'] <:+: s := by
  induction pieces with
  | nil => decide
  | plain allowed apart others ih =>
    rw [List.infix_cons_iff, not_or]
    refine ⟨?_, ih⟩
    rintro ⟨t, same⟩
    obtain ⟨rfl, rest⟩ := List.cons.inj same
    exact apart rfl (rest ▸ rfl)
  | escape allowed others ih =>
    rw [List.infix_cons_iff, List.infix_cons_iff, not_or, not_or]
    refine ⟨?_, ?_, ih⟩
    · rintro ⟨t, same⟩
      exact absurd (List.cons.inj same).1 (by decide)
    · rintro ⟨t, same⟩
      obtain ⟨rfl, -⟩ := List.cons.inj same
      exact allowed List.mem_cons_self

theorem escapeOpen_plain {c : Char} (plain : c ≠ '\\') (s : List Char) :
    escapeOpen (c :: s) = escapeOpen s := by
  rw [escapeOpen]
  · rintro rfl rfl
    exact plain rfl
  · rintro _ _ rfl rfl
    exact plain rfl

theorem quotesEscaped {s : List Char} (pieces : Pieces s) : ∀ before quote behind,
    s = before ++ quote :: behind → quote ∈ literalQuotes → escapeOpen before = true := by
  intro before quote behind same isQuote
  induction pieces generalizing before with
  | nil => cases before <;> cases same
  | plain allowed apart others ih =>
    rw [escapedChars, List.mem_append, List.mem_cons, not_or, not_or] at allowed
    cases before with
    | nil =>
      obtain ⟨rfl, -⟩ := List.cons.inj same
      exact absurd isQuote allowed.2.2
    | cons d before =>
      obtain ⟨rfl, rest⟩ := List.cons.inj same
      rw [escapeOpen_plain allowed.2.1]
      exact ih before rest
  | escape allowed others ih =>
    -- The quote is neither the backslash; it is what is escaped, or it comes later.
    match before with
    | [] =>
      obtain ⟨rfl, -⟩ := List.cons.inj same
      exact absurd isQuote (by decide)
    | [d] =>
      obtain ⟨rfl, -⟩ := List.cons.inj same
      rfl
    | d :: e :: before =>
      obtain ⟨rfl, first⟩ := List.cons.inj same
      obtain ⟨rfl, rest⟩ := List.cons.inj first
      exact ih before rest

theorem passes {s : List Char} (pieces : Pieces s) : ∀ quote ∈ literalQuotes, ∀ behind,
    literalRest? quote (s ++ behind) = literalRest? quote behind := by
  intro quote isQuote behind
  induction pieces with
  | nil => rfl
  | plain allowed apart others ih =>
    rw [escapedChars, List.mem_append, List.mem_cons, not_or, not_or] at allowed
    have sameLine : _ ∉ lineEnds := fun ends => allowed.1 (List.mem_append_right ['\x00', '\t'] ends)
    rw [List.cons_append, literalRest?, if_neg, if_neg sameLine, ih]
    · rintro rfl
      exact allowed.2.2 isQuote
    · rintro _ _ rfl _
      exact allowed.2.1 rfl
  | escape allowed others ih => exact ih

theorem inert {s : List Char} (pieces : Pieces s) : Inert s :=
  ⟨pieces.noControls, pieces.noEndTag, pieces.quotesEscaped, pieces.passes⟩

end Pieces

namespace Escape

/-- The digits in the codes of characters. -/
def codeDigits : List Char := ['0', '2', '8', '9']

theorem scriptChar_plain {c : Char} (plain : c ∉ escapedChars) : scriptChar c = [c] := by
  simp only [escapedChars, controls, lineEnds, literalQuotes, List.cons_append, List.nil_append,
    List.mem_cons, List.not_mem_nil, or_false, not_or] at plain
  obtain ⟨nul, tab, feed, carriage, line, paragraph, backslash, double, single, back⟩ := plain
  rw [scriptChar, if_neg line, if_neg paragraph, if_neg nul, if_neg tab, if_neg feed,
    if_neg carriage, if_neg double, if_neg single, if_neg backslash, if_neg back]

/-- A character stands for itself, or it is written as a backslash, another character and possibly
the digits of its code. -/
theorem scriptChar_cases (c : Char) :
    c ∉ escapedChars ∧ scriptChar c = [c] ∨
      ∃ d digits, scriptChar c = '\\' :: d :: digits ∧ d ∉ '<' :: controls ∧
        digits.all codeDigits.contains = true := by
  by_cases special : c ∈ escapedChars
  · refine Or.inr ?_
    simp only [escapedChars, controls, lineEnds, literalQuotes, List.cons_append, List.nil_append,
      List.mem_cons, List.not_mem_nil, or_false] at special
    rcases special with rfl | rfl | rfl | rfl | rfl | rfl | rfl | rfl | rfl | rfl
    all_goals exact ⟨_, _, rfl, by decide, rfl⟩
  · exact Or.inl ⟨special, scriptChar_plain special⟩

theorem pieces_digits {digits : List Char} (digit : digits.all codeDigits.contains = true)
    {s : List Char} (others : Pieces s) : Pieces (digits ++ s) := by
  induction digits with
  | nil => exact others
  | cons d digits ih =>
    have apart : ('<' :: escapedChars).any codeDigits.contains = false := rfl
    rw [List.all_cons, Bool.and_eq_true] at digit
    have allowed : d ∉ '<' :: escapedChars := fun mem =>
      List.any_eq_false.mp apart d mem digit.1
    rw [List.mem_cons, not_or] at allowed
    exact .plain allowed.2 (absurd · allowed.1) (ih digit.2)

theorem pieces_scriptChar {c : Char} {s : List Char} (apart : c = '<' → s.head? ≠ some '/')
    (others : Pieces s) : Pieces (scriptChar c ++ s) := by
  obtain ⟨allowed, same⟩ | ⟨d, digits, same, allowed, digit⟩ := scriptChar_cases c
  · rw [same]
    exact .plain allowed apart others
  · rw [same]
    exact .escape allowed (pieces_digits digit others)

/-- Escaping makes a slash only where there is one. -/
theorem head?_script {s : List Char} (slash : (script s).head? = some '/') :
    s.head? = some '/' := by
  revert slash
  fun_cases script s with
  | case1 => exact id
  | case2 s => exact fun slash => absurd (Option.some.inj slash) (by decide)
  | case3 s => exact fun slash => absurd (Option.some.inj slash) (by decide)
  | case4 c s =>
    obtain ⟨-, same⟩ | ⟨d, digits, same, -⟩ := scriptChar_cases c
    · rw [same]
      exact id
    · rw [same]
      exact fun slash => absurd (Option.some.inj slash) (by decide)

theorem pieces_script (s : List Char) : Pieces (script s) := by
  fun_induction script s with
  | case1 => exact .nil
  | case2 s ih => exact .escape (by decide) ih
  | case3 s ih => exact .plain (by decide) (by simp) (.escape (by decide) ih)
  | case4 c s noLineEnd noEndTag ih =>
    refine pieces_scriptChar ?_ ih
    rintro rfl slash
    obtain ⟨rest, rfl⟩ := List.head?_eq_some_iff.mp (head?_script slash)
    exact noEndTag rest rfl rfl

end Escape

end Stencil.Text
