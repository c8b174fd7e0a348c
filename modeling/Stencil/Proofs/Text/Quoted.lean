import Stencil.Proofs.Text.Script
import Stencil.Text.Quoted

/-!
# Quoted text inside of a script

A quoted text is a literal between double quotes (`isLiteral_quoted`): it ends no line, and the
quote that closes it is the first one that no backslash escapes.  Other marks of scripts stand for
themselves, so an apostrophe or the beginning of an end tag is in it exactly if it is in the text.

`Shows` says of a text which others are shown in it, as they stand or quoted, between characters
that need no escape.
-/

namespace Stencil.Text

/-- Marks of scripts that stand for themselves in quoted text. -/
def bareMarks : List Char := ['<', '/', '\'', '\x60']

/-- A literal between double quotes that ends no line, and that ends with its own last character
whatever follows. -/
structure IsLiteral (s : List Char) : Prop where
  noControls : ∀ c ∈ controls, c ∉ s
  closed : ∃ body, s = '"' :: body ∧ ∀ behind, literalRest? '"' (body ++ behind) = some behind

/-! ## Characters between the quotes -/

theorem exists_of_mem_hexDigits {n : Nat} {c : Char} (mem : c ∈ hexDigits n) :
    ∃ d < 16, c = Nat.digitChar d := by
  induction n using Nat.strongRecOn with
  | ind n ih =>
    rw [hexDigits, Nat.toDigits_eq_if (by omega)] at mem
    split at mem
    next small => exact ⟨n, small, List.mem_singleton.mp mem⟩
    next large =>
      rcases List.mem_append.mp mem with mem | mem
      · exact ih (n / 16) (by omega) mem
      · exact ⟨n % 16, by omega, List.mem_singleton.mp mem⟩

/-- The digits of a code point need no escape. -/
theorem hexDigits_plain {n : Nat} {c : Char} (mem : c ∈ hexDigits n) :
    c ∉ bareMarks ++ escapedChars := by
  obtain ⟨d, small, rfl⟩ := exists_of_mem_hexDigits mem
  have apart : (List.range 16).all
      (fun d => !(bareMarks ++ escapedChars).contains (Nat.digitChar d)) = true := by decide
  have := List.all_eq_true.mp apart d (List.mem_range.mpr small)
  rwa [Bool.not_eq_true', List.contains_eq_mem, decide_eq_false_iff_not] at this

/-- The spelling of a character with a backslash: another character follows, and possibly a code in
braces. -/
def IsQuoteEscape (s : List Char) : Prop :=
  ∃ d code, s = '\\' :: d :: code ∧ d ∉ bareMarks ++ controls ∧
    ∀ e ∈ code, e ∉ bareMarks ++ escapedChars

theorem isQuoteEscape_letter {d : Char} (letter : d ∉ bareMarks ++ controls) :
    IsQuoteEscape ['\\', d] :=
  ⟨d, [], rfl, letter, List.forall_mem_nil _⟩

theorem isQuoteEscape_codePoint (c : Char) : IsQuoteEscape (codePointEscape c) := by
  refine ⟨'u', '\x7b' :: (hexDigits c.toNat ++ ['\x7d']), by simp [codePointEscape], by decide, ?_⟩
  intro e mem
  rcases List.mem_cons.mp mem with rfl | mem
  · decide
  · rcases List.mem_append.mp mem with digit | brace
    · exact hexDigits_plain digit
    · rw [List.mem_singleton.mp brace]
      decide

/-- A character stands for itself, or it is none of the bare marks and written with a backslash. -/
theorem quoteChar_cases (c : Char) :
    c ∉ '"' :: '\\' :: controls ∧ quoteChar c = [c] ∨
      c ∉ bareMarks ∧ IsQuoteEscape (quoteChar c) := by
  by_cases special : c ∈ ['\x00', '\t', '\r', '\n', '"', '\\']
  · right
    simp only [List.mem_cons, List.not_mem_nil, or_false] at special
    rcases special with rfl | rfl | rfl | rfl | rfl | rfl
    all_goals exact ⟨by decide, isQuoteEscape_letter (by decide)⟩
  · simp only [List.mem_cons, List.not_mem_nil, or_false, not_or] at special
    obtain ⟨nul, tab, carriage, feed, double, backslash⟩ := special
    have plain (line : c ≠ '\u2028') (paragraph : c ≠ '\u2029') : c ∉ '"' :: '\\' :: controls := by
      simp [controls, lineEnds, nul, tab, carriage, feed, double, backslash, line, paragraph]
    rw [quoteChar, if_neg nul, if_neg tab, if_neg carriage, if_neg feed, if_neg double,
      if_neg backslash]
    by_cases ascii : 0x20 ≤ c.toNat ∧ c.toNat < 0x7F
    · left
      rw [if_pos ascii]
      refine ⟨plain ?_ ?_, rfl⟩
      · rintro rfl
        exact absurd ascii (by decide)
      · rintro rfl
        exact absurd ascii (by decide)
    · have bare : c ∉ bareMarks := by
        intro mem
        have inside : bareMarks.all (fun m => decide (0x20 ≤ m.toNat ∧ m.toNat < 0x7F)) = true :=
          rfl
        exact ascii (of_decide_eq_true (List.all_eq_true.mp inside c mem))
      rw [if_neg ascii]
      by_cases extender : isExtender c = true
      · rw [if_pos extender]
        exact Or.inr ⟨bare, isQuoteEscape_codePoint c⟩
      · rw [if_neg extender]
        by_cases printable : isPrintable c = true
        · rw [if_pos printable]
          refine Or.inl ⟨plain ?_ ?_, rfl⟩
          · rintro rfl
            exact absurd printable (by decide +kernel)
          · rintro rfl
            exact absurd printable (by decide +kernel)
        · rw [if_neg printable]
          exact Or.inr ⟨bare, isQuoteEscape_codePoint c⟩

/-! ## Quoted texts -/

theorem toList_quoted (t : String) :
    (quoted t).toList = '"' :: (t.toList.flatMap quoteChar ++ ['"']) := by
  rw [quoted, String.toList_ofList]

/-- A control is not in a quoted character, whichever character this is. -/
theorem not_mem_quoteChar {c d : Char} (control : c ∈ controls) : c ∉ quoteChar d := by
  obtain ⟨plain, same⟩ | ⟨-, e, code, same, letter, rest⟩ := quoteChar_cases d
  · rw [same, List.mem_singleton]
    rintro rfl
    exact plain (List.mem_cons_of_mem _ (List.mem_cons_of_mem _ control))
  · rw [same, List.mem_cons, List.mem_cons, not_or, not_or]
    refine ⟨?_, ?_, fun mem => rest c mem ?_⟩
    · rintro rfl
      exact absurd control (by decide)
    · rintro rfl
      exact letter (List.mem_append_right _ control)
    · exact List.mem_append_right _ (List.mem_append_left _ control)

theorem not_mem_quoted {c : Char} (control : c ∈ controls) (t : String) :
    c ∉ (quoted t).toList := by
  have notQuote : c ≠ '"' := by
    rintro rfl
    exact absurd control (by decide)
  rw [toList_quoted, List.mem_cons, List.mem_append, List.mem_flatMap, List.mem_singleton]
  rintro (same | ⟨d, -, mem⟩ | same)
  · exact notQuote same
  · exact not_mem_quoteChar control mem
  · exact notQuote same

/-- A bare mark is only in the quoted form of itself. -/
theorem mem_quoteChar_iff {c d : Char} (mark : c ∈ bareMarks) : c ∈ quoteChar d ↔ c = d := by
  obtain ⟨-, same⟩ | ⟨bare, e, code, same, letter, rest⟩ := quoteChar_cases d
  · rw [same, List.mem_singleton]
  · rw [same, List.mem_cons, List.mem_cons]
    constructor
    · rintro (rfl | rfl | mem)
      · exact absurd mark (by decide)
      · exact absurd (List.mem_append_left _ mark) letter
      · exact absurd (List.mem_append_left _ mark) (rest c mem)
    · rintro rfl
      exact absurd mark bare

theorem mem_quoted_iff {c : Char} (mark : c ∈ bareMarks) (t : String) :
    c ∈ (quoted t).toList ↔ c ∈ t.toList := by
  have notQuote : c ≠ '"' := by
    rintro rfl
    exact absurd mark (by decide)
  simp [toList_quoted, mem_quoteChar_iff mark, notQuote]

theorem literalRest?_append {quote : Char} {s : List Char}
    (plain : ∀ c ∈ s, c ∉ quote :: '\\' :: lineEnds) (behind : List Char) :
    literalRest? quote (s ++ behind) = literalRest? quote behind := by
  induction s with
  | nil => rfl
  | cons c s ih =>
    obtain ⟨here, others⟩ := List.forall_mem_cons.mp plain
    rw [List.mem_cons, List.mem_cons, not_or, not_or] at here
    rw [List.cons_append, literalRest?, if_neg here.1, if_neg here.2.2, ih others]
    rintro _ _ rfl _
    exact here.2.1 rfl

/-- A quoted character does not end a literal, unless it is a quote of another kind that the literal
has begun with. -/
theorem literalRest?_quoteChar {quote c : Char} (isQuote : quote ∈ literalQuotes)
    (apart : quote = '"' ∨ quote ≠ c) (behind : List Char) :
    literalRest? quote (quoteChar c ++ behind) = literalRest? quote behind := by
  have special : '\\' :: (lineEnds ++ literalQuotes) ⊆ bareMarks ++ escapedChars := by decide
  obtain ⟨plain, same⟩ | ⟨-, d, code, same, -, rest⟩ := quoteChar_cases c
  · have controlled : lineEnds ⊆ controls := by decide
    rw [List.mem_cons, List.mem_cons, not_or, not_or] at plain
    rw [same]
    refine literalRest?_append (List.forall_mem_singleton.mpr ?_) behind
    rw [List.mem_cons, List.mem_cons, not_or, not_or]
    refine ⟨?_, plain.2.1, fun ends => plain.2.2 (controlled ends)⟩
    rcases apart with rfl | apart
    · exact plain.1
    · exact Ne.symm apart
  · rw [same]
    refine literalRest?_append (fun e mem escaped => rest e mem (special ?_)) behind
    rcases List.mem_cons.mp escaped with rfl | escaped
    · exact List.mem_cons_of_mem _ (List.mem_append_right _ isQuote)
    · rcases List.mem_cons.mp escaped with rfl | ends
      · exact List.mem_cons_self
      · exact List.mem_cons_of_mem _ (List.mem_append_left _ ends)

theorem literalRest?_quoteChars {quote : Char} {s : List Char} (isQuote : quote ∈ literalQuotes)
    (apart : quote = '"' ∨ quote ∉ s) (behind : List Char) :
    literalRest? quote (s.flatMap quoteChar ++ behind) = literalRest? quote behind := by
  induction s with
  | nil => rfl
  | cons c s ih =>
    rw [List.mem_cons, not_or] at apart
    rw [List.flatMap_cons, List.append_assoc,
      literalRest?_quoteChar isQuote (apart.imp_right And.left), ih (apart.imp_right And.right)]

/-- What is quoted is a literal. -/
theorem isLiteral_quoted (t : String) : IsLiteral (quoted t).toList where
  noControls _ control := not_mem_quoted control t
  closed := by
    refine ⟨_, toList_quoted t, fun behind => ?_⟩
    rw [List.append_assoc, literalRest?_quoteChars (by decide) (Or.inl rfl)]
    rfl

/-- A literal that has begun with another quote goes on behind a quoted text without that quote. -/
theorem literalRest?_quoted {quote : Char} {t : String} (isQuote : quote ∈ ['\'', '\x60'])
    (apart : quote ∉ t.toList) (behind : List Char) :
    literalRest? quote ((quoted t).toList ++ behind) = literalRest? quote behind := by
  have other : ∀ c ∈ ['"'], c ∉ quote :: '\\' :: lineEnds := by
    rw [List.forall_mem_singleton, List.mem_cons, not_or]
    refine ⟨?_, by decide⟩
    rintro rfl
    exact absurd isQuote (by decide)
  have known : ['\'', '\x60'] ⊆ literalQuotes := by decide
  rw [toList_quoted, ← List.singleton_append, List.append_assoc, List.append_assoc,
    literalRest?_append other, literalRest?_quoteChars (known isQuote) (Or.inr apart),
    literalRest?_append other]

/-! ### The beginning of an end tag -/

theorem endTag_cons_iff {c : Char} {s : List Char} :
    ['<', '/'] <:+: c :: s ↔ c = '<' ∧ s.head? = some '/' ∨ ['<', '/'] <:+: s := by
  rw [List.infix_cons_iff, List.cons_prefix_cons, List.singleton_prefix_iff_head?_eq_some,
    eq_comm]

theorem endTag_append_iff {s : List Char} (plain : '<' ∉ s) (behind : List Char) :
    ['<', '/'] <:+: s ++ behind ↔ ['<', '/'] <:+: behind := by
  induction s with
  | nil => rfl
  | cons c s ih =>
    rw [List.mem_cons, not_or] at plain
    rw [List.cons_append, endTag_cons_iff, ih plain.2, or_iff_right]
    exact fun first => plain.1 first.1.symm

theorem head?_quoteChars (s behind : List Char) :
    (s.flatMap quoteChar ++ '"' :: behind).head? = some '/' ↔ s.head? = some '/' := by
  cases s with
  | nil => simp
  | cons c s =>
    obtain ⟨-, same⟩ | ⟨bare, d, code, same, -⟩ := quoteChar_cases c
    · rw [List.flatMap_cons, same]
      rfl
    · have notSlash : c ≠ '/' := by
        rintro rfl
        exact bare (by decide)
      rw [List.flatMap_cons, same]
      simp [notSlash]

/-- Quoting neither makes the beginning of an end tag nor breaks one up. -/
theorem endTag_quoteChars_iff (s behind : List Char) :
    ['<', '/'] <:+: s.flatMap quoteChar ++ '"' :: behind ↔
      ['<', '/'] <:+: s ∨ ['<', '/'] <:+: behind := by
  induction s with
  | nil =>
    rw [List.flatMap_nil, List.nil_append, endTag_cons_iff]
    simp
  | cons c s ih =>
    rw [List.flatMap_cons, List.append_assoc, endTag_cons_iff, or_assoc, ← ih]
    obtain ⟨-, same⟩ | ⟨bare, d, code, same, letter, rest⟩ := quoteChar_cases c
    · rw [same, List.singleton_append, endTag_cons_iff, head?_quoteChars]
    · have notOpen : c ≠ '<' := by
        rintro rfl
        exact bare (by decide)
      have plain : '<' ∉ quoteChar c := fun mem =>
        notOpen ((mem_quoteChar_iff (by decide)).mp mem).symm
      rw [endTag_append_iff plain, or_iff_right (fun first => notOpen first.1)]

theorem endTag_quoted_append_iff (t : String) (behind : List Char) :
    ['<', '/'] <:+: (quoted t).toList ++ behind ↔
      ['<', '/'] <:+: t.toList ∨ ['<', '/'] <:+: behind := by
  rw [toList_quoted, List.cons_append, List.append_assoc, endTag_cons_iff, List.singleton_append,
    endTag_quoteChars_iff, or_iff_right]
  exact fun first => absurd first.1 (by decide)

/-! ## Texts in which others are shown -/

/-- The text shows others between characters that need no escape: the first list as they stand, the
second quoted. -/
inductive Shows : List String → List String → List Char → Prop
  | nil : Shows [] [] []
  | plain {raw literals : List String} {c : Char} {s : List Char}
      (allowed : c ∉ '<' :: escapedChars) (others : Shows raw literals s) :
      Shows raw literals (c :: s)
  | raw {raw literals : List String} {s : List Char} (t : String) (others : Shows raw literals s) :
      Shows (t :: raw) literals (t.toList ++ s)
  | quoted {raw literals : List String} {s : List Char} (t : String)
      (others : Shows raw literals s) : Shows raw (t :: literals) ((quoted t).toList ++ s)

namespace Shows

variable {raw raw' literals literals' : List String} {s s' : List Char}

theorem of_plain (plain : ∀ c ∈ s, c ∉ '<' :: escapedChars) : Shows [] [] s := by
  induction s with
  | nil => exact .nil
  | cons c s ih =>
    obtain ⟨here, others⟩ := List.forall_mem_cons.mp plain
    exact .plain here (ih others)

theorem of_raw (t : String) : Shows [t] [] t.toList := by
  rw [← List.append_nil t.toList]
  exact .raw t .nil

theorem of_quoted (t : String) : Shows [] [t] (Text.quoted t).toList := by
  rw [← List.append_nil (Text.quoted t).toList]
  exact .quoted t .nil

theorem append (first : Shows raw literals s) (second : Shows raw' literals' s') :
    Shows (raw ++ raw') (literals ++ literals') (s ++ s') := by
  induction first with
  | nil => exact second
  | plain allowed others ih => exact .plain allowed ih
  | raw t others ih =>
    rw [List.append_assoc]
    exact .raw t ih
  | quoted t others ih =>
    rw [List.append_assoc]
    exact .quoted t ih

/-- A character that scripts escape is in the text exactly if it is in one of the others, as that is
shown. -/
theorem mem_iff (shows : Shows raw literals s) {c : Char} (special : c ∈ '<' :: escapedChars) :
    c ∈ s ↔ (∃ t ∈ raw, c ∈ t.toList) ∨ ∃ t ∈ literals, c ∈ (Text.quoted t).toList := by
  induction shows with
  | nil => simp
  | plain allowed others ih =>
    rw [List.mem_cons, ih, or_iff_right]
    rintro rfl
    exact allowed special
  | raw t others ih => simp only [List.mem_append, ih, List.mem_cons, exists_eq_or_imp, or_assoc]
  | quoted t others ih =>
    simp only [List.mem_append, ih, List.mem_cons, exists_eq_or_imp, or_left_comm]

/-- A control is in the text exactly if it is in one that is shown as it stands. -/
theorem mem_control_iff (shows : Shows raw literals s) {c : Char} (control : c ∈ controls) :
    c ∈ s ↔ ∃ t ∈ raw, c ∈ t.toList := by
  rw [shows.mem_iff (List.mem_cons_of_mem _ (List.mem_append_left _ control)), or_iff_left]
  rintro ⟨t, -, mem⟩
  exact not_mem_quoted control t mem

/-- An apostrophe or a backtick is in the text exactly if it is in one of the others. -/
theorem mem_quote_iff (shows : Shows raw literals s) {c : Char} (quote : c ∈ ['\'', '\x60']) :
    c ∈ s ↔ ∃ t ∈ raw ++ literals, c ∈ t.toList := by
  have special : ['\'', '\x60'] ⊆ '<' :: escapedChars := by decide
  have mark : ['\'', '\x60'] ⊆ bareMarks := by decide
  simp [shows.mem_iff (special quote), mem_quoted_iff (mark quote), or_and_right, exists_or]

theorem endTag_iff (shows : Shows raw literals s) (noRaw : raw = []) :
    ['<', '/'] <:+: s ↔ ∃ t ∈ literals, ['<', '/'] <:+: t.toList := by
  induction shows with
  | nil => simp
  | plain allowed others ih =>
    rw [endTag_cons_iff, ih noRaw, or_iff_right]
    rintro ⟨rfl, -⟩
    exact allowed List.mem_cons_self
  | raw t others ih => cases noRaw
  | quoted t others ih =>
    simp only [endTag_quoted_append_iff, ih noRaw, List.mem_cons, exists_eq_or_imp]

/-- A literal between apostrophes or backticks goes on behind the text if none of the others, which
are all quoted, has such a quote. -/
theorem passes (shows : Shows raw literals s) (noRaw : raw = []) {quote : Char}
    (isQuote : quote ∈ ['\'', '\x60']) (apart : ∀ t ∈ literals, quote ∉ t.toList)
    (behind : List Char) : literalRest? quote (s ++ behind) = literalRest? quote behind := by
  induction shows with
  | nil => rfl
  | @plain _ _ c s allowed others ih =>
    have quotes : ['\'', '\x60'] ⊆ '<' :: escapedChars := by decide
    have others : '\\' :: lineEnds ⊆ '<' :: escapedChars := by decide
    rw [← ih noRaw apart]
    refine literalRest?_append (List.forall_mem_singleton.mpr fun special => allowed ?_) _
    rcases List.mem_cons.mp special with rfl | special
    · exact quotes isQuote
    · exact others special
  | raw t others ih => cases noRaw
  | quoted t others ih =>
    obtain ⟨here, others⟩ := List.forall_mem_cons.mp apart
    rw [List.append_assoc, literalRest?_quoted isQuote here, ih noRaw others]

/-- The text needs no escape if none of the others does and none is quoted. -/
theorem pieces (shows : Shows raw [] s)
    (harmless : ∀ t ∈ raw, ∀ c ∈ t.toList, c ∉ '<' :: escapedChars) : Pieces s := by
  refine .of_plain fun c mem special => ?_
  rcases (shows.mem_iff special).mp mem with ⟨t, shown, inside⟩ | ⟨t, shown, -⟩
  · exact harmless t shown c inside special
  · exact absurd shown List.not_mem_nil

end Shows

/-- How a text that shows others in quotes, and none as it stands, behaves inside of a script. -/
structure Quotes (texts : List String) (s : List Char) : Prop where
  shows : Shows [] texts s
  /-- What is shown is a literal of its own between double quotes. -/
  literals : ∀ t ∈ texts, IsLiteral (quoted t).toList
  noControls : ∀ c ∈ controls, c ∉ s
  endTag : ['<', '/'] <:+: s ↔ ∃ t ∈ texts, ['<', '/'] <:+: t.toList
  quotes : ∀ quote ∈ ['\'', '\x60'], quote ∈ s ↔ ∃ t ∈ texts, quote ∈ t.toList
  /-- A literal that has begun with such a quote goes on behind the text if there are none in it. -/
  passes : ∀ quote ∈ ['\'', '\x60'], (∀ t ∈ texts, quote ∉ t.toList) →
    ∀ behind, literalRest? quote (s ++ behind) = literalRest? quote behind

theorem Shows.toQuotes {texts : List String} {s : List Char} (shows : Shows [] texts s) :
    Quotes texts s where
  shows := shows
  literals t _ := isLiteral_quoted t
  noControls c control mem := by
    obtain ⟨t, shown, -⟩ := (shows.mem_control_iff control).mp mem
    exact absurd shown List.not_mem_nil
  endTag := shows.endTag_iff rfl
  quotes _ isQuote := shows.mem_quote_iff isQuote
  passes _ isQuote apart := shows.passes rfl isQuote apart

end Stencil.Text
