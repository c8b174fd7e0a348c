import Mathlib.Data.List.DropRight
import Stencil.Markup.Lexeme
import Stencil.Value.Text

/-!
# What lexemes look like

Trimming and the name at the start of a text, said without the way they are found: what trimming
leaves begins and ends with a character that is not blank, and the leading name of a text is the
longest spelling of a name behind its blanks.  Names, integers, strings and the names of filters are
read back where they are written, if what follows does not go on with them.
-/

namespace Stencil

namespace Text

/-! ## Runs of characters -/

theorem takeWhile_append_of_head? {p : Char → Bool} {s rest : List Char}
    (inside : ∀ c ∈ s, p c = true) (stops : ∀ c ∈ rest.head?, p c = false) :
    (s ++ rest).takeWhile p = s := by
  rw [List.takeWhile_append_of_pos inside]
  cases rest with
  | nil => simp
  | cons c rest => simp [stops c rfl]

theorem dropWhile_append_of_head? {p : Char → Bool} {s rest : List Char}
    (inside : ∀ c ∈ s, p c = true) (stops : ∀ c ∈ rest.head?, p c = false) :
    (s ++ rest).dropWhile p = rest := by
  rw [List.dropWhile_append_of_pos inside]
  cases rest with
  | nil => rfl
  | cons c rest => simp [stops c rfl]

/-! ## Trimming -/

/-- One text is the other without the characters at both ends that satisfy `p`. -/
structure Trims (p : Char → Bool) (s trimmed : List Char) : Prop where
  parts : ∃ before behind, s = before ++ trimmed ++ behind ∧
    (∀ c ∈ before, p c = true) ∧ ∀ c ∈ behind, p c = true
  head : ∀ c ∈ trimmed.head?, p c = false
  last : ∀ c ∈ trimmed.getLast?, p c = false

theorem head?_trimStart (p : Char → Bool) (s : List Char) :
    ∀ c ∈ (trimStart p s).head?, p c = false := by
  intro c first
  have stopped := List.head?_dropWhile_not p s
  rw [show (s.dropWhile p).head? = some c from first] at stopped
  exact stopped

theorem getLast?_trimEnd (p : Char → Bool) (s : List Char) :
    ∀ c ∈ (trimEnd p s).getLast?, p c = false := by
  intro c last
  rw [trimEnd, List.getLast?_reverse] at last
  exact head?_trimStart p s.reverse c last

theorem trimEnd_prefix (p : Char → Bool) (s : List Char) : trimEnd p s <+: s :=
  List.rdropWhile_prefix p s

theorem trims_trim (p : Char → Bool) (s : List Char) : Trims p s (trim p s) where
  parts := by
    refine ⟨s.takeWhile p, List.rtakeWhile p (trimStart p s), ?_, fun _ => List.mem_takeWhile_imp,
      fun _ => List.mem_rtakeWhile_imp⟩
    have back : trim p s ++ List.rtakeWhile p (trimStart p s) = trimStart p s :=
      List.rdropWhile_append_rtakeWhile
    rw [List.append_assoc, back]
    exact List.takeWhile_append_dropWhile.symm
  head := by
    obtain ⟨behind, parts⟩ := trimEnd_prefix p (trimStart p s)
    intro c first
    refine head?_trimStart p s c ?_
    have first : (trimEnd p (trimStart p s)).head? = some c := first
    rw [← parts, List.head?_append, first]
    rfl
  last := getLast?_trimEnd p (trimStart p s)

end Text

namespace Lexeme

open Text (isMarkupBlank)

/-! ## Blanks -/

theorem exists_blanks (s : List Char) :
    ∃ blanks, (∀ c ∈ blanks, isMarkupBlank c = true) ∧ s = blanks ++ skipBlanks s :=
  ⟨s.takeWhile isMarkupBlank, fun _ => List.mem_takeWhile_imp,
    List.takeWhile_append_dropWhile.symm⟩

theorem skipBlanks_append {blanks : List Char} (blank : ∀ c ∈ blanks, isMarkupBlank c = true)
    (s : List Char) : skipBlanks (blanks ++ s) = skipBlanks s :=
  List.dropWhile_append_of_pos blank

theorem skipBlanks_of_head? {s : List Char} (h : ∀ c ∈ s.head?, isMarkupBlank c = false) :
    skipBlanks s = s := by
  cases s with
  | nil => rfl
  | cons c s => simp [skipBlanks, h c rfl]

/-- A class of characters that holds none of the four blanks. -/
theorem isMarkupBlank_eq_false {p : Char → Bool} (apart : [' ', '\t', '\r', '\n'].any p = false)
    {c : Char} (holds : p c = true) : isMarkupBlank c = false := by
  by_contra blank
  rw [Bool.not_eq_false] at blank
  have mem : c ∈ [' ', '\t', '\r', '\n'] := by
    simpa [isMarkupBlank, or_assoc] using blank
  exact List.any_eq_false.mp apart c mem holds

/-- A class of characters that holds neither of the two quotes. -/
theorem isQuote_eq_false {p : Char → Bool} (apart : ['"', '\''].any p = false) {c : Char}
    (holds : p c = true) : isQuote c = false := by
  by_contra quote
  rw [Bool.not_eq_false] at quote
  have mem : c ∈ ['"', '\''] := by simpa [isQuote] using quote
  exact List.any_eq_false.mp apart c mem holds

/-! ## Names -/

theorem isNameStart_not_blank {c : Char} (start : isNameStart c = true) :
    isMarkupBlank c = false :=
  isMarkupBlank_eq_false (by rfl) start

/-- A letter or underscore, then letters, digits, underscores and hyphens, and possibly a question
mark. -/
def SpellsName (w : List Char) : Prop :=
  ∃ c body mark, w = c :: (body ++ mark) ∧ isNameStart c = true ∧
    (∀ d ∈ body, isNameRest d = true) ∧ (mark = [] ∨ mark = ['?'])

/-- Behind its blanks a text begins with a name, and with no longer one. -/
structure LeadingName (s name rest : List Char) : Prop where
  parts : ∃ blanks, s = blanks ++ (name ++ rest) ∧ ∀ c ∈ blanks, isMarkupBlank c = true
  spelled : SpellsName name
  longest : ∀ longer, SpellsName longer → longer <+: name ++ rest → longer.length ≤ name.length

/-- The character goes on with a name. -/
def goesOn (c : Char) : Bool := isNameRest c || c == '?'

theorem SpellsName.ne_nil {w : List Char} (spelled : SpellsName w) : w ≠ [] := by
  obtain ⟨c, body, mark, rfl, -⟩ := spelled
  exact List.cons_ne_nil _ _

theorem SpellsName.head? {w : List Char} (spelled : SpellsName w) (rest : List Char) :
    ∀ c ∈ (w ++ rest).head?, isMarkupBlank c = false := by
  obtain ⟨c, body, mark, rfl, start, -⟩ := spelled
  rintro d ⟨⟩
  exact isNameStart_not_blank start

theorem SpellsName.notMem {c : Char} {body : List Char} (start : isNameStart c = true)
    (inside : ∀ d ∈ body, isNameRest d = true) : '?' ∉ c :: body := by
  intro mem
  rcases List.mem_cons.mp mem with rfl | mem
  · exact absurd start (by decide)
  · exact absurd (inside _ mem) (by decide)

/-- A name is read if what follows does not go on with it; behind a question mark anything may
follow. -/
theorem name?_of_spelled {s w rest : List Char} (spelled : SpellsName w)
    (behind : skipBlanks s = w ++ rest)
    (stops : '?' ∈ w ∨ ∀ c ∈ rest.head?, goesOn c = false) :
    name? s = some (String.ofList w, rest) := by
  obtain ⟨c, body, mark, rfl, start, inside, marked⟩ := spelled
  rw [name?, behind]
  -- With a question mark the name ends there, without one it ends where it cannot go on.
  rcases marked with rfl | rfl
  · have unmarked : '?' ∉ c :: (body ++ []) := by
      rw [List.append_nil]
      exact SpellsName.notMem start inside
    have stops := stops.resolve_left unmarked
    have ends : ∀ d ∈ rest.head?, isNameRest d = false := fun d first => by
      have := stops d first
      simp only [goesOn, Bool.or_eq_false_iff] at this
      exact this.1
    have taken := Text.takeWhile_append_of_head? inside ends
    have dropped := Text.dropWhile_append_of_head? inside ends
    simp only [List.append_nil, List.cons_append, start, if_true, taken, dropped]
    split
    · exact absurd (stops '?' rfl) (by decide)
    · rfl
  · have ends : ∀ d ∈ ('?' :: rest).head?, isNameRest d = false := by
      rintro d ⟨⟩
      decide
    have taken := Text.takeWhile_append_of_head? inside ends
    have dropped := Text.dropWhile_append_of_head? inside ends
    simp [start, taken, dropped]

/-- What is read as a name is spelled like one, and what is left does not go on with it. -/
theorem spelled_of_name? {s rest : List Char} {name : String} (read : name? s = some (name, rest)) :
    SpellsName name.toList ∧ skipBlanks s = name.toList ++ rest ∧
      ('?' ∈ name.toList ∨ ∀ c ∈ rest.head?, goesOn c = false) := by
  unfold name? at read
  split at read
  · simp at read
  next c t behind =>
    split at read
    next start =>
      have whole := List.takeWhile_append_dropWhile (p := isNameRest) (l := t)
      have inside : ∀ d ∈ t.takeWhile isNameRest, isNameRest d = true :=
        fun _ => List.mem_takeWhile_imp
      split at read
      next more dropped =>
        simp only [Option.some.injEq, Prod.mk.injEq] at read
        obtain ⟨rfl, rfl⟩ := read
        rw [dropped] at whole
        rw [String.toList_ofList]
        exact ⟨⟨c, _, ['?'], rfl, start, inside, Or.inr rfl⟩, by simp [behind, whole],
          Or.inl (by simp)⟩
      next unmarked =>
        simp only [Option.some.injEq, Prod.mk.injEq] at read
        obtain ⟨rfl, rfl⟩ := read
        rw [String.toList_ofList]
        refine ⟨⟨c, _, [], by rw [List.append_nil], start, inside, Or.inl rfl⟩,
          by simp [behind, whole], Or.inr fun d first => ?_⟩
        have ends := Text.head?_trimStart isNameRest t d first
        have noMark : d ≠ '?' := by
          rintro rfl
          obtain ⟨more, dropped⟩ := List.head?_eq_some_iff.mp first
          exact unmarked more dropped
        simp [goesOn, ends, noMark]
    · simp at read

/-! ### The longest name -/

/-- A question mark ends a name. -/
theorem SpellsName.notMem_of_append {w t : List Char} (spelled : SpellsName (w ++ t))
    (more : t ≠ []) : '?' ∉ w := by
  obtain ⟨c, body, mark, same, start, inside, rfl | rfl⟩ := spelled
  · rw [List.append_nil] at same
    intro mem
    exact SpellsName.notMem start inside (same ▸ List.mem_append_left t mem)
  · obtain rfl | ⟨t', last, rfl⟩ := List.eq_nil_or_concat t
    · exact absurd rfl more
    · rw [List.concat_eq_append, ← List.append_assoc, ← List.cons_append] at same
      obtain ⟨front, -⟩ := List.append_inj' same rfl
      intro mem
      exact SpellsName.notMem start inside (front ▸ List.mem_append_left t' mem)

theorem SpellsName.goesOn_of_append {w t : List Char} (spelled : SpellsName (w ++ t))
    (some : w ≠ []) : ∀ d ∈ t, goesOn d = true := by
  obtain ⟨c, body, mark, same, start, inside, marked⟩ := spelled
  obtain ⟨e, w', rfl⟩ := List.exists_cons_of_ne_nil some
  obtain ⟨-, rest⟩ := List.cons.inj same
  intro d mem
  have : d ∈ body ++ mark := rest ▸ List.mem_append_right w' mem
  rcases List.mem_append.mp this with mem | mem
  · simp [goesOn, inside d mem]
  · rcases marked with rfl | rfl
    · cases mem
    · simp [goesOn, List.mem_singleton.mp mem]

theorem length_le_of_stops {w rest longer : List Char} (spelled : SpellsName w)
    (stops : '?' ∈ w ∨ ∀ c ∈ rest.head?, goesOn c = false) (also : SpellsName longer)
    (front : longer <+: w ++ rest) : longer.length ≤ w.length := by
  by_contra longerThan
  obtain ⟨t, rfl⟩ := List.prefix_of_prefix_length_le (List.prefix_append w rest) front (by omega)
  obtain ⟨d, t', rfl⟩ := List.exists_cons_of_ne_nil (show t ≠ [] by rintro rfl; simp at longerThan)
  rcases stops with marked | stops
  · exact also.notMem_of_append (List.cons_ne_nil d t') marked
  · obtain ⟨more, rfl⟩ := (List.prefix_append_right_inj w).mp front
    have on := also.goesOn_of_append spelled.ne_nil d List.mem_cons_self
    rw [stops d rfl] at on
    exact Bool.noConfusion on

theorem stops_of_longest {w rest : List Char} (spelled : SpellsName w)
    (longest : ∀ longer, SpellsName longer → longer <+: w ++ rest → longer.length ≤ w.length) :
    '?' ∈ w ∨ ∀ c ∈ rest.head?, goesOn c = false := by
  by_contra neither
  simp only [not_or, not_forall, Bool.not_eq_false] at neither
  obtain ⟨unmarked, d, first, on⟩ := neither
  obtain ⟨more, rfl⟩ := List.head?_eq_some_iff.mp first
  have also : SpellsName (w ++ [d]) := by
    obtain ⟨c, body, mark, rfl, start, inside, rfl | rfl⟩ := spelled
    · simp only [goesOn, Bool.or_eq_true, beq_iff_eq] at on
      rcases on with on | rfl
      · refine ⟨c, body ++ [d], [], by simp, start, fun e mem => ?_, Or.inl rfl⟩
        rcases List.mem_append.mp mem with mem | mem
        · exact inside e mem
        · exact List.mem_singleton.mp mem ▸ on
      · exact ⟨c, body, ['?'], by simp, start, inside, Or.inr rfl⟩
    · exact absurd (by simp) unmarked
  have := longest _ also (by simp)
  rw [List.length_append, List.length_singleton] at this
  omega

theorem spellsName_of_isName {w : String} (name : isName w = true) : SpellsName w.toList := by
  rw [isName, beq_iff_eq] at name
  exact (spelled_of_name? name).1

theorem name?_eq_some_iff (s : List Char) (name : String) (rest : List Char) :
    name? s = some (name, rest) ↔ LeadingName s name.toList rest := by
  constructor
  · intro read
    obtain ⟨spelled, behind, stops⟩ := spelled_of_name? read
    obtain ⟨blanks, blank, parts⟩ := exists_blanks s
    exact ⟨⟨blanks, behind ▸ parts, blank⟩, spelled,
      fun _ also front => length_le_of_stops spelled stops also front⟩
  · rintro ⟨⟨blanks, rfl, blank⟩, spelled, longest⟩
    have behind : skipBlanks (blanks ++ (name.toList ++ rest)) = name.toList ++ rest := by
      rw [skipBlanks_append blank, skipBlanks_of_head? (spelled.head? rest)]
    rw [name?_of_spelled spelled behind (stops_of_longest spelled longest), String.ofList_toList]

theorem name?_eq_none_iff (s : List Char) :
    name? s = none ↔ ∀ name rest, ¬ LeadingName s name rest := by
  constructor
  · intro unread name rest leading
    have read := (name?_eq_some_iff s (String.ofList name) rest).mpr (by rwa [String.toList_ofList])
    rw [unread] at read
    cases read
  · intro nameless
    rcases read : name? s with _ | ⟨name, rest⟩
    · rfl
    · exact absurd ((name?_eq_some_iff s name rest).mp read) (nameless _ _)

end Lexeme

/-! ## Integers -/

namespace Numeral

theorem isDigit_of_mem_toDigits {n : Nat} {c : Char} (mem : c ∈ Nat.toDigits 10 n) :
    isDigit c = true :=
  Nat.isDigit_of_mem_toDigits (by omega) (by omega) mem

theorem ofDigits_toDigits (n : Nat) : ofDigits (Nat.toDigits 10 n) = n :=
  Nat.ofDigitChars_toDigits (by omega) (by omega)

/-- The sign that an integer is written with. -/
def signText (n : Int) : List Char := if n < 0 then ['-'] else []

theorem toList_intText (n : Int64) :
    (Value.intText n).toList = signText n.toInt ++ Nat.toDigits 10 n.toInt.natAbs := by
  rw [Value.intText, Int.toString_eq_repr, Int.repr_eq_if, signText]
  by_cases negative : n.toInt < 0
  · have magnitude : (-n.toInt).toNat = n.toInt.natAbs := by omega
    rw [if_neg (by omega), if_pos negative, String.toList_append, Nat.toList_repr, magnitude]
    rfl
  · have magnitude : n.toInt.toNat = n.toInt.natAbs := by omega
    rw [if_pos (by omega), if_neg negative, Nat.toList_repr, magnitude]
    rfl

/-- The characters that integers begin with. -/
def isStart (c : Char) : Bool := c == '-' || isDigit c

theorem exists_cons_intText (n : Int64) :
    ∃ c t, (Value.intText n).toList = c :: t ∧ isStart c = true := by
  obtain ⟨d, ds, digits⟩ := List.exists_cons_of_ne_nil
    (Nat.toDigits_ne_nil (n := n.toInt.natAbs) (b := 10))
  rw [toList_intText, signText, digits]
  split
  · exact ⟨'-', d :: ds, rfl, rfl⟩
  · have digit := isDigit_of_mem_toDigits (digits ▸ List.mem_cons_self)
    exact ⟨d, ds, rfl, by rw [isStart, digit, Bool.or_true]⟩

theorem splitSign_signText (n : Int) {c : Char} {ds : List Char} (digit : isDigit c = true) :
    splitSign (signText n ++ c :: ds) = (decide (n < 0), c :: ds) := by
  rw [signText]
  by_cases negative : n < 0
  · simp [negative, splitSign]
  · simp only [negative, if_false, List.nil_append, decide_false]
    unfold splitSign
    split
    next same =>
      obtain rfl := (List.cons.inj same).1
      exact absurd digit (by decide)
    next same =>
      obtain rfl := (List.cons.inj same).1
      exact absurd digit (by decide)
    · rfl

theorem readInt64?_intText (n : Int64) :
    readInt64? (Value.intText n).toList = some n := by
  have fits := fitsInt64_toInt n
  have bound : n.toInt.natAbs < 10 ^ 19 := by
    unfold FitsInt64 at fits
    omega
  have short := (Nat.length_toDigits_le_iff (b := 10) (by omega) (by omega)).mpr bound
  have value := ofDigits_toDigits n.toInt.natAbs
  have digits : ∀ c ∈ Nat.toDigits 10 n.toInt.natAbs, isDigit c = true :=
    fun _ => isDigit_of_mem_toDigits
  have some := Nat.toDigits_ne_nil (n := n.toInt.natAbs) (b := 10)
  rw [toList_intText]
  obtain ⟨c, ds, same⟩ := List.exists_cons_of_ne_nil some
  rw [same] at short value digits ⊢
  have dropped : (dropZeros (c :: ds)).length ≤ 19 :=
    (List.dropWhile_sublist _).length_le.trans short
  rw [readInt64?, splitSign_signText n.toInt (digits c List.mem_cons_self)]
  have all : (c :: ds).all isDigit = true := List.all_eq_true.mpr digits
  simp only [List.isEmpty_cons, all, Bool.not_true, Bool.or_self, Bool.false_or, decide_eq_true_eq,
    Nat.not_lt.mpr dropped, if_false, value]
  rw [← int64?_toInt n]
  congr 1
  by_cases negative : n.toInt < 0
  · rw [if_pos negative]
    omega
  · rw [if_neg negative]
    omega

end Numeral

namespace Lexeme

open Text (isMarkupBlank)

/-! ## Literals -/

theorem isNameRest_of_isDigit {c : Char} (digit : Numeral.isDigit c = true) :
    isNameRest c = true := by
  have : c.isDigit = true := digit
  simp [isNameRest, Char.isAlphanum, this]

theorem isDigit_of_isNameStart {c : Char} (start : isNameStart c = true) :
    Numeral.isDigit c = false := by
  by_contra digit
  rw [Bool.not_eq_false] at digit
  -- The ranges of the characters, as they are compared.
  have digit : (decide (48 ≤ c.val) && decide (c.val ≤ 57)) = true := digit
  have start : (decide (65 ≤ c.val ∧ c.val ≤ 90) ||
      decide (97 ≤ c.val) && decide (c.val ≤ 122) || c == '_') = true := start
  simp only [Bool.and_eq_true, decide_eq_true_eq] at digit
  simp only [Bool.or_eq_true, Bool.and_eq_true, decide_eq_true_eq, beq_iff_eq] at start
  rcases start with (⟨letter, -⟩ | ⟨letter, -⟩) | rfl
  · exact absurd (UInt32.le_trans letter digit.2) (by decide)
  · exact absurd (UInt32.le_trans letter digit.2) (by decide)
  · exact absurd digit.2 (by decide)

theorem isNameRest_of_isNameStart {c : Char} (start : isNameStart c = true) :
    isNameRest c = true := by
  simp only [isNameStart, Bool.or_eq_true] at start
  rcases start with letter | line
  · simp [isNameRest, Char.isAlphanum, letter]
  · simp [isNameRest, line]

theorem number?_intText {s rest : List Char} (n : Int64)
    (behind : skipBlanks s = (Value.intText n).toList ++ rest)
    (ends : ∀ c ∈ rest.head?, isNameRest c = false)
    (noPoint : ∀ d more, rest = '.' :: d :: more → Numeral.isDigit d = false) :
    number? s = some (.int n, rest) := by
  have read := Numeral.readInt64?_intText n
  have digits : ∀ c ∈ Nat.toDigits 10 n.toInt.natAbs, Numeral.isDigit c = true :=
    fun _ => Numeral.isDigit_of_mem_toDigits
  have nonempty := Nat.toDigits_ne_nil (n := n.toInt.natAbs) (b := 10)
  rw [Numeral.toList_intText] at read behind
  generalize Nat.toDigits 10 n.toInt.natAbs = ds at *
  -- Neither a digit nor a name goes on where the integer ends, and there is no fraction.
  have noDigit : ∀ c ∈ rest.head?, Numeral.isDigit c = false := fun c first =>
    Bool.eq_false_iff.mpr (mt isNameRest_of_isDigit (Bool.eq_false_iff.mp (ends c first)))
  have noName : rest.head?.any isNameStart = false :=
    (Option.any_eq_false _ _).mpr fun c first =>
      Bool.eq_false_iff.mpr (mt isNameRest_of_isNameStart (Bool.eq_false_iff.mp (ends c first)))
  have taken := Text.takeWhile_append_of_head? digits noDigit
  have dropped := Text.dropWhile_append_of_head? digits noDigit
  have value : numeralValue? (Numeral.signText n.toInt ++ ds) false = some (.int n) := by
    simp only [numeralValue?, Bool.false_eq_true, if_false, read]
  unfold number?
  by_cases negative : n.toInt < 0
  · rw [Numeral.signText, if_pos negative, List.singleton_append] at behind value
    simp only [behind, List.cons_append, List.nil_append, taken, dropped]
    split
    next d u =>
      rw [List.head?_cons, Option.any_some] at noName
      simp [noPoint d u rfl, nonempty, noName, value]
    · simp [nonempty, noName, value]
  · rw [Numeral.signText, if_neg negative, List.nil_append] at behind value
    obtain ⟨c, ds, rfl⟩ := List.exists_cons_of_ne_nil nonempty
    have unsigned : c ≠ '-' := by
      rintro rfl
      exact absurd (digits _ List.mem_cons_self) (by decide)
    rw [List.cons_append] at behind taken dropped
    simp only [behind]
    split
    next same => exact absurd (List.cons.inj same).1 unsigned
    simp only [taken, dropped, List.nil_append]
    split
    next d u _ =>
      rw [List.head?_cons, Option.any_some] at noName
      simp [noPoint d u rfl, noName, value]
    · simp [noName, value]

theorem quoted?_of_quote {s body rest : List Char} {q : Char} (quote : isQuote q = true)
    (behind : skipBlanks s = q :: (body ++ q :: rest)) (unquoted : q ∉ body)
    (noComma : ',' ∉ body) :
    quoted? s = some (String.ofList body, rest) := by
  have inside : ∀ c ∈ body, (c != q && c != ',') = true := by
    intro c mem
    have notQuote : c ≠ q := by rintro rfl; exact unquoted mem
    have notComma : c ≠ ',' := by rintro rfl; exact noComma mem
    simp [notQuote, notComma]
  have ends : ∀ c ∈ (q :: rest).head?, (c != q && c != ',') = false := by
    rintro c ⟨⟩
    simp
  rw [quoted?, behind]
  simp only [quote, if_true, Text.dropWhile_append_of_head? inside ends,
    Text.takeWhile_append_of_head? inside ends]

theorem quoted?_eq_none {s t : List Char} {c : Char} (behind : skipBlanks s = c :: t)
    (noQuote : isQuote c = false) : quoted? s = none := by
  simp [quoted?, behind, noQuote]

theorem number?_eq_none {s t : List Char} {c : Char} (behind : skipBlanks s = c :: t)
    (noSign : c ≠ '-') (noDigit : Numeral.isDigit c = false) : number? s = none := by
  simp [number?, behind, noSign, noDigit]

theorem token?_of_append {token s rest : List Char} (behind : skipBlanks s = token ++ rest) :
    token? token s = some rest := by
  rw [token?, behind, Text.dropStart?_append]

theorem token?_eq_none {token s t : List Char} {c d : Char} (behind : skipBlanks s = c :: t)
    (other : d ≠ c) : token? (d :: token) s = none := by
  simp [token?, behind, Text.dropStart?, other]

theorem quotable_of_quoted? {s rest : List Char} {w : String}
    (read : quoted? s = some (w, rest)) :
    ',' ∉ w.toList ∧ ('"' ∉ w.toList ∨ '\'' ∉ w.toList) := by
  unfold quoted? at read
  split at read
  · cases read
  next q t behind =>
    split at read
    next quote =>
      split at read
      · cases read
      next c rest' dropped =>
        split at read
        · simp only [Option.some.injEq, Prod.mk.injEq] at read
          obtain ⟨rfl, -⟩ := read
          rw [String.toList_ofList]
          have inside : ∀ d ∈ t.takeWhile (fun c => c != q && c != ','), d ≠ q ∧ d ≠ ',' := by
            intro d mem
            simpa using List.mem_takeWhile_imp mem
          refine ⟨fun mem => (inside _ mem).2 rfl, ?_⟩
          simp only [isQuote, Bool.or_eq_true, beq_iff_eq] at quote
          rcases quote with rfl | rfl
          · exact Or.inl fun mem => (inside _ mem).1 rfl
          · exact Or.inr fun mem => (inside _ mem).1 rfl
        · cases read
    · cases read

theorem number_of_number? {s rest : List Char} {v : Value} (read : number? s = some (v, rest)) :
    (∃ n, v = .int n) ∨ ∃ x, v = .float x := by
  have shape : ∀ (b : Bool) (o : Option Value) (r : List Char),
      (if b = true then none else o.map (·, r)) = some (v, rest) → o = some v := by
    intro b o r same
    cases b
    · obtain ⟨w, found, parts⟩ := Option.map_eq_some_iff.mp same
      rw [found, (Prod.mk.inj parts).1]
    · cases same
  have value : ∃ text fractional, numeralValue? text fractional = some v :=
    ⟨_, _, shape _ _ _ read⟩
  obtain ⟨text, fractional, value⟩ := value
  unfold numeralValue? at value
  simp only at value
  split at value
  · obtain ⟨x, -, rfl⟩ := Option.map_eq_some_iff.mp value
    exact Or.inr ⟨x, rfl⟩
  · split at value
    next n _ => exact Or.inl ⟨n, (Option.some.inj value).symm⟩
    · obtain ⟨x, -, rfl⟩ := Option.map_eq_some_iff.mp value
      exact Or.inr ⟨x, rfl⟩

/-! ## Names of filters -/

theorem filterName?_of_append {s name rest : List Char} (nonempty : name ≠ [])
    (inside : ∀ c ∈ name, endsFilterName c = false) (behind : skipBlanks s = name ++ rest)
    (ends : ∀ c ∈ rest.head?, endsFilterName c = true) :
    filterName? s = some (String.ofList name, rest) := by
  have inside : ∀ c ∈ name, (!endsFilterName c) = true := by simpa using inside
  have ends : ∀ c ∈ rest.head?, (!endsFilterName c) = false := by simpa using ends
  rw [filterName?, behind]
  simp [Text.dropWhile_append_of_head? inside ends, Text.takeWhile_append_of_head? inside ends,
    nonempty]

theorem filterName_of_filterName? {s rest : List Char} {name : String}
    (read : filterName? s = some (name, rest)) :
    name.toList ≠ [] ∧ ∀ c ∈ name.toList, endsFilterName c = false := by
  unfold filterName? at read
  simp only at read
  split at read
  · cases read
  next nonempty =>
    simp only [Option.some.injEq, Prod.mk.injEq] at read
    obtain ⟨rfl, -⟩ := read
    rw [String.toList_ofList]
    refine ⟨by simpa using nonempty, fun c mem => ?_⟩
    simpa using List.mem_takeWhile_imp mem

end Lexeme

end Stencil
