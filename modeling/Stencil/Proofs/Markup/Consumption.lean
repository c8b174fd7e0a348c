import Stencil.Proofs.Markup.Lexeme

/-!
# What lexemes take

A lexeme takes the blanks in front of it and the text that spells it, and leaves what stands behind
(`Lexeme.Takes`).  So what any of them leaves is an end of the text it was read from.
-/

namespace Stencil.Lexeme

open Text (isMarkupBlank)

variable {s taken rest : List Char}

/-- Behind blanks the text goes on with `taken`, and `rest` is what comes behind that. -/
def Takes (s taken rest : List Char) : Prop :=
  ∃ blanks, s = blanks ++ (taken ++ rest) ∧ ∀ c ∈ blanks, isMarkupBlank c = true

theorem Takes.of_behind (behind : skipBlanks s = taken ++ rest) : Takes s taken rest := by
  obtain ⟨blanks, blank, parts⟩ := exists_blanks s
  rw [behind] at parts
  exact ⟨blanks, parts, blank⟩

theorem Takes.suffix (takes : Takes s taken rest) : rest <:+ s := by
  obtain ⟨blanks, rfl, -⟩ := takes
  exact ⟨blanks ++ taken, by rw [List.append_assoc]⟩

/-! ## Words and tokens -/

theorem takes_of_name? {name : String} (read : name? s = some (name, rest)) :
    Takes s name.toList rest :=
  .of_behind (spelled_of_name? read).2.1

theorem takes_of_token? {token : List Char} (read : token? token s = some rest) :
    Takes s token rest :=
  .of_behind (Text.dropStart?_eq_some read)

theorem takes_of_filterName? {name : String} (read : filterName? s = some (name, rest)) :
    Takes s name.toList rest := by
  unfold filterName? at read
  simp only at read
  split at read
  · cases read
  · cases read
    apply Takes.of_behind
    rw [String.toList_ofList]
    exact List.takeWhile_append_dropWhile.symm

theorem takes_of_keyword? {word : List Char} (read : keyword? word (skipBlanks s) = some rest) :
    Takes s word rest := by
  unfold keyword? at read
  split at read
  next rest' behind =>
    split at read
    · cases read
    · cases read
      exact .of_behind (Text.dropStart?_eq_some behind)
  · cases read

theorem suffix_of_comparison? {op : Comparison} (read : comparison? s = some (op, rest)) :
    rest <:+ s := by
  unfold comparison? at read
  simp only at read
  split at read
  next found sign =>
    obtain rfl := Option.some.inj read
    obtain ⟨e, -, same⟩ := List.exists_of_findSome?_eq_some sign
    obtain ⟨rest', behind, same⟩ := Option.map_eq_some_iff.mp same
    cases same
    exact (Takes.of_behind (Text.dropStart?_eq_some behind)).suffix
  · obtain ⟨rest', behind, same⟩ := Option.map_eq_some_iff.mp read
    cases same
    exact (takes_of_keyword? behind).suffix

theorem suffix_of_connective? {op : Connective} (read : connective? s = some (op, rest)) :
    rest <:+ s := by
  unfold connective? at read
  split at read
  next comma =>
    cases read
    have comma : skipBlanks s = [','] ++ rest := comma
    exact (Takes.of_behind comma).suffix
  · split at read
    next behind =>
      cases read
      exact (takes_of_keyword? behind).suffix
    · obtain ⟨rest', behind, same⟩ := Option.map_eq_some_iff.mp read
      cases same
      exact (takes_of_keyword? behind).suffix

/-! ## Constants -/

/-- A string takes its quotes with it. -/
theorem takes_of_quoted? {w : String} (read : quoted? s = some (w, rest)) :
    ∃ q, isQuote q = true ∧ Takes s (q :: (w.toList ++ [q])) rest := by
  unfold quoted? at read
  split at read
  · cases read
  next q t behind =>
    split at read
    next quote =>
      split at read
      · cases read
      next c rest' dropped =>
        split at read
        next closed =>
          cases read
          subst closed
          refine ⟨c, quote, .of_behind ?_⟩
          have whole := List.takeWhile_append_dropWhile (p := fun d => d != c && d != ',') (l := t)
          rw [dropped] at whole
          rw [behind, String.toList_ofList, List.cons_append, List.append_assoc]
          exact congrArg (c :: ·) whole.symm
        · cases read
    · cases read

/-- The characters that numbers are written with. -/
def isNumeric (c : Char) : Bool := c == '-' || c == '.' || Numeral.isDigit c

theorem isNumeric_of_isDigit {c : Char} (digit : Numeral.isDigit c = true) : isNumeric c = true := by
  rw [isNumeric, digit, Bool.or_true]

/-- The fraction at the start of a text, with its point, and what stands behind it. -/
def splitFraction (s : List Char) : List Char × List Char :=
  match s with
  | '.' :: d :: u =>
    if Numeral.isDigit d then
      ('.' :: (d :: u).takeWhile Numeral.isDigit, (d :: u).dropWhile Numeral.isDigit)
    else ([], s)
  | _ => ([], s)

theorem splitFraction_append (s : List Char) : (splitFraction s).1 ++ (splitFraction s).2 = s := by
  unfold splitFraction
  split
  · split
    · exact congrArg ('.' :: ·) List.takeWhile_append_dropWhile
    · rfl
  · rfl

theorem isNumeric_fraction (s : List Char) : ∀ c ∈ (splitFraction s).1, isNumeric c = true := by
  unfold splitFraction
  split
  · split
    · rintro c (_ | ⟨_, mem⟩)
      · rfl
      · exact isNumeric_of_isDigit (List.mem_takeWhile_imp mem)
    · exact List.forall_mem_nil _
  · exact List.forall_mem_nil _

/-- A number behind its sign. -/
def unsigned? (sign t : List Char) : Option (Value × List Char) :=
  let whole := t.takeWhile Numeral.isDigit
  let split := splitFraction (t.dropWhile Numeral.isDigit)
  if whole.isEmpty || (split.2.head?.any isNameStart) then none
  else (numeralValue? (sign ++ whole ++ split.1) !split.1.isEmpty).map (·, split.2)

theorem number?_eq_unsigned? (s : List Char) :
    ∃ sign t, skipBlanks s = sign ++ t ∧ (sign = ['-'] ∨ sign = []) ∧
      number? s = unsigned? sign t := by
  unfold number?
  split
  next sign t signed =>
    split at signed
    next behind =>
      cases signed
      exact ⟨['-'], _, behind, Or.inl rfl, rfl⟩
    next =>
      cases signed
      exact ⟨[], skipBlanks s, rfl, Or.inr rfl, rfl⟩

/-- A number takes its sign, its digits and its point. -/
theorem takes_of_number? {v : Value} (read : number? s = some (v, rest)) :
    ∃ text, (∀ c ∈ text, isNumeric c = true) ∧ Takes s text rest := by
  obtain ⟨sign, t, behind, either, same⟩ := number?_eq_unsigned? s
  rw [same] at read
  simp only [unsigned?] at read
  split at read
  · cases read
  · obtain ⟨v', -, same⟩ := Option.map_eq_some_iff.mp read
    cases same
    have whole := List.takeWhile_append_dropWhile (p := Numeral.isDigit) (l := t)
    have fraction := splitFraction_append (t.dropWhile Numeral.isDigit)
    refine ⟨sign ++ (t.takeWhile Numeral.isDigit ++
      (splitFraction (t.dropWhile Numeral.isDigit)).1), ?_, .of_behind ?_⟩
    · intro c mem
      rcases List.mem_append.mp mem with mem | mem
      · rcases either with rfl | rfl
        · obtain rfl := List.mem_singleton.mp mem
          rfl
        · cases mem
      · rcases List.mem_append.mp mem with mem | mem
        · exact isNumeric_of_isDigit (List.mem_takeWhile_imp mem)
        · exact isNumeric_fraction _ c mem
    · rw [behind, List.append_assoc, List.append_assoc, fraction, whole]

end Stencil.Lexeme
