import Stencil.Proofs.Markup.Consumption
import Stencil.Proofs.Markup.RoundTrip

/-!
# Variables without filters

An expression is also a variable, unless a percent sign in its first word is taken for a bad name
(`Variable.parse_of_expr`).  An expression takes nothing but the characters of its syntax and of its
strings (`Reader.CoversAt`), so such a percent sign always stands in a string.
-/

namespace Stencil

/-! ## The characters of expressions -/

mutual

/-- The strings among the constants of an expression. -/
def Expr.strings : Expr → List (List Char)
  | .const (.string s) => [s.toList]
  | .const _ => []
  | .empty => []
  | .path _ ss => Expr.stringsOfSegments ss
  | .range a b => a.strings ++ b.strings

def Expr.stringsOfSegments : List (Segment Expr) → List (List Char)
  | [] => []
  | .attr _ :: ss => Expr.stringsOfSegments ss
  | .index e :: ss => e.strings ++ Expr.stringsOfSegments ss

end

def Segment.strings : Segment Expr → List (List Char)
  | .attr _ => []
  | .index e => e.strings

theorem Expr.stringsOfSegments_eq (ss : List (Segment Expr)) :
    stringsOfSegments ss = ss.flatMap Segment.strings := by
  induction ss with
  | nil => rfl
  | cons segment ss ih =>
    rw [List.flatMap_cons, ← ih]
    cases segment <;> rfl

namespace Reader

open Lexeme (Takes isNumeric isQuote)

/-- The characters that expressions are written with, apart from what their strings hold. -/
def isSyntax (c : Char) : Bool :=
  Text.isMarkupBlank c || Lexeme.isNameRest c || isNumeric c || isQuote c || c == '?' || c == '(' ||
    c == ')' || c == '[' || c == ']'

/-- Every character of the text is one of the syntax or stands in one of the strings. -/
def Covered (text : List Char) (strings : List (List Char)) : Prop :=
  ∀ c ∈ text, isSyntax c = true ∨ ∃ w ∈ strings, c ∈ w

namespace Covered

variable {text other : List Char} {strings more : List (List Char)}

theorem of_plain (plain : ∀ c ∈ text, isSyntax c = true) : Covered text strings :=
  fun c mem => Or.inl (plain c mem)

theorem mono (covered : Covered text strings) (subset : strings ⊆ more) : Covered text more := by
  intro c mem
  rcases covered c mem with plain | ⟨w, inside, held⟩
  · exact Or.inl plain
  · exact Or.inr ⟨w, subset inside, held⟩

theorem append (covered : Covered text strings) (also : Covered other strings) :
    Covered (text ++ other) strings := by
  intro c mem
  rcases List.mem_append.mp mem with mem | mem
  · exact covered c mem
  · exact also c mem

/-- The blanks in front of a lexeme are covered with it. -/
theorem of_takes {s taken rest : List Char} (takes : Takes s taken rest)
    (covered : Covered taken strings) : ∃ used, s = used ++ rest ∧ Covered used strings := by
  obtain ⟨blanks, rfl, blank⟩ := takes
  refine ⟨blanks ++ taken, by rw [List.append_assoc], append (of_plain fun c mem => ?_) covered⟩
  simp [isSyntax, blank c mem]

end Covered

theorem isSyntax_of_isNameRest {c : Char} (rest : Lexeme.isNameRest c = true) :
    isSyntax c = true := by
  simp [isSyntax, rest]

theorem isSyntax_of_isNumeric {c : Char} (numeric : isNumeric c = true) : isSyntax c = true := by
  simp [isSyntax, numeric]

theorem isSyntax_of_isQuote {c : Char} (quote : isQuote c = true) : isSyntax c = true := by
  simp [isSyntax, quote]

theorem isSyntax_name {name : List Char} (spelled : Lexeme.SpellsName name) :
    ∀ c ∈ name, isSyntax c = true := by
  obtain ⟨first, body, mark, rfl, start, inside, marked⟩ := spelled
  intro c mem
  rcases List.mem_cons.mp mem with rfl | mem
  · exact isSyntax_of_isNameRest (Lexeme.isNameRest_of_isNameStart start)
  · rcases List.mem_append.mp mem with mem | mem
    · exact isSyntax_of_isNameRest (inside c mem)
    · rcases marked with rfl | rfl
      · cases mem
      · obtain rfl := List.mem_singleton.mp mem
        rfl

/-! ## What readers take -/

variable {α β : Type}

/-- Whatever the operation answers over the text `s`, the answer has the strings `given` and covers
what was taken for it. -/
def CoversAt (s : List Char) (given : List (List Char)) (op : Read α)
    (strings : α → List (List Char)) : Prop :=
  ∀ d a r, run op ⟨s, d⟩ = (.ok a, r) →
    ∃ used, s = used ++ r.rest ∧ given ⊆ strings a ∧ Covered used (strings a)

/-- The same over every text and behind whatever was read before. -/
def Covers (op : Read α) (strings : α → List (List Char)) : Prop :=
  ∀ s given, CoversAt s given op fun a => given ++ strings a

namespace CoversAt

variable {s rest : List Char} {given : List (List Char)} {op : Read α} {f : α → Read β}
  {S : α → List (List Char)} {T : β → List (List Char)}

theorem pure {a : α} (subset : given ⊆ S a) : CoversAt s given (Pure.pure a) S := by
  rintro d _ _ ⟨⟩
  exact ⟨[], rfl, subset, .of_plain (List.forall_mem_nil _)⟩

theorem refuse {cause : Cause} : CoversAt s given (Reader.refuse cause) S := by
  rintro d a r ⟨⟩

theorem bind (first : CoversAt s given op S) (next : ∀ a t, CoversAt t (S a) (f a) T) :
    CoversAt s given (op >>= f) T := by
  intro d b r ran
  rw [run_bind] at ran
  rcases before : run op ⟨s, d⟩ with ⟨_ | a, t, d'⟩ <;> rw [before] at ran
  · cases ran
  · obtain ⟨used, parts, subset, covered⟩ := first d a _ before
    obtain ⟨more, parts', subset', covered'⟩ := next a t d' b r ran
    refine ⟨used ++ more, ?_, List.Subset.trans subset subset', (covered.mono subset').append covered'⟩
    rw [parts, List.append_assoc]
    exact congrArg (used ++ ·) parts'

theorem look {f : List Char → Read β} (covers : CoversAt s given (f s) T) :
    CoversAt s given (getRest >>= f) T := by
  intro d b r ran
  rw [run_bind_of_ok (run_getRest _)] at ran
  exact covers d b r ran

/-- A step forward over a lexeme, which is covered by what is given then. -/
theorem goOn {taken : List Char} {more : List (List Char)} (takes : Takes s taken rest)
    (covered : Covered taken more) (subset : given ⊆ more) (covers : CoversAt rest more op S) :
    CoversAt s given (goTo rest >>= fun _ => op) S := by
  intro d a r ran
  rw [run_bind_of_ok (run_goTo _ _)] at ran
  obtain ⟨used, parts, subset', covered'⟩ := covers d a r ran
  obtain ⟨before, parts', covered''⟩ := Covered.of_takes takes covered
  refine ⟨before ++ used, ?_, List.Subset.trans subset subset', (covered''.mono subset').append covered'⟩
  rw [parts', parts, List.append_assoc]

theorem ite {other : Read α} (condition : Bool) (first : CoversAt s given op S)
    (second : CoversAt s given other S) :
    CoversAt s given (if condition = true then op else other) S := by
  cases condition
  · exact second
  · exact first

end CoversAt

namespace Covers

variable {step : Read (Option α)} {S : α → List (List Char)}

theorem many (covers : Covers step fun o => o.toList.flatMap S) (fuel : List Char) :
    Covers (Reader.many step fuel) fun as => as.flatMap S := by
  induction fuel with
  | nil => exact fun s given => .pure (by simp)
  | cons c fuel ih =>
    intro s given
    refine (covers s given).bind fun o t => ?_
    cases o with
    | none => exact .pure (by simp)
    | some a => exact (ih t _).bind fun as u => .pure (by simp)

theorem repeated (covers : Covers step fun o => o.toList.flatMap S) :
    Covers (Reader.repeated step) fun as => as.flatMap S :=
  fun s given => .look (covers.many s s given)

end Covers

theorem covers_eat {token : String} (plain : token.toList.all isSyntax = true) :
    Covers (eat token) fun _ => [] := by
  intro s given
  apply CoversAt.look
  rcases here : Lexeme.token? token.toList s with _ | rest
  · exact .pure (by simp)
  · exact .goOn (Lexeme.takes_of_token? here) (.of_plain (List.all_eq_true.mp plain))
      (List.Subset.refl _) (.pure (by simp))

theorem covers_expect {token : String} (plain : token.toList.all isSyntax = true) :
    Covers (expect token) fun _ => [] := by
  intro s given
  refine (covers_eat plain s given).bind fun found t => .ite found (.pure ?_) (.look .refuse)
  simp

theorem covers_name : Covers name fun _ => [] := by
  intro s given
  apply CoversAt.look
  rcases here : Lexeme.name? s with _ | ⟨name, rest⟩
  · exact .look .refuse
  · have plain := isSyntax_name (Lexeme.spelled_of_name? here).1
    exact .goOn (Lexeme.takes_of_name? here) (.of_plain plain) (List.Subset.refl _)
      (.pure (by simp))

section Parts

variable {sub : Read Expr}

theorem covers_segment? (parts : Covers sub Expr.strings) :
    Covers (segment? sub) fun o => o.toList.flatMap Segment.strings := by
  intro s given
  apply CoversAt.look
  have front : ∀ c rest, isSyntax c = true →
      Takes (c :: rest) [c] rest ∧ Covered [c] given := by
    intro c rest plain
    exact ⟨⟨[], rfl, List.forall_mem_nil _⟩, .of_plain (List.forall_mem_singleton.mpr plain)⟩
  split
  · exact .pure (by simp)
  next rest _ =>
    obtain ⟨takes, covered⟩ := front '.' rest (by decide)
    refine .goOn takes covered (List.Subset.refl _) ((covers_name rest given).bind fun m t => ?_)
    exact .pure (by simp)
  next rest =>
    obtain ⟨takes, covered⟩ := front '[' rest (by decide)
    refine .goOn takes covered (List.Subset.refl _) ((parts rest given).bind fun key t => ?_)
    refine (covers_expect rfl t _).bind fun _ u => .pure ?_
    simp [Segment.strings]
  · exact .pure (by simp)

theorem covers_rangeBounds (parts : Covers sub Expr.strings) :
    Covers (rangeBounds sub) Expr.strings := by
  intro s given
  refine (parts s given).bind fun a t => (covers_expect rfl t _).bind fun _ u => ?_
  refine (parts u _).bind fun b v => (covers_expect rfl v _).bind fun _ w => .pure ?_
  simp [Expr.strings]

theorem covers_wordOrPath (parts : Covers sub Expr.strings) :
    Covers (wordOrPath sub) Expr.strings := by
  intro s given
  apply CoversAt.look
  rcases here : Lexeme.name? s with _ | ⟨root, rest⟩
  · exact .look .refuse
  · have plain := isSyntax_name (Lexeme.spelled_of_name? here).1
    refine .goOn (Lexeme.takes_of_name? here) (.of_plain plain) (List.Subset.refl given) ?_
    rcases word? root with _ | e
    · refine ((covers_segment? parts).repeated rest given).bind fun ss t => .pure ?_
      rw [Expr.strings, Expr.stringsOfSegments_eq]
      exact List.Subset.refl _
    · exact .pure (by simp)

theorem covers_primary (parts : Covers sub Expr.strings) :
    Covers (primary sub) Expr.strings := by
  intro s given
  apply CoversAt.look
  rcases string : Lexeme.quoted? s with _ | ⟨w, rest⟩
  · apply CoversAt.look
    rcases number : Lexeme.number? s with _ | ⟨v, rest⟩
    · refine (covers_eat rfl s given).bind fun opened t => .ite opened ?_ ?_
      · simpa using covers_rangeBounds parts t given
      · simpa using covers_wordOrPath parts t given
    · obtain ⟨text, numeric, takes⟩ := Lexeme.takes_of_number? number
      have plain : ∀ c ∈ text, isSyntax c = true := fun c mem =>
        isSyntax_of_isNumeric (numeric c mem)
      exact .goOn takes (.of_plain plain) (List.Subset.refl given) (.pure (by simp))
  · obtain ⟨q, quote, takes⟩ := Lexeme.takes_of_quoted? string
    have covered : Covered (q :: (w.toList ++ [q])) (given ++ [w.toList]) := by
      intro c mem
      by_cases held : c ∈ w.toList
      · exact Or.inr ⟨w.toList, by simp, held⟩
      · have same : c = q := by simpa [held] using mem
        exact Or.inl (same ▸ isSyntax_of_isQuote quote)
    refine .goOn takes covered (List.subset_append_left _ _) (.pure ?_)
    simp [Expr.strings]

end Parts

theorem covers_exprWithin (n : Nat) : Covers (exprWithin n) Expr.strings := by
  induction n with
  | zero =>
    rintro s given d e r ⟨⟩
  | succ n ih => exact covers_primary ih

/-! ## Whole markup -/

theorem run_expectEnd {r : Reader} (ended : r.remaining = []) : run expectEnd r = (.ok (), r) := by
  have atEnd : r.atEnd = true := by rw [atEnd, ended, List.isEmpty_nil]
  show run (if r.atEnd = true then _ else _) r = _
  rw [if_pos atEnd]
  rfl

theorem run_expectEnd_of_more {r : Reader} (more : r.remaining ≠ []) :
    (run expectEnd r).1 = .error (Cause.trailingMarkup (Lexeme.next? r.rest) : Error) := by
  have onward : ¬ r.atEnd = true := fun ended => more (List.isEmpty_iff.mp ended)
  show (run (if r.atEnd = true then _ else _) r).1 = _
  rw [if_neg onward]
  rfl

/-- Markup is read if an operation leaves nothing but blanks of it. -/
theorem readAll_eq_ok_iff {op : Read α} {markup : String} {a : α} :
    readAll op markup = .ok a ↔
      ∃ r, run op (ofMarkup markup) = (.ok a, r) ∧ r.remaining = [] := by
  unfold readAll
  constructor
  · intro read
    rw [run_bind] at read
    rcases ran : run op (ofMarkup markup) with ⟨_ | b, r⟩ <;> rw [ran] at read
    · cases read
    · by_cases ended : r.remaining = []
      · have read : (run (expectEnd >>= fun _ => pure b) r).1 = .ok a := read
        rw [run_bind_of_ok (run_expectEnd ended)] at read
        cases read
        exact ⟨r, rfl, ended⟩
      · have failed := run_bind_of_error (run_expectEnd_of_more ended) fun _ => pure b
        cases failed.symm.trans read
  · rintro ⟨r, ran, ended⟩
    rw [run_bind_of_ok ran, run_bind_of_ok (run_expectEnd ended)]
    rfl

/-- Where only blanks are left there are no filters. -/
theorem run_filters_of_end {r : Reader} (ended : r.remaining = []) :
    run filters r = (.ok [], r) := by
  have noPipe : Lexeme.token? "|".toList r.rest = none := by
    have ended : Lexeme.skipBlanks r.rest = [] := ended
    rw [Lexeme.token?, ended]
    rfl
  have noFilter : run filter? r = (.ok none, r) := by
    rw [filter?, run_bind_of_ok (run_eat_of_none noPipe)]
    rfl
  rw [filters, repeated, run_bind_of_ok (run_getRest r)]
  rcases r.rest with _ | ⟨c, s⟩
  · rfl
  · rw [many, run_bind_of_ok noFilter]
    rfl

/-- No expression begins with a pipe. -/
theorem exprWithin_refuses_pipe {s t : List Char} (behind : Lexeme.skipBlanks s = '|' :: t)
    (n d : Nat) : ∃ e, (run (exprWithin n) ⟨s, d⟩).1 = .error e := by
  cases n with
  | zero => exact ⟨_, rfl⟩
  | succ n =>
    have noName : Lexeme.name? s = none := by
      have noStart : Lexeme.isNameStart '|' = false := by decide
      simp [Lexeme.name?, behind, noStart]
    rw [exprWithin, run_primary]
    dsimp only
    rw [Lexeme.quoted?_eq_none behind rfl, Lexeme.number?_eq_none behind (by decide) rfl,
      Lexeme.token?_eq_none behind (by decide)]
    dsimp only
    rw [run_wordOrPath]
    dsimp only
    rw [noName]
    exact ⟨_, rfl⟩

/-- The markup does not begin with a quote, and its first word holds a percent sign. -/
def BadHead (markup : String) : Prop :=
  (Lexeme.skipBlanks markup.toList).head?.any isQuote = false ∧
    '%' ∈ variableHead (Lexeme.skipBlanks markup.toList)

/-- Where the markup does not begin with a pipe, a variable is an expression and filters behind a
head that is not bad. -/
theorem run_readVariable {markup : String}
    (noPipe : (Lexeme.skipBlanks markup.toList).head? ≠ some '|') :
    (BadHead markup → (run readVariable (ofMarkup markup)).1 =
      .error (Cause.badVariableName
        (String.ofList (variableHead (Lexeme.skipBlanks markup.toList))) : Error)) ∧
    (¬ BadHead markup → run readVariable (ofMarkup markup) =
      run (do let e ← expr; return ⟨e, ← filters⟩) (ofMarkup markup)) := by
  have start : (ofMarkup markup).remaining = Lexeme.skipBlanks markup.toList := rfl
  have bad : (!(Lexeme.skipBlanks markup.toList).head?.any isQuote &&
      (variableHead (Lexeme.skipBlanks markup.toList)).contains '%') = true ↔ BadHead markup := by
    simp [BadHead]
  have opened : run readVariable (ofMarkup markup) =
      run (if (!(Lexeme.skipBlanks markup.toList).head?.any isQuote &&
        (variableHead (Lexeme.skipBlanks markup.toList)).contains '%') = true then
        refuse (.badVariableName (String.ofList
          (variableHead (Lexeme.skipBlanks markup.toList))))
      else do let e ← expr; return ⟨e, ← filters⟩) (ofMarkup markup) := by
    have looked : run MonadState.get (ofMarkup markup) = (.ok (ofMarkup markup), ofMarkup markup) :=
      rfl
    rw [readVariable, run_bind_of_ok looked, start]
    dsimp only
    split
    next pipe => exact absurd pipe noPipe
    · rfl
  rw [opened]
  constructor
  · intro head
    rw [if_pos (bad.mpr head)]
    rfl
  · intro head
    rw [if_neg (mt bad.mp head)]

end Reader

open Reader in
/-- Markup of an expression is also a variable with this expression and no filters, unless its first
word holds a percent sign and it does not begin with a quote.  Then the variable is refused, though
the percent sign stands in a string of the expression. -/
theorem Variable.parse_of_expr {markup : String} {e : Expr} (read : Expr.parse markup = .ok e) :
    (¬ BadHead markup → Variable.parse markup = .ok ⟨e, []⟩) ∧
    (BadHead markup →
      Variable.parse markup = .error (Cause.badVariableName
        (String.ofList (variableHead (Lexeme.skipBlanks markup.toList)))) ∧
      ∃ w ∈ e.strings, '%' ∈ w) := by
  obtain ⟨r, ran, ended⟩ := readAll_eq_ok_iff.mp read
  have noPipe : (Lexeme.skipBlanks markup.toList).head? ≠ some '|' := by
    intro pipe
    obtain ⟨t, behind⟩ := List.head?_eq_some_iff.mp pipe
    obtain ⟨err, failed⟩ := exprWithin_refuses_pipe behind maxDepth 0
    have failed : (run Reader.expr (ofMarkup markup)).1 = .error err := failed
    rw [ran] at failed
    cases failed
  obtain ⟨bad, good⟩ := run_readVariable noPipe
  constructor
  · intro head
    apply readAll_eq_ok_iff.mpr
    refine ⟨r, ?_, ended⟩
    rw [good head, run_bind_of_ok ran, run_bind_of_ok (run_filters_of_end ended)]
    rfl
  · intro head
    refine ⟨run_bind_of_error (bad head) _, ?_⟩
    obtain ⟨used, parts, -, covered⟩ := covers_exprWithin maxDepth markup.toList [] 0 e r ran
    have ended : Lexeme.skipBlanks r.rest = [] := ended
    have inBody : '%' ∈ Lexeme.skipBlanks markup.toList :=
      (List.takeWhile_sublist _).subset head.2
    have inMarkup : '%' ∈ markup.toList := (List.dropWhile_sublist _).subset inBody
    rw [parts] at inMarkup
    rcases List.mem_append.mp inMarkup with taken | left
    · rcases covered '%' taken with plain | held
      · exact absurd plain (by decide)
      · exact held
    · -- Only blanks are left behind the expression.
      have blank := List.dropWhile_eq_nil_iff.mp ended '%' left
      exact absurd blank (by decide)

/-- A path with a string in brackets. -/
def Expr.named (root key : String) : Expr := .path root [.index (.const (.string key))]

/-- A path with a string in brackets is read where it is written. -/
theorem Expr.parse_named {root key : String} (spelled : Lexeme.SpellsName root.toList)
    (free : Reader.word? root = none) (quotable : (Value.string key).IsLiteral) :
    Expr.parse (Expr.form.text (Expr.named root key)) = .ok (Expr.named root key) := by
  apply markup_inverts.1.accepted
  · refine ⟨True.intro, List.forall_mem_singleton.mpr ?_⟩
    simp only [Expr.named, Expr.Built, Expr.BuiltSegments]
    exact ⟨spelled, free, quotable, True.intro⟩
  · refine List.forall_mem_singleton.mpr ?_
    simp [Expr.named, Expr.nesting, Expr.nestingSegments, Reader.maxDepth]

/-- A pipe in an index is not taken for a filter. -/
theorem Variable.parse_of_expr_pipe :
    Expr.parse "a[\"x|y\"]" = .ok (Expr.named "a" "x|y") ∧ ¬ Reader.BadHead "a[\"x|y\"]" ∧
    Variable.parse "a[\"x|y\"]" = .ok ⟨Expr.named "a" "x|y", []⟩ := by
  have text : Expr.form.text (Expr.named "a" "x|y") = "a[\"x|y\"]" := by decide +kernel
  have read : Expr.parse "a[\"x|y\"]" = .ok (Expr.named "a" "x|y") := by
    rw [← text]
    exact Expr.parse_named (Lexeme.spellsName_of_isName rfl) rfl ⟨by decide, by decide⟩
  have head : ¬ Reader.BadHead "a[\"x|y\"]" := by
    unfold Reader.BadHead
    decide
  exact ⟨read, head, (Variable.parse_of_expr read).1 head⟩

/-- A percent sign in an index is taken for a bad name. -/
theorem Variable.parse_refuses_percent :
    Expr.parse "a[\"50%\"]" = .ok (Expr.named "a" "50%") ∧
    Variable.parse "a[\"50%\"]" = .error (Cause.badVariableName "a[\"50%\"]") := by
  have text : Expr.form.text (Expr.named "a" "50%") = "a[\"50%\"]" := by decide +kernel
  have head : Reader.BadHead "a[\"50%\"]" := by
    unfold Reader.BadHead
    decide
  constructor
  · rw [← text]
    exact Expr.parse_named (Lexeme.spellsName_of_isName rfl) rfl ⟨by decide, by decide⟩
  · exact Reader.run_bind_of_error ((Reader.run_readVariable (by decide)).1 head) _

end Stencil
