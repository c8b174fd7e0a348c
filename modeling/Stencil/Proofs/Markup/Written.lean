import Stencil.Proofs.Markup.Printer
import Stencil.Proofs.Markup.Reading

/-!
# What is written is read

Each reader reads back what was written for it and stops where that ends, if the expressions fit in
the levels that are left, and refuses them as too deep otherwise.  The induction is on the
expression: the alternatives of an expression are told apart by its first character, and what comes
behind an expression (`EndsExpr`) never goes on with it.
-/

namespace Stencil

open Lexeme (skipBlanks goesOn SpellsName)

/-! ## Texts that begin and end where they are written -/

/-- What may come behind an expression: nothing that goes on with a name or with a path.  Two points
do not go on with a path. -/
def EndsExpr (rest : List Char) : Prop :=
  (∃ more, rest = '.' :: '.' :: more) ∨ ∀ c ∈ rest.head?, goesOn c = false ∧ c ≠ '.' ∧ c ≠ '['

/-- What may come behind a name. -/
def EndsName (rest : List Char) : Prop := ∀ c ∈ rest.head?, goesOn c = false

theorem EndsExpr.endsName {rest : List Char} (follows : EndsExpr rest) : EndsName rest := by
  rcases follows with ⟨more, rfl⟩ | ends
  · rintro c ⟨⟩
    rfl
  · exact fun c first => (ends c first).1

theorem EndsExpr.nil : EndsExpr [] := Or.inr fun c none => absurd none (Option.not_mem_none c)

theorem EndsExpr.cons {c : Char} {rest : List Char}
    (ends : goesOn c = false ∧ c ≠ '.' ∧ c ≠ '[') : EndsExpr (c :: rest) := by
  refine Or.inr ?_
  rintro d ⟨⟩
  exact ends

theorem EndsName.isNameRest {rest : List Char} (ends : EndsName rest) :
    ∀ c ∈ rest.head?, Lexeme.isNameRest c = false := fun c first => by
  have := ends c first
  rw [goesOn, Bool.or_eq_false_iff] at this
  exact this.1

theorem EndsExpr.noFraction {rest : List Char} (follows : EndsExpr rest) (d : Char)
    (more : List Char) (point : rest = '.' :: d :: more) : Numeral.isDigit d = false := by
  subst point
  rcases follows with ⟨_, same⟩ | ends
  · obtain ⟨-, same⟩ := List.cons.inj same
    obtain ⟨rfl, -⟩ := List.cons.inj same
    rfl
  · exact absurd rfl (ends '.' rfl).2.1

/-! ## Constants -/

namespace Value

theorem isQuote_quoteFor (s : List Char) : Lexeme.isQuote (quoteFor s) = true := by
  rw [quoteFor]
  split <;> rfl

theorem quoteFor_notMem {s : List Char} (quotable : '"' ∉ s ∨ '\'' ∉ s) : quoteFor s ∉ s := by
  rw [quoteFor]
  split
  next double => exact quotable.resolve_left (not_not_intro double)
  next single => exact single

end Value

namespace Reader

variable {sub : Read Expr} {s rest : List Char} {d : Nat}

/-- A name is no other expression. -/
theorem run_primary_of_spelled {w : List Char} (spelled : SpellsName w)
    (behind : skipBlanks s = w ++ rest) :
    run (primary sub) ⟨s, d⟩ = run (wordOrPath sub) ⟨s, d⟩ := by
  obtain ⟨c, body, mark, rfl, start, -⟩ := spelled
  have noQuote : Lexeme.isQuote c = false := Lexeme.isQuote_eq_false (by rfl) start
  have noSign : c ≠ '-' := by
    rintro rfl
    exact absurd start (by decide)
  have noBracket : '(' ≠ c := by
    rintro rfl
    exact absurd start (by decide)
  have noDigit : Numeral.isDigit c = false := Lexeme.isDigit_of_isNameStart start
  rw [run_primary]
  dsimp only
  rw [Lexeme.quoted?_eq_none behind noQuote, Lexeme.number?_eq_none behind noSign noDigit,
    Lexeme.token?_eq_none behind noBracket]

theorem reads_word {w : String} {e : Expr} (spelled : SpellsName w.toList)
    (word : word? w = some e) (behind : skipBlanks s = w.toList ++ rest) (ends : EndsName rest) :
    Reads (primary sub) ⟨s, d⟩ True e rest := by
  refine .of_run ?_
  have read := Lexeme.name?_of_spelled spelled behind (Or.inr ends)
  rw [String.ofList_toList] at read
  rw [run_primary_of_spelled spelled behind, run_wordOrPath]
  dsimp only
  rw [read]
  dsimp only
  rw [word]

theorem reads_const {v : Value} (literal : v.IsLiteral) (behind : skipBlanks s = v.print ++ rest)
    (follows : EndsExpr rest) : Reads (primary sub) ⟨s, d⟩ True (.const v) rest := by
  have ends := follows.endsName
  cases v with
  | none => exact reads_word (w := "nil") (Lexeme.spellsName_of_isName rfl) rfl behind ends
  | bool b =>
    cases b
    · exact reads_word (w := "false") (Lexeme.spellsName_of_isName rfl) rfl behind ends
    · exact reads_word (w := "true") (Lexeme.spellsName_of_isName rfl) rfl behind ends
  | int n =>
    obtain ⟨c, t, text, first⟩ := Numeral.exists_cons_intText n
    have noQuote : Lexeme.quoted? s = none :=
      Lexeme.quoted?_eq_none (behind.trans (congrArg (· ++ rest) text))
        (Lexeme.isQuote_eq_false (by rfl) first)
    refine .of_run ?_
    rw [run_primary]
    dsimp only
    rw [noQuote]
    dsimp only
    rw [Lexeme.number?_intText n behind ends.isNameRest follows.noFraction]
  | string t =>
    have behind : skipBlanks s =
        Value.quoteFor t.toList :: (t.toList ++ Value.quoteFor t.toList :: rest) := by
      rw [behind, Value.print, List.cons_append, List.append_assoc]
      rfl
    refine .of_run ?_
    rw [run_primary]
    dsimp only
    rw [Lexeme.quoted?_of_quote (Value.isQuote_quoteFor _) behind
      (Value.quoteFor_notMem literal.2) literal.1, String.ofList_toList]
  | undefined | float | seq | map => exact literal.elim

/-! ## Paths -/

theorem run_segment?_of_endsExpr (follows : EndsExpr rest) :
    run (segment? sub) ⟨rest, d⟩ = (.ok none, ⟨rest, d⟩) := by
  rw [segment?, run_bind_of_ok (run_getRest _)]
  rcases follows with ⟨more, rfl⟩ | ends
  · rfl
  · dsimp only
    split
    next => rfl
    next => exact absurd rfl (ends '.' rfl).2.1
    next => exact absurd rfl (ends '[' rfl).2.2
    · rfl

theorem reads_attr {n : String} (spelled : SpellsName n.toList) (ends : EndsName rest) :
    Reads (segment? sub) ⟨'.' :: (n.toList ++ rest), d⟩ True (some (.attr n)) rest := by
  have solid := Lexeme.skipBlanks_of_head? (spelled.head? rest)
  have read := Lexeme.name?_of_spelled spelled solid (Or.inr ends)
  rw [String.ofList_toList] at read
  refine .after (run_getRest _) ?_
  -- A name does not begin with a point, so the two points of a range are not taken for a segment.
  have single : ∀ more, '.' :: (n.toList ++ rest) ≠ '.' :: '.' :: more := by
    intro more same
    rw [(List.cons.inj same).2] at read
    cases read
  split
  next more same => exact absurd same (single more)
  next t same =>
    obtain rfl := (List.cons.inj same).2
    exact .after (run_goTo _ _) (.map (fun n => some (Segment.attr n)) (.of_run (run_name read)))
  next same => cases (List.cons.inj same).1
  next _ noPoint _ => exact (noPoint _ rfl).elim

theorem reads_index {e : Expr} {p : Prop}
    (key : Reads sub ⟨e.print ++ ']' :: rest, d⟩ p e (']' :: rest)) :
    Reads (segment? sub) ⟨'[' :: (e.print ++ ']' :: rest), d⟩ p (some (.index e)) rest := by
  refine .after (run_getRest _) (.after (run_goTo _ _) ?_)
  have closed : Reads (expect "]" >>= fun _ => pure (some (Segment.index e)))
      ⟨']' :: rest, d⟩ True (some (.index e)) rest := .after (run_expect rfl) (.of_run rfl)
  exact (key.bind closed).congr (iff_of_eq (and_true p))

theorem endsName_segments (ss : List (Segment Expr)) (ends : EndsName rest) :
    EndsName (ss.flatMap Segment.print ++ rest) := by
  cases ss with
  | nil => exact ends
  | cons segment ss =>
    rintro c first
    cases segment <;> cases first <;> rfl

theorem reads_path {root : String} {ss : List (Segment Expr)} {fits : Segment Expr → Prop}
    (spelled : SpellsName root.toList) (free : word? root = none)
    (each : ∀ segment ∈ ss, ∀ tail, EndsName tail →
      Reads (segment? sub) ⟨segment.print ++ tail, d⟩ (fits segment) (some segment) tail)
    (behind : skipBlanks s = root.toList ++ (ss.flatMap Segment.print ++ rest))
    (follows : EndsExpr rest) :
    Reads (primary sub) ⟨s, d⟩ (∀ segment ∈ ss, fits segment) (.path root ss) rest := by
  have ends := endsName_segments ss follows.endsName
  have read := Lexeme.name?_of_spelled spelled behind (Or.inr ends)
  rw [String.ofList_toList] at read
  have segments : Reads (do return Expr.path root (← repeated (segment? sub)))
      ⟨ss.flatMap Segment.print ++ rest, d⟩ (∀ segment ∈ ss, fits segment) (.path root ss) rest :=
    (Reads.repeated ss each Segment.print_ne_nil (fun bs => endsName_segments bs follows.endsName)
      (run_segment?_of_endsExpr follows)).map (Expr.path root)
  refine segments.of_eq ?_ rfl
  rw [run_primary_of_spelled spelled behind, run_wordOrPath]
  dsimp only
  rw [read]
  dsimp only
  rw [free]

/-! ## Ranges -/

theorem reads_range {a b : Expr} {p q : Prop}
    (first : ∀ tail, EndsExpr tail → Reads sub ⟨a.print ++ tail, d⟩ p a tail)
    (last : ∀ tail, EndsExpr tail → Reads sub ⟨b.print ++ tail, d⟩ q b tail)
    (behind : skipBlanks s = '(' :: (a.print ++ '.' :: '.' :: (b.print ++ ')' :: rest))) :
    Reads (primary sub) ⟨s, d⟩ (p ∧ q) (.range a b) rest := by
  have closed : Reads (expect ")" >>= fun _ => pure (Expr.range a b))
      ⟨')' :: rest, d⟩ True (.range a b) rest := .after (run_expect rfl) (.of_run rfl)
  have bounds : Reads (rangeBounds sub) ⟨a.print ++ '.' :: '.' :: (b.print ++ ')' :: rest), d⟩
      (p ∧ q ∧ True) (.range a b) rest :=
    (first _ (Or.inl ⟨_, rfl⟩)).bind
      (.after (run_expect rfl) ((last _ (.cons (by decide))).bind closed))
  refine (bounds.congr (and_congr_right' (iff_of_eq (and_true q)))).of_eq ?_ rfl
  have opened : Lexeme.token? ['('] s = some (a.print ++ '.' :: '.' :: (b.print ++ ')' :: rest)) :=
    Lexeme.token?_of_append behind
  rw [run_primary]
  dsimp only
  rw [Lexeme.quoted?_eq_none behind rfl, Lexeme.number?_eq_none behind (by decide) rfl, opened]

/-! ## Expressions -/

theorem reads_tooDeep {r : Reader} {e : Expr} : Reads (exprWithin 0) r (e.nesting ≤ 0) e rest where
  answers fits := absurd e.nesting_pos (by omega)
  refuses _ := rfl

theorem skipBlanks_print {e : Expr} (built : e.Built Value.IsLiteral) (rest : List Char) :
    skipBlanks (e.print ++ rest) = e.print ++ rest := by
  refine Lexeme.skipBlanks_of_head? ?_
  cases e with
  | const v =>
    cases v with
    | none => rintro c ⟨⟩; rfl
    | bool b => cases b <;> rintro c ⟨⟩ <;> rfl
    | int n =>
      obtain ⟨c, t, text, first⟩ := Numeral.exists_cons_intText n
      rw [Expr.print, Value.print, text]
      rintro d ⟨⟩
      exact Lexeme.isMarkupBlank_eq_false (by rfl) first
    | string s =>
      rintro c ⟨⟩
      rw [Value.quoteFor]
      split <;> rfl
    | undefined | float | seq | map => 
      rw [Expr.Built] at built
      exact built.elim
  | empty => rintro c ⟨⟩; rfl
  | path root ss =>
    rw [Expr.Built] at built
    rw [Expr.print, List.append_assoc]
    exact built.1.head? _
  | range a b => rintro c ⟨⟩; rfl

mutual

/-- An expression is read back where it is written, if that many levels are left for it.  The levels
go down by one for the parts of an expression, as its nesting does. -/
theorem reads_expr : ∀ (e : Expr) (n : Nat) {s rest : List Char}, e.Built Value.IsLiteral →
    skipBlanks s = e.print ++ rest → EndsExpr rest →
    Reads (exprWithin n) ⟨s, d⟩ (e.nesting ≤ n) e rest
  | e, 0, s, rest, _, _, _ => reads_tooDeep
  | .const v, n + 1, s, rest, built, behind, follows => by
    have fits : Expr.nesting (.const v) ≤ n + 1 := by simp [Expr.nesting]
    rw [Expr.Built] at built
    rw [Expr.print] at behind
    exact (reads_const built behind follows).congr (iff_of_true True.intro fits)
  | .empty, n + 1, s, rest, built, behind, follows => by
    have fits : Expr.nesting .empty ≤ n + 1 := by simp [Expr.nesting]
    rw [Expr.print] at behind
    exact (reads_word (w := "empty") (Lexeme.spellsName_of_isName rfl) rfl behind
      follows.endsName).congr (iff_of_true True.intro fits)
  | .path root ss, n + 1, s, rest, built, behind, follows => by
    rw [Expr.Built] at built
    obtain ⟨spelled, free, segments⟩ := built
    have each := reads_segments ss n segments
    rw [Expr.print, Expr.printSegments_eq, List.append_assoc] at behind
    refine (reads_path spelled free each behind follows).congr ?_
    rw [Expr.nesting, ← Expr.nestingSegments_le_iff]
    omega
  | .range a b, n + 1, s, rest, built, behind, follows => by
    rw [Expr.Built] at built
    obtain ⟨first, last⟩ := built
    rw [Expr.print, List.cons_append, List.append_assoc, List.cons_append, List.cons_append,
      List.append_assoc] at behind
    refine (reads_range (fun tail => reads_expr a n first (skipBlanks_print first tail))
      (fun tail => reads_expr b n last (skipBlanks_print last tail)) behind).congr ?_
    rw [Expr.nesting]
    omega

theorem reads_segments : ∀ (ss : List (Segment Expr)) (n : Nat),
    Expr.BuiltSegments Value.IsLiteral ss → ∀ segment ∈ ss, ∀ tail, EndsName tail →
      Reads (segment? (exprWithin n)) ⟨segment.print ++ tail, d⟩ (segment.nesting ≤ n)
        (some segment) tail
  | [], _, _ => List.forall_mem_nil _
  | .attr m :: ss, n, built => by
    rw [Expr.BuiltSegments] at built
    obtain ⟨spelled, others⟩ := built
    refine List.forall_mem_cons.mpr ⟨fun tail ends => ?_, reads_segments ss n others⟩
    exact (reads_attr spelled ends).congr (iff_of_true True.intro (Nat.zero_le n))
  | .index e :: ss, n, built => by
    rw [Expr.BuiltSegments] at built
    obtain ⟨key, others⟩ := built
    refine List.forall_mem_cons.mpr ⟨fun tail ends => ?_, reads_segments ss n others⟩
    rw [Segment.print, List.cons_append, List.append_assoc]
    exact reads_index (reads_expr e n key (skipBlanks_print key _) (.cons (by decide)))

end

/-! ## Conditions -/

/-- The expression fits in all levels there are. -/
def Fits (e : Expr) : Prop := e.nesting ≤ maxDepth

theorem reads_top {e : Expr} (built : e.Built Value.IsLiteral)
    (behind : skipBlanks s = e.print ++ rest) (follows : EndsExpr rest) :
    Reads expr ⟨s, 0⟩ (Fits e) e rest :=
  (reads_expr e maxDepth built behind follows).of_eq rfl rfl

/-- An expression behind a blank. -/
theorem reads_topAfterBlank {e : Expr} (built : e.Built Value.IsLiteral) (follows : EndsExpr rest) :
    Reads expr ⟨' ' :: (e.print ++ rest), 0⟩ (Fits e) e rest :=
  reads_top built (skipBlanks_print built rest) follows

/-- What may come behind a condition: no sign of a comparison. -/
structure EndsCondition (rest : List Char) : Prop where
  endsExpr : EndsExpr rest
  noSign : Lexeme.comparison? rest = none

theorem comparison?_sign (op : Comparison) (rest : List Char) :
    Lexeme.comparison? (' ' :: (op.sign ++ ' ' :: rest)) = some (op, ' ' :: rest) := by
  cases op <;> rfl

theorem connective?_word (op : Connective) (rest : List Char) :
    Lexeme.connective? (' ' :: (op.word ++ ' ' :: rest)) = some (op, ' ' :: rest) := by
  cases op <;> rfl

theorem endsCondition_linked (links : List (Connective × Condition)) :
    EndsCondition (links.flatMap Condition.printLinked ++ []) := by
  rw [List.append_nil]
  rcases links with _ | ⟨⟨op, c⟩, links⟩
  · exact ⟨.nil, rfl⟩
  · refine ⟨.cons (by decide), ?_⟩
    cases op <;> rfl

theorem reads_condition {c : Condition} (built : ∀ e ∈ c.exprs, e.Built Value.IsLiteral)
    (behind : skipBlanks s = c.print ++ rest) (ends : EndsCondition rest) :
    Reads condition ⟨s, 0⟩ (∀ e ∈ c.exprs, Fits e) c rest := by
  cases c with
  | value e =>
    have built := List.forall_mem_singleton.mp built
    have first := reads_top built behind ends.endsExpr
    refine (first.bind (q := True) (.after (run_getRest _) ?_)).congr ?_
    · dsimp only
      rw [ends.noSign]
      exact .of_run rfl
    · rw [Condition.exprs, List.forall_mem_singleton, and_true]
  | compare left op right =>
    obtain ⟨builtLeft, builtRight⟩ := Condition.forall_exprs_compare.mp built
    rw [Condition.print, List.append_assoc, List.cons_append, List.append_assoc,
      List.cons_append] at behind
    have first := reads_top builtLeft behind (.cons (by decide))
    have second := (reads_topAfterBlank builtRight ends.endsExpr).map (Condition.compare left op)
    refine (first.bind (.after (run_getRest _) ?_)).congr
      Condition.forall_exprs_compare.symm
    dsimp only
    rw [comparison?_sign]
    exact .after (run_goTo _ _) second

theorem skipBlanks_condition {c : Condition} (built : ∀ e ∈ c.exprs, e.Built Value.IsLiteral)
    (rest : List Char) : skipBlanks (c.print ++ rest) = c.print ++ rest := by
  cases c with
  | value e => exact skipBlanks_print (List.forall_mem_singleton.mp built) rest
  | compare left op right =>
    rw [Condition.print, List.append_assoc]
    exact skipBlanks_print (Condition.forall_exprs_compare.mp built).1 _

theorem reads_linked {link : Connective × Condition}
    (built : ∀ e ∈ link.2.exprs, e.Built Value.IsLiteral) (ends : EndsCondition rest) :
    Reads linked? ⟨Condition.printLinked link ++ rest, 0⟩ (∀ e ∈ link.2.exprs, Fits e) (some link)
      rest := by
  obtain ⟨op, c⟩ := link
  have behind : skipBlanks (' ' :: (c.print ++ rest)) = c.print ++ rest :=
    skipBlanks_condition built rest
  refine .after (run_getRest _) ?_
  rw [Condition.printLinked, List.cons_append, List.append_assoc, List.cons_append]
  dsimp only
  rw [connective?_word]
  exact .after (run_goTo _ _) ((reads_condition built behind ends).map fun c => some (op, c))

theorem reads_chain {c : ConditionChain} (built : ∀ e ∈ c.exprs, e.Built Value.IsLiteral) :
    Reads chain ⟨c.print, 0⟩ (∀ e ∈ c.exprs, Fits e) c [] := by
  obtain ⟨first, links⟩ := c
  simp only [ConditionChain.exprs, List.forall_mem_append, List.forall_mem_flatMap] at built ⊢
  obtain ⟨builtFirst, builtLinks⟩ := built
  have others : Reads (repeated linked?) ⟨links.flatMap Condition.printLinked ++ [], 0⟩
      (∀ link ∈ links, ∀ e ∈ link.2.exprs, Fits e) links [] :=
    .repeated links (fun link mem tail => reads_linked (builtLinks link mem))
      (fun _ => List.cons_ne_nil _ _) endsCondition_linked rfl
  rw [List.append_nil] at others
  have ends := endsCondition_linked links
  rw [List.append_nil] at ends
  exact (reads_condition builtFirst (skipBlanks_condition builtFirst _) ends).bind
    (others.map (ConditionChain.mk first))

/-! ## Filters -/

/-- What may come behind a filter: the end, or another filter. -/
def EndsFilter (rest : List Char) : Prop := rest = [] ∨ ∃ more, rest = ' ' :: '|' :: ' ' :: more

theorem EndsFilter.endsExpr (ends : EndsFilter rest) : EndsExpr rest := by
  rcases ends with rfl | ⟨more, rfl⟩
  · exact .nil
  · exact .cons (by decide)

theorem endsFilter_filters (fs : List FilterCall) :
    EndsFilter (fs.flatMap FilterCall.print ++ []) := by
  cases fs with
  | nil => exact Or.inl rfl
  | cons f fs => exact Or.inr ⟨_, rfl⟩

theorem reads_nextArg {e : Expr} (built : e.Built Value.IsLiteral) (follows : EndsExpr rest) :
    Reads nextArg? ⟨FilterCall.printNext e ++ rest, 0⟩ (Fits e) (some e) rest :=
  .after (run_eat rfl) ((reads_topAfterBlank built follows).map some)

theorem endsExpr_args (es : List Expr) (ends : EndsFilter rest) :
    EndsExpr (es.flatMap FilterCall.printNext ++ rest) := by
  cases es with
  | nil => exact ends.endsExpr
  | cons e es => exact .cons (by decide)

theorem run_nextArg?_of_ends (ends : EndsFilter rest) :
    run nextArg? ⟨rest, 0⟩ = (.ok none, ⟨rest, 0⟩) := by
  rcases ends with rfl | ⟨more, rfl⟩ <;> rfl

theorem reads_args {es : List Expr} (built : ∀ e ∈ es, e.Built Value.IsLiteral)
    (ends : EndsFilter rest) :
    Reads args ⟨FilterCall.printArgs es ++ rest, 0⟩ (∀ e ∈ es, Fits e) es rest := by
  cases es with
  | nil =>
    refine (Reads.of_run ?_).congr (iff_of_true True.intro (List.forall_mem_nil _))
    rcases ends with rfl | ⟨more, rfl⟩ <;> rfl
  | cons e es =>
    obtain ⟨builtFirst, builtOthers⟩ := List.forall_mem_cons.mp built
    have others : Reads (repeated nextArg?) ⟨es.flatMap FilterCall.printNext ++ rest, 0⟩
        (∀ e ∈ es, Fits e) es rest :=
      .repeated es (fun e mem tail => reads_nextArg (builtOthers e mem))
        (fun _ => List.cons_ne_nil _ _) (fun es => endsExpr_args es ends) (run_nextArg?_of_ends ends)
    have first := reads_topAfterBlank builtFirst (endsExpr_args es ends)
    rw [FilterCall.printArgs, List.cons_append, List.cons_append, List.append_assoc]
    exact (Reads.after (run_eat rfl) (first.bind (others.map (e :: ·)))).congr
      List.forall_mem_cons.symm

theorem endsFilterName_args (es : List Expr) (ends : EndsFilter rest) :
    ∀ c ∈ (FilterCall.printArgs es ++ rest).head?, Lexeme.endsFilterName c = true := by
  cases es with
  | nil =>
    rcases ends with rfl | ⟨more, rfl⟩
    · exact fun c none => absurd none (Option.not_mem_none c)
    · rintro c ⟨⟩
      rfl
  | cons e es =>
    rintro c ⟨⟩
    rfl

theorem skipBlanks_filterName {name : List Char} (nonempty : name ≠ [])
    (inside : ∀ c ∈ name, Lexeme.endsFilterName c = false) (rest : List Char) :
    skipBlanks (name ++ rest) = name ++ rest := by
  obtain ⟨c, name, rfl⟩ := List.exists_cons_of_ne_nil nonempty
  refine Lexeme.skipBlanks_of_head? ?_
  rintro d ⟨⟩
  have solid := inside c List.mem_cons_self
  rw [Lexeme.endsFilterName, Bool.or_eq_false_iff] at solid
  exact solid.2

theorem reads_filter {f : FilterCall} (named : f.Named)
    (built : ∀ e ∈ f.args, e.Built Value.IsLiteral) (ends : EndsFilter rest) :
    Reads filter? ⟨f.print ++ rest, 0⟩ (∀ e ∈ f.args, Fits e) (some f) rest := by
  obtain ⟨name, es⟩ := f
  obtain ⟨nonempty, inside⟩ := named
  have behind : skipBlanks (' ' :: (name.toList ++ (FilterCall.printArgs es ++ rest))) =
      name.toList ++ (FilterCall.printArgs es ++ rest) := skipBlanks_filterName nonempty inside _
  have read := Lexeme.filterName?_of_append nonempty inside behind (endsFilterName_args es ends)
  rw [String.ofList_toList] at read
  rw [FilterCall.print, List.cons_append, List.cons_append, List.cons_append, List.append_assoc]
  refine .after (run_eat rfl) (.after (run_getRest _) ?_)
  dsimp only
  rw [read]
  exact .after (run_goTo _ _) ((reads_args built ends).map fun es => some (FilterCall.mk name es))

theorem reads_filters {fs : List FilterCall} (named : ∀ f ∈ fs, f.Named)
    (built : ∀ f ∈ fs, ∀ e ∈ f.args, e.Built Value.IsLiteral) :
    Reads filters ⟨fs.flatMap FilterCall.print, 0⟩ (∀ f ∈ fs, ∀ e ∈ f.args, Fits e) fs [] := by
  have read : Reads filters ⟨fs.flatMap FilterCall.print ++ [], 0⟩
      (∀ f ∈ fs, ∀ e ∈ f.args, Fits e) fs [] :=
    .repeated fs (fun f mem tail => reads_filter (named f mem) (built f mem))
      (fun _ => List.cons_ne_nil _ _) endsFilter_filters rfl
  rwa [List.append_nil] at read

end Reader

end Stencil
