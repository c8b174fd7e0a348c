import Stencil.Proofs.Markup.Consumption
import Stencil.Proofs.Markup.RoundTrip

/-!
# Readers that are used further

A reader that refuses expressions as nested too deep stays one level down each time
(`Reader.lost`), and later expressions have so many levels less.  Apart from that it goes on like a
fresh reader over the markup that is left.  The two are compared operation by operation: either both
do the same, or the used reader is cut off where only a deeper expression could be read
(`Reader.NarrowsAt`).
-/

namespace Stencil

namespace Reader

variable {α β : Type}

/-- The levels that an operation costs the reader: one if it fails as nested too deep. -/
def lost : Except Error α → Nat
  | .ok _ => 0
  | .error e => if e.kind = .nestingTooDeep then 1 else 0

theorem lost_error_ne {e : Error} (other : e.kind ≠ .nestingTooDeep) :
    lost (.error e : Except Error α) = 0 := if_neg other

/-! ## A reader with fewer levels beside a fresh one -/

/-- Over the text `s`, `op` on a reader that has lost `d` levels is compared with `wide` on a fresh
reader.  Both do the same, and then the answer fits in the levels that are left; or `op` is refused
as nested too deep, and then no answer of `wide` fits. -/
inductive NarrowsAt (d : Nat) (s : List Char) (op wide : Read α) (Fits : α → Prop) : Prop
  | same (x : Except Error α) (t : List Char) (narrow : run op ⟨s, d⟩ = (x, ⟨t, d + lost x⟩))
      (fresh : run wide ⟨s, 0⟩ = (x, ⟨t, lost x⟩)) (left : t <:+ s) (fits : ∀ a, x = .ok a → Fits a)
  | cut (t : List Char)
      (narrow : run op ⟨s, d⟩ = (.error (Cause.expressionTooDeep : Error), ⟨t, d + 1⟩))
      (left : t <:+ s) (unfit : ∀ a, (run wide ⟨s, 0⟩).1 = .ok a → ¬ Fits a)

/-- The comparison over every text. -/
def Narrows (d : Nat) (op wide : Read α) (Fits : α → Prop) : Prop :=
  ∀ s, NarrowsAt d s op wide Fits

namespace NarrowsAt

variable {d : Nat} {s rest : List Char} {op wide : Read α} {f g : α → Read β} {F : α → Prop}
  {G : β → Prop}

theorem pure {a : α} (fits : F a) : NarrowsAt d s (Pure.pure a) (Pure.pure a) F := by
  apply same (.ok a) s rfl rfl (List.suffix_refl s)
  rintro _ ⟨⟩
  exact fits

theorem refuse {cause : Cause} (other : cause.kind ≠ .nestingTooDeep) :
    NarrowsAt d s (Reader.refuse cause) (Reader.refuse cause) F := by
  have free : lost (.error (cause : Error) : Except Error α) = 0 := lost_error_ne other
  apply same (.error (cause : Error)) s
  · rw [free]
    rfl
  · rw [free]
    rfl
  · exact List.suffix_refl s
  · rintro a ⟨⟩

/-- The comparison only looks at what the operations do. -/
theorem of_eq {op' wide' : Read α} (compared : NarrowsAt d s op' wide' F)
    (narrow : run op ⟨s, d⟩ = run op' ⟨s, d⟩) (fresh : run wide ⟨s, 0⟩ = run wide' ⟨s, 0⟩) :
    NarrowsAt d s op wide F := by
  cases compared with
  | same x t narrow' fresh' left fits =>
    exact same x t (narrow.trans narrow') (fresh.trans fresh') left fits
  | cut t narrow' left unfit =>
    refine cut t (narrow.trans narrow') left ?_
    rwa [fresh]

/-- What follows a first operation is only compared where the answer fits.  An answer of the whole
that fits has to come from a first answer that does. -/
theorem bind (first : NarrowsAt d s op wide F) (next : ∀ a, F a → Narrows d (f a) (g a) G)
    (back : ∀ a, Yields (g a) fun b => G b → F a) :
    NarrowsAt d s (op >>= f) (wide >>= g) G := by
  cases first with
  | same x t narrow fresh left fits =>
    cases x with
    | error e =>
      apply same (.error e) t
      · rw [run_bind, narrow]
        rfl
      · rw [run_bind, fresh]
        rfl
      · exact left
      · rintro b ⟨⟩
    | ok a =>
      have narrow : run op ⟨s, d⟩ = (.ok a, ⟨t, d⟩) := narrow
      have fresh : run wide ⟨s, 0⟩ = (.ok a, ⟨t, 0⟩) := fresh
      cases next a (fits a rfl) t with
      | same y u narrow' fresh' left' fits' =>
        apply same y u
        · rw [run_bind_of_ok narrow, narrow']
        · rw [run_bind_of_ok fresh, fresh']
        · exact left'.trans left
        · exact fits'
      | cut u narrow' left' unfit =>
        apply cut u
        · rw [run_bind_of_ok narrow, narrow']
        · exact left'.trans left
        · rwa [run_bind_of_ok fresh]
  | cut t narrow left unfit =>
    apply cut t
    · rw [run_bind, narrow]
    · exact left
    · intro b answer fits
      rw [run_bind] at answer
      rcases ran : run wide ⟨s, 0⟩ with ⟨_ | a, r⟩ <;> rw [ran] at answer
      · cases answer
      · exact unfit a (by rw [ran]) (back a r b answer fits)

/-- A first operation that reads no expression. -/
theorem andThen (first : NarrowsAt d s op wide fun _ => True)
    (next : ∀ a, Narrows d (f a) (g a) G) : NarrowsAt d s (op >>= f) (wide >>= g) G :=
  first.bind (fun a _ => next a) fun _ => Yields.trivial.mono fun _ _ _ => True.intro

theorem congr {F' : α → Prop} (compared : NarrowsAt d s op wide F) (same : ∀ a, F a ↔ F' a) :
    NarrowsAt d s op wide F' := by
  rwa [← funext fun a => propext (same a)]

/-- What is made of an answer fits if the answer does. -/
theorem map {h : α → β} (compared : NarrowsAt d s op wide F) (same : ∀ a, G (h a) ↔ F a) :
    NarrowsAt d s (op >>= fun a => Pure.pure (h a)) (wide >>= fun a => Pure.pure (h a)) G :=
  compared.bind (fun a fits _ => .pure ((same a).mpr fits)) fun a => .pure (same a).mp

theorem look {f g : List Char → Read β} (compared : NarrowsAt d s (f s) (g s) G) :
    NarrowsAt d s (getRest >>= f) (getRest >>= g) G :=
  compared.of_eq (run_bind_of_ok (run_getRest _) f) (run_bind_of_ok (run_getRest _) g)

theorem get {f g : Reader → Read β} (compared : NarrowsAt d s (f ⟨s, d⟩) (g ⟨s, 0⟩) G) :
    NarrowsAt d s (MonadState.get >>= f) (MonadState.get >>= g) G :=
  compared.of_eq rfl rfl

theorem goOn (left : rest <:+ s) (compared : NarrowsAt d rest op wide F) :
    NarrowsAt d s (goTo rest >>= fun _ => op) (goTo rest >>= fun _ => wide) F := by
  cases compared with
  | same x t narrow fresh left' fits => exact same x t narrow fresh (left'.trans left) fits
  | cut t narrow left' unfit => exact cut t narrow (left'.trans left) unfit

theorem ite {other wider : Read α} (condition : Bool) (first : NarrowsAt d s op wide F)
    (second : NarrowsAt d s other wider F) :
    NarrowsAt d s (if condition = true then op else other)
      (if condition = true then wide else wider) F := by
  cases condition
  · exact second
  · exact first

end NarrowsAt

namespace Narrows

variable {d : Nat} {step wider : Read (Option α)} {F : α → Prop}

theorem many (compared : Narrows d step wider fun o => ∀ a ∈ o, F a) (fuel : List Char) :
    Narrows d (Reader.many step fuel) (Reader.many wider fuel) fun as => ∀ a ∈ as, F a := by
  induction fuel with
  | nil => exact fun s => .pure (List.forall_mem_nil F)
  | cons c fuel ih =>
    intro s
    refine (compared s).bind (fun o fits => ?_) (fun o => ?_)
    · cases o with
      | none => exact fun s => .pure (List.forall_mem_nil F)
      | some a =>
        have first := fits a rfl
        exact fun s => (ih s).map fun as => by
          rw [List.forall_mem_cons, and_iff_right first]
    · cases o with
      | none => exact .pure fun _ a none => absurd none (Option.not_mem_none a)
      | some a =>
        refine Yields.trivial.bind fun as _ => .pure fun all => ?_
        rintro _ ⟨⟩
        exact all a List.mem_cons_self

theorem repeated (compared : Narrows d step wider fun o => ∀ a ∈ o, F a) :
    Narrows d (Reader.repeated step) (Reader.repeated wider) fun as => ∀ a ∈ as, F a :=
  fun s => .look (compared.many s s)

end Narrows

/-! ### Tokens and names -/

variable {d : Nat}

theorem narrows_eat (token : String) : Narrows d (eat token) (eat token) fun _ => True := by
  intro s
  apply NarrowsAt.look
  rcases here : Lexeme.token? token.toList s with _ | rest
  · exact .pure True.intro
  · exact .goOn (Lexeme.takes_of_token? here).suffix (.pure True.intro)

theorem narrows_expect (token : String) : Narrows d (expect token) (expect token) fun _ => True := by
  intro s
  apply (narrows_eat token s).andThen
  intro found s
  apply NarrowsAt.ite
  · exact .pure True.intro
  · exact .look (.refuse (by rintro ⟨⟩))

theorem narrows_eatKeyword (word : String) :
    Narrows d (eatKeyword word) (eatKeyword word) fun _ => True := by
  intro s
  apply NarrowsAt.look
  rcases here : Lexeme.name? s with _ | ⟨name, rest⟩
  · exact .pure True.intro
  · by_cases given : name = word
    · simp only [if_pos given]
      exact .goOn (Lexeme.takes_of_name? here).suffix (.pure True.intro)
    · simp only [if_neg given]
      exact .pure True.intro

theorem narrows_name : Narrows d name name fun _ => True := by
  intro s
  apply NarrowsAt.look
  rcases here : Lexeme.name? s with _ | ⟨name, rest⟩
  · exact .look (.refuse (by rintro ⟨⟩))
  · exact .goOn (Lexeme.takes_of_name? here).suffix (.pure True.intro)

/-! ### Expressions -/

section Parts

variable {n : Nat} {sub wide : Read Expr}

theorem narrows_segment? (parts : Narrows d sub wide fun e => e.nesting ≤ n) :
    Narrows d (segment? sub) (segment? wide) fun o => ∀ segment ∈ o, segment.nesting ≤ n := by
  intro s
  apply NarrowsAt.look
  have nothing : ∀ segment ∈ (none : Option (Segment Expr)), segment.nesting ≤ n :=
    fun _ mem => absurd mem (Option.not_mem_none _)
  split
  · exact .pure nothing
  next rest _ =>
    refine .goOn (List.suffix_cons _ _) ((narrows_name rest).map fun m => ?_)
    refine iff_of_true ?_ True.intro
    rintro _ ⟨⟩
    exact Nat.zero_le n
  next rest =>
    refine .goOn (List.suffix_cons _ _) ((parts rest).bind (fun key fits s => ?_) fun key => ?_)
    · refine (narrows_expect "]" s).map fun _ => iff_of_true ?_ True.intro
      rintro _ ⟨⟩
      exact fits
    · exact Yields.trivial.bind fun _ _ => .pure fun all => all _ rfl
  · exact .pure nothing

theorem narrows_rangeBounds (parts : Narrows d sub wide fun e => e.nesting ≤ n) :
    Narrows d (rangeBounds sub) (rangeBounds wide) fun e => e.nesting ≤ n + 1 := by
  have bounds : ∀ a b : Expr,
      (Expr.range a b).nesting ≤ n + 1 ↔ a.nesting ≤ n ∧ b.nesting ≤ n := by
    intro a b
    rw [Expr.nesting]
    omega
  intro s
  refine (parts s).bind (fun a first s => ?_) fun a => ?_
  · refine (narrows_expect ".." s).andThen fun _ s => ?_
    refine (parts s).bind (fun b last s => ?_) fun b => ?_
    · refine (narrows_expect ")" s).map fun _ => ?_
      rw [bounds]
      exact iff_of_true ⟨first, last⟩ True.intro
    · exact Yields.trivial.bind fun _ _ => .pure fun fits => ((bounds a b).mp fits).2
  · refine Yields.trivial.bind fun _ _ => Yields.trivial.bind fun b _ => ?_
    exact Yields.trivial.bind fun _ _ => .pure fun fits => ((bounds a b).mp fits).1

theorem narrows_wordOrPath (parts : Narrows d sub wide fun e => e.nesting ≤ n) :
    Narrows d (wordOrPath sub) (wordOrPath wide) fun e => e.nesting ≤ n + 1 := by
  intro s
  apply NarrowsAt.look
  rcases here : Lexeme.name? s with _ | ⟨root, rest⟩
  · exact .look (.refuse (by rintro ⟨⟩))
  · apply NarrowsAt.goOn (Lexeme.takes_of_name? here).suffix
    rcases word : word? root with _ | e
    · refine ((narrows_segment? parts).repeated rest).map fun ss => ?_
      rw [Expr.nesting, ← Expr.nestingSegments_le_iff]
      omega
    · exact .pure (readWithin_word word n).nesting

theorem narrows_primary (parts : Narrows d sub wide fun e => e.nesting ≤ n) :
    Narrows d (primary sub) (primary wide) fun e => e.nesting ≤ n + 1 := by
  have constant : ∀ v, (Expr.const v).nesting ≤ n + 1 := by
    intro v
    rw [Expr.nesting]
    omega
  intro s
  apply NarrowsAt.look
  rcases string : Lexeme.quoted? s with _ | ⟨w, rest⟩
  · apply NarrowsAt.look
    rcases number : Lexeme.number? s with _ | ⟨v, rest⟩
    · refine (narrows_eat "(" s).andThen fun opened s => ?_
      apply NarrowsAt.ite
      · exact narrows_rangeBounds parts s
      · exact narrows_wordOrPath parts s
    · obtain ⟨text, -, takes⟩ := Lexeme.takes_of_number? number
      exact .goOn takes.suffix (.pure (constant v))
  · obtain ⟨q, -, takes⟩ := Lexeme.takes_of_quoted? string
    exact .goOn takes.suffix (.pure (constant (.string w)))

end Parts

/-- The levels go down together; the reader with fewer of them is cut off at its last one, where
another one goes on only with expressions that nest. -/
theorem narrows_exprWithin {n m : Nat} (fewer : n ≤ m) :
    Narrows d (exprWithin n) (exprWithin m) fun e => e.nesting ≤ n := by
  induction n generalizing m with
  | zero =>
    intro s
    apply NarrowsAt.cut s rfl (List.suffix_refl s)
    intro e _ fits
    have := e.nesting_pos
    omega
  | succ n ih =>
    cases m with
    | zero => omega
    | succ m => exact narrows_primary (ih (Nat.le_of_succ_le_succ fewer))

/-- The expression fits in the levels that are left when `d` are lost. -/
def FitsBelow (d : Nat) (e : Expr) : Prop := e.nesting ≤ maxDepth - d

theorem narrows_expr : Narrows d expr expr (FitsBelow d) :=
  fun s => (narrows_exprWithin (Nat.sub_le maxDepth d) s).of_eq rfl rfl

/-! ### Conditions, filters and variables -/

theorem narrows_condition :
    Narrows d condition condition fun c => ∀ e ∈ c.exprs, FitsBelow d e := by
  intro s
  refine (narrows_expr s).bind (fun left fits s => .look ?_) fun left => ?_
  · rcases sign : Lexeme.comparison? s with _ | ⟨op, rest⟩
    · exact .pure (List.forall_mem_singleton.mpr fits)
    · refine .goOn (Lexeme.suffix_of_comparison? sign) ((narrows_expr rest).map fun right => ?_)
      rw [Condition.forall_exprs_compare, and_iff_right fits]
  · refine Yields.trivial.bind fun s _ => ?_
    split
    · exact .pure List.forall_mem_singleton.mp
    · refine Yields.trivial.bind fun _ _ => Yields.trivial.bind fun right _ => .pure ?_
      exact fun fits => (Condition.forall_exprs_compare.mp fits).1

theorem narrows_linked? :
    Narrows d linked? linked? fun o => ∀ link ∈ o, ∀ e ∈ link.2.exprs, FitsBelow d e := by
  intro s
  apply NarrowsAt.look
  rcases here : Lexeme.connective? s with _ | ⟨op, rest⟩
  · exact .pure fun _ mem => absurd mem (Option.not_mem_none _)
  · refine .goOn (Lexeme.suffix_of_connective? here) ((narrows_condition rest).map fun c => ?_)
    simp

theorem narrows_chain : Narrows d chain chain fun c => ∀ e ∈ c.exprs, FitsBelow d e := by
  have parts : ∀ first links, (∀ e ∈ (ConditionChain.mk first links).exprs, FitsBelow d e) ↔
      (∀ e ∈ first.exprs, FitsBelow d e) ∧ ∀ link ∈ links, ∀ e ∈ link.2.exprs, FitsBelow d e := by
    intro first links
    rw [ConditionChain.exprs, List.forall_mem_append, List.forall_mem_flatMap]
  intro s
  refine (narrows_condition s).bind (fun first fits s => ?_) fun first => ?_
  · refine (narrows_linked?.repeated s).map fun links => ?_
    rw [parts, and_iff_right fits]
  · exact Yields.trivial.bind fun links _ => .pure fun fits => ((parts first links).mp fits).1

theorem narrows_nextArg? : Narrows d nextArg? nextArg? fun o => ∀ e ∈ o, FitsBelow d e := by
  intro s
  refine (narrows_eat "," s).andThen fun more s => .ite more ?_ ?_
  · exact (narrows_expr s).map fun e => by simp
  · exact .pure fun _ mem => absurd mem (Option.not_mem_none _)

theorem narrows_args : Narrows d args args fun es => ∀ e ∈ es, FitsBelow d e := by
  intro s
  refine (narrows_eat ":" s).andThen fun given s => .ite given ?_ (.pure (List.forall_mem_nil _))
  refine (narrows_expr s).bind (fun first fits s => ?_) fun first => ?_
  · refine (narrows_nextArg?.repeated s).map fun others => ?_
    rw [List.forall_mem_cons, and_iff_right fits]
  · exact Yields.trivial.bind fun others _ => .pure fun fits => (List.forall_mem_cons.mp fits).1

theorem narrows_filter? :
    Narrows d filter? filter? fun o => ∀ f ∈ o, ∀ e ∈ f.args, FitsBelow d e := by
  intro s
  refine (narrows_eat "|" s).andThen fun more s => .ite more (.look ?_) ?_
  · rcases here : Lexeme.filterName? s with _ | ⟨name, rest⟩
    · exact .refuse (by rintro ⟨⟩)
    · refine .goOn (Lexeme.takes_of_filterName? here).suffix ((narrows_args rest).map fun es => ?_)
      simp
  · exact .pure fun _ mem => absurd mem (Option.not_mem_none _)

theorem narrows_filters :
    Narrows d filters filters fun fs => ∀ f ∈ fs, ∀ e ∈ f.args, FitsBelow d e :=
  narrows_filter?.repeated

theorem narrows_readVariable : Narrows d readVariable readVariable fun v =>
    FitsBelow d v.expr ∧ ∀ f ∈ v.filters, ∀ e ∈ f.args, FitsBelow d e := by
  intro s
  apply NarrowsAt.get
  have body : (Reader.mk s d).remaining = (Reader.mk s 0).remaining := rfl
  dsimp only
  rw [body]
  split
  · exact .refuse (by rintro ⟨⟩)
  · apply NarrowsAt.ite
    · exact .refuse (by rintro ⟨⟩)
    · refine (narrows_expr s).bind (fun e fits s => ?_) fun e => ?_
      · refine (narrows_filters s).map fun fs => ?_
        rw [and_iff_right fits]
      · exact Yields.trivial.bind fun fs _ => .pure And.left

/-! ## Operations one after the other -/

/-- The operations that readers are used with. -/
inductive Operation where
  | eat (token : String)
  | expect (token : String)
  | eatKeyword (word : String)
  | name
  | expr
  | condition
  | chain
  | filters
  | readVariable

namespace Operation

/-- What an operation answers. -/
def Answer : Operation → Type
  | eat _ => Bool
  | expect _ => Unit
  | eatKeyword _ => Bool
  | name => String
  | expr => Expr
  | condition => Condition
  | chain => ConditionChain
  | filters => List FilterCall
  | readVariable => Variable

def read : (op : Operation) → Read op.Answer
  | eat token => Reader.eat token
  | expect token => Reader.expect token
  | eatKeyword word => Reader.eatKeyword word
  | name => Reader.name
  | expr => Reader.expr
  | condition => Reader.condition
  | chain => Reader.chain
  | filters => Reader.filters
  | readVariable => Reader.readVariable

/-- The expressions in an answer. -/
def exprs : (op : Operation) → op.Answer → List Expr
  | eat _, _ => []
  | expect _, _ => []
  | eatKeyword _, _ => []
  | name, _ => []
  | expr, (e : Expr) => [e]
  | condition, (c : Condition) => c.exprs
  | chain, (c : ConditionChain) => c.exprs
  | filters, (fs : List FilterCall) => fs.flatMap FilterCall.args
  | readVariable, (v : Variable) => v.expr :: v.filters.flatMap FilterCall.args

theorem narrows_read (op : Operation) :
    Narrows d op.read op.read fun a => ∀ e ∈ op.exprs a, FitsBelow d e := by
  have plain : ∀ {α : Type} {read : Read α}, (Narrows d read read fun _ => True) →
      Narrows d read read fun _ => ∀ e ∈ ([] : List Expr), FitsBelow d e := by
    intro α read compared s
    exact (compared s).congr fun _ => iff_of_true True.intro (List.forall_mem_nil _)
  cases op with
  | eat token => exact plain (narrows_eat token)
  | expect token => exact plain (narrows_expect token)
  | eatKeyword word => exact plain (narrows_eatKeyword word)
  | name => exact plain narrows_name
  | expr =>
    intro s
    exact (narrows_expr s).congr fun e => List.forall_mem_singleton.symm
  | condition => exact narrows_condition
  | chain => exact narrows_chain
  | filters =>
    intro s
    exact (narrows_filters s).congr fun fs => List.forall_mem_flatMap.symm
  | readVariable =>
    intro s
    apply (narrows_readVariable s).congr
    intro v
    exact (and_congr_right' List.forall_mem_flatMap.symm).trans List.forall_mem_cons.symm

/-- An operation leaves an end of the markup, and costs a level if it fails as nested too deep. -/
theorem run_read (op : Operation) (s : List Char) (d : Nat) :
    ∃ x t, run op.read ⟨s, d⟩ = (x, ⟨t, d + lost x⟩) ∧ t <:+ s := by
  cases op.narrows_read (d := d) s with
  | same x t narrow _ left _ => exact ⟨x, t, narrow, left⟩
  | cut t narrow left _ => exact ⟨_, t, narrow, left⟩

end Operation

/-- The reader that a sequence of operations leaves, whether they fail or not. -/
def after (r : Reader) (ops : List Operation) : Reader :=
  ops.foldl (fun r op => (run op.read r).2) r

/-- How many operations of a sequence fail as nested too deep. -/
def overruns : Reader → List Operation → Nat
  | _, [] => 0
  | r, op :: ops => lost (run op.read r).1 + overruns (run op.read r).2 ops

theorem after_eq (ops : List Operation) (s : List Char) (d : Nat) :
    ∃ t, t <:+ s ∧ after ⟨s, d⟩ ops = ⟨t, d + overruns ⟨s, d⟩ ops⟩ := by
  induction ops generalizing s d with
  | nil => exact ⟨s, List.suffix_refl s, rfl⟩
  | cons op ops ih =>
    obtain ⟨x, t, ran, left⟩ := op.run_read s d
    obtain ⟨u, left', rest⟩ := ih t (d + lost x)
    refine ⟨u, left'.trans left, ?_⟩
    simp only [after, overruns, List.foldl_cons, ran] at rest ⊢
    rw [rest, Nat.add_assoc]

/-- The reader stands in the markup behind a sequence of operations.  It has lost a level for each
of them that failed as nested too deep.  It reads what a fresh reader over the rest of the markup
reads, as far as the expressions fit in the levels that are left, and unless it is refused as nested
too deep it does the same as the fresh one. -/
structure GoesOn (markup : String) (ops : List Operation) (r : Reader) : Prop where
  suffix : r.rest <:+ markup.toList
  depth : r.depth = overruns (ofMarkup markup) ops
  fresh : overruns (ofMarkup markup) ops = 0 → r = ⟨r.rest, 0⟩
  accepts : ∀ (op : Operation) (a : op.Answer), (run op.read r).1 = .ok a ↔
    (run op.read ⟨r.rest, 0⟩).1 = .ok a ∧ ∀ e ∈ op.exprs a, e.nesting ≤ maxDepth - r.depth
  agrees : ∀ (op : Operation) (x : Except Error op.Answer) (r' : Reader), run op.read r = (x, r') →
    x ≠ .error (Cause.expressionTooDeep : Error) → run op.read ⟨r.rest, 0⟩ = (x, ⟨r'.rest, lost x⟩)

theorem used_reader_goes_on (markup : String) (ops : List Operation) :
    GoesOn markup ops (after (ofMarkup markup) ops) := by
  obtain ⟨rest, left, same⟩ := after_eq ops markup.toList 0
  rw [Nat.zero_add] at same
  have same : after (ofMarkup markup) ops = ⟨rest, overruns (ofMarkup markup) ops⟩ := same
  rw [same]
  generalize levels : overruns (ofMarkup markup) ops = d
  refine ⟨left, levels.symm, ?_, ?_, ?_⟩
  · intro none
    rw [← levels, none]
  · intro op a
    cases op.narrows_read (d := d) rest with
    | same x t narrow fresh _ fits =>
      rw [narrow, fresh]
      exact ⟨fun answer => ⟨answer, fits a answer⟩, And.left⟩
    | cut t narrow _ unfit =>
      rw [narrow]
      refine ⟨fun never => ?_, fun ⟨answer, fits⟩ => absurd fits (unfit a answer)⟩
      cases never
  · intro op x r' ran other
    cases op.narrows_read (d := d) rest with
    | same y t narrow fresh _ _ =>
      rw [narrow] at ran
      cases ran
      exact fresh
    | cut t narrow _ _ =>
      rw [narrow] at ran
      cases ran
      exact absurd rfl other

/-! ### A level that is lost -/

/-- A path with so many paths in each other's brackets. -/
def bracketed : Nat → Expr
  | 0 => .path "a" []
  | n + 1 => .path "a" [.index (bracketed n)]

theorem nesting_bracketed (n : Nat) : (bracketed n).nesting = n + 1 := by
  induction n with
  | zero => rfl
  | succ n ih =>
    rw [bracketed, Expr.nesting, Expr.nestingSegments, ih, Expr.nestingSegments]
    omega

theorem built_bracketed (n : Nat) : (bracketed n).Built Value.IsLiteral := by
  have root : Lexeme.SpellsName "a".toList := Lexeme.spellsName_of_isName rfl
  induction n with
  | zero =>
    rw [bracketed, Expr.Built, Expr.BuiltSegments]
    exact ⟨root, rfl, True.intro⟩
  | succ n ih =>
    rw [bracketed, Expr.Built, Expr.BuiltSegments, Expr.BuiltSegments]
    exact ⟨root, rfl, ih, True.intro⟩

/-- Behind as many opening brackets as there are levels, an expression is refused. -/
theorem run_exprWithin_replicate (n d : Nat) (s : List Char) :
    run (exprWithin n) ⟨List.replicate n '(' ++ s, d⟩ =
      (.error (Cause.expressionTooDeep : Error), ⟨s, d + 1⟩) := by
  induction n with
  | zero => rfl
  | succ n ih =>
    have behind : Lexeme.skipBlanks (List.replicate (n + 1) '(' ++ s) =
        '(' :: (List.replicate n '(' ++ s) := rfl
    have opened : Lexeme.token? ['('] (List.replicate (n + 1) '(' ++ s) =
        some (List.replicate n '(' ++ s) := Lexeme.token?_of_append behind
    rw [exprWithin, run_primary]
    dsimp only
    rw [Lexeme.quoted?_eq_none behind rfl, Lexeme.number?_eq_none behind (by decide) rfl, opened]
    dsimp only
    rw [rangeBounds, run_bind, ih]

/-- An expression that needs all levels is read by a fresh reader, and refused behind as many opening
brackets. -/
theorem loses_level {e : Expr} (built : e.Built Value.IsLiteral) (nesting : e.nesting = 150) :
    after (ofMarkup (String.ofList (List.replicate 150 '(' ++ e.print))) [.expr] = ⟨e.print, 1⟩ ∧
    (run Reader.expr ⟨e.print, 1⟩).1 = .error (Cause.expressionTooDeep : Error) ∧
    (run Reader.expr ⟨e.print, 0⟩).1 = .ok e := by
  have behind : Lexeme.skipBlanks e.print = e.print ++ [] := by
    rw [← skipBlanks_print built, List.append_nil]
  refine ⟨?_, ?_, ?_⟩
  · have refused := run_exprWithin_replicate maxDepth 0 e.print
    have read : ∀ s, after ⟨s, 0⟩ [.expr] = (run (exprWithin maxDepth) ⟨s, 0⟩).2 := fun _ => rfl
    rw [ofMarkup, String.toList_ofList, read, show 150 = maxDepth from rfl, refused]
  · apply (reads_expr e 149 built behind .nil).refuses
    omega
  · have read := (reads_top built behind .nil).answers (by unfold Fits maxDepth; omega)
    rw [read]

/-- Behind 150 opening brackets the reader has lost a level, and the expression that follows is
refused, which a fresh reader reads. -/
theorem used_reader_loses_level :
    after (ofMarkup (String.ofList (List.replicate 150 '(' ++ (bracketed 149).print))) [.expr] =
      ⟨(bracketed 149).print, 1⟩ ∧
    (run Reader.expr ⟨(bracketed 149).print, 1⟩).1 =
      .error (Cause.expressionTooDeep : Error) ∧
    (run Reader.expr ⟨(bracketed 149).print, 0⟩).1 = .ok (bracketed 149) :=
  loses_level (built_bracketed 149) (nesting_bracketed 149)

end Reader

end Stencil
