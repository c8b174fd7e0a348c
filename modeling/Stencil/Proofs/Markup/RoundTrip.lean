import Stencil.Proofs.Markup.Written

/-!
# Reading undoes writing

Expressions, chains of conditions and filters are read back from what is written for them, up to the
nesting that readers allow (`markup_inverts`).  The other way round, whatever is read is made of
names and constants that can be written, apart from numbers that are no integers of 64 bits.
-/

namespace Stencil

open Lexeme (skipBlanks SpellsName)

namespace Reader

variable {sub : Read Expr}

/-! ## What is read can be written -/

/-- A constant that is read: a literal, or a number that is no integer of 64 bits. -/
def IsRead (v : Value) : Prop := v.IsLiteral ∨ ∃ x, v = .float x

/-- An expression that is read when so many levels are left. -/
structure ReadWithin (n : Nat) (e : Expr) : Prop where
  nesting : e.nesting ≤ n
  built : e.Built IsRead

theorem yields_name : Yields Reader.name fun n => SpellsName n.toList := by
  intro r n answer
  rw [Reader.name, run_bind_of_ok (run_getRest r)] at answer
  rcases read : Lexeme.name? r.rest with _ | ⟨m, rest⟩ <;> rw [read] at answer
  · cases answer
  · cases answer
    exact (Lexeme.spelled_of_name? read).1

theorem readWithin_const (v : Value) (read : IsRead v) (n : Nat) :
    ReadWithin (n + 1) (.const v) where
  nesting := by
    rw [Expr.nesting]
    omega
  built := read

theorem readWithin_word {w : String} {e : Expr} (word : word? w = some e) (n : Nat) :
    ReadWithin (n + 1) e := by
  have empty : ReadWithin (n + 1) .empty := ⟨by rw [Expr.nesting]; omega, trivial⟩
  unfold word? at word
  split_ifs at word <;> cases word
  · exact readWithin_const (.bool true) (Or.inl trivial) n
  · exact readWithin_const (.bool false) (Or.inl trivial) n
  · exact readWithin_const .none (Or.inl trivial) n
  · exact empty

section Within

variable {n : Nat} (within : Yields sub (ReadWithin n))

include within

theorem yields_segment : Yields (segment? sub) fun o => ∀ segment ∈ o,
    segment.nesting ≤ n ∧ segment.Built IsRead := by
  refine Yields.trivial.bind fun s _ => ?_
  split
  · exact .none
  · refine Yields.trivial.bind fun _ _ => yields_name.bind fun m spelled => .pure ?_
    rintro _ ⟨⟩
    exact ⟨Nat.zero_le n, spelled⟩
  · refine Yields.trivial.bind fun _ _ => within.bind fun key read => ?_
    refine Yields.trivial.bind fun _ _ => .pure ?_
    rintro _ ⟨⟩
    exact ⟨read.nesting, read.built⟩
  · exact .none

theorem yields_rangeBounds : Yields (rangeBounds sub) (ReadWithin (n + 1)) := by
  refine within.bind fun a first => Yields.trivial.bind fun _ _ => ?_
  refine within.bind fun b last => Yields.trivial.bind fun _ _ =>
    .pure ⟨?_, first.built, last.built⟩
  rw [Expr.nesting]
  have := first.nesting
  have := last.nesting
  omega

theorem yields_wordOrPath : Yields (wordOrPath sub) (ReadWithin (n + 1)) := by
  intro r e answer
  rw [run_wordOrPath] at answer
  split at answer
  · cases answer
  next root rest read =>
    split at answer
    next e' word =>
      cases answer
      exact readWithin_word word n
    next free =>
      have path : Yields (do return Expr.path root (← repeated (segment? sub)))
          (ReadWithin (n + 1)) := by
        refine (yields_segment within).repeated.bind fun ss segments => .pure ⟨?_, ?_⟩
        · rw [Expr.nesting]
          have := (Expr.nestingSegments_le_iff ss n).mpr fun segment mem => (segments segment mem).1
          omega
        · exact ⟨(Lexeme.spelled_of_name? read).1, free,
            (Expr.builtSegments_iff _ ss).mpr fun segment mem => (segments segment mem).2⟩
      exact path _ e answer

theorem yields_primary : Yields (primary sub) (ReadWithin (n + 1)) := by
  intro r e answer
  rw [run_primary] at answer
  split at answer
  next s rest read =>
    cases answer
    exact readWithin_const (.string s) (Or.inl (Lexeme.quotable_of_quoted? read)) n
  · split at answer
    next v rest read =>
      cases answer
      rcases Lexeme.number_of_number? read with ⟨m, rfl⟩ | ⟨x, rfl⟩
      · exact readWithin_const (.int m) (Or.inl trivial) n
      · exact readWithin_const (.float x) (Or.inr ⟨x, rfl⟩) n
    · split at answer
      · exact yields_rangeBounds within _ e answer
      · exact yields_wordOrPath within _ e answer

end Within

theorem yields_exprWithin (n : Nat) : Yields (exprWithin n) (ReadWithin n) := by
  induction n with
  | zero => exact Yields.trivial.bind fun _ _ => .refuse
  | succ n ih => exact yields_primary ih

theorem yields_expr : Yields expr (ReadWithin maxDepth) := by
  refine Yields.trivial.bind fun r _ => (yields_exprWithin _).mono fun e read => ?_
  exact ⟨read.nesting.trans (Nat.sub_le _ _), read.built⟩

theorem yields_condition : Yields condition fun c => ∀ e ∈ c.exprs, ReadWithin maxDepth e := by
  refine yields_expr.bind fun left read => Yields.trivial.bind fun s _ => ?_
  split
  · exact .pure (List.forall_mem_singleton.mpr read)
  · refine Yields.trivial.bind fun _ _ => yields_expr.bind fun right also => .pure ?_
    exact Condition.forall_exprs_compare.mpr ⟨read, also⟩

theorem yields_chain : Yields chain fun c => ∀ e ∈ c.exprs, ReadWithin maxDepth e := by
  have linked : Yields linked? fun o => ∀ link ∈ o, ∀ e ∈ link.2.exprs, ReadWithin maxDepth e := by
    refine Yields.trivial.bind fun s _ => ?_
    split
    · exact .none
    · refine Yields.trivial.bind fun _ _ => yields_condition.bind fun c read => .pure ?_
      rintro _ ⟨⟩
      exact read
  refine yields_condition.bind fun first read => linked.repeated.bind fun links also => .pure ?_
  rw [ConditionChain.exprs, List.forall_mem_append, List.forall_mem_flatMap]
  exact ⟨read, also⟩

theorem yields_args : Yields args fun es => ∀ e ∈ es, ReadWithin maxDepth e := by
  have next : Yields nextArg? fun o => ∀ e ∈ o, ReadWithin maxDepth e := by
    refine Yields.trivial.bind fun eaten _ => ?_
    split
    · refine yields_expr.bind fun e read => .pure ?_
      rintro _ ⟨⟩
      exact read
    · exact .none
  refine Yields.trivial.bind fun eaten _ => ?_
  split
  · refine yields_expr.bind fun first read => next.repeated.bind fun others also => .pure ?_
    exact List.forall_mem_cons.mpr ⟨read, also⟩
  · exact .pure (List.forall_mem_nil _)

theorem yields_filters : Yields filters fun fs =>
    ∀ f ∈ fs, f.Named ∧ ∀ e ∈ f.args, ReadWithin maxDepth e := by
  refine Yields.repeated (Yields.trivial.bind fun eaten _ => ?_)
  split
  · refine Yields.trivial.bind fun s _ => ?_
    split
    · exact .refuse
    next name rest read =>
      refine Yields.trivial.bind fun _ _ => yields_args.bind fun es also => .pure ?_
      rintro _ ⟨⟩
      exact ⟨Lexeme.filterName_of_filterName? read, also⟩
  · exact .none

end Reader

/-! ## Whole markup -/

/-- A form of markup: how it is read and written, the expressions in it, and whether the names in it
that stand outside of expressions can be written. -/
structure Form (α : Type) where
  read : Read α
  print : α → List Char
  exprs : α → List Expr
  Named : α → Prop

def Expr.form : Form Expr := ⟨Reader.expr, Expr.print, fun e => [e], fun _ => True⟩

def ConditionChain.form : Form ConditionChain :=
  ⟨Reader.chain, ConditionChain.print, ConditionChain.exprs, fun _ => True⟩

/-- Filters, one behind the other. -/
def FilterCall.form : Form (List FilterCall) :=
  ⟨Reader.filters, fun fs => fs.flatMap FilterCall.print, fun fs => fs.flatMap FilterCall.args,
    fun fs => ∀ f ∈ fs, f.Named⟩

namespace Form

variable {α : Type} (f : Form α)

/-- Markup of this form from its start to its end, read with a fresh reader. -/
def parse (markup : String) : Except Error α := Reader.readAll f.read markup

def text (a : α) : String := String.ofList (f.print a)

/-- All names and constants can be written. -/
structure Printable (a : α) : Prop where
  named : f.Named a
  built : ∀ e ∈ f.exprs a, e.Built Value.IsLiteral

/-- No expression nests deeper than the reader goes. -/
def Fits (a : α) : Prop := ∀ e ∈ f.exprs a, e.nesting ≤ Reader.maxDepth

/-- Reading undoes writing. -/
structure Inverts : Prop where
  accepted : ∀ a, f.Printable a → f.Fits a → f.parse (f.text a) = .ok a
  refused : ∀ a, f.Printable a → ¬ f.Fits a →
    ∃ e, f.parse (f.text a) = .error e ∧ e.kind = .nestingTooDeep
  /-- Nothing else is read, apart from numbers that are no integers of 64 bits. -/
  parsed : ∀ markup a, f.parse markup = .ok a →
    f.Fits a ∧ f.Named a ∧ ∀ e ∈ f.exprs a, e.Built Reader.IsRead
  /-- What was read without such numbers is read again from what is written for it. -/
  again : ∀ markup a, f.parse markup = .ok a → f.Printable a → f.parse (f.text a) = .ok a

variable {f}

theorem inverts_of (reads : ∀ a, f.Printable a → Reader.Reads f.read ⟨f.print a, 0⟩ (f.Fits a) a [])
    (yields : Reader.Yields f.read fun a =>
      f.Named a ∧ ∀ e ∈ f.exprs a, Reader.ReadWithin Reader.maxDepth e) : f.Inverts := by
  have start : ∀ a, Reader.ofMarkup (f.text a) = ⟨f.print a, 0⟩ := fun a => by
    rw [Reader.ofMarkup, text, String.toList_ofList]
  have accepted : ∀ a, f.Printable a → f.Fits a → f.parse (f.text a) = .ok a := by
    intro a printable fits
    have answer := (reads a printable).answers fits
    rw [parse, Reader.readAll, start, Reader.run_bind_of_ok answer]
    rfl
  have parsed : ∀ markup a, f.parse markup = .ok a →
      f.Named a ∧ ∀ e ∈ f.exprs a, Reader.ReadWithin Reader.maxDepth e := by
    have yielded : Reader.Yields (do let a ← f.read; Reader.expectEnd; return a) fun a =>
        f.Named a ∧ ∀ e ∈ f.exprs a, Reader.ReadWithin Reader.maxDepth e :=
      yields.bind fun a holds => Reader.Yields.trivial.bind fun _ _ => .pure holds
    exact fun markup a read => yielded _ a read
  refine ⟨accepted, ?_, ?_, ?_⟩
  · intro a printable tooDeep
    refine ⟨Cause.expressionTooDeep, ?_, rfl⟩
    rw [parse, Reader.readAll, start]
    exact Reader.run_bind_of_error ((reads a printable).refuses tooDeep) _
  · intro markup a read
    obtain ⟨named, within⟩ := parsed markup a read
    exact ⟨fun e mem => (within e mem).nesting, named, fun e mem => (within e mem).built⟩
  · intro markup a read printable
    exact accepted a printable fun e mem => ((parsed markup a read).2 e mem).nesting

end Form

/-- Expressions, chains of conditions and filters are read back where they are written. -/
theorem markup_inverts : Expr.form.Inverts ∧ ConditionChain.form.Inverts ∧
    FilterCall.form.Inverts := by
  refine ⟨Form.inverts_of ?_ ?_, Form.inverts_of ?_ ?_, Form.inverts_of ?_ ?_⟩
  · intro e printable
    have built := List.forall_mem_singleton.mp printable.built
    have behind : skipBlanks e.print = e.print ++ [] := by
      rw [← Reader.skipBlanks_print built, List.append_nil]
    exact (Reader.reads_top built behind .nil).congr List.forall_mem_singleton.symm
  · exact Reader.yields_expr.mono fun e read => ⟨trivial, List.forall_mem_singleton.mpr read⟩
  · exact fun c printable => Reader.reads_chain printable.built
  · exact Reader.yields_chain.mono fun c read => ⟨trivial, read⟩
  · intro fs printable
    exact (Reader.reads_filters printable.named (List.forall_mem_flatMap.mp printable.built)).congr
      List.forall_mem_flatMap.symm
  · exact Reader.yields_filters.mono fun fs read =>
      ⟨fun f mem => (read f mem).1, List.forall_mem_flatMap.mpr fun f mem => (read f mem).2⟩

example : Expr.form.text (.path "a" [.attr "b", .index (.range (.const (.int 1)) .empty)]) =
    "a.b[(1..empty)]" := by
  decide +kernel

end Stencil
