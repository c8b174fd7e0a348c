import Stencil.Proofs.Markup.Reading
import Stencil.Proofs.Render.Course

/-!
# What handlers refuse

When markup is refused, the error is one of parsing and does not say where: readers know nothing of
the document that they read a part of.  The property holds of the smallest readers and of whatever
is put together from readers that have it, and so of everything that the built-in handlers read.
-/

namespace Stencil

/-- The causes of parsing, apart from the one that only a scanner can give. -/
def Cause.isRefusal : Cause → Bool
  | .unnamedTag => false
  | cause => cause.kind.category == .parsing

theorem Cause.ne_unnamedTag {cause : Cause} (refusal : cause.isRefusal = true) :
    cause ≠ .unnamedTag := by
  rintro rfl
  cases refusal

/-- A bare cause of parsing. -/
def Error.IsRefusal (e : Error) : Prop := ∃ cause : Cause, cause.isRefusal = true ∧ e = cause

/-! ## Readers -/

namespace Reader

variable {α β : Type}

/-- Whatever the operation fails with is a refusal. -/
def Refuses (op : Read α) : Prop := ∀ r e, (run op r).1 = .error e → e.IsRefusal

namespace Refuses

theorem pure (a : α) : Refuses (Pure.pure a : Read α) := by
  rintro r e ⟨⟩

theorem refuse {cause : Cause} (refusal : cause.isRefusal = true) :
    Refuses (Reader.refuse cause : Read α) := by
  rintro r e ⟨⟩
  exact ⟨cause, refusal, rfl⟩

theorem get : Refuses (MonadState.get : Read Reader) := by
  rintro r e ⟨⟩

theorem modify (f : Reader → Reader) : Refuses (modify f : Read PUnit) := by
  rintro r e ⟨⟩

theorem bind {op : Read α} {f : α → Read β} (first : Refuses op) (next : ∀ a, Refuses (f a)) :
    Refuses (op >>= f) := by
  intro r e failed
  rw [run_bind] at failed
  rcases ran : run op r with ⟨_ | a, r'⟩ <;> rw [ran] at failed
  · cases failed
    exact first r _ (congrArg Prod.fst ran)
  · exact next a r' e failed

/-- An operation that looks at the markup that is left. -/
theorem look {f : List Char → Read α} (refuses : ∀ s, Refuses (f s)) : Refuses (getRest >>= f) :=
  .bind (.bind .get fun _ => .pure _) refuses

/-- An operation behind a step forward. -/
theorem goOn {rest : List Char} {op : Read α} (refuses : Refuses op) :
    Refuses (goTo rest >>= fun _ => op) :=
  .bind (.modify _) fun _ => refuses

theorem ite {op other : Read α} (condition : Bool) (first : Refuses op) (second : Refuses other) :
    Refuses (if condition = true then op else other) := by
  split
  · exact first
  · exact second

theorem many {step : Read (Option α)} (refuses : Refuses step) (s : List Char) :
    Refuses (many step s) := by
  induction s with
  | nil => exact .pure []
  | cons c s ih =>
    refine refuses.bind fun o => ?_
    cases o with
    | none => exact .pure []
    | some a => exact ih.bind fun as => .pure (a :: as)

theorem repeated {step : Read (Option α)} (refuses : Refuses step) : Refuses (repeated step) :=
  .look fun s => refuses.many s

end Refuses

/-! ### Tokens and names -/

theorem refuses_eat (token : String) : Refuses (eat token) := by
  refine .look fun s => ?_
  split
  · exact .goOn (.pure true)
  · exact .pure false

theorem refuses_expect (token : String) : Refuses (expect token) :=
  (refuses_eat token).bind fun found =>
    .ite found (.pure ()) (.look fun _ => .refuse rfl)

theorem refuses_eatKeyword (word : String) : Refuses (eatKeyword word) := by
  refine .look fun s => ?_
  split
  · split
    · exact .goOn (.pure true)
    · exact .pure false
  · exact .pure false

theorem refuses_name : Refuses name := by
  refine .look fun s => ?_
  split
  · exact .goOn (.pure _)
  · exact .look fun _ => .refuse rfl

theorem refuses_expectEnd : Refuses expectEnd :=
  Refuses.get.bind fun r => .ite r.atEnd (.pure ()) (.look fun _ => .refuse rfl)

/-! ### Expressions -/

section Parts

variable {sub : Read Expr}

theorem refuses_segment? (refuses : Refuses sub) : Refuses (segment? sub) := by
  refine .look fun s => ?_
  split
  · exact .pure none
  · exact .goOn (refuses_name.bind fun _ => .pure _)
  · exact .goOn (refuses.bind fun _ => (refuses_expect "]").bind fun _ => .pure _)
  · exact .pure none

theorem refuses_rangeBounds (refuses : Refuses sub) : Refuses (rangeBounds sub) :=
  refuses.bind fun _ => (refuses_expect "..").bind fun _ => refuses.bind fun _ =>
    (refuses_expect ")").bind fun _ => .pure _

theorem refuses_wordOrPath (refuses : Refuses sub) : Refuses (wordOrPath sub) := by
  refine .look fun s => ?_
  split
  · exact .look fun _ => .refuse rfl
  · refine .goOn ?_
    split
    · exact .pure _
    · exact (refuses_segment? refuses).repeated.bind fun _ => .pure _

theorem refuses_primary (refuses : Refuses sub) : Refuses (primary sub) := by
  refine .look fun s => ?_
  split
  · exact .goOn (.pure _)
  · refine .look fun s => ?_
    split
    · exact .goOn (.pure _)
    · exact (refuses_eat "(").bind fun opened =>
        .ite opened (refuses_rangeBounds refuses) (refuses_wordOrPath refuses)

end Parts

theorem refuses_exprWithin (levels : Nat) : Refuses (exprWithin levels) := by
  induction levels with
  | zero => exact (Refuses.modify _).bind fun _ => .refuse rfl
  | succ levels ih => exact refuses_primary ih

theorem refuses_expr : Refuses expr := Refuses.get.bind fun _ => refuses_exprWithin _

/-! ### Conditions, filters and variables -/

theorem refuses_condition : Refuses condition := by
  refine refuses_expr.bind fun left => .look fun s => ?_
  split
  · exact .pure _
  · exact .goOn (refuses_expr.bind fun _ => .pure _)

theorem refuses_linked? : Refuses linked? := by
  refine .look fun s => ?_
  split
  · exact .pure none
  · exact .goOn (refuses_condition.bind fun _ => .pure _)

theorem refuses_chain : Refuses chain :=
  refuses_condition.bind fun _ => refuses_linked?.repeated.bind fun _ => .pure _

theorem refuses_nextArg? : Refuses nextArg? :=
  (refuses_eat ",").bind fun more => .ite more (refuses_expr.bind fun _ => .pure _) (.pure none)

theorem refuses_args : Refuses args :=
  (refuses_eat ":").bind fun given =>
    .ite given (refuses_expr.bind fun _ => refuses_nextArg?.repeated.bind fun _ => .pure _)
      (.pure [])

theorem refuses_filter? : Refuses filter? := by
  refine (refuses_eat "|").bind fun more => .ite more (.look fun s => ?_) (.pure none)
  split
  · exact .refuse rfl
  · exact .goOn (refuses_args.bind fun _ => .pure _)

theorem refuses_readVariable : Refuses readVariable := by
  refine Refuses.get.bind fun r => ?_
  dsimp only
  split
  · exact .refuse rfl
  · exact .ite _ (.refuse rfl)
      (refuses_expr.bind fun _ => refuses_filter?.repeated.bind fun _ => .pure _)

theorem Refuses.readAll {op : Read α} (refuses : Refuses op) {markup : String} {e : Error}
    (failed : readAll op markup = .error e) : e.IsRefusal :=
  (refuses.bind fun _ => refuses_expectEnd.bind fun _ => .pure _) (ofMarkup markup) e failed

end Reader

/-! ## Handlers -/

/-- Whatever a handler says of markup that it does not accept is a refusal. -/
structure Handler.Refuses (h : Handler) : Prop where
  parse : ∀ markup e, h.parse markup = .error e → e.IsRefusal
  parseClause : ∀ name markup e, h.parseClause name markup = .error e → e.IsRefusal

theorem Tag.refuses {μ : Type} [MarkupType μ] {t : Tag μ}
    (parse : ∀ markup e, t.parse markup = .error e → e.IsRefusal) : t.handler.Refuses where
  parse markup e failed := parse markup e (map_eq_error.mp failed)
  parseClause name _ _ failed := ⟨.unexpectedClause name, rfl, (Except.error.inj failed).symm⟩

theorem Block.refuses {μ κ : Type} [MarkupType μ] [MarkupType κ] {b : Block μ κ}
    (parse : ∀ markup e, b.parse markup = .error e → e.IsRefusal)
    (parseClause : ∀ name markup e, b.parseClause name markup = .error e → e.IsRefusal) :
    b.handler.Refuses where
  parse markup e failed := parse markup e (map_eq_error.mp failed)
  parseClause name markup e failed := parseClause name markup e (map_eq_error.mp failed)

namespace Tags

open Reader

theorem refuses_readAssignment : Refuses readAssignment :=
  refuses_name.bind fun _ => (refuses_expect "=").bind fun _ => refuses_readVariable.bind fun _ =>
    .pure _

theorem refuses_nextCandidate? : Refuses nextCandidate? :=
  (refuses_eat ",").bind fun comma => .ite comma (refuses_expr.bind fun _ => .pure _)
    ((refuses_eatKeyword "or").bind fun or => .ite or (refuses_expr.bind fun _ => .pure _)
      (.pure none))

theorem refuses_candidates : Refuses candidates :=
  refuses_expr.bind fun _ => refuses_nextCandidate?.repeated.bind fun _ => .pure _

theorem refuses_loopOption? : Refuses loopOption? := by
  refine (refuses_eatKeyword "reversed").bind fun reversed => .ite reversed (.pure _) ?_
  refine (refuses_eatKeyword "limit").bind fun limit => .ite limit ?_ ?_
  · exact (refuses_expect ":").bind fun _ => refuses_expr.bind fun _ => .pure _
  · exact (refuses_eatKeyword "offset").bind fun offset => .ite offset
      ((refuses_expect ":").bind fun _ => refuses_expr.bind fun _ => .pure _) (.pure none)

theorem refuses_readLoop : Refuses readLoop :=
  refuses_name.bind fun _ => (refuses_eatKeyword "in").bind fun found => .ite found
    (refuses_expr.bind fun _ => refuses_loopOption?.repeated.bind fun _ => .pure _)
    (.refuse rfl)

theorem refuses_readNothing {name markup : String} {e : Error}
    (failed : readNothing name markup = .error e) : e.IsRefusal := by
  unfold readNothing at failed
  split at failed
  · cases failed
  · exact ⟨.takesNoArguments name, rfl, (Except.error.inj failed).symm⟩

theorem refuses_readElse {name markup : String} {e : Error}
    (failed : readElse name markup = .error e) : e.IsRefusal := by
  unfold readElse at failed
  split at failed
  · exact refuses_readNothing failed
  · exact ⟨.unexpectedClause name, rfl, (Except.error.inj failed).symm⟩

theorem refuses_ifClause {name markup : String} {e : Error}
    (failed : «if».parseClause name markup = .error e) : e.IsRefusal := by
  unfold «if» at failed
  dsimp only at failed
  split at failed
  · exact refuses_chain.readAll (map_eq_error.mp failed)
  · exact refuses_readElse (map_eq_error.mp failed)

theorem refuses_caseClause {name markup : String} {e : Error}
    (failed : case.parseClause name markup = .error e) : e.IsRefusal := by
  unfold case at failed
  dsimp only at failed
  split at failed
  · exact refuses_candidates.readAll (map_eq_error.mp failed)
  · exact refuses_readElse (map_eq_error.mp failed)

theorem refuses_readLoopElse {name markup : String} {e : Error}
    (failed : readLoopElse name markup = .error e) : e.IsRefusal := by
  unfold readLoopElse at failed
  split at failed
  · cases failed
  · exact ⟨.unexpectedClause name, rfl, (Except.error.inj failed).symm⟩

end Tags

open Tags Reader in
/-- Every built-in handler refuses what it does not accept, and says nothing of a place. -/
theorem Handler.IsBuiltin.refuses {h : Handler} (isBuiltin : h.IsBuiltin) : h.Refuses := by
  have readsName : ∀ markup e, readName markup = .error e → e.IsRefusal :=
    fun _ _ failed => refuses_name.readAll failed
  have readsExpr : ∀ markup e, Expr.parse markup = .error e → e.IsRefusal :=
    fun _ _ failed => refuses_expr.readAll failed
  have readsChain : ∀ markup e, ConditionChain.parse markup = .error e → e.IsRefusal :=
    fun _ _ failed => refuses_chain.readAll failed
  have noClause : ∀ name (markup : String) e,
      (.error (Cause.unexpectedClause name) : Except Error Unit) = .error e → e.IsRefusal :=
    fun name _ _ failed => ⟨.unexpectedClause name, rfl, (Except.error.inj failed).symm⟩
  obtain ⟨name, bound⟩ := isBuiltin
  have listed := Table.mem_ofList (Table.mem_of_find? bound)
  simp only [List.mem_cons, List.not_mem_nil, or_false, Prod.mk.injEq] at listed
  rcases listed with ⟨-, rfl⟩ | ⟨-, rfl⟩ | ⟨-, rfl⟩ | ⟨-, rfl⟩ | ⟨-, rfl⟩ | ⟨-, rfl⟩ | ⟨-, rfl⟩ |
    ⟨-, rfl⟩ | ⟨-, rfl⟩ | ⟨-, rfl⟩ | ⟨-, rfl⟩ | ⟨-, rfl⟩ | ⟨-, rfl⟩
  · exact Tag.refuses fun _ _ failed => refuses_readAssignment.readAll failed
  · exact Block.refuses readsName noClause
  · exact Tag.refuses readsName
  · exact Tag.refuses readsName
  · exact Block.refuses readsChain fun _ _ _ failed => refuses_ifClause failed
  · exact Block.refuses readsChain fun _ _ _ failed => refuses_readElse failed
  · exact Block.refuses readsExpr fun _ _ _ failed => refuses_caseClause failed
  · exact Block.refuses (fun _ _ failed => absurd failed (by simp [comment])) noClause
  · exact Block.refuses (fun _ _ failed => refuses_readLoop.readAll failed)
      fun _ _ _ failed => refuses_readLoopElse failed
  · exact Tag.refuses fun _ _ failed => refuses_readNothing failed
  · exact Tag.refuses fun _ _ failed => refuses_readNothing failed
  · exact Tag.refuses readsExpr
  · exact Block.refuses readsName noClause

end Stencil
