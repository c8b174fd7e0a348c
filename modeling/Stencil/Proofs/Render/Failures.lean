import Stencil.Proofs.Render.History

/-!
# Failures

What a node has done to the output and to the errors by the time that it fails.  With a built-in
handler it has done nothing, unless it is a choice: the sections that a choice has rendered before
it fails stay as they are.
-/

namespace Stencil

/-- Nothing has been written, no error has been recorded, and the template is the same. -/
structure State.Untouched (s t : State) : Prop where
  output : t.output = s.output
  failures : t.context.failures = s.context.failures
  template : t.context.template = s.context.template

/-- Where a node comes to with the descents that it has finished. -/
def State.afterAll (sub : Renderer) (s : State) (ds : List Descent) : State :=
  (ds.getLast?.map (Descent.exit sub)).getD s

/-- What a node in this role has done before it fails. -/
def State.beforeFailure (sub : Renderer) (s : State) (ds : List Descent) : Role → State
  | .choice => s.afterAll sub ds
  | _ => s

theorem State.Untouched.refl (s : State) : s.Untouched s := ⟨rfl, rfl, rfl⟩

theorem State.Untouched.trans {s t u : State} (first : s.Untouched t) (second : t.Untouched u) :
    s.Untouched u :=
  ⟨second.output.trans first.output, second.failures.trans first.failures,
    second.template.trans first.template⟩

theorem State.Rebinds.untouched {s t : State} (rebinds : s.Rebinds t) : s.Untouched t := by
  obtain ⟨_, _, _, rfl⟩ := rebinds
  exact ⟨rfl, rfl, rfl⟩

section Courses

variable {sub : Renderer} {role : Role} {n : Node} {s t : State} {ds : List Descent} {e : Error}

theorem State.afterAll_cons (d : Descent) :
    s.afterAll sub (d :: ds) = (d.exit sub).afterAll sub ds := by
  unfold afterAll
  rw [List.getLast?_cons]
  cases ds.getLast? <;> rfl

theorem Rounds.of_accepted (accepts : ∀ nodes s, (sub nodes s).1 = .ok ()) {nodes : List Node}
    {r : Except Error Unit} (rounds : Rounds sub nodes s ds r t) : r = .ok () := by
  induction rounds with
  | finished => rfl
  | @refused s t u e rebinds rendered =>
    have accepted := accepts nodes t
    rw [rendered] at accepted
    exact accepted
  | next rebinds rendered goesOn rest ih => exact ih
  | left => rfl
  | extended => rfl

/-- A loop that fails has done so in its first round. -/
theorem Rounds.of_failed (isUniform : sub.IsUniform) {nodes : List Node}
    (rounds : Rounds sub nodes s ds (.error e) t) : s.Rebinds t := by
  rcases isUniform with refuses | accepts
  · have notOk {s t : State} : sub nodes s ≠ (.ok (), t) := by
      obtain ⟨_, refused⟩ := refuses nodes s
      rw [refused]
      exact nofun
    cases rounds with
    | @refused _ t _ _ rebinds rendered =>
      obtain ⟨_, refused⟩ := refuses nodes t
      rw [refused] at rendered
      obtain ⟨-, rfl⟩ := Prod.mk.inj rendered
      exact rebinds
    | next _ rendered => exact absurd rendered notOk
  · cases rounds.of_accepted accepts

/-- A choice that fails comes to where its last section has come to. -/
theorem Sections.of_failed (sections : Sections sub n s ds (.error e) t) :
    t = s.afterAll sub ds := by
  generalize hr : Except.error e = r at sections
  induction sections with
  | finished => cases hr
  | undecided => rfl
  | refused holds rendered => exact (Descent.exit_of_rendered rendered).symm
  | next holds rendered goesOn rest ih =>
    rw [State.afterAll_cons, Descent.exit_of_rendered rendered]
    exact ih hr
  | left => cases hr

/-- By the time that a node fails nothing has been done, but for the sections of a choice. -/
theorem Course.of_failed (isUniform : sub.IsUniform) {r : Except Error Unit}
    (course : Course sub n role s ds r t) (failed : r = .error e) :
    (s.beforeFailure sub ds role).Untouched t := by
  cases course with
  | refuse isPlain => rcases isPlain with rfl | rfl <;> exact .refl s
  | write => cases failed
  | raise => cases failed
  | descend =>
    rw [isUniform.state_of_refused failed]
    exact .refl s
  | capture holds rebinds =>
    rw [isUniform.state_of_refused failed] at rebinds
    exact rebinds.untouched
  | choose sections =>
    subst failed
    rw [sections.of_failed]
    exact .refl _
  | loop holds opens rounds closes =>
    subst failed
    exact ((opens.trans (rounds.of_failed isUniform)).trans closes).untouched
  | extend =>
    rw [isUniform.state_of_refused failed]
    exact ⟨rfl, rfl, rfl⟩
  | override =>
    rw [isUniform.state_of_refused failed]
    exact .refl s

end Courses

/-! ## Recovering from a failure -/

namespace State

variable (settings : Settings) (sub : Renderer) (s : State) (n : Node) (e : Error)

/-- What a node that fails is to do, and nothing else. -/
structure FailsAtomically : Prop where
  /-- Its handler has written nothing. -/
  written : (s.attempt settings sub n).2.output = s.output
  /-- In strict mode the output is what it was before, and one error is recorded. -/
  strict : settings.environment.errorMode = .strict →
    (s.renderNode settings sub n).output = s.output ∧
      ∃ recorded, (s.renderNode settings sub n).context.errors = s.context.errors ++ [recorded]
  /-- In lax mode the message is written behind the output before. -/
  lax : settings.environment.errorMode = .lax →
    (s.renderNode settings sub n).output = s.output.write e.inlineMessage

variable {settings sub s n e}

theorem inlineMessage_placed (span : Option Span) :
    (s.placed span e).inlineMessage = e.inlineMessage := by
  cases span with
  | none => rfl
  | some span =>
    unfold placed Error.orLocatedAt
    dsimp only
    split <;> rfl

theorem renderNode_of_failed {t : State} (failed : s.attempt settings sub n = (.error e, t)) :
    s.renderNode settings sub n = t.recover settings n.isVariable n.span? e := by
  rw [renderNode_eq, failed]

theorem recover_of_strict (strict : settings.environment.errorMode = .strict) (ofVariable : Bool)
    (span : Option Span) :
    s.recover settings ofVariable span e = s.update (·.record (s.placed span e)) := by
  unfold recover
  rw [strict]

theorem recover_of_lax (lax : settings.environment.errorMode = .lax) (span : Option Span) :
    s.recover settings false span e = s.write e.inlineMessage := by
  unfold recover
  rw [lax]
  show s.write (s.placed span e).inlineMessage = _
  rw [inlineMessage_placed]

/-- A node that has done no more than another state tells fails atomically if that is nothing. -/
theorem failsAtomically_iff_of_untouched {t u : State}
    (failed : s.attempt settings sub n = (.error e, t)) (notVariable : n.isVariable = false)
    (untouched : u.Untouched t) :
    s.FailsAtomically settings sub n e ↔
      u.output = s.output ∧
        (settings.environment.errorMode = .strict → u.context.errors = s.context.errors) := by
  have sameErrors : t.context.errors = u.context.errors := by
    unfold Context.errors
    rw [untouched.failures]
  have rendered := renderNode_of_failed failed
  rw [notVariable] at rendered
  constructor
  · intro fails
    have written : t.output = s.output := by simpa [failed] using fails.written
    refine ⟨untouched.output.symm.trans written, fun strict => ?_⟩
    obtain ⟨-, recorded, errors⟩ := fails.strict strict
    rw [rendered, recover_of_strict strict] at errors
    have appended : t.context.errors ++ [t.placed n.span? e] = s.context.errors ++ [recorded] := by
      rw [← errors]
      exact (Context.errors_record ..).symm
    rw [← sameErrors]
    exact (List.append_inj' appended rfl).1
  · rintro ⟨output, errors⟩
    have written : t.output = s.output := untouched.output.trans output
    refine ⟨by rw [failed]; exact written, fun strict => ?_, fun lax => ?_⟩
    · rw [rendered, recover_of_strict strict]
      refine ⟨written, t.placed n.span? e, ?_⟩
      rw [← errors strict, ← sameErrors]
      exact Context.errors_record ..
    · rw [rendered, recover_of_lax lax]
      show t.output.write e.inlineMessage = _
      rw [written]

/-- A node with a built-in handler that fails has written nothing and recorded nothing, unless it is
a choice; and a choice has done what the sections have done that it has rendered. -/
theorem failsAtomically_iff {levels : Nat} {h : Handler}
    (bound : n.handler? settings.environment.registry = some h) (isBuiltin : h.IsBuiltin)
    (failed : (s.attempt settings (renderNodes settings levels) n).1 = .error e) :
    s.FailsAtomically settings (renderNodes settings levels) n e ↔
      (s.role settings n = .choice →
        let u := s.afterAll (renderNodes settings levels)
          (s.descents settings (renderNodes settings levels) n)
        u.output = s.output ∧
          (settings.environment.errorMode = .strict → u.context.errors = s.context.errors)) := by
  have course := s.course settings (renderNodes settings levels) (n := n) fun k same => by
    rw [bound] at same
    exact Option.some.inj same ▸ isBuiltin
  have untouched := course.of_failed (isUniform_renderNodes settings levels) failed
  have notVariable : n.isVariable = false := by
    cases n with
    | «variable» => cases bound
    | _ => rfl
  rw [failsAtomically_iff_of_untouched (Prod.ext failed rfl) notVariable untouched]
  cases s.role settings n with
  | choice => exact ⟨fun same _ => same, fun same => same rfl⟩
  | _ => exact ⟨nofun, fun _ => ⟨rfl, fun _ => rfl⟩⟩

/-! ### A condition and a choice that cannot be decided -/

/-- The range from 1 to 1000000, which is too long to be evaluated. -/
def longRange : Expr := .range (.const (.int 1)) (.const (.int 1000000))

/-- An `if` that cannot tell whether its condition holds. -/
def undecidedIf : Node :=
  .block "if" "(1..1000000)" (.chain ⟨.value longRange, []⟩) ⟨⟨1, 0⟩, ⟨1, 21⟩⟩ [.text "a"] []

/-- A `case` that cannot tell whether its second section is selected. -/
def undecidedCase : Node :=
  .block "case" "1" (.expr (.const (.int 1))) ⟨⟨1, 0⟩, ⟨1, 12⟩⟩ [] [
    ⟨"when", "1", .optionalExprs (some [.const (.int 1)]), [.text "a"]⟩,
    ⟨"when", "(1..1000000)", .optionalExprs (some [longRange]), [.text "b"]⟩]

/-- The standard environment in strict mode. -/
def strictSettings : Settings :=
  { Environment.standard with errorMode := .strict }.settings .default

/-- The state that a render of a single node begins in. -/
def startOf (n : Node) : State := Environment.startState (.ofNodes "page" [n]) .none .default

theorem failsAtomically_undecidedIf :
    ((startOf undecidedIf).attempt strictSettings (renderNodes strictSettings 1) undecidedIf).1 =
        .error ⟨.rangeTooLong, none, []⟩ ∧
      (startOf undecidedIf).FailsAtomically strictSettings (renderNodes strictSettings 1)
        undecidedIf ⟨.rangeTooLong, none, []⟩ := by
  have failed : ((startOf undecidedIf).attempt strictSettings (renderNodes strictSettings 1)
      undecidedIf).1 = .error ⟨.rangeTooLong, none, []⟩ := rfl
  have isBuiltin : Tags.«if».handler.IsBuiltin := ⟨"if", rfl⟩
  exact ⟨failed, (failsAtomically_iff rfl isBuiltin failed).2 nofun⟩

/-- A choice that fails behind a section leaves what the section has written. -/
theorem not_failsAtomically_undecidedCase :
    ¬ ∀ (settings : Settings) (levels : Nat) (s : State) (n : Node) (h : Handler) (e : Error),
      n.handler? settings.environment.registry = some h → h.IsBuiltin →
      (s.attempt settings (renderNodes settings levels) n).1 = .error e →
      s.FailsAtomically settings (renderNodes settings levels) n e := by
  intro always
  have fails := always strictSettings 1 (startOf undecidedCase) undecidedCase Tags.case.handler
    ⟨.rangeTooLong, none, []⟩ rfl ⟨"case", rfl⟩ rfl
  have output : ((startOf undecidedCase).attempt strictSettings (renderNodes strictSettings 1)
      undecidedCase).2.output = ⟨.joined "a", []⟩ := rfl
  have written := fails.written
  rw [output] at written
  exact absurd written (by decide)

end State

end Stencil
