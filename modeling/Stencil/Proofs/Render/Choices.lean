import Stencil.Proofs.Render.History

/-!
# What a choice renders

`case` evaluates its value once and comes to its sections one after the other.  A section that lists
candidates is rendered if one of them has the value, as it evaluates when the choice comes to the
section.  A section behind `else` is rendered if no section before it has been: if no candidates
before it have the value, and if it is the first one behind an `else` (`Choice.sections_in_order`).

That a second `else` never renders is not what one would expect of it
(`Choice.not_expected_twoElses`).
-/

namespace Stencil

/-- A section that a choice comes to, the state that it comes to it in, and whether it renders
it. -/
structure Stop where
  clause : Section (Option (List Expr))
  state : State
  rendered : Bool

/-- The state behind the section. -/
def Stop.exit (sub : Renderer) (p : Stop) : State :=
  if p.rendered then (sub p.clause.nodes p.state).2 else p.state

namespace Choice

/-! ## Candidates -/

/-- One of the candidates has the value. -/
def Matches (scope : Scope) (value : Value) (es : List Expr) : Prop :=
  ∃ e ∈ es, ∃ w, scope.eval e = .ok w ∧ w.equals value = true

/-- The candidates before one that cannot be evaluated do not have the value. -/
def Undecided (scope : Scope) (value : Value) (es : List Expr) (e : Error) : Prop :=
  ∃ before c after, es = before ++ c :: after ∧ scope.eval c = .error e ∧
    ∀ b ∈ before, ∃ w, scope.eval b = .ok w ∧ w.equals value = false

section Candidates

variable {settings : Settings} {s : State} {value : Value}

theorem answer_anyEquals_cons (e : Expr) (es : List Expr) :
    (Tags.anyEquals value (e :: es)).answer settings s = (do
      let w ← (s.context.scope settings).eval e
      if w.equals value then .ok true else (Tags.anyEquals value es).answer settings s) := by
  rw [Tags.anyEquals, (Action.Looks.evalExpr e).answer_bind, Action.answer_evalExpr]
  cases (s.context.scope settings).eval e with
  | error => rfl
  | ok w =>
    show Action.answer settings (if _ then _ else _) s = (if _ then _ else _)
    by_cases same : w.equals value = true
    · rw [if_pos same, if_pos same]
      rfl
    · rw [if_neg same, if_neg same]

theorem matches_of_answer {es : List Expr} {chosen : Bool}
    (answers : (Tags.anyEquals value es).answer settings s = .ok chosen) :
    chosen = true ↔ Matches (s.context.scope settings) value es := by
  induction es with
  | nil =>
    obtain rfl : false = chosen := Except.ok.inj answers
    constructor
    · exact fun h => Bool.noConfusion h
    · rintro ⟨e, listed, -⟩
      exact absurd listed List.not_mem_nil
  | cons e es ih =>
    rw [answer_anyEquals_cons, bind_eq_ok] at answers
    obtain ⟨w, evaluates, answers⟩ := answers
    by_cases same : w.equals value = true
    · rw [if_pos same] at answers
      obtain rfl : true = chosen := Except.ok.inj answers
      exact iff_of_true rfl ⟨e, List.mem_cons_self .., w, evaluates, same⟩
    · rw [if_neg same] at answers
      rw [ih answers]
      constructor
      · rintro ⟨f, listed, hit⟩
        exact ⟨f, List.mem_cons_of_mem _ listed, hit⟩
      · rintro ⟨f, listed, v, evaluated, hit⟩
        rcases List.mem_cons.1 listed with rfl | listed
        · obtain rfl := Except.ok.inj (evaluates.symm.trans evaluated)
          exact absurd hit same
        · exact ⟨f, listed, v, evaluated, hit⟩

theorem undecided_of_answer {es : List Expr} {e : Error}
    (fails : (Tags.anyEquals value es).answer settings s = .error e) :
    Undecided (s.context.scope settings) value es e := by
  induction es with
  | nil => cases fails
  | cons c es ih =>
    rw [answer_anyEquals_cons, bind_eq_error] at fails
    rcases fails with failed | ⟨w, evaluates, fails⟩
    · exact ⟨[], c, es, rfl, failed, fun b mem => absurd mem List.not_mem_nil⟩
    · by_cases same : w.equals value = true
      · rw [if_pos same] at fails
        cases fails
      · rw [if_neg same] at fails
        obtain ⟨before, d, after, rfl, failed, others⟩ := ih fails
        refine ⟨c :: before, d, after, rfl, failed, fun b mem => ?_⟩
        rcases List.mem_cons.1 mem with rfl | mem
        · exact ⟨w, evaluates, Bool.eq_false_iff.2 same⟩
        · exact others b mem

end Candidates

/-! ## Sections in order -/

section Sections

variable (settings : Settings) (sub : Renderer) (value : Value)

/-- The section lists a candidate that has the value. -/
def Hits (p : Stop) : Prop :=
  ∃ es, p.clause.markup = some es ∧ Matches (p.state.context.scope settings) value es

/-- The choice comes to its sections in order, and `elseRenders` tells of the sections before one
behind `else` whether that one is rendered. -/
structure Visits (elseRenders : List Stop → Prop) (clauses : List (Section (Option (List Expr))))
    (s : State) (stops : List Stop) : Prop where
  inOrder : stops.map (·.clause) <+: clauses
  reached : ∀ j p, stops[j]? = some p → p.state = s.past (Stop.exit sub) (stops.take j)
  ofWhen : ∀ p ∈ stops, p.clause.markup ≠ none → (p.rendered = true ↔ Hits settings value p)
  ofElse : ∀ j p, stops[j]? = some p → p.clause.markup = none →
    (p.rendered = true ↔ elseRenders (stops.take j))
  goesOn : ∀ p ∈ stops.dropLast, p.rendered = true →
    (sub p.clause.nodes p.state).1 = .ok () ∧ (p.exit sub).context.signal = .normal

/-- Where the choice stops, and whether it fails. -/
inductive Ends (clauses : List (Section (Option (List Expr)))) (s : State) (stops : List Stop) :
    Except Error Unit → Prop
  /-- It has come to all of its sections. -/
  | finished (all : stops.length = clauses.length) : Ends clauses s stops (.ok ())
  /-- The last section has been rendered and has left a signal. -/
  | signal {p : Stop} (last : stops.getLast? = some p) (rendered : p.rendered = true)
    (raised : (p.exit sub).context.signal ≠ .normal) : Ends clauses s stops (.ok ())
  /-- The nodes of the last section are nested too deep. -/
  | refused {p : Stop} (last : stops.getLast? = some p) (rendered : p.rendered = true)
    (refused : (sub p.clause.nodes p.state).1 = .error Cause.recursionLimit) :
    Ends clauses s stops (.error Cause.recursionLimit)
  /-- The candidates of the next section cannot be evaluated. -/
  | undecided {c : Section (Option (List Expr))} {es : List Expr} {e : Error}
    (next : clauses[stops.length]? = some c) (candidates : c.markup = some es)
    (fails : Undecided ((s.past (Stop.exit sub) stops).context.scope settings) value es e) :
    Ends clauses s stops (.error e)

/-- What a choice does with its sections: whether it fails and the state that it comes to, and what
it asks to render. -/
def Performs (elseRenders : List Stop → Prop) (clauses : List (Section (Option (List Expr))))
    (s : State) (attempt : Except Error Unit × State) (descents : List Descent) : Prop :=
  ∃ stops outcome, Visits settings sub value elseRenders clauses s stops ∧
    Ends settings sub value clauses s stops outcome ∧
    attempt = (outcome, s.past (Stop.exit sub) stops) ∧
    descents = (stops.filter (·.rendered)).map fun p => ⟨p.clause.nodes, p.state⟩

end Sections

section Laws

variable {settings : Settings} {sub : Renderer} {value : Value} {elseRenders : List Stop → Prop}
  {clauses : List (Section (Option (List Expr)))} {s : State} {stops : List Stop}

theorem Visits.nil : Visits settings sub value elseRenders clauses s [] where
  inOrder := List.nil_prefix
  reached _ _ found := by cases found
  ofWhen _ mem := absurd mem List.not_mem_nil
  ofElse _ _ found := by cases found
  goesOn _ mem := absurd mem List.not_mem_nil

/-- What holds of the sections behind the first one holds of all, if the first one is decided as it
should be. -/
theorem Visits.cons (p : Stop) {later : List Stop → Prop} (starts : p.state = s)
    (ofWhen : p.clause.markup ≠ none → (p.rendered = true ↔ Hits settings value p))
    (ofElse : p.clause.markup = none → (p.rendered = true ↔ elseRenders []))
    (behind : ∀ before, later before ↔ elseRenders (p :: before))
    (goesOn : stops ≠ [] → p.rendered = true →
      (sub p.clause.nodes p.state).1 = .ok () ∧ (p.exit sub).context.signal = .normal)
    (rest : Visits settings sub value later clauses (p.exit sub) stops) :
    Visits settings sub value elseRenders (p.clause :: clauses) s (p :: stops) where
  inOrder := List.cons_prefix_cons.2 ⟨rfl, rest.inOrder⟩
  reached j q found := by
    cases j with
    | zero =>
      obtain rfl : p = q := Option.some.inj found
      exact starts
    | succ j => exact rest.reached j q found
  ofWhen q mem := by
    rcases List.mem_cons.1 mem with rfl | mem
    · exact ofWhen
    · exact rest.ofWhen q mem
  ofElse j q found isElse := by
    cases j with
    | zero =>
      obtain rfl : p = q := Option.some.inj found
      exact ofElse isElse
    | succ j => exact (rest.ofElse j q found isElse).trans (behind _)
  goesOn q mem := by
    cases stops with
    | nil => exact absurd mem List.not_mem_nil
    | cons r stops =>
      rw [List.dropLast_cons_cons] at mem
      rcases List.mem_cons.1 mem with rfl | mem
      · exact goesOn (List.cons_ne_nil _ _)
      · exact rest.goesOn q mem

theorem Visits.single (p : Stop) (starts : p.state = s)
    (ofWhen : p.clause.markup ≠ none → (p.rendered = true ↔ Hits settings value p))
    (ofElse : p.clause.markup = none → (p.rendered = true ↔ elseRenders [])) :
    Visits settings sub value elseRenders (p.clause :: clauses) s [p] :=
  .cons p starts ofWhen ofElse (fun _ => Iff.rfl) (fun more => absurd rfl more) .nil

theorem Ends.cons (p : Stop) {outcome : Except Error Unit}
    (rest : Ends settings sub value clauses (p.exit sub) stops outcome) :
    Ends settings sub value (p.clause :: clauses) s (p :: stops) outcome := by
  have behindIt {q : Stop} (last : stops.getLast? = some q) : (p :: stops).getLast? = some q := by
    rw [List.getLast?_cons, last]
    rfl
  cases rest with
  | finished all => exact .finished (congrArg (· + 1) all)
  | signal last rendered raised => exact .signal (behindIt last) rendered raised
  | refused last rendered refused => exact .refused (behindIt last) rendered refused
  | undecided next candidates fails => exact .undecided next candidates fails

end Laws

end Choice

/-! ## Carrying a choice out -/

section Run

variable {settings : Settings} {sub : Renderer} {value : Value} {s : State}

/-- A section that is come to is rendered as the choice has decided. -/
theorem Tags.decides_selects {matched chosen : Bool} {c : Section (Option (List Expr))}
    (answers : (selects value matched c.markup).answer settings s = .ok chosen) :
    (c.markup ≠ none → (chosen = true ↔ Choice.Hits settings value ⟨c, s, chosen⟩)) ∧
      (c.markup = none → (chosen = true ↔ matched = false)) := by
  cases listed : c.markup with
  | some es =>
    rw [listed] at answers
    refine ⟨fun _ => (Choice.matches_of_answer answers).trans ⟨fun hit => ⟨es, listed, hit⟩, ?_⟩,
      fun isElse => absurd isElse (Option.some_ne_none es)⟩
    rintro ⟨fs, same, hit⟩
    obtain rfl := Option.some.inj (listed.symm.trans same)
    exact hit
  | none =>
    rw [listed] at answers
    obtain rfl : (!matched) = chosen := Except.ok.inj answers
    exact ⟨fun isWhen => absurd rfl isWhen, fun _ => by rw [Bool.not_eq_true']⟩

/-- What a choice does behind a section that it has rendered: it fails if the nodes were refused,
and goes on unless they have left a signal. -/
def Tags.behindSection (value : Value) (rest : List (Section (Option (List Expr))))
    (r : Except Error Unit × State) : Action Unit := do
  Action.ofExcept r.1
  if r.2.context.signal = .normal then renderSections value true rest else pure ()

theorem Tags.renderSections_chosen {matched : Bool} {c : Section (Option (List Expr))}
    (answers : (selects value matched c.markup).answer settings s = .ok true)
    (rest : List (Section (Option (List Expr)))) :
    (renderSections value matched (c :: rest)).run settings sub s =
        (behindSection value rest (sub c.nodes s)).run settings sub (sub c.nodes s).2 ∧
      (renderSections value matched (c :: rest)).descents settings sub s = ⟨c.nodes, s⟩ ::
        (behindSection value rest (sub c.nodes s)).descents settings sub (sub c.nodes s).2 := by
  let rendering : Action Unit := do
    Action.renderNodes c.nodes
    let signal : Signal ← Action.ask .signal
    if signal = .normal then renderSections value true rest else pure ()
  have looks := looks_selects value matched c.markup
  rw [renderSections_cons, looks.run_bind, looks.descents_bind, answers]
  show rendering.run settings sub s = _ ∧ rendering.descents settings sub s = _
  rw [Action.run_bind, Action.descents_bind, Action.run_renderNodes, Action.descents_renderNodes,
    behindSection]
  rcases sub c.nodes s with ⟨_ | _, t⟩ <;> exact ⟨rfl, rfl⟩

theorem Tags.performs_renderSections
    (refuses : ∀ nodes t e, (sub nodes t).1 = .error e → e = Cause.recursionLimit)
    (clauses : List (Section (Option (List Expr)))) (matched : Bool) (s : State) :
    Choice.Performs settings sub value
      (fun before => matched = false ∧ ∀ q ∈ before, q.rendered = false) clauses s
      ((renderSections value matched clauses).run settings sub s)
      ((renderSections value matched clauses).descents settings sub s) := by
  induction clauses generalizing matched s with
  | nil => exact ⟨[], .ok (), .nil, .finished rfl, rfl, rfl⟩
  | cons c rest ih =>
    have looks := looks_selects value matched c.markup
    cases answers : (selects value matched c.markup).answer settings s with
    | error e =>
      rw [renderSections_cons, looks.run_bind, looks.descents_bind, answers]
      cases listed : c.markup with
      | none =>
        rw [listed] at answers
        cases answers
      | some es =>
        rw [listed] at answers
        exact ⟨[], .error e, .nil, .undecided rfl listed (Choice.undecided_of_answer answers), rfl,
          rfl⟩
    | ok chosen =>
      let p : Stop := ⟨c, s, chosen⟩
      obtain ⟨ofWhen, ofElse⟩ := decides_selects answers
      have ofElse (isElse : p.clause.markup = none) :
          p.rendered = true ↔ matched = false ∧ ∀ q ∈ ([] : List Stop), q.rendered = false := by
        rw [ofElse isElse]
        exact ⟨fun fresh => ⟨fresh, fun q mem => absurd mem List.not_mem_nil⟩, And.left⟩
      cases chosen with
      | false =>
        rw [renderSections_cons, looks.run_bind, looks.descents_bind, answers]
        obtain ⟨stops, outcome, visits, ends, run, descents⟩ := ih matched s
        refine ⟨p :: stops, outcome, .cons p rfl ofWhen ofElse (fun before => ?_) ?_ visits,
          .cons p ends, run, descents⟩
        · rw [List.forall_mem_cons]
          exact and_congr_right fun _ => ⟨fun others => ⟨rfl, others⟩, And.right⟩
        · exact fun _ isRendered => Bool.noConfusion isRendered
      | true =>
        obtain ⟨run, descents⟩ := @renderSections_chosen _ sub _ _ _ _ answers rest
        rw [run, descents, behindSection]
        cases refused : (sub c.nodes s).1 with
        | error e =>
          obtain rfl := refuses _ _ _ refused
          exact ⟨[p], _, .single p rfl ofWhen ofElse, .refused (p := p) rfl rfl refused, rfl, rfl⟩
        | ok =>
          show Choice.Performs settings sub value _ _ _
            (Action.run settings sub (if _ then _ else _) _)
            (_ :: Action.descents settings sub (if _ then _ else _) _)
          by_cases normal : (sub c.nodes s).2.context.signal = .normal
          · obtain ⟨stops, outcome, visits, ends, restRun, restDescents⟩ :=
              ih true (sub c.nodes s).2
            rw [if_pos normal, restRun, restDescents]
            refine ⟨p :: stops, outcome, .cons p rfl ofWhen ofElse (fun before => ?_)
              (fun _ _ => ⟨refused, normal⟩) visits, .cons p ends, rfl, rfl⟩
            -- Nothing behind an `else` is rendered any more.
            rw [List.forall_mem_cons]
            exact ⟨fun fresh => Bool.noConfusion fresh.1, fun fresh => Bool.noConfusion fresh.2.1⟩
          · rw [if_neg normal]
            exact ⟨[p], _, .single p rfl ofWhen ofElse, .signal (p := p) rfl rfl normal, rfl, rfl⟩

end Run

/-! ## The choice as a whole -/

namespace Choice

section Whole

variable {settings : Settings} {sub : Renderer} {value : Value}
  {clauses : List (Section (Option (List Expr)))} {s : State} {stops : List Stop}

/-- None of the sections lists a candidate that has the value. -/
def NoneHits (settings : Settings) (value : Value) (before : List Stop) : Prop :=
  ∀ q ∈ before, ¬ Hits settings value q

/-- All of the sections list candidates, and none of the candidates has the value. -/
def NoneTakes (settings : Settings) (value : Value) (before : List Stop) : Prop :=
  ∀ q ∈ before, q.clause.markup ≠ none ∧ ¬ Hits settings value q

/-- That nothing has been rendered yet says what the sections before are. -/
theorem Visits.noneTakes
    (visits : Visits settings sub value (fun before => false = false ∧
      ∀ q ∈ before, q.rendered = false) clauses s stops) :
    Visits settings sub value (NoneTakes settings value) clauses s stops where
  inOrder := visits.inOrder
  reached := visits.reached
  ofWhen := visits.ofWhen
  goesOn := visits.goesOn
  ofElse j p found isElse := by
    rw [visits.ofElse j p found isElse]
    constructor
    · rintro ⟨-, unrendered⟩ q mem
      have skipped : ¬ q.rendered = true := Bool.eq_false_iff.1 (unrendered q mem)
      have listed : q.clause.markup ≠ none := by
        intro other
        obtain ⟨k, inside, rfl⟩ := List.getElem_of_mem mem
        -- An `else` before this one would have been rendered.
        have earlier : stops[k]? = some (stops.take j)[k] := by
          rw [List.getElem_take]
          exact List.getElem?_eq_getElem _
        have within : k ≤ j := by
          rw [List.length_take] at inside
          omega
        refine skipped ((visits.ofElse k _ earlier other).2 ⟨rfl, fun r before => ?_⟩)
        exact unrendered r (List.take_subset_take_left stops within before)
      exact ⟨listed, mt (visits.ofWhen q (List.mem_of_mem_take mem) listed).2 skipped⟩
    · intro noneTakes
      refine ⟨rfl, fun q mem => ?_⟩
      obtain ⟨listed, misses⟩ := noneTakes q mem
      exact Bool.eq_false_iff.2 (mt (visits.ofWhen q (List.mem_of_mem_take mem) listed).1 misses)

/-- A choice comes to its sections in order, whatever stands in them. -/
theorem sections_in_order {name : String}
    (bound : settings.environment.registry.find? name = some Tags.case.handler)
    {payload : Payload} {nodes : List Node} {clauses : List (Clause Node)}
    {body : Body Expr (Option (List Expr))}
    (read : Body.ofBlock name payload nodes clauses = .ok body) (markup : String) (span : Span)
    (levels : Nat) (s : State)
    (evaluates : (s.context.scope settings).eval body.markup = .ok value) :
    Performs settings (renderNodes settings levels) value (NoneTakes settings value) body.clauses s
      (s.attempt settings (renderNodes settings levels)
        (.block name markup payload span nodes clauses))
      (s.descents settings (renderNodes settings levels)
        (.block name markup payload span nodes clauses)) := by
  have refuses (ns : List Node) (t : State) (e : Error)
      (refused : (renderNodes settings levels ns t).1 = .error e) :
      e = Cause.recursionLimit := by
    cases levels with
    | zero => exact (Except.error.inj refused).symm
    | succ levels => cases refused
  have looks := Action.Looks.evalExpr body.markup
  obtain ⟨attempt, descents⟩ :=
    s.attempt_block settings (renderNodes settings levels) bound read markup span
  rw [Tags.case, looks.run_bind, Action.answer_evalExpr, evaluates] at attempt
  rw [Tags.case, looks.descents_bind, Action.answer_evalExpr, evaluates] at descents
  rw [attempt, descents]
  obtain ⟨stops, outcome, visits, rest⟩ :=
    @Tags.performs_renderSections settings _ value refuses body.clauses false s
  exact ⟨stops, outcome, visits.noneTakes, rest⟩

end Whole

/-! ## Two sections behind `else` -/

/-- Candidates that do not have the value, and two sections for all other values. -/
def twoElses : List (Section (Option (List Expr))) := [
  ⟨"when", some [.const (.int 2)], [.text "x"]⟩,
  ⟨"else", none, [.text "a"]⟩,
  ⟨"else", none, [.text "b"]⟩]

/-- The block of these sections. -/
def twoElsesBlock : Node :=
  .block "case" "1" (.expr (.const (.int 1))) ⟨⟨1, 0⟩, ⟨1, 12⟩⟩ [] [
    ⟨"when", "2", .optionalExprs (some [.const (.int 2)]), [.text "x"]⟩,
    ⟨"else", "", .optionalExprs none, [.text "a"]⟩,
    ⟨"else", "", .optionalExprs none, [.text "b"]⟩]

/-- The state that they are rendered in. -/
def atTwoElses : State := Environment.startState (.ofNodes "page" [twoElsesBlock]) .none .default

/-- The block does what the rule for sections behind `else` says. -/
def TwoElsesFollow (elseRenders : Settings → Value → List Stop → Prop) : Prop :=
  let settings := Environment.standard.settings .default
  let sub := renderNodes settings 99
  Performs settings sub (.int 1) (elseRenders settings (.int 1)) twoElses atTwoElses
    (atTwoElses.attempt settings sub twoElsesBlock) (atTwoElses.descents settings sub twoElsesBlock)

theorem sections_in_order_twoElses : TwoElsesFollow NoneTakes :=
  @sections_in_order (Environment.standard.settings .default) _ _ rfl _ _ _
    ⟨"case", .const (.int 1), [], twoElses⟩ rfl _ _ 99 atTwoElses rfl

/-- No candidate before the second `else` has the value, and yet it is not rendered. -/
theorem not_expected_twoElses : ¬ TwoElsesFollow NoneHits := by
  rintro ⟨stops, outcome, visits, ends, attempted, descended⟩
  obtain ⟨succeeds, after⟩ := Prod.mk.inj attempted
  have renders : [⟨[.text "a"], atTwoElses⟩] =
      (stops.filter (·.rendered)).map fun p => Descent.mk p.clause.nodes p.state := descended
  cases ends with
  | signal last rendered raised =>
    have left := after.trans (State.past_of_getLast? last atTwoElses)
    rw [← left] at raised
    exact raised rfl
  | refused => cases succeeds
  | undecided => cases succeeds
  | finished all =>
    have clauses : stops.map (·.clause) = twoElses :=
      visits.inOrder.eq_of_length (List.length_map _ |>.trans all)
    obtain ⟨p, stops, rfl, first, clauses⟩ := List.map_eq_cons_iff.1 clauses
    obtain ⟨q, stops, rfl, second, clauses⟩ := List.map_eq_cons_iff.1 clauses
    obtain ⟨r, stops, rfl, third, -⟩ := List.map_eq_cons_iff.1 clauses
    have noneHits : NoneHits (Environment.standard.settings .default) (.int 1) [p, q] := by
      refine List.forall_mem_cons.2 ⟨?_, List.forall_mem_singleton.2 ?_⟩
      · rintro ⟨es, listed, e, candidate, w, evaluates, hit⟩
        rw [first] at listed
        obtain rfl := Option.some.inj listed
        obtain rfl := List.mem_singleton.1 candidate
        obtain rfl := Except.ok.inj evaluates
        exact absurd hit (by decide)
      · rintro ⟨es, listed, -⟩
        rw [second] at listed
        cases listed
    have rendered : r.rendered = true :=
      (visits.ofElse 2 r rfl (congrArg Section.markup third)).2 noneHits
    have asked : Descent.mk r.clause.nodes r.state ∈ [Descent.mk [.text "a"] atTwoElses] := by
      rw [renders]
      exact List.mem_map.2 ⟨r, List.mem_filter.2 ⟨by simp, rendered⟩, rfl⟩
    have same := congrArg Descent.nodes (List.mem_singleton.1 asked)
    rw [third] at same
    obtain ⟨texts, -⟩ := List.cons.inj same
    exact absurd (Node.text.inj texts) (by decide)

end Choice

end Stencil
