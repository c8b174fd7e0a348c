import Stencil.Proofs.Render.Frame

/-!
# What a loop renders

A loop evaluates its items once (`Loop.Selects`).  Without items it renders the section behind
`else` where it stands.  Otherwise it renders its body for one item after the other, each time in
the same scope with two new bindings (`Loop.Binds`), until the items are used up or a pass leaves a
`break` or an extended template (`Loop.RunsOver`).  The passes are what the main statement is about:
each begins where the one before has ended, and behind the last one the scope is gone.
-/

namespace Stencil

/-! ## The items -/

/-- What a bound of a loop comes to: nil is no bound, and a negative number is zero. -/
inductive Scope.CountsTo (scope : Scope) : Option Expr → Option Nat → Prop
  | absent : CountsTo scope none none
  | unbounded {e : Expr} {v : Value} (evaluates : scope.eval e = .ok v) (isNil : v.isNil = true) :
    CountsTo scope (some e) none
  | bounded {e : Expr} {n : Int64} (evaluates : scope.eval e = .ok (.int n)) :
    CountsTo scope (some e) (some n.toInt.toNat)

/-- The items of a loop: those of its value from the offset on, no more than the limit, and the last
of them first if the loop is reversed. -/
def Loop.Selects (loop : Loop) (scope : Scope) (items : List Value) : Prop :=
  ∃ value all offset limit, scope.eval loop.items = .ok value ∧ value.iterate = .ok all ∧
    scope.CountsTo loop.offset offset ∧ scope.CountsTo loop.limit limit ∧
    let kept := (all.drop (offset.getD 0)).take (limit.getD all.length)
    items = if loop.reversed then kept.reverse else kept

theorem Tags.selectItems_eq (all : List Value) (offset limit : Option Nat) (reversed : Bool) :
    selectItems all offset limit reversed =
      let kept := (all.drop (offset.getD 0)).take (limit.getD all.length)
      if reversed then kept.reverse else kept := by
  cases limit with
  | some n => rfl
  | none =>
    have everything : (all.drop (offset.getD 0)).take all.length = all.drop (offset.getD 0) :=
      List.take_of_length_le (List.length_drop ▸ Nat.sub_le ..)
    simp only [selectItems, Option.getD_none, everything]

section Items

variable {settings : Settings} {s : State}

theorem Scope.CountsTo.answer {e : Option Expr} {n : Option Nat}
    (counts : (s.context.scope settings).CountsTo e n) (what : String) :
    (Tags.evalCount what e).answer settings s = .ok n := by
  cases counts with
  | absent => rfl
  | unbounded evaluates isNil =>
    rw [Tags.evalCount, (Action.Looks.evalExpr _).answer_bind, Action.answer_evalExpr, evaluates]
    show Action.answer settings (if _ then _ else _) s = _
    rw [if_pos isNil]
    rfl
  | bounded evaluates =>
    rw [Tags.evalCount, (Action.Looks.evalExpr _).answer_bind, Action.answer_evalExpr, evaluates]
    rfl

theorem Loop.Selects.answer {loop : Loop} {items : List Value}
    (selected : loop.Selects (s.context.scope settings) items) :
    (Tags.itemsOf loop).answer settings s = .ok items := by
  obtain ⟨value, all, offset, limit, evaluates, iterates, skipped, cut, rfl⟩ := selected
  have looks := Tags.looks_evalCount
  rw [Tags.itemsOf, (Action.Looks.evalExpr _).answer_bind, Action.answer_evalExpr, evaluates]
  show (Action.ofExcept value.iterate >>= _).answer settings s = _
  rw [iterates]
  show (Tags.evalCount "offset" loop.offset >>= _).answer settings s = _
  rw [(looks ..).answer_bind, skipped.answer]
  show (Tags.evalCount "limit" loop.limit >>= _).answer settings s = _
  rw [(looks ..).answer_bind, cut.answer, ← Tags.selectItems_eq]
  rfl

end Items

/-! ## The scope of a loop -/

namespace Loop

/-- What a scope binds at an item of a loop: the loop variable stands for the item, and `forloop`
tells the place of the item.  If the loop variable has that name, the place is what it stands
for. -/
structure Binds (name : String) (item : Value) (index length : Nat) (t : Table Value) : Prop where
  item : name ≠ "forloop" → t.find? name = some item
  others : ∀ other, other ≠ name → other ≠ "forloop" → t.find? other = none
  place : ∃ v, t.find? "forloop" = some v ∧
    v.attr "index" = .ofNat (index + 1) ∧ v.attr "index0" = .ofNat index ∧
    v.attr "rindex" = .ofNat (length - index) ∧ v.attr "rindex0" = .ofNat (length - index - 1) ∧
    v.attr "first" = .bool (index == 0) ∧ v.attr "last" = .bool (index + 1 == length) ∧
    v.attr "length" = .ofNat length

/-- The scope of a loop at one of its items. -/
def scopeAt (name : String) (item : Value) (index length : Nat) : Table Value :=
  Table.ofList [(name, item), ("forloop", Tags.forloop index length)]

theorem attr_ofEntries {entries : List (String × Value)} {name : String} {v : Value}
    (bound : (Table.ofList entries).find? name = some v) :
    (Value.ofEntries entries).attr name = v := by
  rw [Value.ofEntries, Value.attr, bound]

theorem binds_scopeAt (name : String) (item : Value) (index length : Nat) :
    Binds name item index length (scopeAt name item index length) where
  item other := (Table.find?_set_of_ne _ other _).trans (Table.find?_set_self ..)
  others other notItem notPlace :=
    (Table.find?_set_of_ne _ notPlace _).trans (Table.find?_set_of_ne _ notItem _)
  place := by
    refine ⟨_, Table.find?_set_self .., ?_, ?_, ?_, ?_, ?_, ?_, ?_⟩
    all_goals
      apply attr_ofEntries
      simp only [Table.ofList, List.foldl_cons, List.foldl_nil]
      simp [Table.find?_set_of_ne]

/-- The bindings of the next item take the places of those of the one before. -/
theorem set_scopeAt (name : String) (item next : Value) (index other length : Nat) :
    ((scopeAt name item index length).set name next).set "forloop" (Tags.forloop other length) =
      scopeAt name next other length := by
  simp only [scopeAt, Table.ofList, List.foldl_cons, List.foldl_nil]
  by_cases same : name = "forloop"
  · rw [same, Table.set_set, Table.set_set, Table.set_set, Table.set_set]
  · rw [Table.set_comm _ (Ne.symm same), Table.set_set, Table.set_set]

end Loop

/-! ## The passes of a loop -/

/-- One time that the body of a loop is rendered. -/
structure Pass where
  entry : State
  exit : State

namespace State

/-- The state with other scopes of blocks. -/
def inScopes (s : State) (scopes : List (Table Value)) : State :=
  s.update fun c => { c with locals := scopes }

/-- The state behind a pass of a loop.  A break and a continue are meant for the loop, an extended
template is not. -/
def leavePass (s : State) : State := if s.context.signal = .extended then s else s.resume

theorem inScopes_self {s : State} {scopes : List (Table Value)}
    (same : s.context.locals = scopes) : s.inScopes scopes = s := by
  subst same
  rfl

theorem locals_leavePass (s : State) : s.leavePass.context.locals = s.context.locals := by
  unfold leavePass
  split <;> rfl

theorem leavePass_of_normal {s : State} (normal : s.context.signal = .normal) :
    s.leavePass = s := by
  rw [leavePass, resume_of_normal normal, ite_self]

theorem signal_leavePass (s : State) :
    s.leavePass.context.signal = if s.context.signal = .extended then .extended else .normal := by
  rw [leavePass]
  by_cases extended : s.context.signal = .extended
  · rw [if_pos extended, if_pos extended, extended]
  · rw [if_neg extended, if_neg extended]
    rfl

end State

/-- The state that a pass leaves to what comes behind it. -/
def Pass.next (p : Pass) : State := p.exit.leavePass

namespace Loop

/-- A loop renders its body for its items, from the one with the given index on.  It passes over
a prefix of them, each time in a scope of its own inside of the scopes around the loop, and each
pass begins where the one before has ended. -/
structure RunsOver (sub : Renderer) (name : String) (nodes : List Node)
    (outer : List (Table Value)) (length index : Nat) (items : List Value) (s : State)
    (passes : List Pass) : Prop where
  inOrder : passes.length ≤ items.length
  entry : ∀ j p, passes[j]? = some p → ∃ item t, items[j]? = some item ∧
    Binds name item (index + j) length t ∧
    p.entry = (s.past Pass.next (passes.take j)).inScopes (t :: outer)
  renders : ∀ p ∈ passes, sub nodes p.entry = (.ok (), p.exit)
  goesOn : ∀ p ∈ passes.dropLast,
    p.exit.context.signal = .normal ∨ p.exit.context.signal = .continue
  ends : passes.length = items.length ∨ ∃ p, passes.getLast? = some p ∧
    (p.exit.context.signal = .break ∨ p.exit.context.signal = .extended)

namespace RunsOver

variable {sub : Renderer} {name : String} {nodes : List Node} {outer : List (Table Value)}
  {length index : Nat} {items : List Value} {s : State}

theorem nil : RunsOver sub name nodes outer length index [] s [] where
  inOrder := Nat.le_refl _
  entry _ _ found := by cases found
  renders _ mem := absurd mem List.not_mem_nil
  goesOn _ mem := absurd mem List.not_mem_nil
  ends := .inl rfl

variable {item : Value} {p : Pass}

/-- The loop is left after its next item. -/
theorem last
    (begins : p.entry = s.inScopes (scopeAt name item index length :: outer))
    (renders : sub nodes p.entry = (.ok (), p.exit))
    (leaves : p.exit.context.signal = .break ∨ p.exit.context.signal = .extended) :
    RunsOver sub name nodes outer length index (item :: items) s [p] where
  inOrder := Nat.succ_le_succ (Nat.zero_le _)
  entry j q found := by
    cases j with
    | zero =>
      obtain rfl : p = q := Option.some.inj found
      exact ⟨item, _, rfl, binds_scopeAt .., begins⟩
    | succ j => cases found
  renders q mem := by
    obtain rfl := List.mem_singleton.1 mem
    exact renders
  goesOn _ mem := absurd mem List.not_mem_nil
  ends := .inr ⟨p, rfl, leaves⟩

/-- The loop goes on behind its next item. -/
theorem next {passes : List Pass}
    (begins : p.entry = s.inScopes (scopeAt name item index length :: outer))
    (renders : sub nodes p.entry = (.ok (), p.exit))
    (goesOn : p.exit.context.signal = .normal ∨ p.exit.context.signal = .continue)
    (rest : RunsOver sub name nodes outer length (index + 1) items p.exit.leavePass passes) :
    RunsOver sub name nodes outer length index (item :: items) s (p :: passes) where
  inOrder := Nat.succ_le_succ rest.inOrder
  entry j q found := by
    cases j with
    | zero =>
      obtain rfl : p = q := Option.some.inj found
      exact ⟨item, _, rfl, binds_scopeAt .., begins⟩
    | succ j =>
      obtain ⟨x, t, isItem, binds, entered⟩ := rest.entry j q found
      rw [Nat.add_right_comm] at binds
      exact ⟨x, t, isItem, binds, entered⟩
  renders q mem := by
    rcases List.mem_cons.1 mem with rfl | mem
    · exact renders
    · exact rest.renders q mem
  goesOn q mem := by
    cases passes with
    | nil => exact absurd mem List.not_mem_nil
    | cons r passes =>
      rw [List.dropLast_cons_cons] at mem
      rcases List.mem_cons.1 mem with rfl | mem
      · exact goesOn
      · exact rest.goesOn q mem
  ends := by
    rcases rest.ends with all | ⟨q, isLast, leaves⟩
    · exact .inl (congrArg (· + 1) all)
    · refine .inr ⟨q, ?_, leaves⟩
      cases passes with
      | nil => cases isLast
      | cons r passes => exact isLast

end RunsOver

end Loop

/-! ## Running over the items -/

section Run

variable {settings : Settings} {sub : Renderer} {name : String} {nodes : List Node}
  {outer : List (Table Value)} {length : Nat}

/-- The bindings of an item, made in a scope that is new or that has held the item before. -/
theorem State.setLocal_scopeAt {t : Table Value}
    (fresh : t = [] ∨ ∃ before index, t = Loop.scopeAt name before index length) (item : Value)
    (index : Nat) (s : State) :
    ((s.inScopes (t :: outer)).update (·.setLocal name item)).update
        (·.setLocal "forloop" (Tags.forloop index length)) =
      s.inScopes (Loop.scopeAt name item index length :: outer) := by
  have bound : (t.set name item).set "forloop" (Tags.forloop index length) =
      Loop.scopeAt name item index length := by
    rcases fresh with rfl | ⟨before, earlier, rfl⟩
    · rfl
    · exact Loop.set_scopeAt ..
  rw [← bound]
  rfl

/-- What a loop does behind a pass: it goes on, unless the pass has left another signal. -/
def Tags.behindPass (exit : State) (next : Action (Except Error Unit)) :
    Action (Except Error Unit) :=
  if exit.context.signal = .normal ∨ exit.context.signal = .continue then next else pure (.ok ())

/-- A loop renders its nodes for the next item. -/
theorem Tags.pass_renderItems (accepts : ∀ ns s, (sub ns s).1 = .ok ()) {t : Table Value}
    (fresh : t = [] ∨ ∃ before index, t = Loop.scopeAt name before index length) (item : Value)
    (rest : List Value) (index : Nat) (s : State) {entry exit : State}
    (begins : entry = s.inScopes (Loop.scopeAt name item index length :: outer))
    (ends : exit = (sub nodes entry).2) :
    (renderItems name nodes length index (item :: rest)).run settings sub
          (s.inScopes (t :: outer)) =
        (behindPass exit (renderItems name nodes length (index + 1) rest)).run settings sub
          exit.leavePass ∧
      (renderItems name nodes length index (item :: rest)).descents settings sub
          (s.inScopes (t :: outer)) =
        ⟨nodes, entry⟩ ::
          (behindPass exit (renderItems name nodes length (index + 1) rest)).descents settings sub
            exit.leavePass := by
  obtain ⟨round, signalled, renders, -, onSignal, onNormal, onContinue, onBreak, onExtended⟩ :=
    renderItems_cons name nodes length index item rest
  let bound := ((s.inScopes (t :: outer)).update (·.setLocal name item)).update
    (·.setLocal "forloop" (forloop index length))
  have started : bound = entry := begins ▸ s.setLocal_scopeAt fresh item index
  have rendered : sub nodes entry = (.ok (), exit) := Prod.ext (accepts nodes entry) ends.symm
  have run : (renderItems name nodes length index (item :: rest)).run settings sub
      (s.inScopes (t :: outer)) = (signalled exit.context.signal).run settings sub exit := by
    rw [renders]
    show (round (sub nodes bound).1).run settings sub (sub nodes bound).2 = _
    rw [started, rendered, onSignal]
    rfl
  have descents : (renderItems name nodes length index (item :: rest)).descents settings sub
      (s.inScopes (t :: outer)) =
        ⟨nodes, entry⟩ :: (signalled exit.context.signal).descents settings sub exit := by
    rw [renders]
    show ⟨nodes, bound⟩ :: (round (sub nodes bound).1).descents settings sub (sub nodes bound).2 = _
    rw [started, rendered, onSignal]
    rfl
  rw [run, descents, behindPass]
  cases signal : exit.context.signal with
  | normal =>
    rw [onNormal, State.leavePass_of_normal signal, if_pos (.inl rfl)]
    exact ⟨rfl, rfl⟩
  | «continue» =>
    rw [onContinue, State.leavePass, signal, if_pos (.inr rfl), if_neg (by decide)]
    exact ⟨rfl, rfl⟩
  | «break» =>
    rw [onBreak, State.leavePass, signal, if_neg (by decide), if_neg (by decide)]
    exact ⟨rfl, rfl⟩
  | extended =>
    rw [onExtended, State.leavePass, signal, if_neg (by decide), if_pos rfl]
    exact ⟨rfl, rfl⟩

/-- A loop renders its nodes for the items that are left.  Where it goes down, the nodes have to
close the scopes of their own. -/
theorem Tags.runsOver_renderItems (accepts : ∀ ns s, (sub ns s).1 = .ok ())
    (items : List Value) (index : Nat) (s : State) {t : Table Value}
    (fresh : t = [] ∨ ∃ before index, t = Loop.scopeAt name before index length)
    (keeps : ∀ d ∈ (renderItems name nodes length index items).descents settings sub
      (s.inScopes (t :: outer)), d.state.Frame (d.exit sub)) :
    ∃ passes u, Loop.RunsOver sub name nodes outer length index items s passes ∧
      (renderItems name nodes length index items).run settings sub (s.inScopes (t :: outer)) =
        (.ok (.ok ()), (s.past Pass.next passes).inScopes (u :: outer)) ∧
      (renderItems name nodes length index items).descents settings sub (s.inScopes (t :: outer)) =
        passes.map fun p => ⟨nodes, p.entry⟩ := by
  induction items generalizing index s t with
  | nil => exact ⟨[], t, .nil, rfl, rfl⟩
  | cons item rest ih =>
    let scope := Loop.scopeAt name item index length
    let entry := s.inScopes (scope :: outer)
    let exit := (sub nodes entry).2
    have renders : sub nodes entry = (.ok (), exit) := Prod.ext (accepts nodes entry) rfl
    obtain ⟨run, descents⟩ := @pass_renderItems settings sub name nodes outer length accepts t fresh
      item rest index s entry exit rfl rfl
    rw [descents, behindPass, List.forall_mem_cons] at keeps
    obtain ⟨frame, keeps⟩ := keeps
    -- The nodes have closed every scope of their own, so the scope of the loop is the innermost.
    have scopes : exit.context.locals = scope :: outer := frame.scopes
    have again : exit.leavePass.inScopes (scope :: outer) = exit.leavePass :=
      State.inScopes_self ((State.locals_leavePass exit).trans scopes)
    rw [run, descents, behindPass]
    by_cases goesOn : exit.context.signal = .normal ∨ exit.context.signal = .continue
    · rw [if_pos goesOn, ← again] at keeps
      obtain ⟨passes, u, runs, restRun, restDescents⟩ :=
        @ih (index + 1) exit.leavePass scope (.inr ⟨item, index, rfl⟩) keeps
      rw [again] at restRun restDescents
      rw [if_pos goesOn, restRun, restDescents]
      exact ⟨⟨entry, exit⟩ :: passes, u, .next rfl renders goesOn runs, rfl, rfl⟩
    · have leaves : exit.context.signal = .break ∨ exit.context.signal = .extended := by
        cases signal : exit.context.signal with
        | normal => exact absurd (.inl signal) goesOn
        | «continue» => exact absurd (.inr signal) goesOn
        | «break» => exact .inl rfl
        | extended => exact .inr rfl
      rw [if_neg goesOn, ← again]
      exact ⟨[⟨entry, exit⟩], scope, .last rfl renders leaves, rfl, rfl⟩

end Run

/-! ## The loop as a whole -/

namespace Loop

variable (settings : Settings) (sub : Renderer) (s : State) (n : Node)

/-- The section behind `else` is rendered where the loop stands, if there is one. -/
def RendersElse : List (Section Unit) → Prop
  | [] => s.attempt settings sub n = (.ok (), s) ∧ s.descents settings sub n = []
  | c :: _ => s.attempt settings sub n = (.ok (), (sub c.nodes s).2) ∧
    s.descents settings sub n = [⟨c.nodes, s⟩]

/-- What a node does as a loop over the items. -/
structure Performs (body : Body Loop Unit) (items : List Value) : Prop where
  withoutItems : items = [] → RendersElse settings sub s n body.clauses
  /-- The body is rendered in the passes and nowhere else.  Behind them the scopes are those around
  the loop, and of the signals only that of an extended template is left. -/
  overItems : items ≠ [] → ∃ passes last, passes.getLast? = some last ∧
    RunsOver sub body.markup.name body.nodes s.context.locals items.length 0 items s passes ∧
    s.descents settings sub n = passes.map (fun p => ⟨body.nodes, p.entry⟩) ∧
    s.attempt settings sub n = (.ok (), (s.past Pass.next passes).inScopes s.context.locals) ∧
    (s.attempt settings sub n).2.context.signal =
      if last.exit.context.signal = .extended then .extended else .normal

end Loop

section Whole

variable {settings : Settings} {sub : Renderer} {s : State}

theorem Tags.render_for_body (body : Body Loop Unit) :
    «for».render body = (do
      let items ← itemsOf body.markup
      renderLoop body.markup.name body.nodes body.clauses items) := by
  simp only [itemsOf, Action.bind_assoc]
  rfl

/-- A loop with items opens a scope, runs over them and closes the scope. -/
theorem Tags.renderLoop_cons (accepts : ∀ ns s, (sub ns s).1 = .ok ())
    (name : String) (nodes : List Node) (sections : List (Section Unit)) {items : List Value}
    (nonempty : items ≠ [])
    (keeps : ∀ d ∈ (renderLoop name nodes sections items).descents settings sub s,
      d.state.Frame (d.exit sub)) :
    ∃ passes, Loop.RunsOver sub name nodes s.context.locals items.length 0 items s passes ∧
      (renderLoop name nodes sections items).run settings sub s =
        (.ok (), (s.past Pass.next passes).inScopes s.context.locals) ∧
      (renderLoop name nodes sections items).descents settings sub s =
        passes.map fun p => ⟨nodes, p.entry⟩ := by
  let inside := s.inScopes ([] :: s.context.locals)
  let finish (outcome : Except Error Unit) : Action Unit := do
    Action.ask .popScope
    Action.ofExcept outcome
  have renders : renderLoop name nodes sections items = .perform .pushScope fun _ =>
      renderItems name nodes items.length 0 items >>= finish := by
    unfold renderLoop
    rw [if_neg (mt List.isEmpty_iff.1 nonempty)]
    rfl
  have asks : (renderLoop name nodes sections items).descents settings sub s =
      (renderItems name nodes items.length 0 items >>= finish).descents settings sub inside := by
    rw [renders]
    rfl
  rw [asks, Action.descents_bind] at keeps
  obtain ⟨passes, u, runs, run, descents⟩ := @runsOver_renderItems settings sub name nodes
    s.context.locals items.length accepts items 0 s [] (.inl rfl)
    fun d hd => keeps d (List.mem_append_left _ hd)
  refine ⟨passes, runs, ?_, ?_⟩
  · rw [renders]
    show (renderItems name nodes items.length 0 items >>= finish).run settings sub inside = _
    rw [Action.run_bind, run]
    rfl
  · rw [asks, Action.descents_bind, run, descents]
    exact List.append_nil _

/-- A loop runs over its items, whatever nodes its body has, as long as lists of nodes may be nested
once more.  What is come to in the body has built-in handlers or none: another handler may leave
scopes open. -/
theorem Loop.runs_over_items {name : String}
    (bound : settings.environment.registry.find? name = some Tags.«for».handler)
    {payload : Payload} {nodes : List Node} {clauses : List (Clause Node)} {body : Body Loop Unit}
    (read : Body.ofBlock name payload nodes clauses = .ok body) (markup : String) (span : Span)
    (levels : Nat) (s : State) {items : List Value}
    (selected : body.markup.Selects (s.context.scope settings) items)
    (isBuiltin : ∀ e ∈ s.events settings (renderNodes settings (levels + 1))
      (history settings (levels + 1)) (.block name markup payload span nodes clauses),
      e.IsBuiltin settings) :
    Loop.Performs settings (renderNodes settings (levels + 1)) s
      (.block name markup payload span nodes clauses) body items := by
  have accepts := accepts_renderNodes settings levels
  rw [State.forall_events settings _ _ (Event.isBuiltin_within settings)] at isBuiltin
  have keeps : ∀ d ∈ s.descents settings (renderNodes settings (levels + 1))
      (.block name markup payload span nodes clauses),
      d.state.Frame (d.exit (renderNodes settings (levels + 1))) :=
    fun d hd => frame_of_history (levels + 1) d.nodes d.state (isBuiltin.2.1 d hd)
  obtain ⟨attempt, descents⟩ :=
    s.attempt_block settings (renderNodes settings (levels + 1)) bound read markup span
  rw [Tags.render_for_body, (Tags.looks_itemsOf _).run_bind, selected.answer] at attempt
  rw [Tags.render_for_body, (Tags.looks_itemsOf _).descents_bind, selected.answer] at descents
  constructor
  · rintro rfl
    cases sections : body.clauses with
    | nil =>
      rw [sections] at attempt descents
      exact ⟨attempt, descents⟩
    | cons c rest =>
      rw [sections] at attempt descents
      exact ⟨attempt.trans (Action.run_renderNodes ..),
        descents.trans (Action.descents_renderNodes ..)⟩
  · intro nonempty
    rw [descents] at keeps
    obtain ⟨passes, runs, run, goesDown⟩ := @Tags.renderLoop_cons settings _ s accepts
      body.markup.name body.nodes body.clauses _ nonempty keeps
    have started : passes ≠ [] := by
      rintro rfl
      rcases runs.ends with all | ⟨p, isLast, -⟩
      · exact nonempty (List.length_eq_zero_iff.1 all.symm)
      · cases isLast
    obtain ⟨last, isLast⟩ := Option.ne_none_iff_exists'.1 (mt List.getLast?_eq_none_iff.1 started)
    refine ⟨passes, last, isLast, runs, descents.trans goesDown, attempt.trans run, ?_⟩
    rw [attempt.trans run, State.past_of_getLast? isLast]
    exact State.signal_leavePass last.exit

end Whole

/-- A loop that counts from three down to two. -/
def countdown : Loop where
  name := "i"
  items := .range (.const (.int 1)) (.const (.int 4))
  limit := some (.const (.int 2))
  offset := some (.const (.int 1))
  reversed := true

/-- What stands in it: a variable, and a tag that leaves nothing to be done behind it. -/
def countdownNodes : List Node := [
  .variable ⟨.path "i" [], []⟩ ⟨⟨1, 49⟩, ⟨1, 56⟩⟩,
  .tag "continue" "" .unit ⟨⟨1, 56⟩, ⟨1, 70⟩⟩]

/-- The loop passes over the items from the third back to the second. -/
theorem Loop.runs_over_items_countdown :
    Environment.standard.registry.OnlyBuiltin ∧
      countdown.Selects ((Environment.startState (.ofNodes "page" []) .none .default).context.scope
        (Environment.standard.settings .default)) [.int 3, .int 2] ∧
      Loop.Performs (Environment.standard.settings .default)
        (renderNodes (Environment.standard.settings .default) 99)
        (Environment.startState (.ofNodes "page" []) .none .default)
        (.block "for" "i in (1..4) limit: 2 offset: 1 reversed" (.loop countdown)
          ⟨⟨1, 0⟩, ⟨1, 49⟩⟩ countdownNodes [])
        ⟨"for", countdown, countdownNodes, []⟩ [.int 3, .int 2] := by
  have selected : countdown.Selects
      ((Environment.startState (.ofNodes "page" []) .none .default).context.scope
        (Environment.standard.settings .default)) [.int 3, .int 2] :=
    ⟨_, _, _, _, rfl, rfl, .bounded rfl, .bounded rfl, rfl⟩
  exact ⟨Registry.onlyBuiltin_builtin, selected,
    @Loop.runs_over_items (Environment.standard.settings .default) _ rfl _ _ _ _ rfl _ _ 98 _ _
      selected fun e _ => Registry.onlyBuiltin_builtin.of_handler? e.visit.node⟩

end Stencil
