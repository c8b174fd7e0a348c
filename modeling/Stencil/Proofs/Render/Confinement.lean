import Stencil.Proofs.Render.Signals

/-!
# How far signals reach

A break or a continue that is raised in the body of a loop reaches the innermost loop and goes no
further: behind it nothing happens but that nodes are left, up to the end of that loop or to its
next round.  A signal that is raised outside of loops ends the render, and so does an extension.
-/

namespace Stencil

/-! ## Breaks and continues -/

namespace Event

/-- The event ends the reach of a signal in a loop, if `outer` is around the loop: the loop is left
at a normal signal, or the next round begins. -/
def Takes (settings : Settings) (signal : Signal) (outer : List Role) : Event → Prop
  | enter v => signal = .continue ∧ v.around = .loop :: outer
  | leave v _ after =>
    v.role settings = .loop ∧ v.around = outer ∧ after.context.signal = .normal

theorem Takes.within {settings : Settings} {signal : Signal} {outer : List Role} {e : Event}
    (takes : e.Takes settings signal outer) (r : Role) :
    (e.within r).Takes settings signal (outer ++ [r]) := by
  cases e with
  | enter v =>
    refine ⟨takes.1, ?_⟩
    show v.around ++ [r] = _
    rw [takes.2]
    rfl
  | leave v outcome after =>
    refine ⟨takes.1, ?_, takes.2.2⟩
    show v.around ++ [r] = _
    rw [takes.2.1]

end Event

/-- Nodes are left with the signal up to an event that ends its reach. -/
def TakenIn (settings : Settings) (signal : Signal) (outer : List Role) (es : List Event) : Prop :=
  ∃ passing e rest, es = passing ++ e :: rest ∧ (∀ f ∈ passing, f.HandsOn signal) ∧
    e.Takes settings signal outer

/-- The nodes around a node up to the innermost loop hand a signal on as it is. -/
structure InLoop (v : Visit) (inner outer : List Role) : Prop where
  around : v.around = inner ++ .loop :: outer
  noLoop : .loop ∉ inner
  noParent : ∀ t, .parent t ∉ inner

/-- Every break and every continue in a loop is taken by the innermost loop. -/
def Settles (settings : Settings) : List Event → Prop
  | [] => True
  | e :: es =>
    (∀ v r t inner outer, e = .leave v r t → InLoop v inner outer →
      t.context.signal = .break ∨ t.context.signal = .continue →
      TakenIn settings t.context.signal outer es) ∧ Settles settings es

section

variable {settings : Settings} {es fs : List Event}

theorem TakenIn.append {signal : Signal} {outer : List Role}
    (taken : TakenIn settings signal outer es) (fs : List Event) :
    TakenIn settings signal outer (es ++ fs) := by
  obtain ⟨passing, e, rest, rfl, passes, takes⟩ := taken
  refine ⟨passing, e, rest ++ fs, ?_, passes, takes⟩
  rw [List.append_assoc, List.cons_append]

theorem TakenIn.within {signal : Signal} {outer : List Role}
    (taken : TakenIn settings signal outer es) (r : Role) :
    TakenIn settings signal (outer ++ [r]) (es.map (Event.within r)) := by
  obtain ⟨passing, e, rest, rfl, passes, takes⟩ := taken
  refine ⟨passing.map (Event.within r), e.within r, rest.map (Event.within r), by simp, ?_,
    takes.within r⟩
  intro f hf
  obtain ⟨g, hg, rfl⟩ := List.mem_map.1 hf
  exact Event.handsOn_within.2 (passes g hg)

theorem Settles.append (first : Settles settings es) (second : Settles settings fs) :
    Settles settings (es ++ fs) := by
  induction es with
  | nil => exact second
  | cons e es ih =>
    refine ⟨fun v r t inner outer he inLoop raised => ?_, ih first.2⟩
    exact (first.1 v r t inner outer he inLoop raised).append fs

theorem Settles.taken {before behind : List Event} {e : Event}
    (settles : Settles settings (before ++ e :: behind)) :
    Settles settings (e :: behind) := by
  induction before with
  | nil => exact settles
  | cons f before ih => exact ih settles.2

/-- Whether a node is in a loop can be told from outside of the outermost node around it. -/
theorem InLoop.of_within {v w : Visit} {r : Role} {inner outer : List Role}
    (seen : v.around = w.around ++ [r]) (inLoop : InLoop v inner outer) :
    (outer = [] ∧ r = .loop ∧ w.around = inner) ∨
      ∃ outside, outer = outside ++ [r] ∧ InLoop w inner outside := by
  rcases List.eq_nil_or_concat outer with rfl | ⟨outside, last, rfl⟩
  · left
    have same := seen.symm.trans inLoop.around
    obtain ⟨front, back⟩ := List.append_inj' same rfl
    exact ⟨rfl, List.singleton_inj.1 back, front⟩
  · right
    have same := seen.symm.trans inLoop.around
    rw [List.concat_eq_append, ← List.cons_append, ← List.append_assoc] at same
    obtain ⟨front, back⟩ := List.append_inj' same rfl
    obtain rfl := List.singleton_inj.1 back
    exact ⟨outside, List.concat_eq_append .., ⟨front, inLoop.noLoop, inLoop.noParent⟩⟩

/-- What settles inside of a node that is no loop settles outside of it. -/
theorem Settles.within {r : Role} (settles : Settles settings es) (notLoop : r ≠ .loop) :
    Settles settings (es.map (Event.within r)) := by
  induction es with
  | nil => trivial
  | cons e es ih =>
    refine ⟨fun v outcome t inner outer he inLoop raised => ?_, ih settles.2⟩
    cases e with
    | enter w => cases he
    | leave w outcome' t' =>
      obtain ⟨rfl, rfl, rfl⟩ := Event.leave.inj he
      rcases inLoop.of_within rfl with ⟨-, isLoop, -⟩ | ⟨outside, rfl, inside⟩
      · exact absurd isLoop notLoop
      · exact (settles.1 w _ _ inner outside rfl inside raised).within r

theorem Orderly.tail {e : Event} {final : Signal} (orderly : Orderly settings (e :: es) final) :
    Orderly settings es final :=
  ⟨fun f hf => orderly.sound f (List.mem_cons_of_mem _ hf), (List.pairwise_cons.1 orderly.sealed).2,
    fun f hf => orderly.surfaces f (List.mem_cons_of_mem _ hf)⟩

/-- What settles in one round settles in the loop, if the signal that the round leaves is taken by
what comes behind it. -/
theorem Settles.round {after : List Event} {exit : Signal} (settles : Settles settings es)
    (orderly : Orderly settings es exit) (settlesAfter : Settles settings after)
    (ends : es ≠ [] → exit = .break ∨ exit = .continue →
      ∃ e rest, after = e :: rest ∧ e.Takes settings exit []) :
    Settles settings (es.map (Event.within .loop) ++ after) := by
  induction es with
  | nil => exact settlesAfter
  | cons e es ih =>
    refine ⟨fun v outcome t inner outer he inLoop raised => ?_,
      ih settles.2 orderly.tail fun _ => ends (List.cons_ne_nil _ _)⟩
    cases e with
    | enter w => cases he
    | leave w outcome' t' =>
      obtain ⟨rfl, rfl, rfl⟩ := Event.leave.inj he
      rcases inLoop.of_within rfl with ⟨rfl, -, rfl⟩ | ⟨outside, rfl, inside⟩
      · -- No loop is between the node and the round, so that the round leaves the same signal.
        have up : t'.context.signal ≠ .normal := by
          rcases raised with signal | signal <;> rw [signal] <;> exact nofun
        have outcome : w.outcome t'.context.signal = t'.context.signal :=
          (Visit.outcome_of_no_loop up inLoop.noLoop).2 fun ⟨p, hp⟩ => inLoop.noParent p hp
        have raisedOut : (Event.leave w outcome' t').outcome ≠ .normal := by
          show w.outcome t'.context.signal ≠ .normal
          rwa [outcome]
        obtain ⟨passes, left⟩ := orderly.behind (List.nil_append _).symm raisedOut
        have same : exit = t'.context.signal := left.trans outcome
        obtain ⟨f, rest, rfl, takes⟩ := ends (List.cons_ne_nil _ _) (same ▸ raised)
        refine ⟨es.map (Event.within .loop), f, rest, rfl, fun g hg => ?_, same ▸ takes⟩
        obtain ⟨h, hh, rfl⟩ := List.mem_map.1 hg
        exact Event.handsOn_within.2 (passes h hh)
      · exact ((settles.1 w _ _ inner outside rfl inside raised).within .loop).append after

/-- A list of nodes that is not refused begins with its first node, wherever it is rendered. -/
theorem history_begins {levels : Nat} {nodes : List Node} {s : State}
    (begins : history settings levels nodes s ≠ []) (t : State) :
    ∃ n rest, history settings levels nodes t = .enter ⟨n, t, []⟩ :: rest := by
  cases levels with
  | zero => exact absurd rfl begins
  | succ levels =>
    cases nodes with
    | nil => exact absurd rfl begins
    | cons n ns => exact ⟨n, _, rfl⟩

/-- A loop either goes on with a round or is over. -/
theorem Rounds.finished_or_round {sub : Renderer} {nodes : List Node} {s t : State}
    {ds : List Descent} {r : Except Error Unit} (rounds : Rounds sub nodes s ds r t) :
    (ds = [] ∧ t = s) ∨ ∃ u ds', ds = ⟨nodes, u⟩ :: ds' := by
  cases rounds with
  | finished => exact .inl ⟨rfl, rfl⟩
  | _ => exact .inr ⟨_, _, rfl⟩

/-- In a loop every round settles, if what comes behind the loop takes what its last round leaves. -/
theorem Rounds.settles {levels : Nat} {nodes : List Node} {s t : State} {ds : List Descent}
    {r : Except Error Unit} (rounds : Rounds (renderNodes settings levels) nodes s ds r t)
    (normal : s.context.signal = .normal)
    (further : ∀ t, t.context.signal = .normal →
      Settles settings (history settings levels nodes t) ∧
        Orderly settings (history settings levels nodes t)
          (renderNodes settings levels nodes t).2.context.signal)
    {after : List Event} (settlesAfter : Settles settings after)
    (ends : t.context.signal = .normal → ∀ signal,
      ∃ e rest, after = e :: rest ∧ e.Takes settings signal []) :
    Settles settings ((ds.flatMap fun d => history settings levels d.nodes d.state).map
      (Event.within .loop) ++ after) := by
  -- One round and what comes behind it.
  have round {t u : State} {r : Except Error Unit} {after : List Event}
      (started : t.context.signal = .normal) (rendered : renderNodes settings levels nodes t = (r, u))
      (settlesAfter : Settles settings after)
      (ends : history settings levels nodes t ≠ [] →
        u.context.signal = .break ∨ u.context.signal = .continue →
        ∃ e rest, after = e :: rest ∧ e.Takes settings u.context.signal []) :
      Settles settings ((history settings levels nodes t).map (Event.within .loop) ++ after) := by
    obtain ⟨settles, orderly⟩ := further t started
    rw [rendered] at orderly
    exact settles.round orderly settlesAfter ends
  have only (t : State) : ([Descent.mk nodes t].flatMap fun d =>
      history settings levels d.nodes d.state) = history settings levels nodes t := by
    rw [List.flatMap_cons, List.flatMap_nil, List.append_nil]
  induction rounds with
  | finished s => exact settlesAfter
  | @refused s t u e rebinds rendered =>
    have started := rebinds.signal_eq.trans normal
    have same := (isUniform_renderNodes settings levels).state_of_refused
      (congrArg Prod.fst rendered)
    rw [rendered] at same
    obtain rfl := same
    rw [only]
    refine round started rendered settlesAfter fun _ raised => ?_
    rw [started] at raised
    exact absurd raised (by decide)
  | @next s t u v ds r rebinds rendered goesOn rest ih =>
    have started := rebinds.signal_eq.trans normal
    rw [List.flatMap_cons, List.map_append, List.append_assoc]
    refine round started rendered (ih rfl ends) fun begins raised => ?_
    have continues : u.context.signal = .continue := by
      rcases goesOn with signal | signal
      · rw [signal] at raised
        exact absurd raised (by decide)
      · exact signal
    rcases rest.finished_or_round with ⟨rfl, rfl⟩ | ⟨w, ds', rfl⟩
    · exact ends rfl _
    · obtain ⟨n, behind, next⟩ := history_begins begins w
      rw [List.flatMap_cons, next]
      exact ⟨_, _, rfl, continues, rfl⟩
  | @left s t u rebinds rendered signal =>
    rw [only]
    exact round (rebinds.signal_eq.trans normal) rendered settlesAfter fun _ _ => ends rfl _
  | @extended s t u rebinds rendered signal =>
    rw [only]
    refine round (rebinds.signal_eq.trans normal) rendered settlesAfter fun _ raised => ?_
    rw [signal] at raised
    exact absurd raised (by decide)

theorem Settles.flatMap {ds : List Descent} {inner : Descent → List Event}
    (settles : ∀ d ∈ ds, Settles settings (inner d)) : Settles settings (ds.flatMap inner) := by
  induction ds with
  | nil => trivial
  | cons d ds ih =>
    rw [List.flatMap_cons]
    exact (settles d (List.mem_cons_self ..)).append (ih fun e he =>
      settles e (List.mem_cons_of_mem _ he))

theorem Settles.leave {v : Visit} (top : v.around = []) (outcome : Except Error Unit)
    (after : State) : Settles settings [.leave v outcome after] := by
  refine ⟨fun w r t inner outer he inLoop _ => ?_, trivial⟩
  obtain ⟨rfl, -, -⟩ := Event.leave.inj he
  have around := top.symm.trans inLoop.around
  simp at around

/-- In every history that begins at a normal signal, breaks and continues are taken by the innermost
loop. -/
theorem history_settles (isBuiltin : settings.environment.registry.OnlyBuiltin) (levels : Nat)
    (nodes : List Node) (s : State) (normal : s.context.signal = .normal) :
    Settles settings (history settings levels nodes s) := by
  refine history_induction (P := fun _ s es _ => s.context.signal = .normal → Settles settings es)
    (Q := fun _ s es _ => s.context.signal = .normal → Settles settings es)
    (fun _ _ _ => trivial) (fun _ _ _ _ _ ofNode _ => ofNode) ?_ ?_ levels nodes s normal
  · intro n ns s es t fs u ofNode left rest normal
    exact (ofNode normal).append (rest left)
  · intro levels further n s normal
    have course := s.course settings (renderNodes settings levels) (isBuiltin.of_handler? n)
    have started := (course.passesSignals (isUniform_renderNodes settings levels) normal).1.started
    rw [State.events, List.cons_append]
    refine ⟨fun _ _ _ _ _ he => Event.noConfusion he, ?_⟩
    by_cases isLoop : s.role settings n = .loop
    · rw [isLoop] at course ⊢
      obtain ⟨nodes, u, v, -, opens, rounds, closes⟩ := course.rounds_of_loop
      refine rounds.settles (opens.signal_eq.trans normal)
        (fun t started => ⟨further _ t started, history_orderly isBuiltin levels _ t started⟩)
        (.leave rfl _ _) fun signal _ => ⟨_, _, rfl, isLoop, rfl, ?_⟩
      rw [State.signal_renderNode, closes.signal_eq]
      exact signal
    · refine .append (.within (.flatMap fun d hd => ?_) isLoop) (.leave rfl _ _)
      exact further d.nodes d.state (started d hd)

end

/-! ## The signals of a render -/

namespace Environment

/-- What signals can do in a render. -/
structure ConfinesSignals (env : Environment) (template : Template) (assigns : Value)
    (options : RenderOptions) : Prop where
  /-- No node is rendered while a signal is up. -/
  entered : ∀ v, .enter v ∈ env.history template assigns options →
    v.state.context.signal = .normal
  /-- A loop takes the breaks and the continues of its body. -/
  loop : ∀ v r t, .leave v r t ∈ env.history template assigns options →
    v.role (env.settings options) = .loop →
    t.context.signal ≠ .break ∧ t.context.signal ≠ .continue
  /-- They are taken by the innermost loop around the node that raises them. -/
  innermost : ∀ before v r t behind inner outer,
    env.history template assigns options = before ++ .leave v r t :: behind →
    InLoop v inner outer → t.context.signal = .break ∨ t.context.signal = .continue →
    TakenIn (env.settings options) t.context.signal outer behind
  /-- A signal that is raised outside of loops is never cleared, and no node is rendered behind it.
  An extension that it is raised in makes an extension of it. -/
  raised : ∀ before v r t behind,
    env.history template assigns options = before ++ .leave v r t :: behind →
    t.context.signal ≠ .normal → .loop ∉ v.around →
    (∀ e ∈ behind, e.HandsOn t.context.signal) ∧
      ((∃ p, .parent p ∈ v.around) →
        (env.finalState template assigns options).context.signal = .extended) ∧
      ((¬ ∃ p, .parent p ∈ v.around) →
        (env.finalState template assigns options).context.signal = t.context.signal)
  /-- Behind a template that has been extended no node is rendered, at any level. -/
  extended : ∀ before v p r t behind,
    env.history template assigns options = before ++ .leave v r t :: behind →
    v.role (env.settings options) = .parent p →
    (∀ e ∈ behind, e.HandsOn .extended) ∧
      (env.finalState template assigns options).context.signal = .extended

/-- With the built-in handlers, signals are confined in every render. -/
theorem confinesSignals (env : Environment) (isBuiltin : env.registry.OnlyBuiltin)
    (template : Template) (assigns : Value) (options : RenderOptions) :
    env.ConfinesSignals template assigns options := by
  have orderly : Orderly (env.settings options) (env.history template assigns options)
      (env.finalState template assigns options).context.signal := by
    rw [finalState_eq]
    exact @history_orderly (env.settings options) isBuiltin maxLevels template.nodes
      (startState template assigns options) rfl
  constructor
  case entered => exact fun v entered => orderly.sound _ entered
  case loop =>
    intro v r t left isLoop
    have leaves : (v.role (env.settings options)).Leaves t.context.signal := orderly.sound _ left
    rw [isLoop] at leaves
    rcases leaves with signal | signal <;> rw [signal] <;> exact ⟨nofun, nofun⟩
  case innermost =>
    intro before v r t behind inner outer split inLoop raised
    have settles : Settles (env.settings options) (env.history template assigns options) :=
      history_settles isBuiltin maxLevels template.nodes _ rfl
    rw [split] at settles
    exact settles.taken.1 v r t inner outer rfl inLoop raised
  case raised =>
    intro before v r t behind split raised noLoop
    obtain ⟨inParent, outside⟩ := Visit.outcome_of_no_loop raised noLoop
    have up : v.outcome t.context.signal ≠ .normal := by
      by_cases h : ∃ p, .parent p ∈ v.around
      · rw [inParent h]
        exact nofun
      · rwa [outside h]
    obtain ⟨sealed, surfaced⟩ := orderly.behind split up
    exact ⟨sealed, fun h => surfaced.trans (inParent h), fun h => surfaced.trans (outside h)⟩
  case extended =>
    intro before v p r t behind split isParent
    have left : t.context.signal = .extended := by
      have leaves : (v.role (env.settings options)).Leaves t.context.signal :=
        orderly.sound (.leave v r t) (by rw [split]; simp)
      rwa [isParent] at leaves
    have up : (Event.leave v r t).outcome = .extended := by
      show v.outcome t.context.signal = .extended
      rw [left, Visit.outcome_extended]
    obtain ⟨sealed, surfaced⟩ := orderly.behind split (up ▸ nofun)
    exact ⟨fun e he => left ▸ sealed e he, surfaced.trans up⟩

/-- A page in which a loop is broken off, and then the page itself. -/
def brokenPage : Template := .ofNodes "page" [
  .block "for" "i in (1..3)" (.loop ⟨"i", .range (.const (.int 1)) (.const (.int 3)), none, none, false⟩)
    ⟨⟨1, 0⟩, ⟨1, 21⟩⟩ [.text "in", .tag "break" "" .unit ⟨⟨1, 23⟩, ⟨1, 34⟩⟩] [],
  .tag "break" "" .unit ⟨⟨1, 46⟩, ⟨1, 57⟩⟩, .text "behind"]

theorem confinesSignals_brokenPage :
    standard.registry.OnlyBuiltin ∧ standard.ConfinesSignals brokenPage .none .default :=
  ⟨Registry.onlyBuiltin_builtin,
    confinesSignals standard Registry.onlyBuiltin_builtin brokenPage .none .default⟩

example : (standard.finalState brokenPage .none .default).output = ⟨.joined "in", []⟩ ∧
    (standard.finalState brokenPage .none .default).context.signal = .break := by decide

end Environment

end Stencil
