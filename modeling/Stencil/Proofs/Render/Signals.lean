import Stencil.Proofs.Render.History

/-!
# Signals

With the built-in handlers no node is rendered while a signal is up.  A signal that a list of nodes
leaves is passed on by the nodes around it, each in its `Role`: a loop takes breaks and continues,
an extension makes an extension of every signal, and all others hand it on as it is.
-/

namespace Stencil

/-- What a node makes of a signal that the nodes inside of it leave. -/
def Role.pass : Role → Signal → Signal
  | _, .normal => .normal
  | .loop, .extended => .extended
  | .loop, _ => .normal
  | .parent _, _ => .extended
  | _, signal => signal

/-- The signals that a node in this role can leave. -/
def Role.Leaves : Role → Signal → Prop
  | .loop, signal => signal = .normal ∨ signal = .extended
  | .parent _, signal => signal = .extended
  | _, _ => True

@[simp] theorem Role.pass_normal (r : Role) : r.pass .normal = .normal := by
  cases r <;> rfl

@[simp] theorem Role.pass_plain (signal : Signal) : plain.pass signal = signal := by
  cases signal <;> rfl

@[simp] theorem Role.pass_choice (signal : Signal) : choice.pass signal = signal := by
  cases signal <;> rfl

@[simp] theorem Role.pass_override (name : String) (signal : Signal) :
    (override name).pass signal = signal := by
  cases signal <;> rfl

theorem Role.pass_parent (t : Template) {signal : Signal} (raised : signal ≠ .normal) :
    (parent t).pass signal = .extended := by
  cases signal with
  | normal => exact absurd rfl raised
  | _ => rfl

theorem Role.pass_eq (r : Role) (signal : Signal) :
    r.pass signal = .normal ∨ r.pass signal = signal ∨ r.pass signal = .extended := by
  cases r <;> cases signal <;> simp [pass]

/-! ## What a course does with signals -/

/-- The nodes of descents are rendered at a normal signal, one list after another as long as the
node takes the signals that they leave, and it leaves the one that it does not take. -/
structure PassesSignals (sub : Renderer) (role : Role) (ds : List Descent) (t : State) : Prop where
  started : ∀ d ∈ ds, d.state.context.signal = .normal
  taken : ds.Pairwise fun d _ => role.pass (d.exit sub).context.signal = .normal
  passed : ∀ d ∈ ds, role.pass (d.exit sub).context.signal ≠ .normal →
    t.context.signal = role.pass (d.exit sub).context.signal

section Courses

variable {sub : Renderer} {role : Role} {n : Node}

namespace PassesSignals

theorem nil (t : State) : PassesSignals sub role [] t :=
  ⟨fun _ h => absurd h List.not_mem_nil, .nil, fun _ h => absurd h List.not_mem_nil⟩

theorem single {d : Descent} {t : State} (started : d.state.context.signal = .normal)
    (passed : role.pass (d.exit sub).context.signal ≠ .normal →
      t.context.signal = role.pass (d.exit sub).context.signal) :
    PassesSignals sub role [d] t := by
  refine ⟨fun _ h => ?_, List.pairwise_singleton .., fun _ h => ?_⟩
  · rwa [List.mem_singleton.1 h]
  · rwa [List.mem_singleton.1 h]

theorem cons {d : Descent} {ds : List Descent} {t : State}
    (started : d.state.context.signal = .normal)
    (taken : role.pass (d.exit sub).context.signal = .normal)
    (rest : PassesSignals sub role ds t) : PassesSignals sub role (d :: ds) t := by
  refine ⟨fun _ h => ?_, rest.taken.cons fun _ _ => taken, fun e h raised => ?_⟩
  · rcases List.mem_cons.1 h with rfl | h
    · exact started
    · exact rest.started _ h
  · rcases List.mem_cons.1 h with rfl | h
    · exact absurd taken raised
    · exact rest.passed e h raised

end PassesSignals

theorem State.Rebinds.signal_eq {s t : State} (rebinds : s.Rebinds t) :
    t.context.signal = s.context.signal := by
  obtain ⟨_, _, _, rfl⟩ := rebinds
  rfl

theorem Rounds.passesSignals (isUniform : sub.IsUniform) {nodes : List Node} {s t : State}
    {ds : List Descent} {r : Except Error Unit} (rounds : Rounds sub nodes s ds r t)
    (normal : s.context.signal = .normal) :
    PassesSignals sub .loop ds t ∧ Role.loop.Leaves t.context.signal := by
  induction rounds with
  | finished s => exact ⟨.nil s, .inl normal⟩
  | refused rebinds rendered =>
    have started := rebinds.signal_eq.trans normal
    have same := isUniform.state_of_refused (congrArg Prod.fst rendered)
    rw [rendered] at same
    obtain rfl := same
    refine ⟨.single started fun raised => absurd ?_ raised, .inl started⟩
    rw [Descent.exit_of_rendered rendered, started]
    rfl
  | next rebinds rendered goesOn rest ih =>
    obtain ⟨passes, leaves⟩ := ih rfl
    refine ⟨.cons (rebinds.signal_eq.trans normal) ?_ passes, leaves⟩
    rw [Descent.exit_of_rendered rendered]
    rcases goesOn with signal | signal <;> rw [signal] <;> rfl
  | left rebinds rendered signal =>
    refine ⟨.single (rebinds.signal_eq.trans normal) fun raised => absurd ?_ raised, .inl rfl⟩
    rw [Descent.exit_of_rendered rendered, signal]
    rfl
  | extended rebinds rendered signal =>
    refine ⟨.single (rebinds.signal_eq.trans normal) fun _ => ?_, .inr signal⟩
    rw [Descent.exit_of_rendered rendered, signal]
    rfl

theorem Sections.passesSignals {s t : State} {ds : List Descent} {r : Except Error Unit}
    (sections : Sections sub n s ds r t) (normal : s.context.signal = .normal) :
    PassesSignals sub .choice ds t := by
  induction sections with
  | finished s => exact .nil s
  | undecided s e => exact .nil s
  | refused holds rendered =>
    refine .single normal fun _ => ?_
    rw [Descent.exit_of_rendered rendered, Role.pass_choice]
  | next holds rendered goesOn rest ih =>
    refine .cons normal ?_ (ih goesOn)
    rw [Descent.exit_of_rendered rendered, goesOn]
    rfl
  | left holds rendered signal =>
    refine .single normal fun _ => ?_
    rw [Descent.exit_of_rendered rendered, Role.pass_choice]

theorem Course.passesSignals (isUniform : sub.IsUniform) {s t : State} {ds : List Descent}
    {r : Except Error Unit} (course : Course sub n role s ds r t)
    (normal : s.context.signal = .normal) :
    PassesSignals sub role ds t ∧ role.Leaves t.context.signal := by
  cases course with
  | refuse isPlain =>
    refine ⟨.nil s, ?_⟩
    rcases isPlain with rfl | rfl <;> trivial
  | write rebinds => exact ⟨.nil _, trivial⟩
  | raise => exact ⟨.nil _, trivial⟩
  | descend => exact ⟨.single normal fun _ => (Role.pass_plain _).symm, trivial⟩
  | capture holds rebinds =>
    refine ⟨.single normal fun _ => ?_, trivial⟩
    rw [rebinds.signal_eq, Role.pass_plain]
    rfl
  | choose sections => exact ⟨sections.passesSignals normal, trivial⟩
  | loop holds opens rounds closes =>
    obtain ⟨passes, leaves⟩ := rounds.passesSignals isUniform (opens.signal_eq.trans normal)
    rw [closes.signal_eq]
    refine ⟨⟨passes.started, passes.taken, fun d hd raised => ?_⟩, leaves⟩
    rw [closes.signal_eq]
    exact passes.passed d hd raised
  | extend =>
    refine ⟨.single normal fun raised => ?_, rfl⟩
    rw [Role.pass_parent]
    · rfl
    · intro kept
      rw [kept] at raised
      exact raised (Role.pass_normal _)
  | override => exact ⟨.single normal fun _ => (Role.pass_override _ _).symm, trivial⟩

end Courses

/-! ## What a history does with signals -/

/-- What the nodes around a visit make of a signal that its node leaves. -/
def Visit.outcome (v : Visit) (signal : Signal) : Signal :=
  v.around.foldl (fun signal r => r.pass signal) signal

namespace Event

/-- The signal before the node that is entered, or after the node that is left. -/
def signal : Event → Signal
  | enter v => v.state.context.signal
  | leave _ _ after => after.context.signal

/-- What the signal that a node leaves comes to outside of all nodes around it. -/
def outcome : Event → Signal
  | enter _ => .normal
  | leave v _ after => v.outcome after.context.signal

/-- Nodes are entered at a normal signal and leave what their role allows. -/
def Sound (settings : Settings) : Event → Prop
  | enter v => v.state.context.signal = .normal
  | leave v _ after => (v.role settings).Leaves after.context.signal

/-- A node is left with the given signal or with what an extension makes of it. -/
def HandsOn (signal : Signal) : Event → Prop
  | enter _ => False
  | leave _ _ after => after.context.signal = signal ∨ after.context.signal = .extended

@[simp] theorem signal_within (r : Role) (e : Event) : (e.within r).signal = e.signal := by
  cases e <;> rfl

@[simp] theorem outcome_within (r : Role) (e : Event) :
    (e.within r).outcome = r.pass e.outcome := by
  cases e with
  | enter v => exact (Role.pass_normal r).symm
  | leave v outcome after => simp [within, Event.outcome, Visit.outcome]

theorem sound_within {settings : Settings} {r : Role} {e : Event} :
    (e.within r).Sound settings ↔ e.Sound settings := by
  cases e <;> rfl

theorem handsOn_within {signal : Signal} {r : Role} {e : Event} :
    (e.within r).HandsOn signal ↔ e.HandsOn signal := by
  cases e <;> rfl

end Event

theorem Visit.outcome_eq (v : Visit) (signal : Signal) :
    v.outcome signal = .normal ∨ v.outcome signal = signal ∨ v.outcome signal = .extended := by
  unfold outcome
  induction v.around generalizing signal with
  | nil => exact .inr (.inl rfl)
  | cons r rs ih =>
    rw [List.foldl_cons]
    rcases ih (r.pass signal) with h | h | h
    · exact .inl h
    · rw [h]
      exact r.pass_eq signal
    · exact .inr (.inr h)

theorem Event.outcome_eq (e : Event) :
    e.outcome = .normal ∨ e.outcome = e.signal ∨ e.outcome = .extended := by
  cases e with
  | enter v => exact .inl rfl
  | leave v outcome after => exact v.outcome_eq _

/-- A history in which signals are as they should be.  Behind a node whose signal is not taken by
the nodes around it, no node is entered any more, and the signal is what the history ends with. -/
structure Orderly (settings : Settings) (es : List Event) (final : Signal) : Prop where
  sound : ∀ e ∈ es, e.Sound settings
  sealed : es.Pairwise fun e f => e.outcome ≠ .normal → f.HandsOn e.signal
  surfaces : ∀ e ∈ es, e.outcome ≠ .normal → final = e.outcome

namespace Orderly

variable {settings : Settings} {es fs : List Event} {final : Signal}

theorem nil : Orderly settings [] final :=
  ⟨fun _ h => absurd h List.not_mem_nil, .nil, fun _ h => absurd h List.not_mem_nil⟩

/-- What ends at a normal signal may be gone on with. -/
theorem append (first : Orderly settings es .normal) (second : Orderly settings fs final) :
    Orderly settings (es ++ fs) final := by
  have quiet (e : Event) (he : e ∈ es) : e.outcome = .normal :=
    Decidable.byContradiction fun raised => raised (first.surfaces e he raised).symm
  refine ⟨fun e he => ?_, ?_, fun e he raised => ?_⟩
  · exact (List.mem_append.1 he).elim (first.sound e) (second.sound e)
  · rw [List.pairwise_append]
    exact ⟨first.sealed, second.sealed, fun e he f _ raised => absurd (quiet e he) raised⟩
  · rcases List.mem_append.1 he with he | he
    · exact absurd (quiet e he) raised
    · exact second.surfaces e he raised

/-- The events inside of a node, as they are seen from outside of it. -/
theorem inside {sub : Renderer} {inner : List Node → State → List Event} {role : Role}
    {ds : List Descent} {t : State} (passes : PassesSignals sub role ds t)
    (orderly : ∀ d ∈ ds,
      Orderly settings (inner d.nodes d.state) (d.exit sub).context.signal) :
    Orderly settings ((ds.flatMap fun d => inner d.nodes d.state).map (Event.within role))
      t.context.signal := by
  have surfaces (d : Descent) (hd : d ∈ ds) (e : Event) (he : e ∈ inner d.nodes d.state)
      (raised : role.pass e.outcome ≠ .normal) :
      role.pass (d.exit sub).context.signal = role.pass e.outcome := by
    have up : e.outcome ≠ .normal := fun h => raised (h ▸ Role.pass_normal role)
    rw [(orderly d hd).surfaces e he up]
  refine ⟨fun e he => ?_, ?_, fun e he raised => ?_⟩
  · obtain ⟨e', he', rfl⟩ := List.mem_map.1 he
    obtain ⟨d, hd, he'⟩ := List.mem_flatMap.1 he'
    exact Event.sound_within.2 ((orderly d hd).sound e' he')
  · simp only [List.pairwise_map, Event.outcome_within, Event.signal_within,
      Event.handsOn_within, List.pairwise_flatMap]
    refine ⟨fun d hd => ?_, ?_⟩
    · refine (orderly d hd).sealed.imp fun seals raised => seals fun h => raised ?_
      rw [h, Role.pass_normal]
    · refine passes.taken.imp_of_mem fun {d d'} hd _ taken e he f _ raised => ?_
      rw [surfaces d hd e he raised] at taken
      exact absurd taken raised
  · obtain ⟨e', he', rfl⟩ := List.mem_map.1 he
    obtain ⟨d, hd, he'⟩ := List.mem_flatMap.1 he'
    rw [Event.outcome_within] at raised ⊢
    have surfaced := surfaces d hd e' he' raised
    rw [← surfaced]
    exact passes.passed d hd (surfaced ▸ raised)

/-- A node with the events inside of it. -/
theorem around {v : Visit} {outcome : Except Error Unit} {after : State} (top : v.around = [])
    (normal : v.state.context.signal = .normal)
    (leaves : (v.role settings).Leaves after.context.signal)
    (inside : Orderly settings es after.context.signal) :
    Orderly settings (.enter v :: es ++ [.leave v outcome after]) after.context.signal := by
  have own : (Event.leave v outcome after).outcome = after.context.signal := by
    simp [Event.outcome, Visit.outcome, top]
  have handsOn (e : Event) (he : e ∈ es) (raised : e.outcome ≠ .normal) :
      (Event.leave v outcome after).HandsOn e.signal := by
    show after.context.signal = e.signal ∨ after.context.signal = .extended
    rw [inside.surfaces e he raised]
    exact e.outcome_eq.resolve_left raised
  refine ⟨fun e he => ?_, ?_, fun e he raised => ?_⟩
  · rcases List.mem_append.1 he with he | he
    · rcases List.mem_cons.1 he with rfl | he
      · exact normal
      · exact inside.sound e he
    · rw [List.mem_singleton.1 he]
      exact leaves
  · rw [List.pairwise_append, List.pairwise_cons]
    refine ⟨⟨fun _ _ raised => absurd rfl raised, inside.sealed⟩, List.pairwise_singleton ..,
      fun e he f hf raised => ?_⟩
    rw [List.mem_singleton.1 hf]
    rcases List.mem_cons.1 he with rfl | he
    · exact absurd rfl raised
    · exact handsOn e he raised
  · rcases List.mem_append.1 he with he | he
    · rcases List.mem_cons.1 he with rfl | he
      · exact absurd rfl raised
      · exact inside.surfaces e he raised
    · rw [List.mem_singleton.1 he, own]

end Orderly

theorem State.signal_renderNode (settings : Settings) (sub : Renderer) (s : State) (n : Node) :
    (s.renderNode settings sub n).context.signal =
      (s.attempt settings sub n).2.context.signal := by
  rw [renderNode_eq]
  rcases s.attempt settings sub n with ⟨_ | _, t⟩
  · exact (t.context_recover settings n.isVariable n.span? _).1
  · rfl

/-- Signals are as they should be in every history that begins at a normal one. -/
theorem history_orderly {settings : Settings}
    (isBuiltin : settings.environment.registry.OnlyBuiltin) (levels : Nat) (nodes : List Node)
    (s : State) (normal : s.context.signal = .normal) :
    Orderly settings (history settings levels nodes s)
      (renderNodes settings levels nodes s).2.context.signal := by
  refine history_induction
    (P := fun _ s es t => s.context.signal = .normal → Orderly settings es t.context.signal)
    (Q := fun _ s es t => s.context.signal = .normal → Orderly settings es t.context.signal)
    (fun _ _ _ => .nil) (fun _ _ _ _ _ ofNode _ => ofNode) ?_ ?_ levels nodes s normal
  · intro n ns s es t fs u ofNode left rest normal
    have first := ofNode normal
    rw [left] at first
    exact first.append (rest left)
  · intro levels further n s normal
    have course := s.course settings (renderNodes settings levels) (isBuiltin.of_handler? n)
    obtain ⟨passes, leaves⟩ := course.passesSignals (isUniform_renderNodes settings levels) normal
    have inside := Orderly.inside passes fun d hd =>
      further d.nodes d.state (passes.started d hd)
    rw [← State.signal_renderNode] at leaves inside
    exact .around rfl normal leaves inside

/-! ## What a signal comes to -/

namespace Visit

theorem outcome_extended (v : Visit) : v.outcome .extended = .extended := by
  unfold outcome
  induction v.around with
  | nil => rfl
  | cons r rs ih =>
    have kept : r.pass .extended = .extended := by cases r <;> rfl
    rw [List.foldl_cons, kept]
    exact ih

/-- Outside of loops a signal is never taken: it stays what it is until an extension is left. -/
theorem outcome_of_no_loop {v : Visit} {signal : Signal} (raised : signal ≠ .normal)
    (noLoop : .loop ∉ v.around) :
    ((∃ t, .parent t ∈ v.around) → v.outcome signal = .extended) ∧
      ((¬ ∃ t, .parent t ∈ v.around) → v.outcome signal = signal) := by
  obtain ⟨node, state, around⟩ := v
  induction around generalizing signal with
  | nil => exact ⟨fun ⟨_, h⟩ => absurd h List.not_mem_nil, fun _ => rfl⟩
  | cons r rs ih =>
    have later : .loop ∉ rs := fun h => noLoop (List.mem_cons_of_mem _ h)
    have step : (Visit.mk node state (r :: rs)).outcome signal =
        (Visit.mk node state rs).outcome (r.pass signal) := rfl
    rw [step]
    cases r with
    | loop => exact absurd (List.mem_cons_self ..) noLoop
    | parent p =>
      rw [Role.pass_parent p raised, outcome_extended]
      exact ⟨fun _ => rfl, fun noParent => absurd ⟨p, List.mem_cons_self ..⟩ noParent⟩
    | plain => simpa using ih raised later
    | choice => simpa using ih raised later
    | override => simpa using ih raised later

end Visit

theorem Orderly.behind {settings : Settings} {es before behind : List Event} {e : Event}
    {final : Signal} (orderly : Orderly settings es final) (split : es = before ++ e :: behind)
    (raised : e.outcome ≠ .normal) :
    (∀ f ∈ behind, f.HandsOn e.signal) ∧ final = e.outcome := by
  subst split
  refine ⟨fun f hf => ?_, orderly.surfaces e (by simp) raised⟩
  have sealed := (List.pairwise_append.1 orderly.sealed).2.1
  exact (List.pairwise_cons.1 sealed).1 f hf raised

end Stencil
