import Stencil.Proofs.Render.Course

/-!
# The built-in handlers take their courses

Each of the built-in handlers follows the rules of `Course`, in the role that `Handler.role` gives
it, and so does every node whose handler is one of them.
-/

namespace Stencil

/-! ## Actions that take a course -/

/-- The action takes a course of the node. -/
def Follows (settings : Settings) (sub : Renderer) (n : Node) (role : Role) (s : State)
    (a : Action Unit) : Prop :=
  Course sub n role s (a.descents settings sub s) (a.run settings sub s).1 (a.run settings sub s).2

section Follows

variable {settings : Settings} {sub : Renderer} {n : Node} {role : Role} {s : State}

namespace Follows

theorem fail (e : Error) : Follows settings sub n .plain s (.fail e) := .refuse (.inl rfl) s e

theorem done : Follows settings sub n .plain s (.done ()) := by
  have unchanged : (s.write "").Rebinds s := by
    rw [State.write_empty]
    exact .refl s
  exact .write unchanged

/-- An action that looks first takes the course of what it goes on with. -/
theorem look {α : Type} {a : Action α} {f : α → Action Unit} (looks : a.Looks)
    (goesOn : ∀ x, a.answer settings s = .ok x → Follows settings sub n role s (f x))
    (fails : ∀ e, a.answer settings s = .error e → role = .plain ∨ role = .choice) :
    Follows settings sub n role s (a >>= f) := by
  unfold Follows
  rw [looks.run_bind, looks.descents_bind]
  cases h : a.answer settings s with
  | ok x => exact goesOn x h
  | error e => exact .refuse (fails e h) s e

theorem look_plain {α : Type} {a : Action α} {f : α → Action Unit} (looks : a.Looks)
    (goesOn : ∀ x, Follows settings sub n .plain s (f x)) :
    Follows settings sub n .plain s (a >>= f) :=
  look looks (fun x _ => goesOn x) fun _ _ => .inl rfl

theorem renderNodes {nodes : List Node} (holds : n.Holds nodes) :
    Follows settings sub n .plain s (Action.renderNodes nodes) := by
  unfold Follows
  rw [Action.run_renderNodes, Action.descents_renderNodes]
  exact .descend s holds

end Follows

/-! ## Tags and blocks -/

/-- The block is what a node is to its handler. -/
structure Body.IsOf {μ κ : Type} (b : Body μ κ) (n : Node) : Prop where
  nodes : n.Holds b.nodes
  sections : ∀ s ∈ b.clauses, n.Holds s.nodes

theorem Section.nodes_of_mapM {κ : Type} [MarkupType κ] {clauses : List (Clause Node)}
    {sections : List (Section κ)} (read : clauses.mapM Section.ofClause = .ok sections) :
    ∀ s ∈ sections, ∃ c ∈ clauses, s.nodes = c.body := by
  induction clauses generalizing sections with
  | nil =>
    obtain rfl : [] = sections := Except.ok.inj read
    exact fun s hs => absurd hs List.not_mem_nil
  | cons c clauses ih =>
    rw [List.mapM_cons, bind_eq_ok] at read
    obtain ⟨first, hfirst, read⟩ := read
    obtain ⟨rest, hrest, read⟩ := bind_eq_ok.1 read
    obtain rfl : first :: rest = sections := Except.ok.inj read
    obtain ⟨markup, -, hmarkup⟩ := bind_eq_ok.1 hfirst
    obtain rfl := Except.ok.inj hmarkup
    intro s hs
    rcases List.mem_cons.1 hs with rfl | hs
    · exact ⟨c, List.mem_cons_self .., rfl⟩
    · obtain ⟨d, hd, same⟩ := ih hrest s hs
      exact ⟨d, List.mem_cons_of_mem _ hd, same⟩

theorem Body.isOf_of_ofBlock {μ κ : Type} [MarkupType μ] [MarkupType κ] {name : String}
    {payload : Payload} {body : List Node} {clauses : List (Clause Node)} {b : Body μ κ}
    (read : Body.ofBlock name payload body clauses = .ok b)
    (hn : n.call? = some (.block name payload body clauses)) : b.IsOf n := by
  obtain ⟨sections, hsections, read⟩ := bind_eq_ok.1 read
  obtain ⟨markup, -, read⟩ := bind_eq_ok.1 read
  obtain rfl := Except.ok.inj read
  cases n with
  | text => cases hn
  | «variable» => cases hn
  | tag => cases hn
  | block =>
    obtain ⟨rfl, rfl, rfl, rfl⟩ := Call.block.inj (Option.some.inj hn)
    exact ⟨.inl rfl, fun s hs => .inr (Section.nodes_of_mapM hsections s hs)⟩

/-- A tag that is nothing to other nodes takes a course if what it does is one. -/
theorem Tag.follows {μ : Type} [MarkupType μ] {t : Tag μ}
    (renders : ∀ m, Follows settings sub n .plain s (t.render m)) (c : Call) :
    Follows settings sub n .plain s (t.handler.render c) := by
  cases c with
  | tag name payload => exact .look_plain (.ofExcept _) renders
  | block name => exact .fail _

/-- A block that is nothing to other nodes takes a course if what it does is one. -/
theorem Block.follows {μ κ : Type} [MarkupType μ] [MarkupType κ] {b : Block μ κ} {c : Call}
    (hn : n.call? = some c)
    (renders : ∀ body : Body μ κ, body.IsOf n → Follows settings sub n .plain s (b.render body)) :
    Follows settings sub n .plain s (b.handler.render c) := by
  cases c with
  | tag name payload => exact .fail _
  | block name payload body clauses =>
    refine .look (.ofExcept _) (fun body read => renders body ?_) fun _ _ => .inl rfl
    rw [Action.answer_ofExcept] at read
    exact Body.isOf_of_ofBlock read hn

/-! ## Binding -/

namespace Tags

theorem follows_setGlobal (name : String) (v : Value) :
    Follows settings sub n .plain s (Action.setGlobal name v) := by
  have rebinds : (s.write "").Rebinds (s.update (·.setGlobal name v)) := by
    rw [State.write_empty]
    exact ⟨_, _, _, rfl⟩
  exact .write rebinds

theorem follows_assign (a : Assignment) : Follows settings sub n .plain s (assign.render a) :=
  .look_plain (.evalVariable a.value) fun value => follows_setGlobal a.name value

theorem follows_captureNodes (name : String) {nodes : List Node} (holds : n.Holds nodes) :
    Follows settings sub n .plain s (captureNodes name nodes) := by
  let r := sub nodes s.openCapture
  let finish : Action Unit := do
    Action.ofExcept r.1
    Action.setGlobal name (.string r.2.output.endCapture.1)
  show Course sub n .plain s
    (⟨nodes, s.openCapture⟩ :: finish.descents settings sub r.2.closeCapture)
    (finish.run settings sub r.2.closeCapture).1 (finish.run settings sub r.2.closeCapture).2
  have finishes : finish.descents settings sub r.2.closeCapture = [] ∧
      (finish.run settings sub r.2.closeCapture).1 = r.1 ∧
      r.2.closeCapture.Rebinds (finish.run settings sub r.2.closeCapture).2 := by
    cases hr : r.1 with
    | error e =>
      simp only [finish, hr]
      exact ⟨rfl, rfl, .refl _⟩
    | ok =>
      simp only [finish, hr]
      exact ⟨rfl, rfl, _, _, _, rfl⟩
  rw [finishes.1, finishes.2.1]
  exact .capture holds finishes.2.2

theorem looks_counter (name : String) : (counter name).Looks :=
  .perform (fun _ _ _ => ⟨rfl, rfl⟩) (fun _ _ _ _ => rfl) fun _ => .done _

theorem follows_increment (name : String) :
    Follows settings sub n .plain s (increment.render name) :=
  .look_plain (looks_counter name) fun i =>
    have rebinds : (s.write (Value.intText i)).Rebinds _ := ⟨_, _, _, rfl⟩
    .write rebinds

theorem follows_decrement (name : String) :
    Follows settings sub n .plain s (decrement.render name) :=
  .look_plain (looks_counter name) fun i =>
    have rebinds : (s.write (Value.intText (clampInt64 (i.toInt - 1)))).Rebinds _ := ⟨_, _, _, rfl⟩
    .write rebinds

/-! ## Choices -/

theorem follows_renderFirst (sections : List (Option ConditionChain × List Node))
    (held : ∀ c ∈ sections, n.Holds c.2) :
    Follows settings sub n .plain s (renderFirst sections) := by
  induction sections with
  | nil => exact .done
  | cons c rest ih =>
    obtain ⟨condition, nodes⟩ := c
    have holds : n.Holds nodes := held _ (List.mem_cons_self ..)
    cases condition with
    | none => exact .renderNodes holds
    | some condition =>
      refine .look_plain (.evalChain condition) fun chosen => ?_
      cases chosen with
      | true => exact .renderNodes holds
      | false => exact ih fun c hc => held c (List.mem_cons_of_mem _ hc)

theorem follows_if {body : Body ConditionChain (Option ConditionChain)} (isOf : body.IsOf n) :
    Follows settings sub n .plain s («if».render body) := by
  refine follows_renderFirst _ fun c hc => ?_
  rcases List.mem_cons.1 hc with rfl | hc
  · exact isOf.nodes
  · obtain ⟨t, ht, rfl⟩ := List.mem_map.1 hc
    exact isOf.sections t ht

theorem follows_unless {body : Body ConditionChain Unit} (isOf : body.IsOf n) :
    Follows settings sub n .plain s («unless».render body) := by
  refine .look_plain (.evalChain body.markup) fun chosen => ?_
  cases chosen with
  | false => exact .renderNodes isOf.nodes
  | true =>
    cases h : body.clauses with
    | nil =>
      simp only [if_true]
      exact .done
    | cons t rest =>
      simp only [if_true]
      exact .renderNodes (isOf.sections t (by rw [h]; exact List.mem_cons_self ..))

theorem looks_anyEquals (value : Value) (es : List Expr) : (anyEquals value es).Looks := by
  induction es with
  | nil => exact .done false
  | cons e rest ih =>
    refine .bind (.evalExpr e) fun candidate => ?_
    by_cases h : candidate.equals value
    · rw [if_pos h]
      exact .done true
    · rw [if_neg h]
      exact ih

/-- Whether a section is to be rendered. -/
def selects (value : Value) (matched : Bool) : Option (List Expr) → Action Bool
  | some es => anyEquals value es
  | none => pure !matched

theorem looks_selects (value : Value) (matched : Bool) (markup : Option (List Expr)) :
    (selects value matched markup).Looks := by
  cases markup with
  | none => exact .done _
  | some es => exact looks_anyEquals value es

theorem renderSections_cons (value : Value) (matched : Bool) (c : Section (Option (List Expr)))
    (rest : List (Section (Option (List Expr)))) :
    renderSections value matched (c :: rest) = (do
      let chosen ← selects value matched c.markup
      if chosen then
        Action.renderNodes c.nodes
        let signal : Signal ← Action.ask .signal
        if signal = .normal then renderSections value true rest else pure ()
      else renderSections value matched rest) := by
  rw [renderSections]
  cases c.markup <;> rfl

theorem sections_renderSections (value : Value) (matched : Bool)
    (clauses : List (Section (Option (List Expr)))) (held : ∀ c ∈ clauses, n.Holds c.nodes) :
    Sections sub n s ((renderSections value matched clauses).descents settings sub s)
      ((renderSections value matched clauses).run settings sub s).1
      ((renderSections value matched clauses).run settings sub s).2 := by
  induction clauses generalizing matched s with
  | nil => exact .finished s
  | cons c rest ih =>
    have holds : n.Holds c.nodes := held c (List.mem_cons_self ..)
    have behind (matched : Bool) (s : State) := ih (s := s) matched fun d hd =>
      held d (List.mem_cons_of_mem _ hd)
    have looks := looks_selects value matched c.markup
    rw [renderSections_cons, looks.run_bind, looks.descents_bind]
    cases (selects value matched c.markup).answer settings s with
    | error e => exact .undecided s e
    | ok chosen =>
      cases chosen with
      | false => exact behind matched s
      | true =>
        let behindIt (t : State) : Action Unit :=
          if t.context.signal = .normal then renderSections value true rest else pure ()
        let rendering : Action Unit := do
          Action.renderNodes c.nodes
          let signal : Signal ← Action.ask .signal
          if signal = .normal then renderSections value true rest else pure ()
        show Sections sub n s (rendering.descents settings sub s)
          (rendering.run settings sub s).1 (rendering.run settings sub s).2
        rw [Action.run_bind, Action.descents_bind, Action.run_renderNodes,
          Action.descents_renderNodes]
        rcases rendered : sub c.nodes s with ⟨_ | _, t⟩
        · exact .refused holds rendered
        · show Sections sub n s (⟨c.nodes, s⟩ :: (behindIt t).descents settings sub t)
            ((behindIt t).run settings sub t).1 ((behindIt t).run settings sub t).2
          by_cases normal : t.context.signal = .normal
          · simp only [behindIt, if_pos normal]
            exact .next holds rendered normal (behind true t)
          · simp only [behindIt, if_neg normal]
            exact .left holds rendered normal

theorem follows_case {body : Body Expr (Option (List Expr))} (isOf : body.IsOf n) :
    Follows settings sub n .choice s (case.render body) :=
  .look (.evalExpr body.markup)
    (fun value _ => .choose (sections_renderSections value false body.clauses isOf.sections))
    fun _ _ => .inr rfl

/-! ## Loops -/

theorem looks_evalCount (what : String) (e : Option Expr) : (evalCount what e).Looks := by
  cases e with
  | none => exact .done none
  | some e =>
    refine .bind (.evalExpr e) fun value => ?_
    by_cases h : value.isNil
    · rw [if_pos h]
      exact .done none
    · rw [if_neg h]
      cases value.asInt? with
      | none => exact .fail _
      | some i => exact .done _

theorem looks_itemsOf (l : Loop) : (itemsOf l).Looks := by
  refine .bind (.evalExpr _) fun value => .bind (.ofExcept _) fun items => ?_
  refine .bind (looks_evalCount ..) fun offset => .bind (looks_evalCount ..) fun limit => ?_
  exact .done _

theorem looks_loopOf (name : String) (payload : Payload) (body : List Node)
    (clauses : List (Clause Node)) : (loopOf name payload body clauses).Looks :=
  .bind (.ofExcept _) fun b => .bind (looks_itemsOf b.markup) fun _ => .done _

theorem isOf_of_loopOf {name : String} {payload : Payload} {body : List Node}
    {clauses : List (Clause Node)} (hn : n.call? = some (.block name payload body clauses))
    {p : Body Loop Unit × List Value}
    (found : (loopOf name payload body clauses).answer settings s = .ok p) : p.1.IsOf n := by
  rw [loopOf, (Action.Looks.ofExcept _).answer_bind, bind_eq_ok] at found
  obtain ⟨b, read, found⟩ := found
  rw [(looks_itemsOf b.markup).answer_bind, bind_eq_ok] at found
  obtain ⟨items, -, found⟩ := found
  obtain rfl := Except.ok.inj found
  rw [Action.answer_ofExcept] at read
  exact Body.isOf_of_ofBlock read hn

/-- A loop asks for its items first. -/
theorem render_for (name : String) (payload : Payload) (body : List Node)
    (clauses : List (Clause Node)) :
    «for».handler.render (.block name payload body clauses) = (do
      let p ← loopOf name payload body clauses
      renderLoop p.1.markup.name p.1.nodes p.1.clauses p.2) := by
  simp only [loopOf, itemsOf, Action.bind_assoc]
  rfl

/-- A round binds the item and renders the nodes, and what it goes on with is told by the signal that
they leave. -/
theorem renderItems_cons (name : String) (nodes : List Node) (length index : Nat) (item : Value)
    (rest : List Value) :
    ∃ (round : Except Error Unit → Action (Except Error Unit))
        (behind : Signal → Action (Except Error Unit)),
      renderItems name nodes length index (item :: rest) =
          (.perform (.setLocal name item) fun _ =>
            .perform (.setLocal "forloop" (forloop index length)) fun _ =>
              .perform (.renderNodes nodes) round) ∧
        (∀ e, round (.error e) = .done (.error e)) ∧
        round (.ok ()) = .perform .signal behind ∧
        behind .normal = renderItems name nodes length (index + 1) rest ∧
        behind .continue = (.perform (.setSignal .normal) fun _ =>
          renderItems name nodes length (index + 1) rest) ∧
        behind .break = (.perform (.setSignal .normal) fun _ => .done (.ok ())) ∧
        behind .extended = .done (.ok ()) :=
  ⟨_, _, rfl, fun _ => rfl, rfl, rfl, rfl, rfl, rfl⟩

theorem rounds_renderItems (name : String) (nodes : List Node) (length index : Nat)
    (items : List Value) :
    ∃ r, ((renderItems name nodes length index items).run settings sub s).1 = .ok r ∧
      Rounds sub nodes s ((renderItems name nodes length index items).descents settings sub s) r
        ((renderItems name nodes length index items).run settings sub s).2 := by
  induction items generalizing index s with
  | nil => exact ⟨.ok (), rfl, .finished s⟩
  | cons item rest ih =>
    obtain ⟨round, behind, renders, onRefusal, onSignal, onNormal, onContinue, onBreak,
      onExtended⟩ := renderItems_cons name nodes length index item rest
    let t := (s.update (·.setLocal name item)).update (·.setLocal "forloop" (forloop index length))
    have rebinds : s.Rebinds t := (s.rebinds_setLocal ..).trans (State.rebinds_setLocal ..)
    rw [renders]
    show ∃ r, ((round (sub nodes t).1).run settings sub (sub nodes t).2).1 = .ok r ∧
      Rounds sub nodes s
        (⟨nodes, t⟩ :: (round (sub nodes t).1).descents settings sub (sub nodes t).2) r
        ((round (sub nodes t).1).run settings sub (sub nodes t).2).2
    rcases rendered : sub nodes t with ⟨e | _, u⟩
    · simp only [onRefusal]
      exact ⟨.error e, rfl, .refused rebinds rendered⟩
    · simp only [onSignal]
      show ∃ r, ((behind u.context.signal).run settings sub u).1 = .ok r ∧
        Rounds sub nodes s (⟨nodes, t⟩ :: (behind u.context.signal).descents settings sub u) r
          ((behind u.context.signal).run settings sub u).2
      cases signal : u.context.signal with
      | normal =>
        obtain ⟨r, answers, rounds⟩ := ih (s := u) (index + 1)
        rw [onNormal]
        refine ⟨r, answers, .next rebinds rendered (.inl signal) ?_⟩
        rw [State.resume_of_normal signal]
        exact rounds
      | «continue» =>
        obtain ⟨r, answers, rounds⟩ := ih (s := u.resume) (index + 1)
        rw [onContinue]
        exact ⟨r, answers, .next rebinds rendered (.inr signal) rounds⟩
      | «break» =>
        rw [onBreak]
        exact ⟨.ok (), rfl, .left rebinds rendered signal⟩
      | extended =>
        rw [onExtended]
        exact ⟨.ok (), rfl, .extended rebinds rendered signal⟩

theorem follows_renderLoop_nil (name : String) (nodes : List Node) {sections : List (Section Unit)}
    (held : ∀ c ∈ sections, n.Holds c.nodes) :
    Follows settings sub n .plain s (renderLoop name nodes sections []) := by
  cases sections with
  | nil => exact .done
  | cons c rest => exact .renderNodes (held c (List.mem_cons_self ..))

theorem follows_renderLoop_cons (name : String) {nodes : List Node} (holds : n.Holds nodes)
    (sections : List (Section Unit)) (item : Value) (rest : List Value) :
    Follows settings sub n .loop s (renderLoop name nodes sections (item :: rest)) := by
  let items := renderItems name nodes (item :: rest).length 0 (item :: rest)
  let inside := s.update Context.pushScope
  let finish (outcome : Except Error Unit) : Action Unit := do
    Action.ask .popScope
    Action.ofExcept outcome
  obtain ⟨r, answers, rounds⟩ :=
    @rounds_renderItems settings sub inside name nodes (item :: rest).length 0 (item :: rest)
  have itemsRun : items.run settings sub inside = (.ok r, (items.run settings sub inside).2) := by
    rw [← answers]
  have run : (renderLoop name nodes sections (item :: rest)).run settings sub s =
      (r, (items.run settings sub inside).2.update Context.popScope) := by
    show (items >>= finish).run settings sub inside = _
    rw [Action.run_bind, itemsRun]
    exact Action.run_ofExcept settings sub r _
  have descents : (renderLoop name nodes sections (item :: rest)).descents settings sub s =
      items.descents settings sub inside := by
    show (items >>= finish).descents settings sub inside = _
    rw [Action.descents_bind, itemsRun]
    show _ ++ (Action.ofExcept r).descents settings sub _ = _
    rw [Action.descents_ofExcept, List.append_nil]
  unfold Follows
  rw [run, descents]
  exact .loop holds ⟨_, _, _, rfl⟩ rounds ⟨_, _, _, rfl⟩

theorem follows_break (m : Unit) : Follows settings sub n .plain s («break».render m) :=
  .raise s (.inl rfl)

theorem follows_continue (m : Unit) : Follows settings sub n .plain s («continue».render m) :=
  .raise s (.inr rfl)

/-! ## Inheritance -/

theorem looks_parentOf (payload : Payload) : (parentOf payload).Looks :=
  .bind (.ofExcept _) fun e => .bind (.evalExpr e) fun value =>
    .bind (.ofExcept (templateName value)) fun name => .findTemplate name

/-- An extension asks for its parent first. -/
theorem render_extends (name : String) (payload : Payload) :
    extendsTag.handler.render (.tag name payload) = (parentOf payload >>= renderParent) := by
  simp only [parentOf, Action.bind_assoc]
  rfl

theorem run_addOverrides (blocks : List (String × List Node)) :
    (addOverrides blocks).run settings sub s =
        (.ok (), s.update fun c =>
          { c with overrides := blocks.foldl (fun t b => t.setNew b.1 b.2) c.overrides }) ∧
      (addOverrides blocks).descents settings sub s = [] := by
  induction blocks generalizing s with
  | nil => exact ⟨rfl, rfl⟩
  | cons b rest ih => exact ih

/-- An extension renders the nodes of the parent from within the parent, and comes back to where it
was. -/
theorem run_renderParent (parent : Template) :
    (renderParent parent).run settings sub s =
        ((sub parent.nodes (s.enterParent parent)).1,
          (sub parent.nodes (s.enterParent parent)).2.leaveParent s.context.template) ∧
      (renderParent parent).descents settings sub s = [⟨parent.nodes, s.enterParent parent⟩] := by
  let overriding := addOverrides (namedBlocks s.context.template.nodes)
  let rendering : Action Unit := do
    let child : Template ← Action.ask (.enterTemplate parent)
    let outcome : Except Error Unit ← Action.ask (.renderNodes parent.nodes)
    let _ : Template ← Action.ask (.enterTemplate child)
    Action.setSignal .extended
    Action.ofExcept outcome
  let inside := s.enterParent parent
  constructor
  · show (overriding >>= fun _ => rendering).run settings sub s = _
    rw [Action.run_bind, (run_addOverrides _).1]
    exact Action.run_ofExcept settings sub _ _
  · show (overriding >>= fun _ => rendering).descents settings sub s = _
    rw [Action.descents_bind, (run_addOverrides _).1, (run_addOverrides _).2]
    show [⟨parent.nodes, inside⟩] ++ (Action.ofExcept (sub parent.nodes inside).1).descents
      settings sub ((sub parent.nodes inside).2.leaveParent s.context.template) = _
    rw [Action.descents_ofExcept, List.append_nil]

theorem follows_renderParent (parent : Template) :
    Follows settings sub n (.parent parent) s (renderParent parent) := by
  unfold Follows
  rw [(run_renderParent parent).1, (run_renderParent parent).2]
  exact .extend s parent

theorem looks_overrideOf (name : String) (payload : Payload) (body : List Node)
    (clauses : List (Clause Node)) : (overrideOf name payload body clauses).Looks :=
  .bind (.ofExcept _) fun _ => .perform (fun _ _ _ => ⟨rfl, rfl⟩) (fun _ _ _ _ => rfl) fun _ =>
    .done _

theorem isOf_of_overrideOf {name : String} {payload : Payload} {body : List Node}
    {clauses : List (Clause Node)} (hn : n.call? = some (.block name payload body clauses))
    {p : Body String Unit × Option (List Node)}
    (found : (overrideOf name payload body clauses).answer settings s = .ok p) :
    p.1.IsOf n ∧ p.2 = Table.find? s.context.overrides p.1.markup := by
  rw [overrideOf, (Action.Looks.ofExcept _).answer_bind, bind_eq_ok] at found
  obtain ⟨b, read, found⟩ := found
  obtain rfl := Except.ok.inj found
  rw [Action.answer_ofExcept] at read
  exact ⟨Body.isOf_of_ofBlock read hn, rfl⟩

/-- A named block asks for its overrides first. -/
theorem render_namedBlock (name : String) (payload : Payload) (body : List Node)
    (clauses : List (Clause Node)) :
    namedBlock.handler.render (.block name payload body clauses) = (do
      let p ← overrideOf name payload body clauses
      Action.renderNodes (p.2.getD p.1.nodes)) := by
  simp only [overrideOf, Action.bind_assoc]
  rfl

end Tags

/-! ## All of them -/

theorem Handler.role_eq_plain {h : Handler}
    (isPlain : h.identity.type ∉ ["extends", "for", "block", "case"]) (c : Call) :
    h.role settings s c = .plain := by
  simp only [List.mem_cons, List.not_mem_nil, or_false, not_or] at isPlain
  obtain ⟨notExtends, notFor, notBlock, notCase⟩ := isPlain
  cases c with
  | tag => exact if_neg notExtends
  | block =>
    simp only [role]
    rw [if_neg notFor, if_neg notBlock, if_neg notCase]

theorem Tags.follows_extends (c : Call) :
    Follows settings sub n (extendsTag.handler.role settings s c) s
      (extendsTag.handler.render c) := by
  cases c with
  | block => exact .fail _
  | tag name payload =>
    rw [render_extends]
    show Follows settings sub n (.ofParent ((parentOf payload).answer settings s)) s _
    refine .look (looks_parentOf payload) (fun parent found => ?_) fun e lost => ?_
    · rw [found]
      exact follows_renderParent parent
    · rw [lost]
      exact .inl rfl

theorem Tags.follows_for {c : Call} (hn : n.call? = some c) :
    Follows settings sub n («for».handler.role settings s c) s («for».handler.render c) := by
  cases c with
  | tag => exact .fail _
  | block name payload body clauses =>
    rw [render_for]
    show Follows settings sub n
      (.ofLoop ((loopOf name payload body clauses).answer settings s)) s _
    refine .look (looks_loopOf ..) (fun p found => ?_) fun e lost => ?_
    · have isOf : p.1.IsOf n := isOf_of_loopOf hn found
      rw [found]
      obtain ⟨b, items⟩ := p
      cases items with
      | nil => exact follows_renderLoop_nil _ _ isOf.sections
      | cons item rest => exact follows_renderLoop_cons _ isOf.nodes _ item rest
    · rw [lost]
      exact .inl rfl

theorem Tags.follows_namedBlock {c : Call} (hn : n.call? = some c) :
    Follows settings sub n (namedBlock.handler.role settings s c) s
      (namedBlock.handler.render c) := by
  cases c with
  | tag => exact .fail _
  | block name payload body clauses =>
    rw [render_namedBlock]
    show Follows settings sub n
      (.ofOverride ((overrideOf name payload body clauses).answer settings s)) s _
    refine .look (looks_overrideOf ..) (fun p found => ?_) fun e lost => ?_
    · obtain ⟨isOf, bound⟩ := isOf_of_overrideOf hn found
      rw [found]
      obtain ⟨b, override⟩ := p
      cases override with
      | none => exact .renderNodes isOf.nodes
      | some nodes =>
        unfold Follows
        rw [Action.run_renderNodes, Action.descents_renderNodes]
        exact .override bound.symm
    · rw [lost]
      exact .inl rfl

theorem Tags.follows_choice {c : Call} (hn : n.call? = some c) :
    Follows settings sub n (case.handler.role settings s c) s (case.handler.render c) := by
  cases c with
  | tag => exact .fail _
  | block name payload body clauses =>
    refine .look (.ofExcept _) (fun body read => follows_case ?_) fun _ _ => .inr rfl
    rw [Action.answer_ofExcept] at read
    exact Body.isOf_of_ofBlock read hn

/-- Every built-in handler takes a course of the node in the role that it has. -/
theorem Handler.IsBuiltin.follows {h : Handler} (isBuiltin : h.IsBuiltin) {c : Call}
    (hn : n.call? = some c) :
    Follows settings sub n (h.role settings s c) s (h.render c) := by
  have ofPlain (isPlain : h.identity.type ∉ ["extends", "for", "block", "case"])
      (follows : Follows settings sub n .plain s (h.render c)) :
      Follows settings sub n (h.role settings s c) s (h.render c) := by
    rw [Handler.role_eq_plain isPlain]
    exact follows
  obtain ⟨name, bound⟩ := isBuiltin
  have listed := Table.mem_ofList (Table.mem_of_find? bound)
  simp only [List.mem_cons, List.not_mem_nil, or_false, Prod.mk.injEq] at listed
  rcases listed with ⟨-, rfl⟩ | ⟨-, rfl⟩ | ⟨-, rfl⟩ | ⟨-, rfl⟩ | ⟨-, rfl⟩ | ⟨-, rfl⟩ | ⟨-, rfl⟩ |
    ⟨-, rfl⟩ | ⟨-, rfl⟩ | ⟨-, rfl⟩ | ⟨-, rfl⟩ | ⟨-, rfl⟩ | ⟨-, rfl⟩
  · exact ofPlain (by decide) (Tag.follows Tags.follows_assign c)
  · exact ofPlain (by decide) (Block.follows hn fun b isOf =>
      Tags.follows_captureNodes b.markup isOf.nodes)
  · exact ofPlain (by decide) (Tag.follows Tags.follows_increment c)
  · exact ofPlain (by decide) (Tag.follows Tags.follows_decrement c)
  · exact ofPlain (by decide) (Block.follows hn fun _ => Tags.follows_if)
  · exact ofPlain (by decide) (Block.follows hn fun _ => Tags.follows_unless)
  · exact Tags.follows_choice hn
  · exact ofPlain (by decide) (Block.follows hn fun _ _ => .done)
  · exact Tags.follows_for hn
  · exact ofPlain (by decide) (Tag.follows Tags.follows_break c)
  · exact ofPlain (by decide) (Tag.follows Tags.follows_continue c)
  · exact Tags.follows_extends c
  · exact Tags.follows_namedBlock hn

end Follows

namespace State

/-- What a node with a built-in handler or none does when it is rendered. -/
theorem course (settings : Settings) (sub : Renderer) (s : State) {n : Node}
    (isBuiltin : ∀ h, n.handler? settings.environment.registry = some h → h.IsBuiltin) :
    Course sub n (s.role settings n) s (s.descents settings sub n) (s.attempt settings sub n).1
      (s.attempt settings sub n).2 := by
  cases n with
  | text t => exact .write (.refl _)
  | «variable» v span =>
    simp only [attempt, descents]
    cases s.variableValue settings v with
    | ok value => exact .write (.refl _)
    | error e => exact .refuse (.inl rfl) s e
  | tag name markup payload span =>
    simp only [attempt, descents, role, Node.handler?, Node.call?]
    cases bound : settings.environment.registry.find? name with
    | none => exact @Follows.done settings sub _ s
    | some h => exact (isBuiltin h bound).follows rfl
  | block name markup payload span body clauses =>
    simp only [attempt, descents, role, Node.handler?, Node.call?]
    cases bound : settings.environment.registry.find? name with
    | none => exact .descend s (.inl rfl)
    | some h => exact (isBuiltin h bound).follows rfl

end State

end Stencil
