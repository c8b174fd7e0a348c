import Stencil.Extension.Handlers
import Stencil.Proofs.Document.Reading
import Stencil.Proofs.Handler.Registration

/-!
# Registered handlers can be invoked

The lexical check of a registration and the scanner agree: a name that can be registered is scanned
as a tag of that name, whatever the name is.  With that, `Environment.keepsHandlers` states what holds
of an environment after any calls that register handlers in it.
-/

namespace Stencil

theorem Text.cut?_append {c : Char} {before : List Char} (absent : c ∉ before)
    (needle rest : List Char) :
    cut? (c :: needle) (before ++ (c :: needle ++ rest)) = some (before, rest) := by
  induction before with
  | nil => rw [List.nil_append, List.cons_append, cut?, ← List.cons_append, dropStart?_append]
  | cons d before ih =>
    rw [List.mem_cons, not_or] at absent
    rw [List.cons_append, cut?, dropStart?, if_neg absent.1]
    dsimp only
    rw [ih absent.2]
    rfl

namespace Lexeme

theorem SpellsName.percent_notMem {w : List Char} (spelled : SpellsName w) : '%' ∉ w := by
  obtain ⟨c, body, mark, rfl, start, inside, marked⟩ := spelled
  rw [List.mem_cons, List.mem_append, not_or, not_or]
  refine ⟨?_, fun mem => absurd (inside _ mem) (by decide), ?_⟩
  · rintro rfl
    exact absurd start (by decide)
  · rcases marked with rfl | rfl <;> decide

/-- The end marker of a block that has a name has one, too. -/
theorem SpellsName.endName {w : List Char} (spelled : SpellsName w) :
    SpellsName ("end".toList ++ w) := by
  obtain ⟨c, body, mark, rfl, start, inside, marked⟩ := spelled
  refine ⟨'e', 'n' :: 'd' :: c :: body, mark, rfl, by decide, ?_, marked⟩
  have goes : isNameRest c = true := by
    have alphanumeric : c.isAlphanum = (c.isAlpha || c.isDigit) := rfl
    simp only [isNameStart, Bool.or_eq_true] at start
    simp only [isNameRest, alphanumeric, Bool.or_eq_true]
    exact start.elim (Or.inl ∘ Or.inl ∘ Or.inl) (Or.inl ∘ Or.inr)
  simp only [List.mem_cons, forall_eq_or_imp]
  exact ⟨by decide, by decide, goes, inside⟩

end Lexeme

/-! ## A tag without markup -/

/-- The tag of a name as it stands in a document, without markup. -/
def tagText (name : String) : String := "\x7b% " ++ name ++ " %\x7d"

namespace Token

theorem scanFrom_tagOpen {s inner rest markup : List Char} {name : String} (p : Position)
    (closed : Text.cut? tagClose s = some (inner, rest))
    (named : Lexeme.name? inner = some (name, markup)) :
    scanFrom p (tagOpen ++ s) =
      (scanFrom (p.advance (tagOpen ++ inner ++ tagClose)) rest).cons
        (.tag name (String.ofList (Lexeme.trimBlanks markup)))
        ⟨p, p.advance (tagOpen ++ inner ++ tagClose)⟩ := by
  show scanFrom p ('\x7b' :: '%' :: s) = _
  rw [scanFrom]
  split
  · next none =>
    rw [closed] at none
    cases none
  · next inner' rest' some =>
    rw [closed] at some
    cases some
    rw [named]

/-- The tag of a name is scanned as the tag of that name. -/
theorem scanFrom_tagText {name : String} (spelled : Lexeme.SpellsName name.toList) (p : Position)
    (rest : List Char) :
    scanFrom p ((tagText name).toList ++ rest) =
      (scanFrom (p.advance (tagText name).toList) rest).cons (.tag name "")
        ⟨p, p.advance (tagText name).toList⟩ := by
  have inner : '%' ∉ ' ' :: (name.toList ++ [' ']) := by
    simp [spelled.percent_notMem]
  have closed := Text.cut?_append inner ['\x7d'] rest
  have named : Lexeme.name? (' ' :: (name.toList ++ [' '])) = some (name, [' ']) := by
    have behind : Lexeme.skipBlanks (' ' :: (name.toList ++ [' '])) = name.toList ++ [' '] :=
      Lexeme.skipBlanks_of_head? (spelled.head? [' '])
    have stops : ∀ c ∈ [' '].head?, Lexeme.goesOn c = false := by
      rintro c ⟨⟩
      rfl
    rw [Lexeme.name?_of_spelled spelled behind (Or.inr stops), String.ofList_toList]
  have text : (tagText name).toList = tagOpen ++ ' ' :: (name.toList ++ [' ']) ++ tagClose := by
    simp [tagText, tagOpen, tagClose]
  have nothing : String.ofList (Lexeme.trimBlanks [' ']) = "" := rfl
  have scanned := scanFrom_tagOpen p closed named
  rw [nothing] at scanned
  rw [text]
  simpa only [tagClose, List.append_assoc] using scanned

theorem scan_eq_scanFrom {source : String} (some : source ≠ "") :
    scan source = scanFrom .start source.toList := by
  rw [scan, if_neg (by simpa using some)]

/-- A document that is the tag of a name. -/
theorem scan_tagText {name : String} (spelled : Lexeme.SpellsName name.toList) :
    scan (tagText name) =
      ⟨[(.tag name "", ⟨.start, Position.start.advance (tagText name).toList⟩)], none⟩ := by
  have some : tagText name ≠ "" := by
    intro none
    simpa [tagText] using congrArg String.toList none
  have scanned := scanFrom_tagText spelled .start []
  rw [List.append_nil] at scanned
  rw [scan_eq_scanFrom some, scanned, scanFrom]
  rfl

/-- A document that is the tag of a name and then the end marker of that name. -/
theorem scan_tagText_end {name : String} (spelled : Lexeme.SpellsName name.toList) :
    ∃ last, scan (tagText name ++ tagText ("end" ++ name)) =
      ⟨[(.tag name "", ⟨.start, Position.start.advance (tagText name).toList⟩),
        (.tag ("end" ++ name) "", last)], none⟩ := by
  have some : tagText name ++ tagText ("end" ++ name) ≠ "" := by
    intro none
    simpa [tagText] using congrArg String.toList none
  have ends : Lexeme.SpellsName ("end" ++ name).toList := by
    rw [String.toList_append]
    exact spelled.endName
  let middle := Position.start.advance (tagText name).toList
  have second := scanFrom_tagText ends middle []
  rw [List.append_nil] at second
  refine ⟨⟨middle, middle.advance (tagText ("end" ++ name)).toList⟩, ?_⟩
  rw [scan_eq_scanFrom some, String.toList_append, scanFrom_tagText spelled, second, scanFrom]
  rfl

end Token

/-! ## The node of a handler -/

section Node

variable {registry : Registry} {maxDepth : Nat} {name : String} {h : Handler} {payload : Payload}

theorem readNodes_of_readTokens {source template : String} {nodes : List Node}
    (clean : (Token.scan source).failure = none)
    (read : Draft.empty.readTokens registry maxDepth template (Token.scan source).tokens =
      .ok ⟨[], nodes.reverse⟩) :
    Template.readNodes registry maxDepth template source = .ok nodes := by
  refine bind_eq_ok.mpr ⟨_, read, ?_⟩
  rw [Scan.error?, clean]
  exact congrArg Except.ok nodes.reverse_reverse

/-- A tag whose handler accepts empty markup is a document. -/
theorem readNodes_tagText (spelled : Lexeme.SpellsName name.toList)
    (accepts : Accepts registry .tag name "" payload h) (template : String) :
    Template.readNodes registry maxDepth template (tagText name) =
      .ok [.tag name "" payload ⟨.start, Position.start.advance (tagText name).toList⟩] := by
  have scanned := Token.scan_tagText spelled
  refine readNodes_of_readTokens (by rw [scanned]) ?_
  rw [scanned, Draft.readTokens_cons]
  · rfl
  · exact Draft.openTag_tag accepts _

/-- A block whose handler accepts empty markup is a document with its end marker, if blocks may be
opened at all. -/
theorem readNodes_tagText_end (spelled : Lexeme.SpellsName name.toList)
    (accepts : Accepts registry .block name "" payload h) (room : 0 < maxDepth)
    (template : String) :
    Template.readNodes registry maxDepth template (tagText name ++ tagText ("end" ++ name)) =
      .ok [.block name "" payload ⟨.start, Position.start.advance (tagText name).toList⟩ [] []] := by
  obtain ⟨last, scanned⟩ := Token.scan_tagText_end spelled
  refine readNodes_of_readTokens (by rw [scanned]) ?_
  have opened (span : Span) : Draft.empty.readToken registry maxDepth (.tag name "") span =
      .ok ⟨[⟨name, "", payload, span, h, [], [], .body, []⟩], []⟩ :=
    Draft.openTag_block accepts room span
  rw [scanned, Draft.readTokens_cons (opened _), Draft.readTokens_cons (Draft.readToken_end ..)]
  rfl

end Node

/-! ## A supply with two greetings -/

namespace Supply

/-- Handlers beside the built-in ones, and whether the type of each has no state: one handler twice
and two greetings. -/
def guests : List (Handler × Bool) :=
  [(Extension.noop.handler, true), (Extension.noop.handler, true),
    ((Extension.greet "hi").handler, false), ((Extension.greet "bye").handler, false)]

def contents : List (Handler × Bool) := guests ++ Registry.builtin.map fun e => (e.2, true)

theorem state_of_type {a b : Handler × Bool} (ha : a ∈ contents) (hb : b ∈ contents)
    (type : a.1.identity.type = b.1.identity.type) : a.2 = b.2 := by
  have each : contents.all (fun a => contents.all fun b =>
      a.1.identity.type != b.1.identity.type || a.2 == b.2) = true := by
    decide +kernel
  have both := List.all_eq_true.mp (List.all_eq_true.mp each a ha) b hb
  simpa [type] using both

/-- The guests and the built-in handlers, each in a box with its place in the list. -/
def greetings : Supply where
  Holds b := contents[b.number]? = some (b.content, b.stateless)
  clones := by
    rintro ⟨number, content, stateless, unboxed⟩ ⟨_, _, _, _⟩ ha hb rfl
    cases ha.symm.trans hb
    rfl
  states a b ha hb type :=
    state_of_type (List.mem_of_getElem? ha) (List.mem_of_getElem? hb) type
  builtin name h bound := by
    have each : Registry.builtin.all (fun e => e.2.identity.box == none) = true := by
      decide +kernel
    have listed := Table.mem_of_find? bound
    have unboxed := beq_iff_eq.mp (List.all_eq_true.mp each _ listed)
    have some : (h, true) ∈ contents :=
      List.mem_append_right guests (List.mem_map.mpr ⟨(name, h), listed, rfl⟩)
    obtain ⟨number, place⟩ := List.getElem?_of_mem some
    exact ⟨⟨number, h, true, unboxed⟩, place, rfl⟩

/-- Some calls, of which the last three fail. -/
def visits : List (Registration greetings) :=
  let noop : HandlerBox := ⟨0, Extension.noop.handler, true, rfl⟩
  let other : HandlerBox := ⟨1, Extension.noop.handler, true, rfl⟩
  let hi : HandlerBox := ⟨2, (Extension.greet "hi").handler, false, rfl⟩
  let bye : HandlerBox := ⟨3, (Extension.greet "bye").handler, false, rfl⟩
  [⟨"noop", noop, rfl⟩, ⟨"noop", other, rfl⟩, ⟨"greet", hi, rfl⟩, ⟨"greet", hi, rfl⟩,
    ⟨"greet", bye, rfl⟩, ⟨"a b", noop, rfl⟩, ⟨"if", noop, rfl⟩]

end Supply

/-! ## Any calls -/

namespace Environment

variable {s : Supply}

/-- Every binding holds a handler out of one of the boxes. -/
theorem holds_after {env : Environment}
    (start : env.registry.Satisfies fun _ h => ∃ b, s.Holds b ∧ b.handler = h)
    (calls : List (Registration s)) :
    (env.after calls).registry.Satisfies fun _ h => ∃ b, s.Holds b ∧ b.handler = h :=
  satisfies_after start (fun c _ => ⟨c.box, c.held, rfl⟩) calls

/-- A call succeeds exactly if its name is spelled like one and is free or has the same handler. -/
theorem register_ok_iff {env : Environment}
    (boxed : env.registry.Satisfies fun _ h => ∃ b, s.Holds b ∧ b.handler = h)
    (c : Registration s) :
    (∃ env', env.register c.name c.box.handler = .ok env') ↔
      Lexeme.SpellsName c.name.toList ∧ (env.registry.find? c.name = none ∨
        ∃ b, s.Holds b ∧ env.registry.find? c.name = some b.handler ∧ b.SameAs c.box) := by
  have reduced : (∃ env', env.register c.name c.box.handler = .ok env') ↔
      ∃ r, env.registry.register c.name c.box.handler = .ok r := by
    simp only [register_eq_ok_iff]
    constructor
    · rintro ⟨_, r, done, -⟩
      exact ⟨r, done⟩
    · rintro ⟨r, done⟩
      exact ⟨_, r, done, rfl⟩
  rw [reduced]
  constructor
  · rintro ⟨r, done⟩
    obtain ⟨spelled, ⟨free, -⟩ | ⟨old, bound, same, -⟩⟩ := Registry.register_eq_ok_iff.mp done
    · exact ⟨spelled, Or.inl free⟩
    · obtain ⟨b, held, rfl⟩ := boxed c.name old bound
      exact ⟨spelled, Or.inr ⟨b, held, bound, (HandlerBox.same_iff held c.held).mp same⟩⟩
  · rintro ⟨spelled, free | ⟨b, held, bound, same⟩⟩
    · exact ⟨_, Registry.register_eq_ok_iff.mpr ⟨spelled, Or.inl ⟨free, rfl⟩⟩⟩
    · have same := (HandlerBox.same_iff held c.held).mpr same
      exact ⟨_, Registry.register_eq_ok_iff.mpr ⟨spelled, Or.inr ⟨_, bound, same, rfl⟩⟩⟩

/-- The calls that fail may be left out. -/
theorem after_accepted (env : Environment) (calls : List (Registration s)) :
    env.after (env.accepted calls) = env.after calls := by
  induction calls generalizing env with
  | nil => rfl
  | cons c calls ih =>
    show _ = (env.attempt c).after calls
    cases called : env.register c.name c.box.handler with
    | error e => rw [attempt_of_error called, accepted_of_error called, ih]
    | ok env' =>
      rw [attempt_of_ok called, accepted_of_ok called]
      show (env.attempt c).after _ = _
      rw [attempt_of_ok called, ih]

/-- What holds of an environment after calls that register handlers in it. -/
structure KeepsHandlers (start : Environment) (calls : List (Registration s)) : Prop where
  /-- When one more call succeeds. -/
  succeeds : ∀ c : Registration s,
    (∃ env, (start.after calls).register c.name c.box.handler = .ok env) ↔
      Lexeme.SpellsName c.name.toList ∧ ((start.after calls).registry.find? c.name = none ∨
        ∃ b, s.Holds b ∧ (start.after calls).registry.find? c.name = some b.handler ∧
          b.SameAs c.box)
  /-- A call that fails changes nothing. -/
  fails : ∀ (c : Registration s) (e : Error),
    (start.after calls).register c.name c.box.handler = .error e →
      start.after (calls ++ [c]) = start.after calls
  settled : start.after (start.accepted calls) = start.after calls
  /-- The handler of a name is the first one, or that of the first call that succeeded for it. -/
  holder : ∀ name, (start.after calls).registry.find? name = (start.registry.find? name).or
    (((start.accepted calls).find? (·.name == name)).map (·.box.handler))
  /-- It stays, whatever is called afterwards. -/
  stays : ∀ more : List (Registration s),
    (start.after calls).registry.Extends (start.after (calls ++ more)).registry
  equivalence : Equivalence fun a b : { b : HandlerBox // s.Holds b } => a.1.SameAs b.1
  /-- Which one of the same handlers a call has makes no difference for any call. -/
  indifferent : ∀ others : List (Registration s), List.Forall₂ Registration.Alike calls others →
    start.answers calls = start.answers others
  /-- The scanner reads every registered name where it stands without markup. -/
  scanned : ∀ name h, (start.after calls).registry.find? name = some h →
    Token.scan (tagText name) =
      ⟨[(.tag name "", ⟨.start, Position.start.advance (tagText name).toList⟩)], none⟩
  /-- A tag that accepts empty markup can be invoked by it. -/
  invokesTag : ∀ name h payload template, (start.after calls).registry.find? name = some h →
    h.kind = .tag → h.parse "" = .ok payload →
      (start.after calls).parseNamed template (tagText name) = .ok (.ofNodes template
        [.tag name "" payload ⟨.start, Position.start.advance (tagText name).toList⟩])
  /-- So can a block, if blocks may be opened at all. -/
  invokesBlock : ∀ name h payload template, (start.after calls).registry.find? name = some h →
    h.kind = .block → h.parse "" = .ok payload → 0 < (start.after calls).maxDepth →
      (start.after calls).parseNamed template (tagText name ++ tagText ("end" ++ name)) =
        .ok (.ofNodes template
          [.block name "" payload ⟨.start, Position.start.advance (tagText name).toList⟩ [] []])

/-- Whatever is registered in an environment that has no handlers or the built-in ones, each name
has the handler that it got first, and every name can be invoked. -/
theorem keepsHandlers {start : Environment}
    (fresh : start.registry = [] ∨ start.registry = Registry.builtin)
    (calls : List (Registration s)) : start.KeepsHandlers calls := by
  have boxed : start.registry.Satisfies fun _ h => ∃ b, s.Holds b ∧ b.handler = h := by
    rcases fresh with empty | builtin
    · rw [empty]
      rintro name h ⟨⟩
    · rw [builtin]
      exact s.builtin
  have spelled : start.registry.Satisfies fun name _ => Lexeme.SpellsName name.toList := by
    rcases fresh with empty | builtin
    · rw [empty]
      rintro name h ⟨⟩
    · rw [builtin]
      exact Registry.spellsName_of_builtin
  have named := satisfies_after spelled (fun _ spelled => spelled) calls
  exact
    { succeeds := register_ok_iff (holds_after boxed calls)
      fails := fun c e failed => by rw [after_append]; exact attempt_of_error failed
      settled := start.after_accepted calls
      holder := start.find?_after calls
      stays := fun more => by rw [after_append]; exact extends_after _ more
      equivalence := HandlerBox.equivalence_sameAs s
      indifferent := fun others => answers_eq_of_alike fun _ => rfl
      scanned := fun name h bound => Token.scan_tagText (named name h bound)
      invokesTag := fun name h payload template bound kind parsed => by
        rw [parseNamed, Template.parse,
          readNodes_tagText (named name h bound) ⟨bound, kind, parsed⟩]
        rfl
      invokesBlock := fun name h payload template bound kind parsed room => by
        rw [parseNamed, Template.parse,
          readNodes_tagText_end (named name h bound) ⟨bound, kind, parsed⟩ room]
        rfl }

theorem keepsHandlers_visits :
    (standard.registry = [] ∨ standard.registry = Registry.builtin) ∧
      standard.KeepsHandlers Supply.visits :=
  ⟨Or.inr rfl, keepsHandlers (Or.inr rfl) Supply.visits⟩

example : (standard.answers Supply.visits).map (·.toOption.isSome) =
    [true, true, true, true, false, false, false] := by
  decide +kernel

end Environment

end Stencil
