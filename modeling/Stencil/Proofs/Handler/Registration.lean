import Stencil.Proofs.Markup.Lexeme
import Stencil.Tags.Builtin

/-!
# Registering handlers

What a sequence of registrations does to an environment.  One call is described by
`register_eq_ok_iff`; the rest follows from it by induction on the calls: a name keeps the handler
that it was given first, every bound name is spelled like one, and the answers only depend on which
handlers are the same.

Callers hold handlers in boxes.  That two boxes hold the same handler is said as callers see it, by
clones and by types without a state, and `HandlerBox.same_iff` compares this with the identities
that a registry compares.
-/

namespace Stencil

namespace Lexeme

theorem isName_iff (w : String) : isName w = true ↔ SpellsName w.toList := by
  refine ⟨spellsName_of_isName, fun spelled => ?_⟩
  have here : skipBlanks w.toList = w.toList ++ [] := by
    have first := spelled.head? []
    rw [List.append_nil] at first ⊢
    exact skipBlanks_of_head? first
  have stops : ∀ c ∈ ([] : List Char).head?, goesOn c = false := by rintro c ⟨⟩
  rw [isName, name?_of_spelled spelled here (Or.inr stops), String.ofList_toList, beq_self_eq_true]

end Lexeme

/-! ## Boxes -/

/-- A handler in the box that it was put into.  Clones of a box have its number. -/
structure HandlerBox where
  number : Nat
  /-- The handler as its type makes it. -/
  content : Handler
  /-- Whether the type has no state of its own. -/
  stateless : Bool
  unboxed : content.identity.box = none

namespace HandlerBox

/-- What a registry is given of the box: the box only counts if there is a state in it. -/
def handler (b : HandlerBox) : Handler :=
  if b.stateless then b.content else b.content.boxed b.number

/-- Two boxes hold the same handler: one is a clone of the other, or both hold a handler of one kind
and of one type that has no state. -/
def SameAs (a b : HandlerBox) : Prop :=
  a.number = b.number ∨ a.content.kind = b.content.kind ∧
    a.content.identity.type = b.content.identity.type ∧ a.stateless = true

end HandlerBox

/-- The boxes that there are while an engine is set up.  Those of the built-in handlers are among
them. -/
structure Supply where
  Holds : HandlerBox → Prop
  /-- A number stands for one box. -/
  clones : ∀ a b, Holds a → Holds b → a.number = b.number → a = b
  /-- Whether there is a state is a matter of the type. -/
  states : ∀ a b, Holds a → Holds b →
    a.content.identity.type = b.content.identity.type → a.stateless = b.stateless
  builtin : ∀ name h, Registry.builtin.find? name = some h → ∃ b, Holds b ∧ b.handler = h

namespace HandlerBox

theorem identity_handler (b : HandlerBox) :
    b.handler.identity = ⟨b.content.kind, b.content.identity.type,
      if b.stateless then none else some b.number⟩ := by
  unfold handler Handler.kind
  by_cases state : b.stateless = true
  · rw [if_pos state, if_pos state, ← b.unboxed]
  · rw [if_neg state, if_neg state]
    rfl

/-- A registry takes two handlers for the same exactly if their boxes hold the same handler. -/
theorem same_iff {s : Supply} {a b : HandlerBox} (ha : s.Holds a) (hb : s.Holds b) :
    a.handler.same b.handler = true ↔ a.SameAs b := by
  rw [Handler.same, decide_eq_true_iff, identity_handler, identity_handler]
  constructor
  · intro same
    obtain ⟨kind, type, box⟩ := Identity.mk.inj same
    by_cases state : a.stateless = true
    · exact Or.inr ⟨kind, type, state⟩
    · have also := s.states a b ha hb type
      rw [if_neg state, if_neg (also ▸ state)] at box
      exact Or.inl (Option.some.inj box)
  · rintro (number | ⟨kind, type, state⟩)
    · rw [s.clones a b ha hb number]
    · have also := s.states a b ha hb type
      rw [kind, type, if_pos state, if_pos (also ▸ state)]

/-- Being the same handler is an equivalence. -/
theorem equivalence_sameAs (s : Supply) :
    Equivalence fun a b : { b : HandlerBox // s.Holds b } => a.1.SameAs b.1 where
  refl _ := Or.inl rfl
  symm {a b} same := by
    rw [← same_iff a.2 b.2, Handler.same, decide_eq_true_iff] at same
    rw [← same_iff b.2 a.2, Handler.same, decide_eq_true_iff, same]
  trans {a b c} first second := by
    rw [← same_iff a.2 b.2, Handler.same, decide_eq_true_iff] at first
    rw [← same_iff b.2 c.2, Handler.same, decide_eq_true_iff] at second
    rw [← same_iff a.2 c.2, Handler.same, decide_eq_true_iff, first, second]

end HandlerBox

/-! ## One call -/

namespace Registry

/-- A registration succeeds if the name is valid and free, and then binds it, or if the name is
bound to the same handler, and then changes nothing. -/
theorem register_eq_ok_iff {r r' : Registry} {name : String} {h : Handler} :
    r.register name h = .ok r' ↔ Lexeme.SpellsName name.toList ∧
      (r.find? name = none ∧ r' = r.set name h ∨
        ∃ old, r.find? name = some old ∧ old.same h = true ∧ r' = r) := by
  rw [← Lexeme.isName_iff, register]
  by_cases valid : Lexeme.isName name = true
  · rw [valid, Bool.not_true, if_neg Bool.false_ne_true]
    cases bound : r.find? name with
    | none =>
      simp only [Except.ok.injEq, true_and, reduceCtorEq, false_and, exists_false, or_false]
      exact eq_comm
    | some old =>
      by_cases same : old.same h = true
      · simp only [same, if_true, Except.ok.injEq, reduceCtorEq, false_and, Option.some.injEq,
          exists_eq_left', true_and, false_or]
        exact eq_comm
      · simp [same]
  · rw [Bool.not_eq_true] at valid
    simp [valid]

/-- What one registry binds a name to, the other binds it to as well. -/
def Extends (r r' : Registry) : Prop :=
  ∀ name h, r.find? name = some h → r'.find? name = some h

theorem Extends.refl (r : Registry) : r.Extends r := fun _ _ bound => bound

theorem Extends.trans {r r' r'' : Registry} (first : r.Extends r') (second : r'.Extends r'') :
    r.Extends r'' :=
  fun name h bound => second name h (first name h bound)

/-- The bindings after a registration: the name has the handler, unless it had one before. -/
theorem find?_register {r r' : Registry} {name : String} {h : Handler}
    (done : r.register name h = .ok r') (other : String) :
    r'.find? other = (r.find? other).or (if name = other then some h else none) := by
  obtain ⟨-, ⟨free, rfl⟩ | ⟨old, bound, -, rfl⟩⟩ := register_eq_ok_iff.mp done
  · by_cases same : name = other
    · subst same
      rw [Table.find?_set_self, free, if_pos rfl, Option.none_or]
    · rw [Table.find?_set_of_ne r (Ne.symm same), if_neg same, Option.or_none]
  · by_cases same : name = other
    · subst same
      rw [bound, Option.some_or]
    · rw [if_neg same, Option.or_none]

theorem extends_register {r r' : Registry} {name : String} {h : Handler}
    (done : r.register name h = .ok r') : r.Extends r' := by
  intro other k bound
  rw [find?_register done, bound, Option.some_or]

/-- Every binding of the registry has a property. -/
def Satisfies (r : Registry) (P : String → Handler → Prop) : Prop :=
  ∀ name h, r.find? name = some h → P name h

theorem Satisfies.register {r r' : Registry} {P : String → Handler → Prop} {name : String}
    {h : Handler} (holds : r.Satisfies P) (new : P name h) (done : r.register name h = .ok r') :
    r'.Satisfies P := by
  intro other k bound
  rw [find?_register done, Option.or_eq_some_iff] at bound
  rcases bound with bound | ⟨-, given⟩
  · exact holds other k bound
  · by_cases same : name = other
    · rw [if_pos same] at given
      cases given
      exact same ▸ new
    · rw [if_neg same] at given
      cases given

/-- Two registries bind the same names, each to the same handler. -/
def Alike (r q : Registry) : Prop :=
  ∀ name, (r.find? name).map Handler.identity = (q.find? name).map Handler.identity

/-- What a registration answers only depends on the identities of the handlers. -/
theorem Alike.register {r q : Registry} (alike : r.Alike q) {h k : Handler}
    (same : h.identity = k.identity) (name : String) :
    (r.register name h).map (fun _ => ()) = (q.register name k).map (fun _ => ()) := by
  have here := alike name
  unfold Registry.register
  split
  · rfl
  · cases bound : r.find? name with
    | none =>
      rw [bound, Option.map_none, eq_comm, Option.map_eq_none_iff] at here
      rw [here]
      rfl
    | some old =>
      rw [bound, Option.map_some, eq_comm, Option.map_eq_some_iff] at here
      obtain ⟨old', bound', identity⟩ := here
      have asks : old.same h = old'.same k := by rw [Handler.same, Handler.same, identity, same]
      have kind : old.kind = old'.kind := by rw [Handler.kind, Handler.kind, identity]
      simp only [bound', asks, kind]
      split <;> rfl

theorem Alike.after {r q r' q' : Registry} (alike : r.Alike q) {h k : Handler}
    (same : h.identity = k.identity) {name : String} (done : r.register name h = .ok r')
    (also : q.register name k = .ok q') : r'.Alike q' := by
  intro other
  rw [find?_register done, find?_register also, Option.map_or, Option.map_or, alike other]
  split
  · rw [Option.map_some, Option.map_some, same]
  · rfl

/-- The built-in handlers stand under valid names. -/
theorem spellsName_of_builtin :
    Satisfies builtin fun name _ => Lexeme.SpellsName name.toList := by
  intro name h bound
  rw [← Lexeme.isName_iff]
  have listed := Table.mem_ofList (Table.mem_of_find? bound)
  simp only [List.mem_cons, List.not_mem_nil, or_false, Prod.mk.injEq] at listed
  rcases listed with ⟨rfl, -⟩ | ⟨rfl, -⟩ | ⟨rfl, -⟩ | ⟨rfl, -⟩ | ⟨rfl, -⟩ | ⟨rfl, -⟩ | ⟨rfl, -⟩ |
    ⟨rfl, -⟩ | ⟨rfl, -⟩ | ⟨rfl, -⟩ | ⟨rfl, -⟩ | ⟨rfl, -⟩ | ⟨rfl, -⟩
  all_goals rfl

end Registry

/-! ## Sequences of calls -/

/-- A call that registers a handler in its box under a name. -/
structure Registration (s : Supply) where
  name : String
  box : HandlerBox
  held : s.Holds box

/-- Two calls for one name with the same handler. -/
def Registration.Alike {s : Supply} (c d : Registration s) : Prop :=
  c.name = d.name ∧ c.box.SameAs d.box

namespace Environment

variable {s : Supply}

theorem register_eq_ok_iff {env env' : Environment} {name : String} {h : Handler} :
    env.register name h = .ok env' ↔
      ∃ r, env.registry.register name h = .ok r ∧ env' = { env with registry := r } := by
  unfold register
  rw [bind_eq_ok]
  exact exists_congr fun r => and_congr_right fun _ =>
    ⟨fun same => (Except.ok.inj same).symm, fun same => congrArg Except.ok same.symm⟩

/-- The environment after a call.  A call that fails changes nothing. -/
def attempt (env : Environment) (c : Registration s) : Environment :=
  match env.register c.name c.box.handler with
  | .ok env' => env'
  | .error _ => env

/-- The environment after calls. -/
def after (env : Environment) (calls : List (Registration s)) : Environment :=
  calls.foldl attempt env

/-- What the caller gets. -/
def answer (env : Environment) (c : Registration s) : Except Error Unit :=
  (env.register c.name c.box.handler).map fun _ => ()

def answers (env : Environment) : List (Registration s) → List (Except Error Unit)
  | [] => []
  | c :: calls => env.answer c :: (env.attempt c).answers calls

/-- The calls that succeed, in order. -/
def accepted (env : Environment) : List (Registration s) → List (Registration s)
  | [] => []
  | c :: calls =>
    match env.register c.name c.box.handler with
    | .ok env' => c :: env'.accepted calls
    | .error _ => env.accepted calls

theorem after_append (env : Environment) (calls more : List (Registration s)) :
    env.after (calls ++ more) = (env.after calls).after more := List.foldl_append

theorem attempt_of_ok {env env' : Environment} {c : Registration s}
    (done : env.register c.name c.box.handler = .ok env') : env.attempt c = env' := by
  rw [attempt, done]

theorem attempt_of_error {env : Environment} {c : Registration s} {e : Error}
    (failed : env.register c.name c.box.handler = .error e) : env.attempt c = env := by
  rw [attempt, failed]

theorem accepted_of_ok {env env' : Environment} {c : Registration s}
    (done : env.register c.name c.box.handler = .ok env') (calls : List (Registration s)) :
    env.accepted (c :: calls) = c :: env'.accepted calls := by
  rw [accepted, done]

theorem accepted_of_error {env : Environment} {c : Registration s} {e : Error}
    (failed : env.register c.name c.box.handler = .error e) (calls : List (Registration s)) :
    env.accepted (c :: calls) = env.accepted calls := by
  rw [accepted, failed]

/-- A call either is accepted by the registry, or it leaves the environment as it was. -/
theorem attempt_cases (env : Environment) (c : Registration s) :
    (∃ r, env.registry.register c.name c.box.handler = .ok r ∧
      env.attempt c = { env with registry := r }) ∨ env.attempt c = env := by
  cases called : env.register c.name c.box.handler with
  | error e => exact Or.inr (attempt_of_error called)
  | ok env' =>
    obtain ⟨r, done, same⟩ := register_eq_ok_iff.mp called
    exact Or.inl ⟨r, done, (attempt_of_ok called).trans same⟩

theorem extends_attempt (env : Environment) (c : Registration s) :
    env.registry.Extends (env.attempt c).registry := by
  obtain ⟨r, done, same⟩ | same := env.attempt_cases c
  · rw [same]
    exact Registry.extends_register done
  · rw [same]
    exact .refl _

theorem extends_after (env : Environment) (calls : List (Registration s)) :
    env.registry.Extends (env.after calls).registry := by
  induction calls generalizing env with
  | nil => exact .refl _
  | cons c calls ih => exact (env.extends_attempt c).trans (ih (env.attempt c))

/-- What holds of the first bindings and of every call that can succeed holds of all bindings. -/
theorem satisfies_after {env : Environment} {P : String → Handler → Prop}
    (start : env.registry.Satisfies P)
    (new : ∀ c : Registration s, Lexeme.SpellsName c.name.toList → P c.name c.box.handler)
    (calls : List (Registration s)) : (env.after calls).registry.Satisfies P := by
  induction calls generalizing env with
  | nil => exact start
  | cons c calls ih =>
    refine ih ?_
    obtain ⟨r, done, same⟩ | same := env.attempt_cases c
    · rw [same]
      exact start.register (new c (Registry.register_eq_ok_iff.mp done).1) done
    · rwa [same]

/-- A name has the handler that it was bound to at first, and else that of the first call for it
that has succeeded. -/
theorem find?_after (env : Environment) (calls : List (Registration s)) (name : String) :
    (env.after calls).registry.find? name = (env.registry.find? name).or
      (((env.accepted calls).find? (·.name == name)).map (·.box.handler)) := by
  induction calls generalizing env with
  | nil => exact (Option.or_none ..).symm
  | cons c calls ih =>
    show ((env.attempt c).after calls).registry.find? name = _
    rw [ih]
    cases called : env.register c.name c.box.handler with
    | error e => rw [attempt_of_error called, accepted_of_error called]
    | ok env' =>
      obtain ⟨r, done, rfl⟩ := register_eq_ok_iff.mp called
      rw [attempt_of_ok called, accepted_of_ok called, Registry.find?_register done,
        Option.or_assoc, List.find?_cons]
      by_cases same : c.name = name
      · rw [if_pos same, Option.some_or, beq_iff_eq.mpr same]
        rfl
      · rw [if_neg same, Option.none_or, beq_eq_false_iff_ne.mpr same]

theorem answer_eq (env : Environment) (c : Registration s) :
    env.answer c = (env.registry.register c.name c.box.handler).map fun _ => () := by
  unfold answer register
  cases env.registry.register c.name c.box.handler <;> rfl

theorem registry_attempt (env : Environment) (c : Registration s) :
    (env.attempt c).registry =
      (env.registry.register c.name c.box.handler).toOption.getD env.registry := by
  unfold attempt register
  cases env.registry.register c.name c.box.handler <;> rfl

/-- Environments with the same handlers give the same answers to calls with the same handlers. -/
theorem answers_eq_of_alike {env env' : Environment} {calls others : List (Registration s)}
    (start : env.registry.Alike env'.registry)
    (alike : List.Forall₂ Registration.Alike calls others) :
    env.answers calls = env'.answers others := by
  induction alike generalizing env env' with
  | nil => rfl
  | @cons c d calls others first _ ih =>
    obtain ⟨name, sameAs⟩ := first
    have same : c.box.handler.identity = d.box.handler.identity := by
      rwa [← HandlerBox.same_iff c.held d.held, Handler.same, decide_eq_true_iff] at sameAs
    have answered := start.register same c.name
    have here : env.answer c = env'.answer d := by
      rw [answer_eq, answer_eq, answered, name]
    rw [answers, answers, here, ih]
    -- Either both calls are accepted or neither is.
    rw [registry_attempt, registry_attempt, ← name]
    cases first : env.registry.register c.name c.box.handler with
    | error e =>
      cases second : env'.registry.register c.name d.box.handler with
      | error e' => exact start
      | ok q =>
        rw [first, second] at answered
        cases answered
    | ok r =>
      cases second : env'.registry.register c.name d.box.handler with
      | error e' =>
        rw [first, second] at answered
        cases answered
      | ok q => exact start.after same first second

end Environment

end Stencil
