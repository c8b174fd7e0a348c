import Stencil.Extension.Handlers
import Stencil.Proofs.Document.Reading
import Stencil.Proofs.Handler.Registration

/-!
# Documents stay what they are when the language grows

What is read with some handlers and some limit for blocks is read to the same nodes when names are
bound that were free and when blocks may nest deeper.  The innermost open block is asked before the
registry, so a name that it claims is never looked up; and a name that is looked up without success
ends reading, so whatever has been read did not need a name to be free.
-/

namespace Stencil

/-! ## Reading with more handlers -/

section Reading

variable {registry larger : Registry} {maxDepth deeper : Nat}

theorem Draft.openHandler_grow (more : maxDepth ≤ deeper) {d e : Draft} {h : Handler}
    {name markup : String} {span : Span}
    (read : d.openHandler h maxDepth name markup span = .ok e) :
    d.openHandler h deeper name markup span = .ok e := by
  unfold openHandler at read ⊢
  split at read
  · exact read
  · split at read
    · cases read
    · next room => rwa [if_neg (by omega)]

theorem Draft.openTag_grow (grows : registry.Extends larger) (more : maxDepth ≤ deeper)
    {d e : Draft} {name markup : String} {span : Span}
    (read : d.openTag registry maxDepth name markup span = .ok e) :
    d.openTag larger deeper name markup span = .ok e := by
  unfold openTag at read ⊢
  split at read
  · cases read
  · next h bound =>
    rw [grows name h bound]
    exact openHandler_grow more read

/-- A token that is read is read alike with more handlers: either the innermost block claims it, and
no handler is asked for, or its handler is there. -/
theorem Draft.readToken_grow (grows : registry.Extends larger) (more : maxDepth ≤ deeper)
    {d e : Draft} {token : Token} {span : Span}
    (read : d.readToken registry maxDepth token span = .ok e) :
    d.readToken larger deeper token span = .ok e := by
  cases token with
  | text s => exact read
  | «variable» markup => exact read
  | tag name markup =>
    rcases d.readTag_cases name markup span with
      ⟨b, outer, -, -, same⟩ | ⟨b, outer, -, -, same⟩ | ⟨-, same⟩
    · exact (same larger deeper).trans ((same registry maxDepth).symm.trans read)
    · exact (same larger deeper).trans ((same registry maxDepth).symm.trans read)
    · exact (same larger deeper).trans
        (openTag_grow grows more ((same registry maxDepth).symm.trans read))

theorem Draft.readTokens_grow (grows : registry.Extends larger) (more : maxDepth ≤ deeper)
    {template : String} {d e : Draft} {ts : List (Token × Span)}
    (read : d.readTokens registry maxDepth template ts = .ok e) :
    d.readTokens larger deeper template ts = .ok e := by
  induction ts generalizing d with
  | nil => exact read
  | cons t ts ih =>
    obtain ⟨token, span⟩ := t
    unfold readTokens at read
    split at read
    · cases read
    · next first =>
      rw [readTokens, readToken_grow grows more first]
      exact ih read

theorem readNodes_grow (grows : registry.Extends larger) (more : maxDepth ≤ deeper)
    {name source : String} {nodes : List Node}
    (read : Template.readNodes registry maxDepth name source = .ok nodes) :
    Template.readNodes larger deeper name source = .ok nodes := by
  obtain ⟨d, tokens, rest⟩ := bind_eq_ok.mp read
  exact bind_eq_ok.mpr ⟨d, Draft.readTokens_grow grows more tokens, rest⟩

end Reading

/-! ## Environments -/

namespace Environment

/-- An environment comes from another one by registering handlers and raising the limit for
blocks. -/
inductive Configured (env : Environment) : Environment → Prop
  | start : env.Configured env
  | register {middle later : Environment} {name : String} {h : Handler}
      (first : env.Configured middle) (done : middle.register name h = .ok later) :
    env.Configured later
  | raise {middle : Environment} {maxDepth : Nat} (first : env.Configured middle)
      (more : middle.maxDepth ≤ maxDepth) : env.Configured { middle with maxDepth := maxDepth }

theorem Configured.grows {env later : Environment} (configured : env.Configured later) :
    env.registry.Extends later.registry ∧ env.maxDepth ≤ later.maxDepth := by
  induction configured with
  | start => exact ⟨.refl _, Nat.le_refl _⟩
  | register first done ih =>
    obtain ⟨r, registered, rfl⟩ := register_eq_ok_iff.mp done
    exact ⟨ih.1.trans (Registry.extends_register registered), ih.2⟩
  | raise first more ih => exact ⟨ih.1, Nat.le_trans ih.2 more⟩

/-- A document that can be parsed is parsed to the same template by every environment that comes
from this one. -/
theorem parseNamed_configured {env later : Environment} (configured : env.Configured later)
    {name source : String} {t : Template} (parsed : env.parseNamed name source = .ok t) :
    later.parseNamed name source = .ok t := by
  obtain ⟨grows, more⟩ := configured.grows
  obtain ⟨nodes, read, made⟩ := bind_eq_ok.mp parsed
  exact bind_eq_ok.mpr ⟨nodes, readNodes_grow grows more read, made⟩

/-- The standard environment with handlers for what a condition makes of its clause and of its end
marker, and with a larger limit. -/
def crowded : Environment :=
  { standard with
    registry := (standard.registry.set "else" Extension.noop.handler).set "endif"
      Extension.plain.handler
    maxDepth := 100 }

theorem configured_crowded : standard.Configured crowded := by
  have first : standard.register "else" Extension.noop.handler =
      .ok { standard with registry := standard.registry.set "else" Extension.noop.handler } := rfl
  have second : Environment.register
      { standard with registry := standard.registry.set "else" Extension.noop.handler } "endif"
      Extension.plain.handler = .ok { crowded with maxDepth := standard.maxDepth } := rfl
  exact .raise ((Configured.start.register first).register second) (by decide)

/-- A document whose clause and end marker have handlers there. -/
def choice : String := "\x7b% if a %\x7db\x7b% else %\x7dc\x7b% endif %\x7d"

theorem parseNamed_crowded : ∃ t, standard.Configured crowded ∧
    standard.parseNamed "p" choice = .ok t ∧ crowded.parseNamed "p" choice = .ok t := by
  have some : (standard.parseNamed "p" choice).toOption.isSome = true := by decide +kernel
  cases parsed : standard.parseNamed "p" choice with
  | error e =>
    rw [parsed] at some
    cases some
  | ok t => exact ⟨t, configured_crowded, rfl, parseNamed_configured configured_crowded parsed⟩

end Environment

end Stencil
