import Stencil.Proofs.Document.Reading
import Stencil.Proofs.Document.Tiling
import Stencil.Proofs.Handler.Refusal

/-!
# Where a document is at fault

Why a document is not read, in terms of the document itself: `Fault` names the construct at fault,
which comes behind a legal beginning of the document (`ReadUpTo`).  It is a delimiter that is not
closed or a tag without a name, a variable, tag or clause that is rejected there (`Rejects`), or the
innermost block that is open at the end.  The error has the cause of the fault and its line.  This is
the line that the construct begins on, except for a tag without a name: its error has the line that
the tag ends on.
-/

namespace Stencil

/-! ## Tokens that are rejected -/

/-- A draft cannot go on with a token, for a cause. -/
inductive Rejects (registry : Registry) (maxDepth : Nat) (d : Draft) : Token → Cause → Prop
  | «variable» {markup : String} {cause : Cause}
      (failed : Variable.parse markup = .error (cause : Error)) :
    Rejects registry maxDepth d (.variable markup) cause
  | unknown {name markup : String} (unclaimed : Unclaimed d.inside name)
      (free : registry.find? name = none) :
    Rejects registry maxDepth d (.tag name markup) (Draft.unknown registry name)
  | tooDeep {name markup : String} {h : Handler} (unclaimed : Unclaimed d.inside name)
      (bound : registry.find? name = some h) (ofKind : h.kind = .block)
      (full : maxDepth ≤ d.blocks.length) :
    Rejects registry maxDepth d (.tag name markup) (.blocksTooDeep maxDepth)
  | markup {name markup : String} {h : Handler} {cause : Cause}
      (unclaimed : Unclaimed d.inside name) (bound : registry.find? name = some h)
      (room : h.kind = .block → d.blocks.length < maxDepth)
      (failed : h.parse markup = .error (cause : Error)) :
    Rejects registry maxDepth d (.tag name markup) cause
  | afterFinal {name markup last : String} {b : OpenBlock} {outer : List OpenBlock}
      (innermost : d.blocks = b :: outer) (divides : b.enclosure.Divides name)
      (behind : b.lastClause? = some last) (final : last ∈ b.handler.finalClauses) :
    Rejects registry maxDepth d (.tag name markup) (.clauseAfterFinal name last b.name)
  | clause {name markup : String} {b : OpenBlock} {outer : List OpenBlock} {cause : Cause}
      (innermost : d.blocks = b :: outer) (divides : b.enclosure.Divides name)
      (notFinal : ∀ last ∈ b.lastClause?, last ∉ b.handler.finalClauses)
      (failed : b.handler.parseClause name markup = .error (cause : Error)) :
    Rejects registry maxDepth d (.tag name markup) cause

section Tokens

variable {registry : Registry} {maxDepth : Nat} {template : String}

theorem Rejects.of_openTag {d : Draft} {name markup : String} {span : Span} {e : Error}
    (refuses : ∀ name h, registry.find? name = some h → h.Refuses) (unclaimed : Unclaimed d.inside name)
    (failed : d.openTag registry maxDepth name markup span = .error e) :
    ∃ cause : Cause, e = cause ∧ Rejects registry maxDepth d (.tag name markup) cause := by
  unfold Draft.openTag at failed
  split at failed
  · next free =>
    cases failed
    exact ⟨_, rfl, .unknown unclaimed free⟩
  · next h bound =>
    unfold Draft.openHandler at failed
    split at failed
    · next ofKind =>
      rcases bind_eq_error.mp failed with failed | ⟨payload, -, pushed⟩
      · obtain ⟨cause, -, rfl⟩ := (refuses name h bound).parse markup e failed
        refine ⟨cause, rfl, .markup unclaimed bound (fun isBlock => ?_) failed⟩
        rw [ofKind] at isBlock
        cases isBlock
      · cases pushed
    · next ofKind =>
      split at failed
      · next full =>
        cases failed
        exact ⟨_, rfl, .tooDeep unclaimed bound ofKind full⟩
      · next room =>
        rcases bind_eq_error.mp failed with failed | ⟨payload, -, opened⟩
        · obtain ⟨cause, -, rfl⟩ := (refuses name h bound).parse markup e failed
          exact ⟨cause, rfl, .markup unclaimed bound (fun _ => Nat.lt_of_not_le room) failed⟩
        · cases opened

theorem Rejects.of_openClause {d : Draft} {b : OpenBlock} {outer : List OpenBlock}
    {name markup : String} {e : Error} (innermost : d.blocks = b :: outer)
    (refuses : b.handler.Refuses) (divides : b.enclosure.Divides name)
    (failed : Draft.openClause b outer d.nodes name markup = .error e) :
    ∃ cause : Cause, e = cause ∧ Rejects registry maxDepth d (.tag name markup) cause := by
  unfold Draft.openClause at failed
  split at failed
  · next last final =>
    cases failed
    obtain ⟨behind, final⟩ := Option.filter_eq_some_iff.mp final
    exact ⟨_, rfl, .afterFinal innermost divides behind (List.contains_iff_mem.mp final)⟩
  · next notFinal =>
    rcases bind_eq_error.mp failed with failed | ⟨payload, -, opened⟩
    · obtain ⟨cause, -, rfl⟩ := refuses.parseClause name markup e failed
      rw [Option.filter_eq_none_iff] at notFinal
      exact ⟨cause, rfl, .clause innermost divides (by simpa using notFinal) failed⟩
    · cases opened

/-- A token that cannot be read is rejected, and the error is the bare cause. -/
theorem Rejects.of_readToken {d : Draft} {token : Token} {span : Span} {e : Error}
    (refuses : ∀ name h, registry.find? name = some h → h.Refuses)
    (opened : ∀ b ∈ d.blocks, b.handler.Refuses)
    (failed : d.readToken registry maxDepth token span = .error e) :
    ∃ cause : Cause, e = cause ∧ Rejects registry maxDepth d token cause := by
  cases token with
  | text s => cases failed
  | «variable» markup =>
    rcases bind_eq_error.mp failed with failed | ⟨v, -, pushed⟩
    · obtain ⟨cause, -, rfl⟩ := Reader.refuses_readVariable.readAll failed
      exact ⟨cause, rfl, .variable failed⟩
    · cases pushed
  | tag name markup =>
    rcases d.readTag_cases name markup span with
      ⟨b, outer, -, -, same⟩ | ⟨b, outer, innermost, divides, same⟩ | ⟨unclaimed, same⟩
    · cases (same registry maxDepth).symm.trans failed
    · refine Rejects.of_openClause innermost ?_ divides ((same registry maxDepth).symm.trans failed)
      exact opened b (innermost ▸ List.mem_cons_self)
    · exact Rejects.of_openTag refuses unclaimed ((same registry maxDepth).symm.trans failed)

theorem isRefusal_unknown (registry : Registry) (name : String) :
    (Draft.unknown registry name).isRefusal = true := by
  unfold Draft.unknown
  split
  · rfl
  · split <;> rfl

/-- Tokens are rejected for causes of parsing. -/
theorem Rejects.isRefusal {d : Draft} {token : Token} {cause : Cause}
    (refuses : ∀ name h, registry.find? name = some h → h.Refuses)
    (opened : ∀ b ∈ d.blocks, b.handler.Refuses)
    (rejects : Rejects registry maxDepth d token cause) : cause.isRefusal = true := by
  have bare : ∀ {cause : Cause}, (cause : Error).IsRefusal → cause.isRefusal = true := by
    rintro cause ⟨_, refusal, ⟨⟩⟩
    exact refusal
  cases rejects with
  | «variable» failed => exact bare (Reader.refuses_readVariable.readAll failed)
  | unknown => exact isRefusal_unknown registry _
  | tooDeep => rfl
  | markup unclaimed bound room failed => exact bare ((refuses _ _ bound).parse _ _ failed)
  | afterFinal => rfl
  | clause innermost divides notFinal failed =>
    exact bare ((opened _ (innermost ▸ List.mem_cons_self)).parseClause _ _ _ failed)

/-- Reading tokens fails at one of them, behind those that have been read. -/
theorem DraftHolds.exists_of_error {d : Draft} {ts us : List (Token × Span)} {e : Error}
    (h : DraftHolds registry maxDepth d.blocks d.nodes ts)
    (failed : d.readTokens registry maxDepth template us = .error e) :
    ∃ vs token span ws d' e', us = vs ++ (token, span) :: ws ∧
      DraftHolds registry maxDepth (Draft.blocks d') d'.nodes (ts ++ vs) ∧
      d'.readToken registry maxDepth token span = .error e' ∧
      e = e'.orLocatedAt template span.start.line := by
  induction us generalizing d ts with
  | nil => cases failed
  | cons t us ih =>
    obtain ⟨token, span⟩ := t
    unfold Draft.readTokens at failed
    split at failed
    · next e' here =>
      cases failed
      exact ⟨[], token, span, us, d, e', rfl, by rwa [List.append_nil], here, rfl⟩
    · next first =>
      obtain ⟨vs, token', span', ws, d', e', rfl, holds, here, same⟩ :=
        ih (h.readToken first) failed
      rw [List.append_assoc] at holds
      exact ⟨(token, span) :: vs, token', span', ws, d', e', rfl, holds, here, same⟩

/-- The handlers of the open blocks are handlers of the registry. -/
theorem DraftHolds.bound {blocks : List OpenBlock} {nodes : List Node} {ts : List (Token × Span)}
    (h : DraftHolds registry maxDepth blocks nodes ts) :
    ∀ b ∈ blocks, ∃ name, registry.find? name = some b.handler := by
  induction blocks generalizing nodes ts with
  | nil => exact List.forall_mem_nil _
  | cons b outer ih =>
    obtain ⟨us, vs, -, outerHolds, -, -, accepts, -⟩ := h
    exact List.forall_mem_cons.mpr ⟨⟨b.name, accepts.bound⟩, ih outerHolds⟩

end Tokens

/-! ## The construct at fault -/

section Faults

variable (registry : Registry) (maxDepth : Nat) (source : String)

/-- A document is legal up to some place, apart from the blocks that are open there: what stands
before the place is scanned to tokens, and these are what the draft holds. -/
structure ReadUpTo (before rest : List Char) (d : Draft) : Prop where
  whole : source.toList = before ++ rest
  tokens : ∃ ts segments, ts <+: (Token.scan source).tokens ∧ before = segments.flatten ∧
    Token.Laid [] ts segments rest ∧ DraftHolds registry maxDepth d.blocks d.nodes ts

/-- A construct of the document that it cannot be read for, with what stands before and behind it,
and the cause. -/
inductive Fault (before construct after : List Char) : Cause → Prop
  | broken {d : Draft} {cause : Cause}
      (read : ReadUpTo registry maxDepth source before (construct ++ after) d)
      (broken : Token.Broken construct after cause) : Fault before construct after cause
  | rejected {d : Draft} {token : Token} {cause : Cause}
      (read : ReadUpTo registry maxDepth source before (construct ++ after) d)
      (covers : token.Covers construct after) (rejects : Rejects registry maxDepth d token cause) :
    Fault before construct after cause
  /-- What stands behind the opening tag are sections of the block, which is not closed. -/
  | unterminated {d : Draft} {name markup : String} {payload : Payload} {h : Handler}
      {body : List Node} {clauses : List (Clause Node)} {ts : List (Token × Span)}
      {segments : List (List Char)}
      (read : ReadUpTo registry maxDepth source before (construct ++ after) d)
      (covers : (Token.tag name markup).Covers construct after)
      (unclaimed : Unclaimed d.inside name) (room : d.blocks.length < maxDepth)
      (accepts : Accepts registry .block name markup payload h)
      (laid : Token.Laid (before ++ construct) ts segments []) (rest : after = segments.flatten)
      (sections : SectionsHold registry maxDepth ⟨name, h⟩ (d.blocks.length + 1) body clauses ts) :
    Fault before construct after (.unterminatedBlock name)

end Faults

section Documents

variable {registry : Registry} {maxDepth : Nat} {source : String}

/-- The segments behind some tokens begin with the one of the next token. -/
theorem Token.Laid.split_cons {before rest : List Char} {ts us : List (Token × Span)}
    {token : Token} {span : Span} {segments : List (List Char)}
    (laid : Laid before (ts ++ (token, span) :: us) segments rest) :
    ∃ first segment others, segments = first ++ segment :: others ∧
      Laid before ts first (segment ++ (others.flatten ++ rest)) ∧
      token.Covers segment (others.flatten ++ rest) ∧
      span.start = .behind (before ++ first.flatten) ∧
      Laid (before ++ first.flatten ++ segment) us others rest := by
  obtain ⟨first, second, rfl, firstLaid, secondLaid⟩ := laid.split
  cases secondLaid with
  | @cons _ segment _ _ _ others covers behind =>
    rw [List.flatten_cons, List.append_assoc] at firstLaid
    exact ⟨first, segment, others, rfl, firstLaid, covers, rfl, behind⟩

/-- Where reading the tokens of a document fails, the document is at fault. -/
theorem Fault.of_readTokens (refuses : ∀ name h, registry.find? name = some h → h.Refuses)
    {template : String} {e : Error}
    (failed : Draft.empty.readTokens registry maxDepth template (Token.scan source).tokens =
      .error e) :
    ∃ before construct after cause, Fault registry maxDepth source before construct after cause ∧
      e = (cause : Error).locatedAt template (Token.toldLine before construct cause) := by
  obtain ⟨segments, rest, whole, laid, -⟩ := Token.scan_laid source
  have start : DraftHolds registry maxDepth Draft.empty.blocks Draft.empty.nodes [] :=
    ⟨trivial, .nil⟩
  obtain ⟨vs, token, span, ws, d, e', same, holds, here, rfl⟩ := start.exists_of_error failed
  have opened : ∀ b ∈ d.blocks, b.handler.Refuses := by
    intro b mem
    obtain ⟨name, bound⟩ := holds.bound b mem
    exact refuses name _ bound
  obtain ⟨cause, rfl, rejects⟩ := Rejects.of_readToken refuses opened here
  rw [same] at laid
  obtain ⟨first, segment, others, rfl, firstLaid, covers, begins, -⟩ := laid.split_cons
  have parts : source.toList = first.flatten ++ (segment ++ (others.flatten ++ rest)) := by
    rw [whole]
    simp only [List.flatten_append, List.flatten_cons, List.append_assoc]
  refine ⟨first.flatten, segment, others.flatten ++ rest, cause, .rejected ⟨parts, vs, first,
    ⟨_, same.symm⟩, rfl, firstLaid, holds⟩ covers rejects, ?_⟩
  rw [Error.orLocatedAt_of_none rfl, Token.toldLine,
    if_neg (Cause.ne_unnamedTag (rejects.isRefusal refuses opened)), begins]
  rfl

/-- Where scanning a document stops behind tokens that can be read, the document is at fault. -/
theorem Fault.of_scan {d : Draft} {template : String} {cause : Cause} {line : Nat}
    (read : Draft.empty.readTokens registry maxDepth template (Token.scan source).tokens = .ok d)
    (failed : (Token.scan source).failure = some (cause, line)) :
    ∃ before construct after, Fault registry maxDepth source before construct after cause ∧
      line = Token.toldLine before construct cause := by
  obtain ⟨segments, rest, whole, laid, -, broken⟩ := Token.scan_laid source
  have start : DraftHolds registry maxDepth Draft.empty.blocks Draft.empty.nodes [] :=
    ⟨trivial, .nil⟩
  obtain ⟨construct, after, rfl, broken, told⟩ := broken cause line failed
  exact ⟨segments.flatten, construct, after, .broken ⟨whole, _, segments, List.prefix_refl _, rfl,
    laid, start.readTokens read⟩ broken, told⟩

/-- Where a block is open at the end of a document, the document is at fault. -/
theorem Fault.of_open {b : OpenBlock} {outer : List OpenBlock} {nodes : List Node}
    {template : String} (read : Draft.empty.readTokens registry maxDepth template
      (Token.scan source).tokens = .ok ⟨b :: outer, nodes⟩)
    (clean : (Token.scan source).failure = none) :
    ∃ before construct after,
      Fault registry maxDepth source before construct after (.unterminatedBlock b.name) ∧
        b.span.start.line = Token.toldLine before construct (.unterminatedBlock b.name) := by
  obtain ⟨segments, rest, whole, laid, nothing, -⟩ := Token.scan_laid source
  have start : DraftHolds registry maxDepth Draft.empty.blocks Draft.empty.nodes [] :=
    ⟨trivial, .nil⟩
  obtain ⟨us, vs, same, holds, unclaimed, room, accepts, -, sections⟩ := start.readTokens read
  obtain rfl := nothing clean
  rw [List.nil_append] at same
  rw [same] at laid
  obtain ⟨first, segment, others, rfl, firstLaid, covers, begins, behind⟩ := laid.split_cons
  have parts : source.toList = first.flatten ++ (segment ++ (others.flatten ++ [])) := by
    rw [whole]
    simp only [List.flatten_append, List.flatten_cons, List.append_assoc]
  have before : ReadUpTo registry maxDepth source first.flatten
      (segment ++ (others.flatten ++ [])) ⟨outer, b.before⟩ :=
    ⟨parts, us, first, ⟨_, same.symm⟩, rfl, firstLaid, holds⟩
  refine ⟨first.flatten, segment, others.flatten ++ [], .unterminated before covers unclaimed room
    accepts behind (List.append_nil _) sections, ?_⟩
  rw [Token.toldLine, if_neg (Cause.ne_unnamedTag rfl), begins]
  rfl

/-- A document that is not read is at fault, and the error is the cause with the line that is told
for the construct. -/
theorem readNodes_fault (maxDepth : Nat) {name source : String} {e : Error}
    (failed : Template.readNodes Registry.builtin maxDepth name source = .error e) :
    ∃ before construct after cause,
      Fault Registry.builtin maxDepth source before construct after cause ∧
        e = (cause : Error).locatedAt name (Token.toldLine before construct cause) := by
  unfold Template.readNodes at failed
  dsimp only at failed
  rcases bind_eq_error.mp failed with failed | ⟨d, read, rest⟩
  · exact Fault.of_readTokens (fun name h bound => (Handler.IsBuiltin.refuses ⟨name, bound⟩)) failed
  · cases stopped : (Token.scan source).failure with
    | some failure =>
      obtain ⟨cause, line⟩ := failure
      obtain ⟨before, construct, after, fault, rfl⟩ := Fault.of_scan read stopped
      rw [Scan.error?, stopped] at rest
      exact ⟨before, construct, after, cause, fault, (Except.error.inj rest).symm⟩
    | none =>
      rw [Scan.error?, stopped] at rest
      obtain ⟨blocks, nodes⟩ := d
      cases blocks with
      | nil => cases rest
      | cons b outer =>
        obtain ⟨before, construct, after, fault, line⟩ := Fault.of_open read stopped
        refine ⟨before, construct, after, _, fault, ?_⟩
        rw [← line]
        exact (Except.error.inj rest).symm

/-- A document with two open blocks, the inner one on the second line. -/
def openPage : String := "\x7b% if a %\x7d\n\x7b% for b in c %\x7d\nd"

theorem readNodes_fault_openPage : ∃ e,
    Template.readNodes Registry.builtin 64 "page" openPage = .error e ∧
      ∃ before construct after cause,
        Fault Registry.builtin 64 openPage before construct after cause ∧
          e = (cause : Error).locatedAt "page" (Token.toldLine before construct cause) := by
  have none : (Template.readNodes Registry.builtin 64 "page" openPage).toOption.isNone = true := by
    decide +kernel
  cases failed : Template.readNodes Registry.builtin 64 "page" openPage with
  | error e => exact ⟨e, rfl, readNodes_fault 64 failed⟩
  | ok nodes =>
    rw [failed] at none
    cases none

/-! ### A tag without a name -/

theorem Fault.read {before construct after : List Char} {cause : Cause}
    (fault : Fault registry maxDepth source before construct after cause) :
    ∃ d, ReadUpTo registry maxDepth source before (construct ++ after) d := by
  cases fault with
  | broken read => exact ⟨_, read⟩
  | rejected read => exact ⟨_, read⟩
  | unterminated read => exact ⟨_, read⟩

/-- If scanning stops at once, the construct at fault begins the document. -/
theorem ReadUpTo.before_eq_nil {before rest : List Char} {d : Draft}
    (read : ReadUpTo registry maxDepth source before rest d)
    (none : (Token.scan source).tokens = []) : before = [] := by
  obtain ⟨ts, segments, begins, rfl, laid, -⟩ := read.tokens
  rw [none, List.prefix_nil] at begins
  subst begins
  cases laid
  rfl

/-- A tag without a name on three lines. -/
def namelessPage : String := "\x7b%\n\n%\x7d"

/-- Its error does not have the line that it begins on. -/
theorem not_begins_nameless : ¬ ∀ (maxDepth : Nat) (name source : String) (e : Error),
    Template.readNodes Registry.builtin maxDepth name source = .error e →
      ∃ before construct after cause,
        Fault Registry.builtin maxDepth source before construct after cause ∧
          e = (cause : Error).locatedAt name (Position.behind before).line := by
  intro always
  have none : (Token.scan namelessPage).tokens = [] := by decide +kernel
  have stopped : (Token.scan namelessPage).failure = some (.unnamedTag, 3) := by decide +kernel
  have failed : Template.readNodes Registry.builtin 64 "page" namelessPage =
      .error ((Cause.unnamedTag : Error).locatedAt "page" 3) := by
    unfold Template.readNodes
    dsimp only
    rw [none, Scan.error?, stopped]
    rfl
  obtain ⟨before, construct, after, cause, fault, told⟩ := always 64 "page" namelessPage _ failed
  obtain ⟨d, read⟩ := fault.read
  rw [read.before_eq_nil none] at told
  have lines : some (Location.mk "page" 3) = some ⟨"page", 1⟩ := congrArg Error.location told
  exact absurd lines (by decide)

end Documents

end Stencil
