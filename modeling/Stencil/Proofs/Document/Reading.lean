import Stencil.Proofs.Document.Grammar

/-!
# Reading accepts exactly the grammar

A document is read with a stack of open blocks.  One direction follows the forest: reading the
tokens of a legal node pushes that node and nothing else.  The other one follows the tokens: what a
draft holds always is a legal forest with blocks left open, and its tokens are those that have been
read.
-/

namespace Stencil

/-- What an open block makes of the names inside of it. -/
def OpenBlock.enclosure (b : OpenBlock) : Enclosure := ⟨b.name, b.handler⟩

/-- The innermost open block. -/
def Draft.inside (d : Draft) : Option Enclosure := d.blocks.head?.map OpenBlock.enclosure

section Forward

variable {registry : Registry} {maxDepth : Nat} {template : String}

/-! ## From a forest to its tokens -/

/-- The draft with more nodes in the section that is being read. -/
def Draft.extend (d : Draft) (ns : List Node) : Draft := { d with nodes := ns.reverse ++ d.nodes }

theorem Draft.extend_cons (d : Draft) (n : Node) (ns : List Node) :
    d.extend (n :: ns) = (d.push n).extend ns := by
  simp [Draft.extend, Draft.push]

/-- A name that no open block claims is looked up in the registry. -/
theorem Draft.readTag_of_unclaimed {d : Draft} {name : String} (free : Unclaimed d.inside name)
    (markup : String) (span : Span) :
    d.readTag registry maxDepth name markup span =
      d.openTag registry maxDepth name markup span := by
  unfold Draft.readTag
  split
  · rfl
  · next b outer hb =>
    have notTaken : ¬ (name = b.endName ∨ name ∈ b.handler.clauses) :=
      free b.enclosure (by simp [Draft.inside, hb])
    rw [not_or] at notTaken
    rw [if_neg notTaken.1, if_neg (by simpa using notTaken.2)]

/-- A tag closes the innermost block, or opens a section of it, or is looked up in the registry; only
in the last case does it matter which handlers there are. -/
theorem Draft.readTag_cases (d : Draft) (name markup : String) (span : Span) :
    (∃ b outer, d.blocks = b :: outer ∧ name = b.endName ∧ ∀ registry maxDepth,
      d.readTag registry maxDepth name markup span = .ok (closeBlock b outer d.nodes)) ∨
    (∃ b outer, d.blocks = b :: outer ∧ b.enclosure.Divides name ∧ ∀ registry maxDepth,
      d.readTag registry maxDepth name markup span = openClause b outer d.nodes name markup) ∨
    (Unclaimed d.inside name ∧ ∀ registry maxDepth,
      d.readTag registry maxDepth name markup span =
        d.openTag registry maxDepth name markup span) := by
  obtain ⟨blocks, nodes⟩ := d
  cases blocks with
  | nil =>
    have unclaimed : Unclaimed (Draft.mk [] nodes).inside name := by rintro _ ⟨⟩
    exact Or.inr (Or.inr ⟨unclaimed, fun _ _ => rfl⟩)
  | cons b outer =>
    by_cases isEnd : name = b.endName
    · exact Or.inl ⟨b, outer, rfl, isEnd, fun _ _ => if_pos isEnd⟩
    · by_cases isClause : name ∈ b.handler.clauses
      · refine Or.inr (Or.inl ⟨b, outer, rfl, ⟨isEnd, isClause⟩, fun _ _ => ?_⟩)
        exact (if_neg isEnd).trans (if_pos (List.contains_iff_mem.2 isClause))
      · have unclaimed : Unclaimed (Draft.mk (b :: outer) nodes).inside name := by
          rintro _ ⟨⟩ taken
          exact taken.elim isEnd isClause
        exact Or.inr (Or.inr ⟨unclaimed, fun _ _ => readTag_of_unclaimed unclaimed markup span⟩)

theorem Draft.openTag_tag {d : Draft} {name markup : String} {payload : Payload} {h : Handler}
    (accepts : Accepts registry .tag name markup payload h) (span : Span) :
    d.openTag registry maxDepth name markup span =
      .ok (d.push (.tag name markup payload span)) := by
  simp only [Draft.openTag, accepts.bound, Draft.openHandler, accepts.ofKind, accepts.parsed]
  rfl

theorem Draft.openTag_block {d : Draft} {name markup : String} {payload : Payload} {h : Handler}
    (accepts : Accepts registry .block name markup payload h) (room : d.blocks.length < maxDepth)
    (span : Span) :
    d.openTag registry maxDepth name markup span =
      .ok ⟨⟨name, markup, payload, span, h, [], [], .body, d.nodes⟩ :: d.blocks, []⟩ := by
  simp only [Draft.openTag, accepts.bound, Draft.openHandler, accepts.ofKind, accepts.parsed,
    if_neg (Nat.not_le.2 room)]
  rfl

/-- The block after a clause has opened a section behind the given nodes. -/
def OpenBlock.divide (b : OpenBlock) (nodes : List Node) (name markup : String)
    (payload : Payload) : OpenBlock :=
  { b with
    body := (b.closeSection nodes).body
    clauses := (b.closeSection nodes).clauses
    current := .clause name markup payload }

/-- Completing a section leaves everything but the sections as it is. -/
theorem OpenBlock.divide_eq (b : OpenBlock) (nodes : List Node) (name markup : String)
    (payload : Payload) :
    { b.closeSection nodes with current := .clause name markup payload } =
      b.divide nodes name markup payload := by
  unfold divide closeSection
  cases b.current <;> rfl

/-- No clause may stand behind a final one: neither behind the clause that the block is in, nor
among those that still follow. -/
def OpenBlock.MayContinue (b : OpenBlock) (cs : List (Clause Node)) : Prop :=
  (∀ last ∈ b.lastClause?, cs ≠ [] → last ∉ b.handler.finalClauses) ∧
    cs.Pairwise fun c _ => c.name ∉ b.handler.finalClauses

theorem Draft.openClause_of_parsed {b : OpenBlock} {name markup : String} {payload : Payload}
    (notFinal : ∀ last ∈ b.lastClause?, last ∉ b.handler.finalClauses)
    (parsed : b.handler.parseClause name markup = .ok payload) (outer : List OpenBlock)
    (nodes : List Node) :
    Draft.openClause b outer nodes name markup =
      .ok ⟨b.divide nodes.reverse name markup payload :: outer, []⟩ := by
  have none : b.lastClause?.filter b.handler.finalClauses.contains = none := by
    rw [Option.filter_eq_none_iff]
    intro last hl
    simpa using notFinal last hl
  simp only [Draft.openClause, none, parsed, ← OpenBlock.divide_eq]
  rfl

/-- The node that an open block becomes when the given sections still follow. -/
def OpenBlock.closeWith (b : OpenBlock) (nodes : List Node) (cs : List (Clause Node)) : Node :=
  .block b.name b.markup b.payload b.span (b.closeSection nodes).body
    ((b.closeSection nodes).clauses ++ cs)

theorem OpenBlock.closeWith_nil (b : OpenBlock) (nodes : List Node) :
    b.closeWith nodes [] = (b.closeSection nodes).toNode := by
  unfold closeWith closeSection toNode
  cases b.current <;> simp

/-- Closing the section behind a clause adds that clause to the block. -/
theorem OpenBlock.closeWith_divide (b : OpenBlock) (nodes body : List Node) (name markup : String)
    (payload : Payload) (cs : List (Clause Node)) :
    (b.divide nodes name markup payload).closeWith body cs =
      b.closeWith nodes (⟨name, markup, payload, body⟩ :: cs) := by
  unfold closeWith divide closeSection
  cases b.current <;> simp

theorem OpenBlock.MayContinue.divide {b : OpenBlock} {c : Clause Node} {cs : List (Clause Node)}
    (h : b.MayContinue (c :: cs)) (nodes : List Node) (markup : String) (payload : Payload) :
    (b.divide nodes c.name markup payload).MayContinue cs := by
  obtain ⟨first, others⟩ := List.pairwise_cons.1 h.2
  refine ⟨?_, others⟩
  intro last hl more
  obtain rfl : c.name = last := by simpa [OpenBlock.divide, OpenBlock.lastClause?] using hl
  obtain ⟨d, hd⟩ := List.exists_mem_of_ne_nil cs more
  exact first d hd

/-- Inside of a block, its end marker closes it. -/
theorem Draft.readToken_end (b : OpenBlock) (outer : List OpenBlock) (nodes : List Node)
    (markup : String) (span : Span) :
    (Draft.mk (b :: outer) nodes).readToken registry maxDepth (.tag ("end" ++ b.name) markup)
        span = .ok (Draft.closeBlock b outer nodes) :=
  if_pos rfl

/-- Inside of a block, the name of a clause opens a section. -/
theorem Draft.readToken_clause {b : OpenBlock} {name : String} (divides : b.enclosure.Divides name)
    (outer : List OpenBlock) (nodes : List Node) (markup : String) (span : Span) :
    (Draft.mk (b :: outer) nodes).readToken registry maxDepth (.tag name markup) span =
      Draft.openClause b outer nodes name markup :=
  (if_neg divides.1).trans (if_pos (List.contains_iff_mem.2 divides.2))

/-- Reading goes on behind a token that has been read. -/
theorem Draft.readTokens_cons {d e : Draft} {token : Token} {span : Span}
    (h : d.readToken registry maxDepth token span = .ok e) (rest : List (Token × Span)) :
    d.readTokens registry maxDepth template ((token, span) :: rest) =
      e.readTokens registry maxDepth template rest := by
  rw [Draft.readTokens, h]

mutual

/-- Reading the tokens of a legal node pushes the node. -/
theorem readTokens_node {d : Draft} (n : Node) {ts : List (Token × Span)}
    (legal : n.Legal registry maxDepth d.inside d.blocks.length) (spelled : Spells n ts)
    (rest : List (Token × Span)) :
    d.readTokens registry maxDepth template (ts ++ rest) =
      (d.push n).readTokens registry maxDepth template rest := by
  match n, spelled with
  | .text _, .text s span => exact Draft.readTokens_cons rfl rest
  | .variable _ _, @Spells.variable markup v span parsed =>
    refine Draft.readTokens_cons ?_ rest
    simp only [Draft.readToken, parsed]
    rfl
  | .tag _ _ _ _, .tag name markup payload span =>
    obtain ⟨free, h, accepts⟩ := legal
    refine Draft.readTokens_cons ?_ rest
    rw [Draft.readToken, Draft.readTag_of_unclaimed free, Draft.openTag_tag accepts]
  | .block name markup payload span body clauses, .block ignored last bodySpelled clausesSpelled =>
    obtain ⟨free, room, h, accepts, bodyLegal, clausesLegal, final⟩ := legal
    let b : OpenBlock := ⟨name, markup, payload, span, h, [], [], .body, d.nodes⟩
    have opened : d.readToken registry maxDepth (.tag name markup) span = .ok ⟨b :: d.blocks, []⟩ := by
      rw [Draft.readToken, Draft.readTag_of_unclaimed free, Draft.openTag_block accepts room]
    have follow : b.MayContinue clauses := ⟨by simp [b, OpenBlock.lastClause?], final⟩
    rw [List.cons_append, Draft.readTokens_cons opened, List.append_assoc, List.append_assoc,
      readTokens_all (d := ⟨b :: d.blocks, []⟩) body bodyLegal bodySpelled,
      List.singleton_append]
    refine (readTokens_clauses (b := b) clauses clausesLegal clausesSpelled follow _ ignored last
      rest).trans ?_
    simp [b, OpenBlock.closeWith, OpenBlock.closeSection, Draft.push]

/-- Reading the tokens of legal nodes extends the section by the nodes. -/
theorem readTokens_all {d : Draft} (ns : List Node) {ts : List (Token × Span)}
    (legal : LegalAll registry maxDepth d.inside d.blocks.length ns) (spelled : SpellsAll ns ts)
    (rest : List (Token × Span)) :
    d.readTokens registry maxDepth template (ts ++ rest) =
      (d.extend ns).readTokens registry maxDepth template rest := by
  match ns, spelled with
  | [], .nil => rfl
  | n :: ns, .cons first others =>
    rw [List.append_assoc, readTokens_node n legal.1 first, Draft.extend_cons]
    exact readTokens_all (d := d.push n) ns legal.2 others rest

/-- Reading the tokens of legal sections and the end marker closes the block with the sections. -/
theorem readTokens_clauses {b : OpenBlock} {outer : List OpenBlock} (cs : List (Clause Node))
    {ts : List (Token × Span)}
    (legal : LegalClauses registry maxDepth b.enclosure (outer.length + 1) cs)
    (spelled : SpellsClauses cs ts) (follow : b.MayContinue cs) (nodes : List Node)
    (ignored : String) (last : Span) (rest : List (Token × Span)) :
    (Draft.mk (b :: outer) nodes).readTokens registry maxDepth template
        (ts ++ (.tag ("end" ++ b.name) ignored, last) :: rest) =
      (Draft.mk outer (b.closeWith nodes.reverse cs :: b.before)).readTokens registry maxDepth
        template rest := by
  match cs, spelled with
  | [], .nil =>
    rw [b.closeWith_nil]
    exact Draft.readTokens_cons (Draft.readToken_end b outer nodes ignored last) rest
  | ⟨name, markup, payload, body⟩ :: cs, .cons span bodySpelled others =>
    obtain ⟨divides, parsed, bodyLegal, othersLegal⟩ := legal
    have notFinal : ∀ last ∈ b.lastClause?, last ∉ b.handler.finalClauses :=
      fun last hl => follow.1 last hl (List.cons_ne_nil _ _)
    have opened : (Draft.mk (b :: outer) nodes).readToken registry maxDepth (.tag name markup)
        span = .ok ⟨b.divide nodes.reverse name markup payload :: outer, []⟩ := by
      rw [Draft.readToken_clause divides, Draft.openClause_of_parsed notFinal parsed]
    rw [List.cons_append, Draft.readTokens_cons opened, List.append_assoc,
      readTokens_all (d := ⟨b.divide nodes.reverse name markup payload :: outer, []⟩) body bodyLegal
        bodySpelled]
    refine (readTokens_clauses (b := b.divide nodes.reverse name markup payload) cs othersLegal
      others (follow.divide nodes.reverse markup payload) _ ignored last rest).trans ?_
    rw [b.closeWith_divide]
    simp [OpenBlock.divide]

end

end Forward

section Backward

variable {registry : Registry} {maxDepth : Nat} {template : String}

/-! ## From tokens to a forest -/

/-- The sections of a block are legal and stand for the tokens. -/
structure SectionsHold (registry : Registry) (maxDepth : Nat) (e : Enclosure) (depth : Nat)
    (body : List Node) (clauses : List (Clause Node)) (ts : List (Token × Span)) : Prop where
  bodyLegal : LegalAll registry maxDepth (some e) depth body
  clausesLegal : LegalClauses registry maxDepth e depth clauses
  final : clauses.Pairwise fun c _ => c.name ∉ e.handler.finalClauses
  spelled : ∃ us vs, ts = us ++ vs ∧ SpellsAll body us ∧ SpellsClauses clauses vs

/-- The tokens are those of a legal forest that is complete up to the open blocks. -/
def DraftHolds (registry : Registry) (maxDepth : Nat) :
    List OpenBlock → List Node → List (Token × Span) → Prop
  | [], nodes, ts => LegalAll registry maxDepth none 0 nodes.reverse ∧ SpellsAll nodes.reverse ts
  | b :: outer, nodes, ts =>
    ∃ us vs, ts = us ++ (.tag b.name b.markup, b.span) :: vs ∧
      DraftHolds registry maxDepth outer b.before us ∧
      Unclaimed (outer.head?.map OpenBlock.enclosure) b.name ∧ outer.length < maxDepth ∧
      Accepts registry .block b.name b.markup b.payload b.handler ∧
      (b.current = .body → b.clauses = []) ∧
      SectionsHold registry maxDepth b.enclosure (outer.length + 1)
        (b.closeSection nodes.reverse).body (b.closeSection nodes.reverse).clauses vs

theorem SectionsHold.empty (e : Enclosure) (depth : Nat) :
    SectionsHold registry maxDepth e depth [] [] [] where
  bodyLegal := trivial
  clausesLegal := trivial
  final := .nil
  spelled := ⟨[], [], rfl, .nil, .nil⟩

/-- A node behind the body of a block without clauses. -/
theorem SectionsHold.pushBody {e : Enclosure} {depth : Nat} {body : List Node}
    {ts us : List (Token × Span)} {n : Node}
    (h : SectionsHold registry maxDepth e depth body [] ts)
    (legal : n.Legal registry maxDepth (some e) depth) (spelled : Spells n us) :
    SectionsHold registry maxDepth e depth (body ++ [n]) [] (ts ++ us) := by
  obtain ⟨bodyLegal, clausesLegal, final, before, behind, rfl, bodySpelled, none⟩ := h
  cases none
  refine ⟨legalAll_append.2 ⟨bodyLegal, legal, trivial⟩, clausesLegal, final, before ++ us, [], ?_,
    bodySpelled.append (.single spelled), .nil⟩
  rw [List.append_nil, List.append_nil]

/-- A node behind the body of the last clause of a block. -/
theorem SectionsHold.pushClause {e : Enclosure} {depth : Nat} {body nodes : List Node}
    {cs : List (Clause Node)} {name markup : String} {payload : Payload}
    {ts us : List (Token × Span)} {n : Node}
    (h : SectionsHold registry maxDepth e depth body (cs ++ [⟨name, markup, payload, nodes⟩]) ts)
    (legal : n.Legal registry maxDepth (some e) depth) (spelled : Spells n us) :
    SectionsHold registry maxDepth e depth body (cs ++ [⟨name, markup, payload, nodes ++ [n]⟩])
      (ts ++ us) := by
  obtain ⟨bodyLegal, clausesLegal, final, before, behind, rfl, bodySpelled, spelledClauses⟩ := h
  obtain ⟨earlier, divides, parsed, nodesLegal, -⟩ := legalClauses_append.1 clausesLegal
  obtain ⟨first, last, span, rfl, firstSpelled, lastSpelled⟩ := spelledClauses.of_append_single
  refine ⟨bodyLegal, legalClauses_append.2 ⟨earlier, divides, parsed,
    legalAll_append.2 ⟨nodesLegal, legal, trivial⟩, trivial⟩, ?_, before,
    first ++ (.tag name markup, span) :: (last ++ us), by simp, bodySpelled, ?_⟩
  · rw [List.pairwise_append] at final ⊢
    simpa using final
  · have one : SpellsClauses [⟨name, markup, payload, nodes ++ [n]⟩]
        ((.tag name markup, span) :: ((last ++ us) ++ [])) :=
      .cons span (lastSpelled.append (.single spelled)) .nil
    rw [List.append_nil] at one
    exact firstSpelled.append one

/-- A clause behind sections none of which is final. -/
theorem SectionsHold.addClause {e : Enclosure} {depth : Nat} {body : List Node}
    {cs : List (Clause Node)} {name markup : String} {payload : Payload} {ts : List (Token × Span)}
    (h : SectionsHold registry maxDepth e depth body cs ts) (divides : e.Divides name)
    (parsed : e.handler.parseClause name markup = .ok payload)
    (notFinal : ∀ c ∈ cs, c.name ∉ e.handler.finalClauses) (span : Span) :
    SectionsHold registry maxDepth e depth body (cs ++ [⟨name, markup, payload, []⟩])
      (ts ++ [(.tag name markup, span)]) := by
  obtain ⟨bodyLegal, clausesLegal, final, before, behind, rfl, bodySpelled, spelledClauses⟩ := h
  refine ⟨bodyLegal, legalClauses_append.2 ⟨clausesLegal, divides, parsed, trivial, trivial⟩, ?_,
    before, behind ++ [(.tag name markup, span)], List.append_assoc _ _ _, bodySpelled,
    spelledClauses.append (.cons span .nil .nil)⟩
  rw [List.pairwise_append]
  refine ⟨final, List.pairwise_singleton _ _, ?_⟩
  intro c hc _ _
  exact notFinal c hc

/-- A legal node joins the section that is being read. -/
theorem DraftHolds.push {blocks : List OpenBlock} {nodes : List Node} {ts us : List (Token × Span)}
    {n : Node} (h : DraftHolds registry maxDepth blocks nodes ts)
    (legal : n.Legal registry maxDepth (blocks.head?.map OpenBlock.enclosure) blocks.length)
    (spelled : Spells n us) : DraftHolds registry maxDepth blocks (n :: nodes) (ts ++ us) := by
  cases blocks with
  | nil =>
    rw [DraftHolds, List.reverse_cons]
    exact ⟨legalAll_append.2 ⟨h.1, legal, trivial⟩, h.2.append (.single spelled)⟩
  | cons b outer =>
    obtain ⟨before, behind, rfl, outerHolds, free, room, accepts, first, sections⟩ := h
    refine ⟨before, behind ++ us, by simp, outerHolds, free, room, accepts, first, ?_⟩
    unfold OpenBlock.closeSection at sections ⊢
    rw [List.reverse_cons]
    cases current : b.current with
    | body =>
      simp only [current, first current] at sections ⊢
      exact sections.pushBody legal spelled
    | clause name markup payload =>
      simp only [current] at sections ⊢
      exact sections.pushClause legal spelled

/-- A block that is closed joins the section around it. -/
theorem DraftHolds.close {b : OpenBlock} {outer : List OpenBlock} {nodes : List Node}
    {ts : List (Token × Span)} (h : DraftHolds registry maxDepth (b :: outer) nodes ts)
    (ignored : String) (last : Span) :
    DraftHolds registry maxDepth outer ((b.closeSection nodes.reverse).toNode :: b.before)
      (ts ++ [(.tag ("end" ++ b.name) ignored, last)]) := by
  obtain ⟨before, behind, rfl, outerHolds, free, room, accepts, -, sections⟩ := h
  obtain ⟨bodyLegal, clausesLegal, final, us, vs, rfl, bodySpelled, clausesSpelled⟩ := sections
  have legal : (b.closeWith nodes.reverse []).Legal registry maxDepth
      (outer.head?.map OpenBlock.enclosure) outer.length :=
    ⟨free, room, b.handler, accepts, bodyLegal, by rwa [List.append_nil], by rwa [List.append_nil]⟩
  have spelled : Spells (b.closeWith nodes.reverse []) _ :=
    .block ignored last bodySpelled (by rwa [List.append_nil])
  rw [← b.closeWith_nil]
  simpa using outerHolds.push legal spelled

/-- A clause that the block knows opens a section, unless it follows a final one. -/
theorem DraftHolds.divide {b : OpenBlock} {outer : List OpenBlock} {nodes : List Node}
    {ts : List (Token × Span)} {name markup : String} {payload : Payload}
    (h : DraftHolds registry maxDepth (b :: outer) nodes ts) (divides : b.enclosure.Divides name)
    (notFinal : ∀ last ∈ b.lastClause?, last ∉ b.handler.finalClauses)
    (parsed : b.handler.parseClause name markup = .ok payload) (span : Span) :
    DraftHolds registry maxDepth (b.divide nodes.reverse name markup payload :: outer) []
      (ts ++ [(.tag name markup, span)]) := by
  obtain ⟨before, behind, rfl, outerHolds, free, room, accepts, first, sections⟩ := h
  have none : ∀ c ∈ (b.closeSection nodes.reverse).clauses, c.name ∉ b.handler.finalClauses := by
    have final := sections.final
    unfold OpenBlock.closeSection at final ⊢
    unfold OpenBlock.lastClause? at notFinal
    cases current : b.current with
    | body =>
      simp only [first current]
      simp
    | clause last lastMarkup lastPayload =>
      simp only [current] at final notFinal ⊢
      rw [List.pairwise_append] at final
      intro c hc
      rcases List.mem_append.1 hc with hc | hc
      · exact final.2.2 c hc _ (List.mem_singleton_self _)
      · obtain rfl := List.mem_singleton.1 hc
        exact notFinal last rfl
  exact ⟨before, behind ++ [(.tag name markup, span)], by simp [OpenBlock.divide], outerHolds, free,
    room, accepts, nofun, sections.addClause divides parsed none span⟩

/-- A tag that the registry decides on stands alone or opens a block. -/
theorem DraftHolds.openTag {d e : Draft} {ts : List (Token × Span)} {name markup : String}
    {span : Span} (h : DraftHolds registry maxDepth d.blocks d.nodes ts)
    (free : Unclaimed d.inside name)
    (read : d.openTag registry maxDepth name markup span = .ok e) :
    DraftHolds registry maxDepth e.blocks e.nodes (ts ++ [(.tag name markup, span)]) := by
  unfold Draft.openTag at read
  split at read
  · cases read
  · next k bound =>
    unfold Draft.openHandler at read
    split at read
    · next kind =>
      obtain ⟨payload, parsed, rest⟩ := bind_eq_ok.1 read
      cases rest
      exact h.push ⟨free, k, bound, kind, parsed⟩ (.tag name markup payload span)
    · next kind =>
      split at read
      · cases read
      · next room =>
        obtain ⟨payload, parsed, rest⟩ := bind_eq_ok.1 read
        cases rest
        exact ⟨ts, [], rfl, h, free, Nat.lt_of_not_le room, ⟨bound, kind, parsed⟩, fun _ => rfl,
          .empty _ _⟩

/-- What a draft holds after a tag, whoever claims it. -/
theorem DraftHolds.readTag {d e : Draft} {ts : List (Token × Span)} {name markup : String}
    {span : Span} (h : DraftHolds registry maxDepth d.blocks d.nodes ts)
    (read : d.readTag registry maxDepth name markup span = .ok e) :
    DraftHolds registry maxDepth e.blocks e.nodes (ts ++ [(.tag name markup, span)]) := by
  rcases d.readTag_cases name markup span with
    ⟨b, outer, innermost, isEnd, same⟩ | ⟨b, outer, innermost, divides, same⟩ | ⟨free, same⟩
  · rw [same] at read
    cases read
    rw [innermost] at h
    rw [isEnd]
    exact h.close markup span
  · rw [same] at read
    rw [innermost] at h
    unfold Draft.openClause at read
    split at read
    · cases read
    · next final =>
      obtain ⟨payload, parsed, rest⟩ := bind_eq_ok.1 read
      cases rest
      rw [Option.filter_eq_none_iff] at final
      rw [OpenBlock.divide_eq]
      exact h.divide divides (by simpa using final) parsed span
  · rw [same] at read
    exact h.openTag free read

/-- What a draft holds after a token is what it held before and the token. -/
theorem DraftHolds.readToken {d e : Draft} {ts : List (Token × Span)} {token : Token} {span : Span}
    (h : DraftHolds registry maxDepth d.blocks d.nodes ts)
    (read : d.readToken registry maxDepth token span = .ok e) :
    DraftHolds registry maxDepth e.blocks e.nodes (ts ++ [(token, span)]) := by
  cases token with
  | text s =>
    cases read
    exact h.push trivial (.text s span)
  | «variable» markup =>
    obtain ⟨v, parsed, rest⟩ := bind_eq_ok.1 read
    cases rest
    exact h.push trivial (.variable span parsed)
  | tag name markup => exact h.readTag read

/-- What a draft holds after tokens is what it held before and the tokens. -/
theorem DraftHolds.readTokens {d e : Draft} {ts us : List (Token × Span)}
    (h : DraftHolds registry maxDepth d.blocks d.nodes ts)
    (read : d.readTokens registry maxDepth template us = .ok e) :
    DraftHolds registry maxDepth e.blocks e.nodes (ts ++ us) := by
  induction us generalizing d ts with
  | nil =>
    cases read
    rwa [List.append_nil]
  | cons t us ih =>
    obtain ⟨token, span⟩ := t
    unfold Draft.readTokens at read
    split at read
    · cases read
    · next first =>
      have := ih (h.readToken first) read
      rwa [List.append_assoc] at this

end Backward

/-! ## Both directions -/

/-- Tokens stand for at most one legal forest. -/
theorem legal_forest_unique {registry : Registry} {maxDepth : Nat} {ns ms : List Node}
    {ts : List (Token × Span)} (nsLegal : LegalAll registry maxDepth none 0 ns)
    (msLegal : LegalAll registry maxDepth none 0 ms) (nsSpelled : SpellsAll ns ts)
    (msSpelled : SpellsAll ms ts) : ns = ms := by
  have same : (Draft.empty.extend ns).readTokens registry maxDepth "" [] =
      (Draft.empty.extend ms).readTokens registry maxDepth "" [] := by
    rw [← readTokens_all (d := Draft.empty) ns nsLegal nsSpelled,
      ← readTokens_all (d := Draft.empty) ms msLegal msSpelled]
  simpa [Draft.readTokens, Draft.extend, Draft.empty] using same

/-- A document is read into a forest exactly if scanning it meets no error and the forest is a legal
one that stands for its tokens. -/
theorem readNodes_eq_ok_iff (registry : Registry) (maxDepth : Nat) (name source : String)
    (nodes : List Node) :
    Template.readNodes registry maxDepth name source = .ok nodes ↔
      (Token.scan source).failure = none ∧ LegalAll registry maxDepth none 0 nodes ∧
        SpellsAll nodes (Token.scan source).tokens := by
  unfold Template.readNodes
  constructor
  · intro read
    obtain ⟨d, tokens, rest⟩ := bind_eq_ok.1 read
    have start : DraftHolds registry maxDepth Draft.empty.blocks Draft.empty.nodes [] :=
      ⟨trivial, .nil⟩
    have holds := start.readTokens tokens
    split at rest
    · cases rest
    · next clean =>
      obtain ⟨blocks, ns⟩ := d
      cases blocks with
      | nil =>
        cases rest
        exact ⟨by simpa [Scan.error?] using clean, holds⟩
      | cons b outer => cases rest
  · rintro ⟨clean, legal, spelled⟩
    have read : Draft.empty.readTokens registry maxDepth name (Token.scan source).tokens =
        (Draft.empty.extend nodes).readTokens registry maxDepth name [] := by
      rw [← readTokens_all (d := Draft.empty) nodes legal spelled, List.append_nil]
    refine bind_eq_ok.2 ⟨_, read.trans rfl, ?_⟩
    simp [Scan.error?, clean, Draft.extend, Draft.empty, Draft.finish]

end Stencil
