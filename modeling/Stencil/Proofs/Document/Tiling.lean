import Stencil.Document.Token
import Stencil.Proofs.Markup.Lexeme

/-!
# Tokens tile the document

The tokens of a document stand, in order and without gaps, for segments of it from its beginning on
(`Token.scan_tiles`).  What a token stands for is said by `Token.Covers` with the document around
the segment in view, since a text ends in front of the first delimiter and a variable or tag at the
first one that closes it.  Spans are compared with places counted in the whole document.
-/

namespace Stencil

/-! ## First occurrences -/

namespace Text

/-- The text is cut in two at the first occurrence of a needle. -/
structure FirstCut (needle s before rest : List Char) : Prop where
  parts : s = before ++ needle ++ rest
  first : ∀ b r, s = b ++ needle ++ r → before.length ≤ b.length

theorem dropStart?_eq_none {start s : List Char} (h : dropStart? start s = none)
    (rest : List Char) : s ≠ start ++ rest := by
  rintro rfl
  rw [dropStart?_append] at h
  cases h

theorem firstCut_of_cut? {needle s before rest : List Char}
    (h : cut? needle s = some (before, rest)) : FirstCut needle s before rest := by
  refine ⟨cut?_eq_some h, ?_⟩
  induction s generalizing before with
  | nil =>
    intro b r _
    have := congrArg List.length (cut?_eq_some h)
    simp only [List.length_nil, List.length_append] at this
    omega
  | cons c s ih =>
    intro b r same
    unfold cut? at h
    split at h
    · cases h
      exact Nat.zero_le _
    next elsewhere =>
      simp only [Option.map_eq_some_iff, Prod.mk.injEq] at h
      obtain ⟨⟨before', rest'⟩, h, rfl, rfl⟩ := h
      cases b with
      | nil => exact absurd same (dropStart?_eq_none elsewhere r)
      | cons d b =>
        obtain ⟨-, same⟩ := List.cons.inj same
        exact Nat.succ_le_succ (ih h b r same)

theorem not_infix_of_cut? {needle s : List Char} (h : cut? needle s = none) :
    ¬ needle <:+: s := by
  rintro ⟨b, r, same⟩
  induction s generalizing b with
  | nil =>
    have : needle = [] := by simp_all
    simp [cut?, this] at h
  | cons c s ih =>
    unfold cut? at h
    split at h
    · cases h
    next elsewhere =>
      rw [Option.map_eq_none_iff] at h
      cases b with
      | nil => exact dropStart?_eq_none elsewhere r same.symm
      | cons d b => exact ih h b (List.cons.inj same).2

end Text

/-! ## Places -/

/-- The place behind a text that stands at the beginning of a document: lines are counted from 1,
characters since the last line feed. -/
def Position.behind (s : List Char) : Position :=
  ⟨1 + s.count '\n', (s.reverse.takeWhile (· != '\n')).length⟩

theorem Position.advance_start (s : List Char) : start.advance s = behind s := by
  induction s using List.reverseRecOn with
  | nil => rfl
  | append_singleton s c ih =>
    rw [advance_append, ih, advance_cons, advance_nil, next, behind, behind]
    split
    · simp_all
      omega
    · simp_all

/-! ## What a token stands for -/

namespace Token

/-- One of the two opening delimiters comes next. -/
def Opens (s : List Char) : Prop := variableOpen <+: s ∨ tagOpen <+: s

/-- A segment without an opening delimiter that goes up to the first one, or to the end of the
document. -/
structure Plain (segment after : List Char) : Prop where
  pure : ¬ variableOpen <:+: segment ∧ ¬ tagOpen <:+: segment
  ends : after = [] ∨ Opens after
  first : ∀ b r, segment ++ after = b ++ r → Opens r → segment.length ≤ b.length

/-- The token stands for the segment, which comes before `after` in the document. -/
def Covers (segment after : List Char) : Token → Prop
  | .text s => segment = s.toList ∧ Plain segment after
  | .variable markup => ∃ body, segment = variableOpen ++ body ++ variableClose ∧
    Text.FirstCut variableClose (body ++ variableClose ++ after) body after ∧
    Text.Trims Text.isMarkupBlank body markup.toList
  | .tag name markup => ∃ inner rest, segment = tagOpen ++ inner ++ tagClose ∧
    Text.FirstCut tagClose (inner ++ tagClose ++ after) inner after ∧
    Lexeme.LeadingName inner name.toList rest ∧
    Text.Trims Text.isMarkupBlank rest markup.toList

/-- What is left of a document where scanning stops, and why it stops there: at the end, or in front
of a delimiter that is not closed or a tag without a name. -/
inductive Stops : List Char → Option Cause → Prop
  | atEnd : Stops [] none
  | openVariable {s : List Char} (unclosed : ¬ variableClose <:+: s) :
    Stops (variableOpen ++ s) (some .unclosedVariable)
  | openTag {s : List Char} (unclosed : ¬ tagClose <:+: s) :
    Stops (tagOpen ++ s) (some .unclosedTag)
  | nameless {inner after : List Char}
      (closed : Text.FirstCut tagClose (inner ++ tagClose ++ after) inner after)
      (nameless : ∀ name rest, ¬ Lexeme.LeadingName inner name rest) :
    Stops (tagOpen ++ inner ++ tagClose ++ after) (some .unnamedTag)

/-- A construct that a document cannot go on with, and what comes behind it: a delimiter that is not
closed, with everything up to the end of the document, or a tag without a name. -/
inductive Broken : List Char → List Char → Cause → Prop
  | openVariable {s : List Char} (unclosed : ¬ variableClose <:+: s) :
    Broken (variableOpen ++ s) [] .unclosedVariable
  | openTag {s : List Char} (unclosed : ¬ tagClose <:+: s) : Broken (tagOpen ++ s) [] .unclosedTag
  | nameless {inner after : List Char}
      (closed : Text.FirstCut tagClose (inner ++ tagClose ++ after) inner after)
      (nameless : ∀ name rest, ¬ Lexeme.LeadingName inner name rest) :
    Broken (tagOpen ++ inner ++ tagClose) after .unnamedTag

/-- The line that is told for a broken construct behind a text: the one that it begins on, but for a
tag without a name the one that it ends on. -/
def toldLine (before construct : List Char) (cause : Cause) : Nat :=
  if cause = .unnamedTag then (Position.behind (before ++ construct)).line
  else (Position.behind before).line

/-! ## Plain text -/

theorem Plain.of_first {segment after : List Char} (ends : after = [] ∨ Opens after)
    (first : ∀ b r, segment ++ after = b ++ r → Opens r → segment.length ≤ b.length) :
    Plain segment after := by
  -- A delimiter inside of the segment would open before the segment ends.
  have short : ∀ needle b r, b ++ needle ++ r = segment → Opens (needle ++ r ++ after) →
      needle = [] := by
    rintro needle b r rfl opens
    have := first b (needle ++ r ++ after) (by simp) opens
    simp only [List.length_append] at this
    exact List.length_eq_zero_iff.mp (by omega)
  refine ⟨⟨?_, ?_⟩, ends, first⟩
  · rintro ⟨b, r, parts⟩
    exact absurd (short _ b r parts (Or.inl ⟨_, (List.append_assoc ..).symm⟩)) (by decide)
  · rintro ⟨b, r, parts⟩
    exact absurd (short _ b r parts (Or.inr ⟨_, (List.append_assoc ..).symm⟩)) (by decide)

theorem plainText_ends (s : List Char) : (plainText s).2 = [] ∨ Opens (plainText s).2 := by
  fun_induction plainText s with
  | case1 => exact Or.inl rfl
  | case2 s => exact Or.inr (Or.inl ⟨s, rfl⟩)
  | case3 s => exact Or.inr (Or.inr ⟨s, rfl⟩)
  | case4 c s _ _ lead rest split ih => simpa [split] using ih

theorem plainText_first (s : List Char) (b r : List Char) (parts : s = b ++ r) (opens : Opens r) :
    (plainText s).1.length ≤ b.length := by
  fun_induction plainText s generalizing b with
  | case1 | case2 | case3 => exact Nat.zero_le _
  | case4 c s noVariable noTag lead rest split ih =>
    cases b with
    | nil =>
      rcases opens with ⟨more, rfl⟩ | ⟨more, rfl⟩
      · obtain ⟨first, second⟩ := List.cons.inj parts
        exact (noVariable more first second).elim
      · obtain ⟨first, second⟩ := List.cons.inj parts
        exact (noTag more first second).elim
    | cons d b =>
      have := ih b (List.cons.inj parts).2
      rw [split] at this
      exact Nat.succ_le_succ this

/-! ## Scanning -/

/-- Tokens that stand for segments, which come one after the other behind `before`. -/
inductive Laid : List Char → List (Token × Span) → List (List Char) → List Char → Prop
  | nil {before rest : List Char} : Laid before [] [] rest
  | cons {before segment rest : List Char} {token : Token} {tokens : List (Token × Span)}
      {segments : List (List Char)} (covers : token.Covers segment (segments.flatten ++ rest))
      (others : Laid (before ++ segment) tokens segments rest) :
    Laid before ((token, ⟨.behind before, .behind (before ++ segment)⟩) :: tokens)
      (segment :: segments) rest

/-- A text is scanned to tokens that stand for its segments up to where scanning stops. -/
structure Scanned (before source : List Char) (scan : Scan) (segments : List (List Char))
    (rest : List Char) : Prop where
  whole : source = segments.flatten ++ rest
  laid : Laid before scan.tokens segments rest
  nonempty : ∀ segment ∈ segments, segment ≠ []
  stops : Stops rest (scan.failure.map Prod.fst)
  broken : ∀ cause line, scan.failure = some (cause, line) → ∃ construct after,
    rest = construct ++ after ∧ Broken construct after cause ∧
      line = toldLine (before ++ segments.flatten) construct cause

theorem Scanned.cons {before segment source rest : List Char} {token : Token} {scan : Scan}
    {segments : List (List Char)} (covers : token.Covers segment source) (some : segment ≠ [])
    (others : Scanned (before ++ segment) source scan segments rest) :
    Scanned before (segment ++ source)
      (scan.cons token ⟨.behind before, .behind (before ++ segment)⟩) (segment :: segments)
      rest where
  whole := by rw [List.flatten_cons, List.append_assoc, ← others.whole]
  laid := .cons (others.whole ▸ covers) others.laid
  nonempty := List.forall_mem_cons.mpr ⟨some, others.nonempty⟩
  stops := others.stops
  broken cause line failed := by
    rw [List.flatten_cons, ← List.append_assoc]
    exact others.broken cause line failed

theorem Scanned.finished (before : List Char) : Scanned before [] Scan.finished [] [] where
  whole := rfl
  laid := .nil
  nonempty := List.forall_mem_nil _
  stops := .atEnd
  broken := by
    rintro cause line ⟨⟩

theorem Broken.stops {construct after : List Char} {cause : Cause}
    (broken : Broken construct after cause) : Stops (construct ++ after) (some cause) := by
  cases broken with
  | openVariable unclosed =>
    rw [List.append_nil]
    exact .openVariable unclosed
  | openTag unclosed =>
    rw [List.append_nil]
    exact .openTag unclosed
  | nameless closed nameless => exact .nameless closed nameless

theorem Scanned.stopped (before : List Char) {construct after : List Char} {cause : Cause}
    (broken : Broken construct after cause) :
    Scanned before (construct ++ after) (Scan.stopped cause (toldLine before construct cause)) []
      (construct ++ after) where
  whole := rfl
  laid := .nil
  nonempty := List.forall_mem_nil _
  stops := broken.stops
  broken := by
    rintro _ _ ⟨⟩
    exact ⟨construct, after, rfl, broken, by rw [List.flatten_nil, List.append_nil]⟩

theorem advance_behind (before segment : List Char) :
    (Position.behind before).advance segment = .behind (before ++ segment) := by
  rw [← Position.advance_start, ← Position.advance_start, Position.advance_append]

theorem covers_variable {s body rest : List Char}
    (closed : Text.cut? variableClose s = some (body, rest)) :
    variableOpen ++ s = variableOpen ++ body ++ variableClose ++ rest ∧
      Covers (variableOpen ++ body ++ variableClose) rest
        (.variable (String.ofList (Lexeme.trimBlanks body))) := by
  have cut := Text.firstCut_of_cut? closed
  obtain rfl := cut.parts
  refine ⟨by simp only [List.append_assoc], body, rfl, cut, ?_⟩
  rw [String.toList_ofList]
  exact Text.trims_trim _ body

theorem covers_tag {s inner markup rest : List Char} {name : String}
    (closed : Text.cut? tagClose s = some (inner, rest))
    (named : Lexeme.name? inner = some (name, markup)) :
    tagOpen ++ s = tagOpen ++ inner ++ tagClose ++ rest ∧
      Covers (tagOpen ++ inner ++ tagClose) rest
        (.tag name (String.ofList (Lexeme.trimBlanks markup))) := by
  have cut := Text.firstCut_of_cut? closed
  obtain rfl := cut.parts
  refine ⟨by simp only [List.append_assoc], inner, markup, rfl, cut,
    (Lexeme.name?_eq_some_iff inner name markup).mp named, ?_⟩
  rw [String.toList_ofList]
  exact Text.trims_trim _ markup

theorem covers_text {c : Char} {s : List Char} (notHere : ¬ Opens (c :: s)) :
    Covers (c :: (plainText s).1) (plainText s).2
      (.text (String.ofList (c :: (plainText s).1))) := by
  refine ⟨String.toList_ofList.symm, .of_first (plainText_ends s) fun b r parts opens => ?_⟩
  rw [List.cons_append, plainText_append] at parts
  cases b with
  | nil => exact absurd (parts ▸ opens) notHere
  | cons d b => exact Nat.succ_le_succ (plainText_first s b r (List.cons.inj parts).2 opens)

theorem broken_nameless {s inner rest : List Char}
    (closed : Text.cut? tagClose s = some (inner, rest)) (unnamed : Lexeme.name? inner = none) :
    tagOpen ++ s = tagOpen ++ inner ++ tagClose ++ rest ∧
      Broken (tagOpen ++ inner ++ tagClose) rest .unnamedTag := by
  have cut := Text.firstCut_of_cut? closed
  obtain rfl := cut.parts
  exact ⟨by simp only [List.append_assoc],
    .nameless cut ((Lexeme.name?_eq_none_iff inner).mp unnamed)⟩

/-- A token and then the tokens of what is left. -/
theorem Scanned.exists_cons {before segment source : List Char} {token : Token} {p : Position}
    (place : .behind before = p) (covers : token.Covers segment source) (some : segment ≠ [])
    (others : ∀ before', .behind before' = p.advance segment →
      ∃ segments rest, Scanned before' source (scanFrom (p.advance segment) source) segments rest) :
    ∃ segments rest, Scanned before (segment ++ source)
      ((scanFrom (p.advance segment) source).cons token ⟨p, p.advance segment⟩) segments rest := by
  subst place
  rw [advance_behind] at others ⊢
  obtain ⟨segments, rest, scanned⟩ := others _ rfl
  exact ⟨_, rest, scanned.cons covers some⟩

theorem scanFrom_scanned (before source : List Char) (p : Position)
    (place : .behind before = p) :
    ∃ segments rest, Scanned before source (scanFrom p source) segments rest := by
  -- What was scanned already only matters for the places, so it is generalised.
  fun_induction scanFrom p source generalizing before with
  | case1 p => exact ⟨[], [], .finished before⟩
  | case2 p s unclosed =>
    have scanned := Scanned.stopped before (.openVariable (Text.not_infix_of_cut? unclosed))
    rw [List.append_nil, toldLine, if_neg (by decide), place] at scanned
    exact ⟨[], _, scanned⟩
  | case3 p s body rest closed _ stop ih =>
    obtain ⟨parts, covers⟩ := covers_variable closed
    have scanned := Scanned.exists_cons place covers (List.cons_ne_nil _ _) ih
    rwa [← parts] at scanned
  | case4 p s unclosed =>
    have scanned := Scanned.stopped before (.openTag (Text.not_infix_of_cut? unclosed))
    rw [List.append_nil, toldLine, if_neg (by decide), place] at scanned
    exact ⟨[], _, scanned⟩
  | case5 p s inner rest closed _ stop unnamed =>
    obtain ⟨parts, broken⟩ := broken_nameless closed unnamed
    have scanned := Scanned.stopped before broken
    rw [← parts, toldLine, if_pos rfl, ← advance_behind, place] at scanned
    exact ⟨[], _, scanned⟩
  | case6 p s inner rest closed _ stop name markup named ih =>
    obtain ⟨parts, covers⟩ := covers_tag closed named
    have scanned := Scanned.exists_cons place covers (List.cons_ne_nil _ _) ih
    rwa [← parts] at scanned
  | case7 p c s noVariable noTag _ lead stop ih =>
    have notHere : ¬ Opens (c :: s) := by
      rintro (⟨more, parts⟩ | ⟨more, parts⟩)
      · obtain ⟨rfl, rfl⟩ := List.cons.inj parts
        exact noVariable more rfl rfl
      · obtain ⟨rfl, rfl⟩ := List.cons.inj parts
        exact noTag more rfl rfl
    have scanned := Scanned.exists_cons place (covers_text notHere) (List.cons_ne_nil _ _) ih
    rwa [List.cons_append, plainText_append] at scanned

/-! ## Tokens by number -/

theorem Laid.length {before rest : List Char} {tokens : List (Token × Span)}
    {segments : List (List Char)} (laid : Laid before tokens segments rest) :
    tokens.length = segments.length := by
  induction laid with
  | nil => rfl
  | cons _ _ ih => rw [List.length_cons, List.length_cons, ih]

theorem Laid.get {before rest : List Char} {tokens : List (Token × Span)}
    {segments : List (List Char)} (laid : Laid before tokens segments rest) {i : Nat}
    {token : Token} {span : Span} (here : tokens[i]? = some (token, span)) :
    (∃ segment, segments[i]? = some segment ∧
      token.Covers segment ((segments.drop (i + 1)).flatten ++ rest)) ∧
      span = ⟨.behind (before ++ (segments.take i).flatten),
        .behind (before ++ (segments.take (i + 1)).flatten)⟩ := by
  induction laid generalizing i with
  | nil => cases here
  | @cons before segment _ _ _ _ covers _ ih =>
    cases i with
    | zero =>
      cases here
      exact ⟨⟨segment, rfl, covers⟩, by simp⟩
    | succ i =>
      obtain ⟨covered, rfl⟩ := ih here
      exact ⟨covered, by simp⟩

/-- Tokens in two parts stand for segments in two parts. -/
theorem Laid.split {before rest : List Char} {ts us : List (Token × Span)}
    {segments : List (List Char)} (laid : Laid before (ts ++ us) segments rest) :
    ∃ first others, segments = first ++ others ∧ Laid before ts first (others.flatten ++ rest) ∧
      Laid (before ++ first.flatten) us others rest := by
  induction ts generalizing before segments with
  | nil => exact ⟨[], segments, rfl, .nil, by rwa [List.flatten_nil, List.append_nil]⟩
  | cons t ts ih =>
    cases laid with
    | @cons _ segment _ token _ _ covers others =>
      obtain ⟨first, second, rfl, firstLaid, secondLaid⟩ := ih others
      rw [List.flatten_append, List.append_assoc] at covers
      refine ⟨segment :: first, second, rfl, .cons covers firstLaid, ?_⟩
      rwa [List.flatten_cons, ← List.append_assoc]

end Token

/-- What scanning yields: the tokens and, if it stops before the end, an error. -/
def Scan.items (s : Scan) : List (Except (Cause × Nat) (Token × Span)) :=
  s.tokens.map Except.ok ++ (s.failure.map Except.error).toList

/-- What is yielded in terms of the document: its segments and what is left behind them. -/
structure Scan.Tiles (scan : Scan) (source : List Char) (segments : List (List Char))
    (rest : List Char) : Prop where
  whole : source = segments.flatten ++ rest
  count : scan.tokens.length = segments.length
  covers : ∀ i (token : Token) (span : Span), scan.tokens[i]? = some (token, span) → ∃ segment,
    segments[i]? = some segment ∧ token.Covers segment ((segments.drop (i + 1)).flatten ++ rest)
  spans : ∀ i (token : Token) (span : Span), scan.tokens[i]? = some (token, span) →
    span = ⟨.behind (segments.take i).flatten, .behind (segments.take (i + 1)).flatten⟩
  touch : ∀ i (t u : Token × Span), scan.tokens[i]? = some t → scan.tokens[i + 1]? = some u →
    t.2.stop = u.2.start
  nonempty : source ≠ [] → ∀ segment ∈ segments, segment ≠ []
  empty : source = [] → segments = [[]]
  /-- Without an error nothing is left. -/
  finished : scan.failure = none → source = segments.flatten
  /-- An error comes last, so there is no other. -/
  once : ∀ i failure, scan.items[i]? = some (.error failure) → i + 1 = scan.items.length
  stops : Token.Stops rest (scan.failure.map Prod.fst)

namespace Token

theorem Stops.eq_nil {rest : List Char} (stops : Stops rest none) : rest = [] := by
  cases stops
  rfl

theorem items_error {scan : Scan} {i : Nat} {failure : Cause × Nat}
    (here : scan.items[i]? = some (.error failure)) : i + 1 = scan.items.length := by
  rw [Scan.items, List.getElem?_append] at here
  rw [Scan.items, List.length_append]
  split at here
  · simp at here
  next notToken =>
    cases failed : scan.failure with
    | none => simp [failed] at here
    | some f =>
      rw [failed, Option.map_some, Option.toList_some] at here
      have last := (List.getElem?_eq_some_iff.mp here).1
      simp only [Option.map_some, Option.toList_some, List.length_singleton] at last ⊢
      omega

theorem tiles_of_laid {source rest : List Char} {scan : Scan} {segments : List (List Char)}
    (whole : source = segments.flatten ++ rest) (laid : Laid [] scan.tokens segments rest)
    (nonempty : source ≠ [] → ∀ segment ∈ segments, segment ≠ [])
    (empty : source = [] → segments = [[]])
    (stops : Stops rest (scan.failure.map Prod.fst)) : scan.Tiles source segments rest where
  whole := whole
  count := laid.length
  covers i token span here := (laid.get here).1
  spans i token span here := (laid.get here).2
  touch := by
    rintro i ⟨t, _⟩ ⟨u, _⟩ here next
    obtain ⟨-, rfl⟩ := laid.get here
    obtain ⟨-, rfl⟩ := laid.get next
    rfl
  nonempty := nonempty
  empty := empty
  finished none := by
    rw [none] at stops
    rw [whole, stops.eq_nil, List.append_nil]
  once i failure := items_error
  stops := stops

/-- The segments that the tokens of a document stand for, and what scanning says where it stops. -/
theorem scan_laid (source : String) : ∃ segments rest, source.toList = segments.flatten ++ rest ∧
    Laid [] (scan source).tokens segments rest ∧ ((scan source).failure = none → rest = []) ∧
      ∀ cause line, (scan source).failure = some (cause, line) → ∃ construct after,
        rest = construct ++ after ∧ Broken construct after cause ∧
          line = toldLine segments.flatten construct cause := by
  by_cases nothing : source.isEmpty = true
  · obtain rfl := String.isEmpty_iff.mp nothing
    have plain : Covers [] [] (.text "") :=
      ⟨rfl, .of_first (Or.inl rfl) fun _ _ _ _ => Nat.zero_le _⟩
    exact ⟨[[]], [], rfl, .cons plain .nil, fun _ => rfl, by rintro cause line ⟨⟩⟩
  · obtain ⟨segments, rest, scanned⟩ := scanFrom_scanned [] source.toList .start rfl
    rw [scan, if_neg nothing]
    refine ⟨segments, rest, scanned.whole, scanned.laid, fun none => ?_, scanned.broken⟩
    have stops := scanned.stops
    rw [none] at stops
    exact stops.eq_nil

/-- The tokens of a document are its segments, one after the other. -/
theorem scan_tiles (source : String) :
    ∃ segments rest, (scan source).Tiles source.toList segments rest := by
  by_cases nothing : source.isEmpty = true
  · obtain rfl := String.isEmpty_iff.mp nothing
    refine ⟨[[]], [], tiles_of_laid rfl ?_ (absurd rfl) (fun _ => rfl) .atEnd⟩
    have plain : Covers [] [] (.text "") :=
      ⟨rfl, .of_first (Or.inl rfl) fun _ _ _ _ => Nat.zero_le _⟩
    exact .cons plain .nil
  · obtain ⟨segments, rest, scanned⟩ := scanFrom_scanned [] source.toList .start rfl
    have some : source.toList ≠ [] := fun none =>
      nothing (String.isEmpty_iff.mpr (String.toList_eq_nil_iff.mp none))
    refine ⟨segments, rest, ?_⟩
    rw [scan, if_neg nothing]
    exact tiles_of_laid scanned.whole scanned.laid (fun _ => scanned.nonempty)
      (fun none => absurd none some) scanned.stops

example : (scan "a\x7b\x7b\x7b b \x7d\x7d\x7b%\x7d").tokens.map Prod.fst =
    [.text "a", .variable "\x7b b"] := by
  decide +kernel

end Token

end Stencil
