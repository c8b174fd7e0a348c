import Stencil.Filter.Builtin

/-!
# Splitting and joining

A text that is split at a separator is given back by joining the pieces with it, whatever the text
and the separator are: also at the ends, between neighbouring separators, and where occurrences
overlap (`Text.Cuts.intercalate_eq`).  The single space is no such separator, since it stands for
any run of blanks; what joining and splitting again gives back is then the words
(`Text.words_intercalate`).
-/

namespace Stencil

namespace Text

/-! ## Cutting a text at a separator -/

/-- The pieces of a text that is cut at the first occurrence of a separator, and behind it as long
as there is one. -/
inductive Cuts (sep : List Char) : List Char → List (List Char) → Prop where
  | last {s : List Char} (none : ¬ sep <:+: s) : Cuts sep s [s]
  /-- The separator occurs behind the piece, and it begins nowhere in the piece. -/
  | next {piece rest : List Char} {pieces : List (List Char)}
      (first : ¬ sep <:+: piece ++ sep.dropLast) (more : Cuts sep rest pieces) :
      Cuts sep (piece ++ sep ++ rest) (piece :: pieces)

section Separator

variable {sep : List Char}

theorem Cuts.ne_nil {s : List Char} {pieces : List (List Char)} (cuts : Cuts sep s pieces) :
    pieces ≠ [] := by
  cases cuts <;> exact List.cons_ne_nil _ _

/-- The pieces with the separator between them are the text. -/
theorem Cuts.intercalate_eq {s : List Char} {pieces : List (List Char)}
    (cuts : Cuts sep s pieces) : intercalate sep pieces = s := by
  induction cuts with
  | last => rfl
  | next first more ih => rw [intercalate_cons _ _ more.ne_nil, ih]

/-- A character at which no separator begins belongs to the first piece. -/
theorem Cuts.cons {c : Char} {s : List Char} {pieces : List (List Char)}
    (cuts : Cuts sep s pieces) (other : ¬ sep <+: c :: s) :
    Cuts sep (c :: s) (consPiece c pieces) := by
  cases cuts with
  | last none =>
    refine .last fun occurs => ?_
    rcases List.infix_cons_iff.1 occurs with starts | occurs
    · exact other starts
    · exact none occurs
  | @next piece rest pieces first more =>
    refine @Cuts.next sep (c :: piece) rest pieces (fun occurs => ?_) more
    rcases List.infix_cons_iff.1 occurs with starts | occurs
    · -- What the separator would begin with is also the beginning of the text.
      have ahead : piece ++ sep.dropLast <+: piece ++ sep ++ rest := by
        rw [List.append_assoc, List.prefix_append_right_inj]
        exact (List.dropLast_prefix sep).trans (List.prefix_append sep rest)
      exact other (starts.trans (List.cons_prefix_cons.2 ⟨rfl, ahead⟩))
    · exact first occurs

theorem not_infix_dropLast (nonempty : sep ≠ []) : ¬ sep <:+: sep.dropLast := by
  intro occurs
  have shorter := occurs.length_le
  have longer : 0 < sep.length := List.length_pos_iff.2 nonempty
  rw [List.length_dropLast] at shorter
  omega

theorem cuts_splitFrom (nonempty : sep ≠ []) (skip : Nat) (s : List Char) :
    Cuts sep (s.drop skip) (splitFrom sep skip s) := by
  fun_induction splitFrom sep skip s with
  | case1 skip =>
    rw [List.drop_nil]
    exact .last fun occurs => nonempty (List.infix_nil.1 occurs)
  | case2 skip c s ih => exact ih
  | case3 c s starts ih =>
    obtain ⟨rest, whole⟩ := List.isPrefixOf_iff_prefix.1 starts
    have behind : s.drop (sep.length - 1) = rest := by
      have dropped := congrArg (List.drop sep.length) whole
      rw [List.drop_left] at dropped
      have positive : 0 < sep.length := List.length_pos_iff.2 nonempty
      rw [dropped, ← List.drop_succ_cons (a := c), Nat.sub_add_cancel positive]
    rw [List.drop_zero, ← whole]
    rw [behind] at ih
    exact @Cuts.next sep [] rest _ (not_infix_dropLast nonempty) ih
  | case4 c s other ih =>
    exact ih.cons fun starts => other (List.isPrefixOf_iff_prefix.2 starts)

/-- Splitting cuts a text at a separator that is not empty. -/
theorem cuts_splitOn (nonempty : sep ≠ []) (s : List Char) : Cuts sep s (splitOn sep s) :=
  cuts_splitFrom nonempty 0 s

end Separator

theorem intercalate_nil (pieces : List (List Char)) : intercalate [] pieces = pieces.flatten := by
  induction pieces with
  | nil => rfl
  | cons w ws ih =>
    cases ws with
    | nil => exact (List.append_nil w).symm
    | cons v vs =>
      rw [intercalate_cons _ _ (List.cons_ne_nil v vs), ih, List.append_nil]
      rfl

/-! ## Words -/

section Words

variable {p : Char → Bool}

/-- A character that is not blank begins a word, which is longer if no blank follows. -/
theorem words_of_not_blank {c : Char} (solid : p c = false) (s : List Char) :
    words p (c :: s) =
      if s.head?.all p then [c] :: words p s else consPiece c (words p s) := by
  cases s with
  | nil => simp [words, solid]
  | cons d s =>
    rw [words, if_neg (by rw [solid]; exact Bool.false_ne_true)]
    rfl

/-- A word is not empty and has no blanks. -/
theorem solid_of_mem_words {s w : List Char} (mem : w ∈ words p s) :
    w ≠ [] ∧ ∀ c ∈ w, p c = false := by
  induction s generalizing w with
  | nil => cases mem
  | cons c s ih =>
    cases blank : p c with
    | true =>
      rw [words_of_blank blank] at mem
      exact ih mem
    | false =>
      have single : [c] ≠ [] ∧ ∀ d ∈ [c], p d = false :=
        ⟨List.cons_ne_nil c [], fun d hd => List.mem_singleton.1 hd ▸ blank⟩
      rw [words_of_not_blank blank] at mem
      split at mem
      · rcases List.mem_cons.1 mem with rfl | mem
        · exact single
        · exact ih mem
      · cases others : words p s with
        | nil =>
          rw [others] at mem
          rw [List.mem_singleton.1 mem]
          exact single
        | cons v vs =>
          rw [others] at mem ih
          rcases List.mem_cons.1 mem with rfl | mem
          · have solid := (ih (List.mem_cons_self ..)).2
            exact ⟨List.cons_ne_nil c v, List.forall_mem_cons.2 ⟨blank, solid⟩⟩
          · exact ih (List.mem_cons_of_mem _ mem)

theorem flatten_consPiece (c : Char) (ws : List (List Char)) :
    (consPiece c ws).flatten = c :: ws.flatten := by
  cases ws <;> rfl

/-- The words together are the text without its blanks. -/
theorem flatten_words (s : List Char) : (words p s).flatten = s.filter fun c => !p c := by
  induction s with
  | nil => rfl
  | cons c s ih =>
    cases blank : p c with
    | true => rw [words_of_blank blank, ih, List.filter_cons_of_neg (by simp [blank])]
    | false =>
      rw [words_of_not_blank blank, List.filter_cons_of_pos (by simp [blank]), ← ih]
      split
      · rfl
      · exact flatten_consPiece c _

/-- A word in front of a blank or of the end. -/
theorem words_append {w rest : List Char} (nonempty : w ≠ []) (solid : ∀ c ∈ w, p c = false)
    (ends : rest.head?.all p = true) : words p (w ++ rest) = w :: words p rest := by
  induction w with
  | nil => exact absurd rfl nonempty
  | cons c w ih =>
    obtain ⟨first, others⟩ := List.forall_mem_cons.1 solid
    rw [List.cons_append, words_of_not_blank first]
    cases w with
    | nil => rw [List.nil_append, if_pos ends]
    | cons d w =>
      have goesOn : ¬ ((d :: w) ++ rest).head?.all p = true := by
        simp [others d (List.mem_cons_self ..)]
      rw [if_neg goesOn, ih (List.cons_ne_nil d w) others]
      rfl

/-- Words with a blank between them are split into the same words. -/
theorem words_intercalate {blank : Char} (isBlank : p blank = true) {ws : List (List Char)}
    (solid : ∀ w ∈ ws, w ≠ [] ∧ ∀ c ∈ w, p c = false) :
    words p (intercalate [blank] ws) = ws := by
  induction ws with
  | nil => rfl
  | cons w ws ih =>
    obtain ⟨⟨nonempty, first⟩, others⟩ := List.forall_mem_cons.1 solid
    cases ws with
    | nil =>
      have alone : words p (w ++ []) = w :: words p [] := words_append nonempty first rfl
      rwa [List.append_nil] at alone
    | cons v vs =>
      have ends : (blank :: intercalate [blank] (v :: vs)).head?.all p = true := isBlank
      rw [intercalate_cons _ _ (List.cons_ne_nil v vs), List.append_assoc, List.singleton_append,
        words_append nonempty first ends, words_of_blank isBlank, ih others]

end Words

end Text

/-! ## The filters -/

namespace Filter

/-- The pieces of a text at a separator: its characters if there is nothing to separate them. -/
structure Separates (sep s : String) (pieces : List String) : Prop where
  characters : sep = "" → pieces = s.toList.map String.singleton
  cuts : sep ≠ "" → Text.Cuts sep.toList s.toList (pieces.map String.toList)

/-- The words of a text. -/
structure HasWords (s : String) (words : List String) : Prop where
  nonempty : ∀ w ∈ words, w ≠ ""
  solid : ∀ w ∈ words, ∀ c ∈ w.toList, Text.isBlank c = false
  /-- Nothing but blanks is lost. -/
  kept : words.flatMap String.toList = s.toList.filter fun c => !Text.isBlank c

theorem toList_ne_nil {s : String} (nonempty : s ≠ "") : s.toList ≠ [] := fun nil =>
  nonempty (String.toList_eq_nil_iff.1 nil)

theorem map_toList_ofList (pieces : List (List Char)) :
    (pieces.map String.ofList).map String.toList = pieces := by
  rw [List.map_map]
  exact (List.map_congr_left fun piece _ => String.toList_ofList).trans (List.map_id _)

theorem ofPieces_eq (pieces : List (List Char)) :
    ofPieces pieces = .seq ((pieces.map String.ofList).map .string) :=
  congrArg Value.seq List.map_map.symm

/-- Strings are joined as the texts that they are. -/
theorem join_strings (pieces : List String) (sep : String) :
    join (.seq (pieces.map .string)) sep =
      String.ofList (Text.intercalate sep.toList (pieces.map String.toList)) := by
  rw [join, List.map_map]
  rfl

theorem exists_separates {sep : String} (notSpace : sep ≠ " ") (s : String) :
    ∃ pieces, Separates sep s pieces ∧ split s sep = .seq (pieces.map .string) := by
  by_cases empty : sep = ""
  · refine ⟨s.toList.map String.singleton, ⟨fun _ => rfl, fun h => absurd empty h⟩, ?_⟩
    rw [split, if_pos empty, ofPieces_eq, List.map_map (g := String.ofList)]
    rfl
  · refine ⟨(Text.splitOn sep.toList s.toList).map String.ofList,
      ⟨fun h => absurd h empty, fun _ => ?_⟩, ?_⟩
    · rw [map_toList_ofList]
      exact Text.cuts_splitOn (toList_ne_nil empty) s.toList
    · rw [split, if_neg empty, if_neg notSpace, ofPieces_eq]

theorem Separates.join_eq {s sep : String} {pieces : List String}
    (separates : Separates sep s pieces) : join (.seq (pieces.map .string)) sep = s := by
  rw [join_strings]
  by_cases empty : sep = ""
  · have singles : (s.toList.map String.singleton).map String.toList =
        s.toList.map fun c => [c] := by
      rw [List.map_map]
      exact List.map_congr_left fun c _ => String.toList_singleton c
    rw [separates.characters empty, empty, singles]
    show String.ofList (Text.intercalate [] _) = s
    rw [Text.intercalate_nil, ← List.flatMap_def, List.flatMap_singleton', String.ofList_toList]
  · rw [(separates.cuts empty).intercalate_eq, String.ofList_toList]

/-- The words of a text in their order. -/
def words (s : String) : List String := (Text.words Text.isBlank s.toList).map String.ofList

theorem split_space (s : String) : split s " " = .seq ((words s).map .string) :=
  ofPieces_eq _

theorem hasWords_words (s : String) : HasWords s (words s) := by
  constructor
  case nonempty =>
    intro w mem empty
    obtain ⟨v, isWord, rfl⟩ := List.mem_map.1 mem
    have nil : v = [] := String.ofList_eq_empty_iff.1 empty
    exact (Text.solid_of_mem_words isWord).1 nil
  case solid =>
    intro w mem c hc
    obtain ⟨v, isWord, rfl⟩ := List.mem_map.1 mem
    rw [String.toList_ofList] at hc
    exact (Text.solid_of_mem_words isWord).2 c hc
  case kept =>
    rw [words, List.flatMap_def, map_toList_ofList]
    exact Text.flatten_words s.toList

/-- Words that are joined with spaces are the words of what comes out. -/
theorem HasWords.words_join {s : String} {ws : List String} (hasWords : HasWords s ws) :
    words (join (.seq (ws.map .string)) " ") = ws := by
  have solid : ∀ w ∈ ws.map String.toList, w ≠ [] ∧ ∀ c ∈ w, Text.isBlank c = false := by
    intro w mem
    obtain ⟨v, isWord, rfl⟩ := List.mem_map.1 mem
    exact ⟨toList_ne_nil (hasWords.nonempty v isWord), hasWords.solid v isWord⟩
  have again : Text.words Text.isBlank (Text.intercalate " ".toList (ws.map String.toList)) =
      ws.map String.toList := Text.words_intercalate (by decide) solid
  rw [join_strings, words, String.toList_ofList, again, List.map_map]
  exact (List.map_congr_left fun w _ => String.ofList_toList).trans (List.map_id _)

/-- The filters of the names undo each other: what a text is split into at a separator is joined
into the text again.  At a single space a text is split into its words, and joining these with
spaces gives a text with the same words. -/
theorem join_undoes_split : ∃ split join, Table.find? builtin "split" = some split ∧
    Table.find? builtin "join" = some join ∧
    (∀ s sep : String, sep ≠ " " → ∃ pieces : List String, Separates sep s pieces ∧
      split [.string s, .string sep] = .ok (.seq (pieces.map .string)) ∧
      join [.seq (pieces.map .string), .string sep] = .ok (.string s)) ∧
    ∀ s : String, ∃ (words : List String) (text : String), HasWords s words ∧
      split [.string s, .string " "] = .ok (.seq (words.map .string)) ∧
      join [.seq (words.map .string), .string " "] = .ok (.string text) ∧
      split [.string text, .string " "] = .ok (.seq (words.map .string)) := by
  refine ⟨_, _, Table.find?_ofList .., Table.find?_ofList .., fun s sep notSpace => ?_, fun s => ?_⟩
  · obtain ⟨pieces, separates, isSplit⟩ := exists_separates notSpace s
    refine ⟨pieces, separates, congrArg Except.ok isSplit, ?_⟩
    exact congrArg (Except.ok <| Value.string ·) separates.join_eq
  · have hasWords := hasWords_words s
    refine ⟨words s, _, hasWords, congrArg Except.ok (split_space s), rfl, ?_⟩
    refine (congrArg Except.ok (split_space _)).trans ?_
    exact congrArg (Except.ok <| Value.seq <| List.map Value.string ·) hasWords.words_join

/-- Occurrences overlap, and the first one counts. -/
example : split "aaa" "aa" = .seq [.string "", .string "a"] := rfl

end Filter

end Stencil
