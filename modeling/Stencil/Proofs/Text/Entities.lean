import Stencil.Filter.Builtin
import Stencil.Proofs.Text.Stretches

/-!
# Entities

`markup` says character by character what is written.  Copying in stretches writes the same
(`copied_markupRule`), although the reader sees bytes and the cuts have to be between characters.

In what is written no character has a meaning in HTML but the ampersands of entities
(`onlyEntities_markup`).  Entities cannot be mistaken for one another, nor for what stands next to
them: putting the characters in their places, from left to right, gives the text back
(`rewrite_markup`), also if there were entities in it before.
-/

namespace Stencil

namespace Text

namespace Escape

/-- The characters that have a meaning in HTML. -/
def markupChars : List Char := ['<', '>', '&', '"', '\'', '/']

theorem mem_markupChars_iff {c : Char} :
    c ∈ markupChars ↔ c = '<' ∨ c = '>' ∨ c = '&' ∨ c = '"' ∨ c = '\'' ∨ c = '/' := by
  simp only [markupChars, List.mem_cons, List.not_mem_nil, or_false]

theorem ampersand_mem_markupChars : '&' ∈ markupChars := by decide

theorem entity_plain {c : Char} (plain : c ∉ markupChars) : entity c = [c] := by
  simp only [mem_markupChars_iff, not_or] at plain
  obtain ⟨less, greater, ampersand, double, single, slash⟩ := plain
  rw [entity, if_neg less, if_neg greater, if_neg ampersand, if_neg double, if_neg single,
    if_neg slash]

theorem plain_of_any {name : List Char} (harmless : name.any markupChars.contains = false) :
    ∀ d ∈ name, d ∉ markupChars := fun d mem special =>
  List.any_eq_false.1 harmless d mem (List.contains_iff_mem.2 special)

/-- A character stands for itself, or its entity is an ampersand with nothing behind it that would
have a meaning of its own. -/
theorem entity_cases (c : Char) :
    c ∉ markupChars ∧ entity c = [c] ∨
      c ∈ markupChars ∧ ∃ name, entity c = '&' :: name ∧ ∀ d ∈ name, d ∉ markupChars := by
  by_cases special : c ∈ markupChars
  · refine Or.inr ⟨special, ?_⟩
    rcases mem_markupChars_iff.1 special with rfl | rfl | rfl | rfl | rfl | rfl
    all_goals exact ⟨_, rfl, plain_of_any rfl⟩
  · exact Or.inl ⟨special, entity_plain special⟩

/-! ## What is written -/

/-- The entity that is written in the place of a byte. -/
def markupRule : ByteRule := fun b =>
  if b = '<'.toUInt8 then some ['&', 'l', 't', ';']
  else if b = '>'.toUInt8 then some ['&', 'g', 't', ';']
  else if b = '&'.toUInt8 then some ['&', 'a', 'm', 'p', ';']
  else if b = '"'.toUInt8 then some ['&', 'q', 'u', 'o', 't', ';']
  else if b = '\''.toUInt8 then some ['&', '#', 'x', '2', '7', ';']
  else if b = '/'.toUInt8 then some ['&', '#', 'x', '2', 'f', ';']
  else none

theorem markupRule_eq_none {b : UInt8} (other : ∀ c ∈ markupChars, b ≠ c.toUInt8) :
    markupRule b = none := by
  rw [markupRule, if_neg (other _ (by decide)), if_neg (other _ (by decide)),
    if_neg (other _ (by decide)), if_neg (other _ (by decide)), if_neg (other _ (by decide)),
    if_neg (other _ (by decide))]

theorem single_of_mem_markupChars {c : Char} (special : c ∈ markupChars) : c.utf8Size = 1 := by
  have single : markupChars.all (fun c => c.utf8Size == 1) = true := rfl
  exact eq_of_beq (List.all_eq_true.1 single c special)

theorem keepsWide_markupRule : markupRule.KeepsWide := by
  intro b high
  refine markupRule_eq_none fun c special same => ?_
  have code := toNat_toUInt8 (single_of_mem_markupChars special)
  rw [same, UInt8.le_iff_toNat_le, code.1] at high
  exact absurd code.2 (Nat.not_lt.2 high)

theorem image_markupRule (c : Char) : markupRule.image c = entity c := by
  by_cases special : c ∈ markupChars
  · rcases mem_markupChars_iff.1 special with rfl | rfl | rfl | rfl | rfl | rfl
    all_goals rfl
  · have stays : markupRule.onChar c = none := by
      rw [ByteRule.onChar]
      split
      · next single =>
        refine markupRule_eq_none fun d mem same => special ?_
        rwa [toUInt8_inj single (single_of_mem_markupChars mem) same]
      · rfl
    rw [ByteRule.image, stays, entity_plain special, Option.getD_none]

/-- Copying in stretches is one way to write it. -/
theorem copied_markupRule (s : List Char) : markupRule.copied s = some (markup s) := by
  rw [ByteRule.copied_eq_flatMap keepsWide_markupRule, funext image_markupRule, markup]

/-- An entity that stands in the text is escaped again. -/
example : markupRule.copied ['é', '&', 'l', 't', ';'] =
    some ['é', '&', 'a', 'm', 'p', ';', 'l', 't', ';'] := rfl

/-! ## What can be read -/

/-- A text in which nothing has a meaning in HTML but entities. -/
structure OnlyEntities (t : List Char) : Prop where
  noDelimiters : ∀ c ∈ markupChars, c ≠ '&' → c ∉ t
  /-- Wherever an ampersand stands, an entity begins. -/
  ampersands : ∀ behind, '&' :: behind <:+ t → ∃ c ∈ markupChars, entity c <+: '&' :: behind

theorem not_mem_markup {c : Char} (special : c ∈ markupChars) (other : c ≠ '&') (s : List Char) :
    c ∉ markup s := by
  intro mem
  obtain ⟨d, -, inEntity⟩ := List.mem_flatMap.1 mem
  obtain ⟨plain, same⟩ | ⟨-, name, same, harmless⟩ := entity_cases d
  · rw [same] at inEntity
    exact plain (List.mem_singleton.1 inEntity ▸ special)
  · rw [same] at inEntity
    rcases List.mem_cons.1 inEntity with ampersand | inName
    · exact other ampersand
    · exact harmless c inName special

/-- What begins with a character that is not in the first part begins behind it. -/
theorem suffix_of_not_mem {c : Char} {s t behind : List Char} (notIn : c ∉ s)
    (ends : c :: behind <:+ s ++ t) : c :: behind <:+ t := by
  induction s with
  | nil => exact ends
  | cons d s ih =>
    rw [List.mem_cons, not_or] at notIn
    rcases List.suffix_cons_iff.1 ends with same | ends
    · exact absurd (List.cons.inj same).1 notIn.1
    · exact ih notIn.2 ends

theorem exists_entity {s behind : List Char} (ends : '&' :: behind <:+ markup s) :
    ∃ c ∈ markupChars, entity c <+: '&' :: behind := by
  induction s with
  | nil => cases List.suffix_nil.1 ends
  | cons c s ih =>
    rw [markup_cons] at ends
    obtain ⟨plain, same⟩ | ⟨special, name, same, harmless⟩ := entity_cases c
    · rw [same] at ends
      have notIn : '&' ∉ [c] := fun mem =>
        plain (List.mem_singleton.1 mem ▸ ampersand_mem_markupChars)
      exact ih (suffix_of_not_mem notIn ends)
    · rw [same, List.cons_append] at ends
      rcases List.suffix_cons_iff.1 ends with whole | ends
      · rw [whole, ← List.cons_append, ← same]
        exact ⟨c, special, List.prefix_append _ _⟩
      · have notIn : '&' ∉ name := fun mem => harmless '&' mem ampersand_mem_markupChars
        exact ih (suffix_of_not_mem notIn ends)

theorem onlyEntities_markup (s : List Char) : OnlyEntities (markup s) where
  noDelimiters _ special other := not_mem_markup special other s
  ampersands _ ends := exists_entity ends

/-- The character whose entity a text begins with. -/
def entityStart? (t : List Char) : Option Char :=
  markupChars.find? fun c => (entity c).isPrefixOf t

/-- The rule that puts characters in the places of their entities. -/
def entityRule : Rule := fun c rest =>
  (entityStart? (c :: rest)).map fun d => ⟨[d], byteSize (entity d), (entity d).length - 1⟩

theorem entityStart?_plain {c : Char} (plain : c ∉ markupChars) (s : List Char) :
    entityStart? (c :: s) = none := by
  rw [entityStart?, List.find?_eq_none]
  intro d special starts
  obtain ⟨other, -⟩ | ⟨-, name, same, -⟩ := entity_cases d
  · exact other special
  · rw [same, List.isPrefixOf_iff_prefix, List.cons_prefix_cons] at starts
    exact plain (starts.1 ▸ ampersand_mem_markupChars)

/-- No entity is the beginning of another one. -/
theorem entityStart?_entity {c : Char} (special : c ∈ markupChars) (s : List Char) :
    entityStart? (entity c ++ s) = some c := by
  rcases mem_markupChars_iff.1 special with rfl | rfl | rfl | rfl | rfl | rfl
  all_goals rfl

theorem rewrite_markup (s : List Char) : entityRule.rewrite (markup s) = s := by
  induction s with
  | nil => rw [markup_nil, Rule.rewrite]
  | cons c s ih =>
    rw [markup_cons]
    obtain ⟨plain, same⟩ | ⟨special, name, same, -⟩ := entity_cases c
    · have stays : entityRule c (markup s) = none :=
        congrArg (Option.map _) (entityStart?_plain plain (markup s))
      rw [same, List.singleton_append, Rule.rewrite_of_eq_none stays, ih]
    · have start := entityStart?_entity special (markup s)
      rw [same, List.cons_append] at start
      have replaced : entityRule '&' (name ++ markup s) =
          some ⟨[c], byteSize (entity c), (entity c).length - 1⟩ := congrArg (Option.map _) start
      rw [same, List.cons_append, Rule.rewrite_of_eq_some replaced, same, List.length_cons,
        Nat.add_sub_cancel, List.drop_left, ih, List.singleton_append]

end Escape

end Text

namespace Filter

open Text.Escape

/-- The filter of the name writes what copying in stretches writes, which is one entity or
character after the other.  Nothing in it has a meaning in HTML but entities, and with the
characters in their places again it is the text that was given. -/
theorem escape_reads_back : ∃ escape, Table.find? builtin "escape" = some escape ∧
    ∀ s : String, ∃ t : String, escape [.string s] = .ok (.string t) ∧
      markupRule.copied s.toList = some t.toList ∧ t.toList = s.toList.flatMap entity ∧
      OnlyEntities t.toList ∧ entityRule.rewrite t.toList = s.toList := by
  refine ⟨_, Table.find?_ofList .., fun s => ⟨String.ofList (markup s.toList), rfl, ?_⟩⟩
  rw [String.toList_ofList]
  exact ⟨copied_markupRule s.toList, rfl, onlyEntities_markup s.toList, rewrite_markup s.toList⟩

end Filter

end Stencil
