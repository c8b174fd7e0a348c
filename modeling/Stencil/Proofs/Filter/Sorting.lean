import Stencil.Filter.Builtin
import Stencil.Proofs.Value.Order

/-!
# What sorting does

Sorting keeps all items, puts them in order, and leaves alike items in the order in which they came
(`Filter.Sorts`).  There is only one such list, so it makes no difference that a short sequence is
sorted by insertion and a long one by merging, and sorting again changes nothing.  All of this is
about items that are not floating point numbers: integers that straddle such a number are in no
order with it.
-/

namespace Stencil.Filter

open Value (sortCompare)

/-- Whether two values are alike in sorting. -/
def alike (a b : Value) : Bool := sortCompare a b == .eq

/-- A list holds the items of another in order, and alike items as the other has them. -/
structure Sorts (items sorted : List Value) : Prop where
  perm : sorted.Perm items
  ordered : sorted.Pairwise fun a b => sortCompare a b ≠ .gt
  stable : ∀ v ∈ items, sorted.filter (alike v) = items.filter (alike v)

/-! ## Items that are alike -/

theorem alike_iff {a b : Value} : alike a b = true ↔ sortCompare a b = .eq := beq_iff_eq

theorem alike_self (a : Value) : alike a a = true := alike_iff.2 (Value.sortCompare_self a)

/-- One of two values may stand before the other. -/
theorem sortCompare_total {a b : Value} (greater : sortCompare a b = .gt) :
    sortCompare b a ≠ .gt := by
  rw [Value.sortCompare_swap, greater]
  exact Ordering.noConfusion

theorem alike_of_le_of_le {a b : Value} (le : sortCompare a b ≠ .gt) (ge : sortCompare b a ≠ .gt) :
    alike a b = true := by
  rw [Value.sortCompare_swap a b] at ge
  rw [alike_iff]
  cases h : sortCompare a b with
  | lt => exact absurd (h ▸ rfl) ge
  | eq => rfl
  | gt => exact absurd h le

theorem le_of_alike {a b : Value} (same : alike a b = true) : sortCompare a b ≠ .gt := by
  rw [alike_iff.1 same]
  exact Ordering.noConfusion

theorem ge_of_alike {a b : Value} (same : alike a b = true) : sortCompare b a ≠ .gt := by
  rw [Value.sortCompare_swap a b, alike_iff.1 same]
  exact Ordering.noConfusion

theorem le_trans_of_noFloat {a b c : Value} (noFloat : b.isFloat = false)
    (first : sortCompare a b ≠ .gt) (second : sortCompare b c ≠ .gt) : sortCompare a c ≠ .gt :=
  Value.sortCompare_trans first second (Value.not_straddles noFloat a c)

/-- What is alike to one value may stand before what else is. -/
theorem le_of_alike_of_alike {u a b : Value} (noFloat : u.isFloat = false) (first : alike u a = true)
    (second : alike u b = true) : sortCompare a b ≠ .gt :=
  le_trans_of_noFloat noFloat (ge_of_alike first) (le_of_alike second)

/-- Two lists of the same items in order are the same, if they are for each class of items. -/
theorem eq_of_ordered {l₁ l₂ : List Value} (perm : l₁.Perm l₂)
    (ordered : l₁.Pairwise fun a b => sortCompare a b ≠ .gt)
    (orderedToo : l₂.Pairwise fun a b => sortCompare a b ≠ .gt)
    (stable : ∀ v ∈ l₁, l₁.filter (alike v) = l₂.filter (alike v)) : l₁ = l₂ := by
  induction l₁ generalizing l₂ with
  | nil => exact perm.nil_eq
  | cons a rest ih =>
    cases l₂ with
    | nil => exact absurd perm.eq_nil (List.cons_ne_nil a rest)
    | cons b restToo =>
      obtain ⟨first, ordered⟩ := List.pairwise_cons.1 ordered
      obtain ⟨firstToo, orderedRest⟩ := List.pairwise_cons.1 orderedToo
      have le : sortCompare a b ≠ .gt := by
        rcases List.mem_cons.1 (perm.mem_iff.2 List.mem_cons_self) with rfl | mem
        · exact le_of_alike (alike_self b)
        · exact first b mem
      have ge : sortCompare b a ≠ .gt := by
        rcases List.mem_cons.1 (perm.mem_iff.1 List.mem_cons_self) with rfl | mem
        · exact le_of_alike (alike_self a)
        · exact firstToo a mem
      -- The two heads are alike, so each is the first of its class.
      have heads := stable a List.mem_cons_self
      rw [List.filter_cons_of_pos (alike_self a),
        List.filter_cons_of_pos (alike_of_le_of_le le ge)] at heads
      obtain rfl : a = b := (List.cons.inj heads).1
      refine congrArg (a :: ·) (ih perm.cons_inv ordered orderedRest fun v mem => ?_)
      have same := stable v (List.mem_cons_of_mem a mem)
      rw [List.filter_cons, List.filter_cons] at same
      split at same
      · exact (List.cons.inj same).2
      · exact same

theorem Sorts.unique {items sorted other : List Value} (first : Sorts items sorted)
    (second : Sorts items other) : sorted = other :=
  eq_of_ordered (first.perm.trans second.perm.symm) first.ordered second.ordered fun v mem =>
    (first.stable v (first.perm.mem_iff.1 mem)).trans
      (second.stable v (first.perm.mem_iff.1 mem)).symm

theorem Sorts.again {items sorted : List Value} (sorts : Sorts items sorted) :
    Sorts sorted sorted :=
  ⟨.refl sorted, sorts.ordered, fun _ _ => rfl⟩

/-! ## Insertion -/

theorem before_iff {a b : Value} : before a b = true ↔ sortCompare a b = .lt := beq_iff_eq

theorem le_of_before {a b : Value} (less : before a b = true) : sortCompare a b ≠ .gt := by
  rw [before_iff.1 less]
  exact Ordering.noConfusion

theorem not_le_of_before {a b : Value} (less : before a b = true) : sortCompare b a = .gt := by
  rw [Value.sortCompare_swap a b, before_iff.1 less]
  rfl

theorem ge_of_not_before {a b : Value} (not : ¬ before a b = true) : sortCompare b a ≠ .gt := by
  rw [Value.sortCompare_swap a b]
  intro less
  exact not (before_iff.2 (Ordering.swap_eq_gt.1 less))

theorem insertFromEnd_ordered {v : Value} {items : List Value}
    (noFloats : ∀ w ∈ items, w.isFloat = false)
    (ordered : items.Pairwise fun a b => sortCompare b a ≠ .gt) :
    (insertFromEnd v items).Pairwise fun a b => sortCompare b a ≠ .gt := by
  induction items with
  | nil => exact List.pairwise_singleton _ _
  | cons w rest ih =>
    obtain ⟨first, ordered⟩ := List.pairwise_cons.1 ordered
    obtain ⟨noFloat, noFloats⟩ := List.forall_mem_cons.1 noFloats
    unfold insertFromEnd
    split
    next less =>
      refine List.pairwise_cons.2 ⟨fun x mem => ?_, ih noFloats ordered⟩
      rcases List.mem_cons.1 ((insertFromEnd_perm v rest).mem_iff.1 mem) with rfl | mem
      · exact le_of_before less
      · exact first x mem
    next not =>
      have le := ge_of_not_before not
      refine List.pairwise_cons.2 ⟨fun x mem => ?_, List.pairwise_cons.2 ⟨first, ordered⟩⟩
      rcases List.mem_cons.1 mem with rfl | mem
      · exact le
      · exact le_trans_of_noFloat noFloat (first x mem) le

/-- An item passes no item that is alike. -/
theorem filter_insertFromEnd {u : Value} (noFloat : u.isFloat = false) (v : Value)
    (items : List Value) :
    (insertFromEnd v items).filter (alike u) = (v :: items).filter (alike u) := by
  induction items with
  | nil => rfl
  | cons w rest ih =>
    unfold insertFromEnd
    split
    next less =>
      rw [List.filter_cons, ih, List.filter_cons, List.filter_cons, List.filter_cons]
      by_cases hv : alike u v = true
      · have hw : ¬ alike u w = true := fun hw =>
          le_of_alike_of_alike noFloat hw hv (not_le_of_before less)
        rw [if_pos hv, if_neg hw, if_pos hv, if_neg hw]
      · rw [if_neg hv, if_neg hv]
    next => rfl

theorem foldl_insertFromEnd_perm (items held : List Value) :
    (items.foldl (fun sorted v => insertFromEnd v sorted) held).Perm (items ++ held) := by
  induction items generalizing held with
  | nil => exact .refl held
  | cons v items ih =>
    exact (ih (insertFromEnd v held)).trans
      (((insertFromEnd_perm v held).append_left items).trans List.perm_middle)

theorem insertionSort_perm (items : List Value) : (insertionSort items).Perm items := by
  have held := foldl_insertFromEnd_perm items []
  rw [List.append_nil] at held
  exact (List.reverse_perm _).trans held

theorem foldl_insertFromEnd_ordered {items held : List Value}
    (noFloats : ∀ v ∈ items, v.isFloat = false) (held_noFloats : ∀ v ∈ held, v.isFloat = false)
    (ordered : held.Pairwise fun a b => sortCompare b a ≠ .gt) :
    (items.foldl (fun sorted v => insertFromEnd v sorted) held).Pairwise
      fun a b => sortCompare b a ≠ .gt := by
  induction items generalizing held with
  | nil => exact ordered
  | cons v items ih =>
    obtain ⟨noFloat, noFloats⟩ := List.forall_mem_cons.1 noFloats
    refine ih noFloats (fun w mem => ?_) (insertFromEnd_ordered held_noFloats ordered)
    rcases List.mem_cons.1 ((insertFromEnd_perm v held).mem_iff.1 mem) with rfl | mem
    · exact noFloat
    · exact held_noFloats w mem

theorem filter_foldl_insertFromEnd {u : Value} (noFloat : u.isFloat = false)
    (items held : List Value) :
    (items.foldl (fun sorted v => insertFromEnd v sorted) held).filter (alike u) =
      (items.filter (alike u)).reverse ++ held.filter (alike u) := by
  induction items generalizing held with
  | nil => rfl
  | cons v items ih =>
    rw [List.foldl_cons, ih, filter_insertFromEnd noFloat, List.filter_cons, List.filter_cons]
    split
    · rw [List.reverse_cons, List.append_assoc, List.singleton_append]
    · rfl

theorem insertionSort_sorts {items : List Value} (noFloats : ∀ v ∈ items, v.isFloat = false) :
    Sorts items (insertionSort items) where
  perm := insertionSort_perm items
  ordered := List.pairwise_reverse.2
    (foldl_insertFromEnd_ordered noFloats (List.forall_mem_nil _) .nil)
  stable v mem := by
    rw [insertionSort, List.filter_reverse, filter_foldl_insertFromEnd (noFloats v mem),
      List.filter_nil, List.append_nil, List.reverse_reverse]

/-! ## Merging -/

/-- Merging leaves a class in its order if its items may stand before each other. -/
theorem filter_mergeSort {α : Type} {le : α → α → Bool}
    (trans : ∀ a b c, le a b = true → le b c = true → le a c = true)
    (total : ∀ a b, (le a b || le b a) = true) {p : α → Bool}
    (class_le : ∀ a b, p a = true → p b = true → le a b = true) (items : List α) :
    (items.mergeSort le).filter p = items.filter p := by
  have ordered : (items.filter p).Pairwise fun a b => le a b = true :=
    List.pairwise_of_forall_mem_list fun a ha b hb =>
      class_le a b (List.mem_filter.1 ha).2 (List.mem_filter.1 hb).2
  have kept := (List.sublist_mergeSort trans total ordered List.filter_sublist).filter p
  simp only [List.filter_filter, Bool.and_self] at kept
  exact (kept.eq_of_length ((List.mergeSort_perm items le).filter p).length_eq.symm).symm

/-- A value that is not a floating point number. -/
abbrev Exact : Type := { v : Value // v.isFloat = false }

theorem notAfter_iff {a b : Value} : notAfter a b = true ↔ sortCompare a b ≠ .gt := bne_iff_ne

theorem notAfter_trans (a b c : Exact) (first : notAfter a.1 b.1 = true)
    (second : notAfter b.1 c.1 = true) : notAfter a.1 c.1 = true :=
  notAfter_iff.2 (le_trans_of_noFloat b.2 (notAfter_iff.1 first) (notAfter_iff.1 second))

theorem notAfter_total (a b : Exact) : (notAfter a.1 b.1 || notAfter b.1 a.1) = true := by
  rw [Bool.or_eq_true, notAfter_iff, notAfter_iff]
  by_cases greater : sortCompare a.1 b.1 = .gt
  · exact .inr (sortCompare_total greater)
  · exact .inl greater

theorem mergeSort_sorts {items : List Value} (noFloats : ∀ v ∈ items, v.isFloat = false) :
    Sorts items (items.mergeSort notAfter) := by
  -- The order is total and transitive on values that are not floating point numbers only.
  obtain ⟨exact, rfl⟩ : ∃ exact : List Exact, exact.map Subtype.val = items :=
    ⟨items.attachWith _ noFloats, List.attachWith_map_subtype_val noFloats⟩
  have sorted : (exact.map Subtype.val).mergeSort notAfter =
      (exact.mergeSort fun a b => notAfter a.1 b.1).map Subtype.val :=
    (List.map_mergeSort (f := Subtype.val) (s := notAfter) fun _ _ _ _ => rfl).symm
  refine ⟨List.mergeSort_perm _ _, ?_, fun v mem => ?_⟩
  · rw [sorted, List.pairwise_map]
    exact (List.pairwise_mergeSort notAfter_trans notAfter_total exact).imp notAfter_iff.1
  · have class_le (a b : Exact) (ha : alike v a.1 = true) (hb : alike v b.1 = true) :
        notAfter a.1 b.1 = true :=
      notAfter_iff.2 (le_of_alike_of_alike (noFloats v mem) ha hb)
    rw [sorted, List.filter_map, List.filter_map]
    exact congrArg _ (filter_mergeSort notAfter_trans notAfter_total class_le exact)

/-! ## The filter -/

/-- Sorting keeps all items, floating point numbers among them too. -/
theorem sortItems_perm (items : List Value) : (sortItems items).Perm items := by
  unfold sortItems
  split
  · exact insertionSort_perm items
  · exact List.mergeSort_perm items notAfter

theorem sortItems_sorts {items : List Value} (noFloats : ∀ v ∈ items, v.isFloat = false) :
    Sorts items (sortItems items) := by
  unfold sortItems
  split
  · exact insertionSort_sorts noFloats
  · exact mergeSort_sorts noFloats

theorem sortItems_sortItems {items : List Value} (noFloats : ∀ v ∈ items, v.isFloat = false) :
    sortItems (sortItems items) = sortItems items := by
  have sorts := sortItems_sorts noFloats
  have again := sortItems_sorts fun v mem => noFloats v (sorts.perm.mem_iff.1 mem)
  exact again.unique sorts.again

theorem find?_sort : Table.find? builtin "sort" = some (unary sort) := Table.find?_ofList ..

/-- The filter of the name sorts a sequence without floating point numbers and leaves the result as
it is, takes nil for an empty sequence and refuses any other value. -/
theorem sort_sorts : ∃ sort, Table.find? builtin "sort" = some sort ∧
    (∀ items : List Value, (∀ v ∈ items, v.isFloat = false) →
      ∃ sorted, sort [.seq items] = .ok (.seq sorted) ∧ Sorts items sorted ∧
        sort [.seq sorted] = .ok (.seq sorted)) ∧
    (∀ v : Value, v.isNil = true → sort [v] = .ok (.seq [])) ∧
    ∀ v : Value, v.isNil = false → (∀ items, v ≠ .seq items) →
      ∃ e, sort [v] = .error e ∧ e.kind = .invalidArguments := by
  refine ⟨unary sort, find?_sort, fun items noFloats => ?_, fun v nil => ?_, fun v notNil notSeq => ?_⟩
  · refine ⟨sortItems items, rfl, sortItems_sorts noFloats, ?_⟩
    exact congrArg (Except.ok <| Value.seq ·) (sortItems_sortItems noFloats)
  · rcases (Value.isNil_iff v).1 nil with rfl | rfl <;> rfl
  · cases v with
    | seq items => exact absurd rfl (notSeq items)
    | undefined => cases notNil
    | none => cases notNil
    | _ => exact ⟨_, rfl, rfl⟩

/-- Items of all kinds but one, two of them sequences and two nil. -/
theorem sort_sorts_mixed : ∃ sort, Table.find? builtin "sort" = some sort ∧
    sort [.seq [.seq [.int 1], .int 3, .string "b", .none, .seq [], .int 2, .map [], .bool true,
      .undefined]] =
      .ok (.seq [.none, .undefined, .bool true, .int 2, .int 3, .string "b", .seq [.int 1],
        .seq [], .map []]) ∧
    Sorts [.seq [.int 1], .int 3, .string "b", .none, .seq [], .int 2, .map [], .bool true,
      .undefined]
      [.none, .undefined, .bool true, .int 2, .int 3, .string "b", .seq [.int 1], .seq [],
        .map []] ∧
    sort [.none] = .ok (.seq []) ∧ ∃ e, sort [.int 1] = .error e ∧ e.kind = .invalidArguments := by
  obtain ⟨sort, found, sequences, nil, others⟩ := sort_sorts
  obtain ⟨sorted, run, sorts, -⟩ := sequences [.seq [.int 1], .int 3, .string "b", .none, .seq [],
    .int 2, .map [], .bool true, .undefined] (by decide)
  obtain rfl : unary Filter.sort = sort := Option.some.inj (find?_sort.symm.trans found)
  obtain rfl : [.none, .undefined, .bool true, .int 2, .int 3, .string "b", .seq [.int 1],
      .seq [], .map []] = sorted := Value.seq.inj (Except.ok.inj run)
  exact ⟨_, found, run, sorts, nil .none rfl, others (.int 1) rfl (fun _ => Value.noConfusion)⟩

end Stencil.Filter
