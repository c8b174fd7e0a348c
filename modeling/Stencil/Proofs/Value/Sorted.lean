import Stencil.Proofs.Value.Equality

/-!
# Tables and maps in order

A table lists its names in ascending order (`Table.IsSorted`), and every map in a value its keys
(`Value.IsSorted`).  The types do not say so, as the values of a map are values again, but nothing
that builds tables and values leaves the order: a table is sorted however it is filled
(`Table.isSorted_ofList`), and so are a map that is made of entries (`Value.isSorted_ofEntries`) and
what is taken out of sorted values.
-/

namespace Stencil

namespace Table

variable {α β : Type}

/-- The names are in ascending order, and each stands once. -/
def IsSorted (t : Table α) : Prop := t.names.Pairwise (· < ·)

theorem IsSorted.map {t : Table α} (sorted : t.IsSorted) (f : α → β) :
    IsSorted (t.map fun e => (e.1, f e.2)) := by
  have same : names (t.map fun e => (e.1, f e.2)) = t.names := by
    rw [names, names, List.map_map]
    rfl
  rwa [IsSorted, same]

theorem isSorted_nil : IsSorted ([] : Table α) := List.Pairwise.nil

theorem isSorted_cons_iff {n : String} {a : α} {t : Table α} :
    IsSorted ((n, a) :: t) ↔ (∀ k ∈ t.names, n < k) ∧ t.IsSorted :=
  List.pairwise_cons

theorem mem_names_set {t : Table α} {name k : String} {a : α} (mem : k ∈ (t.set name a).names) :
    k = name ∨ k ∈ t.names := by
  obtain ⟨e, entry, rfl⟩ := List.mem_map.mp mem
  rcases mem_set entry with rfl | entry
  · exact Or.inl rfl
  · exact Or.inr (List.mem_map_of_mem entry)

theorem IsSorted.set {t : Table α} (sorted : t.IsSorted) (name : String) (a : α) :
    (t.set name a).IsSorted := by
  induction t with
  | nil => exact List.pairwise_singleton ..
  | cons e t ih =>
    obtain ⟨n, b⟩ := e
    obtain ⟨first, others⟩ := isSorted_cons_iff.mp sorted
    rw [Table.set]
    by_cases before : name < n
    · rw [if_pos before]
      refine isSorted_cons_iff.mpr ⟨fun k mem => ?_, sorted⟩
      rcases List.mem_cons.mp mem with rfl | mem
      · exact before
      · exact String.lt_trans before (first k mem)
    · rw [if_neg before]
      by_cases same : name = n
      · rw [if_pos same]
        subst same
        exact isSorted_cons_iff.mpr ⟨first, others⟩
      · rw [if_neg same]
        refine isSorted_cons_iff.mpr ⟨fun k mem => ?_, ih others⟩
        rcases mem_names_set mem with rfl | mem
        · exact Std.lt_of_le_of_ne (String.not_lt.mp before) (Ne.symm same)
        · exact first k mem

theorem IsSorted.setNew {t : Table α} (sorted : t.IsSorted) (name : String) (a : α) :
    (t.setNew name a).IsSorted := by
  unfold Table.setNew
  split
  · exact sorted
  · exact sorted.set name a

theorem IsSorted.unset {t : Table α} (sorted : t.IsSorted) (name : String) :
    (t.unset name).IsSorted :=
  List.Pairwise.sublist (List.filter_sublist.map Prod.fst) sorted

/-- Whatever order the entries are in, the table of them is sorted. -/
theorem isSorted_ofList (entries : List (String × α)) : (ofList entries).IsSorted := by
  have filled (t : Table α) (sorted : t.IsSorted) :
      IsSorted (entries.foldl (fun t e => t.set e.1 e.2) t) := by
    induction entries generalizing t with
    | nil => exact sorted
    | cons e entries ih => exact ih _ (sorted.set e.1 e.2)
  exact filled [] isSorted_nil

theorem set_of_behind {t : Table α} {name : String} (behind : ∀ n ∈ t.names, n < name) (a : α) :
    t.set name a = t ++ [(name, a)] := by
  induction t with
  | nil => rfl
  | cons e t ih =>
    obtain ⟨n, b⟩ := e
    have first : n < name := behind n List.mem_cons_self
    have differ : name ≠ n := by
      rintro rfl
      exact String.lt_irrefl name first
    rw [set, if_neg (String.lt_asymm first), if_neg differ,
      ih fun k mem => behind k (List.mem_cons_of_mem n mem), List.cons_append]

/-- A table is not changed by filling it once more. -/
theorem foldl_set_of_isSorted {t entries : Table α} (sorted : IsSorted (t ++ entries)) :
    entries.foldl (fun t e => t.set e.1 e.2) t = t ++ entries := by
  induction entries generalizing t with
  | nil => rw [List.foldl_nil, List.append_nil]
  | cons e entries ih =>
    have behind : ∀ n ∈ t.names, n < e.1 := by
      intro n mem
      rw [IsSorted, names, List.map_append, List.pairwise_append] at sorted
      exact sorted.2.2 n mem e.1 List.mem_cons_self
    rw [List.foldl_cons, set_of_behind behind, ih, List.append_assoc]
    · rfl
    · rwa [List.append_assoc]

theorem ofList_of_isSorted {t : Table α} (sorted : t.IsSorted) : ofList t = t :=
  foldl_set_of_isSorted (t := []) sorted

end Table

namespace Value

/-- Every map in the value lists its keys in ascending order. -/
def IsSorted (v : Value) : Prop :=
  ∀ path entries, v.at? path = some (map entries) → Table.IsSorted entries

theorem IsSorted.part {v w : Value} (sorted : v.IsSorted) (mem : w ∈ v.parts) : w.IsSorted := by
  obtain ⟨i, part⟩ := List.getElem?_of_mem mem
  intro path entries found
  exact sorted (i :: path) entries ((at?_cons_of_part part path).trans found)

theorem IsSorted.of_parts {v : Value} (whole : ∀ entries, v = map entries → Table.IsSorted entries)
    (each : ∀ w ∈ v.parts, w.IsSorted) : v.IsSorted := by
  intro path entries found
  cases path with
  | nil => exact whole entries (Option.some.inj found)
  | cons i path =>
    obtain ⟨w, part, found⟩ := Option.bind_eq_some_iff.mp found
    exact each w (List.mem_of_getElem? part) path entries found

/-! ## Values by their form -/

/-- Neither a sequence nor a map. -/
theorem isSorted_scalar {v : Value} (notSeq : v.asSeq? = Option.none)
    (notMap : v.asMap? = Option.none) : v.IsSorted := by
  refine .of_parts ?_ ?_
  · rintro entries rfl
    cases notMap
  · cases v with
    | seq items => cases notSeq
    | map entries => cases notMap
    | _ => exact List.forall_mem_nil _

theorem isSorted_seq_iff {items : List Value} :
    (seq items).IsSorted ↔ ∀ v ∈ items, v.IsSorted :=
  ⟨fun sorted _ mem => sorted.part mem, fun each => .of_parts (fun _ => Value.noConfusion) each⟩

theorem isSorted_map_iff {entries : List (String × Value)} :
    (map entries).IsSorted ↔ Table.IsSorted entries ∧ ∀ e ∈ entries, e.2.IsSorted := by
  constructor
  · intro sorted
    exact ⟨sorted [] entries rfl, fun e mem => sorted.part (List.mem_map_of_mem mem)⟩
  · rintro ⟨ordered, each⟩
    refine .of_parts ?_ ?_
    · rintro _ ⟨⟩
      exact ordered
    · exact List.forall_mem_map.mpr each

theorem isSorted_ofInt (n : Int) : (ofInt n).IsSorted := by
  unfold ofInt
  split <;> exact isSorted_scalar rfl rfl

theorem isSorted_ofNat (n : Nat) : (ofNat n).IsSorted := isSorted_ofInt n

theorem isSorted_ofText? (s : Option String) : (ofText? s).IsSorted := by
  cases s <;> exact isSorted_scalar rfl rfl

/-! ## Maps as tables -/

theorem isSorted_empty : (map []).IsSorted :=
  isSorted_map_iff.mpr ⟨Table.isSorted_nil, List.forall_mem_nil _⟩

theorem IsSorted.find? {t : Table Value} (sorted : (map t).IsSorted) {name : String} {v : Value}
    (found : t.find? name = some v) : v.IsSorted :=
  (isSorted_map_iff.mp sorted).2 _ (Table.mem_of_find? found)

theorem IsSorted.set {t : Table Value} (sorted : (map t).IsSorted) (name : String) {v : Value}
    (sortedToo : v.IsSorted) : (map (t.set name v)).IsSorted := by
  obtain ⟨ordered, each⟩ := isSorted_map_iff.mp sorted
  refine isSorted_map_iff.mpr ⟨ordered.set name v, fun e mem => ?_⟩
  rcases Table.mem_set mem with rfl | mem
  · exact sortedToo
  · exact each e mem

/-- A map is sorted whatever order its entries are given in. -/
theorem isSorted_ofEntries {entries : List (String × Value)} (each : ∀ e ∈ entries, e.2.IsSorted) :
    (ofEntries entries).IsSorted :=
  isSorted_map_iff.mpr
    ⟨Table.isSorted_ofList entries, fun e mem => each e (Table.mem_ofList mem)⟩

/-! ## The ways into a value -/

theorem isSorted_getD {found : Option Value} (each : ∀ v ∈ found, v.IsSorted) :
    (found.getD undefined).IsSorted := by
  cases found with
  | none => exact isSorted_scalar rfl rfl
  | some v => exact each v rfl

theorem IsSorted.attr {v : Value} (sorted : v.IsSorted) (name : String) :
    (v.attr name).IsSorted := by
  cases v with
  | map entries =>
    rw [Value.attr]
    split
    next value found => exact sorted.find? found
    · split
      · exact isSorted_ofNat _
      · exact isSorted_scalar rfl rfl
  | seq items =>
    have each := isSorted_seq_iff.mp sorted
    rw [Value.attr]
    split_ifs
    · exact isSorted_getD fun v first => each v (List.mem_of_head? first)
    · exact isSorted_getD fun v last => each v (List.mem_of_getLast? last)
    · exact isSorted_ofNat _
    · exact isSorted_scalar rfl rfl
  | string s =>
    rw [Value.attr]
    split
    · exact isSorted_ofNat _
    · exact isSorted_scalar rfl rfl
  | _ => exact isSorted_scalar rfl rfl

theorem IsSorted.item {v : Value} (sorted : v.IsSorted) (key : Value) :
    (v.item key).IsSorted := by
  unfold Value.item
  split
  next items index =>
    refine isSorted_getD fun w found => ?_
    obtain ⟨i, -, found⟩ := Option.bind_eq_some_iff.mp found
    exact isSorted_seq_iff.mp sorted w (List.mem_of_getElem? found)
  · exact sorted.attr _
  · exact isSorted_scalar rfl rfl

theorem IsSorted.ofEntry {e : String × Value} (sorted : e.2.IsSorted) : (ofEntry e).IsSorted :=
  isSorted_seq_iff.mpr
    (List.forall_mem_cons.mpr ⟨isSorted_scalar rfl rfl, List.forall_mem_singleton.mpr sorted⟩)

theorem IsSorted.iterate {v : Value} (sorted : v.IsSorted) {items : List Value}
    (iterated : v.iterate = .ok items) : ∀ w ∈ items, w.IsSorted := by
  unfold Value.iterate at iterated
  split at iterated <;> cases iterated
  · exact List.forall_mem_nil _
  · exact List.forall_mem_nil _
  · exact isSorted_seq_iff.mp sorted
  · exact List.forall_mem_map.mpr fun e mem => ((isSorted_map_iff.mp sorted).2 e mem).ofEntry
  · exact List.forall_mem_singleton.mpr (isSorted_scalar rfl rfl)

end Value

end Stencil
