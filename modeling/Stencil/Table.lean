/-!
# Tables

A table binds names to things.  It is a list of pairs in ascending order of the names, by code
points, with each name at most once; `set` keeps that order.  So the order in which a table is
listed never depends on the order in which it was filled.
-/

namespace Stencil

/-- Bindings of names, in ascending order of the names. -/
abbrev Table (α : Type) := List (String × α)

namespace Table

variable {α β : Type}

/-- What a name is bound to. -/
def find? (t : Table α) (name : String) : Option α := t.lookup name

def binds (t : Table α) (name : String) : Bool := (t.find? name).isSome

def names (t : Table α) : List String := t.map Prod.fst

/-- Binds a name, in the place of an older binding. -/
def set (t : Table α) (name : String) (a : α) : Table α :=
  match t with
  | [] => [(name, a)]
  | (n, b) :: t =>
    if name < n then (name, a) :: (n, b) :: t
    else if name = n then (name, a) :: t
    else (n, b) :: set t name a

/-- Binds a name unless it is bound. -/
def setNew (t : Table α) (name : String) (a : α) : Table α :=
  if t.binds name then t else t.set name a

/-- Removes the binding of a name. -/
def unset (t : Table α) (name : String) : Table α := t.filter fun e => e.1 != name

/-- The table of a list of pairs; of two bindings of one name the later one holds. -/
def ofList (entries : List (String × α)) : Table α :=
  entries.foldl (fun t e => t.set e.1 e.2) []

/-! ## Reading what was written -/

@[simp] theorem find?_nil (name : String) : find? ([] : Table α) name = none := rfl

@[simp] theorem find?_set_self (t : Table α) (name : String) (a : α) :
    (t.set name a).find? name = some a := by
  induction t with
  | nil => simp [set, find?]
  | cons e t ih =>
    obtain ⟨n, b⟩ := e
    unfold set
    split
    · simp [find?]
    · split
      · simp [find?]
      · next _ h => simpa [find?, List.lookup_cons, beq_eq_false_iff_ne.2 h] using ih

theorem find?_set_of_ne (t : Table α) {name other : String} (h : other ≠ name) (a : α) :
    (t.set name a).find? other = t.find? other := by
  induction t with
  | nil => simp [set, find?, List.lookup_cons, beq_eq_false_iff_ne.2 h]
  | cons e t ih =>
    obtain ⟨n, b⟩ := e
    unfold set
    split
    · simp [find?, List.lookup_cons, beq_eq_false_iff_ne.2 h]
    · split
      · next _ hn =>
        subst hn
        simp [find?, List.lookup_cons, beq_eq_false_iff_ne.2 h]
      · simp only [find?, List.lookup_cons] at ih ⊢
        rw [ih]

theorem find?_setNew (t : Table α) (name other : String) (a : α) :
    (t.setNew name a).find? other =
      if other = name ∧ t.find? name = none then some a else t.find? other := by
  unfold setNew binds
  cases hf : t.find? name with
  | none =>
    by_cases h : other = name
    · subst h
      simp
    · simp [h, find?_set_of_ne t h]
  | some b => simp

theorem find?_foldl_setNew (entries t : Table α) (name : String) :
    (entries.foldl (fun t e => t.setNew e.1 e.2) t).find? name =
      (t.find? name).or (List.lookup name entries) := by
  induction entries generalizing t with
  | nil => exact (Option.or_none ..).symm
  | cons e entries ih =>
    rw [List.foldl_cons, ih, find?_setNew, List.lookup_cons]
    by_cases same : name = e.1
    · subst same
      rw [beq_self_eq_true]
      cases t.find? e.1 <;> simp
    · rw [beq_eq_false_iff_ne.2 same, if_neg fun h => same h.1]

theorem find?_foldl_set (entries t : Table α) (name : String) :
    (entries.foldl (fun t e => t.set e.1 e.2) t).find? name =
      (List.lookup name entries.reverse).or (t.find? name) := by
  induction entries generalizing t with
  | nil => rfl
  | cons e entries ih =>
    rw [List.foldl_cons, ih, List.reverse_cons, List.lookup_append, Option.or_assoc]
    obtain ⟨n, b⟩ := e
    congr 1
    by_cases same : name = n
    · subst same
      simp
    · rw [find?_set_of_ne t same, List.lookup_cons, beq_eq_false_iff_ne.2 same]
      rfl

theorem find?_ofList (entries : List (String × α)) (name : String) :
    (ofList entries).find? name = List.lookup name entries.reverse := by
  rw [ofList, find?_foldl_set, find?_nil, Option.or_none]

/-! ## Writing again -/

theorem set_set (t : Table α) (name : String) (a b : α) :
    (t.set name a).set name b = t.set name b := by
  have set_cons (t : Table α) : Table.set ((name, a) :: t) name b = (name, b) :: t := by
    rw [set, if_neg (String.lt_irrefl name), if_pos rfl]
  induction t with
  | nil => exact set_cons []
  | cons e t ih =>
    obtain ⟨n, c⟩ := e
    by_cases before : name < n
    · rw [set, if_pos before, set_cons, set, if_pos before]
    · by_cases same : name = n
      · rw [set, if_neg before, if_pos same, set_cons, set, if_neg before, if_pos same]
      · simp only [set, if_neg before, if_neg same, ih]

theorem set_comm (t : Table α) {name other : String} (apart : name ≠ other) (a b : α) :
    (t.set name a).set other b = (t.set other b).set name a := by
  -- Of two names one comes first, and each of them comes before, at or behind the first entry.
  induction t with
  | nil => grind [set, String.lt_asymm, String.le_antisymm, String.not_lt]
  | cons e t ih => grind [set, String.lt_asymm, String.le_antisymm, String.not_lt]

/-! ## What a table holds -/

theorem mem_of_find? {t : Table α} {name : String} {a : α} (h : t.find? name = some a) :
    (name, a) ∈ t := by
  induction t with
  | nil => cases h
  | cons e t ih =>
    obtain ⟨n, b⟩ := e
    by_cases hn : name = n
    · subst hn
      obtain rfl : b = a := by simpa [find?] using h
      exact List.mem_cons_self ..
    · have : find? t name = some a := by
        simpa [find?, List.lookup_cons, beq_eq_false_iff_ne.2 hn] using h
      exact List.mem_cons_of_mem _ (ih this)

theorem mem_set {t : Table α} {name : String} {a : α} {e : String × α} (h : e ∈ t.set name a) :
    e = (name, a) ∨ e ∈ t := by
  induction t with
  | nil => exact .inl (List.mem_singleton.1 h)
  | cons f t ih =>
    unfold set at h
    split at h
    · exact List.mem_cons.1 h
    · split at h
      · exact (List.mem_cons.1 h).imp_right (List.mem_cons_of_mem _)
      · rcases List.mem_cons.1 h with rfl | h
        · exact .inr (List.mem_cons_self ..)
        · exact (ih h).imp_right (List.mem_cons_of_mem _)

theorem mem_foldl_set (entries t : Table α) {e : String × α}
    (h : e ∈ entries.foldl (fun t e => t.set e.1 e.2) t) : e ∈ t ∨ e ∈ entries := by
  induction entries generalizing t with
  | nil => exact .inl h
  | cons f entries ih =>
    rcases ih _ h with h | h
    · rcases mem_set h with rfl | h
      · exact .inr (List.mem_cons_self ..)
      · exact .inl h
    · exact .inr (List.mem_cons_of_mem _ h)

theorem mem_ofList {entries : List (String × α)} {e : String × α} (h : e ∈ ofList entries) :
    e ∈ entries :=
  (mem_foldl_set entries [] h).resolve_left List.not_mem_nil

end Table

end Stencil
