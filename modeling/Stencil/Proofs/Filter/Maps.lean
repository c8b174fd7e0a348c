import Stencil.Proofs.Document.Constants
import Stencil.Proofs.Filter.Sorting
import Stencil.Proofs.Render.Evaluation

/-!
# Filters and markup keep maps in order

Filters that are given sorted values answer with sorted values (`Filter.KeepsSorted`), as all those
that every engine starts with do.  So does the evaluation of markup where names stand for sorted
values: what an expression, a path or a variable comes to is sorted.
-/

namespace Stencil

/-- What it answers is a sorted value. -/
abbrev GivesSorted (r : Except Error Value) : Prop := Gives Value.IsSorted r

theorem givesSorted_scalar {v : Value} (notSeq : v.asSeq? = none) (notMap : v.asMap? = none) :
    GivesSorted (.ok v) :=
  .ok (Value.isSorted_scalar notSeq notMap)

/-! ## Arithmetic -/

namespace Value

theorem givesSorted_exactly (op : String) (a b : Value) (n : Int) :
    GivesSorted (exactly op a b n) := by
  unfold exactly
  split
  · exact givesSorted_scalar rfl rfl
  · exact .error

theorem givesSorted_calculate {ints : Int → Int → Except Error Value}
    {floats : Binary64 → Binary64 → Except Error Value} (onInts : ∀ m n, GivesSorted (ints m n))
    (onFloats : ∀ x y, GivesSorted (floats x y)) (a b : Value) :
    GivesSorted (calculate ints floats a b) := by
  refine .after fun x => .after fun y => ?_
  split
  · exact onInts _ _
  · exact onFloats _ _

theorem givesSorted_add (a b : Value) : GivesSorted (a.add b) :=
  givesSorted_calculate (fun _ _ => givesSorted_exactly _ a b _)
    (fun _ _ => givesSorted_scalar rfl rfl) a b

theorem givesSorted_sub (a b : Value) : GivesSorted (a.sub b) :=
  givesSorted_calculate (fun _ _ => givesSorted_exactly _ a b _)
    (fun _ _ => givesSorted_scalar rfl rfl) a b

theorem givesSorted_mul (a b : Value) : GivesSorted (a.mul b) :=
  givesSorted_calculate (fun _ _ => givesSorted_exactly _ a b _)
    (fun _ _ => givesSorted_scalar rfl rfl) a b

theorem givesSorted_div (a b : Value) : GivesSorted (a.div b) := by
  refine givesSorted_calculate (fun m n => ?_) (fun x y => ?_) a b
  · unfold divInts
    split
    · exact .error
    · exact givesSorted_exactly _ a b _
  · split
    · exact .error
    · exact givesSorted_scalar rfl rfl

theorem givesSorted_rem (a b : Value) : GivesSorted (a.rem b) := by
  refine givesSorted_calculate (fun m n => ?_) (fun x y => ?_) a b
  · unfold remInts
    split
    · exact .error
    · split
      · exact .error
      · exact givesSorted_exactly _ a b _
  · split
    · exact .error
    · exact givesSorted_scalar rfl rfl

theorem givesSorted_abs (v : Value) : GivesSorted v.abs := by
  refine .after fun x => ?_
  cases x with
  | float x => exact givesSorted_scalar rfl rfl
  | int n =>
    dsimp only
    split
    · exact givesSorted_scalar rfl rfl
    · exact .error

end Value

/-! ## Filters -/

namespace Filter

open Argument

/-- The filter answers sorted values with a sorted value. -/
def KeepsSorted (f : Filter) : Prop := ∀ args, (∀ a ∈ args, a.IsSorted) → GivesSorted (f args)

variable {α β γ : Type} [Argument α] [Argument β] [Argument γ]

theorem keepsSorted_unary {f : α → Except Error Value} (gives : ∀ a, GivesSorted (f a)) :
    (unary f).KeepsSorted :=
  fun _ _ => .after fun a => .after fun _ => gives a

theorem keepsSorted_binary {f : α → β → Except Error Value} (gives : ∀ a b, GivesSorted (f a b)) :
    (binary f).KeepsSorted :=
  fun _ _ => .after fun a => .after fun b => .after fun _ => gives a b

theorem keepsSorted_ternary {f : α → β → γ → Except Error Value}
    (gives : ∀ a b c, GivesSorted (f a b c)) : (ternary f).KeepsSorted :=
  fun _ _ => .after fun a => .after fun b => .after fun c => .after fun _ => gives a b c

theorem givesSorted_convert {args : List Value} (sorted : ∀ a ∈ args, a.IsSorted) (i : Nat) :
    GivesSorted (convert args[i]?) := by
  cases given : args[i]? with
  | none => exact .error
  | some v => exact .ok (sorted v (List.mem_of_getElem? given))

/-- A filter that takes its argument as it is. -/
theorem keepsSorted_ofValue {f : Value → Except Error Value}
    (gives : ∀ v, v.IsSorted → GivesSorted (f v)) : (unary f).KeepsSorted :=
  fun _ sorted => (givesSorted_convert sorted 0).bind fun v given => .after fun _ => gives v given

theorem keepsSorted_onText (f : List Char → List Char) : (onText f).KeepsSorted :=
  keepsSorted_unary fun _ => givesSorted_scalar rfl rfl

theorem isSorted_ofPieces (pieces : List (List Char)) : (ofPieces pieces).IsSorted :=
  Value.isSorted_seq_iff.mpr
    (List.forall_mem_map.mpr fun _ _ => Value.isSorted_scalar rfl rfl)

theorem isSorted_split (s sep : String) : (split s sep).IsSorted := by
  unfold split
  split_ifs <;> exact isSorted_ofPieces _

theorem isSorted_first {v : Value} (sorted : v.IsSorted) : (first v).IsSorted := by
  unfold first
  split
  · exact Value.isSorted_ofText? _
  · exact sorted.attr "first"

theorem isSorted_last {v : Value} (sorted : v.IsSorted) : (last v).IsSorted := by
  unfold last
  split
  · exact Value.isSorted_ofText? _
  · exact sorted.attr "last"

theorem gives_arranged (how : String) {v : Value} (sorted : v.IsSorted) :
    Gives (fun items => ∀ w ∈ items, w.IsSorted) (arranged how v) := by
  unfold arranged
  split
  · exact .ok (Value.isSorted_seq_iff.mp sorted)
  · split
    · exact .ok (List.forall_mem_nil _)
    · exact .error

theorem givesSorted_reverse {v : Value} (sorted : v.IsSorted) : GivesSorted (reverse v) :=
  (gives_arranged "reverse" sorted).bind fun _ each =>
    .ok (Value.isSorted_seq_iff.mpr fun w mem => each w (List.mem_reverse.mp mem))

theorem givesSorted_sort {v : Value} (sorted : v.IsSorted) : GivesSorted (sort v) :=
  (gives_arranged "sort" sorted).bind fun items each =>
    .ok (Value.isSorted_seq_iff.mpr fun w mem =>
      each w ((sortItems_perm items).mem_iff.mp mem))

theorem keepsSorted_default :
    (binary fun (v other : Value) => .ok (default v other)).KeepsSorted := by
  intro args sorted
  refine (givesSorted_convert sorted 0).bind fun v given =>
    (givesSorted_convert sorted 1).bind fun other also => .after fun _ => .ok ?_
  unfold default
  split
  · exact also
  · exact given

theorem IsBuiltin.keepsSorted {f : Filter} (isBuiltin : IsBuiltin f) : f.KeepsSorted := by
  obtain ⟨name, bound⟩ := isBuiltin
  have listed := Table.mem_ofList (Table.mem_of_find? bound)
  simp only [List.mem_cons, List.not_mem_nil, or_false, Prod.mk.injEq] at listed
  rcases listed with ⟨-, rfl⟩ | ⟨-, rfl⟩ | ⟨-, rfl⟩ | ⟨-, rfl⟩ | ⟨-, rfl⟩ | ⟨-, rfl⟩ | ⟨-, rfl⟩ |
    ⟨-, rfl⟩ | ⟨-, rfl⟩ | ⟨-, rfl⟩ | ⟨-, rfl⟩ | ⟨-, rfl⟩ | ⟨-, rfl⟩ | ⟨-, rfl⟩ | ⟨-, rfl⟩ |
    ⟨-, rfl⟩ | ⟨-, rfl⟩ | ⟨-, rfl⟩ | ⟨-, rfl⟩ | ⟨-, rfl⟩ | ⟨-, rfl⟩ | ⟨-, rfl⟩ | ⟨-, rfl⟩ |
    ⟨-, rfl⟩ | ⟨-, rfl⟩ | ⟨-, rfl⟩
  · exact keepsSorted_onText _
  · exact keepsSorted_onText _
  · exact keepsSorted_onText _
  · exact keepsSorted_binary fun _ _ => givesSorted_scalar rfl rfl
  · exact keepsSorted_binary fun _ _ => givesSorted_scalar rfl rfl
  · exact keepsSorted_onText _
  · exact keepsSorted_onText _
  · exact keepsSorted_onText _
  · exact keepsSorted_ternary fun _ _ _ => givesSorted_scalar rfl rfl
  · exact keepsSorted_binary fun _ _ => givesSorted_scalar rfl rfl
  · exact keepsSorted_binary fun s sep => .ok (isSorted_split s sep)
  · exact keepsSorted_binary fun _ _ => givesSorted_scalar rfl rfl
  · exact keepsSorted_unary fun _ => .ok (Value.isSorted_ofNat _)
  · exact keepsSorted_ofValue fun _ sorted => .ok (isSorted_first sorted)
  · exact keepsSorted_ofValue fun _ sorted => .ok (isSorted_last sorted)
  · exact keepsSorted_ofValue fun _ => givesSorted_reverse
  · exact keepsSorted_ofValue fun _ => givesSorted_sort
  · exact keepsSorted_default
  · exact keepsSorted_binary Value.givesSorted_add
  · exact keepsSorted_binary Value.givesSorted_sub
  · exact keepsSorted_binary Value.givesSorted_mul
  · exact keepsSorted_binary Value.givesSorted_div
  · exact keepsSorted_binary Value.givesSorted_rem
  · exact keepsSorted_unary Value.givesSorted_abs
  · exact keepsSorted_onText _
  · exact keepsSorted_unary fun _ => givesSorted_scalar rfl rfl

end Filter

/-! ## Markup -/

/-- Names stand for sorted values, and the filters keep values sorted. -/
structure Scope.IsSorted (s : Scope) : Prop where
  lookup : ∀ name, (s.lookup name).IsSorted
  filters : ∀ name f, s.filters.find? name = some f → f.KeepsSorted

theorem givesSorted_rangeValue (first last : Int64) : GivesSorted (rangeValue first last) := by
  unfold rangeValue
  split
  · exact .error
  · exact .ok (Value.isSorted_seq_iff.mpr
      (List.forall_mem_map.mpr fun _ _ => Value.isSorted_scalar rfl rfl))

namespace Scope

mutual

theorem givesSorted_eval {s : Scope} (sorted : s.IsSorted) (e : Expr) (constants : e.IsSorted) :
    GivesSorted (s.eval e) := by
  match e with
  | .const v =>
    rw [eval]
    exact .ok constants
  | .empty =>
    rw [eval]
    exact givesSorted_scalar rfl rfl
  | .path root segments =>
    rw [eval]
    exact givesSorted_follow sorted segments (sorted.lookup root)
  | .range first last =>
    rw [eval]
    exact .after fun _ => .after fun a => .after fun _ => .after fun b => givesSorted_rangeValue a b

/-- What a path leads to is found in the value that it begins with. -/
theorem givesSorted_follow {s : Scope} (sorted : s.IsSorted) {v : Value}
    (segments : List (Segment Expr)) (start : v.IsSorted) : GivesSorted (s.follow v segments) := by
  match segments with
  | [] =>
    rw [follow]
    exact .ok start
  | .attr name :: rest =>
    rw [follow]
    exact givesSorted_follow sorted rest (start.attr name)
  | .index e :: rest =>
    rw [follow]
    exact .after fun key => givesSorted_follow sorted rest (start.item key)

end

theorem gives_evalAll {s : Scope} (sorted : s.IsSorted) {es : List Expr}
    (constants : ∀ e ∈ es, e.IsSorted) :
    Gives (fun args => ∀ a ∈ args, a.IsSorted) (s.evalAll es) :=
  .mapM fun e mem => givesSorted_eval sorted e (constants e mem)

theorem givesSorted_applyAll {s : Scope} (sorted : s.IsSorted) {calls : List FilterCall}
    (constants : ∀ call ∈ calls, ∀ e ∈ call.args, e.IsSorted) {v : Value} (start : v.IsSorted) :
    GivesSorted (s.applyAll v calls) := by
  induction calls generalizing v with
  | nil => exact .ok start
  | cons call calls ih =>
    obtain ⟨own, others⟩ := List.forall_mem_cons.mp constants
    have applied : GivesSorted (s.apply call v) := by
      unfold apply
      split
      · exact .error
      next f bound =>
        exact (gives_evalAll sorted own).bind fun args given =>
          sorted.filters call.name f bound (v :: args) (List.forall_mem_cons.mpr ⟨start, given⟩)
    exact applied.bind fun _ => ih others

theorem givesSorted_evalVariable {s : Scope} (sorted : s.IsSorted) {v : Variable}
    (constants : ∀ e ∈ v.exprs, e.IsSorted) : GivesSorted (s.evalVariable v) := by
  obtain ⟨own, others⟩ := List.forall_mem_cons.mp constants
  exact (givesSorted_eval sorted v.expr own).bind fun _ start =>
    givesSorted_applyAll sorted (List.forall_mem_flatMap.mp others) start

end Scope

end Stencil
