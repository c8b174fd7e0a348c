import Stencil.Filter.Builtin
import Stencil.Render.Evaluate

/-!
# What evaluation fails with

Whatever fails while values are computed is an error of rendering (`FailsRendering`): conversions,
arithmetic and comparisons fail with causes of rendering only, so do the filters that every engine
starts with, and so does the evaluation of markup in a scope whose filters do.
-/

namespace Stencil

/-- Whatever it fails with is an error of rendering. -/
def FailsRendering {α : Type} (r : Except Error α) : Prop :=
  ∀ e, r = .error e → e.category = .rendering

namespace FailsRendering

variable {α β : Type}

theorem ok (a : α) : FailsRendering (.ok a : Except Error α) := by
  intro e failed
  cases failed

theorem error {e : Error} (rendering : e.category = .rendering) :
    FailsRendering (.error e : Except Error α) := by
  intro e' failed
  cases failed
  exact rendering

theorem bind {r : Except Error α} {f : α → Except Error β} (first : FailsRendering r)
    (next : ∀ a, FailsRendering (f a)) : FailsRendering (r >>= f) := by
  intro e failed
  rcases bind_eq_error.mp failed with failed | ⟨a, -, failed⟩
  · exact first e failed
  · exact next a e failed

theorem map {r : Except Error α} (f : α → β) (fails : FailsRendering r) :
    FailsRendering (r.map f) :=
  fun e failed => fails e (map_eq_error.mp failed)

theorem mapM {f : α → Except Error β} (fails : ∀ a, FailsRendering (f a)) (items : List α) :
    FailsRendering (items.mapM f) := by
  induction items with
  | nil => exact .ok []
  | cons a items ih =>
    rw [List.mapM_cons]
    exact (fails a).bind fun _ => ih.bind fun _ => .ok _

end FailsRendering

/-! ## Values -/

namespace Value

theorem failsRendering_toNumber (v : Value) : FailsRendering v.toNumber := by
  cases v with
  | undefined => exact .ok _
  | none => exact .ok _
  | int n => exact .ok _
  | float x => exact .ok _
  | string s =>
    unfold toNumber
    dsimp only
    cases readNumber? s with
    | none => exact .error rfl
    | some n => exact .ok n
  | bool b => exact .error rfl
  | seq items => exact .error rfl
  | map entries => exact .error rfl

theorem failsRendering_exactly (op : String) (a b : Value) (n : Int) :
    FailsRendering (exactly op a b n) := by
  unfold exactly
  cases int64? n with
  | none => exact .error rfl
  | some n => exact .ok _

/-- A calculation fails in its operands or in the operation. -/
theorem failsRendering_calculate {ints : Int → Int → Except Error Value}
    {floats : Binary64 → Binary64 → Except Error Value} (onInts : ∀ m n, FailsRendering (ints m n))
    (onFloats : ∀ x y, FailsRendering (floats x y)) (a b : Value) :
    FailsRendering (calculate ints floats a b) := by
  refine (failsRendering_toNumber a).bind fun x => (failsRendering_toNumber b).bind fun y => ?_
  split
  · exact onInts _ _
  · exact onFloats _ _

theorem failsRendering_add (a b : Value) : FailsRendering (a.add b) :=
  failsRendering_calculate (fun _ _ => failsRendering_exactly _ a b _) (fun _ _ => .ok _) a b

theorem failsRendering_sub (a b : Value) : FailsRendering (a.sub b) :=
  failsRendering_calculate (fun _ _ => failsRendering_exactly _ a b _) (fun _ _ => .ok _) a b

theorem failsRendering_mul (a b : Value) : FailsRendering (a.mul b) :=
  failsRendering_calculate (fun _ _ => failsRendering_exactly _ a b _) (fun _ _ => .ok _) a b

/-- An operation that is refused for a divisor of zero. -/
theorem failsRendering_ofDivisor {α : Type} {isZero : Prop} [Decidable isZero]
    {r : Except Error α} (fails : FailsRendering r) :
    FailsRendering (if isZero then .error Cause.dividedByZero else r) := by
  by_cases zero : isZero
  · rw [if_pos zero]
    exact .error rfl
  · rw [if_neg zero]
    exact fails

theorem failsRendering_div (a b : Value) : FailsRendering (a.div b) :=
  failsRendering_calculate (fun _ _ => failsRendering_ofDivisor (failsRendering_exactly _ a b _))
    (fun _ _ => failsRendering_ofDivisor (.ok _)) a b

theorem failsRendering_rem (a b : Value) : FailsRendering (a.rem b) := by
  refine failsRendering_calculate (fun m n => failsRendering_ofDivisor ?_)
    (fun _ _ => failsRendering_ofDivisor (.ok _)) a b
  by_cases fits : FitsInt64 (Int.fdiv m n)
  · rw [if_neg (not_not_intro fits)]
    exact failsRendering_exactly _ a b _
  · rw [if_pos fits]
    exact .error rfl

theorem failsRendering_abs (v : Value) : FailsRendering v.abs := by
  refine (failsRendering_toNumber v).bind fun x => ?_
  cases x with
  | float x => exact .ok _
  | int n =>
    dsimp only
    cases int64? n.toInt.natAbs with
    | none => exact .error rfl
    | some n => exact .ok _

theorem failsRendering_iterate (v : Value) : FailsRendering v.iterate := by
  cases v with
  | bool b => exact .error rfl
  | int n => exact .error rfl
  | float x => exact .error rfl
  | _ => exact .ok _

end Value

/-! ## Filters -/

/-- A type that no conversion of an argument fails for but with an error of rendering. -/
class Argument.Fails (α : Type) [Argument α] : Prop where
  convert : ∀ v?, FailsRendering (Argument.convert (α := α) v?)

namespace Argument

theorem failsRendering_required {α : Type} {f : Value → Except Error α}
    (fails : ∀ v, FailsRendering (f v)) (v? : Option Value) : FailsRendering (required f v?) := by
  cases v? with
  | none => exact .error rfl
  | some v => exact fails v

instance : Fails Value := ⟨failsRendering_required fun v => .ok v⟩

instance : Fails String := ⟨failsRendering_required fun v => .ok v.display⟩

instance {α : Type} [Argument α] [Fails α] : Fails (Option α) where
  convert v? := by
    cases v? with
    | none => exact .ok none
    | some v =>
      show FailsRendering (if v.isNil = true then _ else _)
      by_cases nil : v.isNil = true
      · rw [if_pos nil]
        exact .ok none
      · rw [if_neg nil]
        exact (Fails.convert (some v)).map some

theorem failsRendering_atMost (most : Nat) (args : List Value) :
    FailsRendering (atMost most args) := by
  unfold atMost
  by_cases tooMany : most < args.length
  · rw [if_pos tooMany]
    exact .error rfl
  · rw [if_neg tooMany]
    exact .ok ()

end Argument

namespace Filter

open Argument

/-- The filter is one of those that every engine starts with. -/
def IsBuiltin (f : Filter) : Prop := ∃ name, builtin.find? name = some f

/-- Every name is bound to such a filter or to none. -/
def OnlyBuiltin (filters : Table Filter) : Prop :=
  ∀ name f, filters.find? name = some f → IsBuiltin f

theorem onlyBuiltin_builtin : OnlyBuiltin builtin := fun name _ bound => ⟨name, bound⟩

variable {α β γ : Type} [Argument α] [Argument β] [Argument γ] [Fails α] [Fails β] [Fails γ]

theorem failsRendering_unary {f : α → Except Error Value} (fails : ∀ a, FailsRendering (f a))
    (args : List Value) : FailsRendering (unary f args) :=
  (Fails.convert _).bind fun a => (failsRendering_atMost 1 args).bind fun _ => fails a

theorem failsRendering_binary {f : α → β → Except Error Value}
    (fails : ∀ a b, FailsRendering (f a b)) (args : List Value) :
    FailsRendering (binary f args) :=
  (Fails.convert _).bind fun a => (Fails.convert _).bind fun b =>
    (failsRendering_atMost 2 args).bind fun _ => fails a b

theorem failsRendering_ternary {f : α → β → γ → Except Error Value}
    (fails : ∀ a b c, FailsRendering (f a b c)) (args : List Value) :
    FailsRendering (ternary f args) :=
  (Fails.convert _).bind fun a => (Fails.convert _).bind fun b => (Fails.convert _).bind fun c =>
    (failsRendering_atMost 3 args).bind fun _ => fails a b c

theorem failsRendering_onText (f : List Char → List Char) (args : List Value) :
    FailsRendering (onText f args) :=
  failsRendering_unary (fun _ => .ok _) args

theorem failsRendering_arranged (how : String) (v : Value) : FailsRendering (arranged how v) := by
  cases v with
  | undefined => exact .ok []
  | none => exact .ok []
  | seq items => exact .ok items
  | _ => exact .error rfl

theorem failsRendering_reverse (v : Value) : FailsRendering (reverse v) :=
  (failsRendering_arranged "reverse" v).bind fun _ => .ok _

theorem failsRendering_sort (v : Value) : FailsRendering (sort v) :=
  (failsRendering_arranged "sort" v).bind fun _ => .ok _

/-- Whatever a filter that every engine starts with fails with is an error of rendering. -/
theorem IsBuiltin.failsRendering {f : Filter} (isBuiltin : IsBuiltin f) (args : List Value) :
    FailsRendering (f args) := by
  obtain ⟨name, bound⟩ := isBuiltin
  have listed := Table.mem_ofList (Table.mem_of_find? bound)
  simp only [List.mem_cons, List.not_mem_nil, or_false, Prod.mk.injEq] at listed
  rcases listed with ⟨-, rfl⟩ | ⟨-, rfl⟩ | ⟨-, rfl⟩ | ⟨-, rfl⟩ | ⟨-, rfl⟩ | ⟨-, rfl⟩ | ⟨-, rfl⟩ |
    ⟨-, rfl⟩ | ⟨-, rfl⟩ | ⟨-, rfl⟩ | ⟨-, rfl⟩ | ⟨-, rfl⟩ | ⟨-, rfl⟩ | ⟨-, rfl⟩ | ⟨-, rfl⟩ |
    ⟨-, rfl⟩ | ⟨-, rfl⟩ | ⟨-, rfl⟩ | ⟨-, rfl⟩ | ⟨-, rfl⟩ | ⟨-, rfl⟩ | ⟨-, rfl⟩ | ⟨-, rfl⟩ |
    ⟨-, rfl⟩ | ⟨-, rfl⟩ | ⟨-, rfl⟩
  · exact failsRendering_onText _ args
  · exact failsRendering_onText _ args
  · exact failsRendering_onText _ args
  · exact failsRendering_binary (fun _ _ => .ok _) args
  · exact failsRendering_binary (fun _ _ => .ok _) args
  · exact failsRendering_onText _ args
  · exact failsRendering_onText _ args
  · exact failsRendering_onText _ args
  · exact failsRendering_ternary (fun _ _ _ => .ok _) args
  · exact failsRendering_binary (fun _ _ => .ok _) args
  · exact failsRendering_binary (fun _ _ => .ok _) args
  · exact failsRendering_binary (fun _ _ => .ok _) args
  · exact failsRendering_unary (fun _ => .ok _) args
  · exact failsRendering_unary (fun _ => .ok _) args
  · exact failsRendering_unary (fun _ => .ok _) args
  · exact failsRendering_unary failsRendering_reverse args
  · exact failsRendering_unary failsRendering_sort args
  · exact failsRendering_binary (fun _ _ => .ok _) args
  · exact failsRendering_binary Value.failsRendering_add args
  · exact failsRendering_binary Value.failsRendering_sub args
  · exact failsRendering_binary Value.failsRendering_mul args
  · exact failsRendering_binary Value.failsRendering_div args
  · exact failsRendering_binary Value.failsRendering_rem args
  · exact failsRendering_unary Value.failsRendering_abs args
  · exact failsRendering_onText _ args
  · exact failsRendering_unary (fun _ => .ok _) args

end Filter

/-! ## Markup -/

theorem failsRendering_rangeBound (v : Value) : FailsRendering (rangeBound v) := by
  unfold rangeBound
  split
  · exact .ok _
  · exact .ok _
  · exact .error rfl

theorem failsRendering_rangeValue (first last : Int64) :
    FailsRendering (rangeValue first last) := by
  unfold rangeValue
  split
  · exact .error rfl
  · exact .ok _

theorem failsRendering_compareOrder (op : Comparison) (a b : Value) :
    FailsRendering (Scope.compareOrder op a b) := by
  unfold Scope.compareOrder
  split
  · exact .ok false
  · split
    · exact .ok _
    · exact .error rfl

theorem failsRendering_compareValues (op : Comparison) (a b : Value) :
    FailsRendering (Scope.compareValues op a b) := by
  cases op with
  | eq => exact .ok _
  | ne => exact .ok _
  | contains => exact .ok _
  | _ => exact failsRendering_compareOrder _ a b

namespace Scope

mutual

theorem failsRendering_eval (s : Scope) : ∀ e, FailsRendering (s.eval e)
  | .const v => by
    rw [eval]
    exact .ok v
  | .empty => by
    rw [eval]
    exact .ok _
  | .path root segments => by
    rw [eval]
    exact s.failsRendering_follow (s.lookup root) segments
  | .range first last => by
    rw [eval]
    exact (s.failsRendering_eval first).bind fun a => (failsRendering_rangeBound a).bind fun _ =>
      (s.failsRendering_eval last).bind fun b => (failsRendering_rangeBound b).bind fun _ =>
        failsRendering_rangeValue _ _

theorem failsRendering_follow (s : Scope) (v : Value) :
    ∀ segments, FailsRendering (s.follow v segments)
  | [] => by
    rw [follow]
    exact .ok v
  | .attr name :: rest => by
    rw [follow]
    exact s.failsRendering_follow (v.attr name) rest
  | .index e :: rest => by
    rw [follow]
    exact (s.failsRendering_eval e).bind fun key => s.failsRendering_follow (v.item key) rest

end

theorem failsRendering_holds (s : Scope) (c : Condition) : FailsRendering (s.holds c) := by
  unfold holds
  split
  · exact (s.failsRendering_eval _).bind fun _ => .ok _
  · exact (s.failsRendering_eval _).bind fun _ => .ok _
  · exact (s.failsRendering_eval _).bind fun _ => .ok _
  · exact (s.failsRendering_eval _).bind fun _ => (s.failsRendering_eval _).bind fun _ =>
      failsRendering_compareValues _ _ _

theorem failsRendering_holdsLinked (s : Scope) (c : Condition)
    (rest : List (Connective × Condition)) : FailsRendering (s.holdsLinked c rest) := by
  induction rest generalizing c with
  | nil => exact s.failsRendering_holds c
  | cons link rest ih =>
    refine (s.failsRendering_holds c).bind fun b => ?_
    split
    · exact .ok false
    · exact .ok true
    · exact ih _

/-- Applying filters fails where a filter does, or where there is none of the name. -/
theorem failsRendering_applyAll {s : Scope} (filters : Filter.OnlyBuiltin s.filters)
    (calls : List FilterCall) (v : Value) : FailsRendering (s.applyAll v calls) := by
  induction calls generalizing v with
  | nil => exact .ok v
  | cons call calls ih =>
    have applied : FailsRendering (s.apply call v) := by
      unfold apply
      split
      · exact .error rfl
      · next f bound =>
        exact (FailsRendering.mapM s.failsRendering_eval call.args).bind fun args =>
          (filters call.name f bound).failsRendering (v :: args)
    exact applied.bind ih

theorem failsRendering_evalVariable {s : Scope} (filters : Filter.OnlyBuiltin s.filters)
    (v : Variable) : FailsRendering (s.evalVariable v) :=
  (s.failsRendering_eval v.expr).bind fun value => failsRendering_applyAll filters v.filters value

end Scope

end Stencil
