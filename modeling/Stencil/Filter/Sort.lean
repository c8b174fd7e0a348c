import Stencil.Value.Compare

/-!
# Sorting

A stable sort by the sort order of values.  A short sequence is sorted by insertion from the left:
each item goes behind the last item before it that is not greater.  A longer one is merged.
-/

namespace Stencil.Filter

/-- Whether the first value has to stand before the second. -/
def before (a b : Value) : Bool := Value.sortCompare a b == .lt

/-- Whether the first value may stand before the second. -/
def notAfter (a b : Value) : Bool := Value.sortCompare a b != .gt

/-- Inserts an item into a sorted list that is held from its end to its start. -/
def insertFromEnd (v : Value) : List Value → List Value
  | [] => [v]
  | w :: rest => if before v w then w :: insertFromEnd v rest else v :: w :: rest

/-- Sorts by inserting one item after the other. -/
def insertionSort (items : List Value) : List Value :=
  (items.foldl (fun sorted v => insertFromEnd v sorted) []).reverse

/-- The greatest length that is sorted by insertion. -/
def insertionLimit : Nat := 20

def sortItems (items : List Value) : List Value :=
  if items.length ≤ insertionLimit then insertionSort items else items.mergeSort notAfter

theorem insertFromEnd_perm (v : Value) (items : List Value) :
    (insertFromEnd v items).Perm (v :: items) := by
  induction items with
  | nil => exact .refl _
  | cons w rest ih =>
    unfold insertFromEnd
    split
    · exact (ih.cons w).trans (.swap v w rest)
    · exact .refl _

@[simp] theorem insertionSort_nil : insertionSort [] = [] := rfl

end Stencil.Filter
