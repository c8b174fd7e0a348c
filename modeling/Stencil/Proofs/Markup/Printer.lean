import Stencil.Markup.Reader
import Stencil.Proofs.Markup.Lexeme

/-!
# Writing markup

Markup is written in one way: strings in quotes, integers in decimal, ranges in parentheses, the
segments of a path right behind each other, one blank around each sign and each word, and one behind
each comma and colon.  What can be written is said by `Expr.Built`, which takes what constants may
be; how deep an expression nests by `Expr.nesting`.
-/

namespace Stencil

/-! ## Constants -/

namespace Value

/-- The quote that a string is written in: the double one, unless the string holds it. -/
def quoteFor (s : List Char) : Char := if '"' ∈ s then '\'' else '"'

/-- A constant in markup.  Only literals can be written. -/
def print : Value → List Char
  | .none => ['n', 'i', 'l']
  | .bool true => ['t', 'r', 'u', 'e']
  | .bool false => ['f', 'a', 'l', 's', 'e']
  | .int n => (intText n).toList
  | .string s => quoteFor s.toList :: (s.toList ++ [quoteFor s.toList])
  | _ => []

/-- A constant that can be written.  A string must do without commas and without one of the two
quotes. -/
def IsLiteral : Value → Prop
  | .none | .bool _ | .int _ => True
  | .string s => ',' ∉ s.toList ∧ ('"' ∉ s.toList ∨ '\'' ∉ s.toList)
  | _ => False

end Value

/-! ## Expressions -/

mutual

def Expr.print : Expr → List Char
  | .const v => v.print
  | .empty => ['e', 'm', 'p', 't', 'y']
  | .path root ss => root.toList ++ Expr.printSegments ss
  | .range a b => '(' :: (a.print ++ '.' :: '.' :: (b.print ++ [')']))

def Expr.printSegments : List (Segment Expr) → List Char
  | [] => []
  | .attr n :: ss => '.' :: (n.toList ++ Expr.printSegments ss)
  | .index e :: ss => '[' :: (e.print ++ ']' :: Expr.printSegments ss)

end

mutual

/-- How many expressions stand in each other, at most. -/
def Expr.nesting : Expr → Nat
  | .const _ | .empty => 1
  | .path _ ss => 1 + Expr.nestingSegments ss
  | .range a b => 1 + max a.nesting b.nesting

def Expr.nestingSegments : List (Segment Expr) → Nat
  | [] => 0
  | .attr _ :: ss => Expr.nestingSegments ss
  | .index e :: ss => max e.nesting (Expr.nestingSegments ss)

end

/-- The text of one segment. -/
def Segment.print : Segment Expr → List Char
  | .attr n => '.' :: n.toList
  | .index e => '[' :: (e.print ++ [']'])

def Segment.nesting : Segment Expr → Nat
  | .attr _ => 0
  | .index e => e.nesting

theorem Segment.print_ne_nil (segment : Segment Expr) : segment.print ≠ [] := by
  cases segment <;> exact List.cons_ne_nil _ _

theorem Expr.printSegments_eq (ss : List (Segment Expr)) :
    printSegments ss = ss.flatMap Segment.print := by
  induction ss with
  | nil => rfl
  | cons segment ss ih =>
    rw [List.flatMap_cons, ← ih]
    cases segment with
    | attr n => rfl
    | index e => simp [printSegments, Segment.print]

theorem Expr.nestingSegments_le_iff (ss : List (Segment Expr)) (n : Nat) :
    nestingSegments ss ≤ n ↔ ∀ segment ∈ ss, segment.nesting ≤ n := by
  induction ss with
  | nil => exact iff_of_true (Nat.zero_le n) (List.forall_mem_nil _)
  | cons segment ss ih =>
    rw [List.forall_mem_cons, ← ih]
    cases segment with
    | attr m => exact (and_iff_right (Nat.zero_le n)).symm
    | index e => exact Nat.max_le

theorem Expr.nesting_pos (e : Expr) : 0 < e.nesting := by
  cases e <;> rw [nesting] <;> omega

section Built

variable (literal : Value → Prop)

mutual

/-- An expression of constants for which `literal` holds, and of names.  A path does not begin with
a word that means something else. -/
def Expr.Built : Expr → Prop
  | .const v => literal v
  | .empty => True
  | .path root ss =>
    Lexeme.SpellsName root.toList ∧ Reader.word? root = none ∧ Expr.BuiltSegments ss
  | .range a b => a.Built ∧ b.Built

def Expr.BuiltSegments : List (Segment Expr) → Prop
  | [] => True
  | .attr n :: ss => Lexeme.SpellsName n.toList ∧ Expr.BuiltSegments ss
  | .index e :: ss => e.Built ∧ Expr.BuiltSegments ss

end

def Segment.Built : Segment Expr → Prop
  | .attr n => Lexeme.SpellsName n.toList
  | .index e => e.Built literal

theorem Expr.builtSegments_iff (ss : List (Segment Expr)) :
    BuiltSegments literal ss ↔ ∀ segment ∈ ss, segment.Built literal := by
  induction ss with
  | nil => exact iff_of_true trivial (List.forall_mem_nil _)
  | cons segment ss ih =>
    rw [List.forall_mem_cons, ← ih]
    cases segment <;> exact Iff.rfl

end Built

/-! ## Conditions and filters -/

def Comparison.sign : Comparison → List Char
  | .eq => ['=', '=']
  | .ne => ['!', '=']
  | .gt => ['>']
  | .ge => ['>', '=']
  | .lt => ['<']
  | .le => ['<', '=']
  | .contains => ['c', 'o', 'n', 't', 'a', 'i', 'n', 's']

def Connective.word : Connective → List Char
  | .and => ['a', 'n', 'd']
  | .or => ['o', 'r']

namespace Condition

def print : Condition → List Char
  | .value e => e.print
  | .compare left op right => left.print ++ ' ' :: (op.sign ++ ' ' :: right.print)

def exprs : Condition → List Expr
  | .value e => [e]
  | .compare left _ right => [left, right]

theorem forall_exprs_compare {left right : Expr} {op : Comparison} {p : Expr → Prop} :
    (∀ e ∈ (compare left op right).exprs, p e) ↔ p left ∧ p right := by
  rw [exprs, List.forall_mem_cons, List.forall_mem_singleton]

/-- A connective and the condition behind it. -/
def printLinked (link : Connective × Condition) : List Char :=
  ' ' :: (link.1.word ++ ' ' :: link.2.print)

end Condition

namespace ConditionChain

def print (c : ConditionChain) : List Char := c.first.print ++ c.rest.flatMap Condition.printLinked

def exprs (c : ConditionChain) : List Expr := c.first.exprs ++ c.rest.flatMap (·.2.exprs)

end ConditionChain

namespace FilterCall

/-- An argument behind another one. -/
def printNext (e : Expr) : List Char := ',' :: ' ' :: e.print

def printArgs : List Expr → List Char
  | [] => []
  | e :: es => ':' :: ' ' :: (e.print ++ es.flatMap printNext)

def print (f : FilterCall) : List Char := ' ' :: '|' :: ' ' :: (f.name.toList ++ printArgs f.args)

/-- A filter with a name that can be written. -/
def Named (f : FilterCall) : Prop :=
  f.name.toList ≠ [] ∧ ∀ c ∈ f.name.toList, Lexeme.endsFilterName c = false

end FilterCall

end Stencil
