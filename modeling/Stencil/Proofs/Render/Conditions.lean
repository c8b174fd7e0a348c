import Stencil.Render.Evaluate

/-!
# Chains of conditions

A chain means its conditions nested to the right (`Formula`): in front stands one condition, and
what follows its connective is all the rest, which counts only if the first condition does not
decide.  Chains are evaluated in a loop from the left instead, which carries along the condition
that is next (`ConditionChain.walk`).  The two are equal in every monad (`walk_eq_holds`), so they
do not only come to the same answer but also evaluate the same conditions in the same order; a monad
that keeps a record of them says which ones these are (`Scope.evaluated`).
-/

namespace Stencil

/-! ## The meaning of a chain -/

/-- Conditions that nest to the right. -/
inductive Formula where
  | single (c : Condition)
  | and (c : Condition) (rest : Formula)
  | or (c : Condition) (rest : Formula)

/-- A condition and the linked conditions behind it. -/
def Formula.linked (c : Condition) : List (Connective × Condition) → Formula
  | [] => single c
  | (.and, next) :: rest => and c (linked next rest)
  | (.or, next) :: rest => or c (linked next rest)

def ConditionChain.formula (chain : ConditionChain) : Formula := .linked chain.first chain.rest

/-- The conditions of a chain in order. -/
def ConditionChain.conditions (chain : ConditionChain) : List Condition :=
  chain.first :: chain.rest.map Prod.snd

section Monads

variable {m : Type → Type} [Monad m] (evaluate : Condition → m Bool)

/-- Whether a formula holds, if conditions are evaluated with `evaluate`.  The condition in front
comes first, and the rest only if it is not decided without. -/
def Formula.holds : Formula → m Bool
  | single c => evaluate c
  | and c rest => do if ← evaluate c then rest.holds else pure false
  | or c rest => do if ← evaluate c then pure true else rest.holds

theorem holds_linked_and (c next : Condition) (rest : List (Connective × Condition)) :
    (Formula.linked c ((.and, next) :: rest)).holds evaluate = (do
      let value ← evaluate c
      if value then (Formula.linked next rest).holds evaluate else pure false) := rfl

theorem holds_linked_or (c next : Condition) (rest : List (Connective × Condition)) :
    (Formula.linked c ((.or, next) :: rest)).holds evaluate = (do
      let value ← evaluate c
      if value then pure true else (Formula.linked next rest).holds evaluate) := rfl

/-- Whether a chain holds, in a loop that is left as soon as a condition decides. -/
def ConditionChain.walk (chain : ConditionChain) : m Bool := do
  let mut condition := chain.first
  for (op, next) in chain.rest do
    let value ← evaluate condition
    match op, value with
    | .and, false => return false
    | .or, true => return true
    | _, _ => condition := next
  evaluate condition

/-- The loop comes to the meaning of the chain, whatever evaluating a condition does.  The condition
that it carries along is the one in front of the connectives that are left. -/
theorem ConditionChain.walk_eq_holds [LawfulMonad m] (chain : ConditionChain) :
    chain.walk evaluate = chain.formula.holds evaluate := by
  obtain ⟨first, rest⟩ := chain
  unfold walk formula
  induction rest generalizing first with
  | nil => simp [Formula.linked, Formula.holds]
  | cons link rest ih =>
    obtain ⟨op, next⟩ := link
    simp only [List.forIn_cons, bind_assoc]
    cases op with
    | and =>
      rw [holds_linked_and]
      refine bind_congr fun value => ?_
      cases value with
      | true => simpa using ih next
      | false => simp
    | or =>
      rw [holds_linked_or]
      refine bind_congr fun value => ?_
      cases value with
      | true => simp
      | false => simpa using ih next

end Monads

/-! ## What is evaluated -/

/-- The conditions that a connective follows, with that connective. -/
def ConditionChain.links (chain : ConditionChain) : List (Condition × Connective) :=
  chain.conditions.zip (chain.rest.map Prod.fst)

namespace Scope

variable (s : Scope)

/-- Whether a condition in front of a connective leaves it to those behind whether the chain
holds. -/
def leavesOpen (link : Condition × Connective) : Bool :=
  match link.2, s.holds link.1 with
  | .and, .ok true => true
  | .or, .ok false => true
  | _, _ => false

/-- The conditions that count: those at the beginning that leave it open, and the next one. -/
def evaluated (chain : ConditionChain) : List Condition :=
  chain.conditions.take ((chain.links.takeWhile s.leavesOpen).length + 1)

/-- Evaluates a condition and keeps a record of it. -/
def holdsRecorded (c : Condition) : ExceptT Error (StateM (List Condition)) Bool := do
  modify (· ++ [c])
  ExceptT.mk (pure (s.holds c))

/-- An evaluated condition is put down, whether it fails or not. -/
theorem run_holdsRecorded_bind (c : Condition)
    (next : Bool → ExceptT Error (StateM (List Condition)) Bool) (log : List Condition) :
    (s.holdsRecorded c >>= next).run.run log =
      match s.holds c with
      | .ok value => (next value).run.run (log ++ [c])
      | .error e => (.error e, log ++ [c]) := by
  show (ExceptT.bindCont next (s.holds c)).run (log ++ [c]) = _
  cases s.holds c <;> rfl

theorem evaluated_cons (c : Condition) (op : Connective) (next : Condition)
    (rest : List (Connective × Condition)) :
    s.evaluated ⟨c, (op, next) :: rest⟩ =
      c :: if s.leavesOpen (c, op) then s.evaluated ⟨next, rest⟩ else [] := by
  have links : ConditionChain.links ⟨c, (op, next) :: rest⟩ =
      (c, op) :: ConditionChain.links ⟨next, rest⟩ := rfl
  unfold evaluated
  rw [links, List.takeWhile_cons]
  cases s.leavesOpen (c, op) <;> rfl

/-- What is run is the meaning of the chain. -/
theorem holdsLinked_eq (c : Condition) (rest : List (Connective × Condition)) :
    s.holdsLinked c rest = (Formula.linked c rest).holds s.holds := by
  induction rest generalizing c with
  | nil => rfl
  | cons link rest ih =>
    obtain ⟨op, next⟩ := link
    rw [holdsLinked, ih]
    cases op with
    | and =>
      rw [holds_linked_and]
      rcases s.holds c with e | _ | _ <;> rfl
    | or =>
      rw [holds_linked_or]
      rcases s.holds c with e | _ | _ <;> rfl

/-- With a record, the same answer is come to, and the conditions that count are recorded. -/
theorem run_linked (c : Condition) (rest : List (Connective × Condition)) (log : List Condition) :
    ((Formula.linked c rest).holds s.holdsRecorded).run.run log =
      ((Formula.linked c rest).holds s.holds, log ++ s.evaluated ⟨c, rest⟩) := by
  induction rest generalizing c log with
  | nil => rfl
  | cons link rest ih =>
    obtain ⟨op, next⟩ := link
    have further := ih next (log ++ [c])
    rw [List.append_assoc] at further
    rw [evaluated_cons, leavesOpen]
    cases op with
    | and =>
      rw [holds_linked_and, holds_linked_and, run_holdsRecorded_bind]
      rcases s.holds c with e | _ | _
      · rfl
      · rfl
      · exact further
    | or =>
      rw [holds_linked_or, holds_linked_or, run_holdsRecorded_bind]
      rcases s.holds c with e | _ | _
      · rfl
      · exact further
      · rfl

/-- A condition that leaves it open has a value and hands over to the conditions behind it, and one
that does not gives the answer. -/
theorem holds_linked_cases (c : Condition) (op : Connective) (next : Condition)
    (rest : List (Connective × Condition)) :
    (s.leavesOpen (c, op) = true ∧ (∃ value, s.holds c = .ok value) ∧
      (Formula.linked c ((op, next) :: rest)).holds s.holds =
        (Formula.linked next rest).holds s.holds) ∨
    (s.leavesOpen (c, op) = false ∧
      (Formula.linked c ((op, next) :: rest)).holds s.holds = s.holds c) := by
  unfold leavesOpen
  cases op with
  | and =>
    rw [holds_linked_and]
    rcases s.holds c with e | _ | _
    · exact .inr ⟨rfl, rfl⟩
    · exact .inr ⟨rfl, rfl⟩
    · exact .inl ⟨rfl, ⟨true, rfl⟩, rfl⟩
  | or =>
    rw [holds_linked_or]
    rcases s.holds c with e | _ | _
    · exact .inr ⟨rfl, rfl⟩
    · exact .inl ⟨rfl, ⟨false, rfl⟩, rfl⟩
    · exact .inr ⟨rfl, rfl⟩

/-- The last condition that counts gives the answer, and those before it have values. -/
theorem evaluated_cases (c : Condition) (rest : List (Connective × Condition)) :
    ∃ before last, s.evaluated ⟨c, rest⟩ = before ++ [last] ∧
      (∀ d ∈ before, ∃ value, s.holds d = .ok value) ∧
      (Formula.linked c rest).holds s.holds = s.holds last := by
  induction rest generalizing c with
  | nil => exact ⟨[], c, rfl, fun _ h => absurd h List.not_mem_nil, rfl⟩
  | cons link rest ih =>
    obtain ⟨op, next⟩ := link
    rw [evaluated_cons]
    rcases s.holds_linked_cases c op next rest with ⟨leaves, value, same⟩ | ⟨decides, answer⟩
    · obtain ⟨before, last, counts, values, answer⟩ := ih next
      rw [leaves, same, counts]
      exact ⟨c :: before, last, rfl, List.forall_mem_cons.2 ⟨value, values⟩, answer⟩
    · rw [decides]
      exact ⟨[], c, rfl, fun _ h => absurd h List.not_mem_nil, answer⟩

/-- Another scope may differ in the conditions that do not count. -/
theorem holds_linked_of_agree {t : Scope} (c : Condition) (rest : List (Connective × Condition))
    (agree : ∀ d ∈ s.evaluated ⟨c, rest⟩, t.holds d = s.holds d) :
    (Formula.linked c rest).holds t.holds = (Formula.linked c rest).holds s.holds := by
  induction rest generalizing c with
  | nil => exact agree c (List.mem_singleton.2 rfl)
  | cons link rest ih =>
    obtain ⟨op, next⟩ := link
    rw [evaluated_cons, List.forall_mem_cons] at agree
    obtain ⟨same, behind⟩ := agree
    have leavesOpen_eq : t.leavesOpen (c, op) = s.leavesOpen (c, op) := by
      unfold leavesOpen
      rw [same]
    rcases s.holds_linked_cases c op next rest with ⟨leaves, -, answer⟩ | ⟨decides, answer⟩ <;>
      rcases t.holds_linked_cases c op next rest with ⟨leaves', -, answer'⟩ | ⟨decides', answer'⟩
    · rw [leaves] at behind
      rw [answer, answer']
      exact ih next behind
    · rw [leaves, decides'] at leavesOpen_eq
      cases leavesOpen_eq
    · rw [decides, leaves'] at leavesOpen_eq
      cases leavesOpen_eq
    · rw [answer, answer', same]

/-- What a scope makes of a chain. -/
structure ReadsChain (chain : ConditionChain) : Prop where
  /-- The loop is what is run. -/
  loop : chain.walk s.holds = s.holdsChain chain
  nested : s.holdsChain chain = chain.formula.holds s.holds
  /-- The loop evaluates the conditions that count, in order and each of them once, and no other. -/
  recorded : (chain.walk s.holdsRecorded).run.run [] = (s.holdsChain chain, s.evaluated chain)
  /-- The answer is that of the last of them. -/
  last : ∃ c, (s.evaluated chain).getLast? = some c ∧ s.holdsChain chain = s.holds c
  /-- If one of them fails, so does the chain. -/
  fails : ∀ c ∈ s.evaluated chain, ∀ e, s.holds c = .error e → s.holdsChain chain = .error e
  /-- What the others would come to does not matter. -/
  unread : ∀ t : Scope, (∀ c ∈ s.evaluated chain, t.holds c = s.holds c) →
    t.holdsChain chain = s.holdsChain chain

/-- A chain of any length is evaluated as its conditions nest to the right, and only as far as it is
not decided. -/
theorem readsChain (chain : ConditionChain) : s.ReadsChain chain := by
  obtain ⟨c, rest⟩ := chain
  have nested (t : Scope) : t.holdsChain ⟨c, rest⟩ = (Formula.linked c rest).holds t.holds :=
    t.holdsLinked_eq c rest
  obtain ⟨before, last, counts, values, answer⟩ := s.evaluated_cases c rest
  constructor
  case loop =>
    rw [ConditionChain.walk_eq_holds]
    exact (nested s).symm
  case nested => exact nested s
  case recorded =>
    rw [ConditionChain.walk_eq_holds, nested]
    exact s.run_linked c rest []
  case last => exact ⟨last, by rw [counts, List.getLast?_concat], (nested s).trans answer⟩
  case fails =>
    intro d mem e failed
    rw [counts, List.mem_append, List.mem_singleton] at mem
    rcases mem with mem | rfl
    · obtain ⟨value, given⟩ := values d mem
      rw [given] at failed
      cases failed
    · rw [nested, answer, failed]
  case unread =>
    intro t agree
    rw [nested, nested]
    exact s.holds_linked_of_agree c rest agree

/-- In `nil and 'x' > 1 or 2`, nil decides, and the comparison is left alone, which would fail. -/
example (s : Scope) :
    s.holdsChain ⟨.value (.const .none),
      [(.and, .compare (.const (.string "x")) .gt (.const (.int 1))),
        (.or, .value (.const (.int 2)))]⟩ = .ok false := rfl

end Scope

end Stencil
