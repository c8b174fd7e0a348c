import Stencil.Render.Output

/-!
# What captures return

Any calls may be made on an output, with captures that are never ended and ends of captures that
have never begun.  Which end belongs to which beginning, and what an end returns, are told here by
the order of the calls alone (`Output.Closes`, `Output.Returns`), without captures inside of each
other.  The output is a stack of captures instead.  What the two have in common is the list of the
calls that have left something behind: captures that are open, and texts that no end has returned
(`Output.Ledger`).  Making these calls and no others comes to the same output.
-/

namespace Stencil

/-! ## The text of an output -/

theorem Sink.close_write (s : Sink) (text : String) :
    (s.write text).close.text = s.close.text ++ text := by
  cases s with
  | joined t => rfl
  | fragments parts => by_cases empty : text = "" <;> simp [write, close, RenderOutput.text, empty]

namespace Output

theorem close_pour (s : Sink) (c : String) (cs : List String) :
    (pour s c cs).close.text = s.close.text ++ String.join cs.reverse ++ c := by
  induction cs generalizing c with
  | nil => simp [pour, Sink.close_write]
  | cons d cs ih => simp [pour, ih, String.append_assoc]

/-- Captures that are still open are written out from the outermost to the innermost. -/
theorem text_finish_eq (o : Output) :
    o.finish.text = o.sink.close.text ++ String.join o.captures.reverse := by
  obtain ⟨s, captures⟩ := o
  cases captures with
  | nil => simp [finish, flush]
  | cons c cs => simp [finish, flush, close_pour, String.append_assoc]

/-- Wherever a text is written, it is the last one of all. -/
theorem text_finish_write (o : Output) (text : String) :
    (o.write text).finish.text = o.finish.text ++ text := by
  obtain ⟨s, captures⟩ := o
  rw [text_finish_eq, text_finish_eq]
  cases captures with
  | nil => simp [write, Sink.close_write]
  | cons c cs => simp [write, String.append_assoc]

theorem text_finish_beginCapture (o : Output) : o.beginCapture.finish.text = o.finish.text := by
  simp [text_finish_eq, beginCapture]

/-! ## Calls -/

/-- A call on an output. -/
inductive Call where
  | beginCapture
  | endCapture
  | write (text : String)

namespace Call

/-- The text that a call writes. -/
def text? : Call → Option String
  | write text => some text
  | _ => none

def exec (o : Output) : Call → Output
  | beginCapture => o.beginCapture
  | endCapture => o.endCapture.2
  | write text => o.write text

end Call

/-- The output after some calls. -/
def after (o : Output) (calls : List Call) : Output := calls.foldl Call.exec o

/-- What the end of a capture returns at a place among the calls. -/
def answerAt (o : Output) (calls : List Call) (place : Nat) : String :=
  (o.after (calls.take place)).endCapture.1

/-- The texts that calls write, one after the other. -/
def written (calls : List Call) : String := String.join (calls.filterMap Call.text?)

@[simp] theorem after_nil (o : Output) : o.after [] = o := rfl

@[simp] theorem after_cons (o : Output) (call : Call) (calls : List Call) :
    o.after (call :: calls) = (call.exec o).after calls := rfl

@[simp] theorem written_nil : written [] = "" := rfl

@[simp] theorem written_beginCapture (calls : List Call) :
    written (.beginCapture :: calls) = written calls := rfl

@[simp] theorem written_write (text : String) (calls : List Call) :
    written (.write text :: calls) = text ++ written calls :=
  String.join_cons

theorem after_append (o : Output) (calls more : List Call) :
    o.after (calls ++ more) = (o.after calls).after more :=
  List.foldl_append

theorem after_concat (o : Output) (calls : List Call) (call : Call) :
    o.after (calls ++ [call]) = call.exec (o.after calls) := by
  rw [after_append]
  rfl

/-- Calls of which none ends a capture only add what they write. -/
theorem text_finish_after (o : Output) {calls : List Call} (noEnd : .endCapture ∉ calls) :
    (o.after calls).finish.text = o.finish.text ++ written calls := by
  induction calls generalizing o with
  | nil => simp
  | cons call calls ih =>
    rw [List.mem_cons, not_or] at noEnd
    rw [after_cons, ih _ noEnd.2]
    cases call with
    | beginCapture => rw [Call.exec, text_finish_beginCapture, written_beginCapture]
    | endCapture => exact absurd rfl noEnd.1
    | write text => rw [Call.exec, text_finish_write, written_write, String.append_assoc]

/-- The calls write, and do nothing else. -/
def OnlyWrites (calls : List Call) : Prop := ∀ call ∈ calls, ∃ text, call = .write text

theorem after_writes_of_capture (s : Sink) (c : String) (cs : List String) {calls : List Call}
    (writes : OnlyWrites calls) :
    (Output.mk s (c :: cs)).after calls = ⟨s, (c ++ written calls) :: cs⟩ := by
  induction calls generalizing c with
  | nil => simp
  | cons call calls ih =>
    obtain ⟨⟨text, rfl⟩, others⟩ := List.forall_mem_cons.1 writes
    rw [after_cons, Call.exec, write_capture, ih _ others, written_write, String.append_assoc]

/-- A capture returns what was written since it has begun, and leaves the output as before. -/
theorem endCapture_after_writes (o : Output) {calls : List Call} (writes : OnlyWrites calls) :
    (o.beginCapture.after calls).endCapture = (written calls, o) := by
  rw [beginCapture, after_writes_of_capture o.sink "" o.captures writes, String.empty_append]
  rfl

theorem captures_after_writes {o : Output} (closed : o.captures = []) {calls : List Call}
    (writes : OnlyWrites calls) : (o.after calls).captures = [] := by
  induction calls generalizing o with
  | nil => exact closed
  | cons call calls ih =>
    obtain ⟨⟨text, rfl⟩, others⟩ := List.forall_mem_cons.1 writes
    refine ih ?_ others
    simp [Call.exec, write, closed]

/-! ## What the order of the calls tells -/

section History

variable (calls : List Call)

/-- The end of a capture at place `j` closes the capture that has begun at place `i`: the last one
that has begun before and that no earlier end has closed. -/
def Closes (j i : Nat) : Prop :=
  calls[j]? = some .endCapture ∧ calls[i]? = some .beginCapture ∧ i < j ∧
    (∀ e, e < j → ¬ Closes e i) ∧
    ∀ b, i < b → b < j → calls[b]? = some .beginCapture → ∃ e, ∃ _ : e < j, Closes e b
termination_by j

/-- Something is written at the place. -/
def WritesAt (k : Nat) : Prop := ∃ text, calls[k]? = some (.write text)

/-- The end of a capture at place `j` returns what is written at place `k`: it is written since the
capture has begun, and no end in between has returned it. -/
def Returns (j k : Nat) : Prop :=
  ∃ i, Closes calls j i ∧ i < k ∧ k < j ∧ WritesAt calls k ∧
    ∀ e, i < e → e < j → ¬ Returns e k
termination_by j

/-- After the first `n` calls, what has been called at place `k` has left something behind: a
capture that is open, or a text that no end has returned. -/
def Pending (n k : Nat) : Prop :=
  k < n ∧ ((calls[k]? = some .beginCapture ∧ ∀ e, e < n → ¬ Closes calls e k) ∨
    (WritesAt calls k ∧ ∀ e, e < n → ¬ Returns calls e k))

/-- The calls at some places. -/
def callsAt (places : List Nat) : List Call := places.filterMap (calls[·]?)

/-- After the first `n` calls, these are the places in order at which something has been left, and
the calls at the other places might as well not have been made. -/
structure Ledger (o : Output) (n : Nat) (places : List Nat) : Prop where
  sorted : places.Pairwise (· < ·)
  mem_iff : ∀ k, k ∈ places ↔ Pending calls n k
  same : o.after (calls.take n) = o.after (callsAt calls places)

variable {calls} {o : Output} {n : Nat} {places : List Nat}

theorem Closes.isEnd {j i : Nat} (closes : Closes calls j i) : calls[j]? = some .endCapture := by
  rw [Closes] at closes
  exact closes.1

theorem Closes.begins {j i : Nat} (closes : Closes calls j i) :
    calls[i]? = some .beginCapture ∧ i < j := by
  rw [Closes] at closes
  exact ⟨closes.2.1, closes.2.2.1⟩

/-- An end closes one capture. -/
theorem Closes.unique {j i b : Nat} (first : Closes calls j i) (second : Closes calls j b) :
    i = b := by
  obtain ⟨begins, before⟩ := first.begins
  obtain ⟨begins', before'⟩ := second.begins
  rw [Closes] at first second
  obtain ⟨-, -, -, stillOpen, last⟩ := first
  obtain ⟨-, -, -, stillOpen', last'⟩ := second
  rcases Nat.lt_trichotomy i b with less | same | less
  · obtain ⟨e, earlier, closes⟩ := last b less before' begins'
    exact absurd closes (stillOpen' e earlier)
  · exact same
  · obtain ⟨e, earlier, closes⟩ := last' i less before begins
    exact absurd closes (stillOpen e earlier)

theorem Returns.writesAt {j k : Nat} (returns : Returns calls j k) : WritesAt calls k ∧ k < j := by
  rw [Returns] at returns
  obtain ⟨i, -, -, before, writes, -⟩ := returns
  exact ⟨writes, before⟩

theorem Returns.isEnd {j k : Nat} (returns : Returns calls j k) :
    calls[j]? = some .endCapture := by
  rw [Returns] at returns
  obtain ⟨i, closes, -⟩ := returns
  exact closes.isEnd

theorem not_writesAt {k : Nat} (begins : calls[k]? = some .beginCapture) : ¬ WritesAt calls k := by
  rintro ⟨text, writes⟩
  rw [begins] at writes
  cases writes

/-- What is left behind stays until an end takes it away, and what is called last is added. -/
theorem pending_succ {k : Nat} :
    Pending calls (n + 1) k ↔ (Pending calls n k ∧ ¬ Closes calls n k ∧ ¬ Returns calls n k) ∨
      k = n ∧ (calls[k]? = some .beginCapture ∨ WritesAt calls k) := by
  constructor
  · rintro ⟨before, left⟩
    rcases Nat.lt_succ_iff_lt_or_eq.1 before with before | rfl
    · refine .inl ⟨⟨before, left.imp ?_ ?_⟩, ?_, ?_⟩
      · exact fun h => ⟨h.1, fun e earlier => h.2 e (Nat.lt_succ_of_lt earlier)⟩
      · exact fun h => ⟨h.1, fun e earlier => h.2 e (Nat.lt_succ_of_lt earlier)⟩
      · intro closes
        rcases left with ⟨-, never⟩ | ⟨writes, -⟩
        · exact never n (Nat.lt_succ_self n) closes
        · exact not_writesAt closes.begins.1 writes
      · intro returns
        rcases left with ⟨begins, -⟩ | ⟨-, never⟩
        · exact not_writesAt begins returns.writesAt.1
        · exact never n (Nat.lt_succ_self n) returns
    · exact .inr ⟨rfl, left.imp And.left And.left⟩
  · rintro (⟨⟨before, left⟩, notClosed, notReturned⟩ | ⟨rfl, called⟩)
    · refine ⟨Nat.lt_succ_of_lt before, left.imp ?_ ?_⟩
      · refine fun h => ⟨h.1, fun e earlier => ?_⟩
        rcases Nat.lt_succ_iff_lt_or_eq.1 earlier with earlier | rfl
        · exact h.2 e earlier
        · exact notClosed
      · refine fun h => ⟨h.1, fun e earlier => ?_⟩
        rcases Nat.lt_succ_iff_lt_or_eq.1 earlier with earlier | rfl
        · exact h.2 e earlier
        · exact notReturned
    · refine ⟨Nat.lt_succ_self k, called.imp ?_ ?_⟩
      · exact fun h => ⟨h, fun e earlier closes =>
          Nat.not_lt.2 (Nat.lt_succ_iff.1 earlier) closes.begins.2⟩
      · exact fun h => ⟨h, fun e earlier returns =>
          Nat.not_lt.2 (Nat.lt_succ_iff.1 earlier) returns.writesAt.2⟩

/-- An end leaves nothing itself. -/
theorem pending_succ_of_end {k : Nat} (called : calls[n]? = some .endCapture) :
    Pending calls (n + 1) k ↔ Pending calls n k ∧ ¬ Closes calls n k ∧ ¬ Returns calls n k := by
  rw [pending_succ]
  refine or_iff_left ?_
  rintro ⟨rfl, begins | ⟨text, writes⟩⟩
  · rw [called] at begins
    cases begins
  · rw [called] at writes
    cases writes

theorem callsAt_append (calls : List Call) (places more : List Nat) :
    callsAt calls (places ++ more) = callsAt calls places ++ callsAt calls more :=
  List.filterMap_append

theorem callsAt_cons {k : Nat} {call : Call} (called : calls[k]? = some call) (places : List Nat) :
    callsAt calls (k :: places) = call :: callsAt calls places :=
  List.filterMap_cons_some called

theorem ledger_zero (calls : List Call) (o : Output) : Ledger calls o 0 [] where
  sorted := .nil
  mem_iff k := by simp [Pending]
  same := rfl

/-- A call that ends no capture is put down behind the others. -/
theorem Ledger.append (ledger : Ledger calls o n places) {call : Call}
    (called : calls[n]? = some call) (noEnd : call ≠ .endCapture) :
    Ledger calls o (n + 1) (places ++ [n]) := by
  have notEnd : calls[n]? ≠ some .endCapture := by
    rw [called]
    exact fun same => noEnd (Option.some.inj same)
  constructor
  case sorted =>
    refine List.pairwise_append.2 ⟨ledger.sorted, List.pairwise_singleton .., fun k hk m hm => ?_⟩
    rw [List.mem_singleton.1 hm]
    exact ((ledger.mem_iff k).1 hk).1
  case mem_iff =>
    intro k
    rw [List.mem_append, List.mem_singleton, ledger.mem_iff, pending_succ]
    refine or_congr ?_ ?_
    · exact ⟨fun left => ⟨left, fun h => notEnd h.isEnd, fun h => notEnd h.isEnd⟩, And.left⟩
    · refine ⟨?_, And.left⟩
      rintro rfl
      refine ⟨rfl, ?_⟩
      cases call with
      | beginCapture => exact .inl called
      | endCapture => exact absurd rfl noEnd
      | write text => exact .inr ⟨text, called⟩
  case same =>
    rw [List.take_add_one, called, callsAt_append, callsAt_cons called]
    show o.after (calls.take n ++ [call]) = o.after (callsAt calls places ++ [call])
    rw [after_concat, after_concat, ledger.same]

theorem onlyWrites_callsAt {places : List Nat} (writes : ∀ k ∈ places, WritesAt calls k) :
    OnlyWrites (callsAt calls places) := by
  intro call mem
  obtain ⟨k, hk, called⟩ := List.mem_filterMap.1 mem
  obtain ⟨text, same⟩ := writes k hk
  exact ⟨text, Option.some.inj (called.symm.trans same)⟩

/-- What has been left behind and is no capture is a text. -/
theorem Ledger.writesAt (ledger : Ledger calls o n places) {k : Nat} (mem : k ∈ places)
    (other : calls[k]? ≠ some .beginCapture) : WritesAt calls k :=
  ((ledger.mem_iff k).1 mem).2.elim (fun h => absurd h.1 other) And.left

/-- Without an open capture, an end closes and returns nothing. -/
theorem Ledger.idle (ledger : Ledger calls o n places) (closed : o.captures = [])
    (called : calls[n]? = some .endCapture)
    (noCapture : ∀ k ∈ places, calls[k]? ≠ some .beginCapture) :
    (∀ i, ¬ Closes calls n i) ∧ (o.after (calls.take n)).captures = [] ∧
      Ledger calls o (n + 1) places := by
  have notClosed (i : Nat) : ¬ Closes calls n i := by
    intro closes
    obtain ⟨begins, before⟩ := closes.begins
    rw [Closes] at closes
    exact noCapture i ((ledger.mem_iff i).2 ⟨before, .inl ⟨begins, closes.2.2.2.1⟩⟩) begins
  have notReturned (k : Nat) : ¬ Returns calls n k := by
    intro returns
    rw [Returns] at returns
    obtain ⟨i, closes, -⟩ := returns
    exact notClosed i closes
  have none : (o.after (calls.take n)).captures = [] := by
    rw [ledger.same]
    exact captures_after_writes closed
      (onlyWrites_callsAt fun k mem => ledger.writesAt mem (noCapture k mem))
  refine ⟨notClosed, none, ledger.sorted, fun k => ?_, ?_⟩
  · rw [pending_succ_of_end called, ← ledger.mem_iff]
    exact ⟨fun mem => ⟨mem, notClosed k, notReturned k⟩, And.left⟩
  · rw [List.take_add_one, called]
    show o.after (calls.take n ++ [.endCapture]) = _
    rw [after_concat, ← ledger.same, Call.exec, endCapture, none]

/-- An end closes the last capture that is open, and returns the texts behind it. -/
theorem Ledger.closes {before behind : List Nat} {i : Nat}
    (ledger : Ledger calls o n (before ++ i :: behind)) (called : calls[n]? = some .endCapture)
    (begins : calls[i]? = some .beginCapture)
    (noCapture : ∀ k ∈ behind, calls[k]? ≠ some .beginCapture) :
    Closes calls n i ∧ ∀ k, Returns calls n k ↔ k ∈ behind := by
  obtain ⟨-, sorted, first⟩ := List.pairwise_append.1 ledger.sorted
  obtain ⟨later, -⟩ := List.pairwise_cons.1 sorted
  have atLast := (ledger.mem_iff i).1 (by simp)
  have mem_behind {k : Nat} (left : Pending calls n k) (less : i < k) : k ∈ behind := by
    rcases List.mem_append.1 ((ledger.mem_iff k).2 left) with mem | mem
    · exact absurd (first k mem i (List.mem_cons_self ..)) (Nat.lt_asymm less)
    · exact (List.mem_cons.1 mem).resolve_left (Nat.ne_of_gt less)
  have closes : Closes calls n i := by
    rw [Closes]
    refine ⟨called, begins, atLast.1, ?_, fun b less before' begins' => ?_⟩
    · exact (atLast.2.resolve_right fun h => not_writesAt begins h.1).2
    · refine Classical.byContradiction fun unclosed => ?_
      have left : Pending calls n b :=
        ⟨before', .inl ⟨begins', fun e earlier closes => unclosed ⟨e, earlier, closes⟩⟩⟩
      exact noCapture b (mem_behind left less) begins'
  refine ⟨closes, fun k => ⟨fun returns => ?_, fun mem => ?_⟩⟩
  · obtain ⟨writes, before'⟩ := returns.writesAt
    rw [Returns] at returns
    obtain ⟨j, closesToo, less, -, -, notInner⟩ := returns
    obtain rfl := closes.unique closesToo
    refine mem_behind ⟨before', .inr ⟨writes, fun e earlier returned => ?_⟩⟩ less
    exact notInner e (Nat.lt_trans less returned.writesAt.2) earlier returned
  · obtain ⟨before', left⟩ := (ledger.mem_iff k).1 (by simp [mem])
    obtain ⟨writes, never⟩ := left.resolve_left fun h => noCapture k mem h.1
    rw [Returns]
    exact ⟨i, closes, later k mem, before', writes, fun e _ earlier => never e earlier⟩

/-- Behind an end, what it has closed and returned is not left any more. -/
theorem Ledger.behindEnd {before behind : List Nat} {i : Nat}
    (ledger : Ledger calls o n (before ++ i :: behind)) (called : calls[n]? = some .endCapture)
    (begins : calls[i]? = some .beginCapture)
    (noCapture : ∀ k ∈ behind, calls[k]? ≠ some .beginCapture) :
    (o.after (calls.take n)).isCapturing = true ∧
      o.answerAt calls n = written (callsAt calls behind) ∧ Ledger calls o (n + 1) before := by
  obtain ⟨closes, returns⟩ := ledger.closes called begins noCapture
  obtain ⟨sorted, sortedBehind, first⟩ := List.pairwise_append.1 ledger.sorted
  obtain ⟨later, -⟩ := List.pairwise_cons.1 sortedBehind
  have writes : OnlyWrites (callsAt calls behind) :=
    onlyWrites_callsAt fun k mem => ledger.writesAt (by simp [mem]) (noCapture k mem)
  have now : o.after (calls.take n) =
      (o.after (callsAt calls before)).beginCapture.after (callsAt calls behind) := by
    rw [ledger.same, callsAt_append, callsAt_cons begins, after_append]
    rfl
  have ended := endCapture_after_writes (o.after (callsAt calls before)) writes
  rw [← now] at ended
  refine ⟨?_, congrArg Prod.fst ended, sorted, fun k => ?_, ?_⟩
  · rw [now, beginCapture, after_writes_of_capture _ _ _ writes]
    rfl
  · rw [pending_succ_of_end called, ← ledger.mem_iff, returns]
    constructor
    · intro mem
      refine ⟨List.mem_append_left _ mem, fun closesToo => ?_, fun memBehind => ?_⟩
      · exact Nat.ne_of_lt (first k mem i (List.mem_cons_self ..)) (closesToo.unique closes)
      · exact Nat.lt_irrefl k (first k mem k (List.mem_cons_of_mem _ memBehind))
    · rintro ⟨mem, notClosed, notReturned⟩
      refine (List.mem_append.1 mem).resolve_right fun mem => ?_
      rcases List.mem_cons.1 mem with rfl | mem
      · exact notClosed closes
      · exact notReturned mem
  · rw [List.take_add_one, called]
    show o.after (calls.take n ++ [.endCapture]) = _
    rw [after_concat]
    exact congrArg Prod.snd ended

/-- The places either hold no capture that has begun, or there is a last one. -/
theorem last_capture (calls : List Call) (places : List Nat) :
    (∀ k ∈ places, calls[k]? ≠ some .beginCapture) ∨
      ∃ before i behind, places = before ++ i :: behind ∧ calls[i]? = some .beginCapture ∧
        ∀ k ∈ behind, calls[k]? ≠ some .beginCapture := by
  induction places with
  | nil => exact .inl fun _ h => absurd h List.not_mem_nil
  | cons k places ih =>
    rcases ih with none | ⟨before, i, behind, rfl, begins, noCapture⟩
    · by_cases begins : calls[k]? = some .beginCapture
      · exact .inr ⟨[], k, places, rfl, begins, none⟩
      · exact .inl (List.forall_mem_cons.2 ⟨begins, none⟩)
    · exact .inr ⟨k :: before, i, behind, rfl, begins, noCapture⟩

/-- The text is what is written at the places with a property, in the order of the calls. -/
def Collects (calls : List Call) (property : Nat → Prop) (text : String) : Prop :=
  ∃ places : List Nat, places.Pairwise (· < ·) ∧ (∀ k, k ∈ places ↔ property k) ∧
    text = written (callsAt calls places)

/-- What an end does: it closes a capture if one is open, and answers with what it returns. -/
structure EndsRight (calls : List Call) (o : Output) (j : Nat) : Prop where
  closes : (o.after (calls.take j)).isCapturing = true ↔ ∃ i, Closes calls j i
  returns : Collects calls (Returns calls j) (o.answerAt calls j)

theorem Ledger.step (ledger : Ledger calls o n places) (closed : o.captures = [])
    (called : calls[n]? = some .endCapture) :
    EndsRight calls o n ∧ ∃ next, Ledger calls o (n + 1) next := by
  rcases last_capture calls places with noCapture | ⟨before, i, behind, rfl, begins, noCapture⟩
  · obtain ⟨notClosed, none, next⟩ := ledger.idle closed called noCapture
    have silent : o.answerAt calls n = "" := by
      rw [answerAt, endCapture, none]
    refine ⟨⟨?_, [], .nil, fun k => ?_, silent⟩, places, next⟩
    · simp [isCapturing, none, notClosed]
    · rw [Returns]
      simp [notClosed]
  · obtain ⟨closes, returns⟩ := ledger.closes called begins noCapture
    obtain ⟨isCapturing, answer, next⟩ := ledger.behindEnd called begins noCapture
    have sorted := (List.pairwise_append.1 ledger.sorted).2.1
    refine ⟨⟨?_, behind, (List.pairwise_cons.1 sorted).2, fun k => (returns k).symm, answer⟩,
      before, next⟩
    exact ⟨fun _ => ⟨i, closes⟩, fun _ => isCapturing⟩

theorem exists_ledger (calls : List Call) (closed : o.captures = []) {n : Nat}
    (bounded : n ≤ calls.length) : ∃ places, Ledger calls o n places := by
  induction n with
  | zero => exact ⟨[], ledger_zero calls o⟩
  | succ n ih =>
    obtain ⟨places, ledger⟩ := ih (Nat.le_of_succ_le bounded)
    have called : calls[n]? = some calls[n] := List.getElem?_eq_getElem bounded
    by_cases isEnd : calls[n] = .endCapture
    · rw [isEnd] at called
      exact (ledger.step closed called).2
    · exact ⟨places ++ [n], ledger.append called isEnd⟩

/-- The places at which something is written. -/
def textPlaces (calls : List Call) (places : List Nat) : List Nat :=
  places.filter fun k => (calls[k]?.bind Call.text?).isSome

theorem mem_textPlaces {k : Nat} : k ∈ textPlaces calls places ↔ k ∈ places ∧ WritesAt calls k := by
  rw [textPlaces, List.mem_filter, WritesAt]
  rcases calls[k]? with _ | _ | _ | text <;> simp [Call.text?]

/-- No text is written anywhere else. -/
theorem written_textPlaces (calls : List Call) (places : List Nat) :
    written (callsAt calls (textPlaces calls places)) = written (callsAt calls places) := by
  unfold written callsAt textPlaces
  rw [List.filterMap_filterMap, List.filterMap_filterMap, List.filterMap_filter]
  refine congrArg (fun f => String.join (places.filterMap f)) (funext fun k => ?_)
  cases calls[k]?.bind Call.text? <;> rfl

/-- Of the texts, those are left in the end that no end has returned. -/
theorem pending_length_iff {k : Nat} :
    Pending calls calls.length k ∧ WritesAt calls k ↔
      WritesAt calls k ∧ ∀ j, ¬ Returns calls j k := by
  constructor
  · rintro ⟨⟨-, left⟩, writes⟩
    refine ⟨writes, fun j returns => ?_⟩
    obtain ⟨-, never⟩ := left.resolve_left fun h => not_writesAt h.1 writes
    obtain ⟨bounded, -⟩ := List.getElem?_eq_some_iff.1 returns.isEnd
    exact never j bounded returns
  · rintro ⟨writes, never⟩
    obtain ⟨text, called⟩ := writes
    obtain ⟨bounded, -⟩ := List.getElem?_eq_some_iff.1 called
    exact ⟨⟨bounded, .inr ⟨⟨text, called⟩, fun e _ => never e⟩⟩, text, called⟩

theorem Ledger.noEnd (ledger : Ledger calls o n places) : .endCapture ∉ callsAt calls places := by
  intro mem
  obtain ⟨k, hk, called⟩ := List.mem_filterMap.1 mem
  rcases ((ledger.mem_iff k).1 hk).2 with ⟨begins, -⟩ | ⟨⟨text, writes⟩, -⟩
  · rw [begins] at called
    cases called
  · rw [writes] at called
    cases called

/-- An output that keeps apart what is captured and what is not, as the calls tell. -/
structure KeepsTrack (calls : List Call) (o : Output) : Prop where
  ends : ∀ j, calls[j]? = some .endCapture → EndsRight calls o j
  /-- In the end there is what no end has returned, also where a capture is still open. -/
  finishes : Collects calls (fun k => WritesAt calls k ∧ ∀ j, ¬ Returns calls j k)
    (o.after calls).finish.text

end History

/-- An output in which nothing has been written, joined or in fragments. -/
def fresh (join : Bool) : Output := if join then joining else fragmenting

/-- Whatever calls are made, an end returns what has been written since its capture has begun and no
inner end has returned, and in the end there is all that no end has returned. -/
theorem keepsTrack (join : Bool) (calls : List Call) : KeepsTrack calls (fresh join) := by
  have closed : (fresh join).captures = [] := by cases join <;> rfl
  constructor
  case ends =>
    intro j called
    obtain ⟨bounded, -⟩ := List.getElem?_eq_some_iff.1 called
    obtain ⟨places, ledger⟩ := exists_ledger calls closed (Nat.le_of_lt bounded)
    exact (ledger.step closed called).1
  case finishes =>
    obtain ⟨places, ledger⟩ := exists_ledger calls closed (Nat.le_refl calls.length)
    refine ⟨textPlaces calls places, ledger.sorted.filter _, fun k => ?_, ?_⟩
    · rw [mem_textPlaces, ledger.mem_iff, pending_length_iff]
    · have text := text_finish_after (fresh join) ledger.noEnd
      rw [← ledger.same, List.take_length] at text
      rw [text, written_textPlaces]
      cases join <;> exact String.empty_append

end Output

end Stencil
