/-!
# Searching and splitting text

Occurrences of one text in another.  All functions read from the left and take occurrences that do
not overlap: after a match, reading goes on behind it.  `splitOn` cuts a text at the occurrences of
a separator, `intercalate` glues pieces with a separator, and replacing is one after the other.
-/

namespace Stencil.Text

/-- The text behind `start`, if the text begins with it. -/
def dropStart? : List Char → List Char → Option (List Char)
  | [], s => some s
  | _ :: _, [] => none
  | c :: start, d :: s => if c = d then dropStart? start s else none

/-- Whether `needle` occurs in the text. -/
def occursIn (needle : List Char) : List Char → Bool
  | [] => needle.isEmpty
  | c :: s => needle.isPrefixOf (c :: s) || occursIn needle s

/-- The text before the first occurrence of `needle` and the text from that occurrence on; without
an occurrence the whole text and nothing. -/
def spanUntil (needle : List Char) : List Char → List Char × List Char
  | [] => ([], [])
  | c :: s =>
    if needle.isPrefixOf (c :: s) then ([], c :: s)
    else
      let (before, rest) := spanUntil needle s
      (c :: before, rest)

/-- The text before the first occurrence of `needle` and the text behind it, if there is one. -/
def cut? (needle : List Char) : List Char → Option (List Char × List Char)
  | [] => if needle.isEmpty then some ([], []) else none
  | c :: s =>
    match dropStart? needle (c :: s) with
    | some rest => some ([], rest)
    | none => (cut? needle s).map fun r => (c :: r.1, r.2)

/-- Puts a character in front of the first piece. -/
def consPiece (c : Char) : List (List Char) → List (List Char)
  | [] => [[c]]
  | w :: ws => (c :: w) :: ws

/-- Cuts the text at the separator; `skip` counts the characters of a separator that are still to
be passed over. -/
def splitFrom (sep : List Char) : Nat → List Char → List (List Char)
  | _, [] => [[]]
  | skip + 1, _ :: s => splitFrom sep skip s
  | 0, c :: s =>
    if sep.isPrefixOf (c :: s) then [] :: splitFrom sep (sep.length - 1) s
    else consPiece c (splitFrom sep 0 s)

/-- The pieces of the text between the occurrences of a separator that is not empty.  A text
without the separator is one piece. -/
def splitOn (sep : List Char) (s : List Char) : List (List Char) := splitFrom sep 0 s

/-- The pieces in order with the separator between each two. -/
def intercalate (sep : List Char) : List (List Char) → List Char
  | [] => []
  | [w] => w
  | w :: ws => w ++ sep ++ intercalate sep ws

/-- The text with `filler` in front of each character and at its end. -/
def interleave (filler : List Char) (s : List Char) : List Char :=
  (s.flatMap fun c => filler ++ [c]) ++ filler

/-- The text with every occurrence of `old` replaced.  The empty text occurs before each character
and at the end. -/
def replace (old new s : List Char) : List Char :=
  if old.isEmpty then interleave new s else intercalate new (splitOn old s)

/-! ## Small facts -/

theorem spanUntil_append (needle : List Char) (s : List Char) :
    (spanUntil needle s).1 ++ (spanUntil needle s).2 = s := by
  induction s with
  | nil => rfl
  | cons c s ih =>
    unfold spanUntil
    split
    · rfl
    · simpa using ih

theorem dropStart?_append (start rest : List Char) :
    dropStart? start (start ++ rest) = some rest := by
  induction start with
  | nil => rfl
  | cons c start ih => simpa [dropStart?] using ih

theorem dropStart?_eq_some {start s rest : List Char} (h : dropStart? start s = some rest) :
    s = start ++ rest := by
  fun_induction dropStart? start s with
  | case1 => simpa using h
  | case2 => simp at h
  | case3 c start s ih => simp [ih h]
  | case4 => simp at h

theorem cut?_eq_some {needle s before rest : List Char}
    (h : cut? needle s = some (before, rest)) : s = before ++ needle ++ rest := by
  induction s generalizing before with
  | nil =>
    unfold cut? at h
    split at h
    · next he =>
      have : needle = [] := by simpa using he
      simp_all
    · simp at h
  | cons c s ih =>
    unfold cut? at h
    split at h
    · next r hr =>
      have := dropStart?_eq_some hr
      simp_all
    · next hn =>
      simp only [Option.map_eq_some_iff, Prod.mk.injEq] at h
      obtain ⟨⟨b, r⟩, hb, rfl, rfl⟩ := h
      simp [ih hb]

theorem consPiece_ne_nil (c : Char) (ws : List (List Char)) : consPiece c ws ≠ [] := by
  cases ws <;> simp [consPiece]

theorem splitFrom_ne_nil (sep : List Char) (skip : Nat) (s : List Char) :
    splitFrom sep skip s ≠ [] := by
  fun_induction splitFrom sep skip s with
  | case1 => simp
  | case2 _ _ _ ih => exact ih
  | case3 => simp
  | case4 => exact consPiece_ne_nil _ _

theorem splitFrom_append (sep skipped s : List Char) :
    splitFrom sep skipped.length (skipped ++ s) = splitFrom sep 0 s := by
  induction skipped with
  | nil => rfl
  | cons c skipped ih => exact ih

theorem intercalate_cons (sep w : List Char) {ws : List (List Char)} (more : ws ≠ []) :
    intercalate sep (w :: ws) = w ++ sep ++ intercalate sep ws := by
  cases ws with
  | nil => exact absurd rfl more
  | cons v ws => rfl

theorem intercalate_consPiece (sep : List Char) (c : Char) {ws : List (List Char)}
    (more : ws ≠ []) : intercalate sep (consPiece c ws) = c :: intercalate sep ws := by
  match ws with
  | [] => exact absurd rfl more
  | [_] => rfl
  | w :: v :: ws => rfl

@[simp] theorem replace_nil {old : List Char} (nonempty : old ≠ []) (new : List Char) :
    replace old new [] = [] := by
  rw [replace, if_neg (mt List.isEmpty_iff.mp nonempty)]
  rfl

theorem replace_append {old : List Char} (nonempty : old ≠ []) (new s : List Char) :
    replace old new (old ++ s) = new ++ replace old new s := by
  cases old with
  | nil => exact absurd rfl nonempty
  | cons c old =>
    have start : (c :: old).isPrefixOf (c :: (old ++ s)) = true :=
      List.isPrefixOf_iff_prefix.mpr (List.prefix_append (c :: old) s)
    simp only [replace, List.isEmpty_cons, Bool.false_eq_true, if_false, splitOn, List.cons_append]
    rw [splitFrom, if_pos start, intercalate_cons _ _ (splitFrom_ne_nil _ _ _), List.nil_append,
      List.length_cons, Nat.add_sub_cancel, splitFrom_append]

theorem replace_cons {old : List Char} (nonempty : old ≠ []) (new : List Char) {c : Char}
    {s : List Char} (other : ¬ old <+: c :: s) :
    replace old new (c :: s) = c :: replace old new s := by
  simp only [replace, if_neg (mt List.isEmpty_iff.mp nonempty), splitOn]
  rw [splitFrom, if_neg (mt List.isPrefixOf_iff_prefix.mp other),
    intercalate_consPiece _ _ (splitFrom_ne_nil _ _ _)]

end Stencil.Text
