/-!
# Copying in stretches

An escape that leaves most of a text as it is need not write one character after the other.  A
reader passes over the text and keeps the place up to which everything is written; where a rule
replaces something, the stretch since that place is copied in one piece and the replacement comes
behind it (`Rule.copyFrom`).  Places are counted in bytes, and a cut inside of a character fails.

If the rule counts its bytes right, no cut fails and what comes out is the text with one
replacement after the other (`Rule.copied_eq_rewrite`).

A reader may also pass over single bytes, without a look at where characters begin.  As long as it
replaces nothing but characters of one byte, it copies what a reader of characters does
(`ByteRule.copied_eq_flatMap`).
-/

namespace Stencil.Text

/-- The number of bytes of a text. -/
def byteSize : List Char → Nat
  | [] => 0
  | c :: s => c.utf8Size + byteSize s

theorem byteSize_append (s t : List Char) : byteSize (s ++ t) = byteSize s + byteSize t := by
  induction s with
  | nil => rw [List.nil_append, byteSize, Nat.zero_add]
  | cons c s ih => rw [List.cons_append, byteSize, byteSize, ih, Nat.add_assoc]

theorem byteSize_cons_pos (c : Char) (s : List Char) : 0 < byteSize (c :: s) :=
  Nat.add_pos_left c.utf8Size_pos _

/-- The text behind the first bytes, unless a character is cut or the text ends before. -/
def dropBytes? : Nat → List Char → Option (List Char)
  | 0, s => some s
  | _ + 1, [] => none
  | n + 1, c :: s => if c.utf8Size ≤ n + 1 then dropBytes? (n + 1 - c.utf8Size) s else none

/-- The first bytes of a text, unless a character is cut or the text ends before. -/
def takeBytes? : Nat → List Char → Option (List Char)
  | 0, _ => some []
  | _ + 1, [] => none
  | n + 1, c :: s =>
    if c.utf8Size ≤ n + 1 then (takeBytes? (n + 1 - c.utf8Size) s).map (c :: ·) else none

/-- The text between two places. -/
def slice? (start stop : Nat) (s : List Char) : Option (List Char) :=
  (dropBytes? start s).bind (takeBytes? (stop - start))

/-- The stretch between two places, which is copied only if there is something in it. -/
def stretch? (start place : Nat) (s : List Char) : Option (List Char) :=
  if start < place then slice? start place s else some []

theorem dropBytes?_cons (c : Char) (n : Nat) (s : List Char) :
    dropBytes? (c.utf8Size + n) (c :: s) = dropBytes? n s := by
  obtain ⟨k, size⟩ := Nat.exists_eq_add_of_lt c.utf8Size_pos
  rw [show c.utf8Size + n = k + n + 1 by omega, dropBytes?, if_pos (by omega),
    show k + n + 1 - c.utf8Size = n by omega]

theorem takeBytes?_cons (c : Char) (n : Nat) (s : List Char) :
    takeBytes? (c.utf8Size + n) (c :: s) = (takeBytes? n s).map (c :: ·) := by
  obtain ⟨k, size⟩ := Nat.exists_eq_add_of_lt c.utf8Size_pos
  rw [show c.utf8Size + n = k + n + 1 by omega, takeBytes?, if_pos (by omega),
    show k + n + 1 - c.utf8Size = n by omega]

theorem dropBytes?_byteSize (s t : List Char) : dropBytes? (byteSize s) (s ++ t) = some t := by
  induction s with
  | nil => cases t <;> rfl
  | cons c s ih => rw [byteSize, List.cons_append, dropBytes?_cons, ih]

theorem takeBytes?_byteSize (s t : List Char) : takeBytes? (byteSize s) (s ++ t) = some s := by
  induction s with
  | nil => cases t <;> rfl
  | cons c s ih => rw [byteSize, List.cons_append, takeBytes?_cons, ih, Option.map_some]

theorem slice?_byteSize (s t u : List Char) :
    slice? (byteSize s) (byteSize (s ++ t)) (s ++ (t ++ u)) = some t := by
  rw [slice?, dropBytes?_byteSize, Option.bind_some, byteSize_append, Nat.add_sub_cancel_left,
    takeBytes?_byteSize]

theorem stretch?_byteSize (s t u : List Char) :
    stretch? (byteSize s) (byteSize (s ++ t)) (s ++ (t ++ u)) = some t := by
  cases t with
  | nil => rw [List.append_nil, stretch?, if_neg (Nat.lt_irrefl _)]
  | cons c t =>
    have longer : byteSize s < byteSize (s ++ c :: t) := by
      rw [byteSize_append]
      exact Nat.lt_add_of_pos_right (byteSize_cons_pos c t)
    rw [stretch?, if_pos longer, slice?_byteSize]

/-- What is written in the place of some characters of a text. -/
structure Replacement where
  text : List Char
  /-- How many bytes it stands for. -/
  bytes : Nat
  /-- How many characters it stands for apart from the first. -/
  more : Nat

/-- What is written in the place of a character in front of the rest of a text, if it does not
stay. -/
abbrev Rule := Char → List Char → Option Replacement

namespace Rule

variable (rule : Rule)

/-- Every replacement stands for the bytes of the characters that it stands for. -/
def Exact : Prop :=
  ∀ c rest r, rule c rest = some r → r.bytes = byteSize (c :: rest.take r.more)

/-- The text with one replacement after the other. -/
def rewrite : List Char → List Char
  | [] => []
  | c :: rest =>
    match rule c rest with
    | none => c :: rewrite rest
    | some r => r.text ++ rewrite (rest.drop r.more)
termination_by s => s.length
decreasing_by
  · exact Nat.lt_succ_self _
  · exact Nat.lt_succ_of_le (List.length_drop ▸ Nat.sub_le ..)

/-- What is still to be written of a text, when everything before `start` is written and the
reader is at `place`, in front of the characters that are left. -/
def copyFrom (s : List Char) (start place : Nat) : List Char → Option (List Char)
  | [] => if start < byteSize s then dropBytes? start s else some []
  | c :: rest =>
    match rule c rest with
    | none => copyFrom s start (place + c.utf8Size) rest
    | some r => do
      let stretch ← stretch? start place s
      let others ← copyFrom s (place + r.bytes) (place + byteSize (c :: rest.take r.more))
        (rest.drop r.more)
      return stretch ++ r.text ++ others
termination_by left => left.length
decreasing_by
  · exact Nat.lt_succ_self _
  · exact Nat.lt_succ_of_le (List.length_drop ▸ Nat.sub_le ..)

/-- The text as it is copied in stretches. -/
def copied (s : List Char) : Option (List Char) := rule.copyFrom s 0 0 s

variable {rule}

/-- What is pending has been read and is not written. -/
theorem copyFrom_eq (exact : rule.Exact) (written pending left : List Char) :
    rule.copyFrom (written ++ (pending ++ left)) (byteSize written) (byteSize (written ++ pending))
      left = some (pending ++ rule.rewrite left) := by
  fun_induction rule.rewrite left generalizing written pending with
  | case1 =>
    rw [copyFrom, List.append_nil]
    by_cases more : byteSize written < byteSize (written ++ pending)
    · rw [if_pos more, dropBytes?_byteSize]
    · cases pending with
      | nil => rw [if_neg more]
      | cons c pending =>
        rw [byteSize_append] at more
        exact absurd (Nat.lt_add_of_pos_right (byteSize_cons_pos c pending)) more
  | case2 c rest stays ih =>
    have place : byteSize (written ++ pending) + c.utf8Size
        = byteSize (written ++ (pending ++ [c])) := by
      rw [← List.append_assoc, byteSize_append _ [c]]
      rfl
    have text : written ++ (pending ++ c :: rest) = written ++ ((pending ++ [c]) ++ rest) := by
      rw [List.append_assoc pending [c] rest, List.singleton_append]
    simp only [copyFrom, stays]
    rw [place, text, ih written (pending ++ [c]), List.append_assoc, List.singleton_append]
  | case3 c rest r replaced ih =>
    -- The reader stands behind what is replaced, and everything before is written.
    have place : byteSize (written ++ pending) + byteSize (c :: rest.take r.more)
        = byteSize (written ++ pending ++ c :: rest.take r.more) :=
      (byteSize_append _ _).symm
    have text : written ++ (pending ++ c :: rest)
        = (written ++ pending ++ c :: rest.take r.more) ++ ([] ++ rest.drop r.more) := by
      rw [List.nil_append, List.append_assoc, List.append_assoc, List.cons_append,
        List.take_append_drop]
    have others := ih (written ++ pending ++ c :: rest.take r.more) []
    rw [List.append_nil, ← text] at others
    simp only [copyFrom, replaced]
    rw [stretch?_byteSize, exact c rest r replaced, place, others]
    simp only [Option.bind_eq_bind, Option.bind_some, Option.pure_def, List.nil_append,
      List.append_assoc]

theorem copied_eq_rewrite (exact : rule.Exact) (s : List Char) :
    rule.copied s = some (rule.rewrite s) :=
  copyFrom_eq exact [] [] s

theorem rewrite_of_eq_none {c : Char} {rest : List Char} (stays : rule c rest = none) :
    rule.rewrite (c :: rest) = c :: rule.rewrite rest := by
  rw [rewrite, stays]

theorem rewrite_of_eq_some {c : Char} {rest : List Char} {r : Replacement}
    (replaced : rule c rest = some r) :
    rule.rewrite (c :: rest) = r.text ++ rule.rewrite (rest.drop r.more) := by
  rw [rewrite, replaced]

end Rule

/-! ## Reading bytes -/

/-- The bytes of a text. -/
def bytes (s : List Char) : List UInt8 := s.flatMap String.utf8EncodeChar

theorem bytes_cons (c : Char) (s : List Char) :
    bytes (c :: s) = String.utf8EncodeChar c ++ bytes s :=
  List.flatMap_cons

theorem le_ofNat {n : Nat} (low : 128 ≤ n) (small : n < 256) : 128 ≤ UInt8.ofNat n := by
  rw [UInt8.le_iff_toNat_le, UInt8.toNat_ofNat_of_lt' small]
  exact low

/-- The bytes of a longer character are apart from the characters of one byte. -/
theorem le_of_mem_utf8EncodeChar {c : Char} (wide : c.utf8Size ≠ 1) :
    ∀ b ∈ String.utf8EncodeChar c, 128 ≤ b := by
  have longer : ¬ c.val.toNat ≤ 127 := fun short => wide (Char.utf8Size_eq_one_iff.2 short)
  rw [String.utf8EncodeChar]
  simp only [if_neg longer]
  repeat' split
  all_goals
    -- There are two to four bytes, and each is what the encoding adds and a remainder.
    repeat refine List.forall_mem_cons.2 ⟨le_ofNat (by omega) (by omega), ?_⟩
    exact List.forall_mem_nil _

theorem toNat_toUInt8 {c : Char} (single : c.utf8Size = 1) :
    c.toUInt8.toNat = c.toNat ∧ c.toNat < 128 := by
  have short : c.val.toNat ≤ 127 := Char.utf8Size_eq_one_iff.1 single
  have same : c.toUInt8.toNat = c.val.toNat % 256 := UInt32.toNat_toUInt8 c.val
  have value : c.toNat = c.val.toNat := rfl
  omega

theorem toUInt8_inj {c d : Char} (single : c.utf8Size = 1) (other : d.utf8Size = 1)
    (same : c.toUInt8 = d.toUInt8) : c = d := by
  rw [← Char.toNat_inj, ← (toNat_toUInt8 single).1, ← (toNat_toUInt8 other).1, same]

/-- What is written in the place of a byte, if it does not stay. -/
abbrev ByteRule := UInt8 → Option (List Char)

namespace ByteRule

variable (rule : ByteRule)

/-- What is still to be written of a text, when everything before `start` is written and the
reader is at `place`, in front of the bytes that are left. -/
def copyFrom (s : List Char) (start place : Nat) : List UInt8 → Option (List Char)
  | [] => if start < byteSize s then dropBytes? start s else some []
  | b :: rest =>
    match rule b with
    | none => copyFrom s start (place + 1) rest
    | some text => do
      let stretch ← stretch? start place s
      let others ← copyFrom s (place + 1) (place + 1) rest
      return stretch ++ text ++ others

/-- The text as it is copied in stretches between single bytes. -/
def copied (s : List Char) : Option (List Char) := rule.copyFrom s 0 0 (bytes s)

/-- No byte of a longer character is replaced. -/
def KeepsWide : Prop := ∀ b, 128 ≤ b → rule b = none

/-- What is written in the place of a character, if it does not stay. -/
def onChar (c : Char) : Option (List Char) := if c.utf8Size = 1 then rule c.toUInt8 else none

/-- The text that is written for a character. -/
def image (c : Char) : List Char := (rule.onChar c).getD [c]

/-- The rule for a reader of characters. -/
def onChars : Rule := fun c _ => (rule.onChar c).map fun text => ⟨text, 1, 0⟩

variable {rule}

theorem copyFrom_append {stay : List UInt8} (stays : ∀ b ∈ stay, rule b = none) (s : List Char)
    (start place : Nat) (rest : List UInt8) :
    rule.copyFrom s start place (stay ++ rest) =
      rule.copyFrom s start (place + stay.length) rest := by
  induction stay generalizing place with
  | nil => rfl
  | cons b stay ih =>
    obtain ⟨first, others⟩ := List.forall_mem_cons.1 stays
    simp only [List.cons_append, copyFrom, first]
    rw [ih others, List.length_cons, Nat.add_assoc, Nat.add_comm 1]

/-- A reader of bytes writes what a reader of characters writes. -/
theorem copyFrom_bytes (keeps : rule.KeepsWide) (s : List Char) (start place : Nat)
    (left : List Char) :
    rule.copyFrom s start place (bytes left) = rule.onChars.copyFrom s start place left := by
  induction left generalizing start place with
  | nil =>
    rw [Rule.copyFrom]
    rfl
  | cons c left ih =>
    by_cases single : c.utf8Size = 1
    · have sameRule : rule.onChar c = rule c.toUInt8 := if_pos single
      rw [bytes_cons, String.utf8EncodeChar_eq_singleton single, List.singleton_append, copyFrom,
        Rule.copyFrom, onChars, sameRule, Char.toUInt8]
      cases rule c.val.toUInt8 with
      | none =>
        simp only [Option.map_none]
        rw [single, ih]
      | some text =>
        have size : byteSize (c :: left.take 0) = 1 := single
        simp only [Option.map_some]
        rw [size, List.drop_zero, ih]
    · -- The reader of bytes takes several steps, and all of the bytes stay.
      have sameRule : rule.onChar c = none := if_neg single
      have stays : ∀ b ∈ String.utf8EncodeChar c, rule b = none := fun b mem =>
        keeps b (le_of_mem_utf8EncodeChar single b mem)
      rw [bytes_cons, copyFrom_append stays, String.length_utf8EncodeChar, Rule.copyFrom, onChars,
        sameRule, Option.map_none, ih]

theorem exact_onChars : rule.onChars.Exact := by
  intro c rest r replaced
  obtain ⟨text, isText, rfl⟩ := Option.map_eq_some_iff.1 replaced
  rw [onChar] at isText
  split at isText
  · next single => exact single.symm
  · cases isText

theorem rewrite_onChars (s : List Char) : rule.onChars.rewrite s = s.flatMap rule.image := by
  induction s with
  | nil =>
    rw [Rule.rewrite]
    rfl
  | cons c s ih =>
    rw [List.flatMap_cons, image]
    cases replaced : rule.onChar c with
    | none =>
      have stays : rule.onChars c s = none := congrArg (Option.map _) replaced
      rw [Rule.rewrite_of_eq_none stays, ih]
      rfl
    | some text =>
      have becomes : rule.onChars c s = some ⟨text, 1, 0⟩ := congrArg (Option.map _) replaced
      rw [Rule.rewrite_of_eq_some becomes, List.drop_zero, ih]
      rfl

/-- No cut fails, and one character after the other is written. -/
theorem copied_eq_flatMap (keeps : rule.KeepsWide) (s : List Char) :
    rule.copied s = some (s.flatMap rule.image) := by
  rw [copied, copyFrom_bytes keeps, ← Rule.copied, Rule.copied_eq_rewrite exact_onChars,
    rewrite_onChars]

end ByteRule

end Stencil.Text
