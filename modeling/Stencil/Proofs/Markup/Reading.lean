import Stencil.Markup.Reader

/-!
# What readers do

The result of each reader in terms of the lexemes it asks for, and two ways to reason about readers
that are put together: `Yields` for what is true of every answer, and `Reads` for a text that is
read up to its end or refused because its expressions nest too deep.
-/

namespace Stencil.Reader

variable {α β : Type}

/-! ## Single steps -/

theorem run_bind (op : Read α) (f : α → Read β) (r : Reader) :
    run (op >>= f) r =
      match run op r with
      | (.ok a, r) => run (f a) r
      | (.error e, r) => (.error e, r) := by
  show ExceptT.bindCont f (op r).1 (op r).2 = match op r with | (.ok a, r) => _ | (.error e, r) => _
  rcases op r with ⟨_ | _, _⟩ <;> rfl

theorem run_bind_of_ok {op : Read α} {r r' : Reader} {a : α} (answer : run op r = (.ok a, r'))
    (f : α → Read β) : run (op >>= f) r = run (f a) r' := by
  rw [run_bind, answer]

theorem run_bind_of_error {op : Read α} {r : Reader} {e : Error}
    (failed : (run op r).1 = .error e) (f : α → Read β) : (run (op >>= f) r).1 = .error e := by
  rw [run_bind]
  rcases ran : run op r with ⟨_ | _, _⟩ <;> rw [ran] at failed
  · exact congrArg Except.error (Except.error.inj failed)
  · cases failed

theorem run_getRest (r : Reader) : run getRest r = (.ok r.rest, r) := rfl

theorem run_goTo (rest : List Char) (r : Reader) :
    run (goTo rest) r = (.ok (), ⟨rest, r.depth⟩) := rfl

theorem run_eat {token : String} {r : Reader} {rest : List Char}
    (here : Lexeme.token? token.toList r.rest = some rest) :
    run (eat token) r = (.ok true, ⟨rest, r.depth⟩) := by
  rw [eat, run_bind_of_ok (run_getRest r), here]
  rfl

theorem run_eat_of_none {token : String} {r : Reader}
    (elsewhere : Lexeme.token? token.toList r.rest = none) :
    run (eat token) r = (.ok false, r) := by
  rw [eat, run_bind_of_ok (run_getRest r), elsewhere]
  rfl

theorem run_expect {token : String} {r : Reader} {rest : List Char}
    (here : Lexeme.token? token.toList r.rest = some rest) :
    run (expect token) r = (.ok (), ⟨rest, r.depth⟩) := by
  rw [expect, run_bind_of_ok (run_eat here)]
  rfl

theorem run_name {r : Reader} {name : String} {rest : List Char}
    (here : Lexeme.name? r.rest = some (name, rest)) :
    run Reader.name r = (.ok name, ⟨rest, r.depth⟩) := by
  rw [Reader.name, run_bind_of_ok (run_getRest r), here]
  rfl

theorem run_name_of_none {r : Reader} (elsewhere : Lexeme.name? r.rest = none) :
    run Reader.name r = (.error (Cause.expectedName (Lexeme.next? r.rest)), r) := by
  rw [Reader.name, run_bind_of_ok (run_getRest r), elsewhere]
  rfl

/-! ## What is true of every answer -/

/-- Whatever the operation answers has the property. -/
def Yields (op : Read α) (holds : α → Prop) : Prop :=
  ∀ r a, (run op r).1 = .ok a → holds a

namespace Yields

variable {op : Read α} {f : α → Read β} {P : α → Prop} {Q : β → Prop}

theorem pure {a : α} (holds : P a) : Yields (pure a) P := by
  rintro r _ ⟨⟩
  exact holds

theorem none : Yields (Pure.pure none) fun o : Option α => ∀ a ∈ o, P a :=
  .pure fun a mem => absurd mem (Option.not_mem_none a)

theorem refuse {cause : Cause} : Yields (Reader.refuse cause) P := by
  rintro r _ ⟨⟩

theorem trivial : Yields op fun _ => True := fun _ _ _ => True.intro

theorem mono {P' : α → Prop} (yields : Yields op P) (weaker : ∀ a, P a → P' a) : Yields op P' :=
  fun r a answer => weaker a (yields r a answer)

theorem bind (first : Yields op P) (next : ∀ a, P a → Yields (f a) Q) : Yields (op >>= f) Q := by
  intro r b answer
  rw [run_bind] at answer
  rcases ran : run op r with ⟨_ | a, r'⟩ <;> rw [ran] at answer
  · cases answer
  · exact next a (first r a (by rw [ran])) r' b answer

/-- A repetition answers what its step answers. -/
theorem many {step : Read (Option α)} (yields : Yields step fun o => ∀ a ∈ o, P a) (s : List Char) :
    Yields (many step s) fun as => ∀ a ∈ as, P a := by
  induction s with
  | nil => exact .pure (List.forall_mem_nil P)
  | cons c s ih =>
    refine yields.bind fun o holds => ?_
    cases o with
    | none => exact .pure (List.forall_mem_nil P)
    | some a =>
      exact ih.bind fun as others => .pure (List.forall_mem_cons.mpr ⟨holds a rfl, others⟩)

theorem repeated {step : Read (Option α)} (yields : Yields step fun o => ∀ a ∈ o, P a) :
    Yields (repeated step) fun as => ∀ a ∈ as, P a :=
  Yields.trivial.bind fun s _ => yields.many s

end Yields

/-! ## Reading up to an end

A text is read up to its end if its expressions fit in the levels that are left, and is refused as
too deep otherwise, whatever comes behind it. -/

/-- If the expressions fit, the operation answers `a` and leaves `rest`; otherwise it fails. -/
structure Reads (op : Read α) (r : Reader) (fits : Prop) (a : α) (rest : List Char) : Prop where
  answers : fits → run op r = (.ok a, ⟨rest, r.depth⟩)
  refuses : ¬ fits → (run op r).1 = .error (Cause.expressionTooDeep : Error)

namespace Reads

variable {op : Read α} {f : α → Read β} {r : Reader} {p q : Prop} {a : α} {b : β}
  {rest rest' : List Char}

theorem of_run (answer : run op r = (.ok a, ⟨rest, r.depth⟩)) : Reads op r True a rest :=
  ⟨fun _ => answer, fun never => absurd True.intro never⟩

theorem of_eq {op' : Read α} {r' : Reader} (reads : Reads op' r' p a rest)
    (same : run op r = run op' r') (level : r.depth = r'.depth) : Reads op r p a rest :=
  ⟨fun fits => by rw [same, level, reads.answers fits],
    fun tooDeep => by rw [same, reads.refuses tooDeep]⟩

theorem congr (reads : Reads op r p a rest) (same : p ↔ q) : Reads op r q a rest :=
  ⟨fun fits => reads.answers (same.mpr fits), fun tooDeep => reads.refuses (mt same.mp tooDeep)⟩

theorem bind (first : Reads op r p a rest) (next : Reads (f a) ⟨rest, r.depth⟩ q b rest') :
    Reads (op >>= f) r (p ∧ q) b rest' := by
  constructor
  · rintro ⟨fits, others⟩
    rw [run_bind_of_ok (first.answers fits)]
    exact next.answers others
  · intro tooDeep
    by_cases fits : p
    · rw [run_bind_of_ok (first.answers fits)]
      exact next.refuses fun others => tooDeep ⟨fits, others⟩
    · exact run_bind_of_error (first.refuses fits) f

/-- A step that reads no expression comes first. -/
theorem after (answer : run op r = (.ok a, ⟨rest, r.depth⟩))
    (next : Reads (f a) ⟨rest, r.depth⟩ q b rest') : Reads (op >>= f) r q b rest' :=
  ((of_run answer).bind next).congr (iff_of_eq (true_and q))

/-- Nothing but the answer is made of what was read. -/
theorem map (g : α → β) (reads : Reads op r p a rest) :
    Reads (op >>= fun a => pure (g a)) r p (g a) rest :=
  (reads.bind (.of_run rfl)).congr (iff_of_eq (and_true p))

/-- A repetition reads texts that stand behind each other, each by a step. -/
theorem many {step : Read (Option β)} {print : β → List Char} {fits : β → Prop}
    {follows : List Char → Prop} {d : Nat} (items : List β)
    (each : ∀ b ∈ items, ∀ tail, follows tail →
      Reads step ⟨print b ++ tail, d⟩ (fits b) (some b) tail)
    (nonempty : ∀ b, print b ≠ []) (follow : ∀ bs : List β, follows (bs.flatMap print ++ rest))
    (stop : run step ⟨rest, d⟩ = (.ok none, ⟨rest, d⟩)) (fuel : List Char)
    (enough : (items.flatMap print).length ≤ fuel.length) :
    Reads (many step fuel) ⟨items.flatMap print ++ rest, d⟩ (∀ b ∈ items, fits b) items rest := by
  induction items generalizing fuel with
  | nil =>
    refine (of_run ?_).congr (iff_of_true True.intro (List.forall_mem_nil fits))
    cases fuel with
    | nil => rfl
    | cons c fuel =>
      rw [Reader.many, List.flatMap_nil, List.nil_append, run_bind_of_ok stop]
      rfl
  | cons b bs ih =>
    have positive := List.length_pos_iff.mpr (nonempty b)
    rw [List.flatMap_cons, List.length_append] at enough
    -- An item takes at least one character, so the fuel is not used up.
    cases fuel with
    | nil =>
      rw [List.length_nil] at enough
      omega
    | cons c fuel =>
      rw [List.length_cons] at enough
      have first := each b List.mem_cons_self _ (follow bs)
      have others := ih (fun b' mem => each b' (List.mem_cons_of_mem b mem)) fuel (by omega)
      rw [List.flatMap_cons, List.append_assoc]
      exact (first.bind (others.map (b :: ·))).congr List.forall_mem_cons.symm

theorem repeated {step : Read (Option β)} {print : β → List Char} {fits : β → Prop}
    {follows : List Char → Prop} {d : Nat} (items : List β)
    (each : ∀ b ∈ items, ∀ tail, follows tail →
      Reads step ⟨print b ++ tail, d⟩ (fits b) (some b) tail)
    (nonempty : ∀ b, print b ≠ []) (follow : ∀ bs : List β, follows (bs.flatMap print ++ rest))
    (stop : run step ⟨rest, d⟩ = (.ok none, ⟨rest, d⟩)) :
    Reads (repeated step) ⟨items.flatMap print ++ rest, d⟩ (∀ b ∈ items, fits b) items rest :=
  .after (run_getRest _) (.many items each nonempty follow stop _ (by simp))

end Reads

/-! ## Expressions -/

theorem run_primary (sub : Read Expr) (r : Reader) :
    run (primary sub) r =
      match Lexeme.quoted? r.rest with
      | some (s, rest) => (.ok (.const (.string s)), ⟨rest, r.depth⟩)
      | none =>
        match Lexeme.number? r.rest with
        | some (n, rest) => (.ok (.const n), ⟨rest, r.depth⟩)
        | none =>
          match Lexeme.token? ['('] r.rest with
          | some rest => run (rangeBounds sub) ⟨rest, r.depth⟩
          | none => run (wordOrPath sub) r := by
  rw [primary, run_bind_of_ok (run_getRest r)]
  rcases Lexeme.quoted? r.rest with _ | ⟨s, rest⟩
  · show run (getRest >>= _) r = _
    rw [run_bind_of_ok (run_getRest r)]
    rcases Lexeme.number? r.rest with _ | ⟨n, rest⟩
    · show run (eat "(" >>= _) r = _
      dsimp only
      rcases here : Lexeme.token? ['('] r.rest with _ | rest
      · have missing : run (eat "(") r = (.ok false, r) := run_eat_of_none here
        rw [run_bind_of_ok missing]
        rfl
      · have eaten : run (eat "(") r = (.ok true, ⟨rest, r.depth⟩) := run_eat here
        rw [run_bind_of_ok eaten]
        rfl
    · rfl
  · rfl

theorem run_wordOrPath (sub : Read Expr) (r : Reader) :
    run (wordOrPath sub) r =
      match Lexeme.name? r.rest with
      | none => (.error (Cause.expectedValue (Lexeme.next? r.rest)), r)
      | some (root, rest) =>
        match word? root with
        | some e => (.ok e, ⟨rest, r.depth⟩)
        | none => run (return .path root (← repeated (segment? sub))) ⟨rest, r.depth⟩ := by
  rw [wordOrPath, run_bind_of_ok (run_getRest r)]
  rcases Lexeme.name? r.rest with _ | ⟨root, rest⟩
  · rfl
  · show run (goTo rest >>= _) r = _
    rw [run_bind_of_ok (run_goTo rest r)]
    dsimp only
    cases word? root <;> rfl

end Stencil.Reader
