import Stencil.Json
import Stencil.Proofs.Value.Sorted

/-!
# Values as data from outside

Whatever goes into an engine, a value included, is written as a document and read again.  A value
comes out as it went in, but for what JSON has no word for: undefined, NaN and the infinities become
none, at any depth (`Value.normal`).  The writer and the reader are also followed step by step over
any library of documents (`Codec`) that keeps what it is given: the data passes through it without
failure and comes to the same value (`Codec.transfer_eq`).  Maps that go in in order come out in
order (`Value.IsSorted.imported`, `Codec.isSorted_read`).
-/

namespace Stencil

/-- What goes through a list item by item is a map.  The functions on lists that stand beside a
recursion over values or documents are of this kind. -/
theorem eq_map_of_cons {α β : Type} {f : α → β} {g : List α → List β} (nil : g [] = [])
    (cons : ∀ a rest, g (a :: rest) = f a :: g rest) (items : List α) : g items = items.map f := by
  induction items with
  | nil => exact nil
  | cons a items ih => rw [cons, ih, List.map_cons]

namespace Value

/-! ## What a document keeps -/

mutual

/-- The value with none in the place of undefined, NaN and the infinities. -/
def normal : Value → Value
  | undefined => none
  | none => none
  | bool b => bool b
  | int n => int n
  | float x => if x.isFinite then float x else none
  | string s => string s
  | seq items => seq (normalItems items)
  | map entries => map (normalEntries entries)

def normalItems : List Value → List Value
  | [] => []
  | v :: rest => v.normal :: normalItems rest

def normalEntries : List (String × Value) → List (String × Value)
  | [] => []
  | (key, v) :: rest => (key, v.normal) :: normalEntries rest

end

/-- Nothing in the value is undefined, NaN or infinite. -/
def IsExpressible (v : Value) : Prop :=
  ∀ path w, v.at? path = some w → w ≠ undefined ∧ ∀ x, w = float x → x.isFinite = true

theorem normal_seq (items : List Value) : (seq items).normal = seq (items.map normal) :=
  congrArg seq (eq_map_of_cons (g := normalItems) rfl (fun _ _ => rfl) items)

theorem normal_map (entries : List (String × Value)) :
    (map entries).normal = map (entries.map fun e => (e.1, e.2.normal)) :=
  congrArg map (eq_map_of_cons (g := normalEntries) rfl (fun _ _ => rfl) entries)

/-- What agrees on the parts of a map agrees on its entries. -/
theorem map_entries_congr {α : Type} {entries : List (String × Value)} {f g : Value → α}
    (same : ∀ w ∈ (map entries).parts, f w = g w) :
    entries.map (fun e => (e.1, f e.2)) = entries.map fun e => (e.1, g e.2) :=
  List.map_congr_left fun e mem => congrArg (Prod.mk e.1) (same e.2 (List.mem_map_of_mem mem))

theorem normal_float (x : Binary64) :
    (float x).normal = if x.isFinite then float x else none := rfl

theorem normal_float_of_finite {x : Binary64} (finite : x.isFinite = true) :
    (float x).normal = float x := by
  rw [normal_float, if_pos finite]

theorem normal_float_of_not_finite {x : Binary64} (other : x.isFinite = false) :
    (float x).normal = none := by
  rw [normal_float, if_neg (Bool.not_eq_true _ ▸ other)]

theorem parts_normal (v : Value) : v.normal.parts = v.parts.map normal := by
  cases v with
  | seq items => rw [normal_seq, parts, parts]
  | map entries =>
    rw [normal_map, parts, parts, List.map_map, List.map_map]
    rfl
  | float x =>
    rw [normal_float]
    split <;> rfl
  | _ => rfl

/-- At every place there is what becomes of the part at this place. -/
theorem at?_normal (v : Value) (path : List Nat) : v.normal.at? path = (v.at? path).map normal := by
  induction path generalizing v with
  | nil => rfl
  | cons i path ih =>
    rw [at?, at?, parts_normal, List.getElem?_map]
    cases v.parts[i]? with
    | none => rfl
    | some w => exact ih w

theorem normal_normal (v : Value) : v.normal.normal = v.normal := by
  induction v using parts_induction with
  | step v ih =>
    cases v with
    | float x =>
      cases finite : x.isFinite with
      | true => rw [normal_float_of_finite finite, normal_float_of_finite finite]
      | false =>
        rw [normal_float_of_not_finite finite]
        rfl
    | seq items =>
      rw [normal_seq, normal_seq, List.map_map]
      exact congrArg seq (List.map_congr_left ih)
    | map entries =>
      rw [normal_map, normal_map, List.map_map]
      exact congrArg map (map_entries_congr ih)
    | _ => rfl

theorem IsExpressible.part {v w : Value} (expressible : v.IsExpressible) (mem : w ∈ v.parts) :
    w.IsExpressible := by
  obtain ⟨i, part⟩ := List.getElem?_of_mem mem
  intro path x found
  exact expressible (i :: path) x ((at?_cons_of_part part path).trans found)

/-- Exactly the values without such parts stay as they are. -/
theorem normal_eq_self_iff (v : Value) : v.normal = v ↔ v.IsExpressible := by
  constructor
  · intro same path w found
    have kept : w.normal = w := by
      have mapped := at?_normal v path
      rw [same, found, Option.map_some, Option.some.injEq] at mapped
      exact mapped.symm
    constructor
    · rintro rfl
      cases kept
    · rintro x rfl
      cases finite : x.isFinite with
      | true => rfl
      | false =>
        rw [normal_float_of_not_finite finite] at kept
        cases kept
  · intro expressible
    induction v using parts_induction with
    | step v ih =>
      have each : ∀ w ∈ v.parts, w.normal = w := fun w mem => ih w mem (expressible.part mem)
      obtain ⟨bound, finite⟩ := expressible [] v rfl
      cases v with
      | undefined => exact absurd rfl bound
      | float x => exact normal_float_of_finite (finite x rfl)
      | seq items =>
        have same : items.map normal = items.map id := List.map_congr_left each
        rw [normal_seq, same, List.map_id]
      | map entries =>
        rw [normal_map, map_entries_congr (g := id) each]
        exact congrArg map (List.map_id entries)
      | _ => rfl

theorem IsSorted.normal {v : Value} (sorted : v.IsSorted) : v.normal.IsSorted := by
  intro path entries found
  rw [at?_normal, Option.map_eq_some_iff] at found
  obtain ⟨w, found, same⟩ := found
  cases w with
  | map others =>
    rw [normal_map, map.injEq] at same
    rw [← same]
    exact (sorted path others found).map Value.normal
  | float x =>
    rw [normal_float] at same
    split at same <;> cases same
  | _ => cases same

/-! ## Writing and reading -/

theorem toJson_float (x : Binary64) : (float x).toJson = Json.ofFloat x := rfl

theorem toJson_seq (items : List Value) : (seq items).toJson = .array (items.map toJson) :=
  congrArg Json.array (eq_map_of_cons (g := itemsToJson) rfl (fun _ _ => rfl) items)

theorem toJson_map (entries : List (String × Value)) :
    (map entries).toJson = .object (entries.map fun e => (e.1, e.2.toJson)) :=
  congrArg Json.object (eq_map_of_cons (g := entriesToJson) rfl (fun _ _ => rfl) entries)

theorem ofJson_array (items : List Json) : ofJson (.array items) = seq (items.map ofJson) :=
  congrArg seq (eq_map_of_cons (g := itemsOfJson) rfl (fun _ _ => rfl) items)

theorem ofJson_object (members : List (String × Json)) :
    ofJson (.object members) = map (members.map fun m => (m.1, ofJson m.2)) :=
  congrArg map (eq_map_of_cons (g := entriesOfJson) rfl (fun _ _ => rfl) members)

/-- What was written is read again in its normal form. -/
theorem imported_eq_normal (v : Value) : v.imported = v.normal := by
  unfold imported
  induction v using parts_induction with
  | step v ih =>
    cases v with
    | int n => exact ofInt_toInt n
    | float x =>
      rw [toJson_float, Json.ofFloat, normal_float]
      split <;> rfl
    | seq items =>
      rw [toJson_seq, ofJson_array, normal_seq, List.map_map]
      exact congrArg seq (List.map_congr_left ih)
    | map entries =>
      rw [toJson_map, ofJson_object, normal_map, List.map_map]
      exact congrArg map (map_entries_congr ih)
    | _ => rfl

theorem IsSorted.imported {v : Value} (sorted : v.IsSorted) : v.imported.IsSorted := by
  rw [imported_eq_normal]
  exact sorted.normal

end Value

/-- Every object in the document lists its members in ascending order. -/
inductive Json.IsSorted : Json → Prop
  | null : IsSorted null
  | bool (b : Bool) : IsSorted (bool b)
  | int (n : Int) : IsSorted (int n)
  | float (x : Binary64) : IsSorted (float x)
  | string (s : String) : IsSorted (string s)
  | array {items : List Json} (each : ∀ j ∈ items, IsSorted j) : IsSorted (array items)
  | object {members : List (String × Json)} (ordered : Table.IsSorted members)
      (each : ∀ m ∈ members, IsSorted m.2) : IsSorted (object members)

/-- The value of a document whose objects are in order is sorted. -/
theorem Value.isSorted_ofJson {j : Json} (sorted : j.IsSorted) : (ofJson j).IsSorted := by
  induction sorted with
  | null | bool b | float x | string s => exact isSorted_scalar rfl rfl
  | int n => exact isSorted_ofInt n
  | array each ih =>
    rw [ofJson_array]
    exact isSorted_seq_iff.mpr (List.forall_mem_map.mpr ih)
  | object ordered each ih =>
    rw [ofJson_object]
    exact isSorted_map_iff.mpr ⟨ordered.map ofJson, List.forall_mem_map.mpr ih⟩

/-! ## Libraries of documents -/

/-- What a library of documents is asked for: it makes documents of the seven forms of data, which
may fail, and it answers with an integer of 64 bits, a natural number of 64 bits or a floating point
number for a number that a document holds. -/
structure Codec (ε : Type) where
  unit : Except ε Json
  bool : Bool → Except ε Json
  int : Int64 → Except ε Json
  float : Binary64 → Except ε Json
  string : String → Except ε Json
  array : List Json → Except ε Json
  object : List (String × Json) → Except ε Json
  integer? : Int ⊕ Binary64 → Option Int64
  natural? : Int ⊕ Binary64 → Option Nat
  real? : Int ⊕ Binary64 → Option Binary64

namespace Codec

variable {ε : Type}

mutual

/-- Writes a value, its parts first; the first failure ends it. -/
def write (C : Codec ε) : Value → Except ε Json
  | .undefined | .none => C.unit
  | .bool b => C.bool b
  | .int n => C.int n
  | .float x => C.float x
  | .string s => C.string s
  | .seq items => do
    let items ← C.writeItems items
    C.array items
  | .map entries => do
    let members ← C.writeEntries entries
    C.object members

def writeItems (C : Codec ε) : List Value → Except ε (List Json)
  | [] => .ok []
  | v :: rest => do
    let j ← C.write v
    let items ← C.writeItems rest
    .ok (j :: items)

def writeEntries (C : Codec ε) : List (String × Value) → Except ε (List (String × Json))
  | [] => .ok []
  | (key, v) :: rest => do
    let j ← C.write v
    let members ← C.writeEntries rest
    .ok ((key, j) :: members)

end

/-- Reads a number: as an integer of 64 bits if it is one, else as a natural number if it is one, and
else as a floating point number. -/
def readNumber (C : Codec ε) (n : Int ⊕ Binary64) : Value :=
  match C.integer? n with
  | some k => .int k
  | none =>
    match C.natural? n with
    | some k => Value.ofNat k
    | none => .float ((C.real? n).getD (.nan false))

mutual

/-- Reads a document.  The members of an object are filled into a table one after the other. -/
def read (C : Codec ε) : Json → Value
  | .null => .none
  | .bool b => .bool b
  | .int n => C.readNumber (.inl n)
  | .float x => C.readNumber (.inr x)
  | .string s => .string s
  | .array items => .seq (C.readItems items)
  | .object members => .map (Table.ofList (C.readMembers members))

def readItems (C : Codec ε) : List Json → List Value
  | [] => []
  | j :: rest => C.read j :: C.readItems rest

def readMembers (C : Codec ε) : List (String × Json) → List (String × Value)
  | [] => []
  | (name, j) :: rest => (name, C.read j) :: C.readMembers rest

end

theorem isSorted_readNumber (C : Codec ε) (n : Int ⊕ Binary64) : (C.readNumber n).IsSorted := by
  unfold readNumber
  split
  · exact Value.isSorted_scalar rfl rfl
  · split
    · exact Value.isSorted_ofNat _
    · exact Value.isSorted_scalar rfl rfl

theorem writeItems_cons (C : Codec ε) (v : Value) (rest : List Value) :
    C.writeItems (v :: rest) = (do
      let j ← C.write v
      let items ← C.writeItems rest
      .ok (j :: items)) := rfl

theorem writeEntries_cons (C : Codec ε) (key : String) (v : Value) (rest : List (String × Value)) :
    C.writeEntries ((key, v) :: rest) = (do
      let j ← C.write v
      let members ← C.writeEntries rest
      .ok ((key, j) :: members)) := rfl

theorem write_seq (C : Codec ε) (items : List Value) :
    C.write (.seq items) = C.writeItems items >>= C.array := rfl

theorem write_map (C : Codec ε) (entries : List (String × Value)) :
    C.write (.map entries) = C.writeEntries entries >>= C.object := rfl

theorem writeItems_eq {C : Codec ε} {items : List Value} (each : ∀ v ∈ items, C.write v = .ok v.toJson) :
    C.writeItems items = .ok (items.map Value.toJson) := by
  induction items with
  | nil => rfl
  | cons v items ih =>
    rw [writeItems_cons, each v List.mem_cons_self,
      ih fun w mem => each w (List.mem_cons_of_mem v mem)]
    rfl

theorem writeEntries_eq {C : Codec ε} {entries : List (String × Value)}
    (each : ∀ e ∈ entries, C.write e.2 = .ok e.2.toJson) :
    C.writeEntries entries = .ok (entries.map fun e => (e.1, e.2.toJson)) := by
  induction entries with
  | nil => rfl
  | cons e entries ih =>
    rw [writeEntries_cons, each e List.mem_cons_self,
      ih fun f mem => each f (List.mem_cons_of_mem e mem)]
    rfl

theorem read_array (C : Codec ε) (items : List Json) :
    C.read (.array items) = .seq (items.map C.read) :=
  congrArg Value.seq (eq_map_of_cons (g := C.readItems) rfl (fun _ _ => rfl) items)

theorem read_object (C : Codec ε) (members : List (String × Json)) :
    C.read (.object members) = .map (Table.ofList (members.map fun m => (m.1, C.read m.2))) :=
  congrArg (fun entries => Value.map (Table.ofList entries))
    (eq_map_of_cons (g := C.readMembers) rfl (fun _ _ => rfl) members)

mutual

/-- Whatever document a value is read from, its maps are in order. -/
theorem isSorted_read (C : Codec ε) (j : Json) : (C.read j).IsSorted := by
  match j with
  | .null | .bool _ | .string _ => exact Value.isSorted_scalar rfl rfl
  | .int n => exact C.isSorted_readNumber (.inl n)
  | .float x => exact C.isSorted_readNumber (.inr x)
  | .array items => exact Value.isSorted_seq_iff.mpr (C.isSorted_readItems items)
  | .object members => exact Value.isSorted_ofEntries (C.isSorted_readMembers members)

theorem isSorted_readItems (C : Codec ε) (items : List Json) :
    ∀ v ∈ C.readItems items, v.IsSorted := by
  match items with
  | [] => exact List.forall_mem_nil _
  | j :: rest => exact List.forall_mem_cons.mpr ⟨C.isSorted_read j, C.isSorted_readItems rest⟩

theorem isSorted_readMembers (C : Codec ε) (members : List (String × Json)) :
    ∀ e ∈ C.readMembers members, e.2.IsSorted := by
  match members with
  | [] => exact List.forall_mem_nil _
  | (name, j) :: rest =>
    exact List.forall_mem_cons.mpr ⟨C.isSorted_read j, C.isSorted_readMembers rest⟩

end

/-- Writes a value and reads it again. -/
def transfer (C : Codec ε) (v : Value) : Except Error Value :=
  match C.write v with
  | .ok j => .ok (C.read j)
  | .error _ => .error Cause.unconvertible

/-- The same, where what cannot be written is undefined. -/
def transferOrUndefined (C : Codec ε) (v : Value) : Value :=
  match C.transfer v with
  | .ok w => w
  | .error _ => .undefined

/-- The library keeps what it is given: each form of data becomes the document of this form, an
infinity or NaN becomes null, and the answers for a number are the number that is held. -/
structure Keeps (C : Codec ε) : Prop where
  unit : C.unit = .ok .null
  bool (b : Bool) : C.bool b = .ok (.bool b)
  int (n : Int64) : C.int n = .ok (.int n.toInt)
  float {x : Binary64} (finite : x.isFinite = true) : C.float x = .ok (.float x)
  null {x : Binary64} (other : x.isFinite = false) : C.float x = .ok .null
  string (s : String) : C.string s = .ok (.string s)
  array (items : List Json) : C.array items = .ok (.array items)
  object {members : List (String × Json)} (sorted : Table.IsSorted members) :
    C.object members = .ok (.object members)
  integer?_int (n : Int) : C.integer? (.inl n) = int64? n
  integer?_float (x : Binary64) : C.integer? (.inr x) = none
  natural?_int {n : Int} (nonneg : 0 ≤ n) (room : n < 18446744073709551616) :
    C.natural? (.inl n) = some n.toNat
  natural?_float (x : Binary64) : C.natural? (.inr x) = none
  real?_float (x : Binary64) : C.real? (.inr x) = some x

namespace Keeps

variable {C : Codec ε} (keeps : C.Keeps)

include keeps

/-- An integer of 64 bits, with a sign or without, is read as it is read here. -/
theorem readNumber_int {n : Int} (least : -9223372036854775808 ≤ n)
    (room : n < 18446744073709551616) : C.readNumber (.inl n) = Value.ofInt n := by
  rw [readNumber, keeps.integer?_int]
  by_cases fits : FitsInt64 n
  · rw [int64?_of_fits fits, Value.ofInt_of_fits fits]
  · have nonneg : 0 ≤ n := by
      unfold FitsInt64 at fits
      omega
    rw [int64?, if_neg fits]
    simp only [keeps.natural?_int nonneg room, Value.ofNat]
    rw [Int.toNat_of_nonneg nonneg]

theorem readNumber_float (x : Binary64) : C.readNumber (.inr x) = .float x := by
  simp only [readNumber, keeps.integer?_float, keeps.natural?_float, keeps.real?_float,
    Option.getD_some]

/-- Writing does not fail, and comes to the document that the value turns into. -/
theorem write_eq {v : Value} (sorted : v.IsSorted) : C.write v = .ok v.toJson := by
  induction v using Value.parts_induction with
  | step v ih =>
    have each : ∀ w ∈ v.parts, C.write w = .ok w.toJson := fun w mem => ih w mem (sorted.part mem)
    cases v with
    | undefined | none => exact keeps.unit
    | bool b => exact keeps.bool b
    | int n => exact keeps.int n
    | string s => exact keeps.string s
    | float x =>
      rw [Value.toJson_float, Json.ofFloat]
      cases finite : x.isFinite with
      | true => exact keeps.float finite
      | false => exact keeps.null finite
    | seq items =>
      have written : C.writeItems items = .ok (items.map Value.toJson) := writeItems_eq each
      rw [write_seq, written, Value.toJson_seq]
      exact keeps.array _
    | map entries =>
      have ordered := (sorted [] entries rfl).map Value.toJson
      rw [write_map, writeEntries_eq fun e mem => each e.2 (List.mem_map_of_mem mem),
        Value.toJson_map]
      exact keeps.object ordered

/-- The document of a value is read as the value in its normal form. -/
theorem read_toJson {v : Value} (sorted : v.IsSorted) : C.read v.toJson = v.normal := by
  induction v using Value.parts_induction with
  | step v ih =>
    have each : ∀ w ∈ v.parts, C.read w.toJson = w.normal :=
      fun w mem => ih w mem (sorted.part mem)
    cases v with
    | int n =>
      have bounds := fitsInt64_toInt n
      unfold FitsInt64 at bounds
      exact (keeps.readNumber_int bounds.1 (by omega)).trans (Value.ofInt_toInt n)
    | float x =>
      rw [Value.toJson_float, Json.ofFloat]
      cases finite : x.isFinite with
      | true =>
        rw [Value.normal_float_of_finite finite]
        exact keeps.readNumber_float x
      | false =>
        rw [Value.normal_float_of_not_finite finite]
        rfl
    | seq items =>
      rw [Value.toJson_seq, read_array, List.map_map, Value.normal_seq]
      exact congrArg Value.seq (List.map_congr_left each)
    | map entries =>
      have ordered := (sorted [] entries rfl).map fun w => C.read w.toJson
      rw [Value.toJson_map, read_object, List.map_map]
      refine (congrArg Value.map (Table.ofList_of_isSorted ordered)).trans ?_
      rw [Value.normal_map, Value.map_entries_congr each]
    | _ => rfl

/-- The value comes through the library as it comes into an engine. -/
theorem transfer_eq {v : Value} (sorted : v.IsSorted) : C.transfer v = .ok v.imported := by
  rw [transfer, keeps.write_eq sorted, Value.imported_eq_normal]
  exact congrArg Except.ok (keeps.read_toJson sorted)

end Keeps

/-- A library that keeps what it is given. -/
def standard : Codec Empty where
  unit := .ok .null
  bool b := .ok (.bool b)
  int n := .ok (.int n.toInt)
  float x := .ok (Json.ofFloat x)
  string s := .ok (.string s)
  array items := .ok (.array items)
  object members := .ok (.object (Table.ofList members))
  integer?
    | .inl n => int64? n
    | .inr _ => none
  natural?
    | .inl n => if 0 ≤ n ∧ n < 18446744073709551616 then some n.toNat else none
    | .inr _ => none
  real?
    | .inl n => some (Binary64.ofInt n)
    | .inr x => some x

theorem keeps_standard : standard.Keeps where
  unit := rfl
  bool _ := rfl
  int _ := rfl
  float finite := congrArg Except.ok (if_pos finite)
  null other := congrArg Except.ok (if_neg (Bool.not_eq_true _ ▸ other))
  string _ := rfl
  array _ := rfl
  object sorted := congrArg (Except.ok ∘ Json.object) (Table.ofList_of_isSorted sorted)
  integer?_int _ := rfl
  integer?_float _ := rfl
  natural?_int nonneg room := if_pos ⟨nonneg, room⟩
  natural?_float _ := rfl
  real?_float _ := rfl

end Codec

namespace Value

/-- A value with its maps in order, as every value that a render comes to, that goes through any
library of documents that keeps what it is given, as through the documents of an engine, comes out
without failure and unchanged but for undefined, NaN and the infinities, which at any depth become
none.  So exactly the values without these stay as they are, and going through once more changes
nothing. -/
theorem imported_lossless (v : Value) :
    (∀ (ε : Type) (C : Codec ε), C.Keeps → v.IsSorted →
      C.transfer v = .ok v.imported ∧ C.transferOrUndefined v = v.imported ∧
        C.transfer v.imported = .ok v.imported) ∧
    v.imported = v.normal ∧
    (∀ path, v.imported.at? path = (v.at? path).map normal) ∧
    (v.imported = v ↔ v.IsExpressible) ∧
    v.imported.imported = v.imported := by
  have normal_imported : v.imported = v.normal := imported_eq_normal v
  have twice : v.imported.imported = v.imported := by
    rw [imported_eq_normal v.imported, normal_imported, normal_normal]
  refine ⟨fun ε C keeps sorted => ?_, normal_imported, fun path => ?_, ?_, twice⟩
  · have transferred := keeps.transfer_eq sorted
    have sortedToo : v.imported.IsSorted := normal_imported ▸ sorted.normal
    refine ⟨transferred, ?_, (keeps.transfer_eq sortedToo).trans (congrArg Except.ok twice)⟩
    rw [Codec.transferOrUndefined, transferred]
  · rw [normal_imported, at?_normal]
  · rw [normal_imported, normal_eq_self_iff]

/-- Undefined and an infinity in a sequence in a map, beside the greatest integer. -/
theorem imported_lossless_nested :
    Codec.standard.Keeps ∧
    (map [("a", seq [undefined, float (.infinite true)]), ("b", int Int64.maxValue)]).IsSorted ∧
    Codec.standard.transfer
      (map [("a", seq [undefined, float (.infinite true)]), ("b", int Int64.maxValue)]) =
      .ok (map [("a", seq [none, none]), ("b", int Int64.maxValue)]) := by
  have keeps := Codec.keeps_standard
  have leaf {v : Value} (plain : v.parts = []) (other : ∀ entries, v ≠ map entries) :
      v.IsSorted := by
    refine .of_parts (fun entries same => absurd same (other entries)) fun w mem => ?_
    rw [plain] at mem
    cases mem
  have items : (seq [undefined, float (.infinite true)]).IsSorted := by
    refine .of_parts (fun entries same => Value.noConfusion same) fun w mem => ?_
    rcases List.mem_pair.mp mem with rfl | rfl
    · exact leaf rfl fun entries same => Value.noConfusion same
    · exact leaf rfl fun entries same => Value.noConfusion same
  have sorted : (map [("a", seq [undefined, float (.infinite true)]),
      ("b", int Int64.maxValue)]).IsSorted := by
    refine .of_parts (fun entries same => ?_) fun w mem => ?_
    · obtain rfl := map.inj same
      exact List.pairwise_pair.mpr (by decide)
    · rcases List.mem_pair.mp mem with rfl | rfl
      · exact items
      · exact leaf rfl fun entries same => Value.noConfusion same
  refine ⟨keeps, sorted, ((imported_lossless _).1 Empty Codec.standard keeps sorted).1.trans ?_⟩
  rfl

end Value

end Stencil
