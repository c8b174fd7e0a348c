import Stencil.Proofs.Markup.Lexeme
import Stencil.Proofs.Render.Course
import Stencil.Proofs.Text.Quoted

/-!
# What a variable writes into a script

With escaping on, a string and the message of a failure are written as they may stand in a script
literal.  Other values are displayed without an escape.  The display shows the strings of a value
(`Value.shows_display`): those in a sequence as they stand, and the keys and strings of a map
quoted.  Between them it has nothing that needs an escape, so what is harmful in it is known from
the strings.
-/

namespace Stencil

/-! ## Texts without anything to escape -/

namespace Text

/-- The characters of numbers, words and brackets. -/
def isPlain (c : Char) : Bool :=
  c.isAlpha || Numeral.isDigit c || "+-.,: []\x7b\x7d".toList.contains c

theorem isPlain_of_isDigit {c : Char} (digit : Numeral.isDigit c = true) : isPlain c = true := by
  simp [isPlain, digit]

theorem shows_of_isPlain {s : List Char} (plain : ∀ c ∈ s, isPlain c = true) : Shows [] [] s := by
  have apart : ('<' :: escapedChars).any isPlain = false := rfl
  exact .of_plain fun c mem special => List.any_eq_false.mp apart c special (plain c mem)

end Text

open Text (isPlain isPlain_of_isDigit)

/-! ## Numbers -/

theorem Value.isPlain_boolText (b : Bool) : ∀ c ∈ (boolText b).toList, isPlain c = true :=
  List.all_eq_true.mp (by cases b <;> rfl)

theorem Value.isPlain_intText (n : Int64) : ∀ c ∈ (intText n).toList, isPlain c = true := by
  rw [Numeral.toList_intText, Numeral.signText]
  intro c mem
  rcases List.mem_append.mp mem with sign | digit
  · split at sign
    · obtain rfl := List.mem_singleton.mp sign
      rfl
    · cases sign
  · exact isPlain_of_isDigit (Numeral.isDigit_of_mem_toDigits digit)

theorem isPlain_shortest (tie : DecimalTie) (mantissa : Nat) (exponent : Int) :
    ∀ c ∈ (shortest tie mantissa exponent).digits, isPlain c = true := by
  intro c mem
  have digit := List.mem_reverse.mp (List.dropWhile_subset _ (List.mem_reverse.mp mem))
  exact isPlain_of_isDigit (Numeral.isDigit_of_mem_toDigits digit)

theorem Digits.isPlain_positional {d : Digits} (plain : ∀ c ∈ d.digits, isPlain c = true) :
    ∀ c ∈ d.positional, isPlain c = true := by
  have zeros : ∀ n, ∀ c ∈ List.replicate n '0', isPlain c = true := by
    intro n c mem
    rw [List.eq_of_mem_replicate mem]
    rfl
  intro c mem
  unfold positional at mem
  dsimp only at mem
  split at mem
  · simp only [List.mem_cons, List.mem_append] at mem
    rcases mem with rfl | rfl | mem | mem
    · rfl
    · rfl
    · exact zeros _ c mem
    · exact plain c mem
  · split at mem
    · rcases List.mem_append.mp mem with mem | mem
      · exact plain c mem
      · exact zeros _ c mem
    · rcases List.mem_append.mp mem with mem | mem
      · exact plain c (List.mem_of_mem_take mem)
      · rcases List.mem_cons.mp mem with rfl | mem
        · rfl
        · exact plain c (List.mem_of_mem_drop mem)

theorem isPlain_markInteger {s : List Char} (plain : ∀ c ∈ s, isPlain c = true) :
    ∀ c ∈ markInteger s, isPlain c = true := by
  unfold markInteger
  split
  · exact plain
  · have point : ∀ c ∈ ['.', '0'], isPlain c = true := List.all_eq_true.mp rfl
    intro c mem
    exact (List.mem_append.mp mem).elim (plain c) (point c)

theorem Digits.isPlain_scientific {d : Digits} (plain : ∀ c ∈ d.digits, isPlain c = true)
    (plus : Bool) : ∀ c ∈ d.scientific plus, isPlain c = true := by
  have sign : ∀ c ∈ (if d.point - 1 < 0 then ['-'] else if plus then ['+'] else []),
      isPlain c = true := by
    split
    · exact List.all_eq_true.mp rfl
    · split <;> exact List.all_eq_true.mp rfl
  have behind : ∀ c ∈ (if d.digits.length ≤ 1 then [] else '.' :: d.digits.drop 1),
      isPlain c = true := by
    split
    · exact List.forall_mem_nil _
    · exact List.forall_mem_cons.mpr ⟨rfl, fun c mem => plain c (List.mem_of_mem_drop mem)⟩
  intro c mem
  simp only [scientific, List.mem_append, List.mem_cons] at mem
  rcases mem with (mem | mem) | rfl | mem | mem
  · exact plain c (List.mem_of_mem_take mem)
  · exact behind c mem
  · rfl
  · exact sign c mem
  · exact isPlain_of_isDigit (Numeral.isDigit_of_mem_toDigits mem)

theorem DecimalLayout.isPlain_magnitude (l : DecimalLayout) (m : Nat) (e : Int) :
    ∀ c ∈ l.magnitude m e, isPlain c = true := by
  have digits := isPlain_shortest l.tie m e
  have positional := isPlain_markInteger (Digits.isPlain_positional digits)
  unfold DecimalLayout.magnitude
  split
  · exact List.all_eq_true.mp rfl
  · dsimp only
    split
    · exact positional
    · split
      · exact positional
      · exact Digits.isPlain_scientific digits l.plus

theorem DecimalLayout.isPlain_write (l : DecimalLayout) (x : Binary64) :
    ∀ c ∈ (l.write x).toList, isPlain c = true := by
  unfold DecimalLayout.write
  split
  · exact List.all_eq_true.mp rfl
  · split <;> exact List.all_eq_true.mp rfl
  · next negative m e _ =>
    rw [String.toList_ofList]
    split
    · exact List.forall_mem_cons.mpr ⟨rfl, l.isPlain_magnitude m e⟩
    · exact l.isPlain_magnitude m e

/-! ## Values -/

namespace Value

mutual

/-- The keys and strings of a value, in order. -/
def texts : Value → List String
  | string t => [t]
  | seq items => textsOfItems items
  | map entries => textsOfEntries entries
  | undefined | none | bool _ | int _ | float _ => []

def textsOfItems : List Value → List String
  | [] => []
  | v :: rest => v.texts ++ textsOfItems rest

def textsOfEntries : List (String × Value) → List String
  | [] => []
  | (key, v) :: rest => key :: (v.texts ++ textsOfEntries rest)

end

mutual

/-- The strings that an interpolation of the value writes as they stand, in order: those that no map
stands around. -/
def rawTexts : Value → List String
  | string t => [t]
  | seq items => rawTextsOfItems items
  | undefined | none | bool _ | int _ | float _ | map _ => []

def rawTextsOfItems : List Value → List String
  | [] => []
  | v :: rest => v.rawTexts ++ rawTextsOfItems rest

end

mutual

/-- The keys and strings that an interpolation of the value writes in quotes, in order: those of the
maps in it. -/
def quotedTexts : Value → List String
  | seq items => quotedTextsOfItems items
  | map entries => textsOfEntries entries
  | undefined | none | bool _ | int _ | float _ | string _ => []

def quotedTextsOfItems : List Value → List String
  | [] => []
  | v :: rest => v.quotedTexts ++ quotedTextsOfItems rest

end

/-- Two texts with plain characters between them. -/
theorem shows_joined {s between s' : String} {literals literals' : List String}
    (first : Text.Shows [] literals s.toList) (plain : ∀ c ∈ between.toList, isPlain c = true)
    (second : Text.Shows [] literals' s'.toList) :
    Text.Shows [] (literals ++ literals') (s ++ between ++ s').toList := by
  rw [String.toList_append, String.toList_append, ← List.append_nil literals]
  exact (first.append (Text.shows_of_isPlain plain)).append second

/-- A text with plain characters around it. -/
theorem shows_around {before s behind : String} {literals : List String}
    (first : ∀ c ∈ before.toList, isPlain c = true) (shows : Text.Shows [] literals s.toList)
    (last : ∀ c ∈ behind.toList, isPlain c = true) :
    Text.Shows [] literals (before ++ s ++ behind).toList := by
  rw [String.toList_append, String.toList_append, ← List.append_nil literals]
  exact ((Text.shows_of_isPlain first).append shows).append (Text.shows_of_isPlain last)

theorem shows_entry (key : String) {v : Value} (shows : Text.Shows [] v.texts v.inspect.toList) :
    Text.Shows [] (key :: v.texts) (Text.quoted key ++ ": " ++ v.inspect).toList :=
  shows_joined (.of_quoted key) (List.all_eq_true.mp rfl) shows

mutual

theorem shows_inspect (v : Value) : Text.Shows [] v.texts v.inspect.toList := by
  match v with
  | undefined | none =>
    rw [inspect, texts]
    exact Text.shows_of_isPlain (List.all_eq_true.mp rfl)
  | bool b =>
    rw [inspect, texts]
    exact Text.shows_of_isPlain (isPlain_boolText b)
  | int n =>
    rw [inspect, texts]
    exact Text.shows_of_isPlain (isPlain_intText n)
  | float x =>
    rw [inspect, texts]
    exact Text.shows_of_isPlain (DecimalLayout.isPlain_write _ x)
  | string t =>
    rw [inspect, texts]
    exact .of_quoted t
  | seq items =>
    rw [inspect, texts]
    exact shows_around (List.all_eq_true.mp rfl) (shows_inspectItems items)
      (List.all_eq_true.mp rfl)
  | map entries =>
    rw [inspect, texts]
    exact shows_around (List.all_eq_true.mp rfl) (shows_inspectEntries entries)
      (List.all_eq_true.mp rfl)

theorem shows_inspectItems (items : List Value) :
    Text.Shows [] (textsOfItems items) (inspectItems items).toList := by
  match items with
  | [] =>
    rw [inspectItems, textsOfItems]
    exact .nil
  | [v] =>
    rw [inspectItems, textsOfItems, textsOfItems, List.append_nil]
    exact shows_inspect v
  | v :: w :: rest =>
    rw [inspectItems, textsOfItems]
    · exact shows_joined (shows_inspect v) (List.all_eq_true.mp rfl)
        (shows_inspectItems (w :: rest))
    · exact List.cons_ne_nil w rest

theorem shows_inspectEntries (entries : List (String × Value)) :
    Text.Shows [] (textsOfEntries entries) (inspectEntries entries).toList := by
  match entries with
  | [] =>
    rw [inspectEntries, textsOfEntries]
    exact .nil
  | [(key, v)] =>
    rw [inspectEntries, textsOfEntries, textsOfEntries, List.append_nil]
    exact shows_entry key (shows_inspect v)
  | (key, v) :: next :: rest =>
    rw [inspectEntries, textsOfEntries]
    · exact shows_joined (shows_entry key (shows_inspect v)) (List.all_eq_true.mp rfl)
        (shows_inspectEntries (next :: rest))
    · exact List.cons_ne_nil next rest

end

mutual

/-- What the display of a value shows: the strings outside of its maps as they stand, and the keys
and strings of its maps quoted. -/
theorem shows_display (v : Value) : Text.Shows v.rawTexts v.quotedTexts v.display.toList := by
  match v with
  | undefined | none =>
    rw [display, rawTexts, quotedTexts]
    exact .nil
  | bool b =>
    rw [display, rawTexts, quotedTexts]
    exact Text.shows_of_isPlain (isPlain_boolText b)
  | int n =>
    rw [display, rawTexts, quotedTexts]
    exact Text.shows_of_isPlain (isPlain_intText n)
  | float x =>
    rw [display, rawTexts, quotedTexts]
    exact Text.shows_of_isPlain (DecimalLayout.isPlain_write _ x)
  | string t =>
    rw [display, rawTexts, quotedTexts]
    exact .of_raw t
  | seq items =>
    rw [display, rawTexts, quotedTexts]
    exact shows_displayItems items
  | map entries =>
    have shows := shows_inspect (map entries)
    rw [texts] at shows
    rw [display, rawTexts, quotedTexts]
    exact shows

theorem shows_displayItems (items : List Value) :
    Text.Shows (rawTextsOfItems items) (quotedTextsOfItems items) (displayItems items).toList := by
  match items with
  | [] =>
    rw [displayItems, rawTextsOfItems, quotedTextsOfItems]
    exact .nil
  | v :: rest =>
    rw [displayItems, rawTextsOfItems, quotedTextsOfItems, String.toList_append]
    exact (shows_display v).append (shows_displayItems rest)

end

/-- Nothing in the value has to be escaped: no map in it has an entry, and no string in it has a
character that scripts escape or that opens a tag. -/
structure Bare (v : Value) : Prop where
  noQuoted : v.quotedTexts = []
  harmless : ∀ t ∈ v.rawTexts, ∀ c ∈ t.toList, c ∉ '<' :: Text.escapedChars

end Value

/-! ## Variables -/

namespace State

variable {settings : Settings} {s : State} {v : Variable}

/-- A text that is harmless in a script literal. -/
def Safe (text : String) : Prop := Text.Inert text.toList

theorem safe_escaped (text : String) : Safe (escaped text) := by
  rw [Safe, escaped, String.toList_ofList]
  exact (Text.Escape.pieces_script text.toList).inert

theorem safe_display {value : Value} (bare : value.Bare) : Safe value.display := by
  have shows := value.shows_display
  rw [bare.noQuoted] at shows
  exact (shows.pieces bare.harmless).inert

theorem safe_empty : Safe "" := Text.Pieces.nil.inert

/-- What a variable may write.  It is a safe text for a failure, for a string and for a value in
which nothing has to be escaped.  It is the display of any value that is not a string: controls come
from the strings that are written as they stand, and in the text of a map everything is quoted. -/
structure Interpolates (settings : Settings) (s : State) (v : Variable) (text : String) : Prop where
  failure : ∀ e, s.variableValue settings v = .error e → Safe text
  string : ∀ t, s.variableValue settings v = .ok (.string t) → Safe text
  bare : ∀ value, s.variableValue settings v = .ok value → value.Bare → Safe text
  display : ∀ value, s.variableValue settings v = .ok value → (∀ t, value ≠ .string t) →
    text = value.display ∧ Text.Shows value.rawTexts value.quotedTexts text.toList
  controls : ∀ value, s.variableValue settings v = .ok value → (∀ t, value ≠ .string t) →
    ∀ c ∈ Text.controls, c ∈ text.toList ↔ ∃ t ∈ value.rawTexts, c ∈ t.toList
  map : ∀ entries, s.variableValue settings v = .ok (.map entries) →
    Text.Quotes (Value.map entries).texts text.toList

theorem Interpolates.of_error {e : Error} {text : String}
    (failed : s.variableValue settings v = .error e) (safe : Safe text) :
    Interpolates settings s v text := by
  have noValue (value : Value) : s.variableValue settings v ≠ .ok value := by
    intro evaluated
    rw [failed] at evaluated
    cases evaluated
  refine ⟨fun _ _ => safe, ?_, ?_, ?_, ?_, ?_⟩
  all_goals exact fun _ evaluated => absurd evaluated (noValue _)

theorem variableText_of_not_string {value : Value} (other : ∀ t, value ≠ .string t) :
    variableText settings value = value.display := by
  cases value with
  | string t => exact absurd rfl (other t)
  | _ => rfl

theorem safe_variableText_string (escapes : settings.escapeVariables = true) (t : String) :
    Safe (variableText settings (.string t)) := by
  rw [variableText, if_pos escapes]
  exact safe_escaped t

theorem Interpolates.of_ok (escapes : settings.escapeVariables = true) {value : Value}
    (evaluated : s.variableValue settings v = .ok value) :
    Interpolates settings s v (variableText settings value) := by
  have only {other : Value} (same : s.variableValue settings v = .ok other) : other = value :=
    Except.ok.inj (same.symm.trans evaluated)
  have shows (other : ∀ t, value ≠ .string t) :
      Text.Shows value.rawTexts value.quotedTexts (variableText settings value).toList := by
    rw [variableText_of_not_string other]
    exact value.shows_display
  refine ⟨fun e failed => ?_, fun t same => ?_, fun other same bare => ?_,
    fun other same notString => ?_, fun other same notString c control => ?_,
    fun entries same => ?_⟩
  · rw [evaluated] at failed
    cases failed
  · obtain rfl := only same
    exact safe_variableText_string escapes t
  · obtain rfl := only same
    cases other with
    | string t => exact safe_variableText_string escapes t
    | _ => exact safe_display bare
  · obtain rfl := only same
    exact ⟨variableText_of_not_string notString, shows notString⟩
  · obtain rfl := only same
    exact (shows notString).mem_control_iff control
  · obtain rfl := only same
    have quoted := shows fun t => Value.noConfusion
    rw [Value.rawTexts, Value.quotedTexts] at quoted
    rw [Value.texts]
    exact quoted.toQuotes

/-- In the place of a variable that fails stands a safe text: the escaped message, or nothing. -/
theorem output_recover (settings : Settings) (escapes : settings.escapeVariables = true)
    (span : Option Span) (e : Error) (s : State) :
    ∃ text, (s.recover settings true span e).output = s.output.write text ∧ Safe text := by
  unfold recover
  cases settings.environment.errorMode with
  | lax =>
    refine ⟨_, rfl, ?_⟩
    rw [escapes]
    exact safe_escaped _
  | strict => exact ⟨"", (congrArg State.output s.write_empty).symm, safe_empty⟩

/-- With escaping on, a variable writes one text, which is safe in a script literal if the variable
fails, if its value is a string, and if nothing in its value has to be escaped.  For any other value
it is the display. -/
theorem renderNode_interpolates (environment : Environment) (globalFilter : Option GlobalFilter)
    (sub : Renderer) (s : State) (v : Variable) (span : Span) :
    ∃ text, (s.renderNode ⟨environment, true, globalFilter⟩ sub (.variable v span)).output =
        s.output.write text ∧
      Interpolates ⟨environment, true, globalFilter⟩ s v text := by
  let settings : Settings := ⟨environment, true, globalFilter⟩
  show ∃ text, (s.renderVariable settings v span).output = s.output.write text ∧
    Interpolates settings s v text
  unfold renderVariable
  cases evaluated : s.variableValue settings v with
  | ok value => exact ⟨_, rfl, .of_ok rfl evaluated⟩
  | error e =>
    obtain ⟨text, wrote, safe⟩ := output_recover settings rfl (some span) e s
    exact ⟨text, wrote, .of_error evaluated safe⟩

/-- A render with a value under the name `s`. -/
def showing (value : Value) : State :=
  Environment.startState (.ofNodes "page" []) (.map [("s", value)]) .default

/-- What the variable `s` leaves in the output of that render. -/
def shown (value : Value) : Output :=
  ((showing value).renderNode ⟨.standard, true, none⟩ (fun _ s => (.ok (), s))
    (.variable ⟨.path "s" [], []⟩ ⟨.start, .start⟩)).output

theorem not_safe_of_quote {quote : Char} (before behind : List Char) {text : String}
    (same : text.toList = before ++ quote :: behind) (isQuote : quote ∈ Text.literalQuotes)
    (plain : Text.escapeOpen before = false) : ¬ Safe text := by
  intro safe
  rw [safe.quotesEscaped before quote behind same isQuote] at plain
  cases plain

/-- The variable writes one text, which is safe. -/
def ShowsSafely (value : Value) : Prop :=
  ∃ text, shown value = (showing value).output.write text ∧ Safe text

/-- The strings in a sequence are not escaped, and a map has quotes around its keys and strings. -/
theorem not_safe_seq_map :
    ¬ ShowsSafely (.seq [.string "';alert(1);//"]) ∧ ¬ ShowsSafely (.map [("a", .string "'")]) := by
  have written {value : Value} {text raw : String}
      (wrote : shown value = (showing value).output.write text)
      (display : shown value = Output.joining.write raw) : text = raw := by
    have same : "" ++ text = "" ++ raw :=
      Sink.joined.inj (congrArg Output.sink (wrote.symm.trans display))
    rwa [String.empty_append, String.empty_append] at same
  constructor
  · rintro ⟨text, wrote, safe⟩
    have raw : text = "';alert(1);//" := written wrote (by decide +kernel)
    exact not_safe_of_quote [] _ (congrArg String.toList raw) (by decide) rfl safe
  · rintro ⟨text, wrote, safe⟩
    have raw : text = "\x7b\"a\": \"'\"\x7d" := written wrote (by decide +kernel)
    exact not_safe_of_quote ['\x7b'] _ (congrArg String.toList raw) (by decide) rfl safe

end State

end Stencil
