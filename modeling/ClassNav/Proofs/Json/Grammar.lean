import ClassNav.Json.Printer
import ClassNav.Json.Reader
import ClassNav.Proofs.Text.Lines
import Mathlib.Data.List.Basic

/-!
The texts of JSON values, and the printed one among them. Only whole numbers are spelled here; nothing
that is printed writes others.
-/

namespace ClassNav.Json

/-- A value whose numbers are all whole. -/
inductive Whole : Json → Prop
  | null : Whole null
  | bool (b : Bool) : Whole (bool b)
  | integer (n : Int) : Whole (number (.integer n))
  | string (t : Text) : Whole (string t)
  | array {items : List Json} (each : ∀ j ∈ items, Whole j) : Whole (array items)
  | object {fields : List (Text × Json)} (each : ∀ f ∈ fields, Whole f.2) : Whole (object fields)

@[simp] theorem whole_string (t : Text) : Whole (string t) := .string t

@[simp] theorem whole_bool (b : Bool) : Whole (bool b) := .bool b

@[simp] theorem whole_nat (n : Nat) : Whole (nat n) := .integer n

@[simp] theorem whole_array_iff {items : List Json} : Whole (array items) ↔ ∀ j ∈ items, Whole j :=
  ⟨fun | .array each => each, .array⟩

@[simp] theorem whole_object_iff {fields : List (Text × Json)} :
    Whole (object fields) ↔ ∀ f ∈ fields, Whole f.2 :=
  ⟨fun | .object each => each, .object⟩

@[simp] theorem whole_strings (ts : List Text) : Whole (strings ts) := by simp [strings]

theorem whole_optional {α : Type} {write : α → Json} (whole : ∀ a, Whole (write a)) (a : Option α) :
    Whole (optional write a) := by
  cases a with
  | none => exact .null
  | some a => exact whole a

/-- What may stand around the parts of a document. -/
def IsGap (t : Text) : Prop := ∀ c ∈ t, c ∈ [' ', '\t', '\n', '\r']

/-- Decimal digits of a number, without leading zeros. -/
structure Numeral (t : Text) (n : Nat) : Prop where
  nonempty : t ≠ []
  digits : ∀ c ∈ t, c.isDigit = true
  value : Text.ofDigits t = n
  lead : t.head? = some '0' → t = ['0']

/-- The inside of a string and the characters it stands for. A character beyond the first 65536 has two numbers,
one for each half. -/
inductive Letters : Text → Text → Prop
  | done : Letters [] []
  | plain {c : Char} {t s : Text} (visible : 0x20 ≤ c.toNat) (unquoted : c ≠ '"') (unescaped : c ≠ '\\')
      (rest : Letters t s) : Letters (c :: t) (c :: s)
  | letter {e c : Char} {t s : Text} (stands : simpleEscape? e = some c) (rest : Letters t s) :
      Letters ('\\' :: e :: t) (c :: s)
  | number {digits t s : Text} {c : Char} (four : digits.length = 4)
      (stands : hexNumber? digits = some c.toNat) (rest : Letters t s) :
      Letters ('\\' :: 'u' :: digits ++ t) (c :: s)
  | pair {first second t s : Text} {high low : Nat} {c : Char} (four : first.length = 4)
      (four' : second.length = 4) (above : hexNumber? first = some high)
      (below : hexNumber? second = some low) (leads : 0xD800 ≤ high ∧ high < 0xDC00)
      (trails : 0xDC00 ≤ low ∧ low < 0xE000)
      (stands : c.toNat = 0x10000 + (high - 0xD800) * 0x400 + (low - 0xDC00)) (rest : Letters t s) :
      Letters ('\\' :: 'u' :: first ++ '\\' :: 'u' :: second ++ t) (c :: s)

mutual

/-- A text of a value. -/
inductive Spells : Text → Json → Prop
  | null : Spells "null" null
  | true : Spells "true" (bool true)
  | false : Spells "false" (bool false)
  | natural {t : Text} {n : Nat} (digits : Numeral t n) : Spells t (number (.integer n))
  | negative {t : Text} {n : Nat} (digits : Numeral t (n + 1)) :
      Spells ('-' :: t) (number (.integer (.negSucc n)))
  | string {t s : Text} (letters : Letters t s) : Spells ('"' :: t ++ ['"']) (string s)
  | emptyArray {t : Text} (gap : IsGap t) : Spells ('[' :: t ++ [']']) (array [])
  | array {t : Text} {items : List Json} (each : SpellsItems t items) :
      Spells ('[' :: t ++ [']']) (array items)
  | emptyObject {t : Text} (gap : IsGap t) : Spells ('\x7b' :: t ++ ['\x7d']) (object [])
  | object {t : Text} {fields : List (Text × Json)} (each : SpellsFields t fields) :
      Spells ('\x7b' :: t ++ ['\x7d']) (object fields)

inductive SpellsItem : Text → Json → Prop
  | mk {before t after : Text} {j : Json} (lead : IsGap before) (item : Spells t j)
      (trail : IsGap after) : SpellsItem (before ++ t ++ after) j

/-- Items with commas between them. -/
inductive SpellsItems : Text → List Json → Prop
  | last {t : Text} {j : Json} (item : SpellsItem t j) : SpellsItems t [j]
  | cons {t rest : Text} {j : Json} {items : List Json} (item : SpellsItem t j)
      (each : SpellsItems rest items) : SpellsItems (t ++ ',' :: rest) (j :: items)

inductive SpellsField : Text → Text × Json → Prop
  | mk {before letters between t key : Text} {j : Json} (lead : IsGap before) (name : Letters letters key)
      (gap : IsGap between) (item : SpellsItem t j) :
      SpellsField (before ++ '"' :: letters ++ '"' :: between ++ ':' :: t) (key, j)

/-- Fields with commas between them. -/
inductive SpellsFields : Text → List (Text × Json) → Prop
  | last {t : Text} {f : Text × Json} (field : SpellsField t f) : SpellsFields t [f]
  | cons {t rest : Text} {f : Text × Json} {fields : List (Text × Json)} (field : SpellsField t f)
      (each : SpellsFields rest fields) : SpellsFields (t ++ ',' :: rest) (f :: fields)

end

theorem isGap_newline (depth : Nat) : IsGap (newline depth) := by
  intro c found
  obtain rfl | blank := List.mem_cons.1 found
  · decide
  · rw [List.eq_of_mem_replicate blank]
    decide

theorem hexNumber?_control {n : Nat} (control : n < 0x20) :
    hexNumber? ['0', '0', hexDigit (n / 16), hexDigit (n % 16)] = some n := by
  have value : ∀ n < 0x20, hexNumber? ['0', '0', hexDigit (n / 16), hexDigit (n % 16)] = some n := by
    decide
  exact value n control

theorem letters_escape {t s : Text} (c : Char) (rest : Letters t s) :
    Letters (escape c ++ t) (c :: s) := by
  unfold escape
  iterate 7
    split
    next h => exact h ▸ .letter rfl rest
  split
  next control => exact .number rfl (hexNumber?_control control) rest
  next unquoted unescaped _ _ _ _ _ visible =>
    exact .plain (by omega) unquoted unescaped rest

theorem letters_flatMap (t : Text) : Letters (t.flatMap escape) t := by
  induction t with
  | nil => exact .done
  | cons c t ih => exact letters_escape c ih

theorem ofDigits_decimal (n : Nat) : Text.ofDigits (Text.decimal n) = n := by
  have read := Nat.ofDigitChars_toDigits (b := 10) (n := n) (by decide) (by decide)
  simpa only [Text.ofDigits, Text.decimal, Nat.ofDigitChars, Nat.mul_comm] using read

theorem decimal_eq_zero {n : Nat} (lead : (Text.decimal n).head? = some '0') :
    Text.decimal n = ['0'] := by
  induction n using Nat.strongRecOn with
  | ind n ih =>
    by_cases one : n < 10
    · have digit : Text.decimal n = [n.digitChar] := Nat.toDigits_of_lt_base one
      rw [digit] at lead ⊢
      exact congrArg (fun c => [c]) (Option.some.inj lead)
    · -- more digits: what stands before the last one would be nought
      have split : Text.decimal n = Text.decimal (n / 10) ++ [(n % 10).digitChar] :=
        Nat.toDigits_of_base_le (by decide) (by omega)
      have some : Text.decimal (n / 10) ≠ [] := Nat.toDigits_ne_nil
      rw [split, List.head?_append_of_ne_nil _ some] at lead
      have nought := ofDigits_decimal (n / 10)
      rw [ih (n / 10) (by omega) lead] at nought
      have positive : 0 < n / 10 := by omega
      exact absurd nought (by simp [Text.ofDigits]; omega)

theorem numeral_decimal (n : Nat) : Numeral (Text.decimal n) n where
  nonempty := Nat.toDigits_ne_nil
  digits _ found := Nat.isDigit_of_mem_toDigits (by decide) (by decide) found
  value := ofDigits_decimal n
  lead := decimal_eq_zero

theorem spells_number (n : Int) : Spells (numberText (.integer n)) (number (.integer n)) := by
  cases n with
  | ofNat n => exact .natural (numeral_decimal n)
  | negSucc n => exact .negative (numeral_decimal (n + 1))

/-- Items on lines of their own are a list of them, whatever the items are. -/
theorem listed_joinWith {α : Type} {item : Text → α → Prop} {listed : Text → List α → Prop}
    (last : ∀ {t a}, item t a → listed t [a])
    (cons : ∀ {t rest a as}, item t a → listed rest as → listed (t ++ ',' :: rest) (a :: as))
    {before after : Text} (trail : IsGap after) {write : α → Text} {as : List α}
    (each : ∀ a ∈ as, ∀ after, IsGap after → item (before ++ write a ++ after) a) (some : as ≠ []) :
    listed (before ++ Text.joinWith (',' :: before) (as.map write) ++ after) as := by
  induction as with
  | nil => exact absurd rfl some
  | cons a as ih =>
    have here := each a (List.mem_cons_self ..)
    cases as with
    | nil => simpa [Text.joinWith] using last (here after trail)
    | cons next as =>
      have rest := ih (fun b later => each b (List.mem_cons_of_mem _ later)) (List.cons_ne_nil next as)
      have both := cons (here [] (by simp [IsGap])) rest
      simpa [Text.joinWith, List.intercalate_cons_cons] using both

theorem renderItems_eq_map (depth : Nat) (items : List Json) :
    renderItems depth items = items.map (render depth) := by
  induction items with
  | nil => rfl
  | cons j items ih => rw [renderItems, ih, List.map_cons]

theorem renderFields_eq_map (depth : Nat) (fields : List (Text × Json)) :
    renderFields depth fields = fields.map fun f => quote f.1 ++ ": ".toList ++ render depth f.2 := by
  induction fields with
  | nil => rfl
  | cons f fields ih => rw [renderFields, ih, List.map_cons]

theorem spellsField_render {before after t key : Text} {j : Json} (lead : IsGap before)
    (trail : IsGap after) (value : Spells t j) :
    SpellsField (before ++ (quote key ++ ": ".toList ++ t) ++ after) (key, j) := by
  have field := SpellsField.mk lead (letters_flatMap key) (t := [' '] ++ t ++ after)
    (by simp [IsGap] : IsGap []) (.mk (by simp [IsGap]) value trail)
  simpa [quote] using field

/-- At every depth a value is printed as one of its texts. -/
theorem spells_render {j : Json} (whole : Whole j) (depth : Nat) : Spells (render depth j) j := by
  induction whole generalizing depth with
  | null => exact .null
  | bool b => cases b <;> [exact .false; exact .true]
  | integer n => exact spells_number n
  | string t => exact .string (letters_flatMap t)
  | @array items _ ih =>
    rw [render, bracket, renderItems_eq_map]
    split
    next none =>
      obtain rfl : items = [] := by simpa using none
      exact .emptyArray (t := []) (by simp [IsGap])
    next some =>
      exact .array (listed_joinWith .last .cons (isGap_newline depth) (fun j listed after gap =>
        .mk (isGap_newline (depth + 1)) (ih j listed (depth + 1)) gap) (by simpa using some))
  | @object fields _ ih =>
    rw [render, bracket, renderFields_eq_map]
    split
    next none =>
      obtain rfl : fields = [] := by simpa using none
      exact .emptyObject (t := []) (by simp [IsGap])
    next some =>
      exact .object (listed_joinWith .last .cons (isGap_newline depth) (fun f listed after gap =>
        spellsField_render (isGap_newline (depth + 1)) gap (ih f listed (depth + 1)))
        (by simpa using some))

theorem spells_print {j : Json} (whole : Whole j) : Spells (print j) j := spells_render whole 0

/-! ## Parts of the printed text -/

theorem infix_bracket {t : Text} {texts : List Text} (listed : t ∈ texts) (depth : Nat)
    (opening closing : Char) : t <:+: bracket depth opening closing texts := by
  rw [bracket, if_neg (by simpa using List.ne_nil_of_mem listed), List.append_assoc]
  have joined := Text.infix_joinWith (',' :: newline (depth + 1)) listed
  exact joined.trans ((List.suffix_append _ _).isInfix.trans (List.prefix_append _ _).isInfix)

theorem infix_item {items : List Json} {j : Json} (listed : j ∈ items) (depth : Nat) :
    render (depth + 1) j <:+: render depth (array items) := by
  rw [render, renderItems_eq_map]
  exact infix_bracket (List.mem_map_of_mem listed) ..

theorem infix_field {fields : List (Text × Json)} (key : Text) {j : Json} (listed : (key, j) ∈ fields)
    (depth : Nat) : render (depth + 1) j <:+: render depth (object fields) := by
  rw [render, renderFields_eq_map]
  have field : quote key ++ ": ".toList ++ render (depth + 1) j ∈
      fields.map fun f => quote f.1 ++ ": ".toList ++ render (depth + 1) f.2 := List.mem_map.2 ⟨_, listed, rfl⟩
  exact (List.suffix_append _ _).isInfix.trans (infix_bracket field ..)

end ClassNav.Json
