import ClassNav.Proofs.Json.Grammar
import ClassNav.Proofs.Text.Runs

/-!
The reader takes every text of a value for that value: each form of strings and numbers, and any gaps. So
what is printed is read again as it was.
-/

namespace ClassNav.Json

/-- A value that the reader can hold: whole numbers of 64 bits, and at most so many levels of brackets. -/
inductive Fits : Nat → Json → Prop
  | null {n : Nat} : Fits n null
  | bool {n : Nat} (b : Bool) : Fits n (bool b)
  | natural {n m : Nat} (small : m < UInt64.size) : Fits n (number (.integer m))
  | negative {n m : Nat} (small : m < Nat.pow 2 63) : Fits n (number (.integer (.negSucc m)))
  | string {n : Nat} (t : Text) : Fits n (string t)
  | array {n : Nat} {items : List Json} (each : ∀ j ∈ items, Fits n j) : Fits (n + 1) (array items)
  | object {n : Nat} {fields : List (Text × Json)} (each : ∀ f ∈ fields, Fits n f.2) :
      Fits (n + 1) (object fields)

theorem Fits.whole {n : Nat} {j : Json} (fits : Fits n j) : Whole j := by
  induction fits with
  | null => exact .null
  | bool b => exact .bool b
  | natural _ => exact .integer _
  | negative _ => exact .integer _
  | string t => exact .string t
  | array _ ih => exact .array ih
  | object _ ih => exact .object ih

theorem fits_optional {α : Type} {n : Nat} {write : α → Json} (fits : ∀ a, Fits n (write a)) (a : Option α) :
    Fits n (optional write a) := by
  cases a with
  | none => exact .null
  | some a => exact fits a

theorem fits_strings {n : Nat} (ts : List Text) : Fits (n + 1) (strings ts) :=
  .array (List.forall_mem_map.2 fun t _ => .string t)

/-- What may stand behind a value: the end, a gap, or a sign of the list that it is in. -/
def Closed (rest : Text) : Prop :=
  ∀ c ∈ rest.head?, c ∈ [',', ']', '\x7d', ' ', '\t', '\n', '\r']

theorem isGap_eq {t : Text} (gap : IsGap t) : ∀ c ∈ t, isGap c = true := by
  intro c found
  have blank := gap c found
  simp only [List.mem_cons, List.not_mem_nil, or_false] at blank
  obtain rfl | rfl | rfl | rfl := blank <;> rfl

theorem skipGap_append {gap t : Text} (blank : IsGap gap) : skipGap (gap ++ t) = skipGap t :=
  List.dropWhile_append_of_pos (isGap_eq blank)

theorem skipGap_of_visible {c : Char} {r : Text} (visible : isGap c = false) :
    skipGap (c :: r) = c :: r := by
  simp [skipGap, visible]

theorem readValue_gap {gap : Text} (blank : IsGap gap) (depth fuel : Nat) (t : Text) :
    readValue depth fuel (gap ++ t) = readValue depth fuel t := by
  cases fuel with
  | zero => simp only [readValue]
  | succ fuel => simp only [readValue, skipGap_append blank]

/-! ## Strings -/

theorem fourHex?_append {digits : Text} {n : Nat} (four : digits.length = 4)
    (stands : hexNumber? digits = some n) (t : Text) : fourHex? (digits ++ t) = some (n, t) := by
  rw [fourHex?, if_neg (by simp [four]), List.take_left' four, List.drop_left' four, stands]
  rfl

theorem numericEscape?_of_four {digits t : Text} {c : Char} (four : digits.length = 4)
    (stands : hexNumber? digits = some c.toNat) : numericEscape? (digits ++ t) = some (c, t) := by
  -- a character is no half of a pair
  have whole : ¬(0xD800 ≤ c.toNat ∧ c.toNat < 0xE000) := by
    have valid := c.valid
    simp only [UInt32.isValidChar, Nat.isValidChar] at valid
    simp only [Char.toNat]
    omega
  simp only [numericEscape?, fourHex?_append four stands, Option.bind_some]
  rw [if_neg (by omega), if_neg (by omega), Char.ofNat_toNat]

theorem numericEscape?_of_pair {first second t : Text} {high low : Nat} {c : Char}
    (four : first.length = 4) (four' : second.length = 4) (above : hexNumber? first = some high)
    (below : hexNumber? second = some low) (leads : 0xD800 ≤ high ∧ high < 0xDC00)
    (trails : 0xDC00 ≤ low ∧ low < 0xE000)
    (stands : c.toNat = 0x10000 + (high - 0xD800) * 0x400 + (low - 0xDC00)) :
    numericEscape? (first ++ '\\' :: 'u' :: (second ++ t)) = some (c, t) := by
  have marked : Text.stripPrefix? ['\\', 'u'] ('\\' :: 'u' :: (second ++ t)) = some (second ++ t) := by
    simp [Text.stripPrefix?, List.isPrefixOf?]
  simp only [numericEscape?, fourHex?_append four above, Option.bind_some, if_pos leads, marked,
    fourHex?_append four' below, if_pos trails, ← stands, Char.ofNat_toNat]

theorem readString_letters {t s : Text} (letters : Letters t s) (rest : Text) (fuel : Nat)
    (enough : t.length < fuel) : readString fuel (t ++ '"' :: rest) = some (s, rest) := by
  induction letters generalizing fuel with
  | done =>
    obtain ⟨fuel, rfl⟩ := Nat.exists_eq_add_one_of_ne_zero (Nat.ne_of_gt enough)
    rfl
  | @plain c t s visible unquoted unescaped letters ih =>
    obtain ⟨fuel, rfl⟩ := Nat.exists_eq_add_one_of_ne_zero (Nat.ne_of_gt (Nat.zero_lt_of_lt enough))
    have control : ¬ c.toNat < 0x20 := by omega
    have more := ih fuel (by simpa using enough)
    simp [readString, unquoted, unescaped, control, more]
  | @letter e c t s stands letters ih =>
    obtain ⟨fuel, rfl⟩ := Nat.exists_eq_add_one_of_ne_zero (Nat.ne_of_gt (Nat.zero_lt_of_lt enough))
    have more := ih fuel (by simp at enough; omega)
    have plain : e ≠ 'u' := by
      rintro rfl
      cases stands
    simp [readString, stands, more]
  | @number digits t s c four stands letters ih =>
    obtain ⟨fuel, rfl⟩ := Nat.exists_eq_add_one_of_ne_zero (Nat.ne_of_gt (Nat.zero_lt_of_lt enough))
    have more := ih fuel (by simp at enough; omega)
    simp [readString, numericEscape?_of_four four stands, more]
  | @pair first second t s high low c four four' above below leads trails stands letters ih =>
    obtain ⟨fuel, rfl⟩ := Nat.exists_eq_add_one_of_ne_zero (Nat.ne_of_gt (Nat.zero_lt_of_lt enough))
    have more := ih fuel (by simp at enough; omega)
    have read := numericEscape?_of_pair (t := t ++ '"' :: rest) four four' above below leads trails stands
    simp [readString, read, more]

/-! ## Numbers -/

theorem Closed.stops {rest : Text} (closed : Closed rest) :
    ∀ c ∈ rest.head?, c.isDigit = false ∧ c ≠ '.' ∧ c ≠ 'e' ∧ c ≠ 'E' := by
  intro c found
  have sign := closed c found
  simp only [List.mem_cons, List.not_mem_nil, or_false] at sign
  obtain rfl | rfl | rfl | rfl | rfl | rfl | rfl := sign <;> decide

theorem digits?_of_numeral {t rest : Text} {n : Nat} (numeral : Numeral t n) (closed : Closed rest) :
    digits? (t ++ rest) = some (t, rest) := by
  have stops : ∀ c ∈ rest.head?, c.isDigit = false := fun c found => (closed.stops c found).1
  rw [digits?, Text.takeWhile_append_stop numeral.digits stops,
    Text.dropWhile_append_stop numeral.digits stops, if_neg (by simpa using numeral.nonempty)]

theorem fraction?_of_closed {rest : Text} (closed : Closed rest) : fraction? rest = some ([], rest) := by
  unfold fraction?
  split
  next r => exact absurd rfl (closed.stops '.' rfl).2.1
  next => rfl

theorem exponent?_of_closed {rest : Text} (closed : Closed rest) : exponent? rest = some (none, rest) := by
  unfold exponent?
  split
  next e r =>
    have plain := (closed.stops e rfl).2.2
    rw [if_neg (by simp [plain])]
  next => rfl

/-- A number of 64 bits is read to its last digit. -/
theorem readNumber?_of_numeral {t rest : Text} {n : Nat} (negative : Bool) (numeral : Numeral t n)
    (small : if negative then 0 < n ∧ n ≤ Nat.pow 2 63 else n < UInt64.size) (closed : Closed rest) :
    readNumber? negative (t ++ rest) = some (.integer (if negative then -(n : Int) else n), rest) := by
  have lead : ¬(t.length > 1 ∧ t.head? = some '0') := by
    rintro ⟨long, nought⟩
    rw [numeral.lead nought] at long
    simp at long
  simp only [readNumber?, digits?_of_numeral numeral closed, fraction?_of_closed closed,
    exponent?_of_closed closed, Option.bind_some, if_neg lead, numeral.value]
  rw [if_pos ⟨rfl, trivial, small⟩]

/-! ## Values -/

theorem Spells.ne_nil {t : Text} {j : Json} (spells : Spells t j) : t ≠ [] := by
  cases spells with
  | natural digits => exact digits.nonempty
  | _ => simp

/-- What begins like no other value is read as a number. -/
theorem readValue_of_digit {depth fuel : Nat} {c : Char} {r : Text} (digit : c.isDigit = true) :
    readValue depth (fuel + 1) (c :: r) =
      (readNumber? false (c :: r)).map fun (n, rest) => (number n, rest) := by
  have other (d : Char) (plain : d.isDigit = false) : d ≠ c := by
    rintro rfl
    simp [plain] at digit
  have visible : isGap c = false := by
    simp [isGap, (other _ _).symm]
  simp [readValue, skipGap_of_visible visible, Text.stripPrefix?, List.isPrefixOf?, other, (other _ _).symm]

theorem readValue_of_string {depth fuel : Nat} {t s : Text} (letters : Letters t s) (rest : Text) :
    readValue depth (fuel + 1) ('"' :: (t ++ '"' :: rest)) = some (string s, rest) := by
  have read := readString_letters letters rest ((t ++ '"' :: rest).length + 1)
    (Nat.lt_succ_of_le (List.prefix_append ..).length_le)
  rw [readValue, skipGap_of_visible rfl]
  simp only [read, Option.map_some]

section
variable {depth fuel : Nat} {r rest : Text}

/-- No item begins with the closing bracket. -/
theorem readItems_of_closed (closed : skipGap r = ']' :: rest) : readItems depth fuel r = none := by
  cases fuel with
  | zero => simp only [readItems]
  | succ fuel =>
    cases fuel with
    | zero => simp [readItems, readValue]
    | succ fuel => simp [readItems, readValue, closed, Text.stripPrefix?, List.isPrefixOf?, readNumber?, digits?]

theorem readFields_of_closed (closed : skipGap r = '\x7d' :: rest) : readFields depth fuel r = none := by
  cases fuel with
  | zero => simp only [readFields]
  | succ fuel => simp [readFields, closed]

theorem readValue_of_items {items : List Json} (deep : 1 < depth)
    (read : readItems (depth - 1) fuel r = some (items, rest)) :
    readValue depth (fuel + 1) ('[' :: r) = some (array items, rest) := by
  rw [readValue, skipGap_of_visible rfl]
  simp only [if_neg (Nat.not_le.2 deep)]
  split
  next closed => simp [readItems_of_closed closed] at read
  next => simp [read]

theorem readValue_of_fields {fields : List (Text × Json)} (deep : 1 < depth)
    (read : readFields (depth - 1) fuel r = some (fields, rest)) :
    readValue depth (fuel + 1) ('\x7b' :: r) = some (object fields, rest) := by
  rw [readValue, skipGap_of_visible rfl]
  simp only [if_neg (Nat.not_le.2 deep)]
  split
  next closed => simp [readFields_of_closed closed] at read
  next => simp [read]

end

/-- With this much fuel every text of a value is read to its end. -/
def ReadsValues (fuel : Nat) : Prop :=
  ∀ (depth : Nat) (rest : Text) {n : Nat} {t : Text} {j : Json}, Spells t j → Fits n j → n < depth →
    t.length ≤ fuel → Closed rest → readValue depth fuel (t ++ rest) = some (j, rest)

def ReadsItems (fuel : Nat) : Prop :=
  ∀ (depth : Nat) (rest : Text) {n : Nat} {t : Text} {items : List Json}, SpellsItems t items →
    (∀ j ∈ items, Fits n j) → n < depth → t.length < fuel →
    readItems depth fuel (t ++ ']' :: rest) = some (items, rest)

def ReadsFields (fuel : Nat) : Prop :=
  ∀ (depth : Nat) (rest : Text) {n : Nat} {t : Text} {fields : List (Text × Json)}, SpellsFields t fields →
    (∀ f ∈ fields, Fits n f.2) → n < depth → t.length < fuel →
    readFields depth fuel (t ++ '\x7d' :: rest) = some (fields, rest)

theorem readsValues_succ {fuel : Nat} (eachItem : ReadsItems fuel) (eachField : ReadsFields fuel) :
    ReadsValues (fuel + 1) := by
  intro depth rest n t j spells fits deep short closed
  cases spells with
  | null => simp [readValue, skipGap, isGap, Text.stripPrefix?, List.isPrefixOf?]
  | true => simp [readValue, skipGap, isGap, Text.stripPrefix?, List.isPrefixOf?]
  | false => simp [readValue, skipGap, isGap, Text.stripPrefix?, List.isPrefixOf?]
  | natural digits =>
    cases fits with
    | natural small =>
      have read := readNumber?_of_numeral false digits small closed
      obtain ⟨c, r, rfl⟩ := List.exists_cons_of_ne_nil digits.nonempty
      rw [List.cons_append] at read ⊢
      rw [readValue_of_digit (digits.digits c (List.mem_cons_self ..)), read]
      rfl
  | negative digits =>
    cases fits with
    | negative small =>
      have read := readNumber?_of_numeral true digits ⟨Nat.succ_pos _, small⟩ closed
      rw [List.cons_append, readValue, skipGap_of_visible rfl]
      simp only [read]
      rfl
  | @string t s letters => simpa using readValue_of_string letters rest
  | @emptyArray t gap =>
    cases fits with
    | array =>
      have skipped : skipGap (t ++ ']' :: rest) = ']' :: rest := by
        rw [skipGap_append gap, skipGap_of_visible rfl]
      simp [readValue, skipGap_of_visible, isGap, skipped]
      omega
  | @array t items each =>
    cases fits with
    | array inner =>
      have read := eachItem (depth - 1) rest each inner (by omega)
        (by simp at short; omega)
      simpa using readValue_of_items (by omega) read
  | @emptyObject t gap =>
    cases fits with
    | object =>
      have skipped : skipGap (t ++ '\x7d' :: rest) = '\x7d' :: rest := by
        rw [skipGap_append gap, skipGap_of_visible rfl]
      simp [readValue, skipGap_of_visible, isGap, skipped]
      omega
  | @object t fields each =>
    cases fits with
    | object inner =>
      have read := eachField (depth - 1) rest each inner (by omega)
        (by simp at short; omega)
      simpa using readValue_of_fields (by omega) read

theorem closed_gap {after rest : Text} (gap : IsGap after) (closed : Closed rest) :
    Closed (after ++ rest) := by
  cases after with
  | nil => exact closed
  | cons c after =>
    rintro d ⟨rfl⟩
    exact List.mem_append_right [',', ']', '\x7d'] (gap c (List.mem_cons_self ..))

theorem closed_nil : Closed [] := by simp [Closed]

theorem closed_sign {rest : Text} {c : Char} (sign : c ∈ [',', ']', '\x7d']) : Closed (c :: rest) := by
  rintro d ⟨rfl⟩
  exact List.mem_append_left [' ', '\t', '\n', '\r'] sign

/-- An item with the gaps around it, before the sign that ends it. -/
theorem readValue_of_item {depth fuel n : Nat} {t : Text} {j : Json} (c : Char) (rest : Text)
    (value : ReadsValues fuel) (item : SpellsItem t j) (fits : Fits n j) (deep : n < depth)
    (short : t.length ≤ fuel) (sign : c ∈ [',', ']', '\x7d']) :
    ∃ after, readValue depth fuel (t ++ c :: rest) = some (j, after) ∧ skipGap after = c :: rest := by
  obtain @⟨before, t, after, _, lead, spells, trail⟩ := item
  have visible : isGap c = false := by
    simp only [List.mem_cons, List.not_mem_nil, or_false] at sign
    obtain rfl | rfl | rfl := sign <;> rfl
  have read := value depth (after ++ c :: rest) spells fits deep (by simp at short; omega)
    (closed_gap trail (closed_sign sign))
  refine ⟨after ++ c :: rest, ?_, by rw [skipGap_append trail, skipGap_of_visible visible]⟩
  rw [List.append_assoc, List.append_assoc, readValue_gap lead, read]

theorem readsItems_succ {fuel : Nat} (value : ReadsValues fuel) (eachItem : ReadsItems fuel) :
    ReadsItems (fuel + 1) := by
  intro depth rest n t items spells fits deep short
  cases spells with
  | @last t j item =>
    obtain ⟨after, read, skipped⟩ := readValue_of_item ']' rest value item
      (fits j (List.mem_cons_self ..)) deep (by omega) (by decide)
    simp [readItems, read, skipped]
  | @cons t more j items item each =>
    obtain ⟨after, read, skipped⟩ := readValue_of_item ',' (more ++ ']' :: rest) value item
      (fits j (List.mem_cons_self ..)) deep (by simp at short; omega) (by decide)
    have others := eachItem depth rest each (fun i listed => fits i (List.mem_cons_of_mem _ listed))
      deep (by simp at short; omega)
    simp [readItems, read, skipped, others]

/-- A field, before the comma that leads to more of them or the brace that ends them. -/
theorem readFields_of_field {depth fuel n : Nat} {t rest last : Text} {f : Text × Json}
    {fields : List (Text × Json)} {c : Char} (value : ReadsValues fuel) (field : SpellsField t f)
    (fits : Fits n f.2) (deep : n < depth) (short : t.length ≤ fuel)
    (next : c = ',' ∧ readFields depth fuel rest = some (fields, last) ∨
      c = '\x7d' ∧ fields = [] ∧ last = rest) :
    readFields depth (fuel + 1) (t ++ c :: rest) = some (f :: fields, last) := by
  obtain @⟨before, letters, between, t, key, j, lead, name, gap, item⟩ := field
  have sign : c ∈ [',', ']', '\x7d'] := by
    obtain ⟨rfl, -⟩ | ⟨rfl, -⟩ := next <;> decide
  obtain ⟨after, read, skipped⟩ := readValue_of_item c rest value item fits deep
    (by simp at short; omega) sign
  have opened : skipGap ((before ++ '"' :: letters ++ '"' :: between ++ ':' :: t) ++ c :: rest) =
      '"' :: (letters ++ '"' :: (between ++ ':' :: (t ++ c :: rest))) := by
    simp only [List.append_assoc, List.cons_append, skipGap_append lead]
    exact skipGap_of_visible rfl
  have named := readString_letters name (between ++ ':' :: (t ++ c :: rest))
    ((letters ++ '"' :: (between ++ ':' :: (t ++ c :: rest))).length + 1)
    (Nat.lt_succ_of_le (List.prefix_append ..).length_le)
  have colon : skipGap (between ++ ':' :: (t ++ c :: rest)) = ':' :: (t ++ c :: rest) := by
    rw [skipGap_append gap, skipGap_of_visible rfl]
  rw [readFields, opened]
  simp only [named, colon, Option.bind_some, read, skipped]
  obtain ⟨rfl, more⟩ | ⟨rfl, rfl, rfl⟩ := next
  · simp [more]
  · rfl

theorem readsFields_succ {fuel : Nat} (value : ReadsValues fuel) (eachField : ReadsFields fuel) :
    ReadsFields (fuel + 1) := by
  intro depth rest n t fields spells fits deep short
  cases spells with
  | @last t f field =>
    exact readFields_of_field value field (fits f (List.mem_cons_self ..)) deep (by omega)
      (.inr ⟨rfl, rfl, rfl⟩)
  | @cons t more f fields field each =>
    simp only [List.length_append, List.length_cons] at short
    have others := eachField depth rest each
      (fun g listed => fits g (List.mem_cons_of_mem _ listed)) deep (by omega)
    rw [List.append_assoc, List.cons_append]
    exact readFields_of_field value field (fits f (List.mem_cons_self ..)) deep (by omega)
      (.inl ⟨rfl, others⟩)

theorem reads (fuel : Nat) : ReadsValues fuel ∧ ReadsItems fuel ∧ ReadsFields fuel := by
  induction fuel with
  | zero =>
    refine ⟨?_, ?_, ?_⟩
    · intro depth rest n t j spells _ _ short
      -- no value has an empty text
      exact absurd (List.eq_nil_of_length_eq_zero (Nat.le_zero.1 short)) spells.ne_nil
    all_goals exact fun _ _ _ _ _ _ _ _ short => absurd short (Nat.not_lt_zero _)
  | succ fuel ih =>
    obtain ⟨value, eachItem, eachField⟩ := ih
    exact ⟨readsValues_succ eachItem eachField, readsItems_succ value eachItem,
      readsFields_succ value eachField⟩

/-- **Every text of a value is read as that value**, with any gaps around it. -/
theorem parse?_of_spells (before after : Text) {t : Text} {j : Json} (lead : IsGap before) (spells : Spells t j)
    (trail : IsGap after) (fits : Fits 127 j) : parse? (before ++ t ++ after) = some j := by
  have read := (reads ((before ++ t ++ after).length + 1)).1 128 after spells fits
    (by decide) (by simp; omega) (by simpa using closed_gap trail closed_nil)
  rw [parse?, List.append_assoc, readValue_gap lead, ← List.append_assoc, read]
  simp [skipGap, List.dropWhile_eq_nil_iff.2 (isGap_eq trail)]

end ClassNav.Json
