import ClassNav.Proofs.Character.Ascii
import ClassNav.Proofs.Yaml.Tokens
import ClassNav.Yaml.Node
import Mathlib.Data.List.Forall2

/-!
Printed JSON as YAML. Between brackets the two agree on every sign, so a printed value is read as a tree of the
same shape, with quoted text where JSON has a string and plain words for the rest.
-/

namespace ClassNav

/-- A value that means the same in YAML: its text is kept, and its keys are on one line and short enough to be
known as keys. -/
inductive Json.Portable : Json → Prop
  | null : Portable null
  | bool (b : Bool) : Portable (bool b)
  | natural (n : Nat) : Portable (nat n)
  | string {t : Text} (kept : Yaml.Kept t) : Portable (string t)
  | array {items : List Json} (each : ∀ j ∈ items, Portable j) : Portable (array items)
  | object {fields : List (Text × Json)} (keys : ∀ f ∈ fields, ∀ c ∈ f.1, Yaml.Carried c)
      (short : ∀ f ∈ fields, (quote f.1).length ≤ 1024) (each : ∀ f ∈ fields, Portable f.2) :
      Portable (object fields)

namespace Yaml

open Tokenizer

/-- Wherever the text stands before a sign that ends it, it is read as these tokens. Where a key may come
first, the tokenizer has to expect one. -/
def Reads (keyed : Bool) (t : Text) (ts : List Token) : Prop :=
  ∀ ⦃s : Tokenizer⦄ ⦃depth : Nat⦄ ⦃gap r : Text⦄ ⦃c : Char⦄ ⦃tokens : List Token⦄,
    Before (t ++ (gap ++ c :: r)) (depth + 1) tokens s → IsLayout gap → Ends c →
    (keyed = true → s.keyAllowed = true) →
    ∃ n s', n ≤ t.length ∧ Leads n s s' ∧ Before (c :: r) (depth + 1) (tokens ++ ts) s'

theorem Reads.keyed {t : Text} {ts : List Token} (reads : Reads false t ts) : Reads true t ts :=
  fun _ _ _ _ _ _ before layout ends _ => reads before layout ends (by simp)

theorem reads_nil : Reads true [] [] := by
  intro s depth gap r c tokens before layout _ _
  exact ⟨0, s, Nat.le_refl 0, .refl s, by simpa using before.pass layout⟩

theorem reads_word (word : Text) (letters : ∀ d ∈ word, d.isAlphanum = true) (nonempty : word ≠ []) :
    Reads false word [.scalar true word] := by
  intro s depth gap r c tokens before layout ends _
  obtain ⟨s', leads, after⟩ := before.word letters nonempty layout ends
  exact ⟨1, s', List.length_pos_of_ne_nil nonempty, leads, after⟩

theorem reads_quote {t : Text} (kept : Kept t) : Reads false (Json.quote t) [.scalar false t] := by
  intro s depth gap r c tokens before layout _ _
  obtain ⟨s', leads, found, -⟩ := before.quoted kept
  exact ⟨1, s', by simp [Json.quote], leads, found.toBefore.pass layout⟩

theorem reads_field {key t : Text} {ts : List Token} (carried : ∀ c ∈ key, Carried c)
    (short : (Json.quote key).length ≤ 1024) (reads : Reads false t ts) :
    Reads true (Json.quote key ++ ": ".toList ++ t) ([.key, .scalar false key, .value] ++ ts) := by
  intro s depth gap r c tokens before layout ends allowed
  have text : Json.quote key ++ ": ".toList ++ t ++ (gap ++ c :: r) =
      Json.quote key ++ ':' :: ([' '] ++ (t ++ (gap ++ c :: r))) := by simp
  rw [text] at before
  obtain ⟨s₁, first, before'⟩ := before.key carried short (allowed rfl)
  obtain ⟨n, s₂, enough, second, after⟩ := reads (before'.pass (by simp [IsLayout])) layout ends (by simp)
  refine ⟨2 + n, s₂, ?_, first.trans second, by simpa using after⟩
  simp
  omega

/-- A comma leads to more. -/
theorem reads_comma {t t' gap : Text} {ts ts' : List Token} (first : Reads true t ts) (layout : IsLayout gap)
    (second : Reads true t' ts') : Reads true (t ++ ',' :: gap ++ t') (ts ++ [.flowEntry] ++ ts') := by
  intro s depth gap' r c tokens before layout' ends allowed
  have text : t ++ ',' :: gap ++ t' ++ (gap' ++ c :: r) =
      t ++ ([] ++ ',' :: (gap ++ (t' ++ (gap' ++ c :: r)))) := by simp
  rw [text] at before
  obtain ⟨n, s₁, enough, leads, before₁⟩ := first before (by simp [IsLayout]) (.inl rfl) allowed
  obtain ⟨s₂, leads', before₂, allowed'⟩ := before₁.comma
  obtain ⟨m, s₃, enough', leads'', after⟩ := second (before₂.pass layout) layout' ends (fun _ => allowed')
  refine ⟨n + 1 + m, s₃, ?_, (leads.trans leads').trans leads'', by simpa using after⟩
  simp
  omega

theorem reads_listed {gap : Text} (layout : IsLayout gap) {texts : List Text} {parts : List (List Token)}
    (each : List.Forall₂ (Reads true) texts parts) :
    Reads true (Text.joinWith (',' :: gap) texts) ([Token.flowEntry].intercalate parts) := by
  induction each with
  | nil => exact reads_nil
  | @cons t ts texts parts first rest ih =>
    cases rest with
    | nil =>
      rw [Text.joinWith, List.intercalate_singleton, List.intercalate_singleton]
      exact first
    | cons =>
      rw [Text.joinWith, List.intercalate_cons_cons, List.intercalate_cons_cons]
      exact reads_comma first layout ih

/-- What is inside of brackets is read with the brackets around it, at any depth. -/
theorem leads_bracketed {opening closing : Char} {start stop : Token} {inner gap gap' r : Text}
    {ts tokens : List Token} {s : Tokenizer} {depth : Nat}
    (opens : opening = '[' ∧ start = .flowSequenceStart ∨ opening = '\x7b' ∧ start = .flowMappingStart)
    (closes : closing = ']' ∧ stop = .flowSequenceEnd ∨ closing = '\x7d' ∧ stop = .flowMappingEnd)
    (layout : IsLayout gap) (reads : Reads true inner ts) (layout' : IsLayout gap')
    (before : Before (opening :: gap ++ inner ++ gap' ++ [closing] ++ r) depth tokens s) :
    ∃ n s', n ≤ (opening :: gap ++ inner ++ gap' ++ [closing]).length ∧ Leads n s s' ∧
      Before r depth (tokens ++ (start :: ts ++ [stop])) s' := by
  have text : opening :: gap ++ inner ++ gap' ++ [closing] ++ r =
      opening :: (gap ++ (inner ++ (gap' ++ closing :: r))) := by simp
  rw [text] at before
  obtain ⟨s₁, leads, before₁, allowed⟩ := before.opens opens
  obtain ⟨n, s₂, enough, leads', before₂⟩ := reads (before₁.pass layout) layout'
    (by obtain ⟨rfl, -⟩ | ⟨rfl, -⟩ := closes <;> simp [Ends]) (fun _ => allowed)
  obtain ⟨s₃, leads'', after⟩ := before₂.closes closes
  refine ⟨1 + n + 1, s₃, ?_, (leads.trans leads').trans leads'', by simpa using after⟩
  simp
  omega

theorem reads_bracketed {opening closing : Char} {start stop : Token} {inner gap gap' : Text}
    {ts : List Token}
    (opens : opening = '[' ∧ start = .flowSequenceStart ∨ opening = '\x7b' ∧ start = .flowMappingStart)
    (closes : closing = ']' ∧ stop = .flowSequenceEnd ∨ closing = '\x7d' ∧ stop = .flowMappingEnd)
    (layout : IsLayout gap) (reads : Reads true inner ts) (layout' : IsLayout gap') :
    Reads false (opening :: gap ++ inner ++ gap' ++ [closing]) (start :: ts ++ [stop]) := by
  intro s depth behind r c tokens before layout'' _ _
  obtain ⟨n, s', enough, leads, after⟩ := leads_bracketed opens closes layout reads layout' before
  exact ⟨n, s', enough, leads, after.pass layout''⟩

/-- Brackets and nothing else are read to the end, as no token takes less than a character. -/
theorem tokens?_bracketed {opening closing : Char} {start stop : Token} {inner gap gap' : Text}
    {ts : List Token}
    (opens : opening = '[' ∧ start = .flowSequenceStart ∨ opening = '\x7b' ∧ start = .flowMappingStart)
    (closes : closing = ']' ∧ stop = .flowSequenceEnd ∨ closing = '\x7d' ∧ stop = .flowMappingEnd)
    (layout : IsLayout gap) (reads : Reads true inner ts) (layout' : IsLayout gap')
    (printable : (opening :: gap ++ inner ++ gap' ++ [closing]).all isPrintable = true) :
    tokens? (opening :: gap ++ inner ++ gap' ++ [closing]) = some (start :: ts ++ [stop]) := by
  have unmarked : Text.stripPrefix? ['\ufeff'] (opening :: gap ++ inner ++ gap' ++ [closing]) = none := by
    obtain ⟨rfl, -⟩ | ⟨rfl, -⟩ := opens <;> rfl
  have before : Before (opening :: gap ++ inner ++ gap' ++ [closing] ++ []) 0 []
      (.start (opening :: gap ++ inner ++ gap' ++ [closing])) :=
    ⟨⟨[], by simp [IsLayout], by simp [Tokenizer.start, Reader.start]⟩, rfl, rfl, rfl,
      by simp [Lenient, Tokenizer.start]⟩
  obtain ⟨n, s', enough, leads, after⟩ := leads_bracketed opens closes layout reads layout' before
  obtain ⟨fuel, steps⟩ : ∃ fuel, 2 * (opening :: gap ++ inner ++ gap' ++ [closing]).length + 2 = fuel + 1 + n :=
    ⟨2 * (opening :: gap ++ inner ++ gap' ++ [closing]).length + 1 - n, by omega⟩
  simp only [tokens?, printable, if_true, unmarked, Option.getD_none]
  rw [steps, leads, after.done]
  rfl

end Yaml

namespace Json

open Yaml

theorem sizeOf_field {f : Text × Json} {fields : List (Text × Json)} (listed : f ∈ fields) :
    sizeOf f.2 < 1 + sizeOf fields := by
  have smaller := List.sizeOf_lt_of_mem listed
  obtain ⟨key, value⟩ := f
  simp at smaller ⊢
  omega

/-- The tokens of a printed value. -/
def tokens : Json → List Token
  | null => [.scalar true "null"]
  | bool b => [.scalar true (if b then "true" else "false")]
  | number n => [.scalar true (numberText n)]
  | string t => [.scalar false t]
  | array items =>
    .flowSequenceStart :: [Token.flowEntry].intercalate (items.map tokens) ++ [.flowSequenceEnd]
  | object fields =>
    .flowMappingStart ::
      [Token.flowEntry].intercalate
        (fields.map fun f => [.key, .scalar false f.1, .value] ++ tokens f.2) ++ [.flowMappingEnd]
decreasing_by
  · decreasing_tactic
  · simpa using sizeOf_field ‹_›

/-- The tree of a printed value. -/
def node : Json → Node
  | null => .scalar none true "null"
  | bool b => .scalar none true (if b then "true" else "false")
  | number n => .scalar none true (numberText n)
  | string t => .scalar none false t
  | array items => .sequence (items.map node)
  | object fields => .mapping (fields.map fun f => (.scalar none false f.1, node f.2))
decreasing_by
  · decreasing_tactic
  · simpa using sizeOf_field ‹_›

theorem isLayout_newline (depth : Nat) : IsLayout (newline depth) := by
  intro c found
  obtain rfl | blank := List.mem_cons.1 found
  · exact .inr rfl
  · exact .inl (List.eq_of_mem_replicate blank)

theorem isAlphanum_decimal (n : Nat) : ∀ c ∈ Text.decimal n, c.isAlphanum = true := by
  intro c found
  have digit : c.isDigit = true := Nat.isDigit_of_mem_toDigits (by decide) (by decide) found
  simp [Char.isAlphanum, digit]

/-- Between its brackets a list is printed on lines of its own. -/
theorem reads_bracket {texts : List Text} {parts : List (List Token)}
    (each : List.Forall₂ (Reads true) texts parts) (depth : Nat) (opening closing : Char) :
    ∃ gap inner gap', bracket depth opening closing texts = opening :: gap ++ inner ++ gap' ++ [closing] ∧
      IsLayout gap ∧ Reads true inner ([Token.flowEntry].intercalate parts) ∧ IsLayout gap' := by
  cases each with
  | nil => exact ⟨[], [], [], rfl, by simp [IsLayout], reads_nil, by simp [IsLayout]⟩
  | cons first rest =>
    exact ⟨_, _, _, rfl, isLayout_newline _, reads_listed (isLayout_newline _) (.cons first rest),
      isLayout_newline _⟩

theorem reads_fields {fields : List (Text × Json)} {depth : Nat}
    (keys : ∀ f ∈ fields, ∀ c ∈ f.1, Yaml.Carried c) (short : ∀ f ∈ fields, (quote f.1).length ≤ 1024)
    (each : ∀ f ∈ fields, Reads false (render depth f.2) (tokens f.2)) :
    List.Forall₂ (Reads true) (fields.map fun f => quote f.1 ++ ": ".toList ++ render depth f.2)
      (fields.map fun f => [.key, .scalar false f.1, .value] ++ tokens f.2) := by
  rw [List.forall₂_map_left_iff, List.forall₂_map_right_iff, List.forall₂_same]
  exact fun f listed => reads_field (keys f listed) (short f listed) (each f listed)

/-- **A printed value is read as its tokens**, at every depth. -/
theorem reads_render {j : Json} (portable : Portable j) (depth : Nat) :
    Reads false (render depth j) (tokens j) := by
  induction portable generalizing depth with
  | null =>
    rw [tokens]
    exact reads_word "null" (List.all_eq_true.1 (by decide)) (by decide)
  | bool b =>
    rw [tokens]
    cases b
    · exact reads_word "false" (List.all_eq_true.1 (by decide)) (by decide)
    · exact reads_word "true" (List.all_eq_true.1 (by decide)) (by decide)
  | natural n =>
    rw [nat, tokens]
    exact reads_word _ (isAlphanum_decimal n) Nat.toDigits_ne_nil
  | string kept =>
    rw [tokens]
    exact reads_quote kept
  | @array items _ ih =>
    rw [render, renderItems_eq_map, tokens]
    have each : List.Forall₂ (Reads true) (items.map (render (depth + 1))) (items.map tokens) := by
      rw [List.forall₂_map_left_iff, List.forall₂_map_right_iff, List.forall₂_same]
      exact fun j listed => (ih j listed (depth + 1)).keyed
    obtain ⟨gap, inner, gap', text, layout, reads, layout'⟩ := reads_bracket each depth '[' ']'
    rw [text]
    exact reads_bracketed (.inl ⟨rfl, rfl⟩) (.inl ⟨rfl, rfl⟩) layout reads layout'
  | @object fields keys short _ ih =>
    rw [render, renderFields_eq_map, tokens]
    have each := reads_fields keys short fun f listed => ih f listed (depth + 1)
    obtain ⟨gap, inner, gap', text, layout, reads, layout'⟩ := reads_bracket each depth '\x7b' '\x7d'
    rw [text]
    exact reads_bracketed (.inr ⟨rfl, rfl⟩) (.inr ⟨rfl, rfl⟩) layout reads layout'

/-! ## The whole text -/

theorem isPrintable_escape {c : Char} (shown : Carried c ∨ IsSeparator c) :
    ∀ d ∈ escape c, isPrintable d = true := by
  unfold escape
  iterate 7
    split
    next => exact List.all_eq_true.1 (by decide)
  split
  next control =>
    have digits : ∀ n < 0x20,
        ("\\u00".toList ++ [hexDigit (n / 16), hexDigit (n % 16)]).all isPrintable = true := by decide
    exact List.all_eq_true.1 (digits _ control)
  next visible =>
    obtain carried | rfl | rfl := shown
    · simpa using (carried.resolve_left visible).1
    · exact List.all_eq_true.1 (by decide)
    · exact List.all_eq_true.1 (by decide)

theorem isPrintable_quote {t : Text} (kept : Kept t) : ∀ d ∈ quote t, isPrintable d = true := by
  intro d found
  simp only [quote, List.cons_append, List.mem_cons, List.mem_append, List.mem_flatMap, List.not_mem_nil,
    or_false] at found
  obtain rfl | ⟨c, listed, escaped⟩ | rfl := found
  · rfl
  · exact isPrintable_escape (kept.each c listed) d escaped
  · rfl

theorem forall_mem_joinWith {p : Char → Prop} {separator : Text} (between : ∀ c ∈ separator, p c)
    {parts : List Text} (each : ∀ t ∈ parts, ∀ c ∈ t, p c) : ∀ c ∈ Text.joinWith separator parts, p c := by
  induction parts with
  | nil => simp [Text.joinWith]
  | cons t parts ih =>
    have here := each t (List.mem_cons_self ..)
    have later := ih fun t listed => each t (List.mem_cons_of_mem _ listed)
    cases parts with
    | nil => simpa [Text.joinWith] using here
    | cons =>
      rw [Text.joinWith, List.intercalate_cons_cons]
      intro c found
      obtain (found | found) | found := (List.mem_append.1 found).imp_left List.mem_append.1
      · exact here c found
      · exact between c found
      · exact later c found

theorem isPrintable_newline (depth : Nat) : ∀ c ∈ newline depth, isPrintable c = true := by
  intro c found
  obtain rfl | rfl := isLayout_newline depth c found <;> rfl

theorem isPrintable_bracket {opening closing : Char} {texts : List Text} (depth : Nat)
    (signs : isPrintable opening = true ∧ isPrintable closing = true)
    (each : ∀ t ∈ texts, ∀ d ∈ t, isPrintable d = true) :
    ∀ d ∈ bracket depth opening closing texts, isPrintable d = true := by
  have between : ∀ c ∈ ',' :: newline (depth + 1), isPrintable c = true := by
    simpa using ⟨rfl, isPrintable_newline (depth + 1)⟩
  have joined := forall_mem_joinWith between each
  rw [bracket]
  split
  · simpa using signs
  · simp only [List.cons_append, List.forall_mem_cons, List.forall_mem_append]
    exact ⟨signs.1, ⟨⟨isPrintable_newline _, joined⟩, isPrintable_newline _⟩, by simpa using signs.2⟩

theorem isPrintable_render {j : Json} (portable : Portable j) (depth : Nat) :
    ∀ d ∈ render depth j, isPrintable d = true := by
  induction portable generalizing depth with
  | null => exact List.all_eq_true.1 (by decide : "null".toList.all isPrintable = true)
  | bool b =>
    cases b
    · exact List.all_eq_true.1 (by decide : "false".toList.all isPrintable = true)
    · exact List.all_eq_true.1 (by decide : "true".toList.all isPrintable = true)
  | natural n =>
    intro d found
    have range := Character.toNat_of_isDigit (Nat.isDigit_of_mem_toDigits (by decide) (by decide) found)
    simp [isPrintable]
    omega
  | string kept => exact isPrintable_quote kept
  | @array items _ ih =>
    rw [render, renderItems_eq_map]
    refine isPrintable_bracket depth ⟨rfl, rfl⟩ ?_
    simpa using fun j listed => ih j listed (depth + 1)
  | @object fields keys short _ ih =>
    rw [render, renderFields_eq_map]
    refine isPrintable_bracket depth ⟨rfl, rfl⟩ (List.forall_mem_map.2 fun f listed => ?_)
    simp only [List.forall_mem_append]
    exact ⟨⟨isPrintable_quote (.of_carried (keys f listed)), List.all_eq_true.1 (by decide)⟩,
      ih f listed (depth + 1)⟩

theorem tokens?_render {fields : List (Text × Json)} (portable : Portable (object fields)) (depth : Nat) :
    tokens? (render depth (object fields)) = some (tokens (object fields)) := by
  have printable := List.all_eq_true.2 (isPrintable_render portable depth)
  cases portable with
  | object keys short each =>
    obtain ⟨gap, inner, gap', text, layout, reads, layout'⟩ := reads_bracket
      (reads_fields keys short fun f listed => reads_render (each f listed) (depth + 1)) depth '\x7b' '\x7d'
    rw [render, renderFields_eq_map, text] at printable ⊢
    rw [tokens]
    exact tokens?_bracketed (.inr ⟨rfl, rfl⟩) (.inr ⟨rfl, rfl⟩) layout reads layout' printable

end Json

end ClassNav
