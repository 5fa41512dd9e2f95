import ClassNav.Document.Imports
import ClassNav.Proofs.Character.Ascii
import ClassNav.Proofs.Text.Occurrence
import ClassNav.Proofs.Text.Runs
import Mathlib.Data.List.Basic

/-!
What stands behind the key of an import: a lead up to the quote, which holds no name of its own, and the
module path, which ends where the line has its last stylesheet extension before a quote.
-/

namespace ClassNav.Import

open Character

theorem isQuote_of_isBlank {c : Char} (blank : isBlank c = true) : isQuote c = false := by
  rw [← Bool.not_eq_true]
  intro quote
  simp only [isQuote, Bool.or_eq_true, beq_iff_eq] at quote
  obtain rfl | rfl := quote <;> revert blank <;> decide

/-- At least one blank. -/
def IsGap (t : Text) : Prop := t ≠ [] ∧ Text.IsBlank t

/-- The word after a key, and what opens the quotation behind it. -/
def openings : List (Text × Text) := [("from", ""), ("=", "require("), ("=", "require<any>(")]

/-- What stands between a key and its quote. -/
inductive Lead : Text → Prop
  | of {gap word gap' opening : Text} (first : IsGap gap) (form : (word, opening) ∈ openings)
      (second : IsGap gap') : Lead (gap ++ word ++ gap' ++ opening)

theorem skipBlanks?_eq_some {t r : Text} (h : skipBlanks? t = some r) :
    ∃ gap, IsGap gap ∧ t = gap ++ r := by
  unfold skipBlanks? at h
  split at h
  next c rest =>
    split at h
    next blank =>
      refine ⟨(c :: rest).takeWhile isBlank, ⟨by simp [blank], ?_⟩, ?_⟩
      · exact fun d found => List.mem_takeWhile_imp found
      · rw [← Option.some.inj h, List.takeWhile_append_dropWhile]
    next => cases h
  next => cases h

/-- A gap is skipped up to what is no blank. -/
theorem skipBlanks?_append {gap t : Text} (isGap : IsGap gap) (stops : ∀ c ∈ t.head?, isBlank c = false) :
    skipBlanks? (gap ++ t) = some t := by
  obtain ⟨nonempty, blank⟩ := isGap
  have rest := Text.dropWhile_append_stop blank stops
  obtain ⟨c, gap, rfl⟩ := List.exists_cons_of_ne_nil nonempty
  rw [List.cons_append] at rest ⊢
  rw [skipBlanks?, if_pos (blank c (List.mem_cons_self ..)), rest]

theorem skipKeyword?_eq_some {t r : Text} (h : skipKeyword? t = some r) :
    ∃ word gap opening, (word, opening) ∈ openings ∧ IsGap gap ∧ t = word ++ gap ++ opening ++ r := by
  unfold skipKeyword? at h
  split at h
  next rest named =>
    obtain ⟨gap, isGap, rfl⟩ := skipBlanks?_eq_some h
    refine ⟨_, gap, [], .head _, isGap, ?_⟩
    rw [Text.stripPrefix?_eq_some_iff.1 named]
    simp
  next =>
    obtain ⟨a, assigned, gapped⟩ := Option.bind_eq_some_iff.1 h
    obtain ⟨b, gapped, called⟩ := Option.bind_eq_some_iff.1 gapped
    obtain ⟨c, called, opened⟩ := Option.bind_eq_some_iff.1 called
    obtain ⟨gap, isGap, rfl⟩ := skipBlanks?_eq_some gapped
    have whole := Text.stripPrefix?_eq_some_iff.1 assigned
    rw [Text.stripPrefix?_eq_some_iff.1 called] at whole
    have rest := Text.stripPrefix?_eq_some_iff.1 opened
    cases typed : Text.stripPrefix? "<any>" c with
    | none =>
      rw [typed, Option.getD_none] at rest
      refine ⟨_, gap, _, .tail _ (.head _), isGap, ?_⟩
      simp [whole, rest]
    | some d =>
      rw [typed, Option.getD_some] at rest
      refine ⟨_, gap, _, .tail _ (.tail _ (.head _)), isGap, ?_⟩
      simp [whole, rest, Text.stripPrefix?_eq_some_iff.1 typed]

theorem skipKeyword?_append {word gap opening rest : Text} (form : (word, opening) ∈ openings)
    (isGap : IsGap gap) (stops : ∀ c ∈ rest.head?, isBlank c = false) :
    skipKeyword? (word ++ gap ++ opening ++ rest) = some rest := by
  have call (called : Text) (begins : called.head? = some 'r') :
      skipKeyword? ('=' :: (gap ++ called)) = (Text.stripPrefix? "require" called).bind fun rest =>
        Text.stripPrefix? ['('] ((Text.stripPrefix? "<any>" rest).getD rest) := by
    have unnamed : Text.stripPrefix? "from" ('=' :: (gap ++ called)) = none := rfl
    have assigned : Text.stripPrefix? ['='] ('=' :: (gap ++ called)) = some (gap ++ called) := rfl
    have gapped : skipBlanks? (gap ++ called) = some called := by
      refine skipBlanks?_append isGap fun c found => ?_
      rw [begins] at found
      obtain rfl := Option.some.inj found
      decide
    rw [skipKeyword?, unnamed, assigned, Option.bind_some, gapped, Option.bind_some]
  simp only [openings, List.mem_cons, Prod.mk.injEq, List.not_mem_nil, or_false] at form
  obtain ⟨rfl, rfl⟩ | ⟨rfl, rfl⟩ | ⟨rfl, rfl⟩ := form
  · have named : Text.stripPrefix? "from" ("from".toList ++ (gap ++ rest)) = some (gap ++ rest) := rfl
    rw [show "from".toList ++ gap ++ "".toList ++ rest = "from".toList ++ (gap ++ rest) by simp,
      skipKeyword?, named]
    exact skipBlanks?_append isGap stops
  · rw [show "=".toList ++ gap ++ "require(".toList ++ rest = '=' :: (gap ++ ("require(".toList ++ rest)) by simp,
      call _ rfl]
    rfl
  · rw [show "=".toList ++ gap ++ "require<any>(".toList ++ rest =
        '=' :: (gap ++ ("require<any>(".toList ++ rest)) by simp, call _ rfl]
    rfl

/-- Behind a lead and a quote a stylesheet name is read. -/
theorem Lead.afterKey?_append {lead quoted : Text} {q : Char} (isLead : Lead lead) (quote : isQuote q = true) :
    afterKey? (lead ++ q :: quoted) = (stylesheetName? quoted).map fun (name, after) =>
      (name, (Text.stripPrefix? [')'] after).getD after) := by
  obtain @⟨gap, word, gap', opening, isGap, form, isGap'⟩ := isLead
  have solid : ∀ c ∈ (q :: quoted).head?, isBlank c = false := by
    rintro c ⟨⟩
    rw [← Bool.not_eq_true]
    intro blank
    rw [isQuote_of_isBlank blank] at quote
    cases quote
  have worded : ∀ c ∈ (word ++ gap' ++ opening ++ q :: quoted).head?, isBlank c = false := by
    have plain : ∀ form ∈ openings, form.1 ≠ [] ∧ form.1.any isBlank = false := by decide
    obtain ⟨nonempty, unblank⟩ := plain _ form
    obtain ⟨c, word, rfl⟩ := List.exists_cons_of_ne_nil nonempty
    rintro d ⟨⟩
    exact Text.isSolid_of_any unblank c (List.mem_cons_self ..)
  have gapped : skipBlanks? (gap ++ word ++ gap' ++ opening ++ q :: quoted) =
      some (word ++ gap' ++ opening ++ q :: quoted) := by
    simpa using skipBlanks?_append isGap worded
  rw [afterKey?, gapped, Option.bind_some, skipKeyword?_append form isGap' solid, Option.bind_some]
  dsimp only
  rw [if_pos quote]

/-- A lead, a quote and a stylesheet name, and a closing parenthesis if there is one. -/
theorem afterKey?_eq_some {t name after : Text} (h : afterKey? t = some (name, after)) :
    ∃ lead q quoted tail, Lead lead ∧ isQuote q = true ∧ t = lead ++ q :: quoted ∧
      stylesheetName? quoted = some (name, tail) ∧ after = (Text.stripPrefix? [')'] tail).getD tail := by
  obtain ⟨a, gapped, worded⟩ := Option.bind_eq_some_iff.1 h
  obtain ⟨b, worded, quotation⟩ := Option.bind_eq_some_iff.1 worded
  obtain ⟨gap, isGap, rfl⟩ := skipBlanks?_eq_some gapped
  obtain ⟨word, gap', opening, form, isGap', rfl⟩ := skipKeyword?_eq_some worded
  split at quotation
  next q quoted _ =>
    split at quotation
    next quote =>
      obtain ⟨⟨name', tail⟩, found, same⟩ := Option.map_eq_some_iff.1 quotation
      obtain ⟨rfl, rfl⟩ := Prod.mk.inj same
      exact ⟨_, q, quoted, tail, .of isGap form isGap', quote, by simp, found, rfl⟩
    next => cases quotation
  next => cases quotation

namespace Lead

theorem unquoted {lead : Text} (h : Lead lead) : ∀ c ∈ lead, isQuote c = false := by
  obtain @⟨gap, word, gap', opening, ⟨-, blank⟩, form, ⟨-, blank'⟩⟩ := h
  have plain : ∀ form ∈ openings, (form.1 ++ form.2).any isQuote = false := by decide
  have unquoted : ∀ c ∈ word ++ opening, isQuote c = false := fun c found =>
    Bool.eq_false_iff.2 (List.any_eq_false.1 (plain _ form) c found)
  intro c found
  simp only [List.mem_append] at found
  obtain ((found | found) | found) | found := found
  · exact isQuote_of_isBlank (blank c found)
  · exact unquoted c (by simp [found])
  · exact isQuote_of_isBlank (blank' c found)
  · exact unquoted c (by simp [found])

theorem getLast?_isSome {lead : Text} (h : Lead lead) : lead.getLast?.isSome = true := by
  obtain ⟨⟨nonempty, -⟩, -, -⟩ := h
  simp [List.getLast?_isSome, nonempty]

/-- No lead ends as a stylesheet name does. -/
theorem getLast?_ne {lead : Text} (h : Lead lead) : lead.getLast? ≠ some 's' := by
  obtain ⟨-, form, nonempty, blank⟩ := h
  have plain : ∀ form ∈ openings, 's' ∉ form.2.getLast? := by decide
  intro last
  rw [List.getLast?_append, List.getLast?_append, Option.or_eq_some_iff, Option.or_eq_some_iff] at last
  obtain last | ⟨-, last | ⟨none_left, -⟩⟩ := last
  · exact plain _ form last
  · exact absurd (blank _ (List.mem_of_getLast? last)) (by decide)
  · exact nonempty (List.getLast?_eq_none_iff.1 none_left)

/-- What a text has before its last word that a blank follows, backwards. -/
def backBeforeWord (t : Text) : Text :=
  ((t.reverse.dropWhile fun c => !isBlank c).dropWhile isBlank).dropWhile fun c => !isBlank c

/-- Read backwards, a lead is its opening, blanks, a word, and then blanks again. -/
theorem backBeforeWord_append {lead : Text} (h : Lead lead) :
    ∃ gap, Text.IsBlank gap ∧ ∀ t, backBeforeWord (t ++ lead) = (t ++ gap).reverse := by
  obtain @⟨gap, word, gap', opening, ⟨nonempty, blank⟩, form, ⟨nonempty', blank'⟩⟩ := h
  have plain : ∀ form ∈ openings, form.1 ≠ [] ∧ (form.1 ++ form.2).any isBlank = false := by decide
  have some_word : word ≠ [] := (plain _ form).1
  have solid : ∀ c ∈ word ++ opening, isBlank c = false := fun c found =>
    Bool.eq_false_iff.2 (List.any_eq_false.1 (plain _ form).2 c found)
  refine ⟨gap, blank, fun t => ?_⟩
  have back : (t ++ (gap ++ word ++ gap' ++ opening)).reverse =
      opening.reverse ++ (gap'.reverse ++ (word.reverse ++ (t ++ gap).reverse)) := by simp
  have stops {p : Char → Bool} {a b : Text} (some_char : a ≠ []) (all : ∀ c ∈ a, p c = false) :
      ∀ c ∈ (a.reverse ++ b).head?, p c = false := by
    obtain ⟨init, c, rfl⟩ := (List.eq_nil_or_concat' a).resolve_left some_char
    simpa using all c (by simp)
  rw [backBeforeWord, back, Text.dropWhile_append_stop, Text.dropWhile_append_stop,
    Text.dropWhile_append_stop]
  · intro c found
    simp [solid c (by simp [List.mem_reverse.1 found])]
  · have none_solid := stops (p := fun c => !isBlank c) (b := t.reverse) nonempty
    simpa using none_solid fun c found => by simp [blank c found]
  · exact fun c found => blank' c (List.mem_reverse.1 found)
  · exact stops some_word fun c found => solid c (by simp [found])
  · intro c found
    simp [solid c (by simp [List.mem_reverse.1 found])]
  · have none_solid := stops (p := fun c => !isBlank c) (b := word.reverse ++ (t ++ gap).reverse) nonempty'
    exact none_solid fun c found => by simp [blank' c found]

/-- No name stands in a lead before another lead. -/
theorem eq_nil_of_within {before key lead : Text} (solid : Text.IsSolid key)
    (outer : Lead (before ++ key ++ lead)) (inner : Lead lead) : key = [] := by
  obtain ⟨gap, blank, back⟩ := outer.backBeforeWord_append
  obtain ⟨gap', -, back'⟩ := inner.backBeforeWord_append
  have same : before ++ key ++ gap' = gap := by
    have both := (back' (before ++ key)).symm.trans (back [])
    exact List.reverse_inj.1 both
  apply List.eq_nil_iff_forall_not_mem.2
  intro c found
  have is_blank := blank c (by simp [← same, found])
  rw [solid c found] at is_blank
  cases is_blank

/-- The first quote behind a lead is the one the lead is for. -/
theorem stops_at_quote {lead between b b' : Text} {q q' : Char} (h : Lead lead)
    (quote : isQuote q = true) (same : lead ++ q' :: b' = between ++ q :: b) :
    between = lead ∨ ∃ behind, between = lead ++ q' :: behind ∧ b' = behind ++ q :: b := by
  obtain ⟨behind, rfl, tail⟩ | ⟨behind, rfl, tail⟩ := List.append_eq_append_iff.1 same
  · cases behind with
    | nil => exact .inl (List.append_nil _)
    | cons d behind =>
      obtain ⟨rfl, tail'⟩ := List.cons.inj tail
      exact .inr ⟨behind, rfl, tail'⟩
  · cases behind with
    | nil => exact .inl (List.append_nil _).symm
    | cons d behind =>
      obtain ⟨rfl, -⟩ := List.cons.inj tail
      have unquoted := h.unquoted q (by simp)
      rw [quote] at unquoted
      cases unquoted

end Lead

/-- A dot, one or two characters other than blanks, and `ss`. -/
def IsExtension (t : Text) : Prop :=
  ∃ kind : Text, (kind.length = 1 ∨ kind.length = 2) ∧ Text.IsSolid kind ∧ t = '.' :: kind ++ ['s', 's']

namespace IsExtension

variable {ext : Text} (h : IsExtension ext)
include h

theorem solid : Text.IsSolid ext := by
  obtain ⟨kind, -, solid, rfl⟩ := h
  intro c found
  simp only [List.cons_append, List.mem_cons, List.mem_append, List.not_mem_nil, or_false] at found
  obtain rfl | inside | rfl | rfl := found
  · decide
  · exact solid c inside
  · decide
  · decide

theorem getLast?_eq : ext.getLast? = some 's' := by
  obtain ⟨kind, -, -, rfl⟩ := h
  simp [List.getLast?_cons]

end IsExtension

theorem closing?_eq_some_iff {t after : Text} :
    closing? t = some after ↔ ∃ q, isQuote q = true ∧ t = 's' :: 's' :: q :: after := by
  constructor
  · intro h
    unfold closing? at h
    split at h
    next a b q rest =>
      split at h
      next form =>
        obtain ⟨rfl, rfl, quote⟩ := form
        exact ⟨q, quote, by rw [Option.some.inj h]⟩
      next => cases h
    next => cases h
  · rintro ⟨q, quote, rfl⟩
    simp [closing?, quote]

/-- Read at a place are an extension and what follows its quote. -/
theorem extension?_eq_some_iff {t ext after : Text} :
    extension? t = some (ext, after) ↔
      IsExtension ext ∧ ∃ q, isQuote q = true ∧ t = ext ++ q :: after := by
  constructor
  · intro h
    unfold extension? at h
    split at h
    next dot a rest =>
      split at h
      next form =>
        obtain ⟨rfl, solid⟩ := form
        split at h
        next closed =>
          obtain ⟨rfl, rfl⟩ := Prod.mk.inj (Option.some.inj h)
          obtain ⟨q, quote, rfl⟩ := closing?_eq_some_iff.1 closed
          exact ⟨⟨[a], .inl rfl, by simpa [Text.IsSolid] using solid, rfl⟩, q, quote, rfl⟩
        next =>
          split at h
          next b rest _ =>
            split at h
            next solid' =>
              obtain ⟨after', closed, same⟩ := Option.map_eq_some_iff.1 h
              obtain ⟨rfl, rfl⟩ := Prod.mk.inj same
              obtain ⟨q, quote, rfl⟩ := closing?_eq_some_iff.1 closed
              exact ⟨⟨[a, b], .inr rfl, by simp [Text.IsSolid, solid, solid'], rfl⟩, q, quote, rfl⟩
            next => cases h
          next => cases h
      next => cases h
    next => cases h
  · rintro ⟨⟨kind, one | two, solid, rfl⟩, q, quote, rfl⟩
    · obtain ⟨a, rfl⟩ := List.length_eq_one_iff.1 one
      simp [extension?, closing?, solid a, quote]
    · obtain ⟨a, b, rfl⟩ := List.length_eq_two.1 two
      have open_end : isQuote 's' = false := by decide
      simp [extension?, closing?, solid a, solid b, quote, open_end]

/-- A text begins with a name on one line, which ends in an extension, and a quote. -/
structure Named (t name after : Text) : Prop where
  whole : ∃ q, isQuote q = true ∧ t = name ++ q :: after
  oneLine : '\n' ∉ name
  ends : ∃ ext, IsExtension ext ∧ ext <:+ name

namespace Named

theorem cons {c : Char} {t name after : Text} (h : Named t name after) (inside : c ≠ '\n') :
    Named (c :: t) (c :: name) after := by
  obtain ⟨⟨q, quote, rfl⟩, oneLine, ext, isExt, within⟩ := h
  exact ⟨⟨q, quote, rfl⟩, by simp [oneLine, inside.symm], ext, isExt, within.trans (List.suffix_cons ..)⟩

theorem of_extension? {t name after : Text} (h : extension? t = some (name, after)) :
    Named t name after := by
  obtain ⟨isExt, quoted⟩ := extension?_eq_some_iff.1 h
  refine ⟨quoted, fun newline => ?_, name, isExt, List.suffix_rfl⟩
  have blank : isBlank '\n' = true := by decide
  rw [isExt.solid _ newline] at blank
  cases blank

theorem of_lastExtension? {t name after : Text} (h : lastExtension? t = some (name, after)) :
    Named t name after := by
  fun_induction lastExtension? t generalizing name with
  | case1 => cases h
  | case2 => cases h
  | case3 c t inside name' after' found ih =>
    obtain ⟨rfl, rfl⟩ := Prod.mk.inj (Option.some.inj h)
    exact (ih found).cons inside
  | case4 => exact of_extension? h

theorem getLast?_eq {t name after : Text} (h : Named t name after) : name.getLast? = some 's' := by
  obtain ⟨ext, isExt, stem, rfl⟩ := h.ends
  rw [List.getLast?_append, isExt.getLast?_eq, Option.some_or]

end Named

theorem lastExtension?_cons {c : Char} {t name after : Text} (inside : c ≠ '\n')
    (h : lastExtension? t = some (name, after)) :
    lastExtension? (c :: t) = some (c :: name, after) := by
  rw [lastExtension?, if_neg inside, h]

theorem lastExtension?_append {lead t name after : Text} (oneLine : '\n' ∉ lead)
    (h : lastExtension? t = some (name, after)) :
    lastExtension? (lead ++ t) = some (lead ++ name, after) := by
  induction lead with
  | nil => exact h
  | cons c lead ih =>
    rw [List.mem_cons, not_or] at oneLine
    exact lastExtension?_cons (Ne.symm oneLine.1) (ih oneLine.2)

theorem stylesheetName?_cons {c : Char} {t name after : Text} (inside : c ≠ '\n')
    (h : lastExtension? t = some (name, after)) :
    stylesheetName? (c :: t) = some (c :: name, after) := by
  rw [stylesheetName?, if_neg inside, h, Option.map_some]

theorem stylesheetName?_eq_some {t name after : Text} (h : stylesheetName? t = some (name, after)) :
    ∃ c r rest, t = c :: r ∧ c ≠ '\n' ∧ lastExtension? r = some (rest, after) ∧ name = c :: rest := by
  unfold stylesheetName? at h
  split at h
  next => cases h
  next c r =>
    split at h
    next => cases h
    next inside =>
      obtain ⟨⟨rest, after'⟩, found, same⟩ := Option.map_eq_some_iff.1 h
      obtain ⟨rfl, rfl⟩ := Prod.mk.inj same
      exact ⟨c, r, rest, rfl, inside, found, rfl⟩

theorem named_of_stylesheetName? {t name after : Text}
    (h : stylesheetName? t = some (name, after)) : Named t name after := by
  obtain ⟨c, r, rest, rfl, inside, found, rfl⟩ := stylesheetName?_eq_some h
  exact (Named.of_lastExtension? found).cons inside

/-- Before the name of a stylesheet anything on its line belongs to the name too. -/
theorem stylesheetName?_append {lead t name after : Text} (oneLine : '\n' ∉ lead)
    (h : stylesheetName? t = some (name, after)) :
    stylesheetName? (lead ++ t) = some (lead ++ name, after) := by
  cases lead with
  | nil => exact h
  | cons c lead =>
    rw [List.mem_cons, not_or] at oneLine
    obtain ⟨d, r, rest, rfl, inside, found, rfl⟩ := stylesheetName?_eq_some h
    exact stylesheetName?_cons (Ne.symm oneLine.1)
      (lastExtension?_append oneLine.2 (lastExtension?_cons inside found))

/-- A character of a name that a script can bind, other than perhaps the first. -/
def isBindingChar (c : Char) : Bool := c.isAlphanum || c == '_' || c == '$'

theorem isBlank_of_isBindingChar {c : Char} (h : isBindingChar c = true) : isBlank c = false := by
  simp only [isBindingChar, Bool.or_eq_true, beq_iff_eq] at h
  obtain (word | rfl) | rfl := h
  · have range : 48 ≤ c.toNat ∧ c.toNat ≤ 122 := by
      rw [Char.isAlphanum, Bool.or_eq_true] at word
      obtain letter | digit := word
      · have := toNat_of_isAlpha letter
        omega
      · have := toNat_of_isDigit digit
        omega
    rw [← Bool.not_eq_true]
    intro blank
    obtain ⟨r, listed, low, high⟩ := inRanges_iff.1 blank
    have apart : ∀ r ∈ blankRanges, r.2 < 48 ∨ 122 < r.1 := by decide
    have := apart r listed
    omega
  · decide
  · decide

/-- At least one character of a name, and no others. -/
structure IsKey (key : Text) : Prop where
  nonempty : key ≠ []
  chars : ∀ c ∈ key, isBindingChar c = true

namespace IsKey

variable {key : Text} (h : IsKey key)
include h

theorem solid : Text.IsSolid key := fun c found => isBlank_of_isBindingChar (h.chars c found)

theorem quote_not_mem {q : Char} (quote : isQuote q = true) : q ∉ key := by
  intro found
  have inside := h.chars q found
  simp only [isQuote, Bool.or_eq_true, beq_iff_eq] at quote
  obtain rfl | rfl := quote <;> revert inside <;> decide

theorem paren_not_mem : ')' ∉ key := fun found => absurd (h.chars _ found) (by decide)

end IsKey

theorem isKey_of_isIdentifier {key : Text} (h : isIdentifier key = true) : IsKey key := by
  cases key with
  | nil => cases h
  | cons c key =>
    simp only [isIdentifier, Bool.and_eq_true, List.all_eq_true] at h
    refine ⟨List.cons_ne_nil c key, fun d found => ?_⟩
    obtain rfl | found := List.mem_cons.1 found
    · have first := h.1
      simp only [Bool.or_eq_true] at first
      simp only [isBindingChar, Char.isAlphanum, Bool.or_eq_true]
      tauto
    · exact h.2 d found

/-- A module path has the key in it, and behind the key a lead, a quote and another path. -/
def Hides (path key inner : Text) : Prop :=
  ∃ before lead q, Lead lead ∧ isQuote q = true ∧ path = before ++ (key ++ (lead ++ q :: inner))

/-- Behind the key of an import another key stands in the module path or after the import. -/
theorem hides_or_suffix {t before key rest path after inner after' : Text} (isKey : IsKey key)
    (outer : afterKey? t = some (path, after)) (place : t = before ++ (key ++ rest))
    (found : afterKey? rest = some (inner, after')) : Hides path key inner ∨ key ++ rest <:+ after := by
  obtain ⟨lead, q, quoted, tail, isLead, quote, rfl, named, rfl⟩ := afterKey?_eq_some outer
  obtain ⟨lead', q', quoted', tail', isLead', quote', rfl, named', -⟩ := afterKey?_eq_some found
  obtain ⟨between, rfl, behind⟩ | ⟨before, rfl, rfl⟩ :=
    Text.before_or_behind isKey.nonempty (isKey.quote_not_mem quote) place
  · -- Both imports have the same quote, so the key and a lead stand in a lead.
    obtain rfl | ⟨cut, rfl, -⟩ := isLead'.stops_at_quote quote behind
    · have nothing := Lead.eq_nil_of_within isKey.solid (by simpa using isLead) isLead'
      exact absurd nothing isKey.nonempty
    · have unquoted := isLead.unquoted q' (by simp)
      rw [quote'] at unquoted
      cases unquoted
  · have last := (named_of_stylesheetName? named).getLast?_eq
    obtain ⟨⟨r, ends, whole⟩, oneLine, -⟩ := named_of_stylesheetName? named
    obtain ⟨between, rfl, behind⟩ | ⟨before', rfl, rfl⟩ :=
      Text.before_or_behind isKey.nonempty (isKey.quote_not_mem ends) whole.symm
    · obtain rfl | ⟨cut, rfl, rfl⟩ := isLead'.stops_at_quote ends behind
      · -- A module path ends as no lead does.
        have same : (before ++ (key ++ between)).getLast? = between.getLast? := by
          rw [← List.append_assoc, List.getLast?_append, Option.or_of_isSome]
          exact isLead'.getLast?_isSome
        exact absurd (same.symm.trans last) isLead'.getLast?_ne
      · have line : '\n' ∉ before ++ (key ++ (lead' ++ [q'])) := by
          simp at oneLine ⊢
          tauto
        have extended := stylesheetName?_append line named'
        refine .inl ⟨before, lead', q', isLead', quote', ?_⟩
        simp only [List.append_assoc, List.cons_append, List.nil_append] at extended named
        rw [extended] at named
        simpa using (Prod.mk.inj (Option.some.inj named)).1.symm
    · refine .inr ?_
      cases closed : Text.stripPrefix? [')'] (before' ++ (key ++ (lead' ++ q' :: quoted'))) with
      | none => exact List.suffix_append ..
      | some after =>
        have parenthesis := Text.stripPrefix?_eq_some_iff.1 closed
        obtain ⟨between, nothing, -⟩ | ⟨between, -, rfl⟩ :=
          Text.before_or_behind (a := []) isKey.nonempty isKey.paren_not_mem parenthesis.symm
        · simp [isKey.nonempty] at nothing
        · exact List.suffix_append ..

end ClassNav.Import
