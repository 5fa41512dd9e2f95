import ClassNav.Proofs.Document.ImportPlaces

/-!
How far an import reaches. Its stylesheet name is the longest that the line allows, so that a quoted style
path behind the import becomes the end of its module path.
-/

namespace ClassNav.Import

open Character

theorem IsExtension.length_eq {ext : Text} (h : IsExtension ext) : ext.length = 4 ∨ ext.length = 5 := by
  obtain ⟨kind, one | two, -, rfl⟩ := h
  · simp [one]
  · simp [two]

/-- A name goes on from the next character, or it is the extension that begins here. -/
theorem named_cons_iff {c : Char} {t name after : Text} :
    Named (c :: t) name after ↔
      (∃ name', name = c :: name' ∧ c ≠ '\n' ∧ Named t name' after) ∨
        extension? (c :: t) = some (name, after) := by
  constructor
  · rintro ⟨⟨q, quote, whole⟩, oneLine, ext, isExt, within⟩
    cases name with
    | nil =>
      obtain rfl := List.suffix_nil.1 within
      cases isExt.length_eq <;> contradiction
    | cons d name =>
      obtain ⟨rfl, rfl⟩ := List.cons.inj whole
      rw [List.mem_cons, not_or] at oneLine
      obtain rfl | within := List.suffix_cons_iff.1 within
      · exact .inr (extension?_eq_some_iff.2 ⟨isExt, q, quote, rfl⟩)
      · exact .inl ⟨name, rfl, Ne.symm oneLine.1, ⟨q, quote, rfl⟩, oneLine.2, ext, isExt, within⟩
  · rintro (⟨name', rfl, inside, named⟩ | here)
    · exact named.cons inside
    · exact .of_extension? here

theorem Named.four_le_length {t name after : Text} (h : Named t name after) : 4 ≤ name.length := by
  obtain ⟨ext, isExt, within⟩ := h.ends
  have shorter := within.length_le
  have counted := isExt.length_eq
  omega

/-- No name is longer. -/
structure Longest (t name after : Text) : Prop extends Named t name after where
  longest : ∀ other after', Named t other after' → other.length ≤ name.length

theorem lastExtension?_eq_none_iff {t : Text} :
    lastExtension? t = none ↔ ∀ name after, ¬ Named t name after := by
  constructor
  · fun_induction lastExtension? t with
    | case1 =>
      rintro - name after ⟨⟨q, -, whole⟩, -⟩
      simp at whole
    | case2 r =>
      rintro - name after named
      obtain ⟨-, -, inside, -⟩ | here := named_cons_iff.1 named
      · exact inside rfl
      · obtain ⟨⟨kind, -, -, rfl⟩, q, -, whole⟩ := extension?_eq_some_iff.1 here
        cases (List.cons.inj whole).1
    | case3 => simp
    | case4 c r inside none_behind ih =>
      intro none_here name after named
      obtain ⟨name', -, -, named⟩ | here := named_cons_iff.1 named
      · exact ih none_behind name' after named
      · rw [none_here] at here
        cases here
  · intro none_named
    cases found : lastExtension? t with
    | none => rfl
    | some parts => exact absurd (Named.of_lastExtension? found) (none_named parts.1 parts.2)

theorem longest_of_lastExtension? {t name after : Text}
    (h : lastExtension? t = some (name, after)) : Longest t name after := by
  refine ⟨.of_lastExtension? h, ?_⟩
  fun_induction lastExtension? t generalizing name after with
  | case1 => cases h
  | case2 => cases h
  | case3 c r inside name' after' found ih =>
    obtain ⟨rfl, rfl⟩ := Prod.mk.inj (Option.some.inj h)
    intro other behind named
    obtain ⟨other', rfl, -, named⟩ | here := named_cons_iff.1 named
    · exact Nat.succ_le_succ (ih found other' behind named)
    · have counted := (extension?_eq_some_iff.1 here).1.length_eq
      have longer := (Named.of_lastExtension? found).four_le_length
      rw [List.length_cons]
      omega
  | case4 c r inside none_behind =>
    intro other behind named
    obtain ⟨other', -, -, named⟩ | here := named_cons_iff.1 named
    · exact absurd named (lastExtension?_eq_none_iff.1 none_behind other' behind)
    · obtain ⟨rfl, -⟩ := Prod.mk.inj (Option.some.inj (h.symm.trans here))
      exact Nat.le_refl _

/-- The search reads the longest name. -/
theorem lastExtension?_eq_some_iff {t name after : Text} :
    lastExtension? t = some (name, after) ↔ Longest t name after := by
  refine ⟨longest_of_lastExtension?, fun isLongest => ?_⟩
  cases found : lastExtension? t with
  | none => exact absurd isLongest.toNamed (lastExtension?_eq_none_iff.1 found name after)
  | some parts =>
    obtain ⟨name', after'⟩ := parts
    have isLongest' := longest_of_lastExtension? found
    obtain ⟨q, -, whole⟩ := isLongest.whole
    obtain ⟨q', -, whole'⟩ := isLongest'.whole
    have counted : name'.length = name.length :=
      le_antisymm (isLongest.longest _ _ isLongest'.toNamed) (isLongest'.longest _ _ isLongest.toNamed)
    obtain ⟨rfl, rest⟩ := List.append_inj (whole'.symm.trans whole) counted
    obtain ⟨-, rfl⟩ := List.cons.inj rest
    rfl

theorem Named.append {lead t name after : Text} (h : Named t name after) (oneLine : '\n' ∉ lead) :
    Named (lead ++ t) (lead ++ name) after := by
  induction lead with
  | nil => exact h
  | cons c lead ih =>
    rw [List.mem_cons, not_or] at oneLine
    exact (ih oneLine.2).cons (Ne.symm oneLine.1)

section
variable {q : Char} (quote : isQuote q = true)
include quote

/-- No extension reaches back over a semicolon behind a quote behind an extension. -/
theorem IsExtension.suffix_of_suffix {ext front more : Text} (isExt : IsExtension ext)
    (ended : front.getLast? = some 's') (within : ext <:+ front ++ q :: ';' :: more) : ext <:+ more := by
  obtain ⟨init, rfl⟩ : ∃ init, front = init ++ ['s'] := by
    obtain rfl | ⟨init, c, rfl⟩ := List.eq_nil_or_concat' front
    · cases ended
    · exact ⟨init, by simpa using ended⟩
  have other : '.' ≠ q := by
    rintro rfl
    revert quote
    decide
  have back : (init ++ ['s'] ++ q :: ';' :: more).reverse =
      more.reverse ++ ';' :: q :: 's' :: init.reverse := by simp
  rw [← List.reverse_prefix, back] at within
  rw [← List.reverse_prefix]
  generalize more.reverse = behind at within ⊢
  -- Read backwards, an extension has the semicolon too late or the dot too early.
  obtain ⟨kind, one | two, -, rfl⟩ := isExt
  · obtain ⟨a, rfl⟩ := List.length_eq_one_iff.1 one
    rcases behind with _ | ⟨x, _ | ⟨y, _ | ⟨z, _ | ⟨w, m⟩⟩⟩⟩ <;>
      simp [other] at within ⊢
    tauto
  · obtain ⟨a, b, rfl⟩ := List.length_eq_two.1 two
    rcases behind with _ | ⟨x, _ | ⟨y, _ | ⟨z, _ | ⟨w, _ | ⟨v, m⟩⟩⟩⟩⟩ <;>
      simp [other] at within ⊢
    tauto

/-- A longer name goes on behind the statement, and is a name from there on. -/
theorem exists_named_behind {front rest name after : Text} (ended : front.getLast? = some 's')
    (named : Named (front ++ q :: ';' :: rest) name after) (longer : front.length < name.length) :
    ∃ more, name = front ++ q :: ';' :: more ∧ Named rest more after := by
  obtain ⟨⟨q', quote', whole⟩, oneLine, ext, isExt, within⟩ := named
  obtain ⟨between, rfl, tail⟩ | ⟨between, rfl, -⟩ := List.append_eq_append_iff.1 whole
  · obtain _ | ⟨d, _ | ⟨e, more⟩⟩ := between
    · simp at longer
    · obtain ⟨rfl, semicolon⟩ := List.cons.inj tail
      obtain ⟨rfl, -⟩ := List.cons.inj semicolon
      exact absurd quote' (by decide)
    · obtain ⟨rfl, semicolon⟩ := List.cons.inj tail
      obtain ⟨rfl, behind⟩ := List.cons.inj semicolon
      refine ⟨more, rfl, ⟨q', quote', behind⟩, ?_, ext, isExt, isExt.suffix_of_suffix quote ended within⟩
      exact fun newline => oneLine (by simp [newline])
  · rw [List.length_append] at longer
    omega

end

/-- A module path on one line, with something before the extension of a stylesheet. -/
structure IsStylePath (path : Text) : Prop where
  oneLine : '\n' ∉ path
  ends : ∃ stem ext, stem ≠ [] ∧ ext ∈ ([".css", ".scss", ".sass"] : List Text) ∧ path = stem ++ ext

theorem isExtension_of_mem {ext : Text} (listed : ext ∈ ([".css", ".scss", ".sass"] : List Text)) :
    IsExtension ext := by
  simp only [List.mem_cons, List.not_mem_nil, or_false] at listed
  obtain rfl | rfl | rfl := listed
  · exact ⟨['c'], .inl rfl, Text.isSolid_of_any (by decide), rfl⟩
  · exact ⟨['s', 'c'], .inr rfl, Text.isSolid_of_any (by decide), rfl⟩
  · exact ⟨['s', 'a'], .inr rfl, Text.isSolid_of_any (by decide), rfl⟩

/-- What an import takes for its module path: up to the last style path on the line. -/
def taken (q : Char) (path rest : Text) : Text :=
  match lastExtension? rest with
  | some (more, _) => path ++ q :: ';' :: more
  | none => path

theorem stylesheetName?_statement {q : Char} (quote : isQuote q = true) {path : Text}
    (style : IsStylePath path) (rest : Text) :
    ∃ after, stylesheetName? (path ++ q :: ';' :: rest) = some (taken q path rest, after) := by
  obtain ⟨oneLine, stem, ext, nonempty, listed, rfl⟩ := style
  have isExt := isExtension_of_mem listed
  obtain ⟨c, stem, rfl⟩ := List.exists_cons_of_ne_nil nonempty
  rw [List.cons_append, List.mem_cons, not_or] at oneLine
  have ended : (stem ++ ext).getLast? = some 's' := by
    rw [List.getLast?_append, isExt.getLast?_eq, Option.some_or]
  have inside : c ≠ '\n' := Ne.symm oneLine.1
  unfold taken
  cases found : lastExtension? rest with
  | some parts =>
    obtain ⟨more, after⟩ := parts
    have apart : '\n' ∉ stem ++ ext ++ [q, ';'] := by
      have other : '\n' ≠ q := by
        rintro rfl
        exact absurd quote (by decide)
      simpa [other] using oneLine.2
    have read := lastExtension?_append apart found
    refine ⟨after, ?_⟩
    simpa using stylesheetName?_cons inside read
  | none =>
    have isLongest : Longest (stem ++ ext ++ q :: ';' :: rest) (stem ++ ext) (';' :: rest) := by
      refine ⟨⟨⟨q, quote, rfl⟩, oneLine.2, ext, isExt, List.suffix_append ..⟩, ?_⟩
      intro other after named
      refine Nat.le_of_not_lt fun longer => ?_
      obtain ⟨more, -, behind⟩ := exists_named_behind quote ended named longer
      exact lastExtension?_eq_none_iff.1 found more after behind
    refine ⟨';' :: rest, ?_⟩
    simpa using stylesheetName?_cons inside (lastExtension?_eq_some_iff.2 isLongest)

theorem lead_from : Lead " from ".toList := by
  have gap : IsGap [' '] := by
    refine ⟨List.cons_ne_nil _ _, fun c found => ?_⟩
    rw [List.mem_singleton.1 found]
    decide
  exact .of gap (.head _) gap

/-- No import goes on from a word before the key: what stands between is no lead. -/
theorem afterKey?_key {q : Char} (quote : isQuote q = true) {key quoted : Text} (isKey : IsKey key) :
    afterKey? (' ' :: (key ++ (" from ".toList ++ q :: quoted))) = none := by
  rw [Option.eq_none_iff_forall_not_mem]
  rintro ⟨name, after⟩ found
  obtain ⟨lead, q', quoted', -, isLead, quote', whole, -⟩ := afterKey?_eq_some found
  have same : lead ++ q' :: quoted' = ([' '] ++ key ++ " from ".toList) ++ q :: quoted := by
    simp [← whole]
  obtain same | ⟨behind, same, -⟩ := isLead.stops_at_quote quote same
  · have nothing := Lead.eq_nil_of_within isKey.solid (same ▸ isLead) lead_from
    exact isKey.nonempty nothing
  · have inside : q' ∈ [' '] ++ key ++ " from ".toList :=
      same ▸ List.mem_append_right lead (List.mem_cons_self ..)
    rw [List.mem_append, List.mem_append, List.mem_singleton] at inside
    obtain (rfl | inside) | inside := inside
    · exact absurd quote' (by decide)
    · exact isKey.quote_not_mem quote' inside
    · rw [lead_from.unquoted q' inside] at quote'
      cases quote'

theorem first?_word {word t : Text} (solid : Text.IsSolid word) (stops : afterKey? (' ' :: t) = none) :
    first? (word ++ ' ' :: t) = first? t := by
  induction word with
  | nil =>
    have blank : isBlank ' ' = true := by decide
    simp [first?, here?, blank]
  | cons c word ih =>
    have here : here? ((c :: word) ++ ' ' :: t) = none := by
      have inside : ∀ d ∈ c :: word, (!isBlank d) = true := fun d found => by simp [solid d found]
      have blank : ∀ d ∈ (' ' :: t).head?, (!isBlank d) = false := by
        rintro d ⟨⟩
        decide
      simp only [here?, Text.dropWhile_append_stop inside blank, stops]
      simp
    rw [List.cons_append] at here ⊢
    rw [first?, here]
    exact ih fun d found => solid d (List.mem_cons_of_mem c found)

/-- A statement that imports a module path, and what follows it. -/
def statement (q : Char) (i : Import) (rest : Text) : Text :=
  "import ".toList ++ (i.binding ++ (" from ".toList ++ q :: (i.modulePath ++ q :: ';' :: rest)))

theorem first?_statement {q : Char} (quote : isQuote q = true) {i : Import} (isKey : IsKey i.binding)
    (style : IsStylePath i.modulePath) (rest : Text) :
    ∃ after, first? (statement q i rest) = some (⟨i.binding, taken q i.modulePath rest⟩, after) := by
  obtain ⟨after, named⟩ := stylesheetName?_statement quote style rest
  have goes_on : afterKey? (" from ".toList ++ q :: (i.modulePath ++ q :: ';' :: rest)) =
      some (taken q i.modulePath rest, (Text.stripPrefix? [')'] after).getD after) := by
    rw [lead_from.afterKey?_append quote, named, Option.map_some]
  have here := here?_append isKey.nonempty isKey.solid goes_on
  have word : Text.IsSolid "import".toList := Text.isSolid_of_any (by decide)
  have start : statement q i rest = "import".toList ++ ' ' ::
      (i.binding ++ (" from ".toList ++ q :: (i.modulePath ++ q :: ';' :: rest))) := rfl
  rw [start, first?_word word (afterKey?_key quote isKey)]
  obtain ⟨c, key, same⟩ := List.exists_cons_of_ne_nil isKey.nonempty
  rw [same, List.cons_append] at here ⊢
  rw [first?, here]
  exact ⟨_, rfl⟩

theorem all_statement {q : Char} (quote : isQuote q = true) {i : Import}
    (bound : isIdentifier i.binding = true) (style : IsStylePath i.modulePath) (rest : Text) :
    (all (statement q i rest)).head? = some ⟨i.binding, taken q i.modulePath rest⟩ := by
  obtain ⟨after, first⟩ := first?_statement quote (isKey_of_isIdentifier bound) style rest
  rw [all, anyKey]
  split
  next none_found => rw [first] at none_found; cases none_found
  next found =>
    obtain ⟨rfl, rfl⟩ := Prod.mk.inj (Option.some.inj (first.symm.trans found))
    simp [bound]

theorem taken_eq_iff {q : Char} {path rest : Text} :
    taken q path rest = path ↔ ∀ more after, ¬ Named rest more after := by
  rw [← lastExtension?_eq_none_iff, taken]
  cases lastExtension? rest <;> simp

theorem taken_of_longest {q : Char} {path rest more after : Text} (longest : Longest rest more after) :
    taken q path rest = path ++ q :: ';' :: more := by
  rw [taken, lastExtension?_eq_some_iff.2 longest]

end ClassNav.Import
