import ClassNav.Document.ImportLine
import ClassNav.Proofs.Document.ImportExtent

/-!
The grammar of imports: a key, a lead, and a module path in quotes. A search finds an import wherever the
grammar has one, and takes the leftmost, with the longest module path that stands there.
-/

namespace ClassNav.Import

open Character

/-- On one line, something and then the extension of a stylesheet. -/
structure IsModulePath (path : Text) : Prop where
  oneLine : '\n' ∉ path
  parts : ∃ stem ext, stem ≠ [] ∧ IsExtension ext ∧ path = stem ++ ext

/-- The text begins with a module path and a quote. -/
structure Opens (t path after : Text) : Prop where
  isPath : IsModulePath path
  whole : ∃ q, isQuote q = true ∧ t = path ++ q :: after

/-- Behind a key: a lead, and a module path in quotes. -/
def Continues (rest path : Text) : Prop :=
  ∃ lead q quoted after, Lead lead ∧ isQuote q = true ∧ rest = lead ++ q :: quoted ∧ Opens quoted path after

/-- An import of the path with the key stands in the text, behind what is before it. -/
def Occurs (key text before path : Text) : Prop :=
  ∃ rest, text = before ++ (key ++ rest) ∧ Continues rest path

/-- What a line can have for the key of an import: something without blanks. -/
def Names (key : Text) : Prop := key ≠ [] ∧ Text.IsSolid key

/-- No import with such a key begins earlier, and none has a longer path that begins here. -/
structure Foremost (keys : Text → Prop) (text key before path : Text) : Prop where
  isKey : keys key
  occurs : Occurs key text before path
  leftmost : ∀ key' before' path', keys key' → Occurs key' text before' path' →
    before.length ≤ before'.length
  longest : ∀ key' path', keys key' → Occurs key' text before path' → path'.length ≤ path.length

/-- One character of a module path stands before what the search for a name reads. -/
theorem opens_cons_iff {c : Char} {t path after : Text} :
    Opens (c :: t) path after ↔ ∃ name, path = c :: name ∧ c ≠ '\n' ∧ Named t name after := by
  constructor
  · rintro ⟨⟨oneLine, stem, ext, nonempty, isExt, rfl⟩, q, quote, whole⟩
    obtain ⟨d, stem, rfl⟩ := List.exists_cons_of_ne_nil nonempty
    obtain ⟨rfl, rfl⟩ := List.cons.inj whole
    rw [List.cons_append, List.mem_cons, not_or] at oneLine
    exact ⟨stem ++ ext, rfl, Ne.symm oneLine.1,
      ⟨q, quote, rfl⟩, oneLine.2, ext, isExt, List.suffix_append ..⟩
  · rintro ⟨name, rfl, inside, ⟨q, quote, rfl⟩, oneLine, ext, isExt, stem, rfl⟩
    have oneLine' : '\n' ∉ c :: (stem ++ ext) := by simpa [inside.symm] using oneLine
    exact ⟨⟨oneLine', c :: stem, ext, List.cons_ne_nil c stem, isExt, rfl⟩, q, quote, rfl⟩

theorem not_opens_nil {path after : Text} : ¬ Opens [] path after := by
  rintro ⟨-, q, -, whole⟩
  simp at whole

theorem stylesheetName?_eq_some_iff {t path after : Text} :
    stylesheetName? t = some (path, after) ↔
      Opens t path after ∧ ∀ path' after', Opens t path' after' → path'.length ≤ path.length := by
  cases t with
  | nil => simp [stylesheetName?, not_opens_nil]
  | cons c r =>
    constructor
    · intro h
      obtain ⟨d, r', name, same, inside, found, rfl⟩ := stylesheetName?_eq_some h
      obtain ⟨rfl, rfl⟩ := List.cons.inj same
      have isLongest := lastExtension?_eq_some_iff.1 found
      refine ⟨opens_cons_iff.2 ⟨name, rfl, inside, isLongest.toNamed⟩, fun path' after' opens => ?_⟩
      obtain ⟨name', rfl, -, named⟩ := opens_cons_iff.1 opens
      exact Nat.succ_le_succ (isLongest.longest name' after' named)
    · rintro ⟨opens, longest⟩
      obtain ⟨name, rfl, inside, named⟩ := opens_cons_iff.1 opens
      refine stylesheetName?_cons inside (lastExtension?_eq_some_iff.2 ⟨named, fun name' after' named' => ?_⟩)
      exact Nat.le_of_succ_le_succ
        (longest (c :: name') after' (opens_cons_iff.2 ⟨name', rfl, inside, named'⟩))

theorem exists_stylesheetName?_of_opens {t path after : Text} (opens : Opens t path after) :
    ∃ found, stylesheetName? t = some found := by
  cases t with
  | nil => exact absurd opens not_opens_nil
  | cons c r =>
    obtain ⟨name, rfl, inside, named⟩ := opens_cons_iff.1 opens
    cases found : lastExtension? r with
    | none => exact absurd named (lastExtension?_eq_none_iff.1 found name after)
    | some parts => exact ⟨_, stylesheetName?_cons inside found⟩

/-- A text has one lead at most with a quote behind it. -/
theorem Lead.eq_of_append {lead lead' quoted quoted' : Text} {q q' : Char} (isLead : Lead lead)
    (isLead' : Lead lead') (quote' : isQuote q' = true) (quote : isQuote q = true)
    (same : lead ++ q :: quoted = lead' ++ q' :: quoted') : quoted = quoted' := by
  obtain rfl | ⟨behind, rfl, -⟩ := isLead.stops_at_quote quote' same
  · exact (List.cons.inj (List.append_cancel_left same)).2
  · have unquoted := isLead'.unquoted q (by simp)
    rw [quote] at unquoted
    cases unquoted

theorem afterKey?_map_fst {rest path : Text} :
    (afterKey? rest).map Prod.fst = some path ↔
      Continues rest path ∧ ∀ path', Continues rest path' → path'.length ≤ path.length := by
  constructor
  · intro h
    obtain ⟨⟨path, after⟩, goes_on, rfl⟩ := Option.map_eq_some_iff.1 h
    obtain ⟨lead, q, quoted, tail, isLead, quote, rfl, named, -⟩ := afterKey?_eq_some goes_on
    obtain ⟨opens, longest⟩ := stylesheetName?_eq_some_iff.1 named
    refine ⟨⟨lead, q, quoted, tail, isLead, quote, rfl, opens⟩, ?_⟩
    rintro path' ⟨lead', q', quoted', after', isLead', quote', same, opens'⟩
    obtain rfl := isLead.eq_of_append isLead' quote' quote same
    exact longest path' after' opens'
  · rintro ⟨⟨lead, q, quoted, after, isLead, quote, rfl, opens⟩, longest⟩
    have named : stylesheetName? quoted = some (path, after) :=
      stylesheetName?_eq_some_iff.2 ⟨opens, fun path' after' opens' =>
        longest path' ⟨lead, q, quoted, after', isLead, quote, rfl, opens'⟩⟩
    rw [isLead.afterKey?_append quote, named]
    rfl

/-- Wherever an import continues, one is read. -/
theorem exists_afterKey?_of_continues {rest path : Text} (continues : Continues rest path) :
    ∃ found, afterKey? rest = some found := by
  obtain ⟨lead, q, quoted, after, isLead, quote, rfl, opens⟩ := continues
  obtain ⟨named, found⟩ := exists_stylesheetName?_of_opens opens
  exact ⟨_, by rw [isLead.afterKey?_append quote, found, Option.map_some]⟩

theorem Occurs.exists_placed {key text before path : Text} (occurs : Occurs key text before path) :
    ∃ rest path', text = before ++ (key ++ rest) ∧ Placed key text rest path' := by
  obtain ⟨rest, rfl, continues⟩ := occurs
  obtain ⟨found, goes_on⟩ := exists_afterKey?_of_continues continues
  exact ⟨rest, found.1, rfl, List.suffix_append .., by rw [goes_on, Option.map_some]⟩

/-- **The search for a key takes the foremost of its imports.** -/
theorem specifierOf?_eq_some_iff_foremost {key text path : Text} :
    specifierOf? key text = some path ↔ ∃ before, Foremost (· = key) text key before path := by
  rw [specifierOf?_eq_some_iff]
  constructor
  · rintro ⟨rest, ⟨⟨before, rfl⟩, goes_on⟩, first⟩
    obtain ⟨continues, longest⟩ := afterKey?_map_fst.1 goes_on
    refine ⟨before, rfl, ⟨rest, rfl, continues⟩, ?_, ?_⟩
    · rintro _ before' path' rfl occurs
      obtain ⟨rest', path'', whole, placed⟩ := occurs.exists_placed
      have shorter := first rest' path'' placed
      have counted := congrArg List.length whole
      simp only [List.length_append] at counted
      omega
    · rintro _ path' rfl ⟨rest', whole, continues'⟩
      obtain rfl := List.append_cancel_left (List.append_cancel_left whole)
      exact longest path' continues'
  · rintro ⟨before, -, ⟨rest, rfl, continues⟩, leftmost, longest⟩
    refine ⟨rest, ⟨List.suffix_append .., ?_⟩, ?_⟩
    · exact afterKey?_map_fst.2 ⟨continues, fun path' continues' => longest key path' rfl ⟨rest, rfl, continues'⟩⟩
    · rintro rest' path' ⟨⟨before', whole⟩, goes_on⟩
      have earlier := leftmost key before' path' rfl ⟨rest', whole.symm, (afterKey?_map_fst.1 goes_on).1⟩
      have counted := congrArg List.length whole
      simp only [List.length_append] at counted
      omega

theorem specifierOf?_isSome_iff {key text : Text} :
    (specifierOf? key text).isSome ↔ ∃ before path, Occurs key text before path := by
  constructor
  · intro found
    obtain ⟨path, found⟩ := Option.isSome_iff_exists.1 found
    obtain ⟨before, foremost⟩ := specifierOf?_eq_some_iff_foremost.1 found
    exact ⟨before, path, foremost.occurs⟩
  · rintro ⟨before, path, occurs⟩
    obtain ⟨rest, path', -, placed⟩ := occurs.exists_placed
    exact specifierOf?_isSome_of_placed placed

/-- An import that begins here has a name, and a name begins one if an import continues behind it. -/
theorem here?_map_fst {t : Text} {i : Import} :
    (here? t).map Prod.fst = some i ↔
      Names i.binding ∧ ∃ rest, t = i.binding ++ rest ∧ (afterKey? rest).map Prod.fst = some i.modulePath := by
  constructor
  · intro h
    obtain ⟨⟨i, after⟩, here, rfl⟩ := Option.map_eq_some_iff.1 h
    obtain ⟨rest, rfl, nonempty, solid, goes_on⟩ := here?_eq_some here
    exact ⟨⟨nonempty, solid⟩, rest, rfl, by rw [goes_on, Option.map_some]⟩
  · rintro ⟨⟨nonempty, solid⟩, rest, rfl, goes_on⟩
    obtain ⟨⟨path, after⟩, goes_on, same⟩ := Option.map_eq_some_iff.1 goes_on
    obtain rfl : path = i.modulePath := same
    rw [here?_append nonempty solid goes_on]
    rfl

/-- Where a name stands with an import behind it, an import begins, and its key is that name. -/
theorem exists_here?_of_continues {key rest path : Text} (names : Names key) (continues : Continues rest path) :
    ∃ path', (here? (key ++ rest)).map Prod.fst = some ⟨key, path'⟩ := by
  obtain ⟨found, goes_on⟩ := exists_afterKey?_of_continues continues
  exact ⟨found.1, by rw [here?_append names.1 names.2 goes_on, Option.map_some]⟩

/-- **The first import of a line is the foremost under any name.** -/
theorem onLine?_eq_some_iff {line : Text} {i : Import} :
    onLine? line = some i ↔ ∃ before, Foremost Names line i.binding before i.modulePath := by
  constructor
  · intro h
    obtain ⟨⟨i, after⟩, found, rfl⟩ := Option.map_eq_some_iff.1 h
    obtain ⟨before, t, rfl, here, first⟩ := first?_eq_some_iff.1 found
    have here' : (here? t).map Prod.fst = some i := by rw [here, Option.map_some]
    obtain ⟨names, rest, rfl, goes_on⟩ := here?_map_fst.1 here'
    obtain ⟨continues, longest⟩ := afterKey?_map_fst.1 goes_on
    refine ⟨before, names, ⟨rest, rfl, continues⟩, ?_, ?_⟩
    · rintro key' before' path' names' ⟨rest', whole, continues'⟩
      obtain ⟨path'', begins⟩ := exists_here?_of_continues names' continues'
      exact first before' _ whole (by rw [← Option.isSome_map, begins]; rfl)
    · -- Both names are the run that begins here.
      rintro key' path' names' ⟨rest', whole, continues'⟩
      have same := List.append_cancel_left whole
      obtain ⟨path'', begins⟩ := exists_here?_of_continues names' continues'
      rw [← same, here'] at begins
      obtain rfl : i.binding = key' := congrArg Import.binding (Option.some.inj begins)
      obtain rfl := List.append_cancel_left same
      exact longest path' continues'
  · rintro ⟨before, names, ⟨rest, rfl, continues⟩, leftmost, longest⟩
    have goes_on : (afterKey? rest).map Prod.fst = some i.modulePath :=
      afterKey?_map_fst.2 ⟨continues, fun path' continues' =>
        longest i.binding path' names ⟨rest, rfl, continues'⟩⟩
    obtain ⟨⟨i', after⟩, here, rfl⟩ := Option.map_eq_some_iff.1 (here?_map_fst.2 ⟨names, rest, rfl, goes_on⟩)
    refine Option.map_eq_some_iff.2 ⟨(i', after), first?_eq_some_iff.2 ⟨before, _, rfl, here, ?_⟩, rfl⟩
    intro earlier t' whole begins
    obtain ⟨⟨j, after'⟩, here'⟩ := Option.isSome_iff_exists.1 begins
    have named : (here? t').map Prod.fst = some j := by rw [here', Option.map_some]
    obtain ⟨names', rest', rfl, goes_on'⟩ := here?_map_fst.1 named
    exact leftmost j.binding earlier j.modulePath names' ⟨rest', whole, (afterKey?_map_fst.1 goes_on').1⟩

theorem onLine?_isSome_iff {line : Text} :
    (onLine? line).isSome ↔ ∃ key before path, Names key ∧ Occurs key line before path := by
  constructor
  · intro found
    obtain ⟨i, found⟩ := Option.isSome_iff_exists.1 found
    obtain ⟨before, foremost⟩ := onLine?_eq_some_iff.1 found
    exact ⟨i.binding, before, i.modulePath, foremost.isKey, foremost.occurs⟩
  · rintro ⟨key, before, path, names, rest, whole, continues⟩
    obtain ⟨path', begins⟩ := exists_here?_of_continues names continues
    rw [onLine?, Option.isSome_map, Option.isSome_iff_ne_none]
    intro nothing
    rw [here?_eq_none nothing whole] at begins
    cases begins

/-- A run of other than blanks stands in the text, all of it, behind what is before it. -/
def WholeRun (text before run : Text) : Prop :=
  Names run ∧ (∀ c ∈ before.getLast?, isBlank c = true) ∧
    ∃ after, text = before ++ (run ++ after) ∧ ∀ c ∈ after.head?, isBlank c = true

/-- The foremost import takes no part of a run for its key. -/
theorem Foremost.wholeRun {text key before path : Text} (foremost : Foremost Names text key before path) :
    WholeRun text before key := by
  obtain ⟨⟨nonempty, solid⟩, ⟨rest, whole, continues⟩, leftmost, -⟩ := foremost
  refine ⟨⟨nonempty, solid⟩, fun c last => ?_, rest, whole, fun c first => ?_⟩
  · rw [← Bool.not_eq_false]
    intro inside
    obtain ⟨init, rfl⟩ := List.getLast?_eq_some_iff.1 last
    have names : Names (c :: key) := by
      refine ⟨List.cons_ne_nil c key, fun d found => ?_⟩
      obtain rfl | found := List.mem_cons.1 found
      · exact inside
      · exact solid d found
    have longer := leftmost (c :: key) init path names ⟨rest, by simp [whole], continues⟩
    rw [List.length_append, List.length_singleton] at longer
    omega
  · obtain ⟨found, goes_on⟩ := exists_afterKey?_of_continues continues
    obtain ⟨d, r, rfl, blank⟩ := exists_blank_of_afterKey? goes_on
    obtain rfl := Option.some.inj first
    exact blank

end ClassNav.Import
