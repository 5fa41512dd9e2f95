import ClassNav.Proofs.Document.ImportExpression
import ClassNav.Proofs.Document.ImportGrammar
import ClassNav.Proofs.Document.Token
import ClassNav.Proofs.Engine.Answers

/-!
Which stylesheet a name stands for. Reports go over the list of all imports, while each answer searches
for its one name; the two agree where the name passes by the imports ahead of its own. What either finds is
an import of the grammar, and the foremost.
-/

namespace ClassNav

/-- What the object of a reference is made of can stand in the key of an import. -/
theorem Cursor.isKey_object {c : Cursor} {r : Reference} (reads : c.reference? = some r)
    (named : r.object ≠ []) : Import.IsKey r.object := by
  obtain ⟨chars, undotted, -⟩ := chars_of_reference? reads
  refine ⟨named, fun d found => ?_⟩
  have inside := chars d found
  have other : d ≠ '.' := fun dot => undotted (dot ▸ found)
  simp only [Reference.isTokenChar, Import.isBindingChar, Bool.or_eq_true, beq_iff_eq] at inside ⊢
  tauto

namespace Engine

open Import

theorem reportsOf_value (store : Store) (d : Document) (objects : List Text) :
    (reportsOf store d objects).value =
      objects.filterMap fun object => (missingFor store d object).value := by
  induction objects with
  | nil => rfl
  | cons object rest ih =>
    rw [reportsOf, Logged.value_bind, List.filterMap_cons]
    cases reported : (missingFor store d object).value with
    | none => simp [ih]
    | some report => simp [ih]

theorem missingAll_value (store : Store) (d : Document) :
    (missingAll store d).value =
      ((all d.text).map binding).eraseDups.filterMap fun object =>
        (missingFor store d object).value := by
  rw [missingAll, Logged.value_bind, reportsOf_value]

/-- Every name bound to a stylesheet has one. -/
theorem stylesheetOf?_of_mem_all (store : Store) (base : Path) {text : Text} {i : Import}
    (listed : i ∈ all text) :
    ∃ j ∈ anyKey text, ∃ path, j.LeadsTo i.binding path ∧
      (stylesheetOf? store text i.binding base).value = some (Path.resolve store.cwd base path) := by
  obtain ⟨listed, names⟩ := List.mem_filter.1 listed
  obtain ⟨path, found⟩ := Option.isSome_iff_exists.1 (specifierOf?_isSome_of_mem listed List.suffix_rfl)
  obtain ⟨j, listed', leads⟩ := exists_import_of_specifierOf? (isKey_of_isIdentifier names) found
  exact ⟨j, listed', path, leads, by rw [stylesheetOf?_value, found, Option.map_some]⟩

theorem stylesheetOf?_of_first (store : Store) (base : Path) {text : Text} {i : Import}
    (first : (all text).find? (·.binding == i.binding) = some i)
    (passed : ∀ j ∈ ahead i.binding text, j.Passes i.binding) :
    (stylesheetOf? store text i.binding base).value =
      some (Path.resolve store.cwd base i.modulePath) := by
  have names := (List.mem_filter.1 (List.mem_of_find?_eq_some first)).2
  rw [stylesheetOf?_value, specifierOf?_eq_find? names passed, first]
  rfl

/-- Each bound name has one report, at the place of its first import. -/
theorem missingAll_objects (store : Store) (d : Document) :
    (missingAll store d).value.map Report.object = ((all d.text).map binding).eraseDups := by
  rw [missingAll_value, List.map_filterMap]
  refine (List.filterMap_congr fun object listed => ?_).trans List.filterMap_some
  obtain ⟨i, bound, rfl⟩ := List.mem_map.1 (List.mem_eraseDups.1 listed)
  obtain ⟨j, -, path, -, imports⟩ := stylesheetOf?_of_mem_all store d.baseDir bound
  rw [missingFor_value, imports]
  rfl

theorem stylesheetOf?_of_mem_missingAll {store : Store} {d : Document} {report : Report}
    (reported : report ∈ (missingAll store d).value) :
    (stylesheetOf? store d.text report.object d.baseDir).value = some report.stylesheet := by
  rw [missingAll_value] at reported
  obtain ⟨object, -, made⟩ := List.mem_filterMap.1 reported
  obtain ⟨imports, rfl, -⟩ := missingFor_eq_some_iff.1 made
  exact imports

/-- **A bound name leads to the stylesheet of its first import**, if it passes by the imports ahead of
that. Where it does not, it still leads to a stylesheet, one that some import has for it, and there is
one report for it in any case. -/
theorem bound_names_lead_to_imports (store : Store) (d : Document) :
    (∀ base i, (all d.text).find? (·.binding == i.binding) = some i →
      (∃ j ∈ anyKey d.text, ∃ path, j.LeadsTo i.binding path ∧
        (stylesheetOf? store d.text i.binding base).value =
          some (Path.resolve store.cwd base path)) ∧
      ((∀ j ∈ ahead i.binding d.text, j.Passes i.binding) →
        (stylesheetOf? store d.text i.binding base).value =
          some (Path.resolve store.cwd base i.modulePath))) ∧
    (missingAll store d).value.map Report.object = ((all d.text).map binding).eraseDups ∧
    ∀ report ∈ (missingAll store d).value, ∀ i,
      (all d.text).find? (·.binding == report.object) = some i →
      (∀ j ∈ ahead report.object d.text, j.Passes report.object) →
      report.stylesheet = Path.resolve store.cwd d.baseDir i.modulePath := by
  refine ⟨fun base i first => ⟨?_, ?_⟩, missingAll_objects store d, ?_⟩
  · exact stylesheetOf?_of_mem_all store base (List.mem_of_find?_eq_some first)
  · exact stylesheetOf?_of_first store base first
  · intro report reported i first passed
    obtain same : i.binding = report.object := by simpa using List.find?_some first
    rw [← same] at first passed
    have imports := stylesheetOf?_of_mem_missingAll reported
    rw [← same, stylesheetOf?_of_first store d.baseDir first passed] at imports
    exact (Option.some.inj imports).symm

/-- A page that imports `s` after another stylesheet, and twice. -/
theorem bound_names_lead_to_imports_behind :
    let text := "import t from './b.css'\nimport s from './a.css'\nconst s = require('./c.css')".toList
    (stylesheetOf? (.ofSheet "") text "s" ⟨"/p"⟩).value = some ⟨"/p/a.css"⟩ ∧
    ∀ report ∈ (missingAll (.ofSheet "") ⟨⟨"/p/page.js"⟩, text⟩).value, report.object = "s".toList →
      report.stylesheet = ⟨"/p/a.css"⟩ := by
  intro text
  obtain ⟨leads, -, reports⟩ := bound_names_lead_to_imports (.ofSheet "") ⟨⟨"/p/page.js"⟩, text⟩
  have first : (all text).find? (·.binding == "s".toList) = some ⟨"s", "./a.css"⟩ := by
    decide +kernel
  have passed : ∀ j ∈ ahead "s" text, j.Passes "s" := by
    have before : ahead "s" text = [⟨"t", "./b.css"⟩] := by decide +kernel
    intro j listed
    rw [before, List.mem_singleton] at listed
    subst listed
    exact passes_of_unquoted (by decide) (by decide)
  refine ⟨((leads ⟨"/p"⟩ ⟨"s", "./a.css"⟩ first).2 passed).trans (by decide +kernel), ?_⟩
  intro report reported same
  have named := reports report reported ⟨"s", "./a.css"⟩
  rw [same] at named
  exact (named first passed).trans (by decide +kernel)

/-- A name that another key ends in leads to that one's stylesheet. -/
theorem bound_name_led_astray :
    let text := "import mys from './a.css'\nimport s from './b.css'".toList
    (all text).find? (·.binding == "s".toList) = some ⟨"s", "./b.css"⟩ ∧
    (stylesheetOf? (.ofSheet "") text "s" ⟨"/p"⟩).value ≠
      some (Path.resolve (Store.ofSheet "").cwd ⟨"/p"⟩ "./b.css") ∧
    ∃ report ∈ (missingAll (.ofSheet "") ⟨⟨"/p/page.js"⟩, text⟩).value,
      report.object = "s".toList ∧ report.stylesheet = ⟨"/p/a.css"⟩ := by
  decide +kernel

theorem exists_written {answer : Except Failure (Option Written)} {p : Path}
    (same : answer.map (Option.map Written.stylesheet) = .ok (some p)) :
    ∃ w, answer = .ok (some w) ∧ w.stylesheet = p := by
  obtain _ | _ | w := answer
  · cases same
  · cases same
  · exact ⟨w, rfl, by simpa [Except.map] using same⟩

/-- **A rule is written only for a name that an import has a stylesheet for.** The name is bound by that
very import, if it passes by all the imports ahead of the first that binds it. -/
theorem createMissing_for_import {e : Engine} {store : Store} {d : Document} {line column : Nat}
    {w : Written} (created : (e.createMissing store d line column).value = .ok (some w)) :
    ∃ c r path, d.cursor line column = .ok c ∧ c.reference? = some r ∧
      w.stylesheet = Path.resolve store.cwd d.baseDir path ∧
      (r.object ≠ [] → ∃ j ∈ anyKey d.text, j.LeadsTo r.object path) ∧
      (isIdentifier r.object = true → (∀ j ∈ ahead r.object d.text, j.Passes r.object) →
        ∃ i ∈ all d.text, i.binding = r.object ∧ i.modulePath = path) := by
  obtain ⟨c, r, here, reads, -, -, imports, -⟩ := written_of_createMissing created
  rw [stylesheetOf?_value] at imports
  obtain ⟨path, found, same⟩ := Option.map_eq_some_iff.1 imports
  refine ⟨c, r, path, here, reads, same.symm, fun named => ?_, fun names passed => ?_⟩
  · exact exists_import_of_specifierOf? (Cursor.isKey_object reads named) found
  · rw [specifierOf?_eq_find? names passed] at found
    obtain ⟨i, first, rfl⟩ := Option.map_eq_some_iff.1 found
    exact ⟨i, List.mem_of_find?_eq_some first, by simpa using List.find?_some first, rfl⟩

/-- A class of `s`, which the import ahead of its own has nothing for. -/
theorem createMissing_for_import_behind :
    let d : Document := ⟨⟨"/page.js"⟩, "import t from './b.css'\nimport s from './a.css'\ns.cd"⟩
    ∃ w, ((Engine.mk .default).createMissing (.ofSheet "") d 2 3).value = .ok (some w) ∧
      ∃ i ∈ all d.text, i.binding = "s".toList ∧
        w.stylesheet = Path.resolve ⟨"/"⟩ d.baseDir i.modulePath := by
  intro d
  obtain ⟨w, created, -⟩ := exists_written
    (show ((Engine.mk .default).createMissing (.ofSheet "") d 2 3).value.map
      (Option.map Written.stylesheet) = .ok (some ⟨"/a.css"⟩) by decide +kernel)
  obtain ⟨c, r, path, here, reads, resolved, -, bound⟩ := createMissing_for_import created
  have reference : (d.cursor 2 3).toOption.bind Cursor.reference? = some ⟨"s", "cd"⟩ := by
    decide +kernel
  obtain rfl : r = ⟨"s", "cd"⟩ := by simpa [here, reads, Except.toOption] using reference
  have passed : ∀ j ∈ ahead "s" d.text, j.Passes "s" := by
    have before : ahead "s" d.text = [⟨"t", "./b.css"⟩] := by decide +kernel
    intro j listed
    rw [before, List.mem_singleton] at listed
    subst listed
    exact passes_of_unquoted (by decide) (by decide)
  obtain ⟨i, listed, names, rfl⟩ := bound (by decide) passed
  exact ⟨w, created, i, listed, names, resolved⟩

/-- A reference without an object is written for by any import. -/
theorem createMissing_without_object :
    let d := Document.importing "f().cd"
    (d.cursor 1 4).toOption.bind Cursor.reference? = some ⟨[], "cd"⟩ ∧
      (∀ i ∈ all d.text, i.binding ≠ []) ∧
      ∃ w, ((Engine.mk .default).createMissing (.ofSheet "") d 1 4).value = .ok (some w) ∧
        w.stylesheet = ⟨"/a.css"⟩ := by
  refine ⟨by decide +kernel, by decide +kernel, exists_written (by decide +kernel)⟩

theorem stylesheetOf?_statement (store : Store) (base : Path) {q : Char} {i : Import}
    (quote : isQuote q = true) (bound : isIdentifier i.binding = true)
    (style : IsStylePath i.modulePath) (rest : Text) :
    (stylesheetOf? store (statement q i rest) i.binding base).value =
      some (Path.resolve store.cwd base (taken q i.modulePath rest)) := by
  have isKey := isKey_of_isIdentifier bound
  obtain ⟨after, first⟩ := first?_statement quote isKey style rest
  rw [stylesheetOf?_value, specifierOf?_of_suffix isKey first List.suffix_rfl, Option.map_some]

/-- **An import keeps its module path as written if no other style path stands behind it on the line.**
Otherwise the path is taken on to the last of these, over the end of the statement. -/
theorem import_taken_to_last_path (store : Store) (base : Path) {q : Char} {i : Import}
    (quote : isQuote q = true) (bound : isIdentifier i.binding = true)
    (style : IsStylePath i.modulePath) (rest : Text) :
    ∃ path, (stylesheetOf? store (statement q i rest) i.binding base).value =
        some (Path.resolve store.cwd base path) ∧
      (all (statement q i rest)).head? = some ⟨i.binding, path⟩ ∧
      (path = i.modulePath ↔ ∀ more after, ¬ Named rest more after) ∧
      ∀ more after, Longest rest more after → path = i.modulePath ++ q :: ';' :: more :=
  ⟨taken q i.modulePath rest, stylesheetOf?_statement store base quote bound style rest,
    all_statement quote bound style rest, taken_eq_iff, fun _ _ => taken_of_longest⟩

/-- A comment on the line with a style path below it, and another import on the line. -/
theorem import_taken_to_last_path_of_s :
    let i : Import := ⟨"s", "./a.css"⟩
    (stylesheetOf? (.ofSheet "") (statement '"' i " // a sheet\n'./b.css'") "s" ⟨"/p"⟩).value =
        some ⟨"/p/a.css"⟩ ∧
      (all (statement '\'' i " import t from './b.css'")).head? =
        some ⟨"s", "./a.css'; import t from './b.css"⟩ := by
  intro i
  have bound : isIdentifier i.binding = true := by decide
  have style : IsStylePath i.modulePath := ⟨by decide, "./a", ".css", by decide, by decide, by decide⟩
  constructor
  · obtain ⟨path, leads, -, kept, -⟩ := import_taken_to_last_path (.ofSheet "") ⟨"/p"⟩ (q := '"')
      (by decide) bound style " // a sheet\n'./b.css'"
    obtain rfl := kept.2 (lastExtension?_eq_none_iff.1 (by decide))
    exact leads.trans (by decide)
  · obtain ⟨path, -, listed, -, longer⟩ := import_taken_to_last_path (.ofSheet "") ⟨"/p"⟩ (q := '\'')
      (by decide) bound style " import t from './b.css'"
    obtain rfl := longer " import t from './b.css" [] (lastExtension?_eq_some_iff.1 (by decide))
    exact listed

/-- The second import of a line is taken into the first. -/
theorem import_taken_past_statement :
    let text := "import s from './a.css'; import t from './b.css';".toList
    (stylesheetOf? (.ofSheet "") text "s" ⟨"/p"⟩).value ≠
        some (Path.resolve (Store.ofSheet "").cwd ⟨"/p"⟩ "./a.css") ∧
      (stylesheetOf? (.ofSheet "") text "s" ⟨"/p"⟩).value =
        some ⟨"/p/a.css'; import t from './b.css"⟩ ∧
      (all text).head? = some ⟨"s", "./a.css'; import t from './b.css"⟩ := by
  intro text
  have bound : isIdentifier "s" = true := by decide
  have style : IsStylePath "./a.css" := ⟨by decide, "./a", ".css", by decide, by decide, by decide⟩
  have longest : Longest " import t from './b.css';" " import t from './b.css" [';'] :=
    lastExtension?_eq_some_iff.1 (by decide)
  have leads := stylesheetOf?_statement (.ofSheet "") ⟨"/p"⟩ (q := '\'') (i := ⟨"s", "./a.css"⟩)
    (by decide) bound style " import t from './b.css';"
  have listed := all_statement (q := '\'') (i := ⟨"s", "./a.css"⟩)
    (by decide) bound style " import t from './b.css';"
  rw [taken_of_longest longest] at leads listed
  have stretched : (stylesheetOf? (.ofSheet "") text "s" ⟨"/p"⟩).value =
      some ⟨"/p/a.css'; import t from './b.css"⟩ := leads.trans (by decide)
  refine ⟨?_, stretched, listed⟩
  rw [stretched]
  decide

/-- **Imports are read by their grammar.** An import is found where the grammar has one, and only there. It is
what the expression finds, going back where it must: the foremost import of the key, whatever the key is,
and on a line the foremost under any name, which is then a whole run of the line. -/
theorem imports_follow_grammar (store : Store) (base : Path) (text : Text) :
    (∀ key,
      (stylesheetOf? store text key base).value = (sought? key text).map (Path.resolve store.cwd base) ∧
      ((stylesheetOf? store text key base).value.isSome ↔ ∃ before path, Occurs key text before path) ∧
      ∀ sheet, (stylesheetOf? store text key base).value = some sheet ↔
        ∃ before path, Foremost (· = key) text key before path ∧
          Path.resolve store.cwd base path = sheet) ∧
    onLine? text = captured? text ∧
    ((onLine? text).isSome ↔ ∃ key before path, Names key ∧ Occurs key text before path) ∧
    ∀ i, onLine? text = some i ↔
      ∃ before, Foremost Names text i.binding before i.modulePath ∧ WholeRun text before i.binding := by
  refine ⟨fun key => ⟨?_, ?_, fun sheet => ?_⟩, (captured?_eq text).symm, onLine?_isSome_iff, fun i => ?_⟩
  · rw [stylesheetOf?_value, sought?_eq]
  · rw [stylesheetOf?_value, Option.isSome_map, specifierOf?_isSome_iff]
  · rw [stylesheetOf?_value, Option.map_eq_some_iff]
    constructor
    · rintro ⟨path, found, resolved⟩
      obtain ⟨before, foremost⟩ := specifierOf?_eq_some_iff_foremost.1 found
      exact ⟨before, path, foremost, resolved⟩
    · rintro ⟨before, path, foremost, resolved⟩
      exact ⟨path, specifierOf?_eq_some_iff_foremost.2 ⟨before, foremost⟩, resolved⟩
  · rw [onLine?_eq_some_iff]
    exact ⟨fun ⟨before, foremost⟩ => ⟨before, foremost, foremost.wholeRun⟩,
      fun ⟨before, foremost, _⟩ => ⟨before, foremost⟩⟩

/-- The first word has no quote behind its lead, so the second is the key. -/
example : onLine? "from from from './a.css'" = some ⟨"from", "./a.css"⟩ := by decide

end Engine

end ClassNav
