import ClassNav.Proofs.Distinct
import ClassNav.Proofs.Document.Usages
import ClassNav.Proofs.Engine.Imported

/-!
The reports of a document: which names have one, in which order, and what it lists.
-/

namespace ClassNav.Engine

theorem mem_missingAll {store : Store} {d : Document} {i : Import} {report : Report}
    (bound : i ∈ Import.all d.text) (reported : (missingFor store d i.binding).value = some report) :
    report ∈ (missingAll store d).value := by
  rw [missingAll_value]
  refine List.mem_filterMap.2 ⟨i.binding, ?_, reported⟩
  exact List.mem_eraseDups.2 (List.mem_map.2 ⟨i, bound, rfl⟩)

/-- A name bound to a stylesheet is never without a report. -/
theorem missingFor_of_mem_all (store : Store) {d : Document} {i : Import}
    (bound : i ∈ Import.all d.text) : ∃ report, (missingFor store d i.binding).value = some report := by
  obtain ⟨j, -, path, -, imports⟩ := stylesheetOf?_of_mem_all store d.baseDir bound
  rw [missingFor_value, imports]
  exact ⟨_, rfl⟩

theorem missingFor_of_mem_missingAll {store : Store} {d : Document} {report : Report}
    (reported : report ∈ (missingAll store d).value) :
    (missingFor store d report.object).value = some report := by
  rw [missingAll_value] at reported
  obtain ⟨object, -, made⟩ := List.mem_filterMap.1 reported
  obtain ⟨-, rfl, -⟩ := missingFor_eq_some_iff.1 made
  exact made

/-- What a report lists are the usages of undeclared names, with nothing else between them. -/
theorem usages_of_missingFor {store : Store} {d : Document} {object : Text} {report : Report}
    (reported : (missingFor store d object).value = some report) :
    report.missing.map MissingClass.usage = (Usage.all object d.text).filter fun u =>
      decide (u.name ∉ (classes store report.stylesheet []).value) := by
  obtain ⟨-, -, listed⟩ := missingFor_eq_some_iff.1 reported
  rw [listed, MissingClass.all, List.map_map]
  refine (List.map_id _).trans (List.filter_congr fun u _ => ?_)
  simp

/-- **Every bound name has its report**, in the order of the first imports and no name twice. It is the
report that the name has by itself, and lists the usages of what the stylesheet does not declare, as
they stand in the document. -/
theorem missingAll_complete (store : Store) (d : Document) :
    let bindings := (Import.all d.text).map Import.binding
    let reports := (missingAll store d).value
    (reports.map Report.object).Nodup ∧
      (∀ object, object ∈ reports.map Report.object ↔ object ∈ bindings) ∧
      (reports.map Report.object).Pairwise (fun a b => bindings.idxOf a < bindings.idxOf b) ∧
      (∀ i ∈ Import.all d.text, ∃ report ∈ reports,
        (missingFor store d i.binding).value = some report) ∧
      ∀ report ∈ reports, (missingFor store d report.object).value = some report ∧
        report.missing.map MissingClass.usage = ((Usage.all report.object d.text).filter fun u =>
          decide (u.name ∉ (classes store report.stylesheet []).value)) ∧
        (report.missing.map MissingClass.usage).Pairwise fun u v => u.last < v.first := by
  intro bindings reports
  have objects : reports.map Report.object = bindings.eraseDups := missingAll_objects store d
  rw [objects]
  refine ⟨nodup_eraseDups _, fun object => List.mem_eraseDups, pairwise_idxOf_eraseDups _, ?_, ?_⟩
  · intro i bound
    obtain ⟨report, reported⟩ := missingFor_of_mem_all store bound
    exact ⟨report, mem_missingAll bound reported, reported⟩
  · intro report listed
    have reported := missingFor_of_mem_missingAll listed
    have usages := usages_of_missingFor reported
    refine ⟨reported, usages, ?_⟩
    rw [usages]
    exact (Usage.pairwise_all _ _).filter _

/-- A page that binds `$t` twice, and `s` to a stylesheet that declares one of its two classes. -/
theorem missingAll_complete_twice :
    let d : Document := ⟨⟨"/page.js"⟩,
      "import $t from './b.css'\nimport s from\n  './a.css'\n$t = require('./c.css')\ns.a s.cd"⟩
    ((missingAll (.ofSheet ".a \x7b") d).value.map Report.object).Nodup ∧
      ∃ report ∈ (missingAll (.ofSheet ".a \x7b") d).value, report.object = "s".toList ∧
        (missingFor (.ofSheet ".a \x7b") d "s").value = some report ∧
        report.missing.map (Usage.name ∘ MissingClass.usage) = ["cd".toList] := by
  intro d
  obtain ⟨once, -, -, bound, made⟩ := missingAll_complete (.ofSheet ".a \x7b") d
  have binds : (⟨"s", "./a.css"⟩ : Import) ∈ Import.all d.text := by decide +kernel
  obtain ⟨report, listed, reported⟩ := bound _ binds
  obtain ⟨imports, same, -⟩ := missingFor_eq_some_iff.1 reported
  have sheet : (stylesheetOf? (.ofSheet ".a \x7b") d.text "s" d.baseDir).value = some ⟨"/a.css"⟩ := by
    decide +kernel
  have here : report.stylesheet = ⟨"/a.css"⟩ := Option.some.inj (imports.symm.trans sheet)
  refine ⟨once, report, listed, same, reported, ?_⟩
  have usages := congrArg (List.map Usage.name) (made report listed).2.1
  rw [List.map_map, same, here] at usages
  exact usages.trans (by decide +kernel)

end ClassNav.Engine
