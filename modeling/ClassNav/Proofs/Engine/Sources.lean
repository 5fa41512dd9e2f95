import ClassNav.Proofs.Engine.Imported
import ClassNav.Proofs.Path.Places

/-!
What a report is made from. It reads the stylesheets that it names and no other file, and names each by
its plain path.
-/

namespace ClassNav.Engine

section
variable {store after : Store} (d : Document) (cwd : after.cwd = store.cwd)
include cwd

theorem missingFor_congr (object : Text)
    (same : ∀ report ∈ (missingFor store d object).value,
      after.readText report.stylesheet = store.readText report.stylesheet) :
    missingFor after d object = missingFor store d object := by
  have imports : stylesheetOf? after d.text object d.baseDir =
      stylesheetOf? store d.text object d.baseDir := by
    rw [stylesheetOf?, stylesheetOf?, cwd]
  rw [missingFor_value] at same
  rw [missingFor, missingFor, imports]
  cases found : (stylesheetOf? store d.text object d.baseDir).value with
  | none => simp only [bind, found]
  | some sheet =>
    have unchanged : after.readText sheet = store.readText sheet := by
      simpa using same _ (by rw [found]; rfl)
    have declared : classes after sheet [] = classes store sheet [] := by
      rw [classes, classes, sheet?, sheet?, unchanged]
    simp only [bind, found, declared]

theorem reportsOf_congr {objects : List Text}
    (same : ∀ report ∈ (reportsOf store d objects).value,
      after.readText report.stylesheet = store.readText report.stylesheet) :
    reportsOf after d objects = reportsOf store d objects := by
  induction objects with
  | nil => rfl
  | cons object rest ih =>
    have listed : (reportsOf store d (object :: rest)).value =
        (missingFor store d object).value.toList ++ (reportsOf store d rest).value := rfl
    rw [listed] at same
    have first := missingFor_congr d cwd object fun report made =>
      same report (List.mem_append_left _ (Option.mem_toList.2 made))
    have others := ih fun report made => same report (List.mem_append_right _ made)
    rw [reportsOf, reportsOf, first, others]

/-- Files that hold what they held give the same reports, and the same notes on how they were made. -/
theorem reports_congr (object : Option Text)
    (same : ∀ report ∈ (reports store d object).value,
      after.readText report.stylesheet = store.readText report.stylesheet) :
    reports after d object = reports store d object := by
  cases object with
  | none =>
    have others := reportsOf_congr d cwd same
    simp only [reports, missingAll, others]
  | some object =>
    have alone := missingFor_congr d cwd object fun report made =>
      same report (Option.mem_toList.2 made)
    simp only [reports, alone]

end

theorem isPlain_of_missingFor {store : Store} {d : Document} {object : Text} {report : Report}
    (reported : (missingFor store d object).value = some report) : report.stylesheet.IsPlain := by
  obtain ⟨imports, -⟩ := missingFor_eq_some_iff.1 reported
  rw [stylesheetOf?_value] at imports
  obtain ⟨specifier, -, resolved⟩ := Option.map_eq_some_iff.1 imports
  exact resolved ▸ Path.isPlain_resolve ..

theorem isPlain_of_mem_reports {store : Store} {d : Document} {object : Option Text} {report : Report}
    (listed : report ∈ (reports store d object).value) : report.stylesheet.IsPlain := by
  cases object with
  | none =>
    have all : report ∈ (missingAll store d).value := listed
    rw [missingAll_value] at all
    obtain ⟨object, -, made⟩ := List.mem_filterMap.1 all
    exact isPlain_of_missingFor made
  | some object => exact isPlain_of_missingFor (Option.mem_toList.1 listed)

end ClassNav.Engine
