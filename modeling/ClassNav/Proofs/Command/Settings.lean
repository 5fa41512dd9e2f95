import ClassNav.Command.Run
import ClassNav.Proofs.Command.Options
import ClassNav.Proofs.Settings.Layers

/-!
The settings that a command works with: those of the files, with the policy that the command line gives.
-/

namespace ClassNav.Command

/-- What a command comes to once its settings are known. -/
def proceed (environment : Environment) (store : Store) (i : Invocation) (r : Resolved) : Started :=
  let style := style environment i
  let before := Output.log (settings environment store i).notes
  match i.task with
  | .watch file object debounceMs => startWatch style r.settings store before file object debounceMs
  | task => .finished (finish style store before (answer style environment.isForeign r store task))

theorem start_of_load {environment : Environment} {store : Store} {i : Invocation} {r : Resolved}
    (loaded : (settings environment store i).value = .ok r) :
    start environment store i =
      match withPolicy i r with
      | .error spelling =>
        .finished ⟨1, .log (settings environment store i).notes ++
          .err (policyFailure (style environment i) spelling), store⟩
      | .ok r => proceed environment store i r := by
  unfold start
  simp only [loaded]
  rfl

theorem start_of_refused {environment : Environment} {store : Store} {i : Invocation} {e : Failure}
    (refused : (settings environment store i).value = .error e) :
    start environment store i =
      .finished ⟨1, .log (settings environment store i).notes ++
        .err (settingsFailure (style environment i) i.config e), store⟩ := by
  unfold start
  simp only [refused]

theorem proceed_eq_finished {i : Invocation}
    (ends : ∀ file object debounceMs, i.task ≠ .watch file object debounceMs) (environment : Environment)
    (store : Store) (r : Resolved) :
    proceed environment store i r = .finished (finish (style environment i) store
      (.log (settings environment store i).notes)
      (answer (style environment i) environment.isForeign r store i.task)) := by
  unfold proceed
  cases task : i.task with
  | watch file object debounceMs => exact absurd task (ends file object debounceMs)
  | _ => rfl

theorem invocation?_of_run? {environment : Environment} {store : Store} {arguments : List Text}
    {i : Invocation} {started : Started}
    (ran : run? environment store arguments = some (i, started)) :
    invocation? environment.bindings arguments = some i ∧
      started = (start environment store i).filter i.verbose := by
  obtain ⟨j, made, same⟩ := Option.map_eq_some_iff.1 ran
  cases same
  exact ⟨made, rfl⟩

theorem run?_of_invocation? {environment : Environment} {arguments : List Text} {i : Invocation}
    (made : invocation? environment.bindings arguments = some i) (store : Store) :
    run? environment store arguments = some (i, (start environment store i).filter i.verbose) := by
  rw [run?, made]
  rfl

/-- **A value set nearer to the user wins, each by itself.** The project's file goes before the global one
and that before the defaults; only the outcome has to make sense. A command takes over what was loaded.
Only the policy is replaced, by the last spelling on its command line or else by the variable's. -/
theorem settings_in_effect :
    (∀ complaint store global dir,
      Settings.Layered store global dir (Settings.load complaint store global dir).value) ∧
    ∀ environment store arguments i started, run? environment store arguments = some (i, started) →
      i.camelCase = (valuesOf "camel-case" (options arguments)).getLast?.or
          (environment.get? "STYLELINK_CAMEL_CASE") ∧
        ∀ r, (settings environment store i).value = .ok r →
          (i.camelCase = none → started = (proceed environment store i r).filter i.verbose) ∧
          ∀ spelling policy, i.camelCase = some spelling → Naming.Policy.parse? spelling = some policy →
            started = (proceed environment store i
              { r with settings := { r.settings with camelCase := policy } }).filter i.verbose := by
  refine ⟨Settings.layered_load, fun environment store arguments i started ran => ?_⟩
  obtain ⟨made, rfl⟩ := invocation?_of_run? ran
  refine ⟨(options_of_invocation? made).1, fun r loaded => ?_⟩
  rw [start_of_load loaded, withPolicy]
  refine ⟨fun absent => ?_, fun spelling policy given valid => ?_⟩
  · rw [absent]
  · rw [given]
    simp only [valid]

/-- The global file sets a delay of nothing that the project's file sets right, and the policy comes from
the command line. -/
theorem settings_in_effect_of_both :
    let store : Store := ⟨⟨"/app/src"⟩, [(["app"], .directory), (["app", "src"], .directory),
      (["g.yaml"], .file (Text.encode "debounceMs: 0\ncamelCase: dashesOnly")),
      (["app", ".stylelink.yaml"], .file (Text.encode "debounceMs: 20\ndocumentExtensions: [.vue]"))]⟩
    let environment : Environment := { bindings := [("STYLELINK_CAMEL_CASE", "off")] }
    let arguments : List Text := ["--config=/g.yaml", "config", "show", "--camel-case", "full"]
    ∃ (i : Invocation) (started : Started) (r : Resolved),
      run? environment store arguments = some (i, started) ∧
      r.settings = ⟨.dashesOnly, 20, ["vue"]⟩ ∧ started = (proceed environment store i
        { r with settings := { r.settings with camelCase := .full } }).filter i.verbose := by
  intro store environment arguments
  let i : Invocation := ⟨false, some ⟨"/g.yaml"⟩, some "full", "auto", .showConfig false⟩
  have made : invocation? environment.bindings arguments = some i := by decide +kernel
  have ran := run?_of_invocation? made store
  obtain ⟨layered, effect⟩ := settings_in_effect
  obtain ⟨-, runs⟩ := effect environment store arguments i _ ran
  have global : store.readText ⟨"/g.yaml"⟩ = .ok ("debounceMs: 0\ncamelCase: dashesOnly" : Text) := by
    decide +kernel
  let file : Path := Path.join ⟨"/app"⟩ Settings.projectFileName
  have project : store.readText file = .ok ("debounceMs: 20\ndocumentExtensions: [.vue]" : Text) := by
    decide +kernel
  -- one letter is enough; to decide it of the whole text would go through all characters there are
  have filled {t : Text} (first : t.head? = some 'd') : ¬Text.IsBlank t := fun blank =>
    absurd (blank 'd' (List.mem_of_head? first)) (by decide)
  have above : Settings.Governs store (some file) ⟨"/app"⟩ := .here (by decide +kernel)
  have governs : Settings.Governs store (some file) store.cwd :=
    .above (by decide +kernel) (by decide +kernel) above
  let named : Option Path := globalPath environment i
  obtain ⟨r, loaded, merged⟩ := (layered environment.complaint store named store.cwd).succeeds
    ⟨some .dashesOnly, some 0, none⟩ ⟨none, some 20, some [".vue"]⟩
    (.file (.written global (filled rfl) (by decide +kernel)))
    (.governed governs (.written project (filled rfl) (by decide +kernel))) (by decide)
  refine ⟨i, _, r, ran, ?_, (runs r loaded).2 "full" .full rfl (by decide +kernel)⟩
  obtain ⟨⟨policy, delay, extensions⟩, sources, warnings⟩ := r
  obtain ⟨rfl, rfl, rfl⟩ := merged
  rfl

end ClassNav.Command
