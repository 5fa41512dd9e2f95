import ClassNav.Command.Run

/-!
The files that a command may look at, so that they can be fetched before it runs.
-/

namespace ClassNav.Command

/-- The places passed through on the way along a path, the last one included. -/
def passed (cwd p : Path) : List Location :=
  ((cwd.join p.text).steps.foldl
    (fun (l, seen) step => (Location.step l step, seen ++ [Location.step l step]))
    (([] : Location), [])).2

/-- The settings files that can count in a directory. -/
def settingsFiles (environment : Environment) (i : Invocation) (cwd : Path) : List Path :=
  (globalPath environment i).toList ++ cwd.ancestors.map fun d => d.join Settings.projectFileName

/-- The file that a task names. -/
def Task.file? : Task → Option Path
  | .definition file _ _ _ => some file
  | .classes sheet _ _ => some sheet
  | .complete file _ _ _ => some file
  | .missing file _ _ => some file
  | .createClass file _ _ => some file
  | .scaffold sheet _ => some sheet
  | .watch file _ _ => some file
  | .showConfig _ => none

/-- Every stylesheet name that an import with any key at all could have. -/
def specifiers : Text → List Text
  | [] => []
  | c :: r =>
    match Import.afterKey? (c :: r) with
    | some (name, _) => name :: specifiers r
    | none => specifiers r

/-- The stylesheets that a document could lead to. -/
def stylesheets (store : Store) (file : Path) : List Path :=
  match store.canonical file, store.readText file with
  | .ok whole, .ok text =>
    let resolved (d : Document) := (specifiers text).map fun s => Path.resolve store.cwd d.baseDir s
    resolved ⟨file, text⟩ ++ resolved ⟨whole, text⟩
  | _, _ => []

end ClassNav.Command
