import ClassNav.Note
import ClassNav.Settings.Written
import ClassNav.Store.Basic

/-!
Settings from two files over the defaults: a global one, and one of the project, which is looked for in
a directory and those above it.
-/

namespace ClassNav

/-- A settings file that was looked for. -/
structure Source where
  name : Text
  path : Path
  found : Bool
  deriving DecidableEq, Repr

/-- Settings with the files they come from, the weakest first, and what is odd about them. -/
structure Resolved where
  settings : Settings
  sources : List Source
  warnings : List Text
  deriving DecidableEq, Repr

namespace Settings

def projectFileName : Text := ".stylelink.yaml"

def globalPath (home : Path) : Path := (home.join ".stylelink").join "config.yaml"

/-- The settings file in the directory or the nearest one above it. -/
def projectPath? (store : Store) (dir : Path) : Option Path :=
  (dir.ancestors.map fun d => d.join projectFileName).find? store.isFile

section
variable (complaint : Text → Text) (store : Store)

/-- The layer of a settings file, none if there is no such file. A blank file sets nothing. The `complaint` is
what a reader of YAML says against a text that it refuses. -/
def readLayer (p : Path) (fail : Text → Failure) : Logged (Except Failure (Option Layer)) :=
  if store.has p then
    match store.readText p with
    | .error e =>
      pure (.error (fail ("Failed to read ".toList ++ p.text ++ ": ".toList ++ e.message)))
    | .ok content =>
      if Text.IsBlank content then pure (.ok (some .empty))
      else
        match Layer.ofYaml? content with
        | some layer => pure (.ok (some layer))
        | none =>
          pure (.error (fail ("Failed to parse ".toList ++ p.text ++ ": ".toList ++ complaint content)))
  else do
    Logged.note .debug ("Config not found at ".toList ++ p.text ++ ", skipping".toList)
    return .ok none

/-- The layer of a settings file that has a place, and that place. -/
def readAt (p : Path) (fail : Text → Failure) : Logged (Except Failure (Option (Path × Option Layer))) := do
  match ← readLayer complaint store p fail with
  | .error e => return .error e
  | .ok layer => return .ok (some (p, layer))

/-- The global layer and its place. There is none without a home directory. -/
def readGlobal : Option Path → Logged (Except Failure (Option (Path × Option Layer)))
  | some p => readAt complaint store p .invalidGlobalSettings
  | none => do
    Logged.note .debug "Could not determine home directory, skipping global config"
    return .ok none

/-- The layer of the project and where it was found. -/
def readProject (dir : Path) : Logged (Except Failure (Option (Path × Option Layer))) :=
  match projectPath? store dir with
  | none => pure (.ok none)
  | some p => readAt complaint store p .invalidProjectSettings

end

/-- Settings validated, every warning also noted. -/
def finish (settings : Settings) (sources : List Source) : Logged (Except Failure Resolved) :=
  match settings.validate with
  | .error e => pure (.error e)
  | .ok warnings =>
    ⟨.ok ⟨settings, sources, warnings⟩,
      warnings.map fun w => ⟨.warn, "Config warning: ".toList ++ w⟩⟩

/-- The settings in effect in a directory. -/
def load (complaint : Text → Text) (store : Store) (global : Option Path) (dir : Path) :
    Logged (Except Failure Resolved) := do
  match ← readGlobal complaint store global with
  | .error e => return .error e
  | .ok global =>
    match ← readProject complaint store dir with
    | .error e => return .error e
    | .ok project =>
      let globalLayer := (global.bind (·.2)).getD .empty
      let projectLayer := (project.bind (·.2)).getD .empty
      finish ((default.apply globalLayer).apply projectLayer) <|
        (global.toList.map fun (p, layer) => ⟨"global", p, layer.isSome⟩) ++
          project.toList.map fun (p, _) => ⟨"project", p, true⟩

end Settings

end ClassNav
