import ClassNav.Path.Basic

/-!
Resolution of a path against a directory, by its text alone.
-/

namespace ClassNav

/-- A place in the file tree: the names from the root down. -/
abbrev Location := List Text

namespace Location

/-- Going up from the root stays there. -/
def step (l : Location) : Path.Step → Location
  | .root => []
  | .here => l
  | .up => l.dropLast
  | .name n => l ++ [n]

def ofSteps (steps : List Path.Step) : Location := steps.foldl step []

def path (l : Location) : Path := ⟨'/' :: Text.joinWith ['/'] l⟩

end Location

namespace Path

def location (p : Path) : Location := Location.ofSteps p.steps

/-- The absolute path of `spec` seen from `base`, which is itself seen from `cwd`. -/
def resolve (cwd base : Path) (spec : Text) : Path :=
  ((cwd.join (base.join spec).text).location).path

end Path

end ClassNav
