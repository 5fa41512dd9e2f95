import ClassNav.Path.Resolve

/-!
Paths without detours, built from the steps of a path one after another.
-/

namespace ClassNav.Path

/-- The path with one step more. A dot adds nothing, and two dots take the last step off, but not the root. -/
def push (p : Path) : Step → Path
  | .root => p.join ['/']
  | .here => p
  | .up =>
    match p.steps.getLast? with
    | none | some .root => p
    | some _ => p.parent?.getD p
  | .name n => p.join n

def normalize (p : Path) : Path := p.steps.foldl push ⟨[]⟩

/-- A relative path is seen from the working directory. -/
def anchored (cwd p : Path) : Path := if p.isAbsolute then p else cwd.join p.text

end ClassNav.Path
