import ClassNav.Text.Basic

/-!
File paths as written. A path keeps its spelling; its steps are what the spelling means.
-/

namespace ClassNav

structure Path where
  text : Text
  deriving DecidableEq, Repr

namespace Path

/-- One step of reading a path from left to right. -/
inductive Step
  | root
  | here
  | up
  | name (n : Text)
  deriving DecidableEq, Repr

def ofString (s : String) : Path := ⟨s.toList⟩

def isAbsolute (p : Path) : Bool := p.text.head? == some '/'

/-- The step of one part between slashes. Empty parts and dots mean no step. -/
def stepOf? (part : Text) : Option Step :=
  if part = [] ∨ part = ['.'] then none
  else if part = ['.', '.'] then some .up
  else some (.name part)

/-- A leading dot of a relative path is a step of its own, other dots are none. -/
def steps (p : Path) : List Step :=
  let parts := p.text.splitOn '/'
  let lead := if p.isAbsolute then [.root] else if parts.head? = some ['.'] then [.here] else []
  lead ++ parts.filterMap stepOf?

/-- The same way, however it is spelled. -/
def same (p q : Path) : Bool := p.steps == q.steps

/-- The path of `spec` seen from `base`: an absolute `spec` stands for itself. -/
def join (base : Path) (spec : Text) : Path :=
  if spec.head? = some '/' then ⟨spec⟩
  else if base.text = [] ∨ base.text.getLast? = some '/' then ⟨base.text ++ spec⟩
  else ⟨base.text ++ '/' :: spec⟩

/-- The part that neither loses its last step nor is cut: the root, or a leading dot. -/
def anchor (p : Path) : Text :=
  if p.isAbsolute then ['/']
  else if (p.text.splitOn '/').head? = some ['.'] then ['.']
  else []

def dropIdle (parts : List Text) : List Text :=
  (parts.reverse.dropWhile fun part => (stepOf? part).isNone).reverse

/-- The parts after the anchor, without idle parts at the end. -/
def body (p : Path) : List Text := dropIdle ((p.text.drop p.anchor.length).splitOn '/')

/-- The path without its last step. The root and the empty path have no parent. -/
def parent? (p : Path) : Option Path :=
  if p.body = [] then if p.anchor = ['.'] then some ⟨[]⟩ else none
  else some ⟨p.anchor ++ Text.joinWith ['/'] (dropIdle p.body.dropLast)⟩

/-- What follows the last dot of the last name. A name has none if that dot opens it. -/
def extension? (p : Path) : Option Text :=
  match p.body.getLast? with
  | none => none
  | some name =>
    if name = ['.', '.'] then none
    else
      match name.reverse.dropWhile (· ≠ '.') with
      | [] => none
      | [_] => none
      | _ :: _ => some (name.reverse.takeWhile (· ≠ '.')).reverse

/-- The path, its parent, and so on. -/
def ancestors (p : Path) : List Path :=
  match p.parent? with
  | none => [p]
  | some q => if q.text.length < p.text.length then p :: ancestors q else [p]
termination_by p.text.length

end Path

end ClassNav
