import ClassNav.Engine.Basic
import ClassNav.Stylesheet.Block

/-!
Appending empty rules to stylesheets. The tree changes only where a rule is written.
-/

namespace ClassNav

/-- A stylesheet that was written to, and the tree afterwards. -/
structure Written where
  stylesheet : Path
  store : Store

namespace Engine

/-- An empty rule at the end of an existing stylesheet. -/
def scaffold (store : Store) (p : Path) (name : Text) : Logged (Except Failure Store) :=
  match store.append p (Stylesheet.emptyRule name) with
  | .error e => pure (.error (.unwritableStylesheet p e))
  | .ok store => do
    Logged.note .info ("Scaffolded .".toList ++ name ++ " in ".toList ++ p.text)
    return .ok store

/-- A rule for the class of the reference, unless it is declared. A field with a dot in it names no
class. -/
def createFor (policy : Naming.Policy) (store : Store) (d : Document) (r : Reference) :
    Logged (Except Failure (Option Written)) :=
  if r.field = [] ∨ '.' ∈ r.field then pure (.ok none)
  else do
    match ← stylesheetOf? store d.text r.object d.baseDir with
    | none => return .ok none
    | some sheet =>
      match ← position? store sheet r.field policy with
      | some _ =>
        Logged.note .debug (['.'] ++ r.field ++ " already exists in ".toList ++ sheet.text)
        return .ok none
      | none =>
        match ← scaffold store sheet r.field with
        | .error e => return .error e
        | .ok store => return .ok (some ⟨sheet, store⟩)

/-- A rule for the class referenced at a cursor, unless it is declared. -/
def createMissing (e : Engine) (store : Store) (d : Document) (line column : Nat) :
    Logged (Except Failure (Option Written)) :=
  match d.cursor line column with
  | .error failure => pure (.error failure)
  | .ok c =>
    match c.reference? with
    | none => pure (.ok none)
    | some r => createFor e.policy store d r

end Engine

end ClassNav
