import ClassNav.Document.Usage

/-!
Usages of classes that are not declared.
-/

namespace ClassNav

/-- A usage of an undeclared class, and what is offered for it. -/
structure MissingClass where
  usage : Usage
  hoverMessage : Text
  deriving DecidableEq, Repr

namespace MissingClass

def offer (name : Text) : Text :=
  "Create class .".toList ++ name ++ " (stylelink create-class)".toList

def ofUsage (u : Usage) : MissingClass := ⟨u, offer u.name⟩

/-- The usages of `object` whose names are not declared, in order. -/
def all (object text : Text) (declared : List Text) : List MissingClass :=
  ((Usage.all object text).filter fun u => !declared.contains u.name).map ofUsage

end MissingClass

end ClassNav
