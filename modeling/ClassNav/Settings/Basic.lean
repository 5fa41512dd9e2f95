import ClassNav.Error
import ClassNav.Naming.Policy

/-!
Settings and the layers they are built from. A layer sets some of the values and leaves the others to
the layers beneath it.
-/

namespace ClassNav

structure Settings where
  camelCase : Naming.Policy
  debounceMs : UInt64
  documentExtensions : List Text
  deriving DecidableEq, Repr

/-- What one settings file sets. -/
structure Layer where
  camelCase : Option Naming.Policy
  debounceMs : Option UInt64
  documentExtensions : Option (List Text)
  deriving DecidableEq, Repr

namespace Layer

def empty : Layer := ⟨none, none, none⟩

/-- `upper` over `lower`, value by value. -/
def onto (upper lower : Layer) : Layer where
  camelCase := upper.camelCase.or lower.camelCase
  debounceMs := upper.debounceMs.or lower.debounceMs
  documentExtensions := upper.documentExtensions.or lower.documentExtensions

end Layer

namespace Settings

def default : Settings := ⟨.off, 500, ["js", "jsx", "tsx"]⟩

/-- Extensions may be listed with their dots. -/
def bareExtension (e : Text) : Text := e.dropWhile (· = '.')

def apply (s : Settings) (l : Layer) : Settings where
  camelCase := l.camelCase.getD s.camelCase
  debounceMs := l.debounceMs.getD s.debounceMs
  documentExtensions :=
    (l.documentExtensions.map fun es => es.map bareExtension).getD s.documentExtensions

/-- The warnings about settings that work, or the reason why they cannot. -/
def validate (s : Settings) : Except Failure (List Text) :=
  if s.debounceMs = 0 then
    .error (.invalidValue "debounceMs must be greater than 0"
      "Set debounceMs to a positive number of milliseconds (default 500)")
  else if s.documentExtensions = [] then
    .ok ["documentExtensions is empty; every document will be reported as unsupported"]
  else .ok []

/-- Whether the path has one of the document extensions, in any case. -/
def supports (s : Settings) (p : Path) : Bool :=
  match p.extension? with
  | none => false
  | some e => s.documentExtensions.any fun extension => Text.sameAscii extension e

end Settings

end ClassNav
