import ClassNav.Naming.Camel
import ClassNav.Naming.Dashes
import ClassNav.Text.Trim

/-!
How the property names of a stylesheet module relate to its class selectors.
-/

namespace ClassNav.Naming

inductive Policy
  | off
  | full
  | dashesOnly
  deriving DecidableEq, Repr

namespace Policy

def name : Policy → Text
  | off => "off"
  | full => "full"
  | dashesOnly => "dashesOnly"

/-- Every spelling a setting may use, in lower case. -/
def spellings : List (Text × Policy) := [
    ("off", off), ("false", off), ("none", off),
    ("full", full), ("true", full), ("on", full),
    ("dashesonly", dashesOnly), ("dashes-only", dashesOnly), ("dashes", dashesOnly)]

/-- Blanks around a spelling and its case do not matter. -/
def parse? (t : Text) : Option Policy := spellings.lookup (Text.lowerAscii (Text.trim t))

def ofBool (transforming : Bool) : Policy := if transforming then full else off

def transforms (p : Policy) : Bool := decide (p ≠ off)

/-- The property name, or the searched form of a line, under the policy. -/
def transform : Policy → Text → Text
  | off, t => t
  | full, t => camelCase t
  | dashesOnly, t => joinDashes t

theorem parse?_name (p : Policy) : parse? p.name = some p := by
  cases p <;> decide

end Policy

end ClassNav.Naming
