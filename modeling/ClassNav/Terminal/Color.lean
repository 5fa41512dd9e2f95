import ClassNav.Text.Trim

/-!
Whether output is colored.
-/

namespace ClassNav.Terminal

/-- When output is colored. -/
inductive ColorMode
  | always
  | never
  | auto
  deriving DecidableEq, Repr

namespace ColorMode

def name : ColorMode → Text
  | always => "always"
  | never => "never"
  | auto => "auto"

/-- Blanks around the word and its case do not matter. -/
def parse? (t : Text) : Option ColorMode :=
  [always, never, auto].find? fun m => m.name == Text.lowerAscii (Text.trim t)

/-- `auto` colors a terminal unless colors are declined. -/
def enabled (declined terminal : Bool) : ColorMode → Bool
  | always => true
  | never => false
  | auto => !declined && terminal

end ColorMode

end ClassNav.Terminal
