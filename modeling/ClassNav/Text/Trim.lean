import ClassNav.Character.Blank
import ClassNav.Text.Basic

/-!
Blanks at the ends of a text.
-/

namespace ClassNav.Text

open Character

def trimStart (t : Text) : Text := t.dropWhile isBlank

def trimEnd (t : Text) : Text := (t.reverse.dropWhile isBlank).reverse

/-- Without the blanks at both ends. -/
def trim (t : Text) : Text := trimEnd (trimStart t)

def IsBlank (t : Text) : Prop := ∀ c ∈ t, isBlank c = true

instance (t : Text) : Decidable (IsBlank t) := inferInstanceAs (Decidable (∀ c ∈ t, _))

end ClassNav.Text
