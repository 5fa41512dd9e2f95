import ClassNav.Naming.Words
import ClassNav.Text.Lowercase

/-!
Camel case over every word boundary. Accents of Latin-1 letters, combining marks and apostrophes go
first; then the words are joined, each but the first with a raised initial.
-/

namespace ClassNav.Naming

/-- Basic spellings of the letters of Latin-1, by closed ranges. -/
def basicSpellings : List (Char × Char × String) := [
    ('À', 'Å', "A"), ('à', 'å', "a"), ('Ç', 'Ç', "C"), ('ç', 'ç', "c"), ('Ð', 'Ð', "D"),
    ('ð', 'ð', "d"), ('È', 'Ë', "E"), ('è', 'ë', "e"), ('Ì', 'Ï', "I"), ('ì', 'ï', "i"),
    ('Ñ', 'Ñ', "N"), ('ñ', 'ñ', "n"), ('Ò', 'Ö', "O"), ('Ø', 'Ø', "O"), ('ò', 'ö', "o"),
    ('ø', 'ø', "o"), ('Ù', 'Ü', "U"), ('ù', 'ü', "u"), ('Ý', 'Ý', "Y"), ('ý', 'ý', "y"),
    ('ÿ', 'ÿ', "y"), ('Æ', 'Æ', "Ae"), ('æ', 'æ', "ae"), ('Þ', 'Þ', "Th"), ('þ', 'þ', "th"),
    ('ß', 'ß', "ss")]

/-- Letters outside Latin-1 keep their spelling. -/
def basicSpelling (c : Char) : Text :=
  if c.toNat < 0xC0 ∨ 0xFF < c.toNat then [c]
  else
    match basicSpellings.find? fun (first, last, _) => decide (first ≤ c ∧ c ≤ last) with
    | some (_, _, spelling) => spelling
    | none => [c]

/-- Apostrophes and combining marks leave no trace, not even a word boundary. -/
def isSilent (c : Char) : Bool :=
  c == '\'' || c == '’' || (decide (0x300 ≤ c.toNat) && decide (c.toNat ≤ 0x36F))

def simplify (t : Text) : Text := (t.filter fun c => !isSilent c).flatMap basicSpelling

def joinWords : List Text → Text
  | [] => []
  | first :: rest => Text.lowercase first ++ rest.flatMap Text.capitalize

def camelCase (t : Text) : Text := joinWords (words (simplify t))

end ClassNav.Naming
