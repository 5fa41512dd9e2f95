import ClassNav.Character.Uppercase
import ClassNav.Text.Basic

/-!
Words of a text: runs of letters and runs of digits, with a new word at every hump of case. An
ordinal such as `1st` or `22ND` is one word.
-/

namespace ClassNav.Naming

open Character

/-- What a character is to the word splitter. A `boundary` belongs to no word. -/
inductive Kind
  | upper
  | lower
  | digit
  | boundary
  deriving DecidableEq, Repr

/-- Latin-1 symbols and general punctuation are boundaries, as is every ASCII character that is
neither letter nor digit. All else that is not upper case counts as lower case. -/
def kind (c : Char) : Kind :=
  if c.isDigit then .digit
  else if (0x80 ≤ c.toNat ∧ c.toNat ≤ 0xBF) ∨ c = '×' ∨ c = '÷' ∨
      (0x2000 ≤ c.toNat ∧ c.toNat ≤ 0x206F) then .boundary
  else if isUppercase c then .upper
  else if c.toNat < 128 ∧ ¬ c.isAlpha then .boundary
  else .lower

/-- The longest beginning of one kind. -/
def run (k : Kind) (t : Text) : Text := t.takeWhile fun c => decide (kind c = k)

def afterRun (k : Kind) (t : Text) : Text := t.dropWhile fun c => decide (kind c = k)

theorem run_append_afterRun (k : Kind) (t : Text) : run k t ++ afterRun k t = t :=
  List.takeWhile_append_dropWhile

/-- The two letters that make a number ending in `last` an ordinal. -/
def ordinalLetters (last : Char) : Text :=
  if last = '1' then "st" else if last = '2' then "nd" else if last = '3' then "rd" else "th"

/-- What may stand after an ordinal: a boundary, the end, or a letter of the other case. -/
def endsOrdinal (capital : Bool) : Text → Bool
  | [] => true
  | c :: _ =>
    match kind c with
    | .boundary => true
    | .lower => capital
    | .upper => !capital
    | .digit => false

/-- The two letters after a number ending in `last` that belong to it, or nothing. -/
def ordinalSuffix (last : Char) : Text → Text
  | a :: b :: rest =>
    let capital := a.isUpper && b.isUpper
    if Text.lowerAscii [a, b] = ordinalLetters last ∧ (capital ∨ (a.isLower ∧ b.isLower)) ∧
        endsOrdinal capital rest then [a, b]
    else []
  | _ => []

/-- The first word of a text that does not begin with a boundary. The last capital of a run opens
the next word when lower case follows it. -/
def firstWord (t : Text) : Text :=
  match t with
  | [] => []
  | c :: _ =>
    match kind c with
    | .boundary => []
    | .digit => run .digit t ++ ordinalSuffix ((run .digit t).getLastD c) (afterRun .digit t)
    | .lower => run .lower t
    | .upper =>
      let capitals := run .upper t
      let small := run .lower (afterRun .upper t)
      if small.isEmpty then capitals
      else if capitals.length = 1 then capitals ++ small
      else capitals.dropLast

/-- The words of a text, in order. -/
def words : Text → List Text
  | [] => []
  | c :: r =>
    if kind c = .boundary then words r
    else firstWord (c :: r) :: words (r.drop ((firstWord (c :: r)).length - 1))
termination_by t => t.length
decreasing_by
  · simp
  · simp only [List.length_drop, List.length_cons]; omega

end ClassNav.Naming
