import ClassNav.Text.Basic

/-!
Messages for a terminal, plain or colored. Color is put around parts of a message and never changes
its text.
-/

namespace ClassNav.Terminal

inductive Color
  | red
  | green
  | yellow
  | blue
  | cyan
  deriving DecidableEq, Repr

/-- A switch of the terminal's pen. -/
inductive Pen
  | color (c : Color)
  | plainColor
  | bold
  | dim
  | plain
  deriving DecidableEq, Repr

def Pen.code : Pen → Nat
  | color .red => 31
  | color .green => 32
  | color .yellow => 33
  | color .blue => 34
  | color .cyan => 36
  | plainColor => 39
  | bold => 1
  | dim => 2
  | plain => 0

def Pen.sequence (p : Pen) : Text := '\x1b' :: '[' :: Text.decimal p.code ++ ['m']

inductive Severity
  | ok
  | err
  | warn
  | info
  | hint
  deriving DecidableEq, Repr

namespace Severity

def label : Severity → Text
  | ok => "[ok]"
  | err => "[err]"
  | warn => "[warn]"
  | info => "[info]"
  | hint => "[hint]"

def color : Severity → Color
  | ok => .green
  | err => .red
  | warn => .yellow
  | info => .blue
  | hint => .cyan

end Severity

structure Style where
  colored : Bool
  deriving DecidableEq, Repr

namespace Style

/-- The text between two switches of the pen, if output is colored. -/
def between (s : Style) (first last : Pen) (t : Text) : Text :=
  if s.colored then first.sequence ++ t ++ last.sequence else t

def message (s : Style) (severity : Severity) (t : Text) : Text :=
  s.between (.color severity.color) .plainColor severity.label ++ ' ' :: t

/-- An error with, on lines of their own, its cause and a hint. -/
def failure (s : Style) (t : Text) (cause hint : Option Text) : Text :=
  let detail (label : Text) : Option Text → Text
    | none => []
    | some d => "\n      ".toList ++ label ++ ": ".toList ++ d
  s.message .err t ++ detail "Cause" cause ++ detail "Hint" hint

def heading (s : Style) (title : Text) : Text := s.between .bold .plain title

def keyValue (s : Style) (key value : Text) : Text :=
  s.between .dim .plain key ++ ": ".toList ++ value

def filePath (s : Style) (path : Text) : Text := s.between (.color .cyan) .plainColor path

/-- The form that editors turn into a link. -/
def location (s : Style) (path : Text) (line column : Nat) : Text :=
  s.filePath path ++ ':' :: Text.decimal line ++ ':' :: Text.decimal column

end Style

end ClassNav.Terminal
