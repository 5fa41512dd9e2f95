import ClassNav.Note
import ClassNav.Terminal.Style

/-!
What a program prints: text on two streams, and the lines of its log.
-/

namespace ClassNav

structure Output where
  stdout : Text
  stderr : Text
  notes : List Note
  deriving DecidableEq, Repr

namespace Output

def none : Output := ⟨[], [], []⟩

def out (t : Text) : Output := ⟨t, [], []⟩

def err (t : Text) : Output := ⟨[], t, []⟩

def log (notes : List Note) : Output := ⟨[], [], notes⟩

instance : Append Output where
  append a b := ⟨a.stdout ++ b.stdout, a.stderr ++ b.stderr, a.notes ++ b.notes⟩

end Output

namespace Note

def levelName : Level → Text
  | .debug => "DEBUG"
  | .info => "INFO"
  | .warn => "WARN"

/-- Control characters that would steer a terminal are spelled out in the log. -/
def printable (c : Char) : Text :=
  if c = '\x1b' then "\\x1b"
  else if c = '\x07' then "\\x07"
  else if c = '\x08' then "\\x08"
  else if c = '\x0c' then "\\x0c"
  else if c = '\x7f' then "\\x7f"
  else if 0x80 ≤ c.toNat ∧ c.toNat ≤ 0x9F then
    "\\u\x7b".toList ++ Nat.toDigits 16 c.toNat ++ ['\x7d']
  else [c]

/-- Warnings are always logged, other notes on demand. -/
def shown (verbose : Bool) (n : Note) : Bool := verbose || n.level == .warn

def logLine (n : Note) : Text := levelName n.level ++ ' ' :: n.text.flatMap printable

end Note

end ClassNav
