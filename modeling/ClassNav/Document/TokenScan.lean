import ClassNav.Document.LineIndex
import ClassNav.Document.Reference
import ClassNav.Text.Bytes

/-!
The token at a byte offset, found among the bytes of a line. The bytes around the offset are gone through
one by one, and the line is cut where they end, which may fail.
-/

namespace ClassNav.TokenScan

/-- The byte of an ASCII letter or digit, a dot or an underscore. -/
def isTokenByte (b : UInt8) : Bool :=
  decide ('0'.toUInt8 ≤ b ∧ b ≤ '9'.toUInt8) || decide ('A'.toUInt8 ≤ b ∧ b ≤ 'Z'.toUInt8) ||
    decide ('a'.toUInt8 ≤ b ∧ b ≤ 'z'.toUInt8) || b == '.'.toUInt8 || b == '_'.toUInt8

/-- Back from an offset, as far as token bytes go. -/
def first (bytes : ByteArray) : (offset : Nat) → offset ≤ bytes.size → Nat
  | 0, _ => 0
  | n + 1, inside => if isTokenByte bytes[n] then first bytes n (Nat.le_of_lt inside) else n + 1

/-- On from an offset, as far as token bytes go. -/
def last (bytes : ByteArray) (offset : Nat) : Nat :=
  offset + ((bytes.data.toList.drop offset).takeWhile isTokenByte).length

/-- The token around an offset of the line. The outer option is empty if a cut is not between two
characters, the inner one if there is no token. -/
def token? (line : Text) (offset : Nat) : Option (Option Text) :=
  if inside : offset ≤ (Text.encode line).size ∧ (Text.splitAt? line offset).isSome then
    let first := first (Text.encode line) offset inside.1
    (Text.slice? line first offset).bind fun part =>
      if '.' ∈ part then (Text.slice? line first (last (Text.encode line) first)).map some
      else some none
  else some none

def reference? (line : Text) (offset : Nat) : Option (Option Reference) :=
  (token? line offset).map (·.bind Reference.ofToken?)

end ClassNav.TokenScan
