import ClassNav.Text.Basic

/-!
JSON values. Fields keep their order.
-/

namespace ClassNav

/-- A number is an integer that fits a machine word of 64 bits, with or without sign, or else is kept
as written. -/
inductive JsonNumber
  | integer (value : Int)
  | decimal (literal : Text)
  deriving DecidableEq, Repr

inductive Json
  | null
  | bool (value : Bool)
  | number (value : JsonNumber)
  | string (value : Text)
  | array (items : List Json)
  | object (fields : List (Text × Json))

namespace Json

def nat (n : Nat) : Json := number (.integer n)

def strings (ts : List Text) : Json := array (ts.map string)

def optional {α : Type} (write : α → Json) : Option α → Json
  | none => null
  | some a => write a

/-- Of two fields with one key the later counts. -/
def field? (key : Text) : Json → Option Json
  | object fields => fields.reverse.lookup key
  | _ => none

end Json

end ClassNav
