import ClassNav.Json.Basic
import ClassNav.Settings.Basic

/-!
The JSON form of settings and of layers. What is written can be read back as a layer.
-/

namespace ClassNav

/-- Why a value is no layer. -/
inductive LayerError
  | unknownPolicy (spelling : Text)
  | wrongType
  deriving DecidableEq, Repr

def Naming.Policy.toJson (p : Naming.Policy) : Json := .string p.name

/-- A policy is written as a name or as a truth value. -/
def Naming.Policy.ofJson? : Json → Except LayerError Naming.Policy
  | .bool b => .ok (.ofBool b)
  | .string t =>
    match parse? t with
    | some p => .ok p
    | none => .error (.unknownPolicy t)
  | _ => .error .wrongType

def Settings.toJson (s : Settings) : Json :=
  .object [("camelCase", s.camelCase.toJson), ("debounceMs", .nat s.debounceMs.toNat),
    ("documentExtensions", .strings s.documentExtensions)]

namespace Layer

def toJson (l : Layer) : Json :=
  .object [("camelCase", .optional Naming.Policy.toJson l.camelCase),
    ("debounceMs", .optional (fun n => .nat n.toNat) l.debounceMs),
    ("documentExtensions", .optional .strings l.documentExtensions)]

def milliseconds? : Json → Except LayerError UInt64
  | .number (.integer n) =>
    if 0 ≤ n ∧ n.toNat < UInt64.size then .ok (.ofNat n.toNat) else .error .wrongType
  | _ => .error .wrongType

def text? : Json → Except LayerError Text
  | .string t => .ok t
  | _ => .error .wrongType

def texts? : Json → Except LayerError (List Text)
  | .array items => items.mapM text?
  | _ => .error .wrongType

/-- An absent or null value is left unset. -/
def unlessNull {α : Type} (read : Json → Except LayerError α) : Option Json → Except LayerError (Option α)
  | none => .ok none
  | some .null => .ok none
  | some j => (read j).map some

def ofParts? (camelCase debounceMs documentExtensions : Option Json) : Except LayerError Layer := do
  let policy ← unlessNull Naming.Policy.ofJson? camelCase
  let delay ← unlessNull milliseconds? debounceMs
  let extensions ← unlessNull texts? documentExtensions
  return ⟨policy, delay, extensions⟩

/-- A layer is an object, or an array of the values in order. Other keys are ignored. -/
def ofJson? : Json → Except LayerError Layer
  | .object fields =>
    let j := Json.object fields
    ofParts? (j.field? "camelCase") (j.field? "debounceMs") (j.field? "documentExtensions")
  | .array items => do
    let layer ← ofParts? items[0]? items[1]? items[2]?
    if items.length ≤ 3 then return layer else .error .wrongType
  | _ => .error .wrongType

end Layer

end ClassNav
