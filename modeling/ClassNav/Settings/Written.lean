import ClassNav.Settings.Basic
import ClassNav.Yaml.Node

/-!
Settings as written in a YAML file: a mapping with any of the known keys, or a sequence of their values
in order. What a plain scalar says depends on its spelling, a quoted one is always text.
-/

namespace ClassNav

namespace Yaml

def isNullWord (t : Text) : Bool :=
  t ∈ (["~", "null", "Null", "NULL"] : List Text)

def boolWord? (t : Text) : Option Bool :=
  if t ∈ (["true", "True", "TRUE"] : List Text) then some true
  else if t ∈ (["false", "False", "FALSE"] : List Text) then some false
  else none

def standardTag (name : String) : Text := ("tag:yaml.org,2002:" ++ name).toList

/-- The number that digits of a base write, if there are digits and nothing else. -/
def basedNumber? (base : Nat) (digits : Text) : Option Nat :=
  if digits.isEmpty then none
  else
    digits.foldl (fun n c => n.bind fun n => (Json.hexValue? c).bind fun d =>
      if d < base then some (n * base + d) else none) (some 0)

/-- An integer as a plain scalar spells it. Leading zeros make it no number. -/
def natural? (t : Text) : Option Nat :=
  let t := (Text.stripPrefix? ['+'] t).getD t
  let based (lead : String) (base : Nat) : Option Nat :=
    (Text.stripPrefix? lead.toList t).bind (basedNumber? base)
  (based "0x" 16).or <| (based "0o" 8).or <| (based "0b" 2).or <|
    if 1 < t.length ∧ t.head? = some '0' then none else basedNumber? 10 t

end Yaml

namespace Layer

open Yaml

/-- Whether a value is left unset. Quoted text never is. A tag that says null admits nothing else. -/
def isUnset? : Node → Option Bool
  | .scalar tag plain text =>
    if plain = false then some false
    else if tag = some (standardTag "null") then if isNullWord text then some true else none
    else if tag.isSome then some false
    else some (text.isEmpty || isNullWord text)
  | _ => some false

/-- A policy is a truth value or a spelling. A tag of a kind of its own is refused. -/
def policy? : Node → Option Naming.Policy
  | .scalar none true text =>
    match boolWord? text with
    | some b => some (.ofBool b)
    | none => Naming.Policy.parse? text
  | .scalar none false text => Naming.Policy.parse? text
  | .scalar (some tag) _ text =>
    if tag.head? = some '!' then none
    else if tag = standardTag "bool" then (boolWord? text).map .ofBool
    else if tag ∈ [standardTag "int", standardTag "float", standardTag "null"] then none
    else Naming.Policy.parse? text
  | _ => none

def delay? : Node → Option UInt64
  | .scalar _ true text =>
    (natural? text).bind fun n => if n < UInt64.size then some (.ofNat n) else none
  | _ => none

/-- Any scalar is taken as its text. -/
def word? : Node → Option Text
  | .scalar _ _ text => some text
  | _ => none

/-- A plain scalar without text counts as an empty list. -/
def words? : Node → Option (List Text)
  | .sequence items => items.mapM word?
  | .scalar _ true [] => some []
  | _ => none

def setting? {α : Type} (read : Node → Option α) (n : Node) : Option (Option α) :=
  (isUnset? n).bind fun unset => if unset then some none else (read n).map some

/-- The value of a known key, which may be written once only. -/
def known? {α : Type} (read : Node → Option α) (key : String) (pairs : List (Text × Node)) :
    Option (Option α) :=
  match pairs.filter fun pair => pair.1 == key.toList with
  | [] => some none
  | [(_, n)] => setting? read n
  | _ => none

def ofPairs? (pairs : List (Node × Node)) : Option Layer :=
  (pairs.mapM fun pair => (word? pair.1).map fun key => (key, pair.2)).bind fun pairs =>
    (known? policy? "camelCase" pairs).bind fun camelCase =>
      (known? delay? "debounceMs" pairs).bind fun debounceMs =>
        (known? words? "documentExtensions" pairs).map fun documentExtensions =>
          ⟨camelCase, debounceMs, documentExtensions⟩

def ofItems? (items : List Node) : Option Layer :=
  let item {α : Type} (read : Node → Option α) (i : Nat) : Option (Option α) :=
    match items[i]? with
    | some n => setting? read n
    | none => some none
  if 3 < items.length then none
  else
    (item policy? 0).bind fun camelCase =>
      (item delay? 1).bind fun debounceMs =>
        (item words? 2).map fun documentExtensions => ⟨camelCase, debounceMs, documentExtensions⟩

def ofNode? : Node → Option Layer
  | .mapping pairs => ofPairs? pairs
  | .sequence items => ofItems? items
  | .scalar _ true [] => some .empty
  | _ => none

/-- The layer that a settings file writes. A file without a document sets nothing. -/
def ofYaml? (t : Text) : Option Layer :=
  match Yaml.parse? t with
  | none => none
  | some none => some .empty
  | some (some n) => ofNode? n

end Layer

end ClassNav
