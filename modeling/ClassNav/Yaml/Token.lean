import ClassNav.Text.Basic

/-!
What a YAML text is read as before its nodes are known.
-/

namespace ClassNav.Yaml

/-- The tokens of a YAML text. Changes of indentation show as starts and ends of blocks. -/
inductive Token
  | versionDirective (major minor : Nat)
  | tagDirective (handle lead : Text)
  | documentStart
  | documentEnd
  | blockSequenceStart
  | blockMappingStart
  | blockEnd
  | flowSequenceStart
  | flowSequenceEnd
  | flowMappingStart
  | flowMappingEnd
  | blockEntry
  | flowEntry
  | key
  | value
  | alias (name : Text)
  | anchor (name : Text)
  | tag (handle suffix : Text)
  | scalar (plain : Bool) (text : Text)
  deriving DecidableEq, Repr

end ClassNav.Yaml
