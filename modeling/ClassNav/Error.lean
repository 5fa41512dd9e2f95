import ClassNav.Path.Basic

/-!
What can go wrong. A lookup that finds nothing is no failure; failures are left to settings, to
documents asked for by the user, to cursors outside them and to the appending of a rule.
-/

namespace ClassNav

/-- Why the file system refused. -/
inductive FileError
  | notFound
  | isDirectory
  | notDirectory
  | nameTooLong
  | nulInName
  | notText
  | other (description : Text)
  deriving DecidableEq, Repr

def FileError.message : FileError → Text
  | notFound => "No such file or directory (os error 2)"
  | isDirectory => "Is a directory (os error 21)"
  | notDirectory => "Not a directory (os error 20)"
  | nameTooLong => "File name too long (os error 36)"
  | nulInName => "file name contained an unexpected NUL byte"
  | notText => "stream did not contain valid UTF-8"
  | other description => description

inductive Failure
  | invalidGlobalSettings (detail : Text)
  | invalidProjectSettings (detail : Text)
  | invalidValue (problem hint : Text)
  | unknownPolicy (spelling : Text)
  | unreadableDocument (path : Path) (cause : FileError)
  | unwritableStylesheet (path : Path) (cause : FileError)
  | outsideDocument (line column : Nat)
  | malformedJson (detail : Text)
  /-- A failure of the surroundings: what was being done, and beneath it what went wrong. -/
  | outside (context : Text) (causes : List Text)
  deriving DecidableEq, Repr

namespace Failure

def message : Failure → Text
  | invalidGlobalSettings detail => "Global config invalid: ".toList ++ detail
  | invalidProjectSettings detail => "Project config invalid: ".toList ++ detail
  | invalidValue problem hint =>
    "Invalid configuration: ".toList ++ problem ++ ". ".toList ++ hint
  | unknownPolicy spelling =>
    "Unknown camel-case policy `".toList ++ spelling ++
      "`. Use `off`, `full`, or `dashesOnly`.".toList
  | unreadableDocument path cause =>
    "Failed to read document `".toList ++ path.text ++ "`: ".toList ++ cause.message
  | unwritableStylesheet path cause =>
    "Failed to scaffold class in `".toList ++ path.text ++ "`: ".toList ++ cause.message
  | outsideDocument line column =>
    "Position ".toList ++ Text.decimal line ++ ":".toList ++ Text.decimal column ++
      " is outside the document".toList
  | malformedJson detail => "JSON error: ".toList ++ detail
  | outside context _ => context

/-- The causes beneath a failure, outermost first. -/
def causes : Failure → List Text
  | unreadableDocument _ cause => [cause.message]
  | unwritableStylesheet _ cause => [cause.message]
  | malformedJson detail => [detail]
  | outside _ causes => causes
  | _ => []

end Failure

end ClassNav
