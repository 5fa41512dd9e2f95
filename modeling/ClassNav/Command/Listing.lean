import ClassNav.Engine.Report
import ClassNav.Settings.Load
import ClassNav.Terminal.Style
import ClassNav.Terminal.Table

/-!
Answers for people: tables, reports and settings as lines of text.
-/

namespace ClassNav

open Terminal

def asLine (t : Text) : Text := t ++ ['\n']

/-- Only the last column may hold other than ASCII, and nothing is aligned after it. -/
def missingColumns : List Column :=
  [⟨"LINE", true, 6⟩, ⟨"COL", true, 5⟩, ⟨"CLASS", false, 10⟩, ⟨"FIX", false, 0⟩]

def missingTable (missing : List MissingClass) : Text :=
  Table.render missingColumns <| missing.map fun m =>
    [Text.decimal m.usage.start.line, Text.decimal m.usage.start.character, m.usage.name,
      m.hoverMessage]

def sourceColumns : List Column := [⟨"SOURCE", false, 0⟩, ⟨"STATUS", false, 0⟩, ⟨"PATH", false, 0⟩]

def sourcesTable (sources : List Source) : Text :=
  Table.render sourceColumns <| sources.map fun s =>
    [s.name, if s.found then "loaded" else "missing", s.path.text]

namespace Listing

def report (s : Style) (r : Report) : Text :=
  asLine (s.heading (r.object ++ " (".toList ++ s.filePath r.stylesheet.text ++ [')'])) ++
    asLine (if r.missing.isEmpty then s.message .ok "No missing classes" else missingTable r.missing) ++
    asLine []

/-- How many classes are missing in all, and what to do about it. -/
def total (s : Style) (reports : List Report) : Text :=
  let missing := (reports.flatMap Report.missing).length
  if missing = 0 then []
  else
    asLine (s.message .warn (Text.decimal missing ++ " missing class(es)".toList)) ++
      asLine (s.message .hint
        "Run `stylelink create-class <file> --line <L> --column <C>` on a reference to add it")

def reports (s : Style) (reports : List Report) : Text := reports.flatMap (report s) ++ total s reports

/-- One line each, or a remark when there are none. -/
def names (s : Style) (names : List Text) (remark : Text) : Text :=
  if names.isEmpty then asLine (s.message .info remark) else names.flatMap asLine

def settings (s : Style) (r : Resolved) : Text :=
  let value (key : String) (v : Text) : Text := asLine (s.keyValue key v)
  asLine (s.message .info "Resolved configuration:") ++ asLine [] ++
    value "camelCase" r.settings.camelCase.name ++
    value "debounceMs" (Text.decimal r.settings.debounceMs.toNat) ++
    value "documentExtensions" (Text.joinWith ", " r.settings.documentExtensions) ++
    (if r.sources.isEmpty then [] else asLine [] ++ asLine (sourcesTable r.sources)) ++
    (if r.warnings.isEmpty then []
    else
      asLine [] ++
        asLine (s.message .warn (Text.decimal r.warnings.length ++ " warning(s):".toList)) ++
        r.warnings.flatMap fun w => asLine ("  • ".toList ++ w))

end Listing

end ClassNav
