import ClassNav.Engine.Report
import ClassNav.Settings.Form
import ClassNav.Settings.Load

/-!
The JSON forms of what commands answer.
-/

namespace ClassNav

def Target.toJson (t : Target) : Json :=
  .object [("path", .string t.path.text), ("line", .nat t.position.line),
    ("column", .nat t.position.column)]

def LineCol.toJson (p : LineCol) : Json :=
  .object [("line", .nat p.line), ("character", .nat p.character)]

def Usage.fields (u : Usage) : List (Text × Json) :=
  [("name", .string u.name),
    ("span", .object [("start", .nat u.first), ("end", .nat u.last)]),
    ("start", u.start.toJson), ("end", u.stop.toJson)]

def MissingClass.toJson (m : MissingClass) : Json :=
  .object (m.usage.fields ++ [("hoverMessage".toList, .string m.hoverMessage)])

def Report.toJson (r : Report) : Json :=
  .object [("object", .string r.object), ("stylesheet", .string r.stylesheet.text),
    ("missing", .array (r.missing.map MissingClass.toJson))]

def Source.toJson (s : Source) : Json :=
  .object [("name", .string s.name), ("path", .string s.path.text), ("exists", .bool s.found)]

def Resolved.toJson (r : Resolved) : Json :=
  .object [("config", r.settings.toJson), ("sources", .array (r.sources.map Source.toJson)),
    ("warnings", .strings r.warnings)]

end ClassNav
