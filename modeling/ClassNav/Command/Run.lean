import ClassNav.Command.Arguments
import ClassNav.Command.Form
import ClassNav.Command.Listing
import ClassNav.Command.Output
import ClassNav.Engine.Create
import ClassNav.Json.Printer
import ClassNav.Terminal.Color
import ClassNav.Watch.Session

/-!
Running a command. A command that succeeds answers on standard output; one that fails leaves standard
output empty and the files as they were.
-/

namespace ClassNav.Command

open Terminal

/-- What a command finds when it starts. -/
structure Environment where
  /-- The variables that are set. -/
  bindings : Bindings
  /-- Whether standard output is a terminal. -/
  terminal : Bool := false
  /-- The home directory that the user is registered with. -/
  home : Option Path := none
  /-- The paths whose bytes are no text. Each goes by the text that is shown for it. -/
  isForeign : Path → Bool := fun _ => false
  /-- What a reader of YAML says against a text that it refuses. -/
  complaint : Text → Text := fun _ => []

def Environment.get? (e : Environment) (name : String) : Option Text :=
  e.bindings.lookup name.toList

/-- The variable counts, unless it is empty. -/
def Environment.home? (e : Environment) : Option Path :=
  match e.get? "HOME" with
  | some (c :: r) => some ⟨c :: r⟩
  | _ => e.home

/-- A command that is over. -/
structure Outcome where
  code : Nat
  output : Output
  store : Store

/-- A command runs to its end, or goes on watching. -/
inductive Started
  | finished (o : Outcome)
  | watching (s : Watch.Session) (o : Output)

/-- What a task answers before it is known to have succeeded: text for standard output, and the files
afterwards. -/
abbrev Answer := Except Failure (Text × Store)

/-- A line of JSON that shows some paths. There is none for a path that is no text. -/
def json (foreign : Path → Bool) (shown : List Path) (j : Json) : Except Failure Text :=
  if shown.any foreign then .error (.malformedJson "path contains invalid UTF-8 characters")
  else .ok (asLine (Json.print j))

/-- An answer in the form that is asked for. -/
def reply (foreign : Path → Bool) (asJson : Bool) (shown : List Path) (j : Json) (text : Text)
    (store : Store) : Answer :=
  if asJson then (json foreign shown j).map fun line => (line, store) else .ok (text, store)

/-- The warning about a document of another kind. -/
def unsupported (style : Style) (settings : Settings) (file : Path) : Text :=
  if settings.supports file then []
  else
    asLine (style.message .warn (file.text ++
      " is not a supported document (documentExtensions: ".toList ++
      Text.joinWith ", " settings.documentExtensions ++ [')']))

def openDocument (store : Store) (file : Path) : Except Failure Document :=
  match store.readText file with
  | .error e => .error (.unreadableDocument file e)
  | .ok text => .ok ⟨file, text⟩

/-- An answer from a document, which may be of an unsupported kind. -/
def withDocument (style : Style) (settings : Settings) (store : Store) (file : Path)
    (answer : Document → Logged Answer) : Text × Logged Answer :=
  (unsupported style settings file,
    match openDocument store file with
    | .error e => pure (.error e)
    | .ok d => answer d)

def definition (style : Style) (foreign : Path → Bool) (engine : Engine) (store : Store)
    (line column : Nat) (asJson : Bool) (d : Document) : Logged Answer :=
  match engine.definition store d line column with
  | .error e => pure (.error e)
  | .ok found => do
    let target ← found
    let text := match target with
      | some t => asLine (style.location t.path.text t.position.line t.position.column)
      | none =>
        asLine (style.message .info ("No definition found at ".toList ++ Text.decimal line ++
          ':' :: Text.decimal column))
    return reply foreign asJson (target.toList.map Target.path) (.optional Target.toJson target) text store

def complete (style : Style) (foreign : Path → Bool) (engine : Engine) (store : Store)
    (line column : Nat) (asJson : Bool) (d : Document) : Logged Answer :=
  match engine.completions store d line column with
  | .error e => pure (.error e)
  | .ok found => do
    let names ← found
    let text := Listing.names style names
      ("No completions at ".toList ++ Text.decimal line ++ ':' :: Text.decimal column)
    return reply foreign asJson [] (.strings names) text store

def classes (style : Style) (foreign : Path → Bool) (store : Store) (sheet : Path) (filter : Text)
    (asJson : Bool) : Logged Answer := do
  let names ← Engine.classes store sheet filter
  let text := Listing.names style names ("No classes found in ".toList ++ sheet.text)
  return reply foreign asJson [] (.strings names) text store

def missingOf (style : Style) (foreign : Path → Bool) (store : Store) (object : Text) (asJson : Bool)
    (d : Document) : Logged Answer := do
  let report ← Engine.missingFor store d object
  let text := match report with
    | some r => Listing.reports style [r]
    | none =>
      asLine (style.message .info ("No stylesheet import found for `".toList ++ object ++ ['`']))
  return reply foreign asJson (report.toList.map Report.stylesheet) (.optional Report.toJson report) text
    store

def missingOfAll (style : Style) (foreign : Path → Bool) (store : Store) (file : Path) (asJson : Bool)
    (d : Document) : Logged Answer := do
  let reports ← Engine.missingAll store d
  let text :=
    if reports.isEmpty then
      asLine (style.message .info ("No stylesheet imports in ".toList ++ file.text))
    else Listing.reports style reports
  return reply foreign asJson (reports.map Report.stylesheet) (.array (reports.map Report.toJson)) text
    store

/-- The name that a cursor refers to. -/
def nameAt (d : Document) (line column : Nat) : Text :=
  match d.cursor line column with
  | .error _ => []
  | .ok c => (c.reference?.map Reference.field).getD []

def createClass (style : Style) (engine : Engine) (store : Store) (line column : Nat)
    (d : Document) : Logged Answer := do
  match ← engine.createMissing store d line column with
  | .error e => return .error e
  | .ok none =>
    return .ok (asLine (style.message .info ("Nothing to create at ".toList ++ Text.decimal line ++
      ':' :: Text.decimal column ++ " (no unresolved class reference)".toList)), store)
  | .ok (some written) =>
    return .ok (asLine (style.message .ok ("Created .".toList ++ nameAt d line column ++
      " in ".toList ++ style.filePath written.stylesheet.text)), written.store)

/-- The name may be given with its dots. -/
def scaffold (style : Style) (store : Store) (sheet : Path) (name : Text) : Logged Answer :=
  let name := name.dropWhile (· = '.')
  if name.isEmpty then
    pure (.error (.invalidValue "Class name is empty"
      "Pass the class name without the leading dot, e.g. `header`"))
  else do
    match ← Engine.scaffold store sheet name with
    | .error e => return .error e
    | .ok after =>
      return .ok (asLine (style.message .ok ("Added .".toList ++ name ++ " to ".toList ++
        style.filePath sheet.text)), after)

/-- What a task prints on standard error before its answer, and its answer. Watching is not among
them. -/
def answer (style : Style) (foreign : Path → Bool) (resolved : Resolved) (store : Store) :
    Task → Text × Logged Answer
  | .definition file line column asJson =>
    withDocument style resolved.settings store file <|
      definition style foreign ⟨resolved.settings⟩ store line column asJson
  | .complete file line column asJson =>
    withDocument style resolved.settings store file <|
      complete style foreign ⟨resolved.settings⟩ store line column asJson
  | .missing file object asJson =>
    withDocument style resolved.settings store file <|
      match object with
      | some object => missingOf style foreign store object asJson
      | none => missingOfAll style foreign store file asJson
  | .createClass file line column =>
    withDocument style resolved.settings store file <|
      createClass style ⟨resolved.settings⟩ store line column
  | .classes sheet filter asJson => ([], classes style foreign store sheet filter asJson)
  | .scaffold sheet name => ([], scaffold style store sheet name)
  | .showConfig asJson =>
    ([], pure (reply foreign asJson (resolved.sources.map Source.path) resolved.toJson
      (Listing.settings style resolved) store))
  | .watch _ _ _ => ([], pure (.ok ([], store)))

/-- The end of a command with its answer. -/
def finish (style : Style) (store : Store) (before : Output) : Text × Logged Answer → Outcome
  | (warning, ⟨.error e, notes⟩) =>
    ⟨1, before ++ .log notes ++ .err (warning ++ asLine (style.message .err e.message)), store⟩
  | (warning, ⟨.ok (text, after), notes⟩) =>
    ⟨0, before ++ .log notes ++ .err warning ++ .out text, after⟩

/-- The first report of a watched document, or the reason why it is not watched. -/
def startWatch (style : Style) (settings : Settings) (store : Store) (before : Output) (file : Path)
    (object : Option Text) (debounceMs : Option UInt64) : Started :=
  let failed (e : Failure) : Started := .finished (finish style store before ([], pure (.error e)))
  let delay := debounceMs.getD settings.debounceMs
  if delay = 0 then
    failed (.invalidValue "--debounce-ms must be greater than 0"
      "Pass a positive number of milliseconds")
  else
    match store.canonical file with
    | .error e => failed (.unreadableDocument file e)
    | .ok file =>
      let warning :=
        if settings.supports file then []
        else asLine (style.message .warn (file.text ++ " is not a supported document".toList))
      let (session, first) := Watch.Session.start style store ⟨file, object⟩ delay.toNat
      let notice := asLine (style.message .info ("Watching ".toList ++ file.text ++
        " (debounce ".toList ++ Text.decimal delay.toNat ++
        " ms, press Ctrl+C to stop)".toList))
      .watching session (before ++ .err warning ++ first ++ .err notice)

def style (environment : Environment) (i : Invocation) : Style :=
  let declined := (environment.get? "NO_COLOR").any fun v => !v.isEmpty
  ⟨((ColorMode.parse? i.color).getD .auto).enabled declined environment.terminal⟩

/-- Settings that cannot be used end a command before it begins. -/
def settingsFailure (style : Style) (config : Option Path) (e : Failure) : Text :=
  let hint := match config with
    | some p => "Check your config at ".toList ++ p.text
    | none => "Check .stylelink.yaml and ~/.stylelink/config.yaml"
  asLine (style.failure "Failed to load configuration" (some e.message) (some hint))

def policyFailure (style : Style) (spelling : Text) : Text :=
  asLine (style.failure ("Invalid camel-case policy '".toList ++ spelling ++ ['\''])
    (some (Failure.unknownPolicy spelling).message)
    (some "Valid options: off, full, dashesOnly"))

/-- The settings with the policy of the command line, if it gives one. -/
def withPolicy (i : Invocation) (r : Resolved) : Except Text Resolved :=
  match i.camelCase with
  | none => .ok r
  | some spelling =>
    match Naming.Policy.parse? spelling with
    | some p => .ok { r with settings := { r.settings with camelCase := p } }
    | none => .error spelling

/-- The global settings file: one that is named, or else the one in the home directory, if there is that. -/
def globalPath (environment : Environment) (i : Invocation) : Option Path :=
  i.config.or (environment.home?.map Settings.globalPath)

/-- The settings that hold where a command runs. -/
def settings (environment : Environment) (store : Store) (i : Invocation) :
    Logged (Except Failure Resolved) :=
  Settings.load environment.complaint store (globalPath environment i) store.cwd

/-- The output holds only the notes that are shown. -/
def Started.filter (verbose : Bool) : Started → Started
  | .finished o =>
    .finished { o with output := { o.output with notes := o.output.notes.filter (Note.shown verbose) } }
  | .watching s o => .watching s { o with notes := o.notes.filter (Note.shown verbose) }

def start (environment : Environment) (store : Store) (i : Invocation) : Started :=
  let style := style environment i
  let loaded := settings environment store i
  let before := Output.log loaded.notes
  match loaded.value with
  | .error e => .finished ⟨1, before ++ .err (settingsFailure style i.config e), store⟩
  | .ok resolved =>
    match withPolicy i resolved with
    | .error spelling => .finished ⟨1, before ++ .err (policyFailure style spelling), store⟩
    | .ok resolved =>
      match i.task with
      | .watch file object debounceMs =>
        startWatch style resolved.settings store before file object debounceMs
      | task =>
        .finished (finish style store before (answer style environment.isForeign resolved store task))

/-- The code of a command line that makes no command. -/
def usageCode : Nat := 2

/-- A command line run in an environment. There is no invocation if it makes no sense. -/
def run? (environment : Environment) (store : Store) (arguments : List Text) :
    Option (Invocation × Started) :=
  (invocation? environment.bindings arguments).map fun i =>
    (i, (start environment store i).filter i.verbose)

end ClassNav.Command
