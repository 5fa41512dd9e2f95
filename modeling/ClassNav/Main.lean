import ClassNav.Command.Reach
import ClassNav.Store.Edit

/-!
The program: it fetches the files that a command may look at, runs the command on them, and writes down
what the command printed and appended. All decisions are the command's.
-/

namespace ClassNav.Program

open Command

/-- The entry that a path leads to at present. -/
def fetch (p : Path) : IO (Option Entry) := do
  let file := System.mkFilePath [String.ofList p.text]
  if ← file.isDir then return some .directory
  try
    return some (.file (← IO.FS.readBinFile file))
  catch _ => return none

/-- The store with what is found along a path. -/
def learnPath (store : Store) (p : Path) : IO Store :=
  (passed store.cwd p).foldlM (fun store l => do
    match ← fetch l.path with
    | some e => return store.learn l e
    | none => return store) store

def learnPaths (store : Store) (paths : List Path) : IO Store := paths.foldlM learnPath store

/-- All that an invocation may look at. -/
def snapshot (environment : Environment) (cwd : Path) (i : Invocation) : IO Store := do
  let store ← learnPaths ⟨cwd, []⟩ (cwd :: settingsFiles environment i cwd ++ i.task.file?.toList)
  match i.task.file? with
  | some file => learnPaths store (stylesheets store file)
  | none => return store

/-- What was appended to a file, if anything was. -/
def appended (before : Store) (l : Location) : Entry → Option ByteArray
  | .directory => none
  | .file bytes =>
    match before.entry? l with
    | some (.file old) => if old.size < bytes.size then some (bytes.extract old.size bytes.size) else none
    | _ => none

def write (before after : Store) : IO Unit :=
  after.entries.forM fun (l, e) => do
    if let some bytes := appended before l e then
      IO.FS.withFile (System.mkFilePath [String.ofList l.path.text]) .append fun h => h.write bytes

def print (o : Output) : IO Unit := do
  o.notes.forM fun n => IO.eprintln (String.ofList n.logLine)
  IO.eprint (String.ofList o.stderr)
  IO.print (String.ofList o.stdout)
  (← IO.getStdout).flush

/-- Whether two entries hold the same. -/
def same : Option Entry → Option Entry → Bool
  | none, none => true
  | some .directory, some .directory => true
  | some (.file a), some (.file b) => a == b
  | _, _ => false

/-- The changes of targets in watched directories since the last look. -/
def changes (session : Watch.Session) (active : List Path) (before after : Store) :
    List Watch.Notification :=
  session.targets.filterMap fun p =>
    let (old, new) := (before.entry? p.location, after.entry? p.location)
    if same old new || !p.parent?.any active.contains then none
    else some ⟨if new.isNone then .removed else if old.isNone then .created else .modified, [p]⟩

/-- Directories newly asked for that are there. -/
def activate (store : Store) (before after : Watch.Session) : List Path :=
  after.directories.filter fun d => !before.directories.contains d && store.isDirectory d

/-- Look again every few milliseconds. -/
partial def watch (verbose : Bool) (session : Watch.Session) (active : List Path) (store : Store) :
    IO Unit := do
  IO.sleep 20
  let file := session.subject.file
  let fresh ← learnPaths ⟨store.cwd, []⟩ (file :: session.targets)
  let fresh ← learnPaths fresh (stylesheets fresh file)
  let mut current := session
  let mut active := active
  let received := (changes session active store fresh).map some
  for n in received ++ [none] do
    let handled ← IO.monoMsNow
    let asked ← IO.monoMsNow
    let (next, output) := current.round handled asked fresh n
    print { output with notes := output.notes.filter (Note.shown verbose) }
    active := active ++ activate fresh current next
    current := next
  watch verbose current active fresh

def variableNames : List String :=
  ["HOME", "NO_COLOR", "STYLELINK_VERBOSE", "STYLELINK_CONFIG", "STYLELINK_CAMEL_CASE",
    "STYLELINK_COLOR"]

def environment : IO Environment := do
  let bindings ← variableNames.filterMapM fun name => do
    return (← IO.getEnv name).map fun value => (name.toList, value.toList)
  return { bindings := bindings, terminal := ← (← IO.getStdout).isTty }

def run (arguments : List Text) : IO UInt32 := do
  let environment ← environment
  let cwd : Path := .ofString (← IO.currentDir).toString
  match invocation? environment.bindings arguments with
  | none =>
    IO.eprintln "usage: definition | classes | complete | missing | create-class | scaffold | watch | config show"
    return .ofNat usageCode
  | some i =>
    let store ← snapshot environment cwd i
    match (start environment store i).filter i.verbose with
    | .finished o =>
      write store o.store
      print o.output
      return .ofNat o.code
    | .watching session first =>
      print first
      let registered := session.register
      watch i.verbose registered (activate store session registered) store
      return 0

end ClassNav.Program

def main (arguments : List String) : IO UInt32 :=
  ClassNav.Program.run (arguments.map String.toList)
