import ClassNav.Command.Listing
import ClassNav.Command.Output
import ClassNav.Debounce

/-!
Watching a document: its report is made anew, after a pause, whenever the document or a stylesheet of the
last report changes.
-/

namespace ClassNav.Watch

inductive Change
  | created
  | modified
  | removed
  /-- Anything that leaves the contents alone, such as opening a file. -/
  | other
  deriving DecidableEq, Repr

/-- Word from the file system that something happened to some paths. -/
structure Notification where
  change : Change
  paths : List Path
  deriving DecidableEq, Repr

/-- What is watched: one object's stylesheet, or all those of a document. -/
structure Subject where
  file : Path
  object : Option Text
  deriving DecidableEq, Repr

structure Session where
  subject : Subject
  style : Terminal.Style
  reports : List Report
  /-- Directories asked to be watched, latest first. -/
  directories : List Path
  debouncer : Debouncer
  deriving DecidableEq, Repr

namespace Session

/-- The files whose changes matter: the document and the stylesheets of the last report. -/
def targets (s : Session) : List Path := s.subject.file :: s.reports.map Report.stylesheet

def concerns (s : Session) (n : Notification) : Bool :=
  decide (n.change ≠ .other) && n.paths.any fun p => s.targets.any p.same

/-- The report from what the files hold now. A document that cannot be read has none. -/
def inspect (style : Terminal.Style) (store : Store) (subject : Subject) : List Report × Output :=
  match store.readText subject.file with
  | .error e =>
    ([], .err (asLine (style.message .err (Failure.unreadableDocument subject.file e).message)))
  | .ok text =>
    let found := Engine.reports store ⟨subject.file, text⟩ subject.object
    let listing :=
      if found.value.isEmpty then asLine (style.message .info "No matching stylesheet imports")
      else Listing.reports style found.value
    (found.value, .log found.notes ++ .out listing)

/-- The session after its first report. -/
def start (style : Terminal.Style) (store : Store) (subject : Subject) (delay : Nat) :
    Session × Output :=
  let (reports, output) := inspect style store subject
  (⟨subject, style, reports, [], .idle delay⟩, output)

/-- Directories that still have to be asked for. -/
def unwatched (s : Session) : List Path :=
  -- a directory has one spelling here, as the targets are resolved paths
  ((s.targets.filterMap Path.parent?).eraseDups).filter fun d => !s.directories.contains d

/-- Every target's directory asked for. -/
def register (s : Session) : Session := { s with directories := s.unwatched ++ s.directories }

/-- A notification of a target restarts the delay. -/
def receive (s : Session) (now : Nat) (n : Notification) : Session :=
  if s.concerns n then { s with debouncer := s.debouncer.trigger now } else s

/-- A new report, if the delay is over. -/
def fire (s : Session) (now : Nat) (store : Store) : Session × Output :=
  match s.debouncer.poll now with
  | (true, debouncer) =>
    let (reports, output) := inspect s.style store s.subject
    ({ s with reports := reports, debouncer := debouncer }, .out (asLine []) ++ output)
  | (false, debouncer) => ({ s with debouncer := debouncer }, .none)

/-- One round of the loop, from one wait to the next. A wait can end without a notification. What it
brings is handled at one time and the timer is asked at another, not before it. -/
def round (s : Session) (handled asked : Nat) (store : Store) (received : Option Notification) :
    Session × Output :=
  let s := match received with
    | some n => s.receive handled n
    | none => s
  let (s, output) := s.fire asked store
  (s.register, output)

end Session

end ClassNav.Watch
