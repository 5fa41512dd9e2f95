import ClassNav.Proofs.Command.Reply
import ClassNav.Proofs.Command.Settings
import ClassNav.Proofs.Engine.Answers
import ClassNav.Proofs.Json.Grammar

/-!
How commands end. What fails a command is known before it prints or writes, so one that fails has done
neither.
-/

namespace ClassNav

/-- The document has no such position: no such line, or none so long. -/
def Outside (text : Text) (line column : Nat) : Prop :=
  ∀ shown, (Text.lines text)[line]?.map Text.dropCarriageReturn = some shown → shown.length < column

theorem Document.cursor_eq_error_iff {d : Document} {line column : Nat} :
    (∃ e, d.cursor line column = .error e) ↔ Outside d.text line column := by
  unfold Document.cursor Outside
  change _ ↔ ∀ shown, d.line? line = some shown → _
  cases d.line? line with
  | none => simp
  | some shown =>
    by_cases within : column ≤ shown.length
    · simp [within]
    · simp [within]; omega

section
open Json

@[simp] theorem Target.whole_toJson (t : Target) : Whole t.toJson := by simp [Target.toJson]

@[simp] theorem LineCol.whole_toJson (p : LineCol) : Whole p.toJson := by simp [LineCol.toJson]

@[simp] theorem MissingClass.whole_toJson (m : MissingClass) : Whole m.toJson := by
  simp [MissingClass.toJson, Usage.fields]

@[simp] theorem Report.whole_toJson (r : Report) : Whole r.toJson := by simp [Report.toJson]

@[simp] theorem Source.whole_toJson (s : Source) : Whole s.toJson := by simp [Source.toJson]

@[simp] theorem Settings.whole_toJson (s : Settings) : Whole s.toJson := by
  simp [Settings.toJson, Naming.Policy.toJson]

@[simp] theorem Resolved.whole_toJson (r : Resolved) : Whole r.toJson := by simp [Resolved.toJson]

end

/-- A rule is written for a reference to one class that its stylesheet does not declare, and for no
other. -/
theorem Engine.createFor_cases (policy : Naming.Policy) (store : Store) (d : Document) (r : Reference) :
    ((createFor policy store d r).value = .ok none ∧ ∀ sheet, r.field ≠ [] ∧ '.' ∉ r.field →
      (stylesheetOf? store d.text r.object d.baseDir).value = some sheet →
      (position? store sheet r.field policy).value ≠ none) ∨
    ∃ sheet, (r.field ≠ [] ∧ '.' ∉ r.field) ∧
      (stylesheetOf? store d.text r.object d.baseDir).value = some sheet ∧
      (position? store sheet r.field policy).value = none ∧
      (createFor policy store d r).value =
        (scaffold store sheet r.field).value.map fun store => some ⟨sheet, store⟩ := by
  by_cases single : r.field ≠ [] ∧ '.' ∉ r.field
  case neg =>
    have several : r.field = [] ∨ '.' ∈ r.field := by
      rwa [← not_or, not_not] at single
    refine .inl ⟨?_, fun _ one => absurd one single⟩
    rw [createFor, if_pos several]
    rfl
  cases imports : (stylesheetOf? store d.text r.object d.baseDir).value with
  | none =>
    refine .inl ⟨?_, by simp⟩
    rw [createFor, if_neg (by simpa using single), Logged.value_bind, imports]
    rfl
  | some sheet =>
    rw [createFor_value single.1 single.2 imports]
    cases found : (position? store sheet r.field policy).value with
    | none => exact .inr ⟨sheet, single, rfl, found, rfl⟩
    | some position =>
      refine .inl ⟨rfl, fun other _ same => ?_⟩
      obtain rfl := Option.some.inj same
      simp [found]

namespace Command

open Terminal

def Task.document? : Task → Option Path
  | .definition file .. | .complete file .. | .missing file .. | .createClass file .. => some file
  | .classes .. | .scaffold .. | .watch .. | .showConfig .. => none

def Task.position? : Task → Option (Nat × Nat)
  | .definition _ line column _ | .complete _ line column _ | .createClass _ line column =>
    some (line, column)
  | .missing .. | .classes .. | .scaffold .. | .watch .. | .showConfig .. => none

/-- A task comes to appending a rule to a stylesheet: one that is asked for, or one for the class that is
referred to at a position and not declared in the stylesheet of its object. -/
inductive Appends (policy : Naming.Policy) (store : Store) : Task → Path → Text → Prop
  | scaffold {sheet : Path} {name : Text} (named : name.dropWhile (· = '.') ≠ []) :
      Appends policy store (.scaffold sheet name) sheet
        (Stylesheet.emptyRule (name.dropWhile (· = '.')))
  | createClass {file sheet : Path} {line column : Nat} {text : Text} {c : Cursor} {r : Reference}
      (read : store.readText file = .ok text)
      (at_ : (⟨file, text⟩ : Document).cursor line column = .ok c) (refers : c.reference? = some r)
      (single : r.field ≠ [] ∧ '.' ∉ r.field)
      (imports : (Engine.stylesheetOf? store text r.object (Document.baseDir ⟨file, text⟩)).value =
        some sheet)
      (undeclared : (Engine.position? store sheet r.field policy).value = none) :
      Appends policy store (.createClass file line column) sheet (Stylesheet.emptyRule r.field)

/-- Why a task comes to no answer. -/
inductive Stuck (policy : Naming.Policy) (store : Store) (task : Task) : Prop
  | document {file : Path} {e : FileError} (reads : task.document? = some file)
      (refused : store.readText file = .error e)
  | position {file : Path} {line column : Nat} {text : Text} (reads : task.document? = some file)
      (asks : task.position? = some (line, column)) (read : store.readText file = .ok text)
      (outside : Outside text line column)
  | name {sheet : Path} {name : Text} (scaffolds : task = .scaffold sheet name)
      (empty : name.dropWhile (· = '.') = [])
  | write {sheet : Path} {rule : Text} {e : FileError} (appends : Appends policy store task sheet rule)
      (refused : store.append sheet rule = .error e)

/-- The answer to a task shows a path in its JSON: where a class is, the stylesheet of a report, or a settings
file. -/
inductive Shows (r : Resolved) (store : Store) : Task → Path → Prop
  | target {file : Path} {line column : Nat} {asJson : Bool} {text : Text} {found : Logged (Option Target)}
      {t : Target} (read : store.readText file = .ok text)
      (looked : (⟨r.settings⟩ : Engine).definition store ⟨file, text⟩ line column = .ok found)
      (hit : found.value = some t) : Shows r store (.definition file line column asJson) t.path
  | report {file : Path} {object : Option Text} {asJson : Bool} {text : Text} {report : Report}
      (read : store.readText file = .ok text)
      (listed : report ∈ (Engine.reports store ⟨file, text⟩ object).value) :
      Shows r store (.missing file object asJson) report.stylesheet
  | source {asJson : Bool} {s : Source} (listed : s ∈ r.sources) :
      Shows r store (.showConfig asJson) s.path

/-- JSON is asked for, and a path that it shows is no text. -/
def Unprintable (foreign : Path → Bool) (r : Resolved) (store : Store) (task : Task) : Prop :=
  task.asJson = true ∧ ∃ p, Shows r store task p ∧ foreign p = true

/-- One JSON document and the end of its line. -/
def JsonLine (t : Text) : Prop := ∃ document j, t = document ++ ['\n'] ∧ Json.Spells document j

theorem jsonLine_of_whole {j : Json} (whole : j.Whole) : JsonLine (asLine j.print) :=
  ⟨j.print, j, rfl, Json.spells_print whole⟩

/-- An answer says what it should: none if the task is stuck or its JSON cannot be printed, else JSON if that is
asked for. -/
def Ends (foreign : Path → Bool) (r : Resolved) (store : Store) (task : Task) : Answer → Prop
  | .error _ => Stuck r.settings.camelCase store task ∨ Unprintable foreign r store task
  | .ok (text, _) =>
    ¬Stuck r.settings.camelCase store task ∧ ¬Unprintable foreign r store task ∧
      (task.asJson = true → JsonLine text)

section
variable {foreign : Path → Bool} {r : Resolved} {store : Store} {task : Task}

theorem not_unprintable (plain : task.asJson = false) : ¬Unprintable foreign r store task := by
  rintro ⟨asked, -⟩
  rw [plain] at asked
  cases asked

/-- A reply ends a task well, once it is known which paths its JSON shows. -/
theorem ends_reply {asJson : Bool} {shown : List Path} {j : Json} (asked : task.asJson = asJson)
    (free : ¬Stuck r.settings.camelCase store task) (shows : ∀ p, Shows r store task p ↔ p ∈ shown)
    (whole : j.Whole) (text : Text) :
    Ends foreign r store task (reply foreign asJson shown j text store) := by
  obtain ⟨plain, told⟩ | ⟨-, printable, told⟩ | ⟨json, ⟨p, listed, strange⟩, told⟩ :=
    reply_cases foreign asJson shown j text store
  · rw [told]
    refine ⟨free, not_unprintable (asked.trans plain), fun json => ?_⟩
    cases json.symm.trans (asked.trans plain)
  · rw [told]
    refine ⟨free, ?_, fun _ => jsonLine_of_whole whole⟩
    rintro ⟨-, p, shows', strange⟩
    rw [printable p ((shows p).1 shows')] at strange
    cases strange
  · rw [told]
    exact .inr ⟨asked.trans json, p, (shows p).2 listed, strange⟩

end

section
variable {style : Style} {foreign : Path → Bool} {policy : Naming.Policy} {r : Resolved} {store : Store}
  {d : Document} (read : store.readText d.path = .ok d.text)
include read

/-- A task is not stuck if its document holds its position and its rule can be written. -/
theorem not_stuck {task : Task} (reads : task.document? = some d.path)
    (inside : ∀ line column, task.position? = some (line, column) → ¬Outside d.text line column)
    (written : ∀ sheet rule e, Appends policy store task sheet rule →
      store.append sheet rule ≠ .error e) :
    ¬Stuck policy store task := by
  rintro (⟨reads', refused⟩ | ⟨reads', asks, read', outside⟩ | ⟨rfl, -⟩ | ⟨appends, refused⟩)
  · obtain rfl := Option.some.inj (reads.symm.trans reads')
    rw [read] at refused
    cases refused
  · obtain rfl := Option.some.inj (reads.symm.trans reads')
    obtain rfl := Except.ok.inj (read.symm.trans read')
    exact inside _ _ asks outside
  · cases reads
  · exact written _ _ _ appends refused

omit read in
theorem inside_of_cursor {task : Task} {line column : Nat} {c : Cursor}
    (asks : task.position? = some (line, column)) (place : d.cursor line column = .ok c)
    (line' column' : Nat) (asks' : task.position? = some (line', column')) :
    ¬Outside d.text line' column' := by
  obtain ⟨⟩ := asks.symm.trans asks'
  intro outside
  obtain ⟨e, refused⟩ := Document.cursor_eq_error_iff.2 outside
  rw [place] at refused
  cases refused

theorem ends_definition (line column : Nat) (asJson : Bool) :
    Ends foreign r store (.definition d.path line column asJson)
      (definition style foreign ⟨r.settings⟩ store line column asJson d).value := by
  unfold definition Engine.definition
  cases place : d.cursor line column with
  | error e => exact .inl (.position rfl rfl read (Document.cursor_eq_error_iff.1 ⟨e, place⟩))
  | ok c =>
    have looked : (⟨r.settings⟩ : Engine).definition store d line column = .ok _ :=
      congrArg (Except.map _) place
    have free : ¬Stuck r.settings.camelCase store (.definition d.path line column asJson) :=
      not_stuck read rfl (inside_of_cursor rfl place) nofun
    refine ends_reply rfl free (fun p => ?_) (Json.whole_optional Target.whole_toJson _) _
    constructor
    · rintro ⟨read', looked', hit⟩
      obtain rfl := Except.ok.inj (read.symm.trans read')
      obtain rfl := Except.ok.inj (looked.symm.trans looked')
      exact List.mem_map_of_mem (Option.mem_toList.2 hit)
    · intro listed
      obtain ⟨t, hit, rfl⟩ := List.mem_map.1 listed
      exact .target read looked (Option.mem_toList.1 hit)

theorem ends_complete (line column : Nat) (asJson : Bool) :
    Ends foreign r store (.complete d.path line column asJson)
      (complete style foreign ⟨r.settings⟩ store line column asJson d).value := by
  unfold complete Engine.completions
  cases place : d.cursor line column with
  | error e => exact .inl (.position rfl rfl read (Document.cursor_eq_error_iff.1 ⟨e, place⟩))
  | ok c =>
    have free : ¬Stuck r.settings.camelCase store (.complete d.path line column asJson) :=
      not_stuck read rfl (inside_of_cursor rfl place) nofun
    have shows (p : Path) : Shows r store (.complete d.path line column asJson) p ↔ p ∈ [] :=
      ⟨nofun, nofun⟩
    exact ends_reply rfl free shows (Json.whole_strings _) _

/-- What `missing` shows are the stylesheets of its reports. -/
theorem shows_missing_iff {object : Option Text} {asJson : Bool} {p : Path} :
    Shows r store (.missing d.path object asJson) p ↔
      p ∈ (Engine.reports store d object).value.map Report.stylesheet := by
  rw [List.mem_map]
  constructor
  · intro shows
    cases shows with
    | report read' listed =>
      obtain rfl := Except.ok.inj (read.symm.trans read')
      exact ⟨_, listed, rfl⟩
  · rintro ⟨report, listed, rfl⟩
    exact .report read listed

theorem ends_missingOf (object : Text) (asJson : Bool) :
    Ends foreign r store (.missing d.path (some object) asJson)
      (missingOf style foreign store object asJson d).value := by
  have free : ¬Stuck r.settings.camelCase store (.missing d.path (some object) asJson) :=
    not_stuck read rfl nofun nofun
  exact ends_reply rfl free (fun _ => shows_missing_iff read) (Json.whole_optional Report.whole_toJson _) _

theorem ends_missingOfAll (file : Path) (asJson : Bool) :
    Ends foreign r store (.missing d.path none asJson)
      (missingOfAll style foreign store file asJson d).value := by
  have free : ¬Stuck r.settings.camelCase store (.missing d.path none asJson) :=
    not_stuck read rfl nofun nofun
  exact ends_reply rfl free (fun _ => shows_missing_iff read) (by simp) _

omit read in
theorem ends_createClass_iff {engine : Engine} {file : Path} {line column : Nat} :
    Ends foreign r store (.createClass file line column)
        (createClass style engine store line column d).value ↔
      match (engine.createMissing store d line column).value with
      | .error _ => Stuck r.settings.camelCase store (.createClass file line column)
      | .ok _ => ¬Stuck r.settings.camelCase store (.createClass file line column) := by
  have printable : ¬Unprintable foreign r store (.createClass file line column) := not_unprintable rfl
  rw [createClass, Logged.value_bind]
  cases (engine.createMissing store d line column).value with
  | error e => simp [Ends, printable]
  | ok written => cases written <;> simp [Ends, printable, Task.asJson]

theorem ends_createClass (line column : Nat) :
    Ends foreign r store (.createClass d.path line column)
      (createClass style ⟨r.settings⟩ store line column d).value := by
  rw [ends_createClass_iff, Engine.createMissing, Engine.policy]
  cases place : d.cursor line column with
  | error e => exact .position rfl rfl read (Document.cursor_eq_error_iff.1 ⟨e, place⟩)
  | ok c =>
    have inside : ∀ l k, (Task.createClass d.path line column).position? = some (l, k) →
        ¬Outside d.text l k := inside_of_cursor rfl place
    have appends {sheet : Path} {rule : Text}
        (h : Appends r.settings.camelCase store (.createClass d.path line column) sheet rule) :
        ∃ u, c.reference? = some u ∧ (u.field ≠ [] ∧ '.' ∉ u.field) ∧
          (Engine.stylesheetOf? store d.text u.object d.baseDir).value = some sheet ∧
          (Engine.position? store sheet u.field r.settings.camelCase).value = none ∧
          rule = Stylesheet.emptyRule u.field := by
      obtain - | ⟨read', place', refers, single, imports, undeclared⟩ := h
      obtain rfl := Except.ok.inj (read.symm.trans read')
      obtain rfl := Except.ok.inj (place.symm.trans place')
      exact ⟨_, refers, single, imports, undeclared, rfl⟩
    cases refers : c.reference? with
    | none =>
      simp only [refers]
      refine not_stuck read rfl inside fun sheet rule e h => ?_
      obtain ⟨u, refers', -⟩ := appends h
      simp [refers] at refers'
    | some u =>
      simp only [refers]
      obtain ⟨made, apart⟩ | ⟨sheet, single, imports, undeclared, made⟩ :=
        Engine.createFor_cases r.settings.camelCase store d u
      · rw [made]
        refine not_stuck read rfl inside fun sheet rule e h => ?_
        obtain ⟨u', refers', single, imports, undeclared, -⟩ := appends h
        obtain rfl := Option.some.inj (refers.symm.trans refers')
        exact absurd undeclared (apart sheet single imports)
      · rw [made, Engine.scaffold_value]
        cases appended : store.append sheet (Stylesheet.emptyRule u.field) with
        | error e => exact .write (.createClass read place refers single imports undeclared) appended
        | ok after =>
          refine not_stuck read rfl inside fun sheet' rule e h => ?_
          obtain ⟨u', refers', -, imports', -, rfl⟩ := appends h
          obtain rfl := Option.some.inj (refers.symm.trans refers')
          obtain rfl := Option.some.inj (imports.symm.trans imports')
          simp [appended]

end

section
variable {foreign : Path → Bool} {r : Resolved} {store : Store}

theorem ends_scaffold (style : Style) (sheet : Path) (name : Text) :
    Ends foreign r store (.scaffold sheet name) (scaffold style store sheet name).value := by
  unfold scaffold
  by_cases empty : name.dropWhile (· = '.') = []
  · simp only [empty, List.isEmpty_nil, if_true]
    exact .inl (.name rfl empty)
  · simp only [List.isEmpty_iff, empty, if_false, Logged.value_bind, Engine.scaffold_value]
    cases appended : store.append sheet (Stylesheet.emptyRule (name.dropWhile (· = '.'))) with
    | error e => exact .inl (.write (.scaffold empty) appended)
    | ok after =>
      refine ⟨?_, not_unprintable rfl, nofun⟩
      rintro (⟨⟨⟩, -⟩ | ⟨⟨⟩, -⟩ | ⟨scaffolds, empty'⟩ | ⟨appends, refused⟩)
      · cases scaffolds
        exact empty empty'
      · cases appends
        rw [appended] at refused
        cases refused

theorem ends_classes (style : Style) (sheet : Path) (filter : Text) (asJson : Bool) :
    Ends foreign r store (.classes sheet filter asJson)
      (classes style foreign store sheet filter asJson).value := by
  have free : ¬Stuck r.settings.camelCase store (.classes sheet filter asJson) := by
    rintro (⟨⟨⟩, -⟩ | ⟨⟨⟩, -⟩ | ⟨⟨⟩, -⟩ | ⟨⟨⟩, -⟩)
  have shows (p : Path) : Shows r store (.classes sheet filter asJson) p ↔ p ∈ [] := ⟨nofun, nofun⟩
  exact ends_reply rfl free shows (Json.whole_strings _) _

theorem ends_showConfig (style : Style) (asJson : Bool) :
    Ends foreign r store (.showConfig asJson)
      (reply foreign asJson (r.sources.map Source.path) r.toJson (Listing.settings style r) store) := by
  refine ends_reply rfl ?_ (fun p => ?_) r.whole_toJson _
  · rintro (⟨⟨⟩, -⟩ | ⟨⟨⟩, -⟩ | ⟨⟨⟩, -⟩ | ⟨⟨⟩, -⟩)
  · rw [List.mem_map]
    constructor
    · intro shows
      cases shows with
      | source listed => exact ⟨_, listed, rfl⟩
    · rintro ⟨s, listed, rfl⟩
      exact .source listed

theorem ends_withDocument {style : Style} {settings : Settings} {file : Path} {task : Task}
    {run : Document → Logged Answer} (reads : task.document? = some file)
    (each : ∀ text, store.readText file = .ok text → Ends foreign r store task (run ⟨file, text⟩).value) :
    Ends foreign r store task (withDocument style settings store file run).2.value := by
  unfold withDocument openDocument
  cases read : store.readText file with
  | error e => exact .inl (.document reads read)
  | ok text => exact each text read

end

/-- Every task but watching ends as it should. -/
theorem ends_answer (style : Style) (foreign : Path → Bool) (r : Resolved) (store : Store) {task : Task}
    (ends : ∀ file object debounceMs, task ≠ .watch file object debounceMs) :
    Ends foreign r store task (answer style foreign r store task).2.value := by
  cases task with
  | definition file line column asJson =>
    exact ends_withDocument rfl fun text read =>
      ends_definition (d := ⟨file, text⟩) read line column asJson
  | complete file line column asJson =>
    exact ends_withDocument rfl fun text read =>
      ends_complete (d := ⟨file, text⟩) read line column asJson
  | missing file object asJson =>
    refine ends_withDocument rfl fun text read => ?_
    cases object with
    | none => exact ends_missingOfAll (d := ⟨file, text⟩) read file asJson
    | some object => exact ends_missingOf (d := ⟨file, text⟩) read object asJson
  | createClass file line column =>
    exact ends_withDocument rfl fun text read =>
      ends_createClass (d := ⟨file, text⟩) read line column
  | classes sheet filter asJson => exact ends_classes ..
  | scaffold sheet name => exact ends_scaffold ..
  | showConfig asJson => exact ends_showConfig ..
  | watch file object debounceMs => exact absurd rfl (ends file object debounceMs)

/-- The settings that a command works with. -/
def Ready (environment : Environment) (store : Store) (i : Invocation) (r : Resolved) : Prop :=
  ∃ loaded, (settings environment store i).value = .ok loaded ∧
    withPolicy i loaded = .ok r

/-- Why a command fails: there are no settings, the policy that is given is none, the task is stuck, or its JSON
cannot be printed. -/
inductive Fails (environment : Environment) (store : Store) (i : Invocation) : Prop
  | settings {e : Failure}
      (refused : (settings environment store i).value = .error e)
  | policy {spelling : Text} (given : i.camelCase = some spelling)
      (unknown : Naming.Policy.parse? spelling = none)
  | task {r : Resolved} (ready : Ready environment store i r)
      (stuck : Stuck r.settings.camelCase store i.task)
  | printer {r : Resolved} (ready : Ready environment store i r)
      (unprintable : Unprintable environment.isForeign r store i.task)

theorem withPolicy_eq_error_iff {i : Invocation} {r : Resolved} {spelling : Text} :
    withPolicy i r = .error spelling ↔
      i.camelCase = some spelling ∧ Naming.Policy.parse? spelling = none := by
  unfold withPolicy
  cases i.camelCase with
  | none => simp
  | some given =>
    dsimp only
    cases parsed : Naming.Policy.parse? given with
    | none =>
      simp only [Except.error.injEq, Option.some.injEq, iff_self_and]
      exact fun same => same ▸ parsed
    | some policy =>
      simp only [reduceCtorEq, Option.some.injEq, false_iff, not_and]
      exact fun same => by simp [← same, parsed]

/-- What a finished command leaves behind. -/
structure Contract (environment : Environment) (store : Store) (i : Invocation) (o : Outcome) : Prop where
  fails : o.code = 1 ↔ Fails environment store i
  succeeds : ¬Fails environment store i → o.code = 0
  silent : o.code = 1 → o.output.stdout = [] ∧ o.store = store
  json : o.code = 0 → i.task.asJson = true → JsonLine o.output.stdout

section
variable {environment : Environment} {store : Store} {i : Invocation}

theorem eq_of_ready {r r' : Resolved} (ready : Ready environment store i r)
    (ready' : Ready environment store i r') : r' = r := by
  obtain ⟨loaded, read, worked⟩ := ready
  obtain ⟨loaded', read', worked'⟩ := ready'
  obtain rfl := Except.ok.inj (read.symm.trans read')
  exact (Except.ok.inj (worked.symm.trans worked')).symm

theorem fails_iff_of_ready {r : Resolved} (ready : Ready environment store i r) :
    Fails environment store i ↔
      Stuck r.settings.camelCase store i.task ∨ Unprintable environment.isForeign r store i.task := by
  constructor
  · obtain ⟨loaded, read, worked⟩ := ready
    rintro (refused | ⟨given, unknown⟩ | ⟨ready', stuck⟩ | ⟨ready', unprintable⟩)
    · cases read.symm.trans refused
    · cases worked.symm.trans (withPolicy_eq_error_iff.2 ⟨given, unknown⟩)
    · exact .inl (eq_of_ready ⟨loaded, read, worked⟩ ready' ▸ stuck)
    · exact .inr (eq_of_ready ⟨loaded, read, worked⟩ ready' ▸ unprintable)
  · exact fun reason => reason.elim (.task ready) (.printer ready)

theorem contract_of_failed {notes : List Note} {message : Text} (fails : Fails environment store i) :
    Contract environment store i ⟨1, .log notes ++ .err message, store⟩ where
  fails := iff_of_true rfl fails
  succeeds succeeded := absurd fails succeeded
  silent _ := ⟨rfl, rfl⟩
  json := nofun

theorem contract_of_ends {r : Resolved} {style : Style} {notes : List Note} {told : Text × Logged Answer}
    (ready : Ready environment store i r)
    (ends : Ends environment.isForeign r store i.task told.2.value) :
    Contract environment store i (finish style store (.log notes) told) := by
  have fails := fails_iff_of_ready ready
  obtain ⟨warning, ⟨answer, more⟩⟩ := told
  cases answer with
  | error e => exact contract_of_failed (fails.2 ends)
  | ok answer =>
    obtain ⟨free, printable, line⟩ := ends
    have succeeds : ¬Fails environment store i := mt fails.1 (not_or.2 ⟨free, printable⟩)
    exact ⟨iff_of_false nofun succeeds, fun _ => rfl, nofun, fun _ => line⟩

/-- The order of the steps is the same for all tasks: settings, policy, answer; only an answer is printed
or changes a file. -/
theorem finished_of_start (ends : ∀ file object debounceMs, i.task ≠ .watch file object debounceMs) :
    ∃ o, start environment store i = .finished o ∧ Contract environment store i o := by
  cases loaded : (settings environment store i).value with
  | error e =>
    unfold start
    simp only [loaded]
    exact ⟨_, rfl, contract_of_failed (.settings loaded)⟩
  | ok settings =>
    rw [start_of_load loaded]
    cases worked : withPolicy i settings with
    | error spelling =>
      obtain ⟨given, unknown⟩ := withPolicy_eq_error_iff.1 worked
      exact ⟨_, rfl, contract_of_failed (.policy given unknown)⟩
    | ok r =>
      have answered := ends_answer (style environment i) environment.isForeign r store ends
      exact ⟨_, proceed_eq_finished ends .., contract_of_ends ⟨settings, loaded, worked⟩ answered⟩

end

/-- **A command fails for what is wrong with its input, and leaves no trace then.** It comes to an end
unless it watches: with code 1 if the settings or the policy are unusable, the document cannot be read, the
position is outside it, a name is empty, a rule cannot be appended, or JSON would show a path that is no text;
and with code 0 otherwise. A command that fails has printed no answer and changed no file; one that succeeds
and was asked for JSON has printed one document and the end of its line. -/
theorem run_contract {environment : Environment} {store : Store} {arguments : List Text} {i : Invocation}
    {started : Started} (ran : run? environment store arguments = some (i, started))
    (ends : ∀ file object debounceMs, i.task ≠ .watch file object debounceMs) :
    ∃ o, started = .finished o ∧ (o.code = 1 ↔ Fails environment store i) ∧
      (o.code = 0 ↔ ¬Fails environment store i) ∧ (o.code = 1 → o.output.stdout = [] ∧ o.store = store) ∧
      (o.code = 0 → "--json".toList ∈ options arguments → JsonLine o.output.stdout) := by
  obtain ⟨made, rfl⟩ := invocation?_of_run? ran
  obtain ⟨o, finished, contract⟩ := finished_of_start ends
  rw [finished]
  refine ⟨_, rfl, contract.fails, ⟨fun zero failed => ?_, contract.succeeds⟩, contract.silent,
    fun zero asked => contract.json zero ((options_of_invocation? made).2.2 asked)⟩
  exact absurd (zero.symm.trans (contract.fails.2 failed)) (by decide)

/-- The exit code of a command, unless it watches. -/
def Started.code? : Started → Option Nat
  | .finished o => some o.code
  | .watching _ _ => none

theorem exists_of_code? {started : Started} {n : Nat} (code : started.code? = some n) :
    ∃ o, started = .finished o ∧ o.code = n := by
  cases started with
  | finished o => exact ⟨o, rfl, Option.some.inj code⟩
  | watching => cases code

/-- A page with a missing class, and a position that it does not have. -/
theorem run_contract_of_page :
    let environment : Environment := { bindings := [] }
    let store : Store := ⟨⟨"/"⟩, [(["page.js"], .file (Text.encode "import s from './a.css'\ns.cd")),
      (["a.css"], .file (Text.encode ".ab \x7b\n\x7d\n"))]⟩
    (∃ i o, run? environment store ["missing", "page.js", "--json"] = some (i, .finished o) ∧
      o.code = 0 ∧ JsonLine o.output.stdout) ∧
    ∃ i o, run? environment store ["definition", "page.js", "--line", "7", "--column=0"] =
      some (i, .finished o) ∧ o.code = 1 ∧ o.output.stdout = [] ∧ o.store = store := by
  intro environment store
  constructor
  · let i : Invocation := ⟨false, none, none, "auto", .missing ⟨"page.js"⟩ none true⟩
    have made : invocation? environment.bindings ["missing", "page.js", "--json"] = some i := by
      decide +kernel
    have ran := run?_of_invocation? made store
    obtain ⟨o, finished, -, -, -, line⟩ := run_contract ran (by simp [i])
    have code : ((start environment store i).filter false).code? = some 0 := by decide +kernel
    rw [finished] at ran code
    exact ⟨i, o, ran, Option.some.inj code, line (Option.some.inj code) (by decide +kernel)⟩
  · let i : Invocation := ⟨false, none, none, "auto", .definition ⟨"page.js"⟩ 7 0 false⟩
    have made : invocation? environment.bindings
        ["definition", "page.js", "--line", "7", "--column=0"] = some i := by
      decide +kernel
    have ran := run?_of_invocation? made store
    obtain ⟨o, finished, -, -, silent, -⟩ := run_contract ran (by simp [i])
    have code : ((start environment store i).filter false).code? = some 1 := by decide +kernel
    rw [finished] at ran code
    exact ⟨i, o, ran, Option.some.inj code, silent (Option.some.inj code)⟩

/-- **Two more ways to fail.** A settings file that is not there is still listed, and its path may be no text,
which JSON cannot show. And a class of a page is not created where its stylesheet is missing. -/
theorem foreign_path_fails_and_missing_sheet_fails :
    let environment : Environment := { bindings := [], isForeign := fun p => p == ⟨"\ufffd.yaml"⟩ }
    let empty : Store := ⟨⟨"/"⟩, []⟩
    let page : Store := ⟨⟨"/"⟩, [(["page.js"], .file (Text.encode "import s from './a.css'\ns.cd"))]⟩
    (∃ i o r, run? environment empty ["--config", "\ufffd.yaml", "config", "show", "--json"] =
        some (i, .finished o) ∧ o.code = 1 ∧
      Ready environment empty i r ∧ ¬Stuck r.settings.camelCase empty i.task) ∧
    ∃ i o r, run? environment page ["create-class", "page.js", "--line", "1", "--column", "3"] =
        some (i, .finished o) ∧ o.code = 1 ∧ Ready environment page i r ∧
      (∃ text, page.readText ⟨"page.js"⟩ = .ok text ∧ ¬Outside text 1 3) ∧ page.has ⟨"/a.css"⟩ = false := by
  intro environment empty page
  constructor
  · let i : Invocation := ⟨false, some ⟨"\ufffd.yaml"⟩, none, "auto", .showConfig true⟩
    let r : Resolved := ⟨.default, [⟨"global", ⟨"\ufffd.yaml"⟩, false⟩], []⟩
    have made : invocation? environment.bindings ["--config", "\ufffd.yaml", "config", "show", "--json"] =
        some i := by
      decide +kernel
    have ran := run?_of_invocation? made empty
    obtain ⟨o, finished, code⟩ : ∃ o, (start environment empty i).filter i.verbose = .finished o ∧ o.code = 1 :=
      exists_of_code? (by decide +kernel)
    have loaded : (settings environment empty i).value = .ok r := by decide +kernel
    rw [finished] at ran
    refine ⟨i, o, r, ran, code, ⟨r, loaded, rfl⟩, ?_⟩
    rintro (⟨⟨⟩, -⟩ | ⟨⟨⟩, -⟩ | ⟨⟨⟩, -⟩ | ⟨⟨⟩, -⟩)
  · let i : Invocation := ⟨false, none, none, "auto", .createClass ⟨"page.js"⟩ 1 3⟩
    let r : Resolved := ⟨.default, [], []⟩
    have made : invocation? environment.bindings
        ["create-class", "page.js", "--line", "1", "--column", "3"] = some i := by
      decide +kernel
    have ran := run?_of_invocation? made page
    obtain ⟨o, finished, code⟩ : ∃ o, (start environment page i).filter i.verbose = .finished o ∧ o.code = 1 :=
      exists_of_code? (by decide +kernel)
    have loaded : (settings environment page i).value = .ok r := by decide +kernel
    rw [finished] at ran
    have text : page.readText ⟨"page.js"⟩ = .ok ("import s from './a.css'\ns.cd" : Text) := by decide +kernel
    have inside : ¬Outside "import s from './a.css'\ns.cd" 1 3 := fun outside =>
      absurd (outside "s.cd" (by decide +kernel)) (by decide)
    exact ⟨i, o, r, ran, code, ⟨r, loaded, rfl⟩, ⟨_, text, inside⟩, by decide +kernel⟩

end Command

end ClassNav
