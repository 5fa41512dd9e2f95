import ClassNav.Proofs.Command.ColorOption
import ClassNav.Proofs.Command.Inert
import ClassNav.Proofs.Command.Reply
import ClassNav.Proofs.Terminal.Painted

/-!
Color changes no content. Every command comes to one answer, whatever its style: the same failure, or the same
text with switches of the pen in it and the same files; and JSON is the same text altogether.
-/

namespace ClassNav

open Text Terminal

/-! ## Listings -/

theorem painted_asLine {t t' : Text} (painted : Painted t t') : Painted (asLine t) (asLine t') :=
  painted.append (.of_inert (by decide))

theorem inert_missingTable {missing : List MissingClass}
    (each : ∀ m ∈ missing, Inert m.usage.name ∧ Inert m.hoverMessage) : Inert (missingTable missing) := by
  refine Table.inert_render (by decide) fun row listed => ?_
  obtain ⟨m, found, rfl⟩ := List.mem_map.1 listed
  obtain ⟨name, offer⟩ := each m found
  exact List.forall_mem_cons.2 ⟨inert_decimal _, List.forall_mem_cons.2 ⟨inert_decimal _,
    List.forall_mem_cons.2 ⟨name, List.forall_mem_singleton.2 offer⟩⟩⟩

theorem inert_sourcesTable {sources : List Source} (each : ∀ s ∈ sources, Inert s.name ∧ Inert s.path.text) :
    Inert (sourcesTable sources) := by
  refine Table.inert_render (by decide) fun row listed => ?_
  obtain ⟨s, found, rfl⟩ := List.mem_map.1 listed
  obtain ⟨name, place⟩ := each s found
  refine List.forall_mem_cons.2 ⟨name, List.forall_mem_cons.2 ⟨?_, List.forall_mem_singleton.2 place⟩⟩
  split <;> decide

namespace Listing

theorem painted_report {r : Report} (inert : r.Inert) : Painted (report ⟨false⟩ r) (report ⟨true⟩ r) := by
  have object := (Painted.of_inert inert.object).append (.of_inert (t := " (") (by decide))
  have sheet := (Painted.of_inert inert.stylesheet).filePath
  have title := ((object.append sheet).append (.of_inert (t := [')']) (by decide))).heading
  refine ((painted_asLine title).append (painted_asLine ?_)).append (painted_asLine .nil)
  split
  · exact (Painted.of_inert (by decide)).message .ok
  · exact .of_inert (inert_missingTable inert.missing)

theorem painted_total (rs : List Report) : Painted (total ⟨false⟩ rs) (total ⟨true⟩ rs) := by
  unfold total
  dsimp only
  split
  · exact .nil
  · have told : Inert (decimal (rs.flatMap Report.missing).length ++ " missing class(es)".toList) :=
      Inert.append (inert_decimal _) (by decide)
    exact (painted_asLine ((Painted.of_inert told).message .warn)).append
      (painted_asLine ((Painted.of_inert (by decide)).message .hint))

theorem painted_reports {rs : List Report} (inert : ∀ r ∈ rs, r.Inert) :
    Painted (reports ⟨false⟩ rs) (reports ⟨true⟩ rs) :=
  (Painted.flatMap fun r listed => painted_report (inert r listed)).append (painted_total rs)

theorem painted_names {ts : List Text} {remark : Text} (inert : ∀ t ∈ ts, Inert t) (told : Inert remark) :
    Painted (names ⟨false⟩ ts remark) (names ⟨true⟩ ts remark) := by
  unfold names
  split
  · exact painted_asLine ((Painted.of_inert told).message .info)
  · exact .flatMap fun t listed => painted_asLine (.of_inert (inert t listed))

theorem painted_settings {r : Resolved} (inert : r.Inert) :
    Painted (settings ⟨false⟩ r) (settings ⟨true⟩ r) := by
  have value {k v : Text} (key_inert : Inert k) (v_inert : Inert v) :
      Painted (asLine (Style.keyValue ⟨false⟩ k v)) (asLine (Style.keyValue ⟨true⟩ k v)) :=
    painted_asLine ((Painted.of_inert key_inert).keyValue (.of_inert v_inert))
  have title := painted_asLine ((Painted.of_inert (t := "Resolved configuration:") (by decide)).message .info)
  have policy : Inert r.settings.camelCase.name := by cases r.settings.camelCase <;> decide
  have extensions : Inert (joinWith ", " r.settings.documentExtensions) :=
    inert_joinWith (by decide) inert.extensions
  have camelCase := value (k := "camelCase") (by decide) policy
  have debounceMs := value (k := "debounceMs") (by decide) (inert_decimal r.settings.debounceMs.toNat)
  have documentExtensions := value (k := "documentExtensions") (by decide) extensions
  have first := ((title.append (painted_asLine .nil)).append camelCase).append debounceMs
  refine ((first.append documentExtensions).append ?_).append ?_
  · split
    · exact .nil
    · exact (painted_asLine .nil).append (painted_asLine (.of_inert (inert_sourcesTable inert.sources)))
  · split
    · exact .nil
    · have counted : Inert (decimal r.warnings.length ++ " warning(s):".toList) :=
        Inert.append (inert_decimal _) (by decide)
      refine ((painted_asLine .nil).append (painted_asLine ((Painted.of_inert counted).message .warn))).append
        (.flatMap fun w listed => painted_asLine (.of_inert ?_))
      exact Inert.append (by decide) (inert.warnings w listed)

end Listing

/-! ## Answers -/

namespace Command

/-- Two answers that say the same, the first plain and the second with color if it is not JSON. What the color
leaves of the text is only known if the surroundings are quiet, that is, bring in no escape character. -/
inductive SameAnswer (quiet : Prop) (asJson : Bool) : Answer → Answer → Prop
  | failed (e : Failure) (told : quiet → Inert e.message) : SameAnswer quiet asJson (.error e) (.error e)
  | answered {plain colored : Text} (store : Store) (json : asJson = true → colored = plain)
      (painted : quiet → Painted plain colored) :
      SameAnswer quiet asJson (.ok (plain, store)) (.ok (colored, store))

/-- Such answers, found in the same way. -/
structure SameFound (quiet : Prop) (asJson : Bool) (x y : Logged Answer) : Prop where
  value : SameAnswer quiet asJson x.value y.value
  notes : x.notes = y.notes

namespace SameFound

variable {quiet : Prop} {asJson : Bool}

theorem bind {α : Type} {x : Logged α} {f g : α → Logged Answer}
    (each : SameFound quiet asJson (f x.value) (g x.value)) : SameFound quiet asJson (x >>= f) (x >>= g) :=
  ⟨each.value, congrArg (x.notes ++ ·) each.notes⟩

theorem failed {e : Failure} (told : quiet → Inert e.message) :
    SameFound quiet asJson (pure (.error e)) (pure (.error e)) :=
  ⟨.failed e told, rfl⟩

/-- An answer that has a JSON form, if its paths are text. -/
theorem listed {j : Json} (whole : j.Whole) (foreign : Path → Bool) (shown : List Path) (store : Store)
    {plain colored : Text} (painted : quiet → Painted plain colored) :
    SameFound quiet asJson (pure (reply foreign asJson shown j plain store))
      (pure (reply foreign asJson shown j colored store)) := by
  refine ⟨?_, rfl⟩
  cases asJson with
  | false => exact .answered store nofun painted
  | true =>
    change SameAnswer quiet true ((json foreign shown j).map _) ((json foreign shown j).map _)
    by_cases unprintable : ∃ p ∈ shown, foreign p = true
    · rw [json_of_foreign unprintable]
      exact .failed _ fun _ => by decide
    · rw [json_of_printable (by simpa using unprintable)]
      exact .answered store (fun _ => rfl) fun _ =>
        .of_inert (Inert.append (Json.inert_render whole 0) (by decide))

theorem told (store : Store) {plain colored : Text} (painted : quiet → Painted plain colored) :
    SameFound quiet false (pure (.ok (plain, store))) (pure (.ok (colored, store))) :=
  ⟨.answered store nofun painted, rfl⟩

end SameFound

/-- No escape character is in what a command finds in the files. -/
structure QuietStore (store : Store) : Prop where
  directory : Inert store.cwd.text
  files : ∀ l bytes, (l, .file bytes) ∈ store.entries → 0x1b ∉ bytes.data.toList

/-- A document without escape characters in its path and text. -/
structure QuietDocument (d : Document) : Prop where
  path : Inert d.path.text
  text : Inert d.text

section
variable {quiet : Prop} {foreign : Path → Bool} {store : Store} (calm : quiet → QuietStore store)
  {d : Document} (document : quiet → QuietDocument d)

theorem inert_nameAt (line column : Nat) : Inert (nameAt d line column) := by
  unfold nameAt
  split
  · exact inert_nil
  next c _ =>
    cases refers : c.reference? with
    | none => exact inert_nil
    | some r => exact Cursor.inert_field refers

theorem inert_place {l : Text} (inert : Inert l) (line column : Nat) :
    Inert (l ++ decimal line ++ ':' :: decimal column) := by
  simp [inert]

include calm document

theorem sameFound_definition (engine : Engine) (line column : Nat) (asJson : Bool) :
    SameFound quiet asJson (definition ⟨false⟩ foreign engine store line column asJson d)
      (definition ⟨true⟩ foreign engine store line column asJson d) := by
  unfold definition Engine.definition
  cases place : d.cursor line column with
  | error e => exact .failed fun _ => Document.inert_of_cursor place
  | ok c =>
    refine .bind (.listed (Json.whole_optional Target.whole_toJson _) _ _ store fun q => ?_)
    obtain ⟨path, text⟩ := document q
    generalize found : (Engine.definitionIn engine.policy store d.text c.line c.offset d.baseDir).value = t
    cases t with
    | some t =>
      have inert := Engine.inert_definitionIn (calm q).directory path text place found
      exact painted_asLine ((Painted.of_inert inert).location _ _)
    | none =>
      have told := inert_place (l := "No definition found at ") (by decide) line column
      exact painted_asLine ((Painted.of_inert told).message .info)

omit calm document in
theorem sameFound_complete (engine : Engine) (line column : Nat) (asJson : Bool) :
    SameFound quiet asJson (complete ⟨false⟩ foreign engine store line column asJson d)
      (complete ⟨true⟩ foreign engine store line column asJson d) := by
  unfold complete Engine.completions
  cases place : d.cursor line column with
  | error e => exact .failed fun _ => Document.inert_of_cursor place
  | ok c =>
    refine .bind (.listed (Json.whole_strings _) _ _ store fun _ => ?_)
    have remark := inert_place (l := "No completions at ") (by decide) line column
    exact Listing.painted_names Engine.inert_completionsIn remark

theorem sameFound_missingOf {object : Text} (asked : quiet → Inert object) (asJson : Bool) :
    SameFound quiet asJson (missingOf ⟨false⟩ foreign store object asJson d)
      (missingOf ⟨true⟩ foreign store object asJson d) := by
  refine .bind (.listed (Json.whole_optional Report.whole_toJson _) _ _ store fun q => ?_)
  cases found : (Engine.missingFor store d object).value with
  | some r =>
    obtain ⟨path, text⟩ := document q
    have inert := Engine.inert_missingFor (calm q).directory path text (asked q) found
    exact Listing.painted_reports (by simpa using inert)
  | none =>
    have told : Inert ("No stylesheet import found for `".toList ++ object ++ ['`']) :=
      Inert.between (by decide) (asked q) (by decide)
    exact painted_asLine ((Painted.of_inert told).message .info)

theorem sameFound_missingOfAll {file : Path} (named : quiet → Inert file.text) (asJson : Bool) :
    SameFound quiet asJson (missingOfAll ⟨false⟩ foreign store file asJson d)
      (missingOfAll ⟨true⟩ foreign store file asJson d) := by
  refine .bind (.listed (by simp) _ _ store fun q => ?_)
  split
  · have told : Inert ("No stylesheet imports in ".toList ++ file.text) :=
      Inert.append (by decide) (named q)
    exact painted_asLine ((Painted.of_inert told).message .info)
  · obtain ⟨path, text⟩ := document q
    exact Listing.painted_reports fun r listed => Engine.inert_missingAll (calm q).directory path text listed

theorem sameFound_createClass (engine : Engine) (line column : Nat) :
    SameFound quiet false (createClass ⟨false⟩ engine store line column d)
      (createClass ⟨true⟩ engine store line column d) := by
  have tells (q : quiet) :=
    Engine.tells_createMissing engine line column (calm q).directory (document q).path (document q).text
  refine .bind ?_
  cases made : (engine.createMissing store d line column).value with
  | error e =>
    rw [made] at tells
    exact .failed tells
  | ok written =>
    rw [made] at tells
    cases written with
    | none =>
      refine .told store fun _ => ?_
      have place := inert_place (l := "Nothing to create at ") (by decide) line column
      have told : Inert (_ ++ " (no unresolved class reference)".toList) :=
        Inert.append place (by decide)
      exact painted_asLine ((Painted.of_inert told).message .info)
    | some w =>
      refine .told w.store fun q => ?_
      have named : Inert ("Created .".toList ++ nameAt d line column ++ " in ".toList) :=
        Inert.between (by decide) (inert_nameAt line column) (by decide)
      have sheet := (Painted.of_inert (tells q w rfl)).filePath
      exact painted_asLine (((Painted.of_inert named).append sheet).message .ok)

end

section
variable {quiet : Prop} {foreign : Path → Bool} {store : Store} {sheet : Path}
  (named : quiet → Inert sheet.text)
include named

theorem sameFound_classes (filter : Text) (asJson : Bool) :
    SameFound quiet asJson (classes ⟨false⟩ foreign store sheet filter asJson)
      (classes ⟨true⟩ foreign store sheet filter asJson) := by
  refine .bind (.listed (Json.whole_strings _) _ _ store fun q => ?_)
  have remark : Inert ("No classes found in ".toList ++ sheet.text) := Inert.append (by decide) (named q)
  refine Listing.painted_names (fun name listed => ?_) remark
  exact Stylesheet.inert_of_isNameChar (Engine.isNameChar_of_mem_classes listed)

theorem sameFound_scaffold {name : Text} (inert : quiet → Inert name) :
    SameFound quiet false (scaffold ⟨false⟩ store sheet name) (scaffold ⟨true⟩ store sheet name) := by
  unfold scaffold
  dsimp only
  split
  · exact .failed fun _ => by decide
  · have tells (q : quiet) := Engine.tells_scaffold store (named q) (name.dropWhile (· = '.'))
    refine .bind ?_
    cases made : (Engine.scaffold store sheet (name.dropWhile (· = '.'))).value with
    | error e =>
      rw [made] at tells
      exact .failed tells
    | ok after =>
      refine .told after fun q => ?_
      have bare : Inert (name.dropWhile (· = '.')) := (inert q).of_subset (List.dropWhile_subset _)
      have told : Inert ("Added .".toList ++ name.dropWhile (· = '.') ++ " to ".toList) :=
        Inert.between (by decide) bare (by decide)
      have place := (Painted.of_inert (named q)).filePath
      exact painted_asLine (((Painted.of_inert told).append place).message .ok)

end

/-! ## Commands -/

/-- What is printed ahead of an answer, and the answer. -/
structure SameTold (quiet : Prop) (asJson : Bool) (x y : Text × Logged Answer) : Prop where
  warning : quiet → Painted x.1 y.1
  found : SameFound quiet asJson x.2 y.2

section
variable {quiet : Prop} {foreign : Path → Bool} {store : Store} {r : Resolved}
  (calm : quiet → QuietStore store) (settings : quiet → r.Inert)
include calm settings

theorem sameTold_withDocument {asJson : Bool} {file : Path} (named : quiet → Inert file.text)
    {run run' : Document → Logged Answer}
    (each : ∀ d, (quiet → QuietDocument d) → SameFound quiet asJson (run d) (run' d)) :
    SameTold quiet asJson (withDocument ⟨false⟩ r.settings store file run)
      (withDocument ⟨true⟩ r.settings store file run') where
  warning q := by
    dsimp only [withDocument]
    unfold unsupported
    split
    · exact .nil
    · have lead : Inert (file.text ++ " is not a supported document (documentExtensions: ".toList) :=
        Inert.append (named q) (by decide)
      have listed : Inert (joinWith ", " r.settings.documentExtensions) :=
        inert_joinWith (by decide) (settings q).extensions
      have told := Inert.between lead listed (by decide : Inert [')'])
      exact painted_asLine ((Painted.of_inert told).message .warn)
  found := by
    unfold withDocument openDocument
    cases read : store.readText file with
    | error e =>
      refine .failed fun q => ?_
      have place := Inert.append (by decide : Inert "Failed to read document `".toList) (named q)
      exact Inert.between place (by decide) (Store.inert_of_readText read)
    | ok text => exact each _ fun q => ⟨named q, Store.inert_of_bytes (calm q).files read⟩

/-- Every task comes to one answer with color and without. -/
theorem sameTold_answer {task : Task} (named : quiet → ∀ t ∈ task.texts, Inert t) :
    SameTold quiet task.asJson (answer ⟨false⟩ foreign r store task) (answer ⟨true⟩ foreign r store task) := by
  cases task with
  | definition file line column asJson =>
    exact sameTold_withDocument calm settings (fun q => named q _ (List.mem_cons_self ..)) fun d document =>
      sameFound_definition calm document _ line column asJson
  | complete file line column asJson =>
    exact sameTold_withDocument calm settings (fun q => named q _ (List.mem_cons_self ..)) fun _ _ =>
      sameFound_complete _ line column asJson
  | missing file object asJson =>
    have file_inert (q : quiet) : Inert file.text := named q _ (List.mem_cons_self ..)
    refine sameTold_withDocument calm settings file_inert fun d document => ?_
    cases object with
    | none => exact sameFound_missingOfAll calm document file_inert asJson
    | some object =>
      exact sameFound_missingOf calm document (fun q => named q _ (by simp [Task.texts])) asJson
  | createClass file line column =>
    exact sameTold_withDocument calm settings (fun q => named q _ (List.mem_cons_self ..)) fun d document =>
      sameFound_createClass calm document _ line column
  | classes sheet filter asJson =>
    exact ⟨fun _ => .nil, sameFound_classes (fun q => named q _ (List.mem_cons_self ..)) filter asJson⟩
  | scaffold sheet name =>
    exact ⟨fun _ => .nil, sameFound_scaffold (fun q => named q _ (List.mem_cons_self ..))
      fun q => named q _ (by simp [Task.texts])⟩
  | showConfig asJson =>
    exact ⟨fun _ => .nil, .listed r.whole_toJson _ _ store fun q => Listing.painted_settings (settings q)⟩
  | watch file object debounceMs => exact ⟨fun _ => .nil, .told store fun _ => .nil⟩

end

/-- Two ends of a command, the first plain and the second with color. -/
structure SameOutcome (quiet : Prop) (asJson : Bool) (plain colored : Outcome) : Prop where
  code : colored.code = plain.code
  store : colored.store = plain.store
  notes : colored.output.notes = plain.output.notes
  json : asJson = true → colored.output.stdout = plain.output.stdout
  stdout : quiet → Painted plain.output.stdout colored.output.stdout
  stderr : quiet → Painted plain.output.stderr colored.output.stderr

theorem sameOutcome_of_failure {quiet : Prop} {asJson : Bool} {notes : List Note} (store : Store)
    {t t' : Text} (told : quiet → Painted t t') :
    SameOutcome quiet asJson ⟨1, .log notes ++ .err t, store⟩ ⟨1, .log notes ++ .err t', store⟩ :=
  ⟨rfl, rfl, rfl, fun _ => rfl, fun _ => .nil, told⟩

theorem sameOutcome_finish {quiet : Prop} {asJson : Bool} {x y : Text × Logged Answer} (store : Store)
    (before : List Note) (told : SameTold quiet asJson x y) :
    SameOutcome quiet asJson (finish ⟨false⟩ store (.log before) x)
      (finish ⟨true⟩ store (.log before) y) := by
  obtain ⟨warning, ⟨answer, notes⟩⟩ := x
  obtain ⟨warning', ⟨answer', notes'⟩⟩ := y
  obtain ⟨warned, ⟨same, rfl⟩⟩ := told
  cases same with
  | failed e message =>
    exact sameOutcome_of_failure store fun q =>
      (warned q).append (painted_asLine ((Painted.of_inert (message q)).message .err))
  | answered after json painted =>
    exact ⟨rfl, rfl, rfl, json, painted, fun q => (warned q).append .nil⟩

/-- What an invocation says, wherever that is shown. -/
structure QuietInvocation (environment : Environment) (i : Invocation) : Prop where
  global : ∀ p ∈ globalPath environment i, Inert p.text
  config : ∀ p ∈ i.config, Inert p.text
  camelCase : ∀ spelling ∈ i.camelCase, Inert spelling
  task : ∀ t ∈ i.task.texts, Inert t

theorem painted_settingsFailure {config : Option Path} {e : Failure} (told : Inert e.message)
    (asked : ∀ p ∈ config, Inert p.text) :
    Painted (settingsFailure ⟨false⟩ config e) (settingsFailure ⟨true⟩ config e) := by
  refine painted_asLine (.failure (.of_inert (by decide)) (.some (.of_inert told)) (.some (.of_inert ?_)))
  cases config with
  | none => decide
  | some p => exact Inert.append (by decide) (asked p rfl)

theorem painted_policyFailure {spelling : Text} (inert : Inert spelling) :
    Painted (policyFailure ⟨false⟩ spelling) (policyFailure ⟨true⟩ spelling) := by
  have told : Inert ("Invalid camel-case policy '".toList ++ spelling ++ ['\'']) :=
    Inert.between (by decide) inert (by decide)
  have because : Inert (Failure.unknownPolicy spelling).message :=
    Inert.between (by decide) inert (by decide)
  have hint : Inert "Valid options: off, full, dashesOnly".toList := by decide
  exact painted_asLine (.failure (.of_inert told) (.some (.of_inert because)) (.some (.of_inert hint)))

theorem exists_policy_of_withPolicy {i : Invocation} {r r' : Resolved} (worked : withPolicy i r = .ok r') :
    ∃ policy, r' = { r with settings := { r.settings with camelCase := policy } } := by
  unfold withPolicy at worked
  split at worked
  next => exact ⟨r.settings.camelCase, (Except.ok.inj worked).symm⟩
  next =>
    split at worked
    next policy _ => exact ⟨policy, (Except.ok.inj worked).symm⟩
    next => cases worked

section
variable {quiet : Prop} {environment : Environment} {store : Store} {i : Invocation} {color : Text}
  (calm : quiet → QuietStore store) (asked : quiet → QuietInvocation environment i)
  (complaint : quiet → ∀ p, globalPath environment i = some p ∨
    Settings.projectPath? store store.cwd = some p → Settings.Calm environment.complaint store p)
  (extensions : quiet → ∀ r, (settings environment store i).value = .ok r →
    ∀ e ∈ r.settings.documentExtensions, Inert e)
  (plain : style environment i = ⟨false⟩) (colored : style environment { i with color := color } = ⟨true⟩)
include calm asked complaint extensions plain colored

theorem sameOutcome_start (ends : ∀ file object debounceMs, i.task ≠ .watch file object debounceMs) :
    ∃ o p, start environment store i = .finished o ∧
      start environment store { i with color := color } = .finished p ∧
      SameOutcome quiet i.task.asJson o p := by
  let j : Invocation := { i with color := color }
  have shown (q : quiet) : Tells (fun r => (∀ e ∈ r.settings.documentExtensions, Inert e) → r.Inert)
      (settings environment store i).value :=
    Settings.tells_load (asked q).global (calm q).directory (complaint q)
  cases loaded : (settings environment store i).value with
  | error e =>
    have loaded' : (settings environment store j).value = .error e := loaded
    refine ⟨_, _, start_of_refused loaded, start_of_refused loaded', ?_⟩
    rw [plain, colored]
    rw [loaded] at shown
    exact sameOutcome_of_failure store fun q => painted_settingsFailure (shown q) (asked q).config
  | ok r =>
    have loaded' : (settings environment store j).value = .ok r := loaded
    rw [loaded] at shown
    have settings (q : quiet) : r.Inert := shown q (extensions q r loaded)
    rw [start_of_load loaded, start_of_load loaded']
    cases worked : withPolicy i r with
    | error spelling =>
      have worked' : withPolicy j r = .error spelling := worked
      rw [worked']
      refine ⟨_, _, rfl, rfl, ?_⟩
      rw [plain, colored]
      have given := (withPolicy_eq_error_iff.1 worked).1
      exact sameOutcome_of_failure store fun q => painted_policyFailure ((asked q).camelCase spelling given)
    | ok r' =>
      have worked' : withPolicy j r = .ok r' := worked
      rw [worked']
      refine ⟨_, _, proceed_eq_finished ends .., proceed_eq_finished (i := j) ends .., ?_⟩
      rw [plain, colored]
      refine sameOutcome_finish store _ (sameTold_answer calm (fun q => ?_) fun q => (asked q).task)
      obtain ⟨policy, rfl⟩ := exists_policy_of_withPolicy worked
      exact ⟨(settings q).extensions, (settings q).sources, (settings q).warnings⟩

end

/-- No escape character comes in: none with the arguments and the variables that are shown, none with the
places of the command and of the home directory and the bytes of the files, none as an escape that the settings
spell, and none with what is said against a settings file that is no YAML. -/
structure NoEscapes (environment : Environment) (store : Store) (arguments : List Text) : Prop
    extends QuietStore store where
  given : ∀ a ∈ arguments, Inert a
  bindings : ∀ key ∈ ["HOME", "STYLELINK_CONFIG", "STYLELINK_CAMEL_CASE"], ∀ value,
    environment.get? key = some value → Inert value
  home : ∀ p ∈ environment.home, Inert p.text
  complaint : ∀ i p, invocation? environment.bindings arguments = some i →
    globalPath environment i = some p ∨ Settings.projectPath? store store.cwd = some p →
    Settings.Calm environment.complaint store p
  settings : ∀ i r, invocation? environment.bindings arguments = some i →
    (settings environment store i).value = .ok r →
    ∀ e ∈ r.settings.documentExtensions, Inert e

theorem quietInvocation_of_noEscapes {environment : Environment} {store : Store} {arguments : List Text}
    {i : Invocation} (free : NoEscapes environment store arguments)
    (made : invocation? environment.bindings arguments = some i) : QuietInvocation environment i := by
  obtain ⟨task, config, camelCase⟩ := inert_of_invocation? made free.given fun key listed =>
    free.bindings key (List.mem_cons_of_mem _ listed)
  refine ⟨?_, config, camelCase, task⟩
  have home : ∀ p ∈ environment.home?, Inert p.text := by
    unfold Environment.home?
    split
    next c r set_ =>
      rintro p ⟨⟩
      exact free.bindings "HOME" (List.mem_cons_self ..) (c :: r) set_
    next => exact free.home
  intro p named
  obtain asked | ⟨-, named⟩ := Option.or_eq_some_iff.1 named
  · exact config p asked
  · obtain ⟨folder, above, rfl⟩ := Option.map_eq_some_iff.1 named
    have hidden : Inert (Path.join folder ".stylelink").text := Path.inert_join (home folder above) (by decide)
    exact Path.inert_join hidden (by decide : Inert "config.yaml".toList)

theorem style_of_color {environment : Environment} {i : Invocation} {c : Text} {m : ColorMode}
    (given : i.color = c) (parsed : ColorMode.parse? c = some m) :
    style environment i =
      ⟨m.enabled ((environment.get? "NO_COLOR").any fun v => !v.isEmpty) environment.terminal⟩ := by
  rw [style, given, parsed]
  rfl

/-- An invocation in color comes to the same end without it. -/
theorem sameOutcome_of_invocation? {environment : Environment} (store : Store) {arguments : List Text}
    {i : Invocation} (made : invocation? environment.bindings arguments = some i)
    (always : i.color = "always".toList)
    (ends : ∀ file object debounceMs, i.task ≠ .watch file object debounceMs) :
    ∃ o p, start environment store i = .finished o ∧
      start environment store { i with color := "never" } = .finished p ∧
      SameOutcome (NoEscapes environment store arguments) i.task.asJson p o := by
  let j : Invocation := { i with color := "never" }
  have back : { j with color := "always" } = i := by rw [← always]
  have plain : style environment j = ⟨false⟩ :=
    style_of_color (c := "never") (m := .never) rfl (by decide)
  have colored : style environment { j with color := "always" } = ⟨true⟩ :=
    style_of_color (c := "always") (m := .always) rfl (by decide)
  have calm (free : NoEscapes environment store arguments) := free.toQuietStore
  have asked (free : NoEscapes environment store arguments) : QuietInvocation environment j := by
    obtain ⟨global, config, camelCase, task⟩ := quietInvocation_of_noEscapes free made
    exact ⟨global, config, camelCase, task⟩
  have complaint (free : NoEscapes environment store arguments) (p : Path) := free.complaint i p made
  have extensions (free : NoEscapes environment store arguments) (r : Resolved) := free.settings i r made
  obtain ⟨p, o, finished, finished', alike⟩ :=
    sameOutcome_start calm asked complaint extensions plain colored ends
  rw [back] at finished'
  exact ⟨o, p, finished', finished, alike⟩

/-- **Color changes no content.** Of two command lines that differ in the last option for colors alone, both
or none make an invocation, the same one up to the color. Unless it watches, it ends with the same code, files
and notes in color as without, and JSON is the same text. If no escape character comes in, then without the
sequences that select colors and weights all that is printed is the same text. So it is with every text made
by the calls of a style, however they are nested. -/
theorem color_changes_no_content (environment : Environment) (store : Store) (before after : List Text)
    (inline : Bool) (running : "--".toList ∉ before) (last : valuesOf "color" (options after) = []) :
    let command (color : Text) : List Text := before ++ colorOption inline color ++ after
    ((run? environment store (command "always") = none ↔ run? environment store (command "never") = none) ∧
      ∀ i started, run? environment store (command "always") = some (i, started) →
        (∀ file object debounceMs, i.task ≠ .watch file object debounceMs) →
        ∃ o p, started = .finished o ∧
          run? environment store (command "never") = some ({ i with color := "never" }, .finished p) ∧
          o.code = p.code ∧ o.store = p.store ∧ o.output.notes = p.output.notes ∧
          ("--json".toList ∈ options (command "always") → o.output.stdout = p.output.stdout) ∧
          (NoEscapes environment store (command "always") →
            erase o.output.stdout = p.output.stdout ∧ erase o.output.stderr = p.output.stderr)) ∧
      ∀ m : Markup, (∀ t ∈ m.texts, Inert t) → erase (m.render ⟨true⟩) = m.render ⟨false⟩ := by
  intro command
  have words : shape "always" = .word ∧ shape "never" = .word := by decide
  have related := rel_invocation? words.1 words.2 environment.bindings
    (recolored_of_option running inline after)
  refine ⟨⟨?_, fun i started ran ends => ?_⟩, fun m inert => (m.painted inert).erased⟩
  · rw [run?, run?, Option.map_eq_none_iff, Option.map_eq_none_iff]
    exact eq_none_iff_of_rel related
  obtain ⟨made, rfl⟩ := invocation?_of_run? ran
  obtain ⟨j, made', same⟩ := exists_of_rel related made
  have always : i.color = "always".toList := color_of_colorOption words.1 running last made
  rw [color_of_colorOption words.2 running last made'] at same
  obtain rfl := same
  obtain ⟨o, p, finished, finished', alike⟩ := sameOutcome_of_invocation? store made always ends
  let shown (o : Outcome) : Outcome :=
    { o with output := { o.output with notes := o.output.notes.filter (Note.shown i.verbose) } }
  refine ⟨shown o, shown p, ?_, ?_, alike.code, alike.store, ?_, fun requested => alike.json ?_,
    fun free => ⟨(alike.stdout free).erased, (alike.stderr free).erased⟩⟩
  · rw [finished]
    rfl
  · rw [run?, made', Option.map_some, finished']
    rfl
  · exact congrArg (List.filter (Note.shown i.verbose)) alike.notes
  · exact (options_of_invocation? made).2.2 requested

/-- How a command ends, unless it watches. -/
def Started.outcome? : Started → Option Outcome
  | .finished o => some o
  | .watching _ _ => none

/-- A page with a missing class. The report has colors in it, whatever the variables say. -/
theorem color_changes_no_content_of_page :
    let environment : Environment := { bindings := [("NO_COLOR", "1")] }
    let store : Store := ⟨⟨"/"⟩, [(["page.js"], .file (Text.encode "import s from './a.css'\ns.cd")),
      (["a.css"], .file (Text.encode ".ab \x7b\n\x7d\n"))]⟩
    let command (color : Text) : List Text := ["missing", "--color", color, "page.js"]
    NoEscapes environment store (command "always") ∧
      ∃ i j o p, run? environment store (command "always") = some (i, .finished o) ∧
        run? environment store (command "never") = some (j, .finished p) ∧
        erase o.output.stdout = p.output.stdout ∧ o.output.stdout ≠ p.output.stdout := by
  intro environment store command
  let i : Invocation := ⟨false, none, none, "always", .missing ⟨"page.js"⟩ none false⟩
  have made : invocation? environment.bindings (command "always") = some i := by decide +kernel
  have free : NoEscapes environment store (command "always") := by
    refine ⟨⟨by decide, fun l bytes listed => ?_⟩, by decide, fun key listed value found => ?_, nofun,
      fun _ _ _ _ _ _ _ => inert_nil, ?_⟩
    · obtain ⟨-, rfl⟩ | ⟨-, rfl⟩ := by simpa [store] using listed
      · decide +kernel
      · decide +kernel
    · have unset : ∀ key ∈ ["HOME", "STYLELINK_CONFIG", "STYLELINK_CAMEL_CASE"],
          environment.get? key = none := by
        decide
      cases (unset key listed).symm.trans found
    · intro j r made' loaded
      obtain rfl := Option.some.inj (made.symm.trans made')
      have defaults : (settings environment store i).value.toOption.map
          (fun r => r.settings.documentExtensions) = some (["js", "jsx", "tsx"] : List Text) := by
        decide +kernel
      rw [loaded] at defaults
      have listed : r.settings.documentExtensions = _ := Option.some.inj defaults
      rw [listed]
      decide
  have ran := run?_of_invocation? made store
  obtain ⟨⟨-, run⟩, -⟩ :=
    color_changes_no_content environment store ["missing"] ["page.js"] false (by decide) (by decide)
  obtain ⟨o, p, finished, ran', -, -, -, -, erased⟩ := run i _ ran (by simp [i])
  rw [finished] at ran
  refine ⟨free, i, _, o, p, ran, ran', (erased free).1, fun same => ?_⟩
  let stdout? (color : Text) : Option Text :=
    (run? environment store (command color)).bind fun ran => ran.2.outcome?.map fun o => o.output.stdout
  have shown : stdout? "always" = some o.output.stdout := congrArg (Option.bind · _) ran
  have shown' : stdout? "never" = some p.output.stdout := congrArg (Option.bind · _) ran'
  have differ : stdout? "always" ≠ stdout? "never" := by decide +kernel
  exact differ (by rw [shown, shown', same])

theorem run?_of_load {environment : Environment} {store : Store} {arguments : List Text} {i : Invocation}
    {r : Resolved} (made : invocation? environment.bindings arguments = some i)
    (loaded : (settings environment store i).value = .ok r)
    (unset : i.camelCase = none) :
    run? environment store arguments = some (i, (proceed environment store i r).filter i.verbose) := by
  rw [run?_of_invocation? made, start_of_load loaded, withPolicy, unset]

theorem exists_of_compared {a b : Option Outcome} {differs : Outcome → Outcome → Prop}
    [∀ o p, Decidable (differs o p)]
    (compared : (a.bind fun o => b.map fun p => decide (differs o p)) = some true) :
    ∃ o p, a = some o ∧ b = some p ∧ differs o p := by
  obtain ⟨o, first, rest⟩ := Option.bind_eq_some_iff.1 compared
  obtain ⟨p, second, holds⟩ := Option.map_eq_some_iff.1 rest
  exact ⟨o, p, first, second, of_decide_eq_true holds⟩

/-- **Color hides no escape that is spelled otherwise.** A settings file without the character spells one in
an extension, and a variable holds one that is no policy. Both are shown, so what is erased in color is there
without. -/
theorem escapes_shown_beside_color :
    let outcome (environment : Environment) (store : Store) (color : Text) : Option Outcome :=
      (run? environment store ["--color", color, "config", "show"]).bind fun ran => ran.2.outcome?
    let spelled : Store :=
      ⟨⟨"/"⟩, [([".stylelink.yaml"], .file (Text.encode "documentExtensions: [\"\\e[31mtsx\"]"))]⟩
    let bare : Environment := { bindings := [] }
    let set_ : Environment := { bindings := [("STYLELINK_CAMEL_CASE", "\x1b[31m")] }
    (∀ l bytes, (l, .file bytes) ∈ spelled.entries → 0x1b ∉ bytes.data.toList) ∧
      (∃ o p, outcome bare spelled "always" = some o ∧ outcome bare spelled "never" = some p ∧
        erase o.output.stdout ≠ p.output.stdout) ∧
      ∃ o p, outcome set_ ⟨⟨"/"⟩, []⟩ "always" = some o ∧ outcome set_ ⟨⟨"/"⟩, []⟩ "never" = some p ∧
        erase o.output.stderr ≠ p.output.stderr := by
  intro outcome spelled bare set_
  refine ⟨fun l bytes listed => ?_, ?_, ?_⟩
  · obtain ⟨-, rfl⟩ := by simpa [spelled] using listed
    decide +kernel
  · let i (color : Text) : Invocation := ⟨false, none, none, color, .showConfig false⟩
    let file : Path := Path.join ⟨"/"⟩ Settings.projectFileName
    let r : Resolved := ⟨⟨.off, 500, ["\x1b[31mtsx"]⟩,
      [⟨"project", file, true⟩], []⟩
    have governs : Settings.Governs spelled (some file) ⟨"/"⟩ := .here (by decide +kernel)
    have held : spelled.readText file = .ok ("documentExtensions: [\"\\e[31mtsx\"]" : Text) := by
      decide +kernel
    have loaded (color : Text) : (settings bare spelled (i color)).value = .ok r :=
      (Settings.load_of_project ⟨none, none, some ["\x1b[31mtsx"]⟩ governs held
        (Settings.filled_of_head rfl rfl) (by decide +kernel)).trans (by decide +kernel)
    have ended (color : Text)
        (made : invocation? [] ["--color", color, "config", "show"] = some (i color)) :
        outcome bare spelled color = ((proceed bare spelled (i color) r).filter false).outcome? := by
      simp only [outcome]
      rw [run?_of_load made (loaded color) rfl]
      rfl
    rw [ended "always" (by decide +kernel), ended "never" (by decide +kernel)]
    exact exists_of_compared (by decide +kernel)
  · exact exists_of_compared (by decide +kernel)

end Command

end ClassNav
