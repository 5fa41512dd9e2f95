import ClassNav.Proofs.Command.Outcome
import ClassNav.Proofs.Engine.Inert

/-!
Commands bring in no escape character: neither what they take from arguments and variables, nor the settings'
places, failures and warnings, nor the tables and the JSON that they print.
-/

namespace ClassNav

open Text

namespace Json

theorem inert_escape (c : Char) : Inert (escape c) := by
  have small {n : Nat} (below : n < 16) : hexDigit n ≠ '\x1b' := by
    revert n
    decide
  unfold escape
  split_ifs with quote backslash feed return_ tab bell page control
  all_goals try decide
  · exact Inert.append (by decide) (by simp [small, show c.toNat / 16 < 16 by omega, Nat.mod_lt])
  · refine inert_cons_iff.2 ⟨?_, inert_nil⟩
    rintro rfl
    exact control (by decide)

theorem inert_quote (t : Text) : Inert (quote t) := by
  refine inert_cons_iff.2 ⟨by decide, inert_append_iff.2 ⟨?_, by decide⟩⟩
  exact inert_flatMap_iff.2 fun c _ => inert_escape c

theorem inert_newline (depth : Nat) : Inert (newline depth) := by
  refine inert_cons_iff.2 ⟨by decide, fun escape => ?_⟩
  exact absurd (List.eq_of_mem_replicate escape) (by decide)

theorem inert_bracket {depth : Nat} {opening closing : Char} {items : List Text} (opens : opening ≠ '\x1b')
    (closes : closing ≠ '\x1b') (each : ∀ t ∈ items, Inert t) :
    Inert (bracket depth opening closing items) := by
  have line := inert_newline (depth + 1)
  have joined : Inert (joinWith (',' :: newline (depth + 1)) items) :=
    inert_joinWith (inert_cons_iff.2 ⟨by decide, line⟩) each
  unfold bracket
  split
  · simp [opens, closes]
  · simp [opens, closes, line, joined, inert_newline depth]

/-- Escapes are spelled out wherever a value holds them. -/
theorem inert_render {j : Json} (whole : Whole j) (depth : Nat) : Inert (render depth j) := by
  induction whole generalizing depth with
  | null =>
    rw [render]
    decide
  | bool b =>
    cases b <;> rw [render] <;> decide
  | integer n =>
    cases n with
    | ofNat n => exact inert_decimal n
    | negSucc n => exact inert_cons_iff.2 ⟨by decide, inert_decimal _⟩
  | string t => exact inert_quote t
  | @array items _ ih =>
    rw [render, renderItems_eq_map]
    refine inert_bracket (by decide) (by decide) fun t listed => ?_
    obtain ⟨j, item, rfl⟩ := List.mem_map.1 listed
    exact ih j item _
  | @object fields _ ih =>
    rw [render, renderFields_eq_map]
    refine inert_bracket (by decide) (by decide) fun t listed => ?_
    obtain ⟨f, field, rfl⟩ := List.mem_map.1 listed
    exact Inert.between (inert_quote f.1) (by decide) (ih f field _)

end Json

namespace Terminal.Table

theorem inert_pad {c : Column} {width : Nat} {t : Text} (inert : Inert t) : Inert (pad c width t) := by
  have fill : Inert (List.replicate (width - t.length) ' ') := fun escape =>
    absurd (List.eq_of_mem_replicate escape) (by decide)
  unfold pad
  split <;> simp [fill, inert]

theorem inert_of_mem_rowLines {columns : List (Column × Nat)} {cells : List Text}
    (each : ∀ cell ∈ cells, Inert cell) : ∀ line ∈ rowLines columns cells, Inert line := by
  intro line listed
  obtain ⟨i, -, rfl⟩ := List.mem_map.1 listed
  refine inert_trimEnd (inert_flatMap_iff.2 ?_)
  rintro ⟨⟨column, width⟩, cell⟩ found
  refine inert_pad ?_
  cases shown : (cellLines cell)[i]? with
  | none => exact inert_nil
  | some part =>
    have within := infix_of_mem_lines (List.mem_of_getElem? shown)
    exact (each cell (List.of_mem_zip found).2).of_subset within.subset

theorem inert_render {columns : List Column} {rows : List (List Text)}
    (titles : ∀ c ∈ columns, Inert c.title) (each : ∀ row ∈ rows, ∀ cell ∈ row, Inert cell) :
    Inert (render columns rows) := by
  unfold render
  split
  · exact inert_nil
  refine inert_joinWith (by decide) fun line listed => ?_
  obtain heading | body := List.mem_append.1 listed
  · refine inert_of_mem_rowLines (fun cell found => ?_) line heading
    obtain ⟨c, column, rfl⟩ := List.mem_map.1 found
    exact titles c column
  · obtain ⟨row, found, line_of⟩ := List.mem_flatMap.1 body
    exact inert_of_mem_rowLines (each row found) line line_of

end Terminal.Table

/-- A result that is right, or a failure that brings in no escape character. -/
def Tells {α : Type} (right : α → Prop) : Except Failure α → Prop
  | .error e => Inert e.message
  | .ok a => right a

/-- All that shows of settings in effect. -/
structure Resolved.Inert (r : Resolved) : Prop where
  extensions : ∀ e ∈ r.settings.documentExtensions, Text.Inert e
  sources : ∀ s ∈ r.sources, Text.Inert s.name ∧ Text.Inert s.path.text
  warnings : ∀ w ∈ r.warnings, Text.Inert w

namespace Settings

/-- What is said against a settings file that is no YAML brings in no escape character. -/
def Calm (complaint : Text → Text) (store : Store) (p : Path) : Prop :=
  ∀ content, store.readText p = .ok content → Layer.ofYaml? content = none → Inert (complaint content)

section
variable {complaint : Text → Text} {store : Store} {p : Path} (inert : Inert p.text)
  (calm : Calm complaint store p)
include inert calm

theorem inert_of_readLayer {fail : Text → Failure} {e : Failure}
    (refused : (readLayer complaint store p fail).value = .error e) :
    ∃ detail, e = fail detail ∧ Inert detail := by
  unfold readLayer at refused
  split at refused
  next =>
    split at refused
    next cause unread =>
      cases refused
      have place : Inert ("Failed to read ".toList ++ p.text ++ ": ".toList) :=
        Inert.between (by decide) inert (by decide)
      exact ⟨_, rfl, Inert.append place (Store.inert_of_readText unread)⟩
    next content read =>
      split at refused
      next => cases refused
      next =>
        split at refused
        next => cases refused
        next malformed =>
          cases refused
          have place : Inert ("Failed to parse ".toList ++ p.text ++ ": ".toList) :=
            Inert.between (by decide) inert (by decide)
          exact ⟨_, rfl, Inert.append place (calm content read malformed)⟩
  next => cases refused

theorem tells_readAt {fail : Text → Failure} (fails : ∀ detail, Inert detail → Inert (fail detail).message) :
    Tells (fun found => ∀ f ∈ found, Inert f.1.text) (readAt complaint store p fail).value := by
  rw [readAt, Logged.value_bind]
  cases read : (readLayer complaint store p fail).value with
  | error e =>
    obtain ⟨detail, rfl, told⟩ := inert_of_readLayer inert calm read
    exact fails detail told
  | ok layer =>
    rintro found ⟨⟩
    exact inert

end

theorem inert_of_projectPath? {store : Store} {dir p : Path} (inert : Inert dir.text)
    (found : projectPath? store dir = some p) : Inert p.text := by
  obtain ⟨d, above, rfl⟩ := List.mem_map.1 (List.mem_of_find?_eq_some found)
  exact Path.inert_join (Path.inert_of_mem_ancestors inert d above) (by decide)

section
variable {complaint : Text → Text} {store : Store}

theorem tells_readGlobal {global : Option Path} (inert : ∀ p ∈ global, Inert p.text)
    (calm : ∀ p ∈ global, Calm complaint store p) :
    Tells (fun found => ∀ f ∈ found, Inert f.1.text) (readGlobal complaint store global).value := by
  cases global with
  | none => exact nofun
  | some p => exact tells_readAt (inert p rfl) (calm p rfl) fun _ => Inert.append (by decide)

theorem tells_readProject {dir : Path} (inert : Inert dir.text)
    (calm : ∀ p, projectPath? store dir = some p → Calm complaint store p) :
    Tells (fun found => ∀ f ∈ found, Inert f.1.text) (readProject complaint store dir).value := by
  unfold readProject
  cases place : projectPath? store dir with
  | none => exact nofun
  | some p =>
    exact tells_readAt (inert_of_projectPath? inert place) (calm p place) fun _ => Inert.append (by decide)

end

/-- The warnings and the reason against settings are fixed texts. -/
theorem tells_validate (settings : Settings) :
    Tells (fun warnings => ∀ w ∈ warnings, Inert w) settings.validate := by
  unfold validate
  split
  · change Inert _
    decide +kernel
  · split
    · change ∀ w ∈ _, Inert w
      decide +kernel
    · exact nofun

theorem tells_finish (settings : Settings) {sources : List Source}
    (places : ∀ s ∈ sources, Inert s.name ∧ Inert s.path.text) :
    Tells (fun r => (∀ e ∈ r.settings.documentExtensions, Inert e) → r.Inert)
      (finish settings sources).value := by
  have valid := tells_validate settings
  unfold finish
  cases checked : settings.validate with
  | error e =>
    rw [checked] at valid
    exact valid
  | ok warnings =>
    rw [checked] at valid
    exact fun extensions => ⟨extensions, places, valid⟩

/-- Loading names the files it looks for, and what is wrong with them in its own words and those of the reader
of YAML. -/
theorem tells_load {complaint : Text → Text} {store : Store} {global : Option Path} {dir : Path}
    (global_inert : ∀ p ∈ global, Inert p.text) (dir_inert : Inert dir.text)
    (calm : ∀ p, global = some p ∨ projectPath? store dir = some p → Calm complaint store p) :
    Tells (fun r => (∀ e ∈ r.settings.documentExtensions, Inert e) → r.Inert)
      (load complaint store global dir).value := by
  have first := tells_readGlobal global_inert fun p named => calm p (.inl named)
  have second := tells_readProject dir_inert fun p found => calm p (.inr found)
  unfold load
  rw [Logged.value_bind]
  cases read : (readGlobal complaint store global).value with
  | error e =>
    rw [read] at first
    exact first
  | ok found =>
    rw [read] at first
    dsimp only
    rw [Logged.value_bind]
    cases read' : (readProject complaint store dir).value with
    | error e =>
      rw [read'] at second
      exact second
    | ok found' =>
      rw [read'] at second
      refine tells_finish _ fun s listed => ?_
      obtain listed | listed := List.mem_append.1 listed
      · obtain ⟨place, here, rfl⟩ := List.mem_map.1 listed
        exact ⟨(by decide : Inert "global".toList), first place (Option.mem_toList.1 here)⟩
      · obtain ⟨place, here, rfl⟩ := List.mem_map.1 listed
        exact ⟨(by decide : Inert "project".toList), second place (Option.mem_toList.1 here)⟩

end Settings

namespace Engine

theorem tells_scaffold (store : Store) {sheet : Path} (inert : Inert sheet.text) (name : Text) :
    Tells (fun _ => True) (scaffold store sheet name).value := by
  rw [scaffold_value]
  cases written : store.append sheet (Stylesheet.emptyRule name) with
  | error cause =>
    have place : Inert ("Failed to scaffold class in `".toList ++ sheet.text) :=
      Inert.append (by decide) inert
    exact Inert.between place (by decide) (Store.inert_of_append written)
  | ok after => trivial

/-- What comes of making a class names the stylesheet of an import. -/
theorem tells_createMissing (e : Engine) {store : Store} {d : Document} (line column : Nat)
    (cwd : Inert store.cwd.text) (path : Inert d.path.text) (text : Inert d.text) :
    Tells (fun written => ∀ w ∈ written, Inert w.stylesheet.text)
      (e.createMissing store d line column).value := by
  unfold createMissing
  cases place : d.cursor line column with
  | error failure => exact Document.inert_of_cursor place
  | ok c =>
    dsimp only
    cases c.reference? with
    | none => exact nofun
    | some r =>
      obtain ⟨made, -⟩ | ⟨sheet, -, imports, -, made⟩ := createFor_cases e.policy store d r
      · rw [made]
        exact nofun
      · rw [made]
        have inert := inert_stylesheetOf? cwd text (Document.inert_baseDir path) imports
        have told := tells_scaffold store inert r.field
        cases written : (scaffold store sheet r.field).value with
        | error failure =>
          rw [written] at told
          exact told
        | ok after =>
          rintro w ⟨⟩
          exact inert

end Engine

namespace Command

/-- All that was given at a level. -/
structure Given.Inert (g : Given) : Prop where
  values : ∀ v ∈ g.values, Text.Inert v.2
  words : ∀ w ∈ g.words, Text.Inert w
  beneath : ∀ a ∈ g.beneath, Text.Inert a

theorem subset_of_long {argument name value : Text} (long : shape argument = .long name (some value)) :
    value ⊆ argument := by
  unfold shape at long
  split at long
  next => cases long
  next option _ =>
    simp only [longOption, Shape.long.injEq] at long
    obtain ⟨-, inline⟩ := long
    split at inline
    next =>
      obtain rfl := Option.some.inj inline
      exact fun c found => List.mem_cons_of_mem _ (List.mem_cons_of_mem _ (List.mem_of_mem_drop found))
    next => cases inline
  next => cases long
  next => cases long

namespace Given.Inert

variable {g : Given} (inert : g.Inert)
include inert

theorem addValue {g' : Given} {name value : Text} (told : Text.Inert value)
    (added : g.addValue name value = some g') : g'.Inert := by
  obtain rfl := (Given.addValue_eq_some added).2
  refine ⟨List.forall_mem_append.2 ⟨inert.values, ?_⟩, inert.words, inert.beneath⟩
  simpa using told

theorem addFlag {g' : Given} {name : Text} (added : g.addFlag name = some g') : g'.Inert := by
  obtain rfl := Given.addFlag_eq_some added
  exact ⟨inert.values, inert.words, inert.beneath⟩

theorem addWords {ws : List Text} (told : ∀ w ∈ ws, Text.Inert w) :
    ({ g with words := g.words ++ ws } : Given).Inert :=
  ⟨inert.values, List.forall_mem_append.2 ⟨inert.words, told⟩, inert.beneath⟩

theorem value? {name : String} {value : Text} (given : g.value? name = some value) : Text.Inert value := by
  obtain ⟨front, back, listed, -⟩ := List.lookup_eq_some_iff.1 given
  exact inert.values (name.toList, value) (by simp [listed])

end Given.Inert

/-- What is given are arguments and parts of arguments. -/
theorem inert_of_reads {level : OptionSet} {ends : Bool} {pending : Option Text} {given g : Given}
    {arguments : List Text} (reads : Reads level ends pending given arguments g) (before : given.Inert)
    (each : ∀ a ∈ arguments, Inert a) : g.Inert := by
  induction reads with
  | done => exact before
  | value _ added _ ih =>
    obtain ⟨here, rest⟩ := List.forall_mem_cons.1 each
    exact ih (before.addValue here added) rest
  | command =>
    obtain ⟨here, rest⟩ := List.forall_mem_cons.1 each
    exact ⟨before.values, by simpa using here, rest⟩
  | word _ _ _ ih =>
    obtain ⟨here, rest⟩ := List.forall_mem_cons.1 each
    exact ih (before.addWords (by simpa using here)) rest
  | stop => exact before.addWords (List.forall_mem_cons.1 each).2
  | verbose _ added _ ih | flag _ _ _ added _ ih =>
    exact ih (before.addFlag added) (List.forall_mem_cons.1 each).2
  | inline long _ added _ ih =>
    obtain ⟨here, rest⟩ := List.forall_mem_cons.1 each
    exact ih (before.addValue (here.of_subset (subset_of_long long)) added) rest
  | option _ _ _ ih => exact ih before (List.forall_mem_cons.1 each).2

theorem inert_of_readAll {level : OptionSet} {ends : Bool} {arguments : List Text} {g : Given}
    (read : readAll level ends arguments = some g) (each : ∀ a ∈ arguments, Inert a) : g.Inert :=
  inert_of_reads (reads_of_readLevel read) ⟨nofun, nofun, nofun⟩ each

theorem inert_of_levels {arguments : List Text} {levels : List Given} (read : Levels arguments levels)
    (each : ∀ a ∈ arguments, Inert a) : ∀ g ∈ levels, g.Inert := by
  induction read with
  | lowest _ read => simpa using inert_of_readAll read each
  | above read _ ih =>
    have top := inert_of_readAll read each
    exact List.forall_mem_cons.2 ⟨top, ih top.beneath⟩

theorem inert_of_sharedValue {bindings : Bindings} {levels : List Given} {name key : String} {value : Text}
    (each : ∀ g ∈ levels, g.Inert) (outside : ∀ v, bindings.lookup key.toList = some v → Inert v)
    (given : sharedValue bindings levels name key = some value) : Inert value := by
  obtain level | ⟨-, set_⟩ := Option.or_eq_some_iff.1 given
  · obtain ⟨g, listed, at_⟩ := List.exists_of_findSome?_eq_some level
    exact (each g (List.mem_reverse.1 listed)).value? at_
  · exact outside value set_

/-- The texts that a task is about. -/
def Task.texts : Task → List Text
  | .definition file .. | .complete file .. | .createClass file .. => [file.text]
  | .classes sheet filter _ => [sheet.text, filter]
  | .missing file object _ | .watch file object _ => file.text :: object.toList
  | .scaffold sheet name => [sheet.text, name]
  | .showConfig _ => []

theorem path?_eq_some {t : Text} {p : Path} (named : path? t = some p) : p.text = t := by
  unfold path? at named
  split at named
  next => cases named
  next => exact Option.some.inj named ▸ rfl

section
variable {g : Given} (inert : g.Inert)
include inert

theorem inert_of_file? {file : Path} (named : file? g = some file) : Text.Inert file.text := by
  obtain ⟨word, one, named⟩ := Option.bind_eq_some_iff.1 named
  unfold oneWord? at one
  split at one
  next listed =>
    obtain rfl := Option.some.inj one
    rw [path?_eq_some named]
    exact inert.words _ (by simp [listed])
  next => cases one

theorem inert_of_makes {valued flags : List Text} {build : Given → Option Task}
    (makes : Makes valued flags build) {task : Task} (built : build g = some task) :
    ∀ t ∈ task.texts, Inert t := by
  have named {file : Path} {value : Option Text} (file_inert : Text.Inert file.text)
      (given : ∀ v, value = some v → Text.Inert v) : ∀ t ∈ file.text :: value.toList, Text.Inert t :=
    List.forall_mem_cons.2 ⟨file_inert, fun t found => given t (Option.mem_toList.1 found)⟩
  cases makes with
  | definition | complete | createClass =>
    obtain ⟨file, _, _, word, rfl⟩ := atCursor?_eq_some built
    simpa [Task.texts] using inert_of_file? inert word
  | classes =>
    obtain ⟨sheet, word, rfl⟩ := Option.map_eq_some_iff.1 built
    refine List.forall_mem_cons.2 ⟨inert_of_file? inert word, List.forall_mem_singleton.2 ?_⟩
    cases filter : g.value? "filter" with
    | none => exact inert_nil
    | some part => exact inert.value? filter
  | missing =>
    obtain ⟨file, word, rfl⟩ := Option.map_eq_some_iff.1 built
    exact named (inert_of_file? inert word) fun _ => inert.value?
  | scaffold =>
    dsimp only at built
    split at built
    next sheet name listed =>
      obtain ⟨p, word, rfl⟩ := Option.map_eq_some_iff.1 built
      have words := inert.words
      rw [listed, ← path?_eq_some word] at words
      exact words
    next => cases built
  | watch =>
    obtain ⟨file, word, built⟩ := Option.bind_eq_some_iff.1 built
    split at built
    next =>
      obtain rfl := Option.some.inj built
      exact named (inert_of_file? inert word) fun _ => inert.value?
    next =>
      obtain ⟨_, -, rfl⟩ := Option.map_eq_some_iff.1 built
      exact named (inert_of_file? inert word) fun _ => inert.value?

end

theorem inert_of_task? {name : Text} {arguments : List Text} {task : Task} {levels : List Given}
    (read : task? name arguments = some (task, levels)) (each : ∀ a ∈ arguments, Inert a) :
    ∀ t ∈ task.texts, Inert t := by
  obtain ⟨valued, flags, build, makes, same⟩ | same | same := task?_cases name
  · rw [same] at read
    obtain ⟨g, level, built, rfl⟩ := of_readLowest read
    exact inert_of_makes (inert_of_readAll level each) makes built
  · rw [same] at read
    obtain ⟨config, g, -, -, rfl, -⟩ := of_readConfig read
    exact nofun
  · rw [same] at read
    cases read

/-- An invocation says what the arguments and variables say. -/
theorem inert_of_invocation? {bindings : Bindings} {arguments : List Text} {i : Invocation}
    (made : invocation? bindings arguments = some i) (each : ∀ a ∈ arguments, Inert a)
    (outside : ∀ key ∈ ["STYLELINK_CONFIG", "STYLELINK_CAMEL_CASE"], ∀ value,
      bindings.lookup key.toList = some value → Inert value) :
    (∀ t ∈ i.task.texts, Inert t) ∧ (∀ p ∈ i.config, Inert p.text) ∧
      ∀ spelling ∈ i.camelCase, Inert spelling := by
  obtain ⟨name, root, beneath, top, read, levels, config, camelCase, -⟩ := levels_of_invocation? made
  have given := inert_of_levels levels each
  refine ⟨inert_of_task? read (inert_of_readAll top each).beneath, ?_, ?_⟩
  · intro p asked
    obtain ⟨t, shared, rfl⟩ := Option.map_eq_some_iff.1 (config.symm.trans asked)
    exact inert_of_sharedValue given (outside _ (by simp)) shared
  · intro spelling asked
    exact inert_of_sharedValue given (outside _ (by simp)) (camelCase.symm.trans asked)

end Command

end ClassNav
