import ClassNav.Command.Arguments
import Mathlib.Data.List.Basic

/-!
What the options of a command line come to, whichever words they stand between. All options of all levels
stand before two dashes alone, and what a level does not take ends the reading of it.
-/

namespace ClassNav.Command

/-- The arguments that may be options: those before two dashes alone. -/
def options (arguments : List Text) : List Text := arguments.takeWhile (· ≠ "--".toList)

/-- The value that the first argument gives to an option: the one written into it, else the next
argument. -/
def valueAt? (name : Text) : List Text → Option Text
  | [] => none
  | argument :: rest =>
    match shape argument with
    | .long n inline => if n = name then inline.or rest.head? else none
    | _ => none

/-- All values that arguments give to an option, in order. -/
def valuesOf (name : Text) : List Text → List Text
  | [] => []
  | argument :: rest => (valueAt? name (argument :: rest)).toList ++ valuesOf name rest

/-- One level read, argument by argument. -/
inductive Reads (level : OptionSet) (ends : Bool) : Option Text → Given → List Text → Given → Prop
  | done (given : Given) : Reads level ends none given [] given
  | value {name argument : Text} {given next g : Given} {rest : List Text}
      (word : shape argument = .word) (added : given.addValue name argument = some next)
      (onward : Reads level ends none next rest g) :
      Reads level ends (some name) given (argument :: rest) g
  | command {argument : Text} (given : Given) (rest : List Text) (word : shape argument = .word)
      (above : ends = true) :
      Reads level ends none given (argument :: rest) { given with words := [argument], beneath := rest }
  | word {argument : Text} {given g : Given} {rest : List Text} (word : shape argument = .word)
      (lowest : ends = false)
      (onward : Reads level ends none { given with words := given.words ++ [argument] } rest g) :
      Reads level ends none given (argument :: rest) g
  | stop {argument : Text} (given : Given) (rest : List Text) (dashes : shape argument = .stop)
      (lowest : ends = false) :
      Reads level ends none given (argument :: rest) { given with words := given.words ++ rest }
  | verbose {argument : Text} {given next g : Given} {rest : List Text}
      (short : shape argument = .short ['v']) (added : given.addFlag "verbose" = some next)
      (onward : Reads level ends none next rest g) : Reads level ends none given (argument :: rest) g
  | inline {name value argument : Text} {given next g : Given} {rest : List Text}
      (long : shape argument = .long name (some value)) (valued : name ∈ level.valued)
      (added : given.addValue name value = some next) (onward : Reads level ends none next rest g) :
      Reads level ends none given (argument :: rest) g
  | option {name argument : Text} {given g : Given} {rest : List Text}
      (long : shape argument = .long name none) (valued : name ∈ level.valued)
      (onward : Reads level ends (some name) given rest g) :
      Reads level ends none given (argument :: rest) g
  | flag {name argument : Text} {given next g : Given} {rest : List Text}
      (long : shape argument = .long name none) (bare : name ∉ level.valued) (known : name ∈ level.flags)
      (added : given.addFlag name = some next) (onward : Reads level ends none next rest g) :
      Reads level ends none given (argument :: rest) g

section
variable {level : OptionSet} {ends : Bool} {pending : Option Text} {given g : Given}
  {arguments : List Text}

theorem reads_of_readLevel (read : readLevel level ends pending given arguments = some g) :
    Reads level ends pending given arguments g := by
  induction arguments generalizing pending given with
  | nil =>
    cases pending with
    | none => exact Option.some.inj read ▸ .done given
    | some name => cases read
  | cons argument rest ih =>
    unfold readLevel at read
    split at read
    next name word =>
      obtain ⟨next, added, onward⟩ := Option.bind_eq_some_iff.1 read
      exact .value word added (ih onward)
    next => cases read
    next word =>
      split at read
      next above => exact Option.some.inj read ▸ .command given rest word above
      next lowest => exact .word word (by simpa using lowest) (ih read)
    next dashes =>
      split at read
      next => cases read
      next lowest => exact Option.some.inj read ▸ .stop given rest dashes (by simpa using lowest)
    next letters short =>
      split at read
      next v =>
        obtain ⟨next, added, onward⟩ := Option.bind_eq_some_iff.1 read
        exact .verbose (v ▸ short) added (ih onward)
      next => cases read
    next name inline long =>
      split at read
      next valued =>
        rw [List.contains_iff_mem] at valued
        split at read
        next value =>
          obtain ⟨next, added, onward⟩ := Option.bind_eq_some_iff.1 read
          exact .inline long valued added (ih onward)
        next => exact .option long valued (ih read)
      next bare =>
        rw [List.contains_iff_mem] at bare
        split at read
        next known =>
          obtain ⟨next, added, onward⟩ := Option.bind_eq_some_iff.1 read
          exact .flag (known.2 ▸ long) bare (List.contains_iff_mem.1 known.1) added (ih onward)
        next => cases read

end

theorem shape_eq_stop {argument : Text} (dashes : shape argument = .stop) : argument = ['-', '-'] := by
  unfold shape at dashes
  split at dashes
  · rfl
  · simp [longOption] at dashes
  · cases dashes
  · cases dashes

theorem shape_eq_flag {name argument : Text} (long : shape argument = .long name none) :
    argument = '-' :: '-' :: name := by
  unfold shape at long
  split at long
  next => cases long
  next option _ =>
    simp only [longOption, Shape.long.injEq] at long
    obtain ⟨named, bare⟩ := long
    have whole : ¬(option.takeWhile (· ≠ '=')).length < option.length := by
      intro shorter
      rw [if_pos shorter] at bare
      cases bare
    have same := (List.takeWhile_prefix (· ≠ '=') (l := option)).eq_of_length_le (by omega)
    rw [← named, same]
  next => cases long
  next => cases long

theorem options_cons {argument : Text} {rest : List Text} (running : shape argument ≠ .stop) :
    options (argument :: rest) = argument :: options rest := by
  refine List.takeWhile_cons_of_pos (decide_eq_true fun dashes => running ?_)
  rw [dashes]
  rfl

theorem options_of_stop {argument : Text} {rest : List Text} (dashes : shape argument = .stop) :
    options (argument :: rest) = [] := by
  rw [shape_eq_stop dashes]
  rfl

namespace Given

theorem addValue_eq_some {g g' : Given} {name value : Text} (added : g.addValue name value = some g') :
    (g.values.lookup name).isSome = false ∧ g' = { g with values := g.values ++ [(name, value)] } := by
  unfold addValue at added
  split at added
  next => cases added
  next fresh => exact ⟨Bool.eq_false_iff.2 fresh, (Option.some.inj added).symm⟩

theorem addFlag_eq_some {g g' : Given} {name : Text} (added : g.addFlag name = some g') :
    g' = { g with flags := g.flags ++ [name] } := by
  unfold addFlag at added
  split at added
  next => cases added
  next => exact (Option.some.inj added).symm

theorem lookup_addValue {g g' : Given} {name value : Text} (added : g.addValue name value = some g')
    (option : Text) : (g'.values.lookup option).toList =
      (g.values.lookup option).toList ++ if name = option then [value] else [] := by
  obtain ⟨fresh, rfl⟩ := addValue_eq_some added
  rw [List.lookup_append]
  by_cases same : name = option
  · subst same
    have unset : g.values.lookup name = Option.none := by simpa using fresh
    simp [unset]
  · simp [List.lookup_cons, beq_eq_false_iff_ne.2 (Ne.symm same), same]

end Given

/-- Reading a level moves the values of an option into what is given there, and leaves those beneath. -/
theorem values_of_reads {level : OptionSet} {ends : Bool} {name : Text} (takes : name ∈ level.valued)
    {pending : Option Text} {given g : Given} {arguments : List Text}
    (reads : Reads level ends pending given arguments g) (top : given.beneath = []) :
    (given.values.lookup name).toList ++
        ((if pending = some name then (options arguments).head?.toList else []) ++
          valuesOf name (options arguments)) =
      (g.values.lookup name).toList ++ valuesOf name (options g.beneath) := by
  induction reads with
  | done given => simp [top, options, valuesOf]
  | @value n argument given next g rest word added _ ih =>
    have same : next.beneath = [] := by rw [(Given.addValue_eq_some added).2, top]
    have moved := ih same
    rw [Given.lookup_addValue added] at moved
    rw [← moved, options_cons (by simp [word])]
    simp [valuesOf, valueAt?, word]
  | command given rest word =>
    rw [options_cons (by simp [word])]
    simp [valuesOf, valueAt?, word]
  | word word _ _ ih =>
    rw [← ih top, options_cons (by simp [word])]
    simp [valuesOf, valueAt?, word]
  | stop given rest dashes =>
    rw [options_of_stop dashes]
    simp [top, options, valuesOf]
  | verbose short added _ ih =>
    rw [Given.addFlag_eq_some added] at ih
    rw [← ih top, options_cons (by simp [short])]
    simp [valuesOf, valueAt?, short]
  | inline long _ added _ ih =>
    have same := (Given.addValue_eq_some added).2
    have moved := ih (by rw [same, top])
    rw [Given.lookup_addValue added] at moved
    rw [← moved, options_cons (by simp [long])]
    simp [valuesOf, valueAt?, long]
    split <;> simp
  | option long _ _ ih =>
    rw [← ih top, options_cons (by simp [long])]
    simp [valuesOf, valueAt?, long]
    split <;> simp
  | @flag n _ _ _ _ _ long bare _ added _ ih =>
    have other : n ≠ name := by
      rintro rfl
      exact bare takes
    rw [Given.addFlag_eq_some added] at ih
    rw [← ih top, options_cons (by simp [long])]
    simp [valuesOf, valueAt?, long, other]

section
variable {level : OptionSet} {ends : Bool} {pending : Option Text} {given g : Given}
  {arguments : List Text}

theorem beneath_of_reads (reads : Reads level false pending given arguments g) :
    g.beneath = given.beneath := by
  generalize lowest : false = ends at reads
  induction reads with
  | done | stop => rfl
  | value _ added _ ih | inline _ _ added _ ih => rw [ih, (Given.addValue_eq_some added).2]
  | verbose _ added _ ih | flag _ _ _ added _ ih => rw [ih, Given.addFlag_eq_some added]
  | command _ _ _ above => simp [← lowest] at above
  | word _ _ _ ih | option _ _ _ ih => exact ih

/-- A level knows no flags but its own. -/
theorem flags_of_reads (reads : Reads level ends pending given arguments g)
    (own : given.flags ⊆ "verbose".toList :: level.flags) :
    g.flags ⊆ "verbose".toList :: level.flags := by
  induction reads with
  | done | stop | command => exact own
  | value _ added _ ih | inline _ _ added _ ih =>
    rw [(Given.addValue_eq_some added).2] at ih
    exact ih own
  | verbose _ added _ ih =>
    rw [Given.addFlag_eq_some added] at ih
    exact ih (by simpa using own)
  | flag _ _ known added _ ih =>
    rw [Given.addFlag_eq_some added] at ih
    exact ih (by simpa [known] using own)
  | word _ _ _ ih | option _ _ _ ih => exact ih own

/-- A flag is given if it is written before two dashes alone, at this level or beneath it. -/
theorem flag_of_reads (name : Text) (bare : name ∉ level.valued) (other : name ≠ "verbose".toList)
    (spelled : shape ('-' :: '-' :: name) = .long name none)
    (reads : Reads level ends pending given arguments g) (top : given.beneath = []) :
    (name ∈ given.flags ∨ '-' :: '-' :: name ∈ options arguments) ↔
      (name ∈ g.flags ∨ '-' :: '-' :: name ∈ options g.beneath) := by
  have past {argument : Text} {rest : List Text} (running : shape argument ≠ .stop)
      (different : shape argument ≠ .long name none) :
      '-' :: '-' :: name ∈ options (argument :: rest) ↔ '-' :: '-' :: name ∈ options rest := by
    have apart : '-' :: '-' :: name ≠ argument := by
      rintro rfl
      exact different spelled
    simp [options_cons running, apart]
  induction reads with
  | done given => simp [top, options]
  | value word added _ ih =>
    rw [(Given.addValue_eq_some added).2] at ih
    rw [past (by simp [word]) (by simp [word])]
    exact ih top
  | command given rest word => rw [past (by simp [word]) (by simp [word])]
  | word word _ _ ih =>
    rw [past (by simp [word]) (by simp [word])]
    exact ih top
  | stop given rest dashes =>
    rw [options_of_stop dashes]
    simp [top, options]
  | verbose short added _ ih =>
    rw [Given.addFlag_eq_some added] at ih
    rw [past (by simp [short]) (by simp [short])]
    refine Iff.trans ?_ (ih top)
    simp only [List.mem_append, List.mem_singleton, other, or_false]
  | inline long _ added _ ih =>
    rw [(Given.addValue_eq_some added).2] at ih
    rw [past (by simp [long]) (by simp [long])]
    exact ih top
  | @option n _ _ _ _ long valued _ ih =>
    have different : n ≠ name := by
      rintro rfl
      exact bare valued
    rw [past (by simp [long]) (by simp [long, different])]
    exact ih top
  | @flag n _ _ _ _ _ long _ _ added _ ih =>
    rw [Given.addFlag_eq_some added] at ih
    rw [options_cons (by simp [long]), shape_eq_flag long]
    refine Iff.trans ?_ (ih top)
    simp [or_assoc]

end

/-- A command line read level by level. -/
inductive Levels : List Text → List Given → Prop
  | lowest {valued flags arguments : List Text} {g : Given} (bare : "json".toList ∉ valued)
      (read : readAll (.withShared valued flags) false arguments = some g) : Levels arguments [g]
  | above {arguments : List Text} {g : Given} {levels : List Given}
      (read : readAll .shared true arguments = some g) (beneath : Levels g.beneath levels) :
      Levels arguments (g :: levels)

/-- The values of an option that every level takes are given at the levels, from the top down. -/
theorem values_of_levels {name : Text} (shared : name ∈ OptionSet.shared.valued) {arguments : List Text}
    {levels : List Given} (read : Levels arguments levels) :
    valuesOf name (options arguments) = levels.flatMap fun g => (g.values.lookup name).toList := by
  induction read with
  | lowest _ read =>
    have reads := reads_of_readLevel read
    have moved := values_of_reads (List.mem_append_left _ shared) reads rfl
    rw [beneath_of_reads reads] at moved
    simpa [Given.none, options, valuesOf] using moved
  | above read _ ih =>
    have moved := values_of_reads shared (reads_of_readLevel read) rfl
    rw [List.flatMap_cons, ← ih]
    simpa [Given.none] using moved

/-- Two dashes and the flag ask for JSON, at whichever level they are taken. -/
theorem json_of_levels {arguments : List Text} {levels : List Given} (read : Levels arguments levels) :
    "--json".toList ∈ options arguments ↔ ∃ g ∈ levels, g.flag "json" = true := by
  induction read with
  | @lowest valued _ _ _ bare read =>
    have reads := reads_of_readLevel read
    have unvalued : "json".toList ∉ OptionSet.shared.valued ++ valued := by
      rw [List.mem_append, not_or]
      exact ⟨by decide, bare⟩
    have moved := flag_of_reads "json" unvalued (by decide) (by decide) reads rfl
    rw [beneath_of_reads reads] at moved
    simpa [Given.none, options, Given.flag] using moved
  | above read _ ih =>
    have moved := flag_of_reads "json" (by decide) (by decide) (by decide)
      (reads_of_readLevel read) rfl
    simp only [List.mem_cons, exists_eq_or_imp, ← ih]
    simpa [Given.none, Given.flag] using moved

/-- Whether the answer is asked for as JSON. Some tasks have no such form. -/
def Task.asJson : Task → Bool
  | .definition _ _ _ json | .classes _ _ json | .complete _ _ _ json | .missing _ _ json
  | .showConfig json => json
  | .createClass .. | .scaffold .. | .watch .. => false

theorem flag_eq_false {known : List Text} {g : Given} {name : String} (own : g.flags ⊆ known)
    (unknown : name.toList ∉ known) : g.flag name = false := by
  rw [Given.flag, Bool.eq_false_iff, ne_eq, List.contains_iff_mem]
  exact fun asked => unknown (own asked)

theorem flag_eq_false_of_shared {arguments : List Text} {g : Given}
    (read : readAll .shared true arguments = some g) : g.flag "json" = false :=
  flag_eq_false (flags_of_reads (reads_of_readLevel read) (by simp [Given.none])) (by decide)

/-- A task at a position of a document. -/
def atCursor? (build : Path → Nat → Nat → Task) (g : Given) : Option Task :=
  (file? g).bind fun file => (requiredNumber? g "line").bind fun line =>
    (requiredNumber? g "column").map fun column => build file line column

/-- The commands with no commands beneath them: the options with a value and the flags that they take beside
those of every level, and the task that they make of what is given. -/
inductive Makes : List Text → List Text → (Given → Option Task) → Prop
  | definition : Makes ["line", "column"] ["json"]
      fun g => atCursor? (fun file line column => .definition file line column (g.flag "json")) g
  | complete : Makes ["line", "column"] ["json"]
      fun g => atCursor? (fun file line column => .complete file line column (g.flag "json")) g
  | createClass : Makes ["line", "column"] [] (atCursor? .createClass)
  | classes : Makes ["filter"] ["json"]
      fun g => (file? g).map fun sheet => .classes sheet ((g.value? "filter").getD []) (g.flag "json")
  | missing : Makes ["object"] ["json"]
      fun g => (file? g).map fun file => .missing file (g.value? "object") (g.flag "json")
  | scaffold : Makes [] []
      fun g =>
        match g.words with
        | [sheet, name] => (path? sheet).map fun sheet => .scaffold sheet name
        | _ => none
  | watch : Makes ["object", "debounce-ms"] []
      fun g =>
        (file? g).bind fun file =>
          match g.value? "debounce-ms" with
          | none => some (.watch file (g.value? "object") none)
          | some t => (number? t).map fun n => .watch file (g.value? "object") (some (.ofNat n))

/-- What a command without others beneath it makes of its arguments. -/
def readLowest (valued flags : List Text) (build : Given → Option Task) (arguments : List Text) :
    Option (Task × List Given) :=
  (readAll (.withShared valued flags) false arguments).bind fun g => (build g).map fun task => (task, [g])

/-- What the arguments come to of the command that has one beneath it, which shows the settings. -/
def readConfig (arguments : List Text) : Option (Task × List Given) :=
  (readAll .shared true arguments).bind fun config =>
    if config.words = ["show".toList] then
      (readAll (.withShared [] ["json"]) false config.beneath).bind fun g =>
        if g.words.isEmpty then some (.showConfig (g.flag "json"), [config, g]) else none
    else none

/-- A name is that of a command that makes a task of what is given to it, that of the command with one beneath
it, or no command's. -/
theorem task?_cases (name : Text) :
    (∃ valued flags build, Makes valued flags build ∧ task? name = readLowest valued flags build) ∨
      task? name = readConfig ∨ task? name = fun _ => none := by
  by_cases definition : name = "definition".toList
  · exact .inl ⟨_, _, _, .definition, funext fun _ => if_pos definition⟩
  by_cases complete : name = "complete".toList
  · refine .inl ⟨_, _, _, .complete, funext fun _ => ?_⟩
    simp only [task?, if_neg definition, if_pos complete]
    rfl
  by_cases createClass : name = "create-class".toList
  · refine .inl ⟨_, _, _, .createClass, funext fun _ => ?_⟩
    simp only [task?, if_neg definition, if_neg complete, if_pos createClass]
    rfl
  by_cases classes : name = "classes".toList
  · refine .inl ⟨_, _, _, .classes, funext fun _ => ?_⟩
    simp only [task?, if_neg definition, if_neg complete, if_neg createClass, if_pos classes]
    rfl
  by_cases missing : name = "missing".toList
  · refine .inl ⟨_, _, _, .missing, funext fun _ => ?_⟩
    simp only [task?, if_neg definition, if_neg complete, if_neg createClass, if_neg classes, if_pos missing]
    rfl
  by_cases scaffold : name = "scaffold".toList
  · refine .inl ⟨_, _, _, .scaffold, funext fun _ => ?_⟩
    simp only [task?, if_neg definition, if_neg complete, if_neg createClass, if_neg classes,
      if_neg missing, if_pos scaffold]
    rfl
  by_cases watch : name = "watch".toList
  · refine .inl ⟨_, _, _, .watch, funext fun _ => ?_⟩
    simp only [task?, if_neg definition, if_neg complete, if_neg createClass, if_neg classes,
      if_neg missing, if_neg scaffold, if_pos watch]
    rfl
  by_cases config : name = "config".toList
  · refine .inr (.inl (funext fun _ => ?_))
    simp only [task?, if_neg definition, if_neg complete, if_neg createClass, if_neg classes,
      if_neg missing, if_neg scaffold, if_neg watch, if_pos config]
    rfl
  · refine .inr (.inr (funext fun _ => ?_))
    simp only [task?, if_neg definition, if_neg complete, if_neg createClass, if_neg classes,
      if_neg missing, if_neg scaffold, if_neg watch, if_neg config]

section
variable {arguments : List Text} {task : Task} {levels : List Given}

theorem of_readLowest {valued flags : List Text} {build : Given → Option Task}
    (read : readLowest valued flags build arguments = some (task, levels)) :
    ∃ g, readAll (.withShared valued flags) false arguments = some g ∧ build g = some task ∧
      levels = [g] := by
  obtain ⟨g, level, made⟩ := Option.bind_eq_some_iff.1 read
  obtain ⟨_, built, same⟩ := Option.map_eq_some_iff.1 made
  cases same
  exact ⟨g, level, built, rfl⟩

theorem of_readConfig (read : readConfig arguments = some (task, levels)) :
    ∃ config g, readAll .shared true arguments = some config ∧
      readAll (.withShared [] ["json"]) false config.beneath = some g ∧ task = .showConfig (g.flag "json") ∧
      levels = [config, g] := by
  obtain ⟨config, upper, read⟩ := Option.bind_eq_some_iff.1 read
  split at read
  next =>
    obtain ⟨g, lower, read⟩ := Option.bind_eq_some_iff.1 read
    split at read
    next =>
      cases read
      exact ⟨config, g, upper, lower, rfl, rfl⟩
    next => cases read
  next => cases read

theorem atCursor?_eq_some {build : Path → Nat → Nat → Task} {g : Given}
    (built : atCursor? build g = some task) :
    ∃ file line column, file? g = some file ∧ task = build file line column := by
  simp only [atCursor?, Option.bind_eq_some_iff, Option.map_eq_some_iff] at built
  obtain ⟨file, named, line, -, column, -, rfl⟩ := built
  exact ⟨file, line, column, named, rfl⟩

namespace Makes

variable {valued flags : List Text} {build : Given → Option Task} {g : Given}
  (makes : Makes valued flags build)
include makes

/-- No command takes a value for the flag that asks for JSON. -/
theorem bare : "json".toList ∉ valued := by cases makes <;> decide

theorem asJson (own : g.flags ⊆ "verbose".toList :: (OptionSet.withShared valued flags).flags)
    (built : build g = some task) : task.asJson = g.flag "json" := by
  cases makes with
  | definition | complete =>
    obtain ⟨_, _, _, -, rfl⟩ := atCursor?_eq_some built
    rfl
  | createClass =>
    obtain ⟨_, _, _, -, rfl⟩ := atCursor?_eq_some built
    exact (flag_eq_false own (by decide)).symm
  | classes | missing =>
    obtain ⟨_, _, rfl⟩ := Option.map_eq_some_iff.1 built
    rfl
  | scaffold =>
    dsimp only at built
    split at built
    next =>
      obtain ⟨_, _, rfl⟩ := Option.map_eq_some_iff.1 built
      exact (flag_eq_false own (by decide)).symm
    next => cases built
  | watch =>
    obtain ⟨_, -, built⟩ := Option.bind_eq_some_iff.1 built
    split at built
    next =>
      obtain rfl := Option.some.inj built
      exact (flag_eq_false own (by decide)).symm
    next =>
      obtain ⟨_, _, rfl⟩ := Option.map_eq_some_iff.1 built
      exact (flag_eq_false own (by decide)).symm

end Makes

theorem levels_of_task? {name : Text} (read : task? name arguments = some (task, levels)) :
    Levels arguments levels ∧ (task.asJson = true ↔ ∃ g ∈ levels, g.flag "json" = true) := by
  obtain ⟨valued, flags, build, makes, same⟩ | same | same := task?_cases name
  · rw [same] at read
    obtain ⟨g, level, built, rfl⟩ := of_readLowest read
    refine ⟨.lowest makes.bare level, ?_⟩
    rw [makes.asJson (flags_of_reads (reads_of_readLevel level) (by simp [Given.none])) built]
    simp
  · rw [same] at read
    obtain ⟨config, g, upper, lower, rfl, rfl⟩ := of_readConfig read
    refine ⟨.above upper (.lowest (by decide) lower), ?_⟩
    simp [Task.asJson, flag_eq_false_of_shared upper]
  · rw [same] at read
    cases read

end

/-- The value of an option that every level takes is the last that is given, else the variable's. -/
theorem sharedValue_of_levels (bindings : Bindings) {arguments : List Text} {levels : List Given}
    {name : String} (shared : name.toList ∈ OptionSet.shared.valued) (read : Levels arguments levels)
    (key : String) :
    sharedValue bindings levels name key =
      (valuesOf name.toList (options arguments)).getLast?.or (bindings.lookup key.toList) := by
  rw [values_of_levels shared read, ← List.filterMap_eq_flatMap_toList, List.getLast?_filterMap]
  rfl

section
variable {bindings : Bindings} {arguments : List Text} {i : Invocation}
  (made : invocation? bindings arguments = some i)
include made

/-- An invocation is made of the task and of what the levels share. -/
theorem levels_of_invocation? :
    ∃ name root beneath, readAll .shared true arguments = some root ∧
      task? name root.beneath = some (i.task, beneath) ∧ Levels arguments (root :: beneath) ∧
      i.config = (sharedValue bindings (root :: beneath) "config" "STYLELINK_CONFIG").map Path.mk ∧
      i.camelCase = sharedValue bindings (root :: beneath) "camel-case" "STYLELINK_CAMEL_CASE" ∧
      i.color = (sharedValue bindings (root :: beneath) "color" "STYLELINK_COLOR").getD "auto" := by
  obtain ⟨root, top, made⟩ := Option.bind_eq_some_iff.1 made
  split at made
  next name word =>
    obtain ⟨⟨task, beneath⟩, read, made⟩ := Option.bind_eq_some_iff.1 made
    simp only at made
    split at made
    next => cases made
    next =>
      cases made
      exact ⟨name, root, beneath, top, read, .above top (levels_of_task? read).1, rfl, rfl, rfl⟩
  next => cases made

/-- **The options of a command line are those before two dashes alone.** The policy is the last spelling
given to its option, else the variable's; and JSON is asked for by its flag. -/
theorem options_of_invocation? :
    i.camelCase = (valuesOf "camel-case" (options arguments)).getLast?.or
        (bindings.lookup "STYLELINK_CAMEL_CASE".toList) ∧
      (i.task.asJson = true ↔ "--json".toList ∈ options arguments) := by
  obtain ⟨name, root, beneath, top, read, levels, -, camelCase, -⟩ := levels_of_invocation? made
  refine ⟨camelCase.trans (sharedValue_of_levels bindings (by decide) levels _), ?_⟩
  rw [json_of_levels levels, (levels_of_task? read).2]
  simp [flag_eq_false_of_shared top]

/-- The color is the last given to its option, else the variable's. -/
theorem color_of_invocation? :
    i.color = ((valuesOf "color" (options arguments)).getLast?.or
      (bindings.lookup "STYLELINK_COLOR".toList)).getD "auto" := by
  obtain ⟨name, root, beneath, -, -, levels, -, -, color⟩ := levels_of_invocation? made
  rw [color, sharedValue_of_levels bindings (by decide) levels]

end

end ClassNav.Command
