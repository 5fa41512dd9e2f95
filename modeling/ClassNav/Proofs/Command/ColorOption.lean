import ClassNav.Proofs.Command.Options
import Mathlib.Data.List.Forall2
import Mathlib.Data.Option.Basic

/-!
The color option of a command line. Whatever it is given, all else is read alike: two command lines that
differ in nothing but its value make the same invocation, in another color.
-/

namespace ClassNav.Command

/-- The option for colors with its value, which is written into it or stands behind it. -/
def colorOption (inline : Bool) (value : Text) : List Text :=
  if inline then ["--color=".toList ++ value] else ["--color", value]

theorem shape_color : shape "--color".toList = .long "color" none := by decide

theorem shape_colorInline (value : Text) :
    shape ("--color=".toList ++ value) = .long "color" (some value) := by
  simp [shape, longOption]

/-- Command lines that are alike but for values of the option for colors. Behind two dashes nothing is an
option. -/
inductive Recolored (x y : Text) : List Text → List Text → Prop
  | nil : Recolored x y [] []
  | cons {a b : List Text} (argument : Text) (last : argument = "--".toList → a = b)
      (rest : Recolored x y a b) : Recolored x y (argument :: a) (argument :: b)
  | option {a b : List Text} (inline : Bool) (rest : Recolored x y a b) :
      Recolored x y (colorOption inline x ++ a) (colorOption inline y ++ b)

/-- What was given at one level of such command lines. -/
structure Given.Alike (x y : Text) (g g' : Given) : Prop where
  values : List.Forall₂ (fun v v' => v.1 = v'.1 ∧ (v.1 ≠ "color".toList → v.2 = v'.2)) g.values g'.values
  flags : g.flags = g'.flags
  words : g.words = g'.words
  beneath : Recolored x y g.beneath g'.beneath

theorem Recolored.refl {x y : Text} (arguments : List Text) : Recolored x y arguments arguments := by
  induction arguments with
  | nil => exact .nil
  | cons argument rest ih => exact .cons argument (fun _ => rfl) ih

theorem recolored_of_option {x y : Text} {before : List Text} (running : "--".toList ∉ before) (inline : Bool)
    (after : List Text) :
    Recolored x y (before ++ colorOption inline x ++ after) (before ++ colorOption inline y ++ after) := by
  induction before with
  | nil => exact .option inline (.refl after)
  | cons argument before ih =>
    obtain ⟨other, running⟩ := by simpa [not_or] using running
    exact .cons argument (fun dashes => absurd dashes.symm other) (ih running)

theorem rel_bind {α β γ δ : Type} {r : α → β → Prop} {s : γ → δ → Prop} {a : Option α} {b : Option β}
    {f : α → Option γ} {g : β → Option δ} (rel : Option.Rel r a b)
    (each : ∀ a b, r a b → Option.Rel s (f a) (g b)) : Option.Rel s (a.bind f) (b.bind g) := by
  cases rel with
  | none => exact .none
  | some related => exact each _ _ related

theorem isSome_of_rel {α β : Type} {r : α → β → Prop} {a : Option α} {b : Option β} (rel : Option.Rel r a b) :
    a.isSome = b.isSome := by
  cases rel <;> rfl

theorem eq_none_iff_of_rel {α β : Type} {r : α → β → Prop} {a : Option α} {b : Option β}
    (rel : Option.Rel r a b) : a = none ↔ b = none := by
  cases rel <;> simp

theorem exists_of_rel {α β : Type} {r : α → β → Prop} {a : Option α} {b : Option β} (rel : Option.Rel r a b)
    {x : α} (found : a = some x) : ∃ y, b = some y ∧ r x y := by
  cases rel with
  | none => cases found
  | some related => exact ⟨_, rfl, Option.some.inj found ▸ related⟩

theorem eq_of_rel {α : Type} {p : Prop} (holds : p) {a b : Option α}
    (rel : Option.Rel (fun a b => p → a = b) a b) : a = b := by
  cases rel with
  | none => rfl
  | some same => rw [same holds]

namespace Given.Alike

variable {x y : Text} {g g' : Given} (alike : g.Alike x y g')
include alike

theorem rel_lookup (name : Text) :
    Option.Rel (fun v v' => name ≠ "color".toList → v = v') (g.values.lookup name)
      (g'.values.lookup name) := by
  obtain ⟨values, -, -, -⟩ := alike
  revert values
  generalize g.values = vs, g'.values = vs'
  intro values
  induction values with
  | nil => exact .none
  | @cons v v' _ _ same _ ih =>
    rw [List.lookup_cons, List.lookup_cons, ← same.1]
    split
    next named => exact .some fun other => same.2 (eq_of_beq named ▸ other)
    next => exact ih

theorem value? (name : String) (other : name.toList ≠ "color".toList) : g.value? name = g'.value? name :=
  eq_of_rel other (alike.rel_lookup name.toList)

theorem flag (name : String) : g.flag name = g'.flag name := by
  rw [Given.flag, Given.flag, alike.flags]

theorem addValue {name value value' : Text} (same : name ≠ "color".toList → value = value') :
    Option.Rel (Given.Alike x y) (g.addValue name value) (g'.addValue name value') := by
  unfold Given.addValue
  rw [isSome_of_rel (alike.rel_lookup name)]
  split
  · exact .none
  · refine .some ⟨?_, alike.flags, alike.words, alike.beneath⟩
    exact List.rel_append alike.values (.cons ⟨rfl, same⟩ .nil)

theorem addFlag (name : Text) : Option.Rel (Given.Alike x y) (g.addFlag name) (g'.addFlag name) := by
  unfold Given.addFlag
  rw [alike.flags]
  split
  · exact .none
  · exact .some ⟨alike.values, rfl, alike.words, alike.beneath⟩

end Given.Alike

section
variable {x y : Text} {level : OptionSet} {ends : Bool}

theorem readLevel_inline {argument name value : Text} (long : shape argument = .long name (some value))
    (takes : name ∈ level.valued) (given : Given) (rest : List Text) :
    readLevel level ends none given (argument :: rest) =
      (given.addValue name value).bind fun given => readLevel level ends none given rest := by
  conv_lhs => unfold readLevel
  simp only [long, List.contains_iff_mem.2 takes, if_true]

theorem readLevel_option {argument name value : Text} (long : shape argument = .long name none)
    (takes : name ∈ level.valued) (word : shape value = .word) (given : Given) (rest : List Text) :
    readLevel level ends none given (argument :: value :: rest) =
      (given.addValue name value).bind fun given => readLevel level ends none given rest := by
  conv_lhs => unfold readLevel
  simp only [long, List.contains_iff_mem.2 takes, if_true]
  conv_lhs => unfold readLevel
  simp only [word]

/-- An option that waits for its value does not take another option for it. -/
theorem readLevel_pending {argument other : Text} {inline : Option Text}
    (long : shape argument = .long other inline) (name : Text) (given : Given) (rest : List Text) :
    readLevel level ends (some name) given (argument :: rest) = none := by
  unfold readLevel
  simp only [long]

/-- A level takes the value of the option for colors, unless another option still waits for its own. -/
theorem readLevel_colorOption (takes : "color".toList ∈ level.valued) {value : Text}
    (word : shape value = .word) (inline : Bool) (pending : Option Text) (given : Given) (rest : List Text) :
    readLevel level ends pending given (colorOption inline value ++ rest) =
      if pending.isSome then none
      else (given.addValue "color" value).bind fun given => readLevel level ends none given rest := by
  cases inline with
  | true =>
    change readLevel level ends pending given (("--color=".toList ++ value) :: rest) = _
    cases pending with
    | some name => exact readLevel_pending (shape_colorInline value) name given rest
    | none => exact readLevel_inline (shape_colorInline value) takes given rest
  | false =>
    change readLevel level ends pending given ("--color".toList :: value :: rest) = _
    cases pending with
    | some name => exact readLevel_pending shape_color name given _
    | none => exact readLevel_option shape_color takes word given rest

theorem rel_readLevel (takes : "color".toList ∈ level.valued) (word : shape x = .word)
    (word' : shape y = .word) {a b : List Text} (recolored : Recolored x y a b) (pending : Option Text)
    {g g' : Given} (alike : g.Alike x y g') :
    Option.Rel (Given.Alike x y) (readLevel level ends pending g a) (readLevel level ends pending g' b) := by
  induction recolored generalizing pending g g' with
  | nil =>
    unfold readLevel
    split
    · exact .some alike
    · exact .none
  | @cons a b argument last rest ih =>
    unfold readLevel
    cases pending with
    | some name =>
      cases shape argument with
      | word => exact rel_bind (alike.addValue fun _ => rfl) fun _ _ alike => ih none alike
      | stop | long | short => exact .none
    | none =>
      cases read : shape argument with
      | word =>
        cases ends with
        | true => exact .some ⟨alike.values, alike.flags, rfl, rest⟩
        | false =>
          have words := congrArg (· ++ [argument]) alike.words
          exact ih none ⟨alike.values, alike.flags, words, alike.beneath⟩
      | stop =>
        obtain rfl := last (shape_eq_stop read)
        cases ends with
        | true => exact .none
        | false => exact .some ⟨alike.values, alike.flags, congrArg (· ++ a) alike.words, alike.beneath⟩
      | short letters =>
        dsimp only
        split
        · exact rel_bind (alike.addFlag _) fun _ _ alike => ih none alike
        · exact .none
      | long name inline =>
        dsimp only
        split
        · cases inline with
          | none => exact ih (some name) alike
          | some value => exact rel_bind (alike.addValue fun _ => rfl) fun _ _ alike => ih none alike
        · split
          · exact rel_bind (alike.addFlag _) fun _ _ alike => ih none alike
          · exact .none
  | option inline rest ih =>
    rw [readLevel_colorOption takes word, readLevel_colorOption takes word']
    split
    · exact .none
    · exact rel_bind (alike.addValue fun other => absurd rfl other) fun _ _ alike => ih none alike

theorem rel_readAll (takes : "color".toList ∈ level.valued) (word : shape x = .word) (word' : shape y = .word)
    {a b : List Text} (recolored : Recolored x y a b) :
    Option.Rel (Given.Alike x y) (readAll level ends a) (readAll level ends b) :=
  rel_readLevel takes word word' recolored none ⟨.nil, rfl, rfl, .nil⟩

end

section
variable {x y : Text}

/-- No task depends on the color. -/
theorem Makes.eq_of_alike {valued flags : List Text} {build : Given → Option Task}
    (makes : Makes valued flags build) {g g' : Given} (alike : g.Alike x y g') : build g = build g' := by
  have file : file? g = file? g' := by rw [file?, file?, oneWord?, oneWord?, alike.words]
  have atCursor {task : Path → Nat → Nat → Task} : atCursor? task g = atCursor? task g' := by
    simp only [atCursor?, requiredNumber?, file, alike.value? "line" (by decide),
      alike.value? "column" (by decide)]
  cases makes with
  | definition | complete => simp only [alike.flag, atCursor]
  | createClass => exact atCursor
  | classes => simp only [file, alike.value? "filter" (by decide), alike.flag]
  | missing => simp only [file, alike.value? "object" (by decide), alike.flag]
  | scaffold => simp only [alike.words]
  | watch => simp only [file, alike.value? "object" (by decide), alike.value? "debounce-ms" (by decide)]

section
variable {levels levels' : List Given} (alike : List.Forall₂ (Given.Alike x y) levels levels')
include alike

theorem map_of_alike {α : Type} {f : Given → α} (same : ∀ g g' : Given, g.Alike x y g' → f g = f g') :
    levels.map f = levels'.map f := by
  induction alike with
  | nil => rfl
  | cons first _ ih => rw [List.map_cons, List.map_cons, same _ _ first, ih]

theorem filterMap_of_alike (name : String) (other : name.toList ≠ "color".toList) :
    levels.filterMap (fun g => g.value? name) = levels'.filterMap fun g => g.value? name := by
  have same := map_of_alike alike fun _ _ alike => alike.value? name other
  simpa [List.filterMap_map] using congrArg (List.filterMap id) same

theorem sharedValue_of_alike (bindings : Bindings) (name : String) (other : name.toList ≠ "color".toList)
    (key : String) : sharedValue bindings levels name key = sharedValue bindings levels' name key := by
  have last (levels : List Given) : sharedValue bindings levels name key =
      (levels.filterMap fun g => g.value? name).getLast?.or (bindings.lookup key.toList) := by
    rw [sharedValue, List.getLast?_filterMap]
  rw [last, last, filterMap_of_alike alike name other]

theorem soundVariable_of_alike (bindings : Bindings) {given : Given → Bool}
    (same : ∀ g g' : Given, g.Alike x y g' → given g = given g') (key : String) (sound : Text → Bool) :
    soundVariable bindings levels given key sound = soundVariable bindings levels' given key sound := by
  have all : levels.all given = levels'.all given := by
    simpa [List.all_map] using congrArg (List.all · id) (map_of_alike alike same)
  rw [soundVariable, soundVariable, all]

theorem any_flag_of_alike (name : String) :
    (levels.any fun g => g.flag name) = levels'.any fun g => g.flag name := by
  simpa [List.any_map] using congrArg (List.any · id) (map_of_alike alike fun _ _ alike => alike.flag name)

end

variable (word : shape x = .word) (word' : shape y = .word)
include word word'

theorem rel_task? (name : Text) {a b : List Text} (recolored : Recolored x y a b) :
    Option.Rel (fun read read' => read.1 = read'.1 ∧ List.Forall₂ (Given.Alike x y) read.2 read'.2)
      (task? name a) (task? name b) := by
  obtain ⟨valued, flags, build, makes, same⟩ | same | same := task?_cases name
  · rw [same]
    have takes : "color".toList ∈ (OptionSet.withShared valued flags).valued :=
      List.mem_append_left _ (by decide)
    refine rel_bind (rel_readAll takes word word' recolored) fun g g' alike => ?_
    rw [makes.eq_of_alike alike]
    cases build g' with
    | none => exact .none
    | some task => exact .some ⟨rfl, .cons alike .nil⟩
  · rw [same]
    refine rel_bind (rel_readAll (by decide) word word' recolored) fun g g' alike => ?_
    rw [alike.words]
    split
    · refine rel_bind (rel_readAll (by decide) word word' alike.beneath) fun h h' alike' => ?_
      rw [alike'.words]
      split
      · exact .some ⟨by rw [alike'.flag], .cons alike (.cons alike' .nil)⟩
      · exact .none
    · exact .none
  · rw [same]
    exact .none

/-- **The color of an invocation is all that the option for colors changes.** -/
theorem rel_invocation? (bindings : Bindings) {a b : List Text} (recolored : Recolored x y a b) :
    Option.Rel (fun i j => j = { i with color := j.color }) (invocation? bindings a)
      (invocation? bindings b) := by
  refine rel_bind (rel_readAll (by decide) word word' recolored) fun root root' alike => ?_
  rw [alike.words]
  split
  next name _ =>
    refine rel_bind (rel_task? word word' name alike.beneath) fun read read' same => ?_
    obtain ⟨task, beneath⟩ := read
    obtain ⟨task', beneath'⟩ := read'
    obtain ⟨rfl, below⟩ := same
    have levels : List.Forall₂ (Given.Alike x y) (root :: beneath) (root' :: beneath') := .cons alike below
    have given {g g' : Given} (alike : g.Alike x y g') :
        (g.value? "config").isSome = (g'.value? "config").isSome := by
      rw [alike.value? "config" (by decide)]
    simp only [filterMap_of_alike levels "config" (by decide),
      soundVariable_of_alike levels bindings (fun _ _ alike => given alike),
      soundVariable_of_alike levels bindings (fun _ _ alike => alike.flag "verbose"),
      any_flag_of_alike levels "verbose",
      sharedValue_of_alike levels bindings "config" (by decide),
      sharedValue_of_alike levels bindings "camel-case" (by decide)]
    split
    · exact .none
    · exact .some rfl
  next => exact .none

end

theorem valuesOf_append (name : Text) (a b : List Text) :
    ∃ front, valuesOf name (a ++ b) = front ++ valuesOf name b := by
  induction a with
  | nil => exact ⟨[], rfl⟩
  | cons argument a ih =>
    obtain ⟨front, more⟩ := ih
    exact ⟨_, by rw [List.cons_append, valuesOf, more, ← List.append_assoc]⟩

theorem valuesOf_colorOption {value : Text} (word : shape value = .word) (inline : Bool) (rest : List Text) :
    valuesOf "color" (colorOption inline value ++ rest) = value :: valuesOf "color" rest := by
  cases inline with
  | true =>
    change valuesOf "color" (("--color=".toList ++ value) :: rest) = _
    simp only [valuesOf, valueAt?, shape_colorInline, if_true]
    rfl
  | false =>
    change valuesOf "color" ("--color".toList :: value :: rest) = _
    simp only [valuesOf, valueAt?, shape_color, word, if_true]
    rfl

theorem options_append {a : List Text} (running : "--".toList ∉ a) (b : List Text) :
    options (a ++ b) = a ++ options b :=
  List.takeWhile_append_of_pos fun _ found => decide_eq_true fun dashes => running (dashes ▸ found)

theorem not_mem_colorOption {value : Text} (word : shape value = .word) (inline : Bool) :
    "--".toList ∉ colorOption inline value := by
  intro dashes
  cases inline with
  | true => simp [colorOption] at dashes
  | false =>
    obtain option | rfl := List.mem_cons.1 dashes |>.imp_right List.mem_singleton.1
    · exact absurd option (by decide)
    · cases word

/-- The color is the one of the last option for colors. -/
theorem color_of_colorOption {bindings : Bindings} {before after : List Text} {i : Invocation} {inline : Bool}
    {value : Text} (word : shape value = .word) (running : "--".toList ∉ before)
    (last : valuesOf "color" (options after) = [])
    (made : invocation? bindings (before ++ colorOption inline value ++ after) = some i) :
    i.color = value := by
  have whole : options (before ++ colorOption inline value ++ after) =
      before ++ (colorOption inline value ++ options after) := by
    rw [List.append_assoc, options_append running, options_append (not_mem_colorOption word inline)]
  obtain ⟨front, given⟩ := valuesOf_append "color" before (colorOption inline value ++ options after)
  rw [color_of_invocation? made, whole, given, valuesOf_colorOption word, last, List.getLast?_concat]
  rfl

end ClassNav.Command
