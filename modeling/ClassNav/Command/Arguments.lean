import ClassNav.Path.Basic

/-!
Command lines. Options may stand before and after the words of a command; those of the program as a whole
may be given at the command too, where they count more. An option stands once at a level. What begins
with a dash is an option, except the dash alone and all that follows two dashes.
-/

namespace ClassNav.Command

/-- What is asked for. -/
inductive Task
  | definition (file : Path) (line column : Nat) (json : Bool)
  | classes (stylesheet : Path) (filter : Text) (json : Bool)
  | complete (file : Path) (line column : Nat) (json : Bool)
  | missing (file : Path) (object : Option Text) (json : Bool)
  | createClass (file : Path) (line column : Nat)
  | scaffold (stylesheet : Path) (name : Text)
  | watch (file : Path) (object : Option Text) (debounceMs : Option UInt64)
  | showConfig (json : Bool)
  deriving DecidableEq, Repr

structure Invocation where
  verbose : Bool
  config : Option Path
  camelCase : Option Text
  color : Text
  task : Task
  deriving DecidableEq, Repr

/-- The variables that are set outside the program, by name. -/
abbrev Bindings := List (Text × Text)

/-- The options of a level, with and without a value. -/
structure OptionSet where
  valued : List Text
  flags : List Text

namespace OptionSet

/-- Options that every level takes. -/
def shared : OptionSet := ⟨["config", "camel-case", "color"], ["verbose"]⟩

def withShared (valued flags : List Text) : OptionSet :=
  ⟨shared.valued ++ valued, shared.flags ++ flags⟩

end OptionSet

/-- What was given at one level. A level with commands beneath it ends at the first word. -/
structure Given where
  values : List (Text × Text)
  flags : List Text
  words : List Text
  beneath : List Text

namespace Given

def none : Given := ⟨[], [], [], []⟩

def value? (g : Given) (name : String) : Option Text := g.values.lookup name.toList

def flag (g : Given) (name : String) : Bool := g.flags.contains name.toList

def addValue (g : Given) (name value : Text) : Option Given :=
  if (g.values.lookup name).isSome then Option.none
  else some { g with values := g.values ++ [(name, value)] }

def addFlag (g : Given) (name : Text) : Option Given :=
  if g.flags.contains name then Option.none else some { g with flags := g.flags ++ [name] }

end Given

/-- How an argument reads apart from those around it. -/
inductive Shape
  | word
  /-- Two dashes alone. -/
  | stop
  | long (name : Text) (inline : Option Text)
  | short (letters : Text)
  deriving DecidableEq, Repr

/-- An option's name, and the value written into it after an equals sign. -/
def longOption (option : Text) : Shape :=
  let name := option.takeWhile (· ≠ '=')
  .long name (if name.length < option.length then some (option.drop (name.length + 1)) else none)

def shape : Text → Shape
  | '-' :: '-' :: [] => .stop
  | '-' :: '-' :: option => longOption option
  | '-' :: c :: letters => .short (c :: letters)
  | _ => .word

/-- The arguments of one level. An option that is `pending` takes the next argument for its value. -/
def readLevel (level : OptionSet) (ends : Bool) (pending : Option Text) (given : Given) :
    List Text → Option Given
  | [] => if pending.isNone then some given else none
  | argument :: rest =>
    match pending, shape argument with
    | some name, .word =>
      (given.addValue name argument).bind fun given => readLevel level ends none given rest
    | some _, _ => none
    | none, .word =>
      if ends then some { given with words := [argument], beneath := rest }
      else readLevel level ends none { given with words := given.words ++ [argument] } rest
    | none, .stop => if ends then none else some { given with words := given.words ++ rest }
    | none, .short letters =>
      if letters = ['v'] then
        (given.addFlag "verbose").bind fun given => readLevel level ends none given rest
      else none
    | none, .long name inline =>
      if level.valued.contains name then
        match inline with
        | some value =>
          (given.addValue name value).bind fun given => readLevel level ends none given rest
        | none => readLevel level ends (some name) given rest
      else if level.flags.contains name ∧ inline = none then
        (given.addFlag name).bind fun given => readLevel level ends none given rest
      else none

/-- The arguments of one level, from its beginning. -/
def readAll (level : OptionSet) (ends : Bool) (arguments : List Text) : Option Given :=
  readLevel level ends none .none arguments

/-- A number of 64 bits, perhaps after a plus sign. -/
def number? (t : Text) : Option Nat :=
  let digits := (Text.stripPrefix? ['+'] t).getD t
  if digits.isEmpty ∨ !digits.all Char.isDigit then none
  else
    if Text.ofDigits digits < UInt64.size then some (Text.ofDigits digits) else none

/-- A path is never empty. -/
def path? (t : Text) : Option Path := if t.isEmpty then none else some ⟨t⟩

def oneWord? (g : Given) : Option Text :=
  match g.words with
  | [word] => some word
  | _ => none

def file? (g : Given) : Option Path := (oneWord? g).bind path?

def requiredNumber? (g : Given) (name : String) : Option Nat := (g.value? name).bind number?

/-- The task at the command `name`, with all levels of arguments from the command down. -/
def task? (name : Text) (arguments : List Text) : Option (Task × List Given) :=
  let read (valued flags : List Text) (build : Given → Option Task) : Option (Task × List Given) :=
    (readAll (.withShared valued flags) false arguments).bind fun g =>
      (build g).map fun task => (task, [g])
  let atCursor (build : Path → Nat → Nat → Task) (g : Given) : Option Task :=
    (file? g).bind fun file =>
      (requiredNumber? g "line").bind fun line =>
        (requiredNumber? g "column").map fun column => build file line column
  if name = "definition".toList then
    read ["line", "column"] ["json"] fun g =>
      atCursor (fun file line column => .definition file line column (g.flag "json")) g
  else if name = "complete".toList then
    read ["line", "column"] ["json"] fun g =>
      atCursor (fun file line column => .complete file line column (g.flag "json")) g
  else if name = "create-class".toList then
    read ["line", "column"] [] (atCursor .createClass)
  else if name = "classes".toList then
    read ["filter"] ["json"] fun g =>
      (file? g).map fun sheet => .classes sheet ((g.value? "filter").getD []) (g.flag "json")
  else if name = "missing".toList then
    read ["object"] ["json"] fun g =>
      (file? g).map fun file => .missing file (g.value? "object") (g.flag "json")
  else if name = "scaffold".toList then
    read [] [] fun g =>
      match g.words with
      | [sheet, name] => (path? sheet).map fun sheet => .scaffold sheet name
      | _ => none
  else if name = "watch".toList then
    read ["object", "debounce-ms"] [] fun g =>
      (file? g).bind fun file =>
        match g.value? "debounce-ms" with
        | none => some (.watch file (g.value? "object") none)
        | some t => (number? t).map fun n => .watch file (g.value? "object") (some (.ofNat n))
  else if name = "config".toList then
    (readAll .shared true arguments).bind fun config =>
      if config.words = ["show".toList] then
        (readAll (.withShared [] ["json"]) false config.beneath).bind fun g =>
          if g.words.isEmpty then some (.showConfig (g.flag "json"), [config, g]) else none
      else none
  else none

/-- A value given at some level, the deepest first, else the variable. -/
def sharedValue (bindings : Bindings) (levels : List Given) (name key : String) :
    Option Text :=
  (levels.reverse.findSome? fun g => g.value? name).or (bindings.lookup key.toList)

/-- Each level that does not give an option falls back on the variable, so that must be sound. -/
def soundVariable (bindings : Bindings) (levels : List Given) (given : Given → Bool)
    (key : String) (sound : Text → Bool) : Bool :=
  levels.all given || (bindings.lookup key.toList).all sound

/-- The invocation that a command line and the environment make, if they make one. -/
def invocation? (bindings : Bindings) (arguments : List Text) : Option Invocation :=
  (readAll .shared true arguments).bind fun root =>
    match root.words with
    | [name] =>
      (task? name root.beneath).bind fun (task, beneath) =>
        let levels := root :: beneath
        let paths := levels.filterMap fun g => g.value? "config"
        if paths.any List.isEmpty ∨
            !soundVariable bindings levels (fun g => (g.value? "config").isSome)
              "STYLELINK_CONFIG" (fun t => !t.isEmpty) ∨
            !soundVariable bindings levels (fun g => g.flag "verbose") "STYLELINK_VERBOSE"
              (fun t => t == "true".toList || t == "false".toList) then none
        else
          some
            { verbose := levels.any (fun g => g.flag "verbose") ||
                bindings.lookup "STYLELINK_VERBOSE".toList == some "true".toList
              config := (sharedValue bindings levels "config" "STYLELINK_CONFIG").map Path.mk
              camelCase := sharedValue bindings levels "camel-case" "STYLELINK_CAMEL_CASE"
              color := (sharedValue bindings levels "color" "STYLELINK_COLOR").getD "auto"
              task := task }
    | _ => none

end ClassNav.Command
