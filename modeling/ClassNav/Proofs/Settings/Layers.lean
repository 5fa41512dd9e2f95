import ClassNav.Proofs.Path.Places
import ClassNav.Settings.Load
import Mathlib.Tactic.MkIffOfInductiveProp

/-!
Settings in effect. Two files have a say, value by value: the global one, and the nearest one on the way
up from a directory. One that is there but makes no sense ends it all.
-/

namespace ClassNav.Settings

/-- The settings file that governs a directory: its own, else the one that governs the directory above. -/
inductive Governs (store : Store) : Option Path → Path → Prop
  | here {dir : Path} (own : store.isFile (dir.join projectFileName) = true) :
      Governs store (some (dir.join projectFileName)) dir
  | above {dir up : Path} {found : Option Path} (bare : store.isFile (dir.join projectFileName) = false)
      (parent : dir.parent? = some up) (rest : Governs store found up) : Governs store found dir
  | nowhere {dir : Path} (bare : store.isFile (dir.join projectFileName) = false)
      (top : dir.parent? = none) : Governs store none dir

/-- What a settings file sets. One that is missing or blank sets nothing. -/
@[mk_iff]
inductive Sets (store : Store) (p : Path) : Layer → Prop
  | missing (absent : store.has p = false) : Sets store p .empty
  | blank {content : Text} (read : store.readText p = .ok content) (blank : Text.IsBlank content) :
      Sets store p .empty
  | written {content : Text} {layer : Layer} (read : store.readText p = .ok content)
      (filled : ¬Text.IsBlank content) (parsed : Layer.ofYaml? content = some layer) :
      Sets store p layer

/-- The settings file is there, but it cannot be read or what it holds is no layer. -/
@[mk_iff]
inductive Unusable (store : Store) (p : Path) : Prop
  | unreadable {e : FileError} (there : store.has p = true) (refused : store.readText p = .error e)
  | malformed {content : Text} (read : store.readText p = .ok content)
      (filled : ¬Text.IsBlank content) (refused : Layer.ofYaml? content = none)

/-- What is set for all projects. Without a place for the global file nothing is. -/
inductive GlobalSets (store : Store) : Option Path → Layer → Prop
  | file {p : Path} {layer : Layer} (sets : Sets store p layer) : GlobalSets store (some p) layer
  | nowhere : GlobalSets store none .empty

/-- What is set for a project, given by a directory in it. -/
inductive ProjectSets (store : Store) (dir : Path) : Layer → Prop
  | governed {p : Path} {layer : Layer} (governs : Governs store (some p) dir)
      (sets : Sets store p layer) : ProjectSets store dir layer
  | free (governs : Governs store none dir) : ProjectSets store dir .empty

/-- Settings made of two layers over the defaults. Dots before an extension are dropped. -/
structure Merged (lower upper : Layer) (s : Settings) : Prop where
  camelCase : s.camelCase = (upper.camelCase.or lower.camelCase).getD .off
  debounceMs : s.debounceMs = (upper.debounceMs.or lower.debounceMs).getD 500
  documentExtensions : s.documentExtensions =
    ((upper.documentExtensions.or lower.documentExtensions).map fun listed =>
      listed.map fun e => List.dropWhile (· = '.') e).getD (["js", "jsx", "tsx"] : List Text)

/-- What loading comes to, case by case: a failure of the global file, else one of the file that governs
the directory, else settings, which must have a delay. -/
structure Layered (store : Store) (global : Option Path) (dir : Path)
    (loaded : Except Failure Resolved) : Prop where
  governed : ∃! found, Governs store found dir
  covered : (∃ p, global = some p ∧ Unusable store p) ∨
    (∃ p, Governs store (some p) dir ∧ Unusable store p) ∨
    ∃ lower upper, GlobalSets store global lower ∧ ProjectSets store dir upper
  globalFails : (∃ detail, loaded = .error (.invalidGlobalSettings detail)) ↔
    ∃ p, global = some p ∧ Unusable store p
  projectFails : (∃ detail, loaded = .error (.invalidProjectSettings detail)) ↔
    (¬∃ p, global = some p ∧ Unusable store p) ∧ ∃ p, Governs store (some p) dir ∧ Unusable store p
  valueFails : (∃ problem hint, loaded = .error (.invalidValue problem hint)) ↔
    ∃ lower upper, GlobalSets store global lower ∧ ProjectSets store dir upper ∧
      upper.debounceMs.or lower.debounceMs = some 0
  succeeds : ∀ lower upper, GlobalSets store global lower → ProjectSets store dir upper →
    upper.debounceMs.or lower.debounceMs ≠ some 0 →
    ∃ resolved, loaded = .ok resolved ∧ Merged lower upper resolved.settings

section
variable {complaint : Text → Text} {store : Store}

theorem governs_iff {dir : Path} {found : Option Path} :
    Governs store found dir ↔ projectPath? store dir = found := by
  have next (dir : Path) : projectPath? store dir =
      if store.isFile (dir.join projectFileName) then some (dir.join projectFileName)
      else dir.parent?.bind (projectPath? store) := by
    rw [projectPath?, Path.ancestors_eq, List.map_cons, List.find?_cons]
    cases store.isFile (dir.join projectFileName) <;> cases dir.parent? <;> rfl
  constructor
  · intro governs
    induction governs with
    | here own => rw [next, if_pos own]
    | above bare parent _ ih =>
      rw [next, if_neg (by simp [bare]), parent]
      exact ih
    | nowhere bare top =>
      rw [next, if_neg (by simp [bare]), top]
      rfl
  · intro looked
    -- the way up ends because every parent has a shorter spelling
    induction shorter : dir.text.length using Nat.strong_induction_on generalizing dir with
    | _ n ih =>
      subst shorter
      rw [next] at looked
      split at looked
      next own => exact looked ▸ .here own
      next bare =>
        rw [Bool.not_eq_true] at bare
        cases parent : dir.parent? with
        | none =>
          rw [parent] at looked
          exact looked ▸ .nowhere bare parent
        | some up =>
          rw [parent] at looked
          exact .above bare parent (ih _ (Path.length_of_parent? parent) looked rfl)

/-- One visible character is enough. -/
theorem filled_of_head {t : Text} {c : Char} (first : t.head? = some c)
    (visible : Character.isBlank c = false) : ¬Text.IsBlank t := fun blank => by
  simp [blank c (List.mem_of_head? first)] at visible

theorem has_of_readText {p : Path} {content : Text} (read : store.readText p = .ok content) :
    store.has p = true := by
  unfold Store.readText Store.read at read
  unfold Store.has
  cases found : store.find p with
  | error e => simp [found] at read
  | ok place => rfl

/-- A settings file that can be used sets one thing, and one that cannot sets nothing. -/
theorem readLayer_cases (complaint : Text → Text) (store : Store) (p : Path) (fail : Text → Failure) :
    (∃ layer, (readLayer complaint store p fail).value = .ok layer ∧ ¬Unusable store p ∧
      ∀ set, Sets store p set ↔ set = layer.getD .empty) ∨
    (∃ detail, (readLayer complaint store p fail).value = .error (fail detail) ∧ Unusable store p ∧
      ∀ set, ¬Sets store p set) := by
  unfold readLayer
  cases there : store.has p with
  | false =>
    have absent (content : Text) : store.readText p ≠ .ok content := fun read => by
      simp [has_of_readText read] at there
    exact .inl ⟨none, rfl, by simp [unusable_iff, there, absent], by simp [sets_iff, there, absent]⟩
  | true =>
    cases read : store.readText p with
    | error e =>
      exact .inr ⟨_, rfl, .unreadable there read, by simp [sets_iff, there, read]⟩
    | ok content =>
      by_cases blank : Text.IsBlank content
      · exact .inl ⟨some .empty, by simp [blank], by simp [unusable_iff, read, blank],
          by simp [sets_iff, there, read, blank]⟩
      · cases parsed : Layer.ofYaml? content with
        | none =>
          exact .inr ⟨_, by simp [blank, parsed]; rfl, .malformed read blank parsed,
            by simp [sets_iff, there, read, blank, parsed]⟩
        | some layer =>
          exact .inl ⟨some layer, by simp [blank, parsed], by simp [unusable_iff, read, blank, parsed],
            by simp [sets_iff, there, read, blank, parsed, eq_comm]⟩

theorem projectSets_iff {dir : Path} {layer : Layer} :
    ProjectSets store dir layer ↔
      match projectPath? store dir with
      | some p => Sets store p layer
      | none => layer = .empty := by
  constructor
  · rintro (⟨governs, sets⟩ | governs)
    · rw [governs_iff.1 governs]
      exact sets
    · rw [governs_iff.1 governs]
  · intro sets
    cases found : projectPath? store dir with
    | none =>
      rw [found] at sets
      exact sets ▸ .free (governs_iff.2 found)
    | some p =>
      rw [found] at sets
      exact .governed (governs_iff.2 found) sets

theorem readAt_cases (complaint : Text → Text) (store : Store) (p : Path) (fail : Text → Failure) :
    (∃ layer, (readAt complaint store p fail).value = .ok (some (p, layer)) ∧ ¬Unusable store p ∧
      ∀ set, Sets store p set ↔ set = layer.getD .empty) ∨
    (∃ detail, (readAt complaint store p fail).value = .error (fail detail) ∧ Unusable store p ∧
      ∀ set, ¬Sets store p set) := by
  obtain ⟨layer, read, usable, sets⟩ | ⟨detail, read, unusable, silent⟩ :=
    readLayer_cases complaint store p fail
  · exact .inl ⟨layer, by simp [readAt, read], usable, sets⟩
  · exact .inr ⟨detail, by simp [readAt, read], unusable, silent⟩

theorem globalSets_iff {global : Option Path} {layer : Layer} :
    GlobalSets store global layer ↔
      match global with
      | some p => Sets store p layer
      | none => layer = .empty := by
  constructor
  · rintro (sets | -)
    · exact sets
    · rfl
  · cases global with
    | none => exact fun empty => empty ▸ .nowhere
    | some p => exact .file

theorem readGlobal_cases (complaint : Text → Text) (store : Store) (global : Option Path) :
    (∃ found, (readGlobal complaint store global).value = .ok found ∧
      (¬∃ p, global = some p ∧ Unusable store p) ∧
      ∀ set, GlobalSets store global set ↔ set = (found.bind (·.2)).getD .empty) ∨
    (∃ detail, (readGlobal complaint store global).value = .error (.invalidGlobalSettings detail) ∧
      (∃ p, global = some p ∧ Unusable store p) ∧ ∀ set, ¬GlobalSets store global set) := by
  simp only [globalSets_iff]
  cases global with
  | none => exact .inl ⟨none, rfl, by simp, by simp⟩
  | some p =>
    obtain ⟨layer, read, usable, sets⟩ | ⟨detail, read, unusable, silent⟩ :=
      readAt_cases complaint store p .invalidGlobalSettings
    · exact .inl ⟨some (p, layer), read, by simpa using usable, by simpa using sets⟩
    · exact .inr ⟨detail, read, ⟨p, rfl, unusable⟩, silent⟩

theorem readProject_cases (complaint : Text → Text) (store : Store) (dir : Path) :
    (∃ found, (readProject complaint store dir).value = .ok found ∧
      (¬∃ p, Governs store (some p) dir ∧ Unusable store p) ∧
      ∀ set, ProjectSets store dir set ↔ set = (found.bind (·.2)).getD .empty) ∨
    (∃ detail, (readProject complaint store dir).value = .error (.invalidProjectSettings detail) ∧
      (∃ p, Governs store (some p) dir ∧ Unusable store p) ∧ ∀ set, ¬ProjectSets store dir set) := by
  simp only [governs_iff, projectSets_iff, readProject]
  cases found : projectPath? store dir with
  | none => exact .inl ⟨none, rfl, by simp, by simp⟩
  | some p =>
    obtain ⟨layer, read, usable, sets⟩ | ⟨detail, read, unusable, silent⟩ :=
      readAt_cases complaint store p .invalidProjectSettings
    · exact .inl ⟨some (p, layer), read, by simpa using usable, by simpa using sets⟩
    · exact .inr ⟨detail, read, ⟨p, rfl, unusable⟩, silent⟩

theorem merged_apply (lower upper : Layer) : Merged lower upper ((default.apply lower).apply upper) := by
  obtain ⟨_, _, _⟩ := lower
  obtain ⟨_ | _, _ | _, _ | _⟩ := upper <;> exact ⟨rfl, rfl, rfl⟩

theorem finish_value (settings : Settings) (sources : List Source) :
    (settings.debounceMs = 0 ∧ ∃ problem hint,
      (finish settings sources).value = .error (.invalidValue problem hint)) ∨
    (settings.debounceMs ≠ 0 ∧ ∃ resolved,
      (finish settings sources).value = .ok resolved ∧ resolved.settings = settings) := by
  unfold finish validate
  by_cases zero : settings.debounceMs = 0
  · exact .inl ⟨zero, _, _, by simp [zero]; exact ⟨rfl, rfl⟩⟩
  · by_cases none : settings.documentExtensions = []
    · exact .inr ⟨zero, _, by simp [zero, none]; rfl, rfl⟩
    · exact .inr ⟨zero, _, by simp [zero, none]; rfl, rfl⟩

/-- Layers that could be read make settings, unless there is no delay then. -/
theorem layered_finish {global : Option Path} {dir : Path} {lower upper : Layer}
    (governed : ∃! found, Governs store found dir)
    (usable : ¬∃ p, global = some p ∧ Unusable store p)
    (usable' : ¬∃ p, Governs store (some p) dir ∧ Unusable store p)
    (sets : ∀ set, GlobalSets store global set ↔ set = lower)
    (sets' : ∀ set, ProjectSets store dir set ↔ set = upper) (sources : List Source) :
    Layered store global dir (finish ((default.apply lower).apply upper) sources).value := by
  have merged := merged_apply lower upper
  have zero : ((default.apply lower).apply upper).debounceMs = 0 ↔
      upper.debounceMs.or lower.debounceMs = some 0 := by
    rw [merged.debounceMs]
    cases upper.debounceMs.or lower.debounceMs <;> simp
  obtain ⟨stuck, problem, hint, failed⟩ | ⟨delayed, resolved, loaded, same⟩ :=
    finish_value ((default.apply lower).apply upper) sources
  · rw [failed]
    constructor
    case governed => exact governed
    case valueFails =>
      exact ⟨fun _ => ⟨lower, upper, (sets _).2 rfl, (sets' _).2 rfl, zero.1 stuck⟩,
        fun _ => ⟨problem, hint, rfl⟩⟩
    case succeeds =>
      intro lower' upper' set set' delayed
      rw [(sets lower').1 set, (sets' upper').1 set'] at delayed
      exact absurd (zero.1 stuck) delayed
    all_goals simp [usable, usable', sets, sets']
  · rw [loaded]
    constructor
    case governed => exact governed
    case valueFails =>
      refine ⟨by simp, ?_⟩
      rintro ⟨lower', upper', set, set', stuck⟩
      rw [(sets lower').1 set, (sets' upper').1 set'] at stuck
      exact absurd (zero.2 stuck) delayed
    case succeeds =>
      rintro lower' upper' set set' -
      rw [(sets lower').1 set, (sets' upper').1 set']
      exact ⟨resolved, rfl, same ▸ merged⟩
    all_goals simp [usable, usable', sets, sets']

end

/-- **Loading comes to what the two files say, value by value.** -/
theorem layered_load (complaint : Text → Text) (store : Store) (global : Option Path) (dir : Path) :
    Layered store global dir (load complaint store global dir).value := by
  have governed : ∃! found, Governs store found dir :=
    ⟨projectPath? store dir, governs_iff.2 rfl, fun found governs => (governs_iff.1 governs).symm⟩
  unfold load
  rw [Logged.value_bind]
  obtain ⟨lower, read, usable, sets⟩ | ⟨detail, read, unusable, silent⟩ :=
    readGlobal_cases complaint store global
  case inr =>
    rw [read]
    constructor
    case governed => exact governed
    all_goals simp [unusable, silent]
  simp only [read, Logged.value_bind]
  obtain ⟨project, read', usable', sets'⟩ | ⟨detail, read', unusable', silent'⟩ :=
    readProject_cases complaint store dir
  case inr =>
    rw [read']
    constructor
    case governed => exact governed
    all_goals simp [usable, unusable', silent']
  rw [read']
  exact layered_finish governed usable usable' sets sets' _

/-- Without a place for the global file the settings are what the project writes over the defaults. -/
theorem load_of_project {complaint : Text → Text} {store : Store} {dir p : Path} {content : Text}
    (layer : Layer) (governs : Governs store (some p) dir) (read : store.readText p = .ok content)
    (filled : ¬Text.IsBlank content) (parsed : Layer.ofYaml? content = some layer) :
    (load complaint store none dir).value =
      (finish (default.apply layer) [⟨"project", p, true⟩]).value := by
  have skipped : (readGlobal complaint store none).value = .ok none := rfl
  have written : (readAt complaint store p .invalidProjectSettings).value = .ok (some (p, some layer)) := by
    simp only [readAt, readLayer, has_of_readText read, read, if_neg filled, parsed]
    rfl
  simp only [load, Logged.value_bind, skipped, readProject, governs_iff.1 governs, written]
  rfl

end ClassNav.Settings
