import ClassNav.Document.Basic
import ClassNav.Path.Normalize
import ClassNav.Proofs.Path.Components

/-!
Resolved paths. A path resolves to the place that the parts of the working directory, the base and the path
lead to, from the last absolute one of these on.
-/

namespace ClassNav

namespace Location

/-- Where parts of a path lead from a place. -/
inductive Leads : Location → List Text → Location → Prop
  | arrived (l : Location) : Leads l [] l
  | here {l m : Location} {parts : List Text} (rest : Leads l parts m) : Leads l (['.'] :: parts) m
  | up {l m : Location} {n : Text} {parts : List Text} (rest : Leads l parts m) :
      Leads (l ++ [n]) (['.', '.'] :: parts) m
  | top {m : Location} {parts : List Text} (rest : Leads [] parts m) : Leads [] (['.', '.'] :: parts) m
  | name {l m : Location} {n : Text} {parts : List Text} (plain : n ≠ ['.'] ∧ n ≠ ['.', '.'])
      (rest : Leads (l ++ [n]) parts m) : Leads l (n :: parts) m

theorem stepOf?_of_plain {n : Text} (filled : n ≠ []) (plain : n ≠ ['.'] ∧ n ≠ ['.', '.']) :
    Path.stepOf? n = some (.name n) := by
  simp [Path.stepOf?, filled, plain]

theorem stepOf?_up : Path.stepOf? ['.', '.'] = some .up := rfl

theorem step_up (l : Location) (n : Text) : (l ++ [n] : Location).step .up = l := List.dropLast_concat

/-- Parts lead to one place, which taking their steps one after another reaches. -/
theorem leads_iff {l m : Location} {parts : List Text} (filled : ∀ part ∈ parts, part ≠ []) :
    Leads l parts m ↔ m = (parts.filterMap Path.stepOf?).foldl step l := by
  constructor
  · intro leads
    induction leads with
    | arrived => rfl
    | here rest ih => exact ih fun part found => filled part (List.mem_cons_of_mem _ found)
    | up rest ih =>
      rw [List.filterMap_cons_some stepOf?_up, List.foldl_cons, step_up]
      exact ih fun part found => filled part (List.mem_cons_of_mem _ found)
    | top rest ih => exact ih fun part found => filled part (List.mem_cons_of_mem _ found)
    | name plain rest ih =>
      rw [List.filterMap_cons_some (stepOf?_of_plain (filled _ (List.mem_cons_self ..)) plain)]
      exact ih fun part found => filled part (List.mem_cons_of_mem _ found)
  · rintro rfl
    induction parts generalizing l with
    | nil => exact .arrived l
    | cons part parts ih =>
      have rest (l : Location) := ih (l := l) fun part found => filled part (List.mem_cons_of_mem _ found)
      by_cases here : part = ['.']
      · subst here
        exact .here (rest l)
      · by_cases up : part = ['.', '.']
        · subst up
          obtain rfl | ⟨above, n, rfl⟩ := List.eq_nil_or_concat' l
          · exact .top (rest [])
          · rw [List.filterMap_cons_some stepOf?_up, List.foldl_cons, step_up]
            exact .up (rest above)
        · rw [List.filterMap_cons_some (stepOf?_of_plain (filled _ (List.mem_cons_self ..)) ⟨here, up⟩)]
          exact .name ⟨here, up⟩ (rest _)

end Location

namespace Path

open Location

/-- The path of a place does not end in a slash, but that of the root. -/
theorem getLast?_path_ne {l : Location} (proper : l.Proper) (below : l ≠ []) :
    l.path.text.getLast? ≠ some '/' := by
  obtain ⟨above, n, rfl⟩ := (List.eq_nil_or_concat' l).resolve_left below
  have isName : IsName n := proper n (by simp)
  obtain ⟨tail, ends⟩ : n <:+ (Location.path (above ++ [n])).text := by
    refine .trans ?_ (List.suffix_cons ..)
    by_cases top : above = []
    · simp [top, Text.joinWith]
    · rw [Text.joinWith_concat _ _ top, ← List.append_assoc]
      exact List.suffix_append ..
  intro slash
  rw [← ends, List.getLast?_append_of_ne_nil _ isName.nonempty] at slash
  exact isName.undivided (List.mem_of_getLast? slash)

theorem join_path {l : Location} {n : Text} (proper : l.Proper) (isName : IsName n) :
    l.path.join n = Location.path (l ++ [n]) := by
  have relative : n.head? ≠ some '/' := fun first => isName.undivided (List.mem_of_head? first)
  rw [join, if_neg relative]
  by_cases top : l = []
  · subst top
    rw [if_pos (.inr rfl)]
    simp [Location.path, Text.joinWith]
  · have open_ended : ¬ (l.path.text = [] ∨ l.path.text.getLast? = some '/') :=
      not_or.2 ⟨List.cons_ne_nil _ _, getLast?_path_ne proper top⟩
    rw [if_neg open_ended, Location.path, Location.path, Text.joinWith_concat _ _ top]
    rfl

theorem steps_last {l : Location} (proper : l.Proper) :
    l.path.steps.getLast? = some ((l.getLast?.map Step.name).getD .root) := by
  rw [steps_path proper, List.getLast?_cons, List.getLast?_map]

/-- Taking a step on a plain path leads to the path of the place that the step leads to. -/
theorem push_path {l : Location} (proper : l.Proper) {step : Step}
    (named : ∀ n, step = .name n → IsName n) : l.path.push step = (l.step step).path := by
  cases step with
  | root => rfl
  | here => rfl
  | up =>
    rw [push, steps_last proper]
    obtain rfl | ⟨above, n, rfl⟩ := List.eq_nil_or_concat' l
    · rfl
    · rw [List.getLast?_concat, Option.map_some, Option.getD_some]
      dsimp only
      rw [parent?_path proper (by simp), Option.getD_some]
      rfl
  | name n => exact join_path proper (named n rfl)

theorem foldl_push {l : Location} (proper : l.Proper) {steps : List Step}
    (named : ∀ n, .name n ∈ steps → IsName n) :
    steps.foldl push l.path = (steps.foldl Location.step l).path := by
  induction steps generalizing l with
  | nil => rfl
  | cons step steps ih =>
    have here : ∀ n, step = .name n → IsName n := fun n same => named n (by simp [same])
    rw [List.foldl_cons, push_path proper here, ih (proper.step here), List.foldl_cons]
    exact fun n later => named n (List.mem_cons_of_mem _ later)

/-- Building an absolute path anew gives the path of its place. -/
theorem normalize_eq {p : Path} (absolute : p.isAbsolute = true) : p.normalize = p.location.path := by
  have steps : p.steps = .root :: p.moves := by
    rw [Path.steps, absolute]
    rfl
  rw [normalize, steps, List.foldl_cons, location_eq]
  have top : push ⟨[]⟩ .root = Location.path [] := rfl
  rw [top]
  refine foldl_push (fun n found => by cases found) fun n found => ?_
  exact isName_of_mem_steps (p := p) (steps ▸ List.mem_cons_of_mem _ found)

theorem anchored_eq (cwd p : Path) : anchored cwd p = cwd.join p.text := by
  rw [anchored]
  split
  next absolute => rw [join_of_absolute (isAbsolute_iff.1 absolute)]
  next => rfl

theorem isAbsolute_anchored {cwd : Path} (absolute : cwd.isAbsolute = true) (p : Path) :
    (anchored cwd p).isAbsolute = true := by
  rw [anchored]
  split
  next from_root => exact from_root
  next below => rw [isAbsolute_join (mt isAbsolute_iff.2 below), absolute]

/-- Of paths each of which is seen from those before it, the last absolute one and what is behind it. -/
def sinceRoot : List Path → List Path
  | [] => []
  | p :: rest => if rest.any isAbsolute then sinceRoot rest else p :: rest

theorem leads_location_resolve (cwd base : Path) (spec : Text) (l : Location) :
    Leads [] ((sinceRoot [cwd, base, ⟨spec⟩]).flatMap components) l ↔
      l = (resolve cwd base spec).location := by
  rw [leads_iff, location_resolve, List.filterMap_flatMap]
  · have moves : ((sinceRoot [cwd, base, ⟨spec⟩]).flatMap fun p => p.components.filterMap stepOf?) =
        (if spec.head? = some '/' then [] else movesFrom cwd base) ++ moves ⟨spec⟩ := by
      simp only [← moves_eq, sinceRoot, movesFrom, List.any_cons, List.any_nil, Bool.or_false]
      cases from_root : base.isAbsolute <;> cases alone : isAbsolute ⟨spec⟩ <;>
        simp [isAbsolute_iff.symm, alone]
    rw [moves]
  · intro part found
    obtain ⟨p, -, found⟩ := List.mem_flatMap.1 found
    exact filled_of_mem_components found

/-- A resolved path is told by its place. -/
theorem resolve_inj {cwd cwd' base base' : Path} {spec spec' : Text}
    (same : (resolve cwd base spec).location = (resolve cwd' base' spec').location) :
    resolve cwd base spec = resolve cwd' base' spec' := by
  rw [← isPlain_resolve cwd base spec, same, isPlain_resolve]

theorem resolve_resolved (cwd cwd' b base : Path) (spec : Text) :
    resolve cwd' b (resolve cwd base spec).text = resolve cwd base spec := by
  have absolute : (resolve cwd base spec).text.head? = some '/' := rfl
  rw [resolve, join_of_absolute absolute, join_of_absolute absolute]
  exact isPlain_resolve cwd base spec

theorem resolve_append (cwd base : Path) {a b : Text} (nonempty : a ≠ [])
    (relative : b.head? ≠ some '/') :
    resolve cwd base (a ++ '/' :: b) = resolve cwd (resolve cwd base a) b := by
  apply resolve_inj
  have from_root : movesFrom cwd (resolve cwd base a) = (resolve cwd base a).moves := rfl
  have head : (a ++ '/' :: b).head? = a.head? := List.head?_append_of_ne_nil _ nonempty
  rw [location_resolve cwd base, location_resolve cwd (resolve cwd base a), if_neg relative, from_root,
    head, moves_append, ← List.append_assoc, List.foldl_append, ← location_resolve, List.foldl_append,
    ← location_eq]

theorem resolve_base_congr {cwd base base' : Path} (same : movesFrom cwd base = movesFrom cwd base')
    (spec : Text) : resolve cwd base spec = resolve cwd base' spec := by
  apply resolve_inj
  rw [location_resolve, location_resolve, same]

section
variable {cwd : Path} (absolute : cwd.isAbsolute = true)
include absolute

theorem movesFrom_join {p : Path} (relative : p.isAbsolute = false) :
    movesFrom cwd (cwd.join p.text) = movesFrom cwd p := by
  have spec_relative : p.text.head? ≠ some '/' := by
    rw [Ne, ← isAbsolute_iff, relative]
    exact Bool.false_ne_true
  rw [movesFrom, movesFrom, isAbsolute_join spec_relative, absolute, relative,
    moves_join spec_relative]
  rfl

/-- A document has the same directory from the root, whether addressed by a relative path or by an
absolute one. -/
theorem movesFrom_baseDir {p : Path} (named : ∃ part ∈ p.components, part ≠ ['.']) (text : Text) :
    movesFrom cwd (Document.mk p text).baseDir =
      movesFrom cwd (Document.mk (cwd.join p.text) text).baseDir := by
  by_cases from_root : p.isAbsolute = true
  · rw [join_of_absolute (isAbsolute_iff.1 from_root)]
  · have spec_relative : p.text.head? ≠ some '/' := mt isAbsolute_iff.2 from_root
    have some_move : p.moves ≠ [] := moves_ne_nil named
    have joined : (cwd.join p.text).moves = cwd.moves ++ p.moves := moves_join spec_relative
    have some_move' : (cwd.join p.text).moves ≠ [] := by simp [joined, some_move]
    obtain ⟨dir, parent, moves, below⟩ := exists_parent some_move
    obtain ⟨dir', parent', moves', below'⟩ := exists_parent some_move'
    rw [isAbsolute_join spec_relative, absolute] at below'
    rw [Document.baseDir, Document.baseDir, parent, parent', Option.getD_some, Option.getD_some,
      movesFrom, movesFrom, below, below', if_neg from_root, if_pos rfl, moves, moves', joined,
      List.dropLast_append_of_ne_nil some_move]

end

/-- **Resolving reads the parts of paths from the root**, the last absolute path and what is behind it. The
result is plain: it has neither dots nor empty parts, and resolves to itself. A path may be resolved in two
steps, and a relative base or document counts as seen from the working directory. A path of dots alone names
that directory itself and no document in it. -/
theorem resolve_laws {cwd : Path} (absolute : cwd.isAbsolute = true) (base : Path) (spec : Text) :
    resolve cwd base spec = (anchored cwd (base.join spec)).normalize ∧
    (resolve cwd base spec).isAbsolute = true ∧
    (∃ l : Location, (resolve cwd base spec).text = '/' :: Text.joinWith ['/'] l ∧ (∀ n ∈ l, IsName n) ∧
      ∀ m, Leads [] ((sinceRoot [cwd, base, ⟨spec⟩]).flatMap components) m ↔ m = l) ∧
    (∀ b, resolve cwd b (resolve cwd base spec).text = resolve cwd base spec) ∧
    (∀ a b, a ≠ [] → b.head? ≠ some '/' →
      resolve cwd base (a ++ '/' :: b) = resolve cwd (resolve cwd base a) b) ∧
    (base.isAbsolute = false → resolve cwd base spec = resolve cwd (cwd.join base.text) spec) ∧
    ∀ p text, (∃ part ∈ p.components, part ≠ ['.']) →
      resolve cwd (Document.mk p text).baseDir spec =
        resolve cwd (Document.mk (cwd.join p.text) text).baseDir spec := by
  refine ⟨?_, rfl, ⟨(resolve cwd base spec).location, ?_, proper_location _,
    leads_location_resolve cwd base spec⟩, fun b => resolve_resolved cwd cwd b base spec,
    fun a b nonempty relative => resolve_append cwd base nonempty relative,
    fun relative => resolve_base_congr (movesFrom_join absolute relative).symm spec,
    fun p text named => resolve_base_congr (movesFrom_baseDir absolute named text) spec⟩
  · rw [normalize_eq (isAbsolute_anchored absolute _), resolve, anchored_eq]
  · exact congrArg Path.text (isPlain_resolve cwd base spec).symm

/-- A relative base, more steps up than there are names, and a document beside the base. -/
theorem resolve_laws_above_root :
    let spec : Text := "../../../../d//./e.css"
    isAbsolute ⟨"/w"⟩ = true ∧ (resolve ⟨"/w"⟩ ⟨"a/./b"⟩ spec).text = "/d/e.css".toList ∧
      resolve ⟨"/w"⟩ (Document.mk ⟨"./a/page.js"⟩ []).baseDir spec =
        resolve ⟨"/w"⟩ (Document.mk ⟨"/w/./a/page.js"⟩ []).baseDir spec := by
  intro spec
  have absolute : isAbsolute ⟨"/w"⟩ = true := by decide
  obtain ⟨-, -, ⟨l, text, -, reads⟩, -, -, -, documents⟩ := resolve_laws absolute ⟨"a/./b"⟩ spec
  have parts : (sinceRoot [⟨"/w"⟩, ⟨"a/./b"⟩, ⟨spec⟩]).flatMap components =
      ["w", "a", ".", "b", "..", "..", "..", "..", "d", ".", "e.css"].map String.toList := by decide
  have leads : Leads [] ((sinceRoot [⟨"/w"⟩, ⟨"a/./b"⟩, ⟨spec⟩]).flatMap components)
      ["d".toList, "e.css".toList] := by
    rw [parts]
    exact .name (by decide) <| .name (by decide) <| .here <| .name (by decide) <|
      .up <| .up <| .up <| .top <| .name (by decide) <| .here <| .name (by decide) (.arrived _)
  obtain rfl := (reads _).1 leads
  exact ⟨absolute, text, documents ⟨"./a/page.js"⟩ [] ⟨"page.js", by decide, by decide⟩⟩

end Path

end ClassNav
