import ClassNav.Path.Resolve
import ClassNav.Proofs.Text.Lines
import Mathlib.Data.List.Basic
import Mathlib.Data.List.DropRight

/-!
Paths and the places they mean. The path of a place leads back to it, and its parent is the path of the
place above. Going from a path to its parent makes it shorter, whatever its spelling.
-/

namespace ClassNav

theorem Text.joinWith_concat (separator last : Text) {parts : List Text} (some : parts ≠ []) :
    Text.joinWith separator (parts ++ [last]) = Text.joinWith separator parts ++ (separator ++ last) := by
  induction parts with
  | nil => exact absurd rfl some
  | cons part parts ih =>
    cases parts with
    | nil => simp [Text.joinWith]
    | cons next parts =>
      have rest := ih (List.cons_ne_nil next parts)
      simp only [Text.joinWith, List.cons_append, List.intercalate_cons_cons] at rest ⊢
      rw [rest]
      simp

theorem Text.joinWith_prefix_concat (separator last : Text) (parts : List Text) :
    Text.joinWith separator parts <+: Text.joinWith separator (parts ++ [last]) := by
  by_cases none : parts = []
  · rw [none]
    exact List.nil_prefix
  · rw [Text.joinWith_concat separator last none]
    exact List.prefix_append ..

theorem Text.joinWith_prefix (separator : Text) {parts parts' : List Text} (within : parts <+: parts') :
    Text.joinWith separator parts <+: Text.joinWith separator parts' := by
  obtain ⟨more, rfl⟩ := within
  induction more using List.reverseRecOn with
  | nil => simp
  | append_singleton more last ih =>
    rw [← List.append_assoc]
    exact ih.trans (Text.joinWith_prefix_concat separator last (parts ++ more))

theorem Text.length_joinWith_concat (separator last : Text) (parts : List Text) :
    (Text.joinWith separator parts).length + last.length ≤
      (Text.joinWith separator (parts ++ [last])).length := by
  by_cases none : parts = []
  · simp [none, Text.joinWith]
  · simp only [Text.joinWith_concat separator last none, List.length_append]
    omega

/-- A name that an entry of a directory can have. -/
structure IsName (n : Text) : Prop where
  nonempty : n ≠ []
  not_here : n ≠ ['.']
  not_up : n ≠ ['.', '.']
  undivided : '/' ∉ n

theorem IsName.stepOf? {n : Text} (h : IsName n) : Path.stepOf? n = some (.name n) := by
  simp [Path.stepOf?, h.nonempty, h.not_here, h.not_up]

namespace Location

/-- A place that paths can lead to. -/
def Proper (l : Location) : Prop := ∀ n ∈ l, IsName n

theorem Proper.step {l : Location} {step : Path.Step} (proper : Proper l)
    (named : ∀ n, step = .name n → IsName n) : Proper (l.step step) := by
  intro n found
  cases step with
  | root => cases found
  | here => exact proper n found
  | up => exact proper n (List.dropLast_subset l found)
  | name m =>
    obtain before | last := List.mem_append.1 found
    · exact proper n before
    · exact List.mem_singleton.1 last ▸ named m rfl

theorem proper_foldl {steps : List Path.Step} {l : Location} (proper : Proper l)
    (named : ∀ n, .name n ∈ steps → IsName n) : Proper (steps.foldl Location.step l) := by
  induction steps generalizing l with
  | nil => exact proper
  | cons step steps ih =>
    refine ih (proper.step fun n same => named n (by simp [same])) fun n later => ?_
    exact named n (List.mem_cons_of_mem _ later)

/-- The names of a place follow each other in its path. -/
theorem splitOn_path {l : Location} (proper : Proper l) :
    l.path.text.splitOn '/' = [] :: if l = [] then [[]] else l := by
  have first : l.path.text.splitOn '/' = [] :: (Text.joinWith ['/'] l).splitOn '/' :=
    List.splitOn_append_cons_self [] _
  rw [first]
  split
  next none => rw [none]; rfl
  next some =>
    rw [Text.joinWith, List.splitOn_intercalate '/' (fun n found => (proper n found).undivided) some]

theorem steps_path {l : Location} (proper : Proper l) : l.path.steps = .root :: l.map .name := by
  have named : l.filterMap Path.stepOf? = l.map .name := by
    rw [← List.filterMap_eq_map]
    exact List.filterMap_congr fun n found => (proper n found).stepOf?
  have absolute : l.path.isAbsolute = true := rfl
  simp only [Path.steps, absolute, if_true, splitOn_path proper]
  split
  next none => rw [none]; rfl
  next => simp [Path.stepOf?, named]

theorem location_path {l : Location} (proper : Proper l) : l.path.location = l := by
  have onward (names place : Location) :
      (names.map Path.Step.name).foldl step place = place ++ names := by
    induction names generalizing place with
    | nil => simp
    | cons n names ih => simp [ih, step]
  rw [Path.location, steps_path proper]
  exact onward l []

end Location

namespace Path

theorem isName_of_stepOf? {part n : Text} (undivided : '/' ∉ part)
    (means : stepOf? part = some (.name n)) : IsName n := by
  unfold stepOf? at means
  split at means
  next => cases means
  next some =>
    split at means
    next => cases means
    next not_up =>
      obtain rfl : part = n := by simpa using means
      rw [not_or] at some
      exact ⟨some.1, some.2, not_up, undivided⟩

theorem isName_of_mem_steps {p : Path} {n : Text} (found : .name n ∈ p.steps) : IsName n := by
  have part : .name n ∈ (p.text.splitOn '/').filterMap stepOf? := by
    unfold steps at found
    simp only [List.mem_append] at found
    obtain lead | part := found
    · split at lead
      · simp at lead
      · split at lead <;> simp at lead
    · exact part
  obtain ⟨part, split, means⟩ := List.mem_filterMap.1 part
  exact isName_of_stepOf? (Text.not_mem_of_mem_splitOn split) means

theorem proper_location (p : Path) : p.location.Proper :=
  Location.proper_foldl (by simp [Location.Proper]) fun _ => isName_of_mem_steps

/-- The path spells the place it leads to, with no detours. -/
def IsPlain (p : Path) : Prop := p.location.path = p

theorem isPlain_of_proper {l : Location} (proper : l.Proper) : l.path.IsPlain := by
  rw [IsPlain, Location.location_path proper]

theorem isPlain_resolve (cwd base : Path) (spec : Text) : (resolve cwd base spec).IsPlain :=
  isPlain_of_proper (proper_location _)

theorem dropIdle_within (parts : List Text) : dropIdle parts <+: parts :=
  List.rdropWhile_prefix _ parts

theorem dropIdle_of_proper {l : Location} (proper : l.Proper) : dropIdle l = l := by
  refine List.rdropWhile_eq_self_iff.2 fun some idle => ?_
  rw [(proper _ (List.getLast_mem some)).stepOf?] at idle
  cases idle

/-- What is left of a path without its idle end ends in more than nothing. -/
theorem getLast_dropIdle_ne {parts : List Text} (some : dropIdle parts ≠ []) :
    (dropIdle parts).getLast some ≠ [] := by
  intro empty
  have busy := List.rdropWhile_last_not (fun part => (stepOf? part).isNone) parts some
  have idle : (stepOf? ((dropIdle parts).getLast some)).isNone = true := by rw [empty]; rfl
  exact busy idle

theorem length_anchor_le (p : Path) : p.anchor.length ≤ p.text.length := by
  unfold anchor
  split
  next absolute =>
    cases same : p.text with
    | nil => simp [isAbsolute, same] at absolute
    | cons c r => simp
  next =>
    split
    next opened =>
      cases same : p.text with
      | nil => simp [same] at opened
      | cons c r => simp
    next => exact Nat.zero_le _

theorem length_body (p : Path) :
    p.anchor.length + (Text.joinWith ['/'] p.body).length ≤ p.text.length := by
  have within := (Text.joinWith_prefix ['/']
    (dropIdle_within ((p.text.drop p.anchor.length).splitOn '/'))).length_le
  rw [Text.joinWith, Text.joinWith, List.intercalate_splitOn, List.length_drop] at within
  have anchored := p.length_anchor_le
  rw [Text.joinWith, body]
  omega

/-- Every parent has a shorter spelling, so the way up comes to an end. -/
theorem length_of_parent? {p q : Path} (parent : p.parent? = some q) : q.text.length < p.text.length := by
  have whole := p.length_body
  unfold parent? at parent
  split at parent
  next =>
    split at parent
    next opened =>
      obtain rfl := Option.some.inj parent
      rw [opened] at whole
      simp at whole ⊢
      omega
    next => cases parent
  next some =>
    obtain rfl := Option.some.inj parent
    have last : p.body.getLast some ≠ [] := getLast_dropIdle_ne some
    have cut := (Text.joinWith_prefix ['/'] (dropIdle_within p.body.dropLast)).length_le
    have shorter := Text.length_joinWith_concat ['/'] (p.body.getLast some) p.body.dropLast
    rw [List.dropLast_append_getLast] at shorter
    have positive := List.length_pos_iff.2 last
    rw [List.length_append]
    omega

theorem ancestors_eq (p : Path) : p.ancestors = p :: (p.parent?.map ancestors).getD [] := by
  rw [ancestors]
  split
  next top => simp [top]
  next q parent => simp [parent, length_of_parent? parent]

theorem parent?_path {l : Location} (proper : l.Proper) (below : l ≠ []) :
    l.path.parent? = some (Location.path l.dropLast) := by
  have anchored : l.path.anchor = ['/'] := rfl
  have named : l.path.body = l := by
    have names : (Text.joinWith ['/'] l).splitOn '/' = l :=
      List.splitOn_intercalate '/' (fun n found => (proper n found).undivided) below
    rw [body, anchored]
    exact (congrArg dropIdle names).trans (dropIdle_of_proper proper)
  have above : Location.Proper l.dropLast := fun n found => proper n (List.dropLast_subset l found)
  rw [parent?, named, if_neg below, anchored, dropIdle_of_proper above]
  rfl

/-- Below the directory that holds it, a plain path has one name more. -/
theorem location_of_parent? {p dir : Path} (plain : p.IsPlain) (parent : p.parent? = some dir) :
    ∃ n, p.location = dir.location ++ [n] := by
  have proper := p.proper_location
  rw [← plain] at parent
  by_cases top : p.location = []
  · rw [top] at parent
    cases parent
  · have above : Location.Proper p.location.dropLast := fun n found =>
      proper n (List.dropLast_subset _ found)
    rw [parent?_path proper top] at parent
    obtain rfl := Option.some.inj parent
    refine ⟨p.location.getLast top, ?_⟩
    rw [Location.location_path above, List.dropLast_append_getLast]

end Path

end ClassNav
