import ClassNav.Proofs.Path.Places
import ClassNav.Proofs.Store.Append

/-!
Where plain paths lead. Only the entries on the way to a place matter to what is read there.
-/

namespace ClassNav.Store

/-- Following proper parts from a proper place ends at one. -/
theorem proper_of_walk {s : Store} {place l : Location} {parts : List Text} (proper : place.Proper)
    (undivided : ∀ part ∈ parts, '/' ∉ part) (reached : s.walk place parts = .ok l) : l.Proper := by
  induction parts generalizing place with
  | nil => exact Except.ok.inj reached ▸ proper
  | cons part parts ih =>
    have rest : ∀ part ∈ parts, '/' ∉ part := fun p found => undivided p (List.mem_cons_of_mem _ found)
    have named : ∀ n, Path.stepOf? part = some (.name n) → IsName n := fun n step =>
      Path.isName_of_stepOf? (undivided part (List.mem_cons_self ..)) step
    unfold walk at reached
    split at reached
    next => cases reached
    next => cases reached
    next =>
      split at reached
      next => exact ih proper rest reached
      next n step =>
        split at reached
        next => cases reached
        next =>
          split at reached
          next => cases reached
          next =>
            refine ih ?_ rest reached
            show (place.step (.name n)).Proper
            exact proper.step fun m same => Path.Step.name.inj same ▸ named n step
      next step _ found =>
        refine ih (proper.step fun n same => named n ?_) rest reached
        rw [found, same]

theorem proper_of_locate {s : Store} {p : Path} {l : Location} (reached : s.locate p = .ok l) :
    l.Proper := by
  unfold locate at reached
  split at reached
  next => cases reached
  next =>
    split at reached
    next => cases reached
    next =>
      split at reached
      next => cases reached
      next =>
        refine proper_of_walk ?_ (fun part found => Text.not_mem_of_mem_splitOn found) reached
        split
        next => simp [Location.Proper]
        next => exact s.cwd.proper_location

theorem isPlain_of_canonical {s : Store} {p q : Path} (same : s.canonical p = .ok q) : q.IsPlain := by
  unfold canonical at same
  cases reached : s.locate p with
  | error e => simp [reached, Except.map] at same
  | ok l =>
    obtain rfl : l.path = q := by simpa [reached, Except.map] using same
    exact Path.isPlain_of_proper (proper_of_locate reached)

section
variable {s s' : Store} {names place : Location} (proper : names.Proper)
include proper

theorem walk_names {l : Location} (reached : s.walk place names = .ok l) : l = place ++ names := by
  induction names generalizing place with
  | nil => rw [List.append_nil, Except.ok.inj reached]
  | cons n names ih =>
    have rest : Location.Proper names := fun m found => proper m (List.mem_cons_of_mem _ found)
    simp only [walk, (proper n (List.mem_cons_self ..)).stepOf?] at reached
    split at reached
    next => cases reached
    next => cases reached
    next =>
      split at reached
      next => cases reached
      next =>
        split at reached
        next => cases reached
        next => rw [ih rest reached, List.append_assoc, List.singleton_append]

theorem walk_names_congr (same : ∀ k, k <+: place ++ names → s'.entry? k = s.entry? k) :
    s'.walk place names = s.walk place names := by
  induction names generalizing place with
  | nil => rfl
  | cons n names ih =>
    have rest : Location.Proper names := fun m found => proper m (List.mem_cons_of_mem _ found)
    have whole : place ++ n :: names = (place ++ [n]) ++ names := by simp
    have here := same place (List.prefix_append ..)
    have below := same (place ++ [n]) (whole ▸ List.prefix_append ..)
    have onward : s'.walk (place ++ [n]) names = s.walk (place ++ [n]) names := ih rest (whole ▸ same)
    simp only [walk, (proper n (List.mem_cons_self ..)).stepOf?, here, below, onward]

end

section
variable {s s' : Store} {l : Location} (proper : l.Proper)
include proper

/-- Along the path of a place each name is looked up below the ones before it. -/
theorem locate_path_congr (same : ∀ k, k <+: l → s'.entry? k = s.entry? k) :
    s'.locate l.path = s.locate l.path := by
  have top (s : Store) (parts : List Text) : s.walk [] ([] :: parts) = s.walk [] parts := rfl
  have absolute : l.path.isAbsolute = true := rfl
  have onward : s'.walk [] (if l = [] then [[]] else l) = s.walk [] (if l = [] then [[]] else l) := by
    split
    next none => rfl
    next => exact walk_names_congr proper (by simpa using same)
  simp only [locate, absolute, if_true, Location.splitOn_path proper, top, onward]

theorem eq_of_locate_path {k : Location} (reached : s.locate l.path = .ok k) : k = l := by
  have top (parts : List Text) : s.walk [] ([] :: parts) = s.walk [] parts := rfl
  have absolute : l.path.isAbsolute = true := rfl
  simp only [locate, absolute, if_true, Location.splitOn_path proper, top] at reached
  split at reached
  next => cases reached
  next =>
    split at reached
    next => cases reached
    next =>
      split at reached
      next => cases reached
      next =>
        split at reached
        next none =>
          subst none
          exact (Except.ok.inj reached).symm
        next => rw [walk_names proper reached, List.nil_append]

/-- What is read at a place depends on the entries on the way to it, and on nothing else. -/
theorem read_path_congr (same : ∀ k, k <+: l → s'.entry? k = s.entry? k) :
    s'.read l.path = s.read l.path := by
  simp only [Store.read, find, locate_path_congr proper same]
  cases reached : s.locate l.path with
  | error e => rfl
  | ok k =>
    rw [eq_of_locate_path proper reached]
    simp only [same l List.prefix_rfl]

end

/-- What is read in a directory depends on the way to it and on the entry there. -/
theorem read_congr_of_parent? {s s' : Store} {p dir : Path} (plain : p.IsPlain)
    (parent : p.parent? = some dir) (way : ∀ k, k <+: dir.location → s'.entry? k = s.entry? k)
    (here : s'.entry? p.location = s.entry? p.location) : s'.read p = s.read p := by
  obtain ⟨n, below⟩ := Path.location_of_parent? plain parent
  rw [← plain]
  refine read_path_congr p.proper_location fun k within => ?_
  rw [below, List.prefix_concat_iff, ← below] at within
  obtain rfl | above := within
  · exact here
  · exact way k above

/-- A file written anew leaves every other file as it was. -/
theorem read_set_of_ne {s : Store} {p q : Path} {old : ByteArray}
    (file : s.entry? p.location = some (.file old)) (new : ByteArray) (plain : p.IsPlain)
    (plain' : q.IsPlain) (other : q ≠ p) :
    (s.set p.location (.file new)).read q = s.read q := by
  have apart : q.location ≠ p.location := fun same => other (by rw [← plain', same, plain])
  rw [← plain', Store.read, Store.read, find, find, locate_set file]
  cases reached : s.locate q.location.path with
  | error e => rfl
  | ok l =>
    obtain rfl := eq_of_locate_path q.proper_location reached
    simp [entry?_set s (not_root file), apart]

end ClassNav.Store
