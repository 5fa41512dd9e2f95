import ClassNav.Store.Basic

/-!
Trees of one shape. A path is followed by the kinds of the entries alone, so trees with files and
directories at the same places lead it to the same place, whatever the files hold.
-/

namespace ClassNav

def Entry.isDirectory : Entry → Bool
  | .directory => true
  | .file _ => false

namespace Store

/-- The second tree has entries of the same kinds at the same places. -/
structure SameKinds (s s' : Store) : Prop where
  cwd : s'.cwd = s.cwd
  kinds : ∀ l, (s'.entry? l).map Entry.isDirectory = (s.entry? l).map Entry.isDirectory

namespace SameKinds

variable {s s' : Store} (same : SameKinds s s')
include same

/-- What is at a place of both trees: nothing, a directory or a file each. -/
theorem cases_entry (l : Location) :
    (s.entry? l = none ∧ s'.entry? l = none) ∨
    (s.entry? l = some .directory ∧ s'.entry? l = some .directory) ∨
    ∃ bytes bytes', s.entry? l = some (.file bytes) ∧ s'.entry? l = some (.file bytes') := by
  have kinds := same.kinds l
  generalize s.entry? l = entry at kinds ⊢
  generalize s'.entry? l = entry' at kinds ⊢
  obtain _ | _ | bytes := entry <;> obtain _ | _ | bytes' := entry' <;>
    simp_all [Entry.isDirectory]

theorem walk (place : Location) (parts : List Text) : s'.walk place parts = s.walk place parts := by
  induction parts generalizing place with
  | nil => rfl
  | cons part rest ih =>
    obtain ⟨here, here'⟩ | ⟨here, here'⟩ | ⟨_, _, here, here'⟩ := same.cases_entry place
    · simp only [Store.walk, here, here']
    · simp only [Store.walk, here, here', ih]
      cases Path.stepOf? part with
      | none => rfl
      | some step =>
        cases step with
        | name n =>
          obtain ⟨below, below'⟩ | ⟨below, below'⟩ | ⟨_, _, below, below'⟩ :=
            same.cases_entry (place ++ [n]) <;> simp only [below, below']
        | root | here | up => rfl
    · simp only [Store.walk, here, here']

theorem locate (p : Path) : s'.locate p = s.locate p := by
  simp only [Store.locate, same.walk, same.cwd]

/-- Text can be appended at the same paths, and is refused elsewhere for the same reason. -/
theorem append (p : Path) (more : Text) :
    (s'.append p more).map (fun _ => ()) = (s.append p more).map fun _ => () := by
  simp only [Store.append, find, same.locate]
  cases s.locate p with
  | error cause => rfl
  | ok l =>
    obtain ⟨here, here'⟩ | ⟨here, here'⟩ | ⟨_, _, here, here'⟩ := same.cases_entry l
    · simp only [here, here']
    · simp only [here, here']
    · simp only [here, here']
      rfl

end SameKinds

/-- Each entry changed by itself, wherever it is. -/
def mapEntries (f : Location → Entry → Entry) (s : Store) : Store :=
  { s with entries := s.entries.map fun (l, e) => (l, f l e) }

theorem lookup_mapped (f : Location → Entry → Entry) (entries : List (Location × Entry))
    (l : Location) : (entries.map fun (k, e) => (k, f k e)).lookup l = (entries.lookup l).map (f l) := by
  induction entries with
  | nil => rfl
  | cons entry rest ih =>
    obtain ⟨k, e⟩ := entry
    by_cases same : l = k
    · subst same
      simp
    · have different : (l == k) = false := by simpa using same
      simp only [List.map_cons, List.lookup_cons, different, ih]

theorem entry?_mapEntries {f : Location → Entry → Entry} (root : f [] .directory = .directory)
    (s : Store) (l : Location) : Store.entry? (s.mapEntries f) l = (s.entry? l).map (f l) := by
  unfold entry?
  split
  next top => simp [top, root]
  next => exact lookup_mapped f s.entries l

end Store

end ClassNav
