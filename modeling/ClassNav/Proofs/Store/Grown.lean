import ClassNav.Proofs.Store.Append

/-!
A tree whose files have only grown. No entry comes or goes, each file has its old bytes first, and so
every path leads where it led.
-/

namespace ClassNav

/-- An entry with text added at its end. A directory takes none. -/
def Entry.grow : Entry → Text → Entry
  | .directory, _ => .directory
  | .file bytes, more => .file (bytes ++ Text.encode more)

@[simp] theorem Entry.grow_nil (e : Entry) : e.grow [] = e := by
  cases e with
  | directory => rfl
  | file bytes =>
    have empty : Text.encode [] = ByteArray.empty := by rfl
    rw [grow, empty, ByteArray.append_empty]

theorem Entry.grow_grow (e : Entry) (a b : Text) : (e.grow a).grow b = e.grow (a ++ b) := by
  cases e with
  | directory => rfl
  | file bytes => simp only [grow, Text.encode_append, ByteArray.append_assoc]

namespace Store

/-- The second tree is the first one with `added` at the ends of its files. -/
structure Grown (added : Location → Text) (s s' : Store) : Prop where
  cwd : s'.cwd = s.cwd
  places : s'.entries.map Prod.fst = s.entries.map Prod.fst
  locate : ∀ p, s'.locate p = s.locate p
  entry : ∀ l, s'.entry? l = (s.entry? l).map fun e => e.grow (added l)

theorem Grown.refl (s : Store) : Grown (fun _ => []) s s where
  cwd := rfl
  places := rfl
  locate := fun _ => rfl
  entry := by simp

theorem Grown.trans {a b : Location → Text} {s s' s'' : Store} (first : Grown a s s')
    (next : Grown b s' s'') : Grown (fun l => a l ++ b l) s s'' where
  cwd := next.cwd.trans first.cwd
  places := next.places.trans first.places
  locate := fun p => (next.locate p).trans (first.locate p)
  entry := by
    intro l
    rw [next.entry, first.entry, Option.map_map]
    simp only [Function.comp_def, Entry.grow_grow]

/-- An append adds its text to the one file that its path leads to. -/
theorem append_grown {s s' : Store} {p : Path} {more : Text} (appended : s.append p more = .ok s') :
    ∃ l, s.locate p = .ok l ∧ Grown (fun k => if k = l then more else []) s s' := by
  obtain ⟨l, bytes, found, rfl⟩ := append_eq_ok_iff.1 appended
  obtain ⟨reached, here⟩ := find_eq_ok_iff.1 found
  refine ⟨l, reached, ⟨rfl, ?_, fun p => locate_set here _ p, fun k => ?_⟩⟩
  · simp [set]
  · rw [entry?_set s (not_root here)]
    by_cases same : k = l
    · subst same
      simp [here, Entry.grow]
    · simp [same]

/-- Text can be appended exactly to the files. -/
theorem append_isOk_iff {s : Store} {p : Path} {more : Text} :
    (∃ s', s.append p more = .ok s') ↔ s.isFile p = true := by
  unfold append isFile
  cases s.find p with
  | error e => simp
  | ok place =>
    obtain ⟨l, entry⟩ := place
    cases entry <;> simp

end Store

end ClassNav
