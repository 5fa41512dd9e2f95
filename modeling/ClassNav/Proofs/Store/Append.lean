import ClassNav.Proofs.Store.Kinds
import ClassNav.Proofs.Text.Bytes

/-!
What appending to a file changes. Paths lead where they led before, since no entry turns into one of
another kind; the file reads as its old text and the new one after it.
-/

namespace ClassNav.Store

/-- Only the place that was written to has another entry. -/
theorem entry?_set (s : Store) {l : Location} (below : l ≠ []) (e : Entry) (k : Location) :
    Store.entry? (s.set l e) k = (s.entry? k).map fun old => if k = l then e else old :=
  entry?_mapEntries (f := fun k old => if k = l then e else old) (if_neg below.symm) s k

section
variable {s : Store} {l : Location} {old : ByteArray} (file : s.entry? l = some (.file old))
include file

theorem not_root : l ≠ [] := by
  rintro rfl
  cases file

theorem sameKinds_set (new : ByteArray) : SameKinds s (s.set l (.file new)) where
  cwd := rfl
  kinds := by
    intro k
    rw [entry?_set s (not_root file)]
    by_cases same : k = l
    · subst same
      simp [file, Entry.isDirectory]
    · simp [same]

theorem locate_set (new : ByteArray) (p : Path) :
    (s.set l (.file new)).locate p = s.locate p :=
  (sameKinds_set file new).locate p

end

theorem find_eq_ok_iff {s : Store} {p : Path} {l : Location} {e : Entry} :
    s.find p = .ok (l, e) ↔ s.locate p = .ok l ∧ s.entry? l = some e := by
  unfold find
  cases s.locate p with
  | error _ => simp
  | ok place => cases found : s.entry? place <;> grind

theorem find_of_readText {s : Store} {p : Path} {content : Text} (read : s.readText p = .ok content) :
    ∃ l bytes, s.find p = .ok (l, .file bytes) ∧ Text.decode? bytes = some content := by
  unfold readText Store.read at read
  cases found : s.find p with
  | error _ => simp [found] at read
  | ok place =>
    obtain ⟨l, entry⟩ := place
    cases entry with
    | directory => simp [found] at read
    | file bytes =>
      cases decoded : Text.decode? bytes with
      | none => simp [found, decoded] at read
      | some t =>
        obtain rfl : t = content := by simpa [found, decoded] using read
        exact ⟨l, bytes, rfl, decoded⟩

/-- Text is appended at the end of the file that the path leads to, and nowhere else. -/
theorem append_eq_ok_iff {s s' : Store} {p : Path} {more : Text} :
    s.append p more = .ok s' ↔ ∃ l bytes, s.find p = .ok (l, .file bytes) ∧
      s' = s.set l (.file (bytes ++ Text.encode more)) := by
  unfold append
  cases s.find p with
  | error cause => simp
  | ok place =>
    obtain ⟨l, _ | bytes⟩ := place
    · simp
    · simp only [Except.ok.injEq, Prod.mk.injEq, Entry.file.injEq]
      constructor
      · rintro rfl
        exact ⟨l, bytes, ⟨rfl, rfl⟩, rfl⟩
      · rintro ⟨_, _, ⟨rfl, rfl⟩, rfl⟩
        rfl

theorem find_set {s : Store} {p : Path} {l : Location} {bytes : ByteArray}
    (found : s.find p = .ok (l, .file bytes)) (new : ByteArray) :
    (s.set l (.file new)).find p = .ok (l, .file new) := by
  obtain ⟨reached, file⟩ := find_eq_ok_iff.1 found
  rw [find_eq_ok_iff, locate_set file, entry?_set s (not_root file), file]
  exact ⟨reached, by simp⟩

/-- What takes text once takes text again. -/
theorem append_again {s s' : Store} {p : Path} {more : Text} (appended : s.append p more = .ok s')
    (next : Text) : s'.cwd = s.cwd ∧ ∃ last, s'.append p next = .ok last := by
  obtain ⟨l, bytes, found, rfl⟩ := append_eq_ok_iff.1 appended
  exact ⟨rfl, _, append_eq_ok_iff.2 ⟨l, _, find_set found _, rfl⟩⟩

/-- A file that can be read can be appended to, and then reads as both texts, one after the other. -/
theorem append_of_readText {s : Store} {p : Path} {content : Text}
    (read : s.readText p = .ok content) (more : Text) :
    ∃ s', s.append p more = .ok s' ∧ s'.cwd = s.cwd ∧ s'.readText p = .ok (content ++ more) := by
  obtain ⟨l, bytes, found, decoded⟩ := find_of_readText read
  refine ⟨_, append_eq_ok_iff.2 ⟨l, bytes, found, rfl⟩, rfl, ?_⟩
  simp [readText, Store.read, find_set found, Text.decode?_append_encode decoded]

theorem readText_isOk_of_find {s : Store} {p : Path} {l : Location} {bytes : ByteArray}
    (found : s.find p = .ok (l, .file bytes)) :
    (s.readText p).isOk = (Text.decode? bytes).isSome := by
  unfold readText Store.read
  rw [found]
  simp only
  cases Text.decode? bytes <;> rfl

/-- Appended text does not make a file readable. -/
theorem readText_isOk_of_append {s s' : Store} {p : Path} {more : Text}
    (appended : s.append p more = .ok s') : (s'.readText p).isOk = (s.readText p).isOk := by
  obtain ⟨l, bytes, found, rfl⟩ := append_eq_ok_iff.1 appended
  rw [readText_isOk_of_find found, readText_isOk_of_find (find_set found _)]
  exact Bool.eq_iff_iff.2 Text.decode?_append_encode_isSome_iff

end ClassNav.Store
