import ClassNav.Proofs.Document.ImportTail
import ClassNav.Proofs.Document.LineIndex
import ClassNav.Proofs.Document.Usages

/-!
The usages of a name that a script can bind are all its references. A reference has no separator in it, so
a search that goes on behind one reference, with a name or without, has passed no other.
-/

namespace ClassNav.Usage

open Text

theorem isSeparator_of_isNameChar {c : Char} (h : isNameChar c = true) : isSeparator c = false := by
  have word : Character.isWord c = true :=
    Character.isWord_of_isAlphanum (Character.toNat_lt_of_isAlphanum h) h
  simp [isSeparator, word]

theorem isSeparator_of_isBindingChar {c : Char} (h : Import.isBindingChar c = true) :
    isSeparator c = false := by
  simp only [Import.isBindingChar, Bool.or_eq_true, beq_iff_eq] at h
  obtain (name | rfl) | rfl := h
  · exact isSeparator_of_isNameChar name
  · decide
  · decide

/-- What ends in a separator goes on behind a text that has none. -/
theorem behind_of_plain {plain rest more t : Text} (solid : ∀ c ∈ plain, isSeparator c = false)
    (opens : ∃ c ∈ more.getLast?, isSeparator c = true) (same : plain ++ rest = more ++ t) :
    ∃ between, more = plain ++ between ∧ rest = between ++ t ∧
      ∃ c ∈ between.getLast?, isSeparator c = true := by
  obtain ⟨c, last, separates⟩ := opens
  have inside : c ∉ plain := by
    intro found
    rw [solid c found] at separates
    cases separates
  obtain ⟨between, rfl, split⟩ | ⟨cut, rfl, -⟩ := List.append_eq_append_iff.1 same
  · refine ⟨between, rfl, split, c, ?_, separates⟩
    rw [Option.mem_def, List.getLast?_append, Option.or_eq_some_iff] at last
    obtain last | ⟨-, last⟩ := last
    · exact last
    · exact absurd (List.mem_of_getLast? last) inside
  · exact absurd (List.mem_append_left cut (List.mem_of_getLast? last)) inside

section
variable {object : Text} (plain : ∀ c ∈ object, isSeparator c = false)
include plain

/-- A reference, its dot and its name have no separator. -/
theorem plain_reference {name : Text} (chars : ∀ c ∈ name, isNameChar c = true) :
    ∀ c ∈ object ++ '.' :: name, isSeparator c = false := by
  intro c found
  simp only [List.mem_append, List.mem_cons] at found
  obtain inside | rfl | inside := found
  · exact plain c inside
  · decide
  · exact isSeparator_of_isNameChar (chars c inside)

/-- A later reference stands behind all of the first, and what is between ends in its separator. -/
theorem exists_between {rest more name after : Text}
    (opens : ∃ c ∈ more.getLast?, isSeparator c = true)
    (same : object ++ '.' :: rest = more ++ (object ++ '.' :: (name ++ after))) :
    ∃ between, more = object ++ '.' :: (rest.takeWhile isNameChar ++ between) ∧
      rest.dropWhile isNameChar = between ++ (object ++ '.' :: (name ++ after)) ∧
      ∃ c ∈ between.getLast?, isSeparator c = true := by
  have solid : ∀ c ∈ object ++ '.' :: rest.takeWhile isNameChar, isSeparator c = false :=
    plain_reference plain fun c found => List.mem_takeWhile_imp found
  have whole : (object ++ '.' :: rest.takeWhile isNameChar) ++ rest.dropWhile isNameChar =
      more ++ (object ++ '.' :: (name ++ after)) := by
    rw [← same, List.append_assoc, List.cons_append, List.takeWhile_append_dropWhile]
  obtain ⟨between, split, behind, opens⟩ := behind_of_plain solid opens whole
  refine ⟨between, ?_, behind, opens⟩
  rw [split, List.append_assoc, List.cons_append]

/-- From some place on the scan finds each reference that a separator opens. -/
theorem mem_scan {back t name after : Text} (chars : ∀ c ∈ name, isNameChar c = true)
    (closes : ∀ c ∈ after.head?, isNameChar c = false) :
    ∀ more, t = more ++ (object ++ '.' :: (name ++ after)) →
      (∃ c ∈ more.getLast?, isSeparator c = true) →
        (upToName object (more.reverse ++ back), name) ∈ scan object back t := by
  fun_induction scan object back t with
  | case1 => simp
  | case2 back c r rest hit up name' ih =>
    intro more whole opens
    split at hit
    next separates =>
      have reached : up = upToName object (c :: back) := by simp [up, upToName]
      have next : r = object ++ '.' :: rest := by simpa using stripPrefix?_eq_some_iff.1 hit
      rw [drop_reference hit, reached] at ih
      change _ ∈ (upToName object (c :: back), name') ::
        scan object (name'.reverse ++ upToName object (c :: back)) (r.drop _)
      rw [drop_reference hit]
      obtain ⟨rfl, tail⟩ | ⟨d, rfl, tail⟩ := List.cons_eq_append_iff.1 whole
      · simp at opens
      · cases d with
        | nil =>
          -- this reference is the one looked for
          have same : rest = name ++ after := by simpa [next] using tail
          have whole : name' = name := by
            simp only [name', same]
            exact takeWhile_append_stop chars closes
          simp [whole]
        | cons e d =>
          obtain ⟨between, split, behind, opens⟩ :=
            exists_between plain (by simpa using opens) (next ▸ tail)
          refine List.mem_cons_of_mem _ ?_
          simpa [split, upToName] using ih between behind opens
    next => cases hit
  | case3 back c r miss ih =>
    intro more whole opens
    obtain ⟨rfl, tail⟩ | ⟨d, rfl, tail⟩ := List.cons_eq_append_iff.1 whole
    · simp at opens
    · cases d with
      | nil =>
        obtain ⟨c', last, separates⟩ := opens
        have hit : stripPrefix? (object ++ ['.']) r = some (name ++ after) :=
          stripPrefix?_eq_some_iff.2 (by simpa using tail)
        simp_all
      | cons e d => simpa using ih (e :: d) tail (by simpa using opens)

/-- The scan finds all references. -/
theorem mem_scanAll {text before name after : Text} (stands : Stands object text before name after) :
    (upToName object before, name) ∈ scanAll object text := by
  obtain ⟨whole, opens, chars, closes⟩ := stands
  have opens {c : Char} {back : Text} (cons : before = c :: back) :
      ∃ c ∈ before.reverse.getLast?, isSeparator c = true := by
    subst cons
    exact ⟨c, by simp, opens c rfl⟩
  unfold scanAll
  split
  next rest hit =>
    have start : text = object ++ '.' :: rest := by simpa using stripPrefix?_eq_some_iff.1 hit
    dsimp only
    rw [drop_takeWhile_length]
    cases before with
    | nil =>
      have same : rest = name ++ after := by simpa [start] using whole
      rw [same, takeWhile_append_stop chars closes]
      simp [upToName]
    | cons c back =>
      obtain ⟨between, split, behind, opens⟩ := exists_between plain (opens rfl) (start ▸ whole)
      have split : c :: back = between.reverse ++
          ((rest.takeWhile isNameChar).reverse ++ '.' :: object.reverse) := by
        rw [← List.reverse_reverse (c :: back), split]
        simp
      rw [split]
      exact List.mem_cons_of_mem _ (mem_scan plain chars closes between behind opens)
  next miss =>
    cases before with
    | nil =>
      have hit : stripPrefix? (object ++ ['.']) text = some (name ++ after) :=
        stripPrefix?_eq_some_iff.2 (by simpa using whole)
      rw [hit] at miss
      cases miss
    | cons c back =>
      have found : (upToName object ((c :: back).reverse.reverse ++ []), name) ∈ scan object [] text :=
        mem_scan plain chars closes _ whole (opens rfl)
      simpa using found

end

/-- From `first` up to `last` a text has a name, whole, of the object. -/
def Refers (object text : Text) (first last : Nat) : Prop :=
  ∃ before name after, Stands object text before name after ∧ name ≠ [] ∧
    first = byteLength (upToName object before) ∧ last = first + byteLength name

/-- The usages are all names of the object. -/
theorem exists_mem_all_iff {object text : Text} {first last : Nat}
    (plain : ∀ c ∈ object, isSeparator c = false) :
    (∃ u ∈ all object text, u.first = first ∧ u.last = last) ↔ Refers object text first last := by
  constructor
  · rintro ⟨u, found, rfl, rfl⟩
    obtain ⟨named, before, after, stands, same⟩ := mem_all_stands found
    refine ⟨before, u.name, after, stands, named, ?_, ?_⟩ <;> rw [same] <;> rfl
  · rintro ⟨before, name, after, stands, named, rfl, rfl⟩
    refine ⟨ofName (upToName object before) name, ?_, rfl, rfl⟩
    exact List.mem_map.2 ⟨_, List.mem_filter.2 ⟨mem_scanAll plain stands, by simpa using named⟩, rfl⟩

theorem plain_of_isIdentifier {object : Text} (bound : Import.isIdentifier object = true) :
    ∀ c ∈ object, isSeparator c = false :=
  fun c found => isSeparator_of_isBindingChar ((Import.isKey_of_isIdentifier bound).chars c found)

/-- A usage has the name that lies between its offsets, and the places of both. -/
theorem located {object text : Text} {u : Usage} (found : u ∈ all object text) :
    ∃ front after, text = front ++ (u.name ++ after) ∧ u.first = byteLength front ∧
      u.last = byteLength (front ++ u.name) ∧ u.start = .after front.reverse ∧
      u.stop = .after (front ++ u.name).reverse := by
  obtain ⟨-, before, after, stands, same⟩ := mem_all_stands found
  refine ⟨(upToName object before).reverse, after, ?_, ?_, ?_, ?_, ?_⟩
  · rw [stands.whole]
    simp [upToName]
  · rw [same, byteLength_reverse]
    rfl
  · rw [same, byteLength_append, byteLength_reverse]
    rfl
  · rw [same, List.reverse_reverse]
    rfl
  · rw [same, List.reverse_append, List.reverse_reverse]
    rfl

/-- **Usages are exactly the references.** For an object that a script can bind they list, in the order of
the text and without an overlap, just the stretches that are a whole name behind the object. Each has its
name as the text has it, and counts the line feeds and the characters of the line before its two ends, as
the index of lines does. -/
theorem usages_are_references {object : Text} (bound : Import.isIdentifier object = true) (text : Text) :
    (∀ first last, (∃ u ∈ all object text, u.first = first ∧ u.last = last) ↔
      Refers object text first last) ∧
    (all object text).Pairwise (fun u v => u.last < v.first) ∧
    ∀ u ∈ all object text,
      slice? text u.first u.last = some u.name ∧
      (∃ front after, text = front ++ (u.name ++ after) ∧ u.first = byteLength front ∧
        u.start = ⟨front.count '\n', (front.reverse.takeWhile (· ≠ '\n')).length⟩ ∧
        u.stop = ⟨(front ++ u.name).count '\n',
          ((front ++ u.name).reverse.takeWhile (· ≠ '\n')).length⟩) ∧
      (LineIndex.of text).position? u.first = some u.start ∧
      (LineIndex.of text).position? u.last = some u.stop := by
  refine ⟨fun first last => exists_mem_all_iff (plain_of_isIdentifier bound), pairwise_all object text,
    fun u found => ?_⟩
  obtain ⟨front, after, whole, first, last, start, stop⟩ := located found
  have ends : u.last = u.first + byteLength u.name := by rw [last, first, byteLength_append]
  refine ⟨slice?_eq_some_iff.2 ⟨front, after, whole, first, ends⟩,
    ⟨front, after, whole, first, ?_, ?_⟩, ?_, ?_⟩
  · rw [start, LineCol.after, List.count_reverse]
  · rw [stop, LineCol.after, List.count_reverse]
  · rw [whole, first, start, LineIndex.position?_eq_at?, LineCol.at?_append]
  · rw [whole, last, stop, ← List.append_assoc, LineIndex.position?_eq_at?, LineCol.at?_append]

/-- An empty name between two references, and a letter of two bytes before the last. -/
theorem usages_are_references_of_four :
    let text : Text := "s.a s. s.bc\né s.d"
    Import.isIdentifier "s" = true ∧ (∃ u ∈ all "s" text, u.first = 9 ∧ u.last = 11) ∧
      ∀ u ∈ all "s" text, u.first = 17 →
        (LineIndex.of text).position? 17 = some u.start ∧ Refers "s" text 17 u.last := by
  intro text
  have bound : Import.isIdentifier "s" = true := by decide
  obtain ⟨exact, -, places⟩ := usages_are_references bound text
  refine ⟨bound, (exact 9 11).2 ?_, fun u found at17 => ?_⟩
  · refine ⟨" .s a.s".toList, "bc", "\né s.d", ⟨by decide, ?_, ?_, ?_⟩, by decide⟩
    · rintro c ⟨⟩
      decide
    · exact List.all_eq_true.1 (by decide)
    · rintro c ⟨⟩
      decide
  · obtain ⟨-, -, first, -⟩ := places u found
    exact ⟨at17 ▸ first, (exact 17 u.last).1 ⟨u, found, at17, rfl⟩⟩

end ClassNav.Usage
