import ClassNav.Document.Missing
import ClassNav.Proofs.Text.Lines
import ClassNav.Proofs.Text.Occurrence
import ClassNav.Proofs.Text.Runs

/-!
What a reported usage says about the text: where its object begins, that its name is whole, and where
it stands. Usages come one behind the other.
-/

namespace ClassNav.Usage

/-- A reference as it stands in a text: what is before the object, backwards, the whole name, and what
follows it. -/
structure Stands (object text before name after : Text) : Prop where
  whole : text = before.reverse ++ (object ++ '.' :: (name ++ after))
  opens : ∀ c ∈ before.head?, isSeparator c = true
  chars : ∀ c ∈ name, isNameChar c = true
  closes : ∀ c ∈ after.head?, isNameChar c = false

theorem Stands.name_not_newline {object text before name after : Text}
    (stands : Stands object text before name after) : ∀ c ∈ name, c ≠ '\n' := by
  rintro c found rfl
  exact absurd (stands.chars _ found) (by decide)

/-- The text up to the name of a reference, backwards. -/
def upToName (object before : Text) : Text := '.' :: object.reverse ++ before

/-- The longest name behind an object stands there as a whole. -/
theorem stands_takeWhile {object text before rest : Text}
    (whole : text = before.reverse ++ (object ++ '.' :: rest))
    (opens : ∀ c ∈ before.head?, isSeparator c = true) :
    Stands object text before (rest.takeWhile isNameChar) (rest.dropWhile isNameChar) where
  whole := by rw [whole, List.takeWhile_append_dropWhile]
  opens := opens
  chars := fun c found => List.mem_takeWhile_imp found
  closes := Text.stops_dropWhile isNameChar rest

/-- What follows a reference whose object has been read. -/
theorem drop_reference {object r rest : Text} (hit : Text.stripPrefix? (object ++ ['.']) r = some rest) :
    r.drop (object.length + 1 + (rest.takeWhile isNameChar).length) = rest.dropWhile isNameChar := by
  rw [← Text.drop_takeWhile_length isNameChar rest, Text.stripPrefix?_eq_some_iff.1 hit]
  simp [Nat.add_assoc, ← List.drop_drop]

/-- The first reference, and the search behind it. -/
theorem scan_of_hit {object back r rest : Text} {c : Char} (separates : isSeparator c = true)
    (hit : Text.stripPrefix? (object ++ ['.']) r = some rest) :
    scan object back (c :: r) =
      (upToName object (c :: back), rest.takeWhile isNameChar) ::
        scan object ((rest.takeWhile isNameChar).reverse ++ upToName object (c :: back))
          (rest.dropWhile isNameChar) := by
  rw [scan]
  simp only [separates, if_true, hit, drop_reference hit]
  rfl

/-- Every reference that the scan finds from some place on stands in the whole text. -/
theorem scan_stands {object back t up name : Text} (found : (up, name) ∈ scan object back t) :
    ∃ before after, up = upToName object before ∧
      Stands object (back.reverse ++ t) before name after := by
  fun_induction scan object back t with
  | case1 => cases found
  | case2 back c r rest hit up' name' ih =>
    split at hit
    next separates =>
      have next := Text.stripPrefix?_eq_some_iff.1 hit
      have whole : back.reverse ++ c :: r = (c :: back).reverse ++ (object ++ '.' :: rest) := by
        simp [next]
      have after : r.drop (object.length + 1 + name'.length) = rest.dropWhile isNameChar :=
        drop_reference hit
      obtain same | later := List.mem_cons.1 found
      · obtain ⟨rfl, rfl⟩ := Prod.mk.inj same
        exact ⟨c :: back, _, rfl, stands_takeWhile whole (by simpa using separates)⟩
      · have reached : up' = upToName object (c :: back) := by simp [up', upToName]
        obtain ⟨before, after', same, stands⟩ := ih (reached ▸ later)
        refine ⟨before, after', same, ?_⟩
        have rejoined : (name'.reverse ++ up').reverse ++
            r.drop (object.length + 1 + name'.length) = back.reverse ++ c :: r := by
          rw [after, whole, reached]
          simp [upToName, name', List.takeWhile_append_dropWhile]
        rwa [rejoined] at stands
    next => cases hit
  | case3 back c r miss ih =>
    obtain ⟨before, after, same, stands⟩ := ih found
    exact ⟨before, after, same, by simpa using stands⟩

theorem scanAll_stands {object text up name : Text} (found : (up, name) ∈ scanAll object text) :
    ∃ before after, up = upToName object before ∧ Stands object text before name after := by
  unfold scanAll at found
  split at found
  next rest hit =>
    have whole : text = ([] : Text).reverse ++ (object ++ '.' :: rest) := by
      simpa using Text.stripPrefix?_eq_some_iff.1 hit
    obtain same | later := List.mem_cons.1 found
    · obtain ⟨rfl, rfl⟩ := Prod.mk.inj same
      exact ⟨[], _, by simp [upToName], stands_takeWhile whole (by simp)⟩
    · obtain ⟨before, after, same, stands⟩ := scan_stands later
      refine ⟨before, after, same, ?_⟩
      have rejoined : ((rest.takeWhile isNameChar).reverse ++ '.' :: object.reverse).reverse ++
          rest.drop (rest.takeWhile isNameChar).length = text := by
        rw [Text.drop_takeWhile_length, whole]
        simp [List.takeWhile_append_dropWhile]
      rwa [rejoined] at stands
  next => exact scan_stands found

/-- A usage is the place of a reference with a name. -/
theorem mem_all_stands {object text : Text} {u : Usage} (found : u ∈ all object text) :
    u.name ≠ [] ∧ ∃ before after, Stands object text before u.name after ∧
      u = ofName (upToName object before) u.name := by
  obtain ⟨⟨up, name⟩, hit, rfl⟩ := List.mem_map.1 found
  obtain ⟨scanned, named⟩ := List.mem_filter.1 hit
  obtain ⟨before, after, rfl, stands⟩ := scanAll_stands scanned
  have nonempty : name ≠ [] := by simpa using named
  exact ⟨nonempty, before, after, stands, rfl⟩

/-- A reference found from some place on has its name behind that place. -/
theorem lt_of_mem_scan {object back t up name : Text} (found : (up, name) ∈ scan object back t) :
    Text.byteLength back < Text.byteLength up := by
  fun_induction scan object back t with
  | case1 => cases found
  | case2 back c r rest _ up' name' ih =>
    have reached : up' = upToName object (c :: back) := by simp [up', upToName]
    have behind : Text.byteLength back < Text.byteLength (upToName object (c :: back)) := by
      have positive := Char.utf8Size_pos '.'
      simp [upToName]
      omega
    obtain same | later := List.mem_cons.1 found
    · obtain ⟨rfl, -⟩ := Prod.mk.inj same
      exact behind
    · have next := ih (reached ▸ later)
      rw [reached, Text.byteLength_append] at next
      omega
  | case3 back c r _ ih =>
    have next := ih found
    rw [Text.byteLength_cons] at next
    omega

/-- The end of a name stands before the name of the next reference. -/
theorem pairwise_scan (object back t : Text) :
    (scan object back t).Pairwise fun one next =>
      Text.byteLength (one.2.reverse ++ one.1) < Text.byteLength next.1 := by
  fun_induction scan object back t with
  | case1 => exact .nil
  | case2 back c r rest _ up name ih =>
    have reached : up = upToName object (c :: back) := by simp [up, upToName]
    rw [reached] at ih
    exact .cons (fun next later => lt_of_mem_scan later) ih
  | case3 back c r _ ih => exact ih

theorem pairwise_scanAll (object text : Text) :
    (scanAll object text).Pairwise fun one next =>
      Text.byteLength (one.2.reverse ++ one.1) < Text.byteLength next.1 := by
  unfold scanAll
  split
  next => exact .cons (fun next later => lt_of_mem_scan later) (pairwise_scan ..)
  next => exact pairwise_scan ..

/-- Usages stand in the order of the text, and none overlaps the next. -/
theorem pairwise_all (object text : Text) :
    (all object text).Pairwise fun u v => u.last < v.first := by
  refine List.pairwise_map.2 (((pairwise_scanAll object text).filter _).imp ?_)
  intro one next ordered
  rw [Text.byteLength_append, Text.byteLength_reverse, Nat.add_comm] at ordered
  exact ordered

end ClassNav.Usage
