import ClassNav.Proofs.Document.ImportTail

/-!
The search for one key beside the list of all imports. The key counts wherever an import goes on behind
it: as a whole key, at the end of a longer one, and inside a module path. The first place decides.
-/

namespace ClassNav.Import

open Character

/-- A place of the key in the text, given by what stands behind it: an import of the path goes on there. -/
def Placed (key text rest path : Text) : Prop :=
  key ++ rest <:+ text ∧ (afterKey? rest).map Prod.fst = some path

theorem not_placed_nil {key rest path : Text} : ¬ Placed key [] rest path := by
  rintro ⟨within, goes_on⟩
  obtain ⟨-, rfl⟩ := List.append_eq_nil_iff.1 (List.suffix_nil.1 within)
  cases goes_on

theorem Placed.of_suffix {key text text' rest path : Text} (placed : Placed key text rest path)
    (within : text <:+ text') : Placed key text' rest path :=
  ⟨placed.1.trans within, placed.2⟩

theorem placed_cons_iff {key text rest path : Text} {c : Char} :
    Placed key (c :: text) rest path ↔
      (key ++ rest = c :: text ∧ (afterKey? rest).map Prod.fst = some path) ∨
        Placed key text rest path := by
  rw [Placed, List.suffix_cons_iff, or_and_right, Placed]

theorem placed_cons_of_elsewhere {key text rest path : Text} {c : Char}
    (elsewhere : (Text.stripPrefix? key (c :: text)).bind afterKey? = none) :
    Placed key (c :: text) rest path ↔ Placed key text rest path := by
  rw [placed_cons_iff, or_iff_right]
  rintro ⟨whole, goes_on⟩
  obtain ⟨found, goes_on, -⟩ := Option.map_eq_some_iff.1 goes_on
  rw [Text.stripPrefix?_eq_some_iff.2 whole.symm, Option.bind_some, goes_on] at elsewhere
  cases elsewhere

/-- Of all places the search takes the first. -/
theorem specifierOf?_eq_some_iff {key text path : Text} :
    specifierOf? key text = some path ↔
      ∃ rest, Placed key text rest path ∧
        ∀ rest' path', Placed key text rest' path' → rest'.length ≤ rest.length := by
  induction text with
  | nil =>
    have nowhere : specifierOf? key [] = none := by
      cases begins : Text.stripPrefix? key [] with
      | none => simp [specifierOf?, begins]
      | some rest =>
        obtain ⟨-, rfl⟩ := List.append_eq_nil_iff.1 (Text.stripPrefix?_eq_some_iff.1 begins).symm
        simp [specifierOf?, begins, afterKey?, skipBlanks?]
    simp [nowhere, not_placed_nil]
  | cons c text ih =>
    rw [specifierOf?]
    split
    next path₀ after here =>
      obtain ⟨rest₀, begins, goes_on⟩ := Option.bind_eq_some_iff.1 here
      have whole := Text.stripPrefix?_eq_some_iff.1 begins
      have placed₀ : Placed key (c :: text) rest₀ path₀ := ⟨whole ▸ List.suffix_rfl, by simp [goes_on]⟩
      have least {rest' path'} (placed : Placed key (c :: text) rest' path') :
          rest'.length ≤ rest₀.length := by
        have shorter := placed.1.length_le
        rw [whole, List.length_append, List.length_append] at shorter
        omega
      constructor
      · rintro ⟨rfl⟩
        exact ⟨rest₀, placed₀, fun _ _ => least⟩
      · rintro ⟨rest, placed, first⟩
        have same : rest.length = rest₀.length := le_antisymm (least placed) (first _ _ placed₀)
        obtain ⟨within, goes_on'⟩ := placed
        rw [whole] at within
        have equal := within.eq_of_length (by simp [same])
        obtain rfl := List.append_cancel_left equal
        simpa [goes_on] using goes_on'
    next elsewhere =>
      simp only [ih, placed_cons_of_elsewhere elsewhere]

theorem specifierOf?_isSome_of_placed {key text rest path : Text} (placed : Placed key text rest path) :
    (specifierOf? key text).isSome := by
  induction text with
  | nil => exact absurd placed not_placed_nil
  | cons c text ih =>
    rw [specifierOf?]
    split
    next => rfl
    next elsewhere => exact ih ((placed_cons_of_elsewhere elsewhere).1 placed)

theorem specifierOf?_congr {key text text' : Text}
    (same : ∀ rest path, Placed key text rest path ↔ Placed key text' rest path) :
    specifierOf? key text = specifierOf? key text' := by
  apply Option.ext
  intro path
  simp only [specifierOf?_eq_some_iff, same]

theorem here?_eq_some {t after : Text} {i : Import} (h : here? t = some (i, after)) :
    ∃ rest, t = i.binding ++ rest ∧ i.binding ≠ [] ∧ Text.IsSolid i.binding ∧
      afterKey? rest = some (i.modulePath, after) := by
  simp only [here?] at h
  split at h
  next => cases h
  next nonempty =>
    obtain ⟨⟨path, after'⟩, goes_on, same⟩ := Option.map_eq_some_iff.1 h
    obtain ⟨rfl, rfl⟩ := Prod.mk.inj same
    refine ⟨_, List.takeWhile_append_dropWhile.symm, by simpa using nonempty, fun c found => ?_, goes_on⟩
    have solid := List.mem_takeWhile_imp found
    simpa using solid

theorem exists_blank_of_afterKey? {t path after : Text} (h : afterKey? t = some (path, after)) :
    ∃ c r, t = c :: r ∧ isBlank c = true := by
  obtain ⟨gapped, skipped, -⟩ := Option.bind_eq_some_iff.1 h
  obtain ⟨gap, ⟨nonempty, blank⟩, rfl⟩ := skipBlanks?_eq_some skipped
  obtain ⟨c, gap, rfl⟩ := List.exists_cons_of_ne_nil nonempty
  exact ⟨c, gap ++ gapped, rfl, blank c (List.mem_cons_self ..)⟩

/-- An import goes on with a blank, so the run before it is its key. -/
theorem here?_append {key rest path after : Text} (nonempty : key ≠ []) (solid : Text.IsSolid key)
    (goes_on : afterKey? rest = some (path, after)) :
    here? (key ++ rest) = some (⟨key, path⟩, after) := by
  have inside : ∀ c ∈ key, (!isBlank c) = true := fun c found => by simp [solid c found]
  have stops : ∀ c ∈ rest.head?, (!isBlank c) = false := by
    obtain ⟨c, rest, rfl, blank⟩ := exists_blank_of_afterKey? goes_on
    simp [blank]
  simp only [here?, Text.takeWhile_append_stop inside stops, Text.dropWhile_append_stop inside stops]
  simp [nonempty, goes_on]

/-- The first import is one that begins where none begins earlier. -/
theorem first?_eq_some_iff {text : Text} {found : Import × Text} :
    first? text = some found ↔
      ∃ before t, text = before ++ t ∧ here? t = some found ∧
        ∀ earlier t', text = earlier ++ t' → (here? t').isSome → before.length ≤ earlier.length := by
  induction text with
  | nil =>
    have nowhere : here? [] = none := rfl
    simp [first?, nowhere]
  | cons c text ih =>
    rw [first?]
    split
    next found₀ here =>
      constructor
      · rintro ⟨rfl⟩
        exact ⟨[], _, rfl, here, fun _ _ _ _ => Nat.zero_le _⟩
      · rintro ⟨before, t, whole, here', first⟩
        obtain rfl := List.length_eq_zero_iff.1 (Nat.le_zero.1 (first [] _ rfl (by simp [here])))
        rw [List.nil_append] at whole
        rw [← here', ← whole, here]
    next elsewhere =>
      rw [ih]
      constructor
      · rintro ⟨before, t, rfl, here, first⟩
        refine ⟨c :: before, t, rfl, here, fun earlier t' whole begins => ?_⟩
        cases earlier with
        | nil => simp [← List.nil_append t' ▸ whole, elsewhere] at begins
        | cons d earlier => exact Nat.succ_le_succ (first earlier t' (List.cons.inj whole).2 begins)
      · rintro ⟨before, t, whole, here, first⟩
        cases before with
        | nil =>
          rw [List.nil_append] at whole
          rw [whole, here] at elsewhere
          cases elsewhere
        | cons d before =>
          obtain ⟨rfl, rfl⟩ := List.cons.inj whole
          exact ⟨before, t, rfl, here, fun earlier t' same begins =>
            Nat.le_of_succ_le_succ (first (c :: earlier) t' (by rw [same, List.cons_append]) begins)⟩

/-- The first import, and that none begins before it. -/
theorem first?_eq_some {text after : Text} {i : Import} (h : first? text = some (i, after)) :
    ∃ before rest, text = before ++ (i.binding ++ rest) ∧ Text.IsSolid i.binding ∧
      afterKey? rest = some (i.modulePath, after) ∧
      ∀ earlier t, text = earlier ++ t → (here? t).isSome → before.length ≤ earlier.length := by
  obtain ⟨before, t, whole, here, first⟩ := first?_eq_some_iff.1 h
  obtain ⟨rest, rfl, -, solid, goes_on⟩ := here?_eq_some here
  exact ⟨before, rest, whole, solid, goes_on, first⟩

theorem here?_eq_none {text earlier t : Text} (h : first? text = none) (whole : text = earlier ++ t) :
    here? t = none := by
  induction earlier generalizing text with
  | nil =>
    obtain rfl : text = t := whole
    cases text with
    | nil => rfl
    | cons c text =>
      rw [first?] at h
      split at h
      next => cases h
      next elsewhere => exact elsewhere
  | cons d earlier ih =>
    obtain rfl := whole
    rw [List.cons_append, first?] at h
    split at h
    next => cases h
    next => exact ih h rfl

theorem first?_suffix {text after : Text} {i : Import} (h : first? text = some (i, after)) :
    after <:+ text := by
  obtain ⟨before, rest, rfl, -, goes_on, -⟩ := first?_eq_some h
  exact (afterKey?_suffix goes_on).trans ((List.suffix_append ..).trans (List.suffix_append ..))

theorem first?_of_anyKey {text : Text} {i : Import} {behind : List Import}
    (listed : anyKey text = i :: behind) : ∃ after, first? text = some (i, after) ∧ anyKey after = behind := by
  rw [anyKey] at listed
  split at listed
  next => cases listed
  next j after found =>
    obtain ⟨rfl, rfl⟩ := List.cons.inj listed
    exact ⟨after, found, rfl⟩

/-- A key with the rest of an import behind it is an import, though perhaps not all of its key. -/
theorem Placed.here?_isSome {key text rest path : Text} (isKey : IsKey key)
    (placed : Placed key text rest path) : (here? (key ++ rest)).isSome := by
  obtain ⟨⟨path', after⟩, goes_on, -⟩ := Option.map_eq_some_iff.1 placed.2
  rw [here?_append isKey.nonempty isKey.solid goes_on]
  rfl

theorem not_placed_of_none {key text rest path : Text} (isKey : IsKey key)
    (h : first? text = none) : ¬ Placed key text rest path := by
  intro placed
  obtain ⟨earlier, whole⟩ := placed.1
  have begins := placed.here?_isSome isKey
  simp [here?_eq_none h whole.symm] at begins

/-- A key stands at the end of the first import's own, in its module path, or behind the import. -/
theorem placed_cases {key text after : Text} {i : Import} (isKey : IsKey key)
    (found : first? text = some (i, after)) :
    ∃ tail, i.binding ++ tail <:+ text ∧ (afterKey? tail).map Prod.fst = some i.modulePath ∧
      ∀ rest path, Placed key text rest path →
        (key <:+ i.binding ∧ rest = tail) ∨
          rest.length < tail.length ∧ (Hides i.modulePath key path ∨ Placed key after rest path) := by
  obtain ⟨before, tail, rfl, solid, goes_on, first⟩ := first?_eq_some found
  refine ⟨tail, List.suffix_append .., by simp [goes_on], fun rest path placed => ?_⟩
  obtain ⟨earlier, whole⟩ := placed.1
  obtain ⟨⟨path', after'⟩, goes_on', rfl⟩ := Option.map_eq_some_iff.1 placed.2
  obtain ⟨between, rfl⟩ : before <+: earlier :=
    List.prefix_of_prefix_length_le ⟨_, rfl⟩ ⟨_, whole⟩
      (first _ _ whole.symm (placed.here?_isSome isKey))
  obtain ⟨c, tail, rfl, blank⟩ := exists_blank_of_afterKey? goes_on
  have absent : c ∉ key := by
    intro inside
    rw [isKey.solid c inside] at blank
    cases blank
  have same : i.binding ++ c :: tail = between ++ (key ++ rest) := by simpa using whole.symm
  obtain ⟨inner, ends, behind⟩ | ⟨between', -, rfl⟩ :=
    Text.before_or_behind isKey.nonempty absent same
  · cases inner with
    | nil => exact .inl ⟨⟨between, by simp [ends]⟩, behind⟩
    | cons d inner =>
      obtain ⟨e, r, rfl, blank'⟩ := exists_blank_of_afterKey? goes_on'
      obtain ⟨rfl, -⟩ := List.cons.inj behind
      rw [solid e (by simp [ends])] at blank'
      cases blank'
  · have place : c :: (between' ++ (key ++ rest)) = (c :: between') ++ (key ++ rest) := rfl
    refine .inr ⟨by simp; omega, ?_⟩
    exact (hides_or_suffix isKey goes_on place goes_on').imp_right fun within => ⟨within, placed.2⟩

/-- The stylesheets that the key has in the import: its own if the key ends in this one, and those of
imports inside its module path. -/
inductive LeadsTo (i : Import) (key : Text) : Text → Prop
  | ending (ends : key <:+ i.binding) : LeadsTo i key i.modulePath
  | inside {inner : Text} (hidden : Hides i.modulePath key inner) : LeadsTo i key inner

def Passes (i : Import) (key : Text) : Prop := ∀ path, ¬ i.LeadsTo key path

section
variable {key text after : Text} {i : Import} (isKey : IsKey key)
include isKey

theorem specifierOf?_of_suffix (found : first? text = some (i, after)) (ends : key <:+ i.binding) :
    specifierOf? key text = some i.modulePath := by
  obtain ⟨tail, within, goes_on, places⟩ := placed_cases isKey found
  obtain ⟨run, whole⟩ := ends
  refine specifierOf?_eq_some_iff.2 ⟨tail, ⟨?_, goes_on⟩, fun rest path placed => ?_⟩
  · refine .trans ?_ within
    rw [← whole, List.append_assoc]
    exact List.suffix_append ..
  · obtain ⟨-, rfl⟩ | ⟨shorter, -⟩ := places rest path placed
    · exact le_rfl
    · exact shorter.le

theorem specifierOf?_of_passes (found : first? text = some (i, after)) (passes : i.Passes key) :
    specifierOf? key text = specifierOf? key after := by
  obtain ⟨tail, -, -, places⟩ := placed_cases isKey found
  refine specifierOf?_congr fun rest path => ⟨fun placed => ?_, (·.of_suffix (first?_suffix found))⟩
  obtain ⟨ends, -⟩ | ⟨-, hidden | later⟩ := places rest path placed
  · exact absurd (.ending ends) (passes _)
  · exact absurd (.inside hidden) (passes path)
  · exact later

/-- Every place of a key is in one of the imports. -/
theorem exists_import_of_placed {rest path : Text} (placed : Placed key text rest path) :
    ∃ i ∈ anyKey text, i.LeadsTo key path := by
  fun_induction anyKey text with
  | case1 text none_found => exact absurd placed (not_placed_of_none isKey none_found)
  | case2 text i after found ih =>
    obtain ⟨tail, -, goes_on, places⟩ := placed_cases isKey found
    obtain ⟨ends, rfl⟩ | ⟨-, hidden | later⟩ := places rest path placed
    · obtain rfl := Option.some.inj (goes_on.symm.trans placed.2)
      exact ⟨i, List.mem_cons_self .., .ending ends⟩
    · exact ⟨i, List.mem_cons_self .., .inside hidden⟩
    · obtain ⟨j, listed, leads⟩ := ih later
      exact ⟨j, List.mem_cons_of_mem _ listed, leads⟩

/-- What the search finds is a stylesheet that the key has in one of the imports. -/
theorem exists_import_of_specifierOf? {path : Text} (found : specifierOf? key text = some path) :
    ∃ i ∈ anyKey text, i.LeadsTo key path := by
  obtain ⟨rest, placed, -⟩ := specifierOf?_eq_some_iff.1 found
  exact exists_import_of_placed isKey placed

/-- **The first import whose key ends in this one decides**, if the imports before it pass. -/
theorem specifierOf?_of_listed {before behind : List Import}
    (listed : anyKey text = before ++ i :: behind) (passed : ∀ j ∈ before, j.Passes key)
    (ends : key <:+ i.binding) : specifierOf? key text = some i.modulePath := by
  induction before generalizing text with
  | nil =>
    obtain ⟨after, found, -⟩ := first?_of_anyKey listed
    exact specifierOf?_of_suffix isKey found ends
  | cons j before ih =>
    obtain ⟨after, found, later⟩ := first?_of_anyKey listed
    rw [specifierOf?_of_passes isKey found (passed j (List.mem_cons_self ..))]
    exact ih later fun k inside => passed k (List.mem_cons_of_mem _ inside)

end

/-- A listed import has a place for every end of its key. -/
theorem exists_placed_of_mem {key text : Text} {i : Import} (listed : i ∈ anyKey text)
    (ends : key <:+ i.binding) : ∃ rest, Placed key text rest i.modulePath := by
  fun_induction anyKey text with
  | case1 => cases listed
  | case2 text j after found ih =>
    obtain rfl | later := List.mem_cons.1 listed
    · obtain ⟨before, rest, rfl, -, goes_on, -⟩ := first?_eq_some found
      obtain ⟨run, whole⟩ := ends
      refine ⟨rest, ⟨before ++ run, ?_⟩, by simp [goes_on]⟩
      simp [← whole]
    · obtain ⟨rest, placed⟩ := ih later
      exact ⟨rest, placed.of_suffix (first?_suffix found)⟩

/-- The imports ahead of the first that binds the name. -/
def ahead (key text : Text) : List Import := (anyKey text).takeWhile fun i => !(i.binding == key)

theorem find?_all {key : Text} (names : isIdentifier key = true) (text : Text) :
    (all text).find? (·.binding == key) = (anyKey text).find? (·.binding == key) := by
  rw [all, List.find?_filter]
  congr 1
  funext i
  by_cases same : i.binding = key <;> simp [same, names]

/-- **Both ways of reading imports agree on a name that passes by all the imports ahead of its own.** -/
theorem specifierOf?_eq_find? {key text : Text} (names : isIdentifier key = true)
    (passed : ∀ i ∈ ahead key text, i.Passes key) :
    specifierOf? key text = ((all text).find? (·.binding == key)).map modulePath := by
  have isKey := isKey_of_isIdentifier names
  rw [find?_all names]
  cases found : (anyKey text).find? (·.binding == key) with
  | none =>
    have others : ahead key text = anyKey text := by
      rw [ahead, List.takeWhile_eq_self_iff]
      simpa using found
    rw [others] at passed
    rw [Option.map_none, Option.eq_none_iff_forall_not_mem]
    intro path searched
    obtain ⟨i, listed, leads⟩ := exists_import_of_specifierOf? isKey searched
    exact passed i listed path leads
  | some i =>
    obtain ⟨same, before, behind, listed, others⟩ := List.find?_eq_some_iff_append.1 found
    obtain rfl : i.binding = key := by simpa using same
    have first : ahead i.binding text = before := by
      rw [ahead, listed, List.takeWhile_append_of_pos others, List.takeWhile_cons_of_neg (by simp),
        List.append_nil]
    rw [first] at passed
    exact specifierOf?_of_listed isKey listed passed List.suffix_rfl

/-- A listed import is found by any end of its key, itself or another. -/
theorem specifierOf?_isSome_of_mem {key text : Text} {i : Import} (listed : i ∈ anyKey text)
    (ends : key <:+ i.binding) : (specifierOf? key text).isSome := by
  obtain ⟨rest, placed⟩ := exists_placed_of_mem listed ends
  exact specifierOf?_isSome_of_placed placed

/-- A module path without quotes hides no import. -/
theorem passes_of_unquoted {i : Import} {key : Text} (ends : ¬ key <:+ i.binding)
    (unquoted : i.modulePath.any isQuote = false) : i.Passes key := by
  rintro path (ends' | ⟨before, lead, q, -, quote, whole⟩)
  · exact ends ends'
  · have quoted : i.modulePath.any isQuote = true := List.any_eq_true.2 ⟨q, by simp [whole], quote⟩
    rw [unquoted] at quoted
    cases quoted

end ClassNav.Import
