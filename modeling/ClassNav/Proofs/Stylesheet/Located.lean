import ClassNav.Proofs.Text.Occurrence
import ClassNav.Stylesheet.Position

/-!
When a class has a position in a stylesheet, and which one: the first line that shows its key, and there the
first place of the key, in the searched form of the line before the line as written.
-/

namespace ClassNav.Stylesheet

open Naming

/-- A line shows a key that stands in its searched form or in the line as written. -/
def Shows (policy : Policy) (key line : Text) : Prop :=
  key <:+: policy.transform line ∨ key <:+: line

theorem lineHit?_isSome_iff {policy : Policy} {key line : Text} :
    (lineHit? policy key line).isSome ↔ Shows policy key line := by
  simp [lineHit?, Shows, Option.isSome_or, Text.find?_isSome_iff]

theorem lineHit?_eq_none_iff {policy : Policy} {key line : Text} :
    lineHit? policy key line = none ↔ ¬ Shows policy key line := by
  rw [← lineHit?_isSome_iff, Option.not_isSome_iff_eq_none]

/-- The first hit among numbered lines, whatever number the count starts from. -/
theorem findSome?_zipIdx_eq_some_iff {lines : List Text} {hit : Text → Option Nat}
    {start line column : Nat} :
    (((lines.zipIdx start).findSome? fun (text, index) =>
        (hit text).map fun offset => (⟨index, offset + 1⟩ : Position)) = some ⟨line, column⟩) ↔
      ∃ n text offset, line = start + n ∧ lines[n]? = some text ∧ hit text = some offset ∧
        column = offset + 1 ∧ ∀ m < n, ∀ earlier, lines[m]? = some earlier → hit earlier = none := by
  induction lines generalizing start with
  | nil => simp
  | cons first rest ih =>
    simp only [List.zipIdx_cons, List.findSome?_cons]
    cases found : hit first with
    | some offset =>
      simp only [Option.map_some, Option.some.injEq, Position.mk.injEq]
      constructor
      · rintro ⟨rfl, rfl⟩
        exact ⟨0, first, offset, rfl, rfl, found, rfl, by omega⟩
      · rintro ⟨n, text, k, rfl, here, hit, rfl, least⟩
        cases n with
        | zero =>
          obtain rfl : first = text := by simpa using here
          simp_all
        | succ n => simpa [found] using least 0 (by omega) first rfl
    | none =>
      simp only [Option.map_none, ih]
      constructor
      · rintro ⟨n, text, offset, rfl, here, hit, rfl, least⟩
        refine ⟨n + 1, text, offset, by omega, here, hit, rfl, ?_⟩
        intro m before earlier at_m
        cases m with
        | zero =>
          obtain rfl : first = earlier := by simpa using at_m
          exact found
        | succ m => exact least m (by omega) earlier at_m
      · rintro ⟨n, text, offset, rfl, here, hit, rfl, least⟩
        cases n with
        | zero =>
          obtain rfl : first = text := by simpa using here
          simp [found] at hit
        | succ n =>
          exact ⟨n, text, offset, by omega, here, hit, rfl,
            fun m before earlier at_m => least (m + 1) (by omega) earlier at_m⟩

/-- A position is on the first line with a hit, at the place of that hit. -/
theorem locate?_eq_some_iff {content name : Text} {policy : Policy} {p : Position} :
    locate? content name policy = some p ↔
      ∃ line offset, (Text.lines content)[p.line]? = some line ∧
        lineHit? policy (searchKey policy name) line = some offset ∧ p.column = offset + 1 ∧
        ∀ n < p.line, ∀ earlier, (Text.lines content)[n]? = some earlier →
          ¬ Shows policy (searchKey policy name) earlier := by
  obtain ⟨line, column⟩ := p
  simp only [locate?, findSome?_zipIdx_eq_some_iff, lineHit?_eq_none_iff, Nat.zero_add]
  constructor
  · rintro ⟨_, text, offset, rfl, here, hit, rfl, least⟩
    exact ⟨text, offset, here, hit, rfl, least⟩
  · rintro ⟨text, offset, here, hit, rfl, least⟩
    exact ⟨line, text, offset, rfl, here, hit, rfl, least⟩

theorem locate?_isSome_iff {content name : Text} {policy : Policy} :
    (locate? content name policy).isSome ↔
      ∃ line ∈ Text.lines content, Shows policy (searchKey policy name) line := by
  simp only [locate?, List.findSome?_isSome_iff, Option.isSome_map, lineHit?_isSome_iff]
  constructor
  · rintro ⟨numbered, found, shows⟩
    exact ⟨numbered.1, List.fst_mem_of_mem_zipIdx found, shows⟩
  · rintro ⟨line, found, shows⟩
    obtain ⟨n, at_n⟩ := List.mem_iff_getElem?.1 found
    exact ⟨(line, n), List.mk_mem_zipIdx_iff_getElem?.2 at_n, shows⟩

theorem locate?_eq_none_iff {content name : Text} {policy : Policy} :
    locate? content name policy = none ↔
      ∀ line ∈ Text.lines content, ¬ Shows policy (searchKey policy name) line := by
  rw [← Option.not_isSome_iff_eq_none, locate?_isSome_iff]
  simp

/-- The searched form of a line goes before the line as written. -/
theorem lineHit?_eq_some_iff {policy : Policy} {key line : Text} {offset : Nat} :
    lineHit? policy key line = some offset ↔
      (key <:+: policy.transform line → Text.FirstAt key (policy.transform line) offset) ∧
      (¬ key <:+: policy.transform line → Text.FirstAt key line offset) := by
  rw [lineHit?]
  by_cases inside : key <:+: policy.transform line
  · obtain ⟨found, hit⟩ := Option.isSome_iff_exists.1 (Text.find?_isSome_iff.2 inside)
    rw [hit, Option.some_or, ← hit, Text.find?_eq_some_iff]
    simp [inside, Text.FirstAt]
  · have miss : Text.find? key (policy.transform line) = none := by
      rwa [← Option.not_isSome_iff_eq_none, Text.find?_isSome_iff]
    rw [miss, Option.none_or, Text.find?_eq_some_iff]
    simp [inside, Text.FirstAt]

/-- The first line of the content that shows the key. -/
structure FirstShown (policy : Policy) (key content : Text) (line : Nat) (text : Text) : Prop where
  listed : (Text.lines content)[line]? = some text
  shows : Shows policy key text
  first : ∀ n < line, ∀ earlier, (Text.lines content)[n]? = some earlier → ¬ Shows policy key earlier

theorem locate?_of_firstShown {content name text : Text} {policy : Policy} {line : Nat}
    (shown : FirstShown policy (searchKey policy name) content line text) :
    ∃ offset, lineHit? policy (searchKey policy name) text = some offset ∧
      locate? content name policy = some ⟨line, offset + 1⟩ := by
  obtain ⟨offset, hit⟩ := Option.isSome_iff_exists.1 (lineHit?_isSome_iff.2 shown.shows)
  exact ⟨offset, hit, locate?_eq_some_iff.2 ⟨text, offset, shown.listed, hit, rfl, shown.first⟩⟩

theorem firstShown_of_locate? {content name : Text} {policy : Policy} {p : Position}
    (found : locate? content name policy = some p) :
    ∃ text offset, FirstShown policy (searchKey policy name) content p.line text ∧
      lineHit? policy (searchKey policy name) text = some offset ∧ p.column = offset + 1 := by
  obtain ⟨text, offset, listed, hit, column, first⟩ := locate?_eq_some_iff.1 found
  exact ⟨text, offset, ⟨listed, lineHit?_isSome_iff.1 (by rw [hit]; rfl), first⟩, hit, column⟩

/-- No line that shows the key is passed over for a later one. -/
theorem locate?_le {content name text : Text} {policy : Policy} {n : Nat}
    (listed : (Text.lines content)[n]? = some text)
    (shows : Shows policy (searchKey policy name) text) :
    ∃ p, locate? content name policy = some p ∧ p.line ≤ n := by
  obtain ⟨p, found⟩ := Option.isSome_iff_exists.1
    (locate?_isSome_iff.2 ⟨text, List.mem_of_getElem? listed, shows⟩)
  obtain ⟨_, _, shown, -⟩ := firstShown_of_locate? found
  exact ⟨p, found, Nat.le_of_not_lt fun earlier => shown.first n earlier text listed shows⟩

/-- **A class is on the first line that shows its key, in either form.** There the searched form counts if
it has the key, and only otherwise the line as written; the column is that of the first occurrence. Both
forms of a line come before the next line, so that a line that has the key as written is never passed over. -/
theorem located_on_first_line (content name : Text) (policy : Policy) :
    searchKey .off name = '.' :: name ∧ (policy ≠ .off → searchKey policy name = name) ∧
    (∀ line, (∃ column, locate? content name policy = some ⟨line, column⟩) ↔
      ∃ text, FirstShown policy (searchKey policy name) content line text) ∧
    (∀ line column, locate? content name policy = some ⟨line, column⟩ ↔
      ∃ text offset, FirstShown policy (searchKey policy name) content line text ∧ column = offset + 1 ∧
        (searchKey policy name <:+: policy.transform text →
          Text.FirstAt (searchKey policy name) (policy.transform text) offset) ∧
        (¬ searchKey policy name <:+: policy.transform text →
          Text.FirstAt (searchKey policy name) text offset)) ∧
    (∀ n text, (Text.lines content)[n]? = some text → searchKey policy name <:+: text →
      ∃ p, locate? content name policy = some p ∧ p.line ≤ n) ∧
    (locate? content name policy = none ↔ ∀ line ∈ Text.lines content,
      ¬ searchKey policy name <:+: policy.transform line ∧ ¬ searchKey policy name <:+: line) := by
  refine ⟨rfl, fun transforming => by simp [searchKey, Policy.transforms, transforming],
    fun line => ⟨?_, ?_⟩, fun line column => ⟨?_, ?_⟩, ?_, ?_⟩
  · rintro ⟨column, found⟩
    obtain ⟨text, -, shown, -⟩ := firstShown_of_locate? found
    exact ⟨text, shown⟩
  · rintro ⟨text, shown⟩
    obtain ⟨offset, -, found⟩ := locate?_of_firstShown shown
    exact ⟨offset + 1, found⟩
  · intro found
    obtain ⟨text, offset, shown, hit, column⟩ := firstShown_of_locate? found
    exact ⟨text, offset, shown, column, lineHit?_eq_some_iff.1 hit⟩
  · rintro ⟨text, offset, shown, rfl, hit⟩
    obtain ⟨offset', hit', found⟩ := locate?_of_firstShown shown
    obtain rfl := Option.some.inj (hit'.symm.trans (lineHit?_eq_some_iff.2 hit))
    exact found
  · exact fun n text listed written => locate?_le listed (.inr written)
  · simp only [locate?_eq_none_iff, Shows, not_or]

/-- The first line has the key as written, the second in its searched form. -/
example : locate? ".Header \x7b\n.my-header \x7b" "Header" .full = some ⟨0, 2⟩ := by cbv

end ClassNav.Stylesheet
