import ClassNav.Proofs.Document.CursorAtPlace
import ClassNav.Proofs.Document.TokenScan
import ClassNav.Proofs.Document.Usages
import ClassNav.Proofs.Engine.Imported
import ClassNav.Proofs.Naming.BasicLetters
import ClassNav.Proofs.Path.Places
import ClassNav.Proofs.Stylesheet.Declared
import ClassNav.Proofs.Text.Inert

/-!
Answers bring in no escape character. Paths are cut and joined from those they come from, names are of ASCII
letters and digits, and what is read from files is what they hold.
-/

namespace ClassNav

open Text

namespace Path

theorem inert_join {base : Path} {spec : Text} (base_inert : Inert base.text) (inert : Inert spec) :
    Inert (base.join spec).text := by
  unfold join
  split
  · exact inert
  · split
    · exact Inert.append base_inert inert
    · exact Inert.append base_inert (inert_cons_iff.2 ⟨by decide, inert⟩)

theorem inert_parent? {p q : Path} (inert : Inert p.text) (parent : p.parent? = some q) : Inert q.text := by
  unfold parent? at parent
  split at parent
  · split at parent
    · obtain rfl := Option.some.inj parent
      exact inert_nil
    · cases parent
  · obtain rfl := Option.some.inj parent
    have anchor : Inert p.anchor := by
      unfold anchor
      split
      · decide
      · split <;> decide
    refine Inert.append anchor (inert_joinWith (by decide) fun part found => ?_)
    have listed := (dropIdle_within _).subset found
    have kept := (dropIdle_within _).subset (List.dropLast_subset _ listed)
    exact inert.of_subset ((infix_of_mem_splitOn kept).trans (List.drop_suffix _ _).isInfix).subset

theorem inert_of_mem_ancestors {p : Path} (inert : Inert p.text) : ∀ q ∈ p.ancestors, Inert q.text := by
  fun_induction ancestors p with
  | case1 p => simpa using inert
  | case2 p q parent shorter ih =>
    intro r found
    obtain rfl | above := List.mem_cons.1 found
    · exact inert
    · exact ih (inert_parent? inert parent) r above
  | case3 p => simpa using inert

theorem inert_of_mem_steps {p : Path} (inert : Inert p.text) {n : Text} (found : .name n ∈ p.steps) :
    Inert n := by
  have lead_free : ∀ lead, (lead = [.root] ∨ lead = [.here] ∨ lead = []) → Step.name n ∉ lead := by
    rintro lead (rfl | rfl | rfl) <;> simp
  simp only [steps, List.mem_append] at found
  obtain lead | found := found
  · refine absurd lead (lead_free _ ?_)
    split
    · exact .inl rfl
    · split <;> simp
  · obtain ⟨part, listed, step⟩ := List.mem_filterMap.1 found
    have same : part = n := by
      unfold stepOf? at step
      split at step
      · cases step
      · split at step <;> simp_all
    exact inert.of_subset (same ▸ infix_of_mem_splitOn listed).subset

theorem inert_location {p : Path} (inert : Inert p.text) : Inert p.location.path.text := by
  have reached (steps : List Step) (l : Location) (names : ∀ n, Step.name n ∈ steps → Inert n)
      (here : ∀ n ∈ l, Inert n) : ∀ n ∈ steps.foldl Location.step l, Inert n := by
    induction steps generalizing l with
    | nil => exact here
    | cons step steps ih =>
      refine ih _ (fun n found => names n (List.mem_cons_of_mem _ found)) fun n found => ?_
      cases step with
      | root => cases found
      | here => exact here n found
      | up => exact here n (List.dropLast_subset _ found)
      | name m =>
        obtain below | rfl := by simpa [Location.step] using found
        · exact here n below
        · exact names n (List.mem_cons_self ..)
  refine inert_cons_iff.2 ⟨by decide, inert_joinWith (by decide) ?_⟩
  exact reached _ _ (fun n found => inert_of_mem_steps inert found) (by simp)

theorem inert_resolve {cwd base : Path} {spec : Text} (cwd_inert : Inert cwd.text)
    (base_inert : Inert base.text) (inert : Inert spec) : Inert (resolve cwd base spec).text :=
  inert_location (inert_join cwd_inert (inert_join base_inert inert))

end Path

namespace Store

variable {s : Store} {p : Path} {e : FileError}

theorem inert_of_walk {place : Location} {parts : List Text} (refused : s.walk place parts = .error e) :
    Inert e.message := by
  fun_induction walk s place parts with
  | case1 => cases refused
  | case2 | case3 | case5 | case6 =>
    cases refused
    decide
  | case4 _ _ _ _ _ ih => exact ih refused
  | case7 _ _ _ _ _ _ _ _ _ ih => exact ih refused
  | case8 _ _ _ _ _ _ _ ih => exact ih refused

theorem inert_of_locate (refused : s.locate p = .error e) : Inert e.message := by
  revert refused
  fun_cases locate s p with
  | case1 | case2 | case3 =>
    rintro ⟨⟩
    decide
  | case4 => exact inert_of_walk

theorem inert_of_find (refused : s.find p = .error e) : Inert e.message := by
  revert refused
  fun_cases find s p with
  | case1 _ lost =>
    rintro ⟨⟩
    exact inert_of_locate lost
  | case2 =>
    rintro ⟨⟩
    decide
  | case3 => rintro ⟨⟩

theorem inert_of_read (refused : s.read p = .error e) : Inert e.message := by
  revert refused
  fun_cases read s p with
  | case1 _ missing =>
    rintro ⟨⟩
    exact inert_of_find missing
  | case2 =>
    rintro ⟨⟩
    decide
  | case3 => rintro ⟨⟩

theorem inert_of_readText (refused : s.readText p = .error e) : Inert e.message := by
  revert refused
  fun_cases readText s p with
  | case1 _ unread =>
    rintro ⟨⟩
    exact inert_of_read unread
  | case2 =>
    rintro ⟨⟩
    decide
  | case3 => rintro ⟨⟩

theorem inert_of_append {more : Text} (refused : s.append p more = .error e) : Inert e.message := by
  revert refused
  fun_cases append s p more with
  | case1 _ missing =>
    rintro ⟨⟩
    exact inert_of_find missing
  | case2 =>
    rintro ⟨⟩
    decide
  | case3 => rintro ⟨⟩

/-- A file without the byte of the escape character has a text without that character. -/
theorem inert_of_bytes (plain : ∀ l bytes, (l, .file bytes) ∈ s.entries → 0x1b ∉ bytes.data.toList)
    {t : Text} (read : s.readText p = .ok t) : Inert t := by
  intro escape
  obtain ⟨l, bytes, found, decoded⟩ := find_of_readText read
  have entry := (find_eq_ok_iff.1 found).2
  unfold entry? at entry
  split at entry
  next => cases entry
  next =>
    obtain ⟨front, back, listed, -⟩ := List.lookup_eq_some_iff.1 entry
    refine plain l bytes (by simp [listed]) ?_
    rw [← encode_of_decode? decoded, toList_encode]
    exact List.mem_flatMap.2 ⟨'\x1b', escape, by decide⟩

end Store

theorem Document.inert_baseDir {d : Document} (path : Inert d.path.text) : Inert d.baseDir.text := by
  unfold baseDir
  cases parent : d.path.parent? with
  | none => exact inert_nil
  | some dir => exact Path.inert_parent? path parent

theorem Document.inert_of_cursor {d : Document} {line column : Nat} {e : Failure}
    (refused : d.cursor line column = .error e) : Inert e.message := by
  have outside : Inert (Failure.outsideDocument line column).message := by
    have lead : Inert ("Position ".toList ++ decimal line) := Inert.append (by decide) (inert_decimal line)
    have place : Inert ("Position ".toList ++ decimal line ++ ":".toList ++ decimal column) :=
      Inert.between lead (by decide) (inert_decimal column)
    exact Inert.append place (by decide)
  unfold cursor at refused
  split at refused
  next => exact Except.error.inj refused ▸ outside
  next =>
    split at refused
    next => cases refused
    next => exact Except.error.inj refused ▸ outside

theorem Document.infix_of_line? {d : Document} {line : Nat} {shown : Text}
    (here : d.line? line = some shown) : shown <:+: d.text := by
  obtain ⟨whole, listed, rfl⟩ := Option.map_eq_some_iff.1 here
  have shown := dropCarriageReturn_prefix whole
  exact shown.isInfix.trans (infix_of_mem_lines (List.mem_of_getElem? listed))

namespace Import

theorem infix_of_afterKey? {t path after : Text} (h : afterKey? t = some (path, after)) : path <:+: t := by
  obtain ⟨lead, q, quoted, tail, -, -, rfl, named, -⟩ := afterKey?_eq_some h
  obtain ⟨q', -, rfl⟩ := (named_of_stylesheetName? named).whole
  exact ⟨lead ++ [q], q' :: tail, by simp⟩

theorem infix_of_specifierOf? {key text path : Text} (h : specifierOf? key text = some path) :
    path <:+: text := by
  obtain ⟨rest, ⟨within, leads⟩, -⟩ := specifierOf?_eq_some_iff.1 h
  obtain ⟨⟨path, after⟩, goes_on, rfl⟩ := Option.map_eq_some_iff.1 leads
  exact (infix_of_afterKey? goes_on).trans ((List.suffix_append ..).trans within).isInfix

theorem infix_of_onLine? {line : Text} {i : Import} (h : onLine? line = some i) : i.modulePath <:+: line := by
  obtain ⟨⟨i', after⟩, found, rfl⟩ := Option.map_eq_some_iff.1 h
  obtain ⟨before, rest, rfl, -, goes_on, -⟩ := first?_eq_some found
  exact (infix_of_afterKey? goes_on).trans ((List.suffix_append ..).trans (List.suffix_append ..)).isInfix

theorem inert_of_isIdentifier {name : Text} (names : isIdentifier name = true) : Inert name :=
  fun escape => absurd ((isKey_of_isIdentifier names).chars _ escape) (by decide)

end Import

namespace Cursor

theorem inert_field {c : Cursor} {r : Reference} (reads : c.reference? = some r) : Inert r.field :=
  fun escape => absurd ((chars_of_reference? reads).2.2 _ escape) (by decide)

end Cursor

theorem Stylesheet.inert_of_isNameChar {name : Text} (chars : ∀ c ∈ name, isNameChar c = true) : Inert name :=
  fun escape => absurd (chars _ escape) (by decide)

namespace Naming

theorem inert_joinDashes {t : Text} (inert : Inert t) : Inert (joinDashes t) := by
  fun_induction joinDashes t with
  | case1 => exact inert
  | case2 => exact inert
  | case3 c d r joins ih =>
    obtain ⟨-, -, rest⟩ := by simpa using inert
    refine inert_cons_iff.2 ⟨fun escape => ?_, ih rest⟩
    obtain word | rfl : d.isAlphanum = true ∨ d = '_' := by simpa [isJoinable] using joins.2
    · have raised := Character.isAlphanum_toUpper word
      rw [escape] at raised
      cases raised
    · cases escape
  | case4 c d r keeps ih =>
    obtain ⟨first, rest⟩ := inert_cons_iff.1 inert
    exact inert_cons_iff.2 ⟨first, ih rest⟩

theorem inert_camelCase {t : Text} (latin : ∀ c ∈ t, IsLatin c) : Inert (camelCase t) :=
  inert_of_isAlphanum <| isAlphanum_joinWords fun _ word => isAlphanum_of_mem_words latin word

theorem Policy.inert_transform (policy : Policy) {name : Text}
    (chars : ∀ c ∈ name, Stylesheet.isNameChar c = true) : Inert (policy.transform name) := by
  have inert := Stylesheet.inert_of_isNameChar chars
  cases policy with
  | off => exact inert
  | dashesOnly => exact inert_joinDashes inert
  | full =>
    refine inert_camelCase fun c found => .inl ?_
    obtain joins | rfl := Character.isNameChar_iff.1 (chars c found)
    · have token := Character.isTokenChar_iff.2 (.inl joins)
      have ascii := Character.toNat_of_isTokenChar token
      omega
    · decide

end Naming

theorem MissingClass.inert {object text : Text} {declared : List Text} {m : MissingClass}
    (listed : m ∈ all object text declared) : Inert m.usage.name ∧ Inert m.hoverMessage := by
  obtain ⟨u, used, rfl⟩ := List.mem_map.1 listed
  obtain ⟨-, before, after, stands, -⟩ := Usage.mem_all_stands (List.mem_filter.1 used).1
  have name : Inert u.name := fun escape => absurd (stands.chars _ escape) (by decide)
  have offered : Inert (offer u.name) :=
    Inert.between (by decide) name (by decide)
  exact ⟨name, offered⟩

/-- All that a report shows. -/
structure Report.Inert (r : Report) : Prop where
  object : Text.Inert r.object
  stylesheet : Text.Inert r.stylesheet.text
  missing : ∀ m ∈ r.missing, Text.Inert m.usage.name ∧ Text.Inert m.hoverMessage

namespace Engine

section
variable {store : Store} (cwd : Inert store.cwd.text)
include cwd

theorem inert_stylesheetOf? {text object : Text} {base sheet : Path} (text_inert : Inert text)
    (base_inert : Inert base.text) (imports : (stylesheetOf? store text object base).value = some sheet) :
    Inert sheet.text := by
  rw [stylesheetOf?_value] at imports
  obtain ⟨path, found, rfl⟩ := Option.map_eq_some_iff.1 imports
  exact Path.inert_resolve cwd base_inert (text_inert.of_subset (Import.infix_of_specifierOf? found).subset)

variable {d : Document} (path : Inert d.path.text) (text : Inert d.text)
include path text

theorem inert_definitionIn {policy : Naming.Policy} {line column : Nat} {c : Cursor} {target : Target}
    (place : d.cursor line column = .ok c)
    (leads : (definitionIn policy store d.text c.line c.offset d.baseDir).value = some target) :
    Inert target.path.text := by
  rw [definitionIn_value] at leads
  obtain imported | ⟨-, referred⟩ := Option.or_eq_some_iff.1 leads
  · obtain ⟨i, here, rfl⟩ := Option.map_eq_some_iff.1 imported
    have named := (Import.infix_of_onLine? (Option.filter_eq_some_iff.1 here).1).subset
    have within := text.of_subset (Document.infix_of_line? (Document.cursor_eq_ok_iff.1 place).1).subset
    exact Path.inert_resolve cwd (Document.inert_baseDir path) (within.of_subset named)
  · obtain ⟨r, -, found⟩ := Option.bind_eq_some_iff.1 referred
    obtain ⟨sheet, imports, located⟩ := Option.bind_eq_some_iff.1 found
    obtain ⟨position, -, rfl⟩ := Option.map_eq_some_iff.1 located
    exact inert_stylesheetOf? cwd text (Document.inert_baseDir path) imports

theorem inert_missingFor {object : Text} {r : Report} (asked : Inert object)
    (reported : (missingFor store d object).value = some r) : r.Inert := by
  obtain ⟨imports, rfl, listed⟩ := missingFor_eq_some_iff.1 reported
  refine ⟨asked, inert_stylesheetOf? cwd text (Document.inert_baseDir path) imports, fun m found => ?_⟩
  rw [listed] at found
  exact MissingClass.inert found

theorem inert_missingAll {r : Report} (reported : r ∈ (missingAll store d).value) : r.Inert := by
  rw [missingAll_value] at reported
  obtain ⟨object, bound, made⟩ := List.mem_filterMap.1 reported
  obtain ⟨i, listed, rfl⟩ := List.mem_map.1 (List.mem_eraseDups.1 bound)
  exact inert_missingFor cwd path text (Import.inert_of_isIdentifier (List.mem_filter.1 listed).2) made

end

theorem isNameChar_of_mem_classes {store : Store} {p : Path} {part name : Text}
    (listed : name ∈ (classes store p part).value) : ∀ c ∈ name, Stylesheet.isNameChar c = true := by
  rw [classes_value] at listed
  split at listed
  next content _ =>
    obtain ⟨line, -, -, chars, -⟩ := Stylesheet.mem_classNames_iff.1 (List.mem_filter.1 listed).1
    exact chars
  next => cases listed

theorem inert_completionsIn {policy : Naming.Policy} {store : Store} {text line : Text} {offset : Nat}
    {base : Path} : ∀ name ∈ (completionsIn policy store text line offset base).value, Inert name := by
  intro name listed
  rw [completionsIn_value] at listed
  generalize (Cursor.atOffset? line offset).bind Cursor.reference? = referred at listed
  cases referred with
  | none => cases listed
  | some r =>
    rw [Option.bind_some] at listed
    cases imports : (stylesheetOf? store text r.object base).value with
    | none =>
      rw [imports] at listed
      cases listed
    | some sheet =>
      rw [imports] at listed
      obtain ⟨declared, member, rfl⟩ := List.mem_map.1 (List.mem_eraseDups.1 listed)
      exact Naming.Policy.inert_transform _ (isNameChar_of_mem_classes member)

end Engine

end ClassNav
