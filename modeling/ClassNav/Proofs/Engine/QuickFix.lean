import ClassNav.Proofs.Document.CursorAtUsage
import ClassNav.Proofs.Engine.Answers
import ClassNav.Proofs.Stylesheet.Agreement

/-!
The report of missing classes and the rule that is created for one of them. Both are asked of the same
place in the document; the report goes by the declared names, the creation by positions.
-/

namespace ClassNav

namespace MissingClass

theorem usage_mem_all_iff {object text : Text} {declared : List Text} {u : Usage} :
    u ∈ (all object text declared).map usage ↔ u ∈ Usage.all object text ∧ u.name ∉ declared := by
  simp [all, ofUsage]

/-- One more declared name takes the usages of that name out, and no others. -/
theorem all_concat (object text : Text) (declared : List Text) (name : Text) :
    all object text (declared ++ [name]) =
      (all object text declared).filter fun m => m.usage.name ≠ name := by
  simp only [all, List.filter_map, List.filter_filter]
  congr 1
  apply List.filter_congr
  intro u _
  by_cases same : u.name = name <;> simp [ofUsage, same]

end MissingClass

theorem Usage.named_of_mem_all {object text : Text} {u : Usage} (found : u ∈ all object text) :
    u.name ≠ [] ∧ '.' ∉ u.name := by
  obtain ⟨nonempty, before, after, stands, -⟩ := mem_all_stands found
  exact ⟨nonempty, fun dotted => absurd (stands.chars _ dotted) (by decide)⟩

namespace Engine

/-- What a written rule for a class of a report brings about: the rule stands at the end of the
stylesheet, and asked for again, the report is without the class. -/
structure Repaired (d : Document) (report : Report) (content name : Text) (w : Written) : Prop where
  content : w.store.readText report.stylesheet = .ok (content ++ Stylesheet.emptyRule name)
  reported : (missingFor w.store d report.object).value =
    some { report with missing := report.missing.filter fun m => m.usage.name ≠ name }

section
variable {e : Engine} {store : Store} {d : Document} {object : Text} {report : Report} {u : Usage}
  {k : Nat}

/-- The classes that a readable stylesheet declares, as a report counts them. -/
theorem missing_of_readText (reported : (missingFor store d object).value = some report)
    {content : Text} (read : store.readText report.stylesheet = .ok content) :
    report.missing = MissingClass.all object d.text (Stylesheet.classNames content) := by
  obtain ⟨-, -, missed⟩ := missingFor_eq_some_iff.1 reported
  rw [missed, classes_value, read]
  exact congrArg _ (Stylesheet.classNamesWith_nil content)

/-- A usage that is not reported is declared in a stylesheet that could be read. -/
theorem declared_of_not_missing (reported : (missingFor store d object).value = some report)
    (found : u ∈ Usage.all object d.text) (known : u ∉ report.missing.map MissingClass.usage) :
    ∃ content, store.readText report.stylesheet = .ok content ∧
      u.name ∈ Stylesheet.classNames content := by
  obtain ⟨-, -, missed⟩ := missingFor_eq_some_iff.1 reported
  have declared : u.name ∈ (classes store report.stylesheet []).value := by
    rw [missed, MissingClass.usage_mem_all_iff] at known
    simpa [found] using known
  rw [classes_value] at declared
  cases read : store.readText report.stylesheet with
  | error _ => simp [read, Except.toOption] at declared
  | ok content =>
    refine ⟨content, rfl, ?_⟩
    rw [← Stylesheet.classNamesWith_nil]
    simpa [read, Except.toOption] using declared

/-- A rule for an undeclared class takes exactly its usages out of the report. -/
theorem repaired_of_append {content : Text} {w : Written}
    (reported : (missingFor store d object).value = some report)
    (read : store.readText report.stylesheet = .ok content) (found : u ∈ Usage.all object d.text)
    (undeclared : u.name ∉ Stylesheet.classNames content)
    (appended : store.append report.stylesheet (Stylesheet.emptyRule u.name) = .ok w.store) :
    Repaired d report content u.name w := by
  obtain ⟨nonempty, before, after, stands, -⟩ := Usage.mem_all_stands found
  have added : Stylesheet.classNames (content ++ Stylesheet.emptyRule u.name) =
      Stylesheet.classNames content ++ [u.name] := by
    rw [Stylesheet.classNames_append_emptyRule content nonempty
      fun c inName => Character.isNameChar_of_isAlphanum (stands.chars c inName), if_neg undeclared]
  obtain ⟨later, again, cwd, written⟩ :=
    Store.append_of_readText read (Stylesheet.emptyRule u.name)
  obtain rfl : later = w.store := by simpa [appended] using again.symm
  obtain ⟨imports, rfl, -⟩ := missingFor_eq_some_iff.1 reported
  refine ⟨written, missingFor_eq_some_iff.2 ⟨?_, rfl, ?_⟩⟩
  · rw [stylesheetOf?_value, cwd, ← stylesheetOf?_value]
    exact imports
  · rw [classes_value, written]
    simp only [Except.toOption]
    rw [Stylesheet.classNamesWith_nil, added, MissingClass.all_concat,
      missing_of_readText reported read]

section
variable (word : ∀ c ∈ object, Naming.isJoinable c = true)
  (found : u ∈ Usage.all object d.text) (apart : u.Apart d.text)
  (first : u.start.character ≤ k) (last : k ≤ u.stop.character)
include word found apart first last

/-- Asked for at a usage, a rule is asked for the class of that usage. -/
theorem createMissing_at_usage :
    e.createMissing store d u.start.line k = createFor e.policy store d ⟨object, u.name⟩ := by
  obtain ⟨c, here, reads⟩ := Usage.reference?_of_mem_all word found apart first last
  exact createMissing_of_reference e store here reads

variable (reported : (missingFor store d object).value = some report)
include reported

/-- Nothing is written exactly if the reported stylesheet has a position for the class. -/
theorem createMissing_eq_none_iff :
    (e.createMissing store d u.start.line k).value = .ok none ↔
      (position? store report.stylesheet u.name e.policy).value.isSome := by
  obtain ⟨imports, -, -⟩ := missingFor_eq_some_iff.1 reported
  obtain ⟨nonempty, undotted⟩ := Usage.named_of_mem_all found
  rw [createMissing_at_usage word found apart first last]
  exact createFor_eq_none_iff nonempty undotted imports

theorem createMissing_eq_some_iff {w : Written} :
    (e.createMissing store d u.start.line k).value = .ok (some w) ↔
      (position? store report.stylesheet u.name e.policy).value = none ∧
      w.stylesheet = report.stylesheet ∧
      store.append report.stylesheet (Stylesheet.emptyRule u.name) = .ok w.store := by
  obtain ⟨imports, -, -⟩ := missingFor_eq_some_iff.1 reported
  obtain ⟨nonempty, undotted⟩ := Usage.named_of_mem_all found
  rw [createMissing_at_usage word found apart first last]
  exact createFor_eq_some_iff nonempty undotted imports

end

/-- **The places of a report lead to what it says.** A cursor anywhere in a usage has the reference to
its class. If the class is not reported, nothing is written there and, outside of imports, it has a
definition in the reported stylesheet. What is written is a rule for a reported class, and afterwards
the report lacks that class alone. -/
theorem answers_at_usage (e : Engine) (word : ∀ c ∈ object, Naming.isJoinable c = true)
    (reported : (missingFor store d object).value = some report)
    (found : u ∈ Usage.all object d.text) (apart : u.Apart d.text)
    (first : u.start.character ≤ k) (last : k ≤ u.stop.character) :
    ∃ c, d.cursor u.start.line k = .ok c ∧ c.reference? = some ⟨object, u.name⟩ ∧
      (u ∉ report.missing.map MissingClass.usage →
        (e.createMissing store d u.start.line k).value = .ok none ∧
        (Import.onLine? c.line = none → ∃ answer target,
          e.definition store d u.start.line k = .ok answer ∧ answer.value = some target ∧
          target.path = report.stylesheet)) ∧
      ∀ w, (e.createMissing store d u.start.line k).value = .ok (some w) →
        u ∈ report.missing.map MissingClass.usage ∧ w.stylesheet = report.stylesheet ∧
        ∀ content, store.readText report.stylesheet = .ok content →
          Repaired d report content u.name w := by
  obtain ⟨c, here, reads⟩ := Usage.reference?_of_mem_all word found apart first last
  obtain ⟨imports, -, -⟩ := missingFor_eq_some_iff.1 reported
  have placed (known : u ∉ report.missing.map MissingClass.usage) :
      ∃ position, (position? store report.stylesheet u.name e.policy).value = some position := by
    obtain ⟨content, read, declared⟩ := declared_of_not_missing reported found known
    rw [position?_value, read]
    exact Option.isSome_iff_exists.1 (Stylesheet.locate?_of_mem_classNames declared e.policy)
  refine ⟨c, here, reads, fun known => ⟨?_, fun elsewhere => ?_⟩, fun w created => ?_⟩
  · apply (createMissing_eq_none_iff word found apart first last reported).2
    exact Option.isSome_iff_exists.2 (placed known)
  · obtain ⟨position, located⟩ := placed known
    obtain ⟨answer, defined, value⟩ := definition_of_reference e store here reads
    refine ⟨answer, ⟨report.stylesheet, position⟩, defined, ?_, rfl⟩
    rw [value, elsewhere, imports, Option.bind_some, located]
    rfl
  · obtain ⟨unplaced, sheet, appended⟩ :=
      (createMissing_eq_some_iff word found apart first last reported).1 created
    have unknown : u ∈ report.missing.map MissingClass.usage := by
      by_contra known
      obtain ⟨position, located⟩ := placed known
      rw [unplaced] at located
      cases located
    refine ⟨unknown, sheet, fun content read => ?_⟩
    rw [missing_of_readText reported read, MissingClass.usage_mem_all_iff] at unknown
    exact repaired_of_append reported read found unknown.2 appended

end

/-- Of two classes on a page the declared one is left alone and the other one is written. -/
theorem answers_at_declared_and_missing :
    ((Engine.mk .default).createMissing (.ofSheet ".ab \x7b") (.importing "s.ab s.cd") 1 4).value =
      .ok none ∧
    ∃ w, ((Engine.mk .default).createMissing (.ofSheet ".ab \x7b") (.importing "s.ab s.cd") 1 7).value =
        .ok (some w) ∧
      w.store.readText ⟨"/a.css"⟩ = .ok (".ab \x7b".toList ++ Stylesheet.emptyRule "cd") := by
  have word : ∀ c ∈ ['s'], Naming.isJoinable c = true := by simp [Naming.isJoinable]
  have reported : (missingFor (.ofSheet ".ab \x7b") (.importing "s.ab s.cd") ['s']).value =
      some ⟨['s'], ⟨"/a.css"⟩, [.ofUsage ⟨"cd", 31, 33, ⟨1, 7⟩, ⟨1, 9⟩⟩]⟩ := by decide +kernel
  have read : (Store.ofSheet ".ab \x7b").readText ⟨"/a.css"⟩ = .ok ".ab \x7b" := by decide +kernel
  have created : ((Engine.mk .default).createMissing (.ofSheet ".ab \x7b") (.importing "s.ab s.cd")
      1 7).value = .ok (some ⟨⟨"/a.css"⟩, (Store.ofSheet ".ab \x7b").set ["a.css"]
        (.file (Text.encode ".ab \x7b" ++ Text.encode (Stylesheet.emptyRule "cd")))⟩) := by rfl
  obtain ⟨_, _, _, declared, _⟩ := answers_at_usage (u := ⟨"ab", 26, 28, ⟨1, 2⟩, ⟨1, 4⟩⟩) (k := 4)
    ⟨.default⟩ word reported (by decide +kernel) (by decide +kernel) (by decide) (by decide)
  obtain ⟨_, _, _, _, missing⟩ := answers_at_usage (u := ⟨"cd", 31, 33, ⟨1, 7⟩, ⟨1, 9⟩⟩) (k := 7)
    ⟨.default⟩ word reported (by decide +kernel) (by decide +kernel) (by decide) (by decide)
  obtain ⟨_, _, repaired⟩ := missing _ created
  exact ⟨(declared (by decide +kernel)).1, _, created, (repaired _ read).content⟩

/-- **The quick fix of a reported class works exactly where nothing shows the class.** If a line has the
key of the class somewhere, be it in a longer name, nothing is written. Otherwise the rule is appended
and the class is reported no more. -/
theorem createMissing_at_missing {store : Store} {d : Document} {object content : Text}
    {report : Report} {m : MissingClass} (e : Engine)
    (word : ∀ c ∈ object, Naming.isJoinable c = true)
    (reported : (missingFor store d object).value = some report)
    (read : store.readText report.stylesheet = .ok content) (missing : m ∈ report.missing)
    (apart : m.usage.Apart d.text) :
    ((∃ line ∈ Text.lines content,
        Stylesheet.Shows e.policy (Stylesheet.searchKey e.policy m.usage.name) line) →
      (e.createMissing store d m.usage.start.line m.usage.start.character).value = .ok none) ∧
    ((∀ line ∈ Text.lines content,
        ¬ Stylesheet.Shows e.policy (Stylesheet.searchKey e.policy m.usage.name) line) →
      ∃ w, (e.createMissing store d m.usage.start.line m.usage.start.character).value = .ok (some w) ∧
        w.stylesheet = report.stylesheet ∧ Repaired d report content m.usage.name w) := by
  have undeclared : m.usage ∈ Usage.all object d.text ∧
      m.usage.name ∉ Stylesheet.classNames content := by
    rw [← MissingClass.usage_mem_all_iff, ← missing_of_readText reported read]
    exact List.mem_map_of_mem missing
  have ends := Usage.start_le_stop_of_mem_all undeclared.1
  have position : (position? store report.stylesheet m.usage.name e.policy).value =
      Stylesheet.locate? content m.usage.name e.policy := by
    rw [position?_value, read]
    rfl
  constructor
  · intro shown
    apply (createMissing_eq_none_iff word undeclared.1 apart le_rfl ends reported).2
    rw [position]
    exact Stylesheet.locate?_isSome_iff.2 shown
  · intro unshown
    obtain ⟨after, appended, -, -⟩ :=
      Store.append_of_readText read (Stylesheet.emptyRule m.usage.name)
    refine ⟨⟨report.stylesheet, after⟩, ?_, rfl, ?_⟩
    · apply (createMissing_eq_some_iff word undeclared.1 apart le_rfl ends reported).2
      rw [position]
      exact ⟨Stylesheet.locate?_eq_none_iff.2 unshown, rfl, appended⟩
    · exact repaired_of_append reported read undeclared.1 undeclared.2 appended

/-- A class that stands in no line is written and then reported no more. -/
theorem createMissing_at_unshown : ∃ w,
    ((Engine.mk .default).createMissing (.ofSheet ".abc \x7b") (.importing "s.cd") 1 2).value =
      .ok (some w) ∧
    (missingFor w.store (.importing "s.cd") ['s']).value = some ⟨['s'], ⟨"/a.css"⟩, []⟩ := by
  have reported : (missingFor (.ofSheet ".abc \x7b") (.importing "s.cd") ['s']).value =
      some ⟨['s'], ⟨"/a.css"⟩, [.ofUsage ⟨"cd", 26, 28, ⟨1, 2⟩, ⟨1, 4⟩⟩]⟩ := by decide +kernel
  have read : (Store.ofSheet ".abc \x7b").readText ⟨"/a.css"⟩ = .ok ".abc \x7b" := by decide +kernel
  have fixed := createMissing_at_missing (m := .ofUsage ⟨"cd", 26, 28, ⟨1, 2⟩, ⟨1, 4⟩⟩) ⟨.default⟩
    (by simp [Naming.isJoinable]) reported read (List.mem_singleton_self _) (by decide +kernel)
  obtain ⟨w, created, -, repaired⟩ := fixed.2 (Stylesheet.locate?_eq_none_iff.1 (by decide +kernel))
  exact ⟨w, created, by simpa [MissingClass.ofUsage] using repaired.reported⟩

/-- Not every reported class is written: the beginning of a longer name is found in that name. -/
theorem createMissing_none_at_missing :
    ¬ ∀ (e : Engine) (store : Store) (d : Document) (object content : Text) (report : Report)
      (m : MissingClass), object ≠ [] → (∀ c ∈ object, Naming.isJoinable c = true) →
      (missingFor store d object).value = some report →
      store.readText report.stylesheet = .ok content → m ∈ report.missing →
      m.usage.Apart d.text →
      ∃ w, (e.createMissing store d m.usage.start.line m.usage.start.character).value =
        .ok (some w) := by
  intro always
  have reported : (missingFor (.ofSheet ".abc \x7b") (.importing "s.ab") ['s']).value =
      some ⟨['s'], ⟨"/a.css"⟩, [.ofUsage ⟨"ab", 26, 28, ⟨1, 2⟩, ⟨1, 4⟩⟩]⟩ := by decide +kernel
  obtain ⟨w, created⟩ := always ⟨.default⟩ _ _ _ ".abc \x7b" _ _ (by decide)
    (by simp [Naming.isJoinable]) reported (by decide +kernel) (List.mem_singleton_self _)
    (by decide +kernel)
  have kept : ((Engine.mk .default).createMissing (.ofSheet ".abc \x7b") (.importing "s.ab")
      1 2).value = .ok none := by rfl
  exact absurd (kept.symm.trans created) (by simp)

end Engine

end ClassNav
