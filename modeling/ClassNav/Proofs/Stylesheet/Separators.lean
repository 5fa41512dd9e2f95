import ClassNav.Proofs.Naming.Camel
import ClassNav.Proofs.Stylesheet.Located
import ClassNav.Proofs.Text.Lines
import Mathlib.Data.Bool.AllAny
import Mathlib.Data.List.Basic

/-!
Camel case looks at the words of a text alone. What stands between two words, before the first or behind
the last may be exchanged for any other separator, so the first name of a stylesheet is found at once
whatever surrounds it.
-/

namespace ClassNav

namespace Naming

open Character

/-- A boundary that shows. An apostrophe is a boundary too, but it leaves no trace at all. -/
def Separates (c : Char) : Prop := kind c = .boundary ∧ c ≠ '\'' ∧ c ≠ '’'

instance (c : Char) : Decidable (Separates c) := inferInstanceAs (Decidable (_ ∧ _))

structure Separator (s : Text) : Prop where
  some : s ≠ []
  each : ∀ c ∈ s, Separates c

theorem isCut_iff {c : Char} : isCut c = true ↔ Separates c := by
  simp only [isCut, isSilent, Separates, Bool.and_eq_true, decide_eq_true_eq, Bool.not_eq_true',
    Bool.or_eq_false_iff, beq_eq_false_iff_ne]
  constructor
  · rintro ⟨boundary, ⟨straight, curly⟩, -⟩
    exact ⟨boundary, straight, curly⟩
  · rintro ⟨boundary, straight, curly⟩
    refine ⟨boundary, ⟨straight, curly⟩, ?_⟩
    simpa using mark_of_boundary boundary

theorem wordless_of_separates {s : Text} (separates : ∀ c ∈ s, Separates c) : Wordless s :=
  fun c found => .inl (separates c found).1

theorem Separator.cut {s : Text} (separator : Separator s) (t : Text) :
    ∀ c ∈ (s ++ t).head?, isCut c = true := by
  obtain ⟨first, rest, rfl⟩ := List.exists_cons_of_ne_nil separator.some
  rintro c ⟨⟩
  exact isCut_iff.2 (separator.each first (List.mem_cons_self ..))

/-- Between two texts a separator stands for a place where words end, whatever it is made of. -/
theorem words_simplify_separated (a b : Text) {s : Text} (separator : Separator s) :
    words (simplify (a ++ s ++ b)) = words (simplify a) ++ words (simplify b) := by
  rw [List.append_assoc, words_simplify_append a (separator.cut b),
    words_simplify_wordless_append (wordless_of_separates separator.each)]

theorem camelCase_separates_append {s : Text} (separates : ∀ c ∈ s, Separates c) (t : Text) :
    camelCase (s ++ t) = camelCase t := by
  rw [camelCase, words_simplify_wordless_append (wordless_of_separates separates), camelCase]

theorem camelCase_append_separator (t : Text) {s : Text} (separator : Separator s) :
    camelCase (t ++ s) = camelCase t := by
  have behind := words_simplify_separated t [] separator
  have none : words (simplify []) = [] := by simp [simplify, words]
  rw [List.append_nil, none, List.append_nil] at behind
  rw [camelCase, behind, camelCase]

end Naming

namespace Stylesheet

open Naming

theorem find?_of_prefix {key t : Text} (begins : key <+: t) : Text.find? key t = some 0 :=
  Text.find?_eq_some_iff.2 ⟨Text.occursAt_zero_iff.2 begins, by simp⟩

/-- A key that begins the searched form of the first line is found there, before anything else. -/
theorem locate?_of_begins {content name line : Text} {policy : Policy}
    (first : (Text.lines content).head? = some line)
    (begins : searchKey policy name <+: policy.transform line) :
    locate? content name policy = some ⟨0, 1⟩ := by
  have hit : lineHit? policy (searchKey policy name) line = some 0 := by
    rw [lineHit?, find?_of_prefix begins, Option.some_or]
  rw [List.head?_eq_getElem?] at first
  exact locate?_eq_some_iff.2 ⟨line, 0, first, hit, rfl, by simp⟩

/-- **Camel case depends on the words of a text, not on what separates them.** So in a stylesheet whose
first line has nothing but separators before a name and a separator behind it, the name is found at the
very beginning, whatever else the line and the stylesheet hold. -/
theorem camelCase_of_separated (a b : Text) {s s' : Text} (separator : Separator s)
    (separator' : Separator s') :
    camelCase (s ++ a) = camelCase a ∧ camelCase (a ++ s) = camelCase a ∧
    camelCase (a ++ s ++ b) = camelCase (a ++ s' ++ b) ∧
    camelCase a <+: camelCase (a ++ s ++ b) ∧
    ∀ content before name behind rest : Text, (∀ c ∈ before, Separates c) → Separator behind →
      (Text.lines content).head? = some (before ++ name ++ behind ++ rest) →
      locate? content (camelCase name) .full = some ⟨0, 1⟩ := by
  have begins (a b : Text) {s : Text} (separator : Separator s) :
      camelCase a <+: camelCase (a ++ s ++ b) := by
    rw [List.append_assoc]
    exact camelCase_prefix a (separator.cut b)
  refine ⟨camelCase_separates_append separator.each a, camelCase_append_separator a separator, ?_,
    begins a b separator, ?_⟩
  · rw [camelCase, camelCase, words_simplify_separated a b separator,
      words_simplify_separated a b separator']
  · intro content before name behind rest separates separator first
    have line : camelCase (before ++ name ++ behind ++ rest) = camelCase (name ++ behind ++ rest) := by
      have same := camelCase_separates_append separates (name ++ behind ++ rest)
      simpa only [List.append_assoc] using same
    apply locate?_of_begins first
    show camelCase name <+: camelCase (before ++ name ++ behind ++ rest)
    rw [line]
    exact begins name rest separator

/-- A dash or a blank between two words, and then a selector with a rule behind it. -/
theorem camelCase_of_dash_and_blank :
    Separator "-" ∧ Separator " " ∧ camelCase "nav-1stItem" = camelCase "nav 1stItem" ∧
    (Text.lines ".nav-1stItem \x7b\n.a \x7b\x7d").head? = some ".nav-1stItem \x7b".toList ∧
    locate? ".nav-1stItem \x7b\n.a \x7b\x7d" (camelCase "nav-1stItem") .full = some ⟨0, 1⟩ := by
  have dash : Separator "-" := ⟨by decide, List.all_iff_forall_prop.1 (by decide)⟩
  have blank : Separator " " := ⟨by decide, List.all_iff_forall_prop.1 (by decide)⟩
  have dot : ∀ c ∈ ("." : Text), Separates c := List.all_iff_forall_prop.1 (by decide)
  have brace : Separator " \x7b" := ⟨by decide, List.all_iff_forall_prop.1 (by decide)⟩
  have first : (Text.lines ".nav-1stItem \x7b\n.a \x7b\x7d").head? =
      some ".nav-1stItem \x7b".toList := by cbv
  obtain ⟨-, -, same, -, found⟩ := camelCase_of_separated "nav" "1stItem" dash blank
  exact ⟨dash, blank, same, first, found _ "." "nav-1stItem" " \x7b" [] dot brace first⟩

end Stylesheet

end ClassNav
