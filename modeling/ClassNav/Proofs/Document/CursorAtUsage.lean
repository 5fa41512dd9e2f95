import ClassNav.Document.Basic
import ClassNav.Proofs.Character.Ascii
import ClassNav.Proofs.Document.Usages
import ClassNav.Proofs.Text.Occurrence
import Mathlib.Data.List.Basic

/-!
A cursor on a reported usage. The report counts lines and characters over the whole text, the cursor
looks at its line alone; both lead to the same reference.
-/

namespace ClassNav

namespace Text

/-- A carriage return is dropped from the end only. -/
theorem dropCarriageReturn_append {a b : Text} (last : b = [] → a.getLast? ≠ some '\r') :
    dropCarriageReturn (a ++ b) = a ++ dropCarriageReturn b := by
  obtain rfl | ⟨init, c, rfl⟩ := List.eq_nil_or_concat' b
  · simp [dropCarriageReturn, last rfl]
  · simp only [dropCarriageReturn, ← List.append_assoc, List.getLast?_concat, List.dropLast_concat]
    split <;> simp

theorem dropCarriageReturn_prefix (line : Text) : dropCarriageReturn line <+: line := by
  unfold dropCarriageReturn
  split
  · exact List.dropLast_prefix line
  · exact List.prefix_rfl

end Text

theorem Document.cursor_of_line? {d : Document} {n : Nat} {left right : Text}
    (here : d.line? n = some (left ++ right)) : d.cursor n left.length = .ok ⟨left, right⟩ := by
  simp [Document.cursor, here]

namespace Cursor

/-- A cursor in the field of a reference reads the whole reference, if nothing around it continues
the token. -/
theorem reference?_of_surrounded {object field₁ field₂ left right : Text}
    (word : ∀ c ∈ object, Naming.isJoinable c = true)
    (chars₁ : ∀ c ∈ field₁, Naming.isJoinable c = true)
    (chars₂ : ∀ c ∈ field₂, Naming.isJoinable c = true)
    (opens : ∀ c ∈ left.head?, Reference.isTokenChar c = false)
    (closes : ∀ c ∈ right.head?, Reference.isTokenChar c = false) :
    (Cursor.mk (left.reverse ++ (object ++ '.' :: field₁)) (field₂ ++ right)).reference? =
      some ⟨object, field₁ ++ field₂⟩ := by
  have joins {t : Text} (chars : ∀ c ∈ t, Naming.isJoinable c = true) :
      ∀ c ∈ t, Reference.isTokenChar c = true :=
    fun c found => Character.isTokenChar_iff.2 (.inl (chars c found))
  have stops {t : Text} (ends : ∀ c ∈ t.head?, Reference.isTokenChar c = false) :
      t.takeWhile Reference.isTokenChar = [] := by
    cases t with
    | nil => rfl
    | cons c r => simp [ends c rfl]
  have before : (Cursor.mk (left.reverse ++ (object ++ '.' :: field₁)) (field₂ ++ right)).tokenBefore =
      object ++ '.' :: field₁ := by
    have back : (left.reverse ++ (object ++ '.' :: field₁)).reverse =
        (object ++ '.' :: field₁).reverse ++ left := by simp
    have inside : ∀ c ∈ (object ++ '.' :: field₁).reverse, Reference.isTokenChar c = true := by
      intro c found
      simp only [List.mem_reverse, List.mem_append, List.mem_cons] at found
      obtain found | rfl | found := found
      · exact joins word c found
      · rfl
      · exact joins chars₁ c found
    rw [tokenBefore, back, List.takeWhile_append_of_pos inside, stops opens, List.append_nil,
      List.reverse_reverse]
  have after : (field₂ ++ right).takeWhile Reference.isTokenChar = field₂ := by
    rw [List.takeWhile_append_of_pos (joins chars₂), stops closes, List.append_nil]
  have undotted : ∀ c ∈ object, decide (c ≠ '.') = true := by
    rintro c found
    have joinable := word c found
    simp only [decide_eq_true_eq]
    rintro rfl
    cases joinable
  have token : (Cursor.mk (left.reverse ++ (object ++ '.' :: field₁)) (field₂ ++ right)).token? =
      some (object ++ '.' :: (field₁ ++ field₂)) := by
    simp [token?, before, after]
  rw [reference?, token, Option.bind_some, Reference.ofToken?,
    List.dropWhile_append_of_pos undotted, List.takeWhile_append_of_pos undotted]
  simp

end Cursor

namespace Usage

/-- The character right behind a usage. -/
def next? (u : Usage) (text : Text) : Option Char :=
  (Text.splitAt? text u.last).bind fun (_, after) => after.head?

theorem next?_of_stands {object text before name after : Text}
    (stands : Stands object text before name after) :
    (ofName (upToName object before) name).next? text = after.head? := by
  have split : text = ((upToName object before).reverse ++ name) ++ after := by
    simp [stands.whole, upToName]
  have offset : (ofName (upToName object before) name).last =
      Text.byteLength ((upToName object before).reverse ++ name) := by
    simp [ofName]
  rw [next?, offset, split, Text.splitAt?_append]
  rfl

theorem not_newline {c : Char} (joins : Naming.isJoinable c = true) : c ≠ '\n' := by
  rintro rfl
  cases joins

/-- What the line of a reference holds before the name, backwards. -/
theorem takeWhile_upToName {object : Text} (before : Text)
    (word : ∀ c ∈ object, Naming.isJoinable c = true) :
    (upToName object before).takeWhile (· ≠ '\n') =
      '.' :: object.reverse ++ before.takeWhile (· ≠ '\n') := by
  have inline : ∀ c ∈ '.' :: object.reverse, decide (c ≠ '\n') = true := by
    intro c found
    simp only [List.mem_cons, List.mem_reverse] at found
    obtain rfl | found := found
    · decide
    · simpa using not_newline (word c found)
  rw [upToName, List.takeWhile_append_of_pos inline]

/-- The name lies on one line. -/
theorem stop_of_stands {object text before name after : Text}
    (stands : Stands object text before name after) :
    (ofName (upToName object before) name).stop.character =
      (ofName (upToName object before) name).start.character + name.length := by
  have inline : ∀ c ∈ name.reverse, decide (c ≠ '\n') = true := by
    intro c found
    simpa using stands.name_not_newline c (by simpa using found)
  simp only [ofName, LineCol.after]
  rw [List.takeWhile_append_of_pos inline, List.length_append, List.length_reverse, Nat.add_comm]

theorem start_le_stop_of_mem_all {object text : Text} {u : Usage} (found : u ∈ all object text) :
    u.start.character ≤ u.stop.character := by
  obtain ⟨-, before, after, stands, place⟩ := mem_all_stands found
  rw [place, stop_of_stands stands]
  omega

section
variable {object before name after : Text} {d : Document}
  (stands : Stands object d.text before name after)
  (word : ∀ c ∈ object, Naming.isJoinable c = true)
include stands word

theorem line?_of_stands (nonempty : name ≠ []) :
    d.line? (ofName (upToName object before) name).start.line =
      some (((before.takeWhile (· ≠ '\n')).reverse ++ (object ++ '.' :: name)) ++
        Text.dropCarriageReturn (after.takeWhile (· ≠ '\n'))) := by
  have inline : ∀ c ∈ name, decide (c ≠ '\n') = true := by
    intro c found
    simpa using stands.name_not_newline c found
  have last : ((before.takeWhile (· ≠ '\n')).reverse ++ (object ++ '.' :: name)).getLast? ≠
      some '\r' := by
    intro returns
    obtain ⟨init, c, rfl⟩ := (List.eq_nil_or_concat' name).resolve_left nonempty
    have same : c = '\r' := by simpa [List.getLast?_cons] using returns
    have char := stands.chars c (by simp)
    rw [same] at char
    exact absurd char (by decide)
  have split : d.text = (upToName object before).reverse ++ (name ++ after) := by
    simp [stands.whole, upToName]
  have here := Text.getElem?_lines_after (upToName object before) (name ++ after)
  rw [takeWhile_upToName before word, List.takeWhile_append_of_pos inline, ← split] at here
  rw [Document.line?, ofName, LineCol.after, here, Option.map_some,
    ← Text.dropCarriageReturn_append fun _ => last]
  simp

/-- Every column of a usage, its end included, is a cursor in its name. -/
theorem cursor_of_stands (nonempty : name ≠ []) {k : Nat}
    (first : (ofName (upToName object before) name).start.character ≤ k)
    (last : k ≤ (ofName (upToName object before) name).stop.character) :
    ∃ name₁ name₂ right, name = name₁ ++ name₂ ∧ (∀ c ∈ right.head?, c ∈ after.head?) ∧
      d.cursor (ofName (upToName object before) name).start.line k =
        .ok ⟨(before.takeWhile (· ≠ '\n')).reverse ++ (object ++ '.' :: name₁), name₂ ++ right⟩ := by
  rw [stop_of_stands stands] at last
  have start : (ofName (upToName object before) name).start.character =
      ((before.takeWhile (· ≠ '\n')).reverse ++ (object ++ ['.'])).length := by
    rw [ofName, LineCol.after, takeWhile_upToName before word]
    simp
    omega
  obtain ⟨j, rfl⟩ := Nat.exists_eq_add_of_le first
  refine ⟨name.take j, name.drop j, Text.dropCarriageReturn (after.takeWhile (· ≠ '\n')),
    (List.take_append_drop j name).symm, ?_, ?_⟩
  · intro c found
    obtain ⟨rest, whole⟩ := (Text.dropCarriageReturn_prefix _).trans
      (List.takeWhile_prefix (l := after) (· ≠ '\n'))
    rw [← whole, List.head?_append]
    simp_all
  · have column : (ofName (upToName object before) name).start.character + j =
        ((before.takeWhile (· ≠ '\n')).reverse ++ (object ++ '.' :: name.take j)).length := by
      simp [start, List.length_take]
      omega
    rw [column]
    apply Document.cursor_of_line?
    have name_split : '.' :: name = '.' :: name.take j ++ name.drop j := by simp
    rw [line?_of_stands stands word nonempty, name_split]
    simp only [List.append_assoc]

end

/-- No token goes on behind a usage that neither an underscore nor a dot follows. -/
def Apart (u : Usage) (text : Text) : Prop :=
  u.next? text ≠ some '_' ∧ u.next? text ≠ some '.'

instance (u : Usage) (text : Text) : Decidable (u.Apart text) := instDecidableAnd

theorem isTokenChar_behind {object text before name after : Text}
    (stands : Stands object text before name after)
    (apart : (ofName (upToName object before) name).Apart text) :
    ∀ c ∈ after.head?, Reference.isTokenChar c = false := by
  intro c found
  have next : after.head? = some c := found
  obtain ⟨underscore, dot⟩ := apart
  rw [next?_of_stands stands, next] at underscore dot
  have closed : c.isAlphanum = false := stands.closes c found
  rw [← Bool.not_eq_true, Character.isTokenChar_iff, Naming.isJoinable]
  simp_all

/-- **The report and the cursor agree.** A cursor anywhere in a reported name, its end included, has the
reference to the class of that name. -/
theorem reference?_of_mem_all {d : Document} {object : Text} {u : Usage} {k : Nat}
    (word : ∀ c ∈ object, Naming.isJoinable c = true) (found : u ∈ all object d.text)
    (apart : u.Apart d.text) (first : u.start.character ≤ k) (last : k ≤ u.stop.character) :
    ∃ c, d.cursor u.start.line k = .ok c ∧ c.reference? = some ⟨object, u.name⟩ := by
  obtain ⟨nonempty, before, after, stands, place⟩ := mem_all_stands found
  generalize u.name = name at *
  subst place
  obtain ⟨name₁, name₂, right, split, follows, here⟩ :=
    cursor_of_stands stands word nonempty first last
  have joins : ∀ c ∈ name, Naming.isJoinable c = true := by
    intro c inName
    have alnum : c.isAlphanum = true := stands.chars c inName
    simp [Naming.isJoinable, alnum]
  refine ⟨_, here, ?_⟩
  rw [split] at joins ⊢
  apply Cursor.reference?_of_surrounded word
  · exact fun c inName => joins c (by simp [inName])
  · exact fun c inName => joins c (by simp [inName])
  · intro c inLine
    have near : before.head? = some c := by
      cases before with
      | nil => cases inLine
      | cons b rest =>
        rw [List.takeWhile_cons] at inLine
        split at inLine
        next => exact inLine
        next => cases inLine
    exact Character.isTokenChar_of_isSeparator (stands.opens c near)
  · exact fun c behind => isTokenChar_behind stands apart c (follows c behind)

end Usage

end ClassNav
