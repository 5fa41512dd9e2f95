import ClassNav.Proofs.Distinct
import ClassNav.Proofs.Text.Lines
import ClassNav.Proofs.Text.Occurrence
import ClassNav.Proofs.Text.Runs
import ClassNav.Stylesheet.Block
import ClassNav.Stylesheet.ClassNames
import Mathlib.Data.List.Basic

/-!
What it takes for a stylesheet to declare a class, said of its lines, and what an appended empty rule
adds to the declared names.
-/

namespace ClassNav.Stylesheet

/-- A line declares a name that stands whole after a dot, with a comma or an opening brace somewhere
behind it. -/
def Declares (line name : Text) : Prop :=
  name ≠ [] ∧ (∀ c ∈ name, isNameChar c = true) ∧
  ∃ before after, line = before ++ '.' :: name ++ after ∧
    (∀ c ∈ after.head?, isNameChar c = false) ∧ ∃ c ∈ after, isSelectorEnd c = true

/-- The line declares the name behind a dot at `offset`. -/
def DeclaresAt (line name : Text) (offset : Nat) : Prop :=
  name ≠ [] ∧ (∀ c ∈ name, isNameChar c = true) ∧
  ∃ before after, line = before ++ '.' :: name ++ after ∧ before.length = offset ∧
    (∀ c ∈ after.head?, isNameChar c = false) ∧ ∃ c ∈ after, isSelectorEnd c = true

theorem declares_iff_exists_declaresAt {line name : Text} :
    Declares line name ↔ ∃ offset, DeclaresAt line name offset := by
  constructor
  · rintro ⟨nonempty, chars, before, after, whole, closed, ends⟩
    exact ⟨_, nonempty, chars, before, after, whole, rfl, closed, ends⟩
  · rintro ⟨offset, nonempty, chars, before, after, whole, -, closed, ends⟩
    exact ⟨nonempty, chars, before, after, whole, closed, ends⟩

theorem isNameChar_of_isSelectorEnd {c : Char} (h : isSelectorEnd c = true) :
    isNameChar c = false := by
  simp only [isSelectorEnd, Bool.or_eq_true, beq_iff_eq] at h
  obtain rfl | rfl := h <;> decide

/-- The dotted names of a text that begins at `offset`, and the places of their dots. -/
def dottedPlaces (offset : Nat) : Text → List (Nat × Text)
  | [] => []
  | c :: r =>
    let name := r.takeWhile isNameChar
    if c = '.' ∧ name ≠ [] then (offset, name) :: dottedPlaces (offset + 1) r
    else dottedPlaces (offset + 1) r

theorem map_dottedPlaces (offset : Nat) (t : Text) :
    (dottedPlaces offset t).map (·.2) = dottedNames t := by
  induction t generalizing offset with
  | nil => rfl
  | cons c r ih =>
    rw [dottedPlaces, dottedNames]
    split
    next => rw [List.map_cons, ih]
    next => exact ih _

theorem mem_dottedPlaces_iff {offset place : Nat} {t name : Text} :
    (place, name) ∈ dottedPlaces offset t ↔ name ≠ [] ∧ (∀ c ∈ name, isNameChar c = true) ∧
      ∃ before after, t = before ++ '.' :: name ++ after ∧ offset + before.length = place ∧
        ∀ c ∈ after.head?, isNameChar c = false := by
  induction t generalizing offset with
  | nil => simp [dottedPlaces]
  | cons c r ih =>
    have step : (place, name) ∈ dottedPlaces offset (c :: r) ↔
        (c = '.' ∧ name ≠ [] ∧ place = offset ∧ name = r.takeWhile isNameChar) ∨
          (place, name) ∈ dottedPlaces (offset + 1) r := by
      simp only [dottedPlaces]
      split <;> grind
    rw [step, ih]
    constructor
    · rintro (⟨rfl, nonempty, rfl, rfl⟩ | ⟨nonempty, chars, before, after, rfl, counted, closed⟩)
      · refine ⟨nonempty, fun c h => List.mem_takeWhile_imp h, [], r.dropWhile isNameChar, ?_, rfl,
          Text.stops_dropWhile isNameChar r⟩
        simp
      · refine ⟨nonempty, chars, c :: before, after, rfl, ?_, closed⟩
        rw [List.length_cons]
        omega
    · rintro ⟨nonempty, chars, before, after, whole, counted, closed⟩
      cases before with
      | nil =>
        obtain ⟨rfl, rfl⟩ := List.cons.inj (by simpa using whole)
        exact .inl ⟨rfl, nonempty, counted.symm, (Text.takeWhile_append_stop chars closed).symm⟩
      | cons d before =>
        obtain ⟨-, rest⟩ := List.cons.inj (by simpa using whole)
        refine .inr ⟨nonempty, chars, before, after, by simpa using rest, ?_, closed⟩
        rw [List.length_cons] at counted
        omega

/-- Dots come in the order of their places. -/
theorem pairwise_dottedPlaces (offset : Nat) (t : Text) :
    (dottedPlaces offset t).Pairwise fun one next => one.1 < next.1 := by
  induction t generalizing offset with
  | nil => exact .nil
  | cons c r ih =>
    rw [dottedPlaces]
    split
    next =>
      refine .cons (fun (place, name) later => ?_) (ih _)
      obtain ⟨-, -, before, -, -, counted, -⟩ := mem_dottedPlaces_iff.1 later
      dsimp only
      omega
    next => exact ih _

/-- What stands before a comma or a brace is kept whole. -/
theorem selectorPart_append {before after : Text} (ends : ∃ c ∈ after, isSelectorEnd c = true) :
    selectorPart (before ++ after) = before ++ selectorPart after := by
  obtain ⟨c, found, hc⟩ := ends
  have stops : (after.reverse.dropWhile fun c => !isSelectorEnd c) ≠ [] := by
    intro empty
    have plain := List.dropWhile_eq_nil_iff.1 empty c (by simpa using found)
    simp [hc] at plain
  simp only [selectorPart, List.reverse_append, List.dropWhile_append]
  simp [stops]

/-- Text without comma and brace at the end of a line does not count. -/
theorem selectorPart_append_plain (line : Text) {more : Text}
    (plain : ∀ c ∈ more, isSelectorEnd c = false) :
    selectorPart (line ++ more) = selectorPart line := by
  have all : ∀ c ∈ more.reverse, (!isSelectorEnd c) = true := by simpa using plain
  simp only [selectorPart, List.reverse_append]
  rw [List.dropWhile_append_of_pos all]

/-- What does not count of a line is its end, without comma and brace. -/
theorem exists_plain_behind (line : Text) :
    ∃ more, line = selectorPart line ++ more ∧ ∀ c ∈ more, isSelectorEnd c = false := by
  refine ⟨(line.reverse.takeWhile fun c => !isSelectorEnd c).reverse, ?_, ?_⟩
  · rw [selectorPart, ← List.reverse_append, List.takeWhile_append_dropWhile, List.reverse_reverse]
  · intro c found
    simpa using List.mem_takeWhile_imp (List.mem_reverse.1 found)

theorem selectorPart_prefix (line : Text) : selectorPart line <+: line := by
  obtain ⟨more, split, -⟩ := exists_plain_behind line
  exact ⟨more, split.symm⟩

/-- The part that counts can end in nothing but a comma or a brace. -/
theorem isSelectorEnd_of_selectorPart {line part : Text} {c : Char}
    (h : selectorPart line = part ++ [c]) : isSelectorEnd c = true := by
  have stopped := Text.stops_dropWhile (fun c => !isSelectorEnd c) line.reverse c
  have kept : line.reverse.dropWhile (fun c => !isSelectorEnd c) = c :: part.reverse := by
    simpa [selectorPart] using congrArg List.reverse h
  simpa [kept] using stopped

theorem head?_selectorPart {t : Text} (ends : ∃ c ∈ t, isSelectorEnd c = true) :
    (selectorPart t).head? = t.head? := by
  obtain ⟨tail, whole⟩ := selectorPart_prefix t
  have kept : selectorPart t ≠ [] := by
    intro empty
    obtain ⟨c, found, hc⟩ := ends
    have plain := List.dropWhile_eq_nil_iff.1 (List.reverse_eq_nil_iff.1 empty) c (by simpa using found)
    simp [hc] at plain
  obtain ⟨d, part, first⟩ := List.exists_cons_of_ne_nil kept
  rw [first] at whole ⊢
  simp [← whole]

/-- A name holds no comma and no brace, so the one that ends the part lies behind the name. -/
theorem isSelectorEnd_behind_name {line before name after : Text} (nonempty : name ≠ [])
    (chars : ∀ c ∈ name, isNameChar c = true)
    (kept : selectorPart line = before ++ '.' :: name ++ after) :
    ∃ c ∈ after, isSelectorEnd c = true := by
  obtain rfl | ⟨init, c, rfl⟩ := List.eq_nil_or_concat' after
  · obtain ⟨init, c, rfl⟩ := (List.eq_nil_or_concat' name).resolve_left nonempty
    have last : selectorPart line = before ++ '.' :: init ++ [c] := by simp [kept]
    have ended := isSelectorEnd_of_selectorPart last
    have inName := chars c (by simp)
    simp [isNameChar_of_isSelectorEnd ended] at inName
  · refine ⟨c, by simp, ?_⟩
    apply isSelectorEnd_of_selectorPart
    rw [kept, ← List.append_assoc]

theorem declaresAt_iff_mem_dottedPlaces {line name : Text} {offset : Nat} :
    DeclaresAt line name offset ↔ (offset, name) ∈ dottedPlaces 0 (selectorPart line) := by
  rw [mem_dottedPlaces_iff]
  constructor
  · rintro ⟨nonempty, chars, before, after, rfl, counted, closed, ends⟩
    refine ⟨nonempty, chars, before, selectorPart after, selectorPart_append ends, by omega, ?_⟩
    intro c h
    exact closed c (head?_selectorPart ends ▸ h)
  · rintro ⟨nonempty, chars, before, after, kept, counted, closed⟩
    obtain ⟨tail, whole⟩ := selectorPart_prefix line
    obtain ⟨c, found, hc⟩ := isSelectorEnd_behind_name nonempty chars kept
    refine ⟨nonempty, chars, before, after ++ tail, ?_, by omega, ?_, c, by simp [found], hc⟩
    · rw [← whole, kept, List.append_assoc]
    · obtain ⟨d, rest, rfl⟩ := List.exists_cons_of_ne_nil (List.ne_nil_of_mem found)
      exact closed

theorem declares_iff_mem_dottedNames {line name : Text} :
    Declares line name ↔ name ∈ dottedNames (selectorPart line) := by
  rw [declares_iff_exists_declaresAt, ← map_dottedPlaces 0, List.mem_map]
  simp only [declaresAt_iff_mem_dottedPlaces, Prod.exists, exists_eq_right]

/-- The declared names are those that some line declares. -/
theorem mem_classNames_iff {content name : Text} :
    name ∈ classNames content ↔ ∃ line ∈ Text.lines content, Declares line name := by
  simp only [classNames, List.mem_eraseDups, List.mem_flatMap, declares_iff_mem_dottedNames]

theorem classNamesWith_nil (content : Text) : classNamesWith content [] = classNames content := by
  have every (name : Text) : Text.contains name [] = true :=
    Text.contains_iff.2 List.nil_infix
  simp [classNamesWith, every]

/-- Text without line feed, comma and brace at the end of a stylesheet declares nothing. -/
theorem declared_append_plain (content : Text) {more : Text} (unbroken : '\n' ∉ more)
    (plain : ∀ c ∈ more, isSelectorEnd c = false) :
    ((Text.lines (content ++ more)).flatMap fun line => dottedNames (selectorPart line)) =
      (Text.lines content).flatMap fun line => dottedNames (selectorPart line) := by
  obtain ⟨earlier, last, before, after⟩ := Text.lines_append_of_not_mem content unbroken
  rw [before, after]
  simp [selectorPart_append_plain last plain]

theorem dottedNames_rule {name : Text} (nonempty : name ≠ [])
    (chars : ∀ c ∈ name, isNameChar c = true) : dottedNames ('.' :: name ++ [' ', '{']) = [name] := by
  have rest (t : Text) (h : ∀ c ∈ t, c ≠ '.') : dottedNames t = [] := by
    induction t with
    | nil => rfl
    | cons c r ih => simp_all [dottedNames]
  have undotted : ∀ c ∈ name ++ [' ', '{'], c ≠ '.' := by
    rintro c h rfl
    simp only [List.mem_append, List.mem_cons] at h
    obtain h | h := h
    · exact absurd (chars _ h) (by decide)
    · simp at h
  have whole : (name ++ [' ', '{']).takeWhile isNameChar = name := by
    apply Text.takeWhile_append_stop chars
    rintro c ⟨⟩
    rfl
  rw [List.cons_append, dottedNames]
  simp [whole, nonempty, rest _ undotted]

/-- The lines of a stylesheet with an empty rule after it. The first carriage return of the rule falls
on the line that was the last. -/
theorem lines_append_emptyRule (content : Text) {name : Text} (unbroken : '\n' ∉ name) :
    Text.lines (content ++ emptyRule name) =
      Text.lines (content ++ ['\r']) ++
        ['.' :: name ++ [' ', '{', '\r'], ['\r'], ['}', '\r'], ['\r'], []] := by
  have split : content ++ emptyRule name =
      (content ++ ['\r']) ++ '\n' :: (('.' :: name ++ [' ', '{', '\r']) ++
        '\n' :: ['\r', '\n', '}', '\r', '\n', '\r', '\n']) := by
    simp [emptyRule]
  have tail : Text.lines ['\r', '\n', '}', '\r', '\n', '\r', '\n'] =
      [['\r'], ['}', '\r'], ['\r'], []] := by decide
  have header : '\n' ∉ '.' :: name ++ [' ', '{', '\r'] := by simp [unbroken]
  rw [split, Text.lines_append_newline, Text.lines_append_newline, tail,
    Text.lines_of_not_mem header]
  rfl

/-- An appended rule declares its own class and leaves the other names as they were. -/
theorem classNames_append_emptyRule (content : Text) {name : Text} (nonempty : name ≠ [])
    (chars : ∀ c ∈ name, isNameChar c = true) :
    classNames (content ++ emptyRule name) =
      classNames content ++ if name ∈ classNames content then [] else [name] := by
  have unbroken : '\n' ∉ name := fun h => absurd (chars _ h) (by decide)
  have header : selectorPart ('.' :: name ++ [' ', '{', '\r']) = '.' :: name ++ [' ', '{'] := by
    rw [selectorPart_append ⟨'{', by simp, rfl⟩]
    rfl
  have old := declared_append_plain content (show '\n' ∉ ['\r'] by decide) (by simp [isSelectorEnd])
  have added : ['.' :: name ++ [' ', '{', '\r'], ['\r'], ['}', '\r'], ['\r'], []].flatMap
      (fun line => dottedNames (selectorPart line)) = [name] := by
    have empty : ∀ line ∈ [['\r'], ['}', '\r'], ['\r'], []], dottedNames (selectorPart line) = [] := by
      decide
    rw [List.flatMap_cons, header, dottedNames_rule nonempty chars,
      List.flatMap_eq_nil_iff.2 empty, List.append_nil]
  simp only [classNames, lines_append_emptyRule content unbroken, List.flatMap_append, old, added,
    eraseDups_concat, List.mem_eraseDups]

end ClassNav.Stylesheet
