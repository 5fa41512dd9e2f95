import ClassNav.Proofs.Document.CursorAtUsage
import ClassNav.Proofs.Document.LineIndex
import ClassNav.Proofs.Text.Runs

/-!
Cursors and byte offsets. A cursor has one offset, its line's beginning and what stands before it there,
and the index leads from the offset back to its line and column. From every other offset, but those behind
the carriage return of a line end, the index leads to a cursor at just this offset.
-/

namespace ClassNav

namespace Text

/-- The byte offset at which a line of the text begins, behind the lines before and their line feeds. -/
def lineStart (t : Text) (line : Nat) : Nat :=
  byteLength (((lines t).take line).flatMap (· ++ ['\n']))

/-- Whether an offset lies right behind the carriage return that ends a line. -/
def behindReturn (t : Text) (offset : Nat) : Bool :=
  (splitAt? t offset).any fun (before, after) =>
    before.getLast? == some '\r' && after.head?.all (· == '\n')

/-- The lines with their line feeds make the text, and the last line has one too many. -/
theorem flatMap_lines (t : Text) : (lines t).flatMap (· ++ ['\n']) = t ++ ['\n'] := by
  induction t with
  | nil => rfl
  | cons c r ih =>
    rw [lines_cons]
    by_cases newline : c = '\n'
    · rw [if_pos newline, List.flatMap_cons, ih, newline]
      rfl
    · obtain ⟨first, rest, split⟩ := List.exists_cons_of_ne_nil (lines_ne_nil r)
      rw [split, List.flatMap_cons] at ih
      rw [if_neg newline, split, List.modifyHead_cons, List.flatMap_cons, List.cons_append,
        List.cons_append, ih, List.cons_append]

theorem lineStart_append {front : Text} (ended : ∀ c ∈ front.getLast?, c = '\n') (rest : Text) :
    lineStart (front ++ rest) (front.count '\n') = byteLength front := by
  obtain rfl | ⟨before, c, rfl⟩ := List.eq_nil_or_concat' front
  · rfl
  · obtain rfl : c = '\n' := ended c (by simp)
    have earlier : (before ++ ['\n']).count '\n' = (lines before).length := by
      simp [length_lines]
    rw [lineStart, earlier, List.append_assoc, List.singleton_append, lines_append_newline,
      List.take_left, flatMap_lines]

/-- What stands before a line are the lines ahead of it, whole. -/
theorem exists_front_of_line {t whole : Text} {line : Nat} (here : (lines t)[line]? = some whole) :
    ∃ front rest, t = front ++ (whole ++ rest) ∧ front.count '\n' = line ∧
      ∀ c ∈ front.getLast?, c = '\n' := by
  induction line generalizing t with
  | zero =>
    rw [head?_lines] at here
    obtain rfl := Option.some.inj here
    exact ⟨[], t.dropWhile (· ≠ '\n'), by simp [List.takeWhile_append_dropWhile], rfl, by simp⟩
  | succ line ih =>
    obtain single | ⟨first, rest, rfl, unbroken⟩ := first_line_cases t
    · rw [lines_of_not_mem single] at here
      cases here
    · rw [lines_append_newline, lines_of_not_mem unbroken, List.singleton_append,
        List.getElem?_cons_succ] at here
      obtain ⟨front, rest', rfl, counted, ended⟩ := ih here
      refine ⟨first ++ '\n' :: front, rest', by simp, ?_, ?_⟩
      · simp [List.count_eq_zero_of_not_mem unbroken, counted]
      · intro c last
        cases front with
        | nil => simpa using last.symm
        | cons d front => exact ended c (by simpa [List.getLast?_cons] using last)

/-- Past whole lines, the place is counted from the last of them on. -/
theorem after_of_line {front left : Text} (ended : ∀ c ∈ front.getLast?, c = '\n')
    (unbroken : '\n' ∉ left) :
    LineCol.after (front ++ left).reverse = ⟨front.count '\n', left.length⟩ := by
  have inside : ∀ c ∈ left.reverse, decide (c ≠ '\n') = true := by
    intro c found
    rw [decide_eq_true_eq]
    rintro rfl
    exact unbroken (List.mem_reverse.1 found)
  have stops : ∀ c ∈ front.reverse.head?, decide (c ≠ '\n') = false := by
    intro c first
    rw [List.head?_reverse] at first
    simp [ended c first]
  rw [LineCol.after, List.count_reverse, List.count_append, List.count_eq_zero_of_not_mem unbroken,
    List.reverse_append, takeWhile_append_stop inside stops, List.length_reverse, Nat.add_zero]

/-- A line that ends right here shows all that stands before, unless a carriage return ends it. -/
theorem getLast?_ne_of_not_behindReturn {before after : Text}
    (apart : behindReturn (before ++ after) (byteLength before) = false)
    (ends : after.takeWhile (· ≠ '\n') = []) :
    (before.reverse.takeWhile (· ≠ '\n')).reverse.getLast? ≠ some '\r' := by
  intro returns
  rw [List.getLast?_reverse, List.head?_takeWhile, Option.filter_eq_some_iff, List.head?_reverse] at returns
  have finished : after.head?.all (· == '\n') = true := by
    cases after with
    | nil => rfl
    | cons d rest => simpa using List.takeWhile_eq_nil_iff.1 ends
  rw [behindReturn, splitAt?_append] at apart
  simp [returns.1, finished] at apart

end Text

namespace Document

open Text

/-- A cursor cuts its line behind as many characters as its column says. -/
theorem cursor_eq_ok_iff {d : Document} {line column : Nat} {c : Cursor} :
    d.cursor line column = .ok c ↔ d.line? line = some c.line ∧ c.before.length = column := by
  constructor
  · intro here
    unfold cursor at here
    split at here
    next => cases here
    next text listed =>
      split at here
      next within =>
        obtain rfl := Except.ok.inj here
        exact ⟨by rw [listed, Cursor.line, List.take_append_drop], List.length_take_of_le within⟩
      next => cases here
  · rintro ⟨listed, rfl⟩
    exact cursor_of_line? listed

/-- A line has a cursor for each of its columns, and one at its end. -/
theorem exists_cursor_iff {d : Document} {line column : Nat} :
    (∃ c, d.cursor line column = .ok c) ↔
      ∃ inside : line < (lines d.text).length,
        column ≤ (dropCarriageReturn (lines d.text)[line]).length := by
  simp only [cursor_eq_ok_iff, line?, Option.map_eq_some_iff, List.getElem?_eq_some_iff]
  constructor
  · rintro ⟨c, ⟨whole, ⟨inside, rfl⟩, shown⟩, rfl⟩
    refine ⟨inside, ?_⟩
    rw [shown, Cursor.line, List.length_append]
    exact Nat.le_add_right ..
  · rintro ⟨inside, within⟩
    generalize same : (lines d.text)[line] = whole at within
    exact ⟨⟨(dropCarriageReturn whole).take column, (dropCarriageReturn whole).drop column⟩,
      ⟨whole, ⟨inside, same⟩, (List.take_append_drop ..).symm⟩, List.length_take_of_le within⟩

/-- The index leads from a cursor's offset back to its line and column. -/
theorem position?_of_cursor {d : Document} {line column : Nat} {c : Cursor}
    (here : d.cursor line column = .ok c) :
    (LineIndex.of d.text).position? (lineStart d.text line + c.offset) = some ⟨line, column⟩ := by
  obtain ⟨lined, counted⟩ := cursor_eq_ok_iff.1 here
  obtain ⟨whole, listed, shown⟩ := Option.map_eq_some_iff.1 lined
  obtain ⟨front, rest, text, numbered, ended⟩ := exists_front_of_line listed
  obtain ⟨tail, cut⟩ : c.before <+: whole := by
    have shorter := dropCarriageReturn_prefix whole
    refine .trans ⟨c.after, ?_⟩ shorter
    rw [shown, Cursor.line]
  have unbroken : '\n' ∉ c.before := by
    intro found
    apply not_mem_of_mem_splitOn (List.mem_of_getElem? listed)
    simp [← cut, found]
  have split : d.text = (front ++ c.before) ++ (tail ++ rest) := by simp [text, ← cut]
  have start : lineStart d.text line = byteLength front := by
    rw [text, ← numbered, lineStart_append ended]
  rw [start, Cursor.offset, ← byteLength_append, split, LineIndex.position?_eq_at?,
    LineCol.at?_append, after_of_line ended unbroken, numbered, counted]

/-- At the place of an offset stands the cursor of that offset, but not where a carriage return ends the
line before it. -/
theorem exists_cursor_after {d : Document} {before after : Text} (text : d.text = before ++ after)
    (apart : behindReturn d.text (byteLength before) = false) :
    ∃ c, d.cursor (LineCol.after before.reverse).line (LineCol.after before.reverse).character = .ok c ∧
      lineStart d.text (LineCol.after before.reverse).line + c.offset = byteLength before := by
  obtain ⟨front, left, whole, reached, unbroken, ended⟩ := exists_front before
  have place : LineCol.after before.reverse = ⟨front.count '\n', left.length⟩ := by
    rw [whole, after_of_line ended unbroken]
  have numbered : before.count '\n' = front.count '\n' := by
    rw [whole, List.count_append, List.count_eq_zero_of_not_mem unbroken, Nat.add_zero]
  have listed : (lines d.text)[front.count '\n']? = some (left ++ after.takeWhile (· ≠ '\n')) := by
    have found := getElem?_lines_after before.reverse after
    rwa [List.count_reverse, List.reverse_reverse, ← text, numbered, ← reached] at found
  have shown : d.line? (front.count '\n') =
      some (left ++ dropCarriageReturn (after.takeWhile (· ≠ '\n'))) := by
    rw [line?, listed, Option.map_some, dropCarriageReturn_append]
    rw [text] at apart
    exact reached ▸ getLast?_ne_of_not_behindReturn apart
  have start : lineStart d.text (front.count '\n') = byteLength front := by
    rw [text, whole, List.append_assoc, lineStart_append ended]
  rw [place]
  refine ⟨_, cursor_of_line? shown, ?_⟩
  rw [start, whole, byteLength_append]
  rfl

/-- **Cursors and byte offsets stand for each other.** A cursor is there for each column of each line, its
end included. Its offset cuts the line behind as many characters, and the index leads from there back to
line and column. The index finds a place wherever the text can be cut, and from it the cursor leads back to
the offset, unless a carriage return that ends a line stands right before. -/
theorem cursors_are_places (d : Document) :
    (∀ line column, (∃ c, d.cursor line column = .ok c) ↔
      ∃ inside : line < (lines d.text).length,
        column ≤ (dropCarriageReturn (lines d.text)[line]).length) ∧
    (∀ line column c, d.cursor line column = .ok c →
      (lines d.text)[line]?.map dropCarriageReturn = some c.line ∧
      splitAt? c.line c.offset = some (c.before, c.after) ∧ c.before.length = column ∧
      (LineIndex.of d.text).position? (lineStart d.text line + c.offset) = some ⟨line, column⟩) ∧
    ∀ offset, (splitAt? d.text offset).isSome →
      ∃ place, (LineIndex.of d.text).position? offset = some place ∧
        (behindReturn d.text offset = false →
          ∃ c, d.cursor place.line place.character = .ok c ∧
            lineStart d.text place.line + c.offset = offset) := by
  refine ⟨fun _ _ => exists_cursor_iff, fun line column c here => ?_, fun offset boundary => ?_⟩
  · obtain ⟨listed, counted⟩ := cursor_eq_ok_iff.1 here
    exact ⟨listed, splitAt?_append c.before c.after, counted, position?_of_cursor here⟩
  · obtain ⟨⟨before, after⟩, cut⟩ := Option.isSome_iff_exists.1 boundary
    obtain ⟨text, rfl⟩ := splitAt?_eq_some_iff.1 cut
    refine ⟨.after before.reverse, ?_, exists_cursor_after text⟩
    rw [text, LineIndex.position?_eq_at?, LineCol.at?_append]

/-- Lines that a carriage return ends, with a letter of two bytes and an empty line. -/
theorem cursors_are_places_past_returns :
    let d : Document := ⟨⟨"/page.js"⟩, "é s\r\n\nx\r"⟩
    (∃ c, d.cursor 0 3 = .ok c ∧ c.offset = 4 ∧
      (LineIndex.of d.text).position? (lineStart d.text 0 + c.offset) = some ⟨0, 3⟩) ∧
    ∃ place c, (LineIndex.of d.text).position? 8 = some place ∧
      d.cursor place.line place.character = .ok c ∧ lineStart d.text place.line + c.offset = 8 := by
  intro d
  obtain ⟨there, places, offsets⟩ := cursors_are_places d
  refine ⟨?_, ?_⟩
  · obtain ⟨c, here⟩ := (there 0 3).2 ⟨by decide, by decide⟩
    obtain rfl : c = ⟨"é s", []⟩ := Except.ok.inj (here.symm.trans (by decide))
    exact ⟨_, here, by decide, (places 0 3 _ here).2.2.2⟩
  · obtain ⟨place, found, back⟩ := offsets 8 (by decide)
    obtain ⟨c, here, same⟩ := back (by decide)
    exact ⟨place, c, found, here, same⟩

end Document

end ClassNav
