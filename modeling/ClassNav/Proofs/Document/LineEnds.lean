import ClassNav.Document.Missing
import ClassNav.Proofs.Document.CursorAtUsage
import ClassNav.Proofs.Text.LineEnds

/-!
Cursors and usages in a document with both kinds of line ends. Each cursor sees the line that it saw, and
the same references are found on the same lines and in the same columns. Their bytes lie one further for
each line feed before them, that is, by their line.
-/

namespace ClassNav

open Text

theorem Text.dropCarriageReturn_concat {line : Text} (unreturned : '\r' ∉ line) :
    dropCarriageReturn (line ++ ['\r']) = dropCarriageReturn line := by
  have last : line.getLast? ≠ some '\r' := fun h => unreturned (List.mem_of_getLast? h)
  rw [dropCarriageReturn_append fun _ => last]
  simp [dropCarriageReturn, last]

namespace Document

def withReturns (d : Document) : Document := { d with text := Text.withReturns d.text }

@[simp] theorem text_withReturns (d : Document) : d.withReturns.text = Text.withReturns d.text := rfl

@[simp] theorem baseDir_withReturns (d : Document) : d.withReturns.baseDir = d.baseDir := rfl

theorem line?_eq (d : Document) (n : Nat) : d.line? n = ((lines d.text).map dropCarriageReturn)[n]? := by
  rw [line?, List.getElem?_map]

/-- A carriage return before a line feed was never part of the line. -/
theorem cursor_withReturns {d : Document} (unreturned : '\r' ∉ d.text) (line column : Nat) :
    d.withReturns.cursor line column = d.cursor line column := by
  have same : (lines (Text.withReturns d.text)).map dropCarriageReturn =
      (lines d.text).map dropCarriageReturn :=
    map_lines_withReturns fun _ found =>
      dropCarriageReturn_concat fun inside => unreturned ((infix_of_mem_lines found).subset inside)
  rw [cursor, cursor, line?_eq, line?_eq, text_withReturns, same]

end Document

namespace Usage

/-- The usage in the text with a carriage return before each line feed. -/
def shifted (u : Usage) : Usage :=
  { u with first := u.first + u.start.line, last := u.last + u.start.line }

theorem takeWhile_name_withReturns (t : Text) :
    (withReturns t).takeWhile isNameChar = t.takeWhile isNameChar :=
  takeWhile_withReturns (by decide) (by decide) t

theorem dropWhile_name_withReturns (t : Text) :
    (withReturns t).dropWhile isNameChar = withReturns (t.dropWhile isNameChar) :=
  dropWhile_withReturns (by decide) t

theorem backReturns_name (t back : Text) :
    backReturns ((t.takeWhile isNameChar).reverse ++ back) =
      (t.takeWhile isNameChar).reverse ++ backReturns back := by
  refine backReturns_append_of_not_mem (fun found => ?_) back
  exact absurd (List.mem_takeWhile_imp (List.mem_reverse.1 found)) (by decide)

section
variable {object : Text} (inline : IsInline object)
include inline

theorem backReturns_upToName (back : Text) :
    backReturns (upToName object back) = upToName object (backReturns back) :=
  backReturns_append_of_not_mem (a := '.' :: object.reverse) (by simpa using inline.1) back

theorem isInline_object : IsInline (object ++ ['.']) := by
  simpa [IsInline] using inline

/-- No reference begins just before a line end. -/
theorem scan_return (back t : Text) :
    scan object back ('\r' :: '\n' :: t) = scan object ('\r' :: back) ('\n' :: t) := by
  have elsewhere : stripPrefix? (object ++ ['.']) ('\n' :: t) = none := by
    cases object with
    | nil => rfl
    | cons c object => simp [stripPrefix?, List.isPrefixOf?, (isInline_cons.1 inline).1.1]
  conv_lhs => rw [scan]
  simp [elsewhere]

/-- The scan passes by the carriage return of a line end. -/
theorem scan_cons_withReturns (back : Text) (c : Char) (r : Text) :
    ∃ back', backReturns (c :: back) = c :: back' ∧
      scan object (backReturns back) (withReturns (c :: r)) = scan object back' (c :: withReturns r) := by
  by_cases newline : c = '\n'
  · subst newline
    exact ⟨'\r' :: backReturns back, backReturns_newline back, by simp [scan_return inline]⟩
  · exact ⟨backReturns back, backReturns_cons_of_ne newline back, by simp [newline]⟩

theorem scan_withReturns (back t : Text) :
    scan object (backReturns back) (withReturns t) =
      (scan object back t).map fun (up, name) => (backReturns up, name) := by
  fun_induction scan object back t with
  | case1 => simp [scan]
  | case2 back c r rest hit up name ih =>
    obtain ⟨back', same, step⟩ := scan_cons_withReturns inline back c r
    split at hit
    next separates =>
      have strips := stripPrefix?_withReturns (isInline_object inline) r
      rw [hit] at strips
      have reached : up = upToName object (c :: back) := by simp [up, upToName]
      have converted : upToName object (c :: back') = backReturns up := by
        rw [reached, backReturns_upToName inline, same]
      -- The search goes on behind the whole name, which has no line end to convert.
      rw [drop_reference hit, reached] at ih
      rw [step, scan_of_hit separates strips, converted, takeWhile_name_withReturns,
        dropWhile_name_withReturns, reached, ← backReturns_name, ih, ← drop_reference hit]
      rfl
    next => cases hit
  | case3 back c r miss ih =>
    obtain ⟨back', same, step⟩ := scan_cons_withReturns inline back c r
    have strips := stripPrefix?_withReturns (isInline_object inline) r
    rw [step, scan, ← ih, same]
    split at miss <;> simp_all

theorem scanAll_withReturns (t : Text) :
    scanAll object (withReturns t) =
      (scanAll object t).map fun (up, name) => (backReturns up, name) := by
  unfold scanAll
  rw [stripPrefix?_withReturns (isInline_object inline)]
  cases stripPrefix? (object ++ ['.']) t with
  | none => exact scan_withReturns inline [] t
  | some rest =>
    have start : backReturns ('.' :: object.reverse) = '.' :: object.reverse := by
      simpa [upToName] using backReturns_upToName inline []
    have later := scan_withReturns inline ((rest.takeWhile isNameChar).reverse ++ '.' :: object.reverse)
      (rest.dropWhile isNameChar)
    rw [backReturns_name, start] at later
    simp only [Option.map_some, drop_takeWhile_length]
    simp only [takeWhile_name_withReturns, dropWhile_name_withReturns, later, List.map_cons, start]

end

theorem after_backReturns (back : Text) : LineCol.after (backReturns back) = .after back := by
  rw [LineCol.after, count_backReturns, takeWhile_backReturns, LineCol.after]

/-- A name holds no line feed, so both its ends shift by the line that it stands on. -/
theorem ofName_backReturns (back : Text) {name : Text} (unbroken : '\n' ∉ name) :
    ofName (backReturns back) name = (ofName back name).shifted := by
  have stop : name.reverse ++ backReturns back = backReturns (name.reverse ++ back) :=
    (backReturns_append_of_not_mem (by simpa using unbroken) back).symm
  have line : (LineCol.after back).line = back.count '\n' := rfl
  simp only [ofName, shifted, stop, after_backReturns, byteLength_backReturns, line]
  rw [Nat.add_right_comm]

/-- The usages are the same, each shifted by its line. -/
theorem all_withReturns {object : Text} (inline : IsInline object) (t : Text) :
    all object (withReturns t) = (all object t).map shifted := by
  unfold all
  rw [scanAll_withReturns inline, List.filter_map, List.map_map, List.map_map]
  refine List.map_congr_left fun (up, name) found => ?_
  obtain ⟨before, after, -, stands⟩ := scanAll_stands (List.mem_filter.1 found).1
  exact ofName_backReturns up fun newline => stands.name_not_newline _ newline rfl

end Usage

namespace MissingClass

def shifted (m : MissingClass) : MissingClass := { m with usage := m.usage.shifted }

theorem all_withReturns {object : Text} (inline : IsInline object) (t : Text) (declared : List Text) :
    all object (withReturns t) declared = (all object t declared).map shifted := by
  unfold all
  rw [Usage.all_withReturns inline, List.filter_map, List.map_map, List.map_map]
  rfl

end MissingClass

end ClassNav
