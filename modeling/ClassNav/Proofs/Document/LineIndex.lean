import ClassNav.Document.LineIndex
import ClassNav.Proofs.Text.Lines
import ClassNav.Proofs.Text.Occurrence
import ClassNav.Proofs.Text.Runs
import Mathlib.Data.List.Basic

/-!
The index of a text gives every offset the place that counting from the front gives it. The beginnings of
the lines rise, so the search ends at the last one that is not behind the offset.
-/

namespace ClassNav

namespace Text

theorem splitAt?_eq_some_iff {t before after : Text} {n : Nat} :
    splitAt? t n = some (before, after) ↔ t = before ++ after ∧ n = byteLength before :=
  ⟨append_of_splitAt?, by rintro ⟨rfl, rfl⟩; exact splitAt?_append before after⟩

/-- A slice is what lies between two beginnings of the text. -/
theorem slice?_eq_some_iff {t part : Text} {first last : Nat} :
    slice? t first last = some part ↔
      ∃ before after, t = before ++ (part ++ after) ∧ first = byteLength before ∧
        last = first + byteLength part := by
  unfold slice?
  split
  next ordered =>
    rw [Option.bind_eq_some_iff]
    constructor
    · rintro ⟨⟨before, rest⟩, front, cut⟩
      obtain ⟨⟨part', after⟩, back, rfl⟩ := Option.map_eq_some_iff.1 cut
      obtain ⟨rfl, rfl⟩ := splitAt?_eq_some_iff.1 front
      obtain ⟨rfl, length⟩ := splitAt?_eq_some_iff.1 back
      refine ⟨before, after, rfl, rfl, ?_⟩
      show last = byteLength before + byteLength part'
      omega
    · rintro ⟨before, after, rfl, rfl, rfl⟩
      refine ⟨(before, part ++ after), splitAt?_append .., Option.map_eq_some_iff.2 ⟨(part, after), ?_, rfl⟩⟩
      rw [Nat.add_sub_cancel_left]
      exact splitAt?_append part after
  next disordered =>
    refine ⟨nofun, ?_⟩
    rintro ⟨before, after, -, rfl, rfl⟩
    omega

theorem lineStarts_append (offset : Nat) (a b : Text) :
    lineStarts offset (a ++ b) = lineStarts offset a ++ lineStarts (offset + byteLength a) b := by
  induction a generalizing offset with
  | nil => rfl
  | cons c r ih =>
    simp only [List.cons_append, lineStarts, ih, byteLength_cons, Nat.add_assoc]
    split <;> rfl

theorem lineStarts_of_not_mem (offset : Nat) {t : Text} (unbroken : '\n' ∉ t) :
    lineStarts offset t = [] := by
  induction t generalizing offset with
  | nil => rfl
  | cons c r ih =>
    rw [List.mem_cons, not_or] at unbroken
    rw [lineStarts, if_neg (Ne.symm unbroken.1), ih _ unbroken.2]

theorem length_lineStarts (offset : Nat) (t : Text) :
    (lineStarts offset t).length = t.count '\n' := by
  induction t generalizing offset with
  | nil => rfl
  | cons c r ih => by_cases newline : c = '\n' <;> simp [lineStarts, newline, ih]

/-- Lines begin behind the text's own beginning, and not behind its end. -/
theorem mem_lineStarts {offset n : Nat} {t : Text} (found : n ∈ lineStarts offset t) :
    offset < n ∧ n ≤ offset + byteLength t := by
  induction t generalizing offset with
  | nil => cases found
  | cons c r ih =>
    have positive := c.utf8Size_pos
    rw [lineStarts] at found
    rw [byteLength_cons]
    split at found
    next =>
      obtain rfl | later := List.mem_cons.1 found
      · omega
      · have := ih later
        omega
    next =>
      have := ih found
      omega

theorem pairwise_lineStarts (offset : Nat) (t : Text) : (lineStarts offset t).Pairwise (· < ·) := by
  induction t generalizing offset with
  | nil => exact .nil
  | cons c r ih =>
    rw [lineStarts]
    split
    next => exact .cons (fun n later => (mem_lineStarts later).1) (ih _)
    next => exact ih _

/-- The last line of a text begins behind the text's last line feed, if that has one. -/
theorem getLast?_lineStarts {front line : Text} (unbroken : '\n' ∉ line)
    (ended : ∀ c ∈ front.getLast?, c = '\n') :
    (0 :: lineStarts 0 (front ++ line)).getLast? = some (byteLength front) := by
  rw [lineStarts_append, lineStarts_of_not_mem _ unbroken, List.append_nil]
  obtain rfl | ⟨before, c, rfl⟩ := List.eq_nil_or_concat' front
  · rfl
  · obtain rfl : c = '\n' := ended c (by simp)
    simp [lineStarts_append, lineStarts, List.getLast?_cons]

/-- A text up to a place is whole lines and the beginning of another. -/
theorem exists_front (before : Text) :
    ∃ front line, before = front ++ line ∧ line = (before.reverse.takeWhile (· ≠ '\n')).reverse ∧
      '\n' ∉ line ∧ ∀ c ∈ front.getLast?, c = '\n' := by
  refine ⟨(before.reverse.dropWhile (· ≠ '\n')).reverse, _, ?_, rfl, ?_, ?_⟩
  · rw [← List.reverse_append, List.takeWhile_append_dropWhile, List.reverse_reverse]
  · intro found
    have inside := List.mem_takeWhile_imp (List.mem_reverse.1 found)
    simp at inside
  · intro c found
    rw [List.getLast?_reverse] at found
    simpa using stops_dropWhile (· ≠ '\n') before.reverse c found

end Text

theorem LineCol.at?_append (before after : Text) :
    LineCol.at? (before ++ after) (Text.byteLength before) = some (.after before.reverse) := by
  rw [LineCol.at?, Text.splitAt?_append, Option.map_some]

namespace LineIndex

open Text

section
variable {starts : Array Nat} {key : Nat} (rising : starts.toList.Pairwise (· < ·))
include rising

theorem lt_of_rising {i j : Nat} (before : i < j) (inside : j < starts.size) :
    starts[i] < starts[j] := by
  have ordered := List.pairwise_iff_getElem.1 rising i j (by simp; omega) (by simpa) before
  simpa using ordered

/-- The search ends at the key, or between what is below and what is above it. -/
theorem search_spec {low high : Nat} {bound : high ≤ starts.size}
    (below : ∀ i (inside : i < starts.size), i < low → starts[i] < key)
    (above : ∀ i (inside : i < starts.size), high ≤ i → key < starts[i]) (ordered : low ≤ high) :
    match search starts key low high bound with
    | .ok i => ∃ inside : i < starts.size, starts[i] = key
    | .error i => i ≤ starts.size ∧ (∀ j (inside : j < starts.size), j < i → starts[j] < key) ∧
        ∀ j (inside : j < starts.size), i ≤ j → key < starts[j] := by
  fun_induction search starts key low high bound with
  | case1 low high bound active middle inside found => exact ⟨inside, found⟩
  | case2 low high bound active middle inside differs less ih =>
    have within : low ≤ middle ∧ middle < high := by omega
    refine ih (fun i inside' before => ?_) above (by omega)
    obtain rfl | earlier := Nat.eq_or_lt_of_le (Nat.le_of_lt_succ before)
    · exact less
    · exact (lt_of_rising rising earlier inside).trans less
  | case3 low high bound active middle inside differs notLess ih =>
    have within : low ≤ middle ∧ middle < high := by omega
    refine ih below (fun i inside' behind => ?_) within.1
    have greater : key < starts[middle] := by omega
    obtain rfl | later := Nat.eq_or_lt_of_le behind
    · exact greater
    · exact greater.trans (lt_of_rising rising later inside')
  | case4 low high bound idle => exact ⟨by omega, below, fun j inside behind => above j inside (by omega)⟩

end

theorem rising_of (t : Text) : (LineIndex.of t).starts.toList.Pairwise (· < ·) :=
  .cons (fun _ found => (mem_lineStarts found).1) (pairwise_lineStarts 0 t)

/-- Some lines of a text begin up to a place, the others behind it. -/
theorem starts_of_append (before after : Text) :
    (LineIndex.of (before ++ after)).starts.toList =
      (0 :: lineStarts 0 before) ++ lineStarts (byteLength before) after := by
  simp [LineIndex.of, lineStarts_append]

/-- The lines that begin up to a place are the first and one for each line feed before. -/
theorem starts_le_iff (before after : Text) {i : Nat}
    (inside : i < (LineIndex.of (before ++ after)).starts.size) :
    (LineIndex.of (before ++ after)).starts[i] ≤ byteLength before ↔ i ≤ before.count '\n' := by
  have parts := starts_of_append before after
  have begun : (0 :: lineStarts 0 before).length = before.count '\n' + 1 := by
    rw [List.length_cons, length_lineStarts]
  have all := congrArg List.length parts
  rw [Array.length_toList, List.length_append] at all
  rw [← Array.getElem_toList, List.getElem_of_eq parts]
  by_cases early : i < (0 :: lineStarts 0 before).length
  · rw [List.getElem_append_left early]
    have within : (0 :: lineStarts 0 before)[i] ≤ byteLength before := by
      obtain same | later := List.mem_cons.1 (List.getElem_mem early)
      · omega
      · have := mem_lineStarts later
        omega
    constructor <;> intro <;> omega
  · have late : i - (0 :: lineStarts 0 before).length <
        (lineStarts (byteLength before) after).length := by omega
    have behind := mem_lineStarts (List.getElem_mem late)
    rw [List.getElem_append_right (Nat.le_of_not_lt early)]
    constructor <;> intro <;> omega

/-- An offset lies on the line that as many line feeds stand before. -/
theorem line?_of (before after : Text) :
    (LineIndex.of (before ++ after)).line? (byteLength before) = some (before.count '\n') := by
  have rising := rising_of (before ++ after)
  have begun {i : Nat} := starts_le_iff before after (i := i)
  have last : before.count '\n' < (LineIndex.of (before ++ after)).starts.size := by
    rw [LineIndex.of, List.size_toArray, List.length_cons, length_lineStarts, List.count_append]
    omega
  have spec := @search_spec _ (byteLength before) rising 0 _ (Nat.le_refl _)
    (fun i _ none_below => absurd none_below (Nat.not_lt_zero i))
    (fun i inside none_above => absurd inside (Nat.not_lt_of_le none_above)) (Nat.zero_le _)
  unfold line?
  generalize search _ _ _ _ _ = result at spec ⊢
  cases result with
  | ok i =>
    obtain ⟨inside, found⟩ := spec
    have early := (begun inside).1 found.le
    obtain same | earlier := Nat.eq_or_lt_of_le early
    · rw [same]
    · have ordered := lt_of_rising rising earlier last
      have := (begun last).2 le_rfl
      omega
  | error i =>
    obtain ⟨within, below, above⟩ := spec
    have passed : before.count '\n' < i := by
      by_contra behind
      have := above _ last (Nat.le_of_not_lt behind)
      have := (begun last).2 le_rfl
      omega
    have reached : i ≤ before.count '\n' + 1 := by
      by_contra further
      have inside : before.count '\n' + 1 < (LineIndex.of (before ++ after)).starts.size := by omega
      have := (begun inside).1 (below _ inside (by omega)).le
      omega
    obtain rfl : i = before.count '\n' + 1 := by omega
    rfl

/-- The index cuts the text in two wherever a character begins or the text ends. -/
theorem position?_of (before after : Text) :
    (LineIndex.of (before ++ after)).position? (byteLength before) = some (.after before.reverse) := by
  obtain ⟨front, line, whole, counted, unbroken, ended⟩ := exists_front before
  have start : (LineIndex.of (before ++ after)).starts[before.count '\n']? =
      some (byteLength front) := by
    have last := getLast?_lineStarts unbroken ended
    rw [← whole, List.getLast?_eq_getElem?, List.length_cons, length_lineStarts,
      Nat.add_sub_cancel] at last
    rw [← Array.getElem?_toList, starts_of_append, List.getElem?_append_left, last]
    rw [List.length_cons, length_lineStarts]
    omega
  have cut : slice? (before ++ after) (byteLength front) (byteLength before) = some line :=
    slice?_eq_some_iff.2 ⟨front, after, by simp [whole], rfl, by simp [whole]⟩
  rw [position?, line?_of, Option.bind_some, start, Option.bind_some]
  show (slice? (before ++ after) (byteLength front) (byteLength before)).map _ = _
  rw [cut, Option.map_some, counted, List.length_reverse, LineCol.after, List.count_reverse]

/-- **The index finds the place of an offset as counting from the front does**, and finds one wherever the
text can be cut. -/
theorem position?_eq_at? (t : Text) (offset : Nat) :
    (LineIndex.of t).position? offset = LineCol.at? t offset := by
  cases cut : splitAt? t offset with
  | some parts =>
    obtain ⟨before, after⟩ := parts
    obtain ⟨rfl, rfl⟩ := splitAt?_eq_some_iff.1 cut
    rw [position?_of, LineCol.at?_append]
  | none =>
    rw [LineCol.at?, cut, Option.map_none, Option.eq_none_iff_forall_not_mem]
    intro place found
    obtain ⟨line, -, found⟩ := Option.bind_eq_some_iff.1 found
    obtain ⟨start, -, found⟩ := Option.bind_eq_some_iff.1 found
    obtain ⟨part, sliced, -⟩ := Option.map_eq_some_iff.1 found
    obtain ⟨before, after, whole, rfl, rfl⟩ := slice?_eq_some_iff.1 sliced
    have parts : splitAt? t (byteLength before + byteLength part) = some (before ++ part, after) :=
      splitAt?_eq_some_iff.2 ⟨by rw [List.append_assoc]; exact whole, by simp⟩
    rw [parts] at cut
    cases cut

end LineIndex

end ClassNav
