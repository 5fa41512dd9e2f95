import ClassNav.Json.Printer
import ClassNav.Proofs.Json.Grammar
import ClassNav.Proofs.Text.Runs
import ClassNav.Yaml.Scalar

/-!
Scalars as JSON writes them: text between double quotes, and words and numbers without quotes. YAML undoes
the same escapes, but it refuses some characters that JSON leaves alone and folds lines at others.
-/

namespace ClassNav.Yaml

open Json (escape)

/-- A character that is escaped, or else may stand between quotes and breaks no line. -/
def Carried (c : Char) : Prop := c.toNat < 0x20 ∨ isPrintable c = true ∧ isBreak c = false

instance (c : Char) : Decidable (Carried c) := inferInstanceAs (Decidable (_ ∨ _))

/-- A separator of lines or of paragraphs. It breaks a line, and stays where the line is folded. -/
def IsSeparator (c : Char) : Prop := c = '\u2028' ∨ c = '\u2029'

/-- Text that stays as it is between quotes. Blanks beside a separator would be lost, and what follows one
stands at the start of a line, where a marker would end the document. -/
structure Kept (t : Text) : Prop where
  each : ∀ c ∈ t, Carried c ∨ IsSeparator c
  apart : ∀ a c b, t = a ++ c :: b → IsSeparator c →
    a.getLast? ≠ some ' ' ∧ ∀ d ∈ b.head?, d ≠ ' ' ∧ d ≠ '-' ∧ d ≠ '.'

theorem not_isSeparator_of_carried {c : Char} (carried : Carried c) : ¬IsSeparator c := by
  rintro (rfl | rfl) <;> exact absurd carried (by decide)

theorem Kept.of_carried {t : Text} (carried : ∀ c ∈ t, Carried c) : Kept t where
  each c found := .inl (carried c found)
  apart a c b whole separates :=
    absurd separates (not_isSeparator_of_carried (carried c (by simp [whole])))

theorem Kept.of_append {a b : Text} (kept : Kept (a ++ b)) : Kept b where
  each c found := kept.each c (List.mem_append_right _ found)
  apart front c behind whole separates := by
    obtain ⟨before, after⟩ := kept.apart (a ++ front) c behind (by simp [whole]) separates
    refine ⟨fun blank => before ?_, after⟩
    rw [List.getLast?_append, blank]
    rfl

section
variable (line column index : Nat)

@[simp] theorem Reader.skip_append (a b : Text) :
    (⟨a ++ b, line, column, index⟩ : Reader).skip a.length =
      ⟨b, line, column + a.length, index + a.length⟩ := by
  simp [Reader.skip]

theorem escaped?_control {c : Char} (control : c.toNat < 0x20) (rest : Text) :
    escaped? ((⟨"\\u00".toList ++ [Json.hexDigit (c.toNat / 16), Json.hexDigit (c.toNat % 16)] ++ rest,
      line, column, index⟩ : Reader).skip 1) = some (c, 5) := by
  show escaped? ⟨'u' :: '0' :: '0' :: _ :: _ :: rest, line, column + 1, index + 1⟩ = _
  have letter : letterEscape? 'u' = none := rfl
  have four : hexLength? 'u' = some 4 := rfl
  simp only [escaped?, Reader.peek?, List.getElem?_cons_zero, Option.bind_some, letter, four,
    List.drop_one, List.tail_cons, List.take, List.length, Json.hexNumber?_control control]
  rw [if_neg (by decide), if_neg (by omega), Char.ofNat_toNat]

theorem quotedWord_escape {c : Char} (carried : Carried c) (solid : c ≠ ' ') (rest : Text) (fuel : Nat) :
    quotedWord false (fuel + 1) ⟨escape c ++ rest, line, column, index⟩ =
      (quotedWord false fuel ⟨rest, line, column + (escape c).length, index + (escape c).length⟩).map
        fun (word, cut, r) => (c :: word, cut, r) := by
  unfold escape
  iterate 7
    split
    next h =>
      subst h
      rfl
  split
  next control =>
    show (escaped? _).bind _ = _
    rw [escaped?_control _ _ _ control]
    rfl
  next unquoted unescaped _ _ _ _ _ visible =>
    obtain ⟨printable, unbroken⟩ := carried.resolve_left visible
    have blank : isSpace c = false := by
      simp [isSpace, solid]
      assumption
    simp [quotedWord, Reader.peek?, blank, unbroken, unquoted, unescaped, Reader.skip]

/-- A word is read up to a blank, a break or the closing quote. -/
theorem quotedWord_solid {word : Text} {c : Char} (carried : ∀ d ∈ word, Carried d) (solid : ' ' ∉ word)
    (stops : c = ' ' ∨ IsSeparator c ∨ c = '"') (rest : Text) (fuel : Nat) (enough : word.length < fuel) :
    quotedWord false fuel ⟨word.flatMap escape ++ c :: rest, line, column, index⟩ =
      some (word, false, ⟨c :: rest, line, column + (word.flatMap escape).length,
        index + (word.flatMap escape).length⟩) := by
  induction word generalizing fuel column index with
  | nil =>
    obtain ⟨fuel, rfl⟩ := Nat.exists_eq_add_one_of_ne_zero (Nat.ne_of_gt enough)
    obtain rfl | (rfl | rfl) | rfl := stops <;> rfl
  | cons d word ih =>
    obtain ⟨fuel, rfl⟩ := Nat.exists_eq_add_one_of_ne_zero (Nat.ne_of_gt (Nat.zero_lt_of_lt enough))
    rw [List.flatMap_cons, List.append_assoc,
      quotedWord_escape _ _ _ (carried d (List.mem_cons_self ..))
        (fun same => solid (same ▸ List.mem_cons_self ..)),
      ih _ _ (fun e found => carried e (List.mem_cons_of_mem _ found))
        (fun found => solid (List.mem_cons_of_mem _ found)) fuel (by simpa using enough)]
    simp [Nat.add_assoc]

/-- Blanks on one line are kept. -/
theorem read_blanks (rest : Text) {c : Char} (visible : isSpace c = false) (unbroken : isBreak c = false)
    (before : Text) (n fuel : Nat) (enough : n < fuel) :
    Gap.read none fuel ⟨before, false, [], []⟩ ⟨List.replicate n ' ' ++ c :: rest, line, column, index⟩ =
      some (⟨before ++ List.replicate n ' ', false, [], []⟩, ⟨c :: rest, line, column + n, index + n⟩) := by
  induction n generalizing fuel before column index with
  | zero =>
    obtain ⟨fuel, rfl⟩ := Nat.exists_eq_add_one_of_ne_zero (Nat.ne_of_gt enough)
    simp [Gap.read, Reader.peek?, visible, unbroken]
  | succ n ih =>
    obtain ⟨fuel, rfl⟩ := Nat.exists_eq_add_one_of_ne_zero (Nat.ne_of_gt (Nat.zero_lt_of_lt enough))
    have next := ih (column + 1) (index + 1) (before ++ [' ']) fuel (by omega)
    simp only [List.append_assoc, Nat.add_assoc, Nat.add_comm 1 n] at next
    exact next

/-- Separators that follow each other on a broken line all stay. -/
theorem read_separators (rest : Text) {c : Char} (visible : isSpace c = false) (unbroken : isBreak c = false)
    {gap : Text} (separators : ∀ d ∈ gap, IsSeparator d) (first others : Text) (fuel : Nat)
    (enough : gap.length < fuel) :
    ∃ line' column', Gap.read none fuel ⟨[], true, first, others⟩ ⟨gap ++ c :: rest, line, column, index⟩ =
      some (⟨[], true, first, others ++ gap⟩, ⟨c :: rest, line', column', index + gap.length⟩) := by
  induction gap generalizing fuel others line column index with
  | nil =>
    obtain ⟨fuel, rfl⟩ := Nat.exists_eq_add_one_of_ne_zero (Nat.ne_of_gt enough)
    exact ⟨line, column, by simp [Gap.read, Reader.peek?, visible, unbroken]⟩
  | cons d gap ih =>
    obtain ⟨fuel, rfl⟩ := Nat.exists_eq_add_one_of_ne_zero (Nat.ne_of_gt (Nat.zero_lt_of_lt enough))
    obtain ⟨line', column', next⟩ := ih (line + 1) 0 (index + 1)
      (fun e found => separators e (List.mem_cons_of_mem _ found)) (others ++ [d]) fuel (by simpa using enough)
    refine ⟨line', column', ?_⟩
    rw [List.append_assoc, Nat.add_assoc, Nat.add_comm 1] at next
    obtain rfl | rfl := separators d (List.mem_cons_self ..) <;> exact next

/-- The first of them breaks the line. -/
theorem exists_read_separators (rest : Text) {c : Char} (visible : isSpace c = false)
    (unbroken : isBreak c = false) {d : Char} {gap : Text} (separators : ∀ e ∈ d :: gap, IsSeparator e)
    (fuel : Nat) (enough : (d :: gap).length < fuel) :
    ∃ g line' column', Gap.read none fuel ⟨[], false, [], []⟩ ⟨d :: gap ++ c :: rest, line, column, index⟩ =
      some (g, ⟨c :: rest, line', column', index + (d :: gap).length⟩) ∧ g.fold = d :: gap := by
  obtain ⟨fuel, rfl⟩ := Nat.exists_eq_add_one_of_ne_zero (Nat.ne_of_gt (Nat.zero_lt_of_lt enough))
  obtain ⟨line', column', next⟩ := read_separators (line + 1) 0 (index + 1) rest visible unbroken
    (fun e found => separators e (List.mem_cons_of_mem _ found)) [d] [] fuel (by simpa using enough)
  rw [List.nil_append, Nat.add_assoc, Nat.add_comm 1] at next
  refine ⟨⟨[], true, [d], gap⟩, line', column', ?_⟩
  obtain rfl | rfl := separators d (List.mem_cons_self ..) <;> exact ⟨next, rfl⟩

theorem escape_visible {c : Char} (carried : Carried c) (solid : c ≠ ' ') :
    ∃ d r, escape c = d :: r ∧ isSpace d = false ∧ isBreak d = false ∧ (d = c ∨ d = '\\') := by
  unfold escape
  iterate 7
    split
    next => exact ⟨'\\', _, rfl, rfl, rfl, .inr rfl⟩
  split
  next => exact ⟨'\\', _, rfl, rfl, rfl, .inr rfl⟩
  next tab _ _ visible =>
    obtain ⟨-, unbroken⟩ := carried.resolve_left visible
    exact ⟨c, [], rfl, by simp [isSpace, solid, tab], unbroken, .inl rfl⟩

/-- Past a gap quoted text goes on with something else. -/
theorem visible_behind_gap {t : Text} (kept : Kept t) (solid : t.head? ≠ some ' ')
    (whole : ∀ c ∈ t.head?, ¬IsSeparator c) (rest : Text) :
    ∃ c r, t.flatMap escape ++ '"' :: rest = c :: r ∧ isSpace c = false ∧ isBreak c = false ∧
      (c = '"' ∨ c = '\\' ∨ t.head? = some c) := by
  cases t with
  | nil => exact ⟨'"', rest, rfl, rfl, rfl, .inl rfl⟩
  | cons c t =>
    have carried := (kept.each c (List.mem_cons_self ..)).resolve_right (whole c rfl)
    obtain ⟨d, r, escaped, blank, unbroken, same⟩ := escape_visible carried (by simpa using solid)
    refine ⟨d, r ++ t.flatMap escape ++ '"' :: rest, by simp [escaped], blank, unbroken, .inr ?_⟩
    exact same.elim (fun same => .inr (by simp [same])) .inl

/-- What ends a word between quotes. -/
def isGap (c : Char) : Bool := c == ' ' || c == '\u2028' || c == '\u2029'

theorem isGap_iff {c : Char} : isGap c = true ↔ c = ' ' ∨ IsSeparator c := by
  simp [isGap, IsSeparator, or_assoc]

/-- A gap of blanks or of separators, as long as it can be, and the text behind it. -/
inductive Apart : Text → Text → Prop
  | blanks (n : Nat) {more : Text} (ends : more.head? ≠ some ' ') : Apart (List.replicate (n + 1) ' ') more
  | separators {c : Char} {gap more : Text} (each : ∀ d ∈ c :: gap, IsSeparator d)
      (ends : ∀ d ∈ more.head?, ¬IsSeparator d) : Apart (c :: gap) more

/-- A text is one word, or a word, a gap and another text. -/
theorem word_or_gap (t : Text) :
    (∀ c ∈ t, isGap c = false) ∨ ∃ word gap more, t = word ++ (gap ++ more) ∧
      (∀ c ∈ word, isGap c = false) ∧ Apart gap more := by
  have cut : t.takeWhile (fun c => !isGap c) ++ t.dropWhile (fun c => !isGap c) = t :=
    List.takeWhile_append_dropWhile
  have solid : ∀ c ∈ t.takeWhile (fun c => !isGap c), isGap c = false := fun c found => by
    simpa using List.mem_takeWhile_imp found
  cases behind : t.dropWhile (fun c => !isGap c) with
  | nil =>
    rw [behind, List.append_nil] at cut
    exact .inl (cut ▸ solid)
  | cons c r =>
    have stop : isGap c = true := by
      simpa using Text.stops_dropWhile (fun c => !isGap c) t c (behind ▸ rfl)
    -- a gap goes on while it is of one kind
    let same : Char → Bool := if c = ' ' then fun d => d == ' ' else fun d => d == '\u2028' || d == '\u2029'
    have first : same c = true := by
      obtain rfl | rfl | rfl := isGap_iff.1 stop <;> rfl
    refine .inr ⟨_, c :: r.takeWhile same, r.dropWhile same, ?_, solid, ?_⟩
    · rw [List.cons_append, List.takeWhile_append_dropWhile, ← behind, cut]
    · by_cases blank : c = ' '
      · subst blank
        have blanks : r.takeWhile same = List.replicate (r.takeWhile same).length ' ' :=
          List.eq_replicate_of_mem fun d found => by simpa [same] using List.mem_takeWhile_imp found
        rw [blanks, ← List.replicate_succ]
        refine .blanks _ fun more => ?_
        simpa [same] using Text.stops_dropWhile same r ' ' more
      · have separators (d : Char) : same d = true ↔ IsSeparator d := by simp [same, blank, IsSeparator]
        refine .separators (List.forall_mem_cons.2 ⟨(separators c).1 first, fun d found => ?_⟩)
          fun d more separates => ?_
        · exact (separators d).1 (List.mem_takeWhile_imp found)
        · simpa [(separators d).2 separates] using Text.stops_dropWhile same r d more

theorem Apart.isGap {gap more : Text} (apart : Apart gap more) : ∀ c ∈ gap, c = ' ' ∨ IsSeparator c := by
  cases apart with
  | blanks n => exact fun c found => .inl (List.eq_of_mem_replicate found)
  | separators each => exact fun c found => .inr (each c found)

theorem Apart.nonempty {gap more : Text} (apart : Apart gap more) : gap ≠ [] := by
  cases apart with
  | blanks n => exact nofun
  | separators => exact nofun

theorem escape_gap {gap : Text} (each : ∀ c ∈ gap, c = ' ' ∨ IsSeparator c) : gap.flatMap escape = gap := by
  induction gap with
  | nil => rfl
  | cons c gap ih =>
    have same : escape c = [c] := by
      obtain rfl | rfl | rfl := each c (List.mem_cons_self ..) <;> rfl
    rw [List.flatMap_cons, same, ih fun d found => each d (List.mem_cons_of_mem _ found)]
    rfl

theorem length_le_escaped (t : Text) : t.length ≤ (t.flatMap escape).length := by
  induction t with
  | nil => exact Nat.le_refl _
  | cons c t ih =>
    have nonempty : 0 < (escape c).length := by
      unfold escape
      repeat' split
      all_goals simp
    simp only [List.length_cons, List.flatMap_cons, List.length_append]
    omega

theorem atDocumentMarker_of_inside (inside : 0 < column) (rest : Text) :
    (⟨rest, line, column, index⟩ : Reader).atDocumentMarker = false := by
  simp [Reader.atDocumentMarker, Reader.atMarker, Nat.ne_of_gt inside]

theorem atDocumentMarker_eq_false {c : Char} (dash : c ≠ '-') (dot : c ≠ '.') (rest : Text) :
    (⟨c :: rest, line, column, index⟩ : Reader).atDocumentMarker = false := by
  simp [Reader.atDocumentMarker, Reader.atMarker, Reader.sees, Reader.peek?, dash, dot]

section
variable {word : Text} (carried : ∀ c ∈ word, Carried c) (solid : ' ' ∉ word)
include carried solid

/-- The last word of quoted text. -/
theorem quotedScalar_solid {rest : Text}
    (unmarked : (⟨word.flatMap escape ++ '"' :: rest, line, column, index⟩ : Reader).atDocumentMarker = false)
    (fuel : Nat) :
    quotedScalar false (fuel + 1) ⟨word.flatMap escape ++ '"' :: rest, line, column, index⟩ =
      some (word, ⟨rest, line, column + ((word.flatMap escape).length + 1),
        index + ((word.flatMap escape).length + 1)⟩) := by
  have read := quotedWord_solid line column index carried solid (.inr (.inr rfl)) rest
    ((word.flatMap escape ++ '"' :: rest).length + 1)
    (by have := length_le_escaped word; rw [List.length_append]; omega)
  simp only [quotedScalar, unmarked, read, Option.bind_some]
  simp [Reader.atEnd, Reader.sees, Reader.peek?, Reader.skip, Nat.add_assoc]

/-- A word and the gap behind it come before the rest of quoted text. -/
theorem quotedScalar_gap {c : Char} {gap rest : Text} (stops : c = ' ' ∨ IsSeparator c)
    (unmarked : (⟨word.flatMap escape ++ (c :: gap ++ rest), line, column, index⟩ : Reader).atDocumentMarker =
      false) {g : Gap} {next : Reader} (folded : g.fold = c :: gap)
    (read : Gap.read none ((c :: gap ++ rest).length + 1) ⟨[], false, [], []⟩
      ⟨c :: gap ++ rest, line, column + (word.flatMap escape).length,
        index + (word.flatMap escape).length⟩ = some (g, next)) (fuel : Nat) :
    quotedScalar false (fuel + 1) ⟨word.flatMap escape ++ (c :: gap ++ rest), line, column, index⟩ =
      (quotedScalar false fuel next).map fun (t, r) => (word ++ (c :: gap ++ t), r) := by
  have first := quotedWord_solid line column index carried solid (stops.imp_right .inl) (gap ++ rest)
    ((word.flatMap escape ++ c :: (gap ++ rest)).length + 1)
    (by have := length_le_escaped word; rw [List.length_append]; omega)
  have inside : c ≠ '"' := by
    obtain rfl | rfl | rfl := stops <;> decide
  simp only [List.cons_append] at first read unmarked ⊢
  simp only [quotedScalar, unmarked, first, Option.bind_some]
  rw [if_neg (by simp [Reader.atEnd]), if_neg (by simp [Reader.sees, Reader.peek?, inside]), read]
  simp [folded]

end

/-- Behind a gap kept text goes on where no marker can stand, and the gap is read as it is. -/
theorem Kept.exists_read {word gap more : Text} (kept : Kept (word ++ (gap ++ more))) (apart : Apart gap more)
    (rest : Text) :
    ∃ d r, more.flatMap escape ++ '"' :: rest = d :: r ∧ ∃ g line' column',
      Gap.read none ((gap ++ d :: r).length + 1) ⟨[], false, [], []⟩ ⟨gap ++ d :: r, line, column, index⟩ =
        some (g, ⟨d :: r, line', column', index + gap.length⟩) ∧
      g.fold = gap ∧
      (⟨d :: r, line', column', index + gap.length⟩ : Reader).atDocumentMarker = false ∧
      ((∀ c ∈ gap, ¬IsSeparator c) → line' = line) := by
  have behind : Kept more := kept.of_append.of_append
  cases apart with
  | blanks n ends =>
    have whole : ∀ c ∈ more.head?, ¬IsSeparator c := by
      intro c first separates
      obtain ⟨later, rfl⟩ := List.head?_eq_some_iff.1 first
      refine (kept.apart (word ++ List.replicate (n + 1) ' ') c later (by simp) separates).1 ?_
      simp [List.getLast?_append, List.getLast?_replicate]
    obtain ⟨d, r, ahead, visible, unbroken, -⟩ := visible_behind_gap behind ends whole rest
    have read := read_blanks line column index r visible unbroken [] (n + 1)
      ((List.replicate (n + 1) ' ' ++ d :: r).length + 1)
      (by rw [List.length_append, List.length_replicate]; omega)
    refine ⟨d, r, ahead, ⟨List.replicate (n + 1) ' ', false, [], []⟩, line, column + (n + 1), ?_, rfl,
      atDocumentMarker_of_inside _ _ _ (by omega) _, fun _ => rfl⟩
    rw [read, List.length_replicate]
    rfl
  | @separators c gap _ each ends =>
    obtain ⟨front, last, split⟩ : ∃ front last, c :: gap = front ++ [last] :=
      ⟨_, _, (List.dropLast_append_getLast (List.cons_ne_nil c gap)).symm⟩
    obtain ⟨-, unmarked⟩ := kept.apart (word ++ front) last more (by simp [split])
      (each last (by simp [split]))
    have solid : more.head? ≠ some ' ' := fun blank => (unmarked ' ' blank).1 rfl
    obtain ⟨d, r, ahead, visible, unbroken, head⟩ := visible_behind_gap behind solid ends rest
    obtain ⟨g, line', column', read, folded⟩ := exists_read_separators line column index r visible unbroken each
      ((c :: gap ++ d :: r).length + 1) (by rw [List.length_append]; omega)
    have other : d ≠ '-' ∧ d ≠ '.' := by
      obtain rfl | rfl | first := head
      · decide
      · decide
      · exact (unmarked d first).2
    exact ⟨d, r, ahead, g, line', column', read, folded, atDocumentMarker_eq_false _ _ _ other.1 other.2 r,
      fun none => absurd (each c (List.mem_cons_self ..)) (none c (List.mem_cons_self ..))⟩

/-- **Quoted text is read as it was**, if it holds nothing that YAML refuses or folds. Only a separator in it
ends a line. -/
theorem quotedScalar_escaped {t : Text} (kept : Kept t) (rest : Text)
    (unmarked : (⟨t.flatMap escape ++ '"' :: rest, line, column, index⟩ : Reader).atDocumentMarker = false)
    (fuel : Nat) (enough : t.length < fuel) :
    ∃ line' column', quotedScalar false fuel ⟨t.flatMap escape ++ '"' :: rest, line, column, index⟩ =
        some (t, ⟨rest, line', column', index + ((t.flatMap escape).length + 1)⟩) ∧
      ((∀ c ∈ t, ¬IsSeparator c) → line' = line) := by
  induction size : t.length using Nat.strong_induction_on generalizing t fuel line column index with
  | _ n ih =>
    subst size
    obtain ⟨fuel, rfl⟩ := Nat.exists_eq_add_one_of_ne_zero (Nat.ne_of_gt (Nat.zero_lt_of_lt enough))
    have word_carried {word : Text} (part : ∀ c ∈ word, c ∈ t) (solid : ∀ c ∈ word, isGap c = false) :
        (∀ c ∈ word, Carried c) ∧ ' ' ∉ word := by
      refine ⟨fun c found => (kept.each c (part c found)).resolve_right fun separates => ?_, fun found => ?_⟩
      · exact absurd (isGap_iff.2 (.inr separates)) (by simp [solid c found])
      · exact absurd (solid ' ' found) (by decide)
    -- each round of the scanner takes a word with the gap behind it
    obtain solid | ⟨word, gap, more, rfl, solid, apart⟩ := word_or_gap t
    · obtain ⟨carried, solid⟩ := word_carried (fun _ => id) solid
      exact ⟨line, _, quotedScalar_solid line column index carried solid unmarked fuel, fun _ => rfl⟩
    · obtain ⟨carried, solid⟩ := word_carried (fun c found => List.mem_append_left _ found) solid
      obtain ⟨d, r, ahead, g, line', column', read, folded, unmarked', stays⟩ := kept.exists_read line
        (column + (word.flatMap escape).length) (index + (word.flatMap escape).length) apart rest
      have sorted := apart.isGap
      simp only [List.flatMap_append, escape_gap sorted, List.append_assoc, ahead] at unmarked ⊢
      obtain ⟨c, gap, rfl⟩ := List.exists_cons_of_ne_nil apart.nonempty
      simp only [List.length_append, List.length_cons] at enough
      obtain ⟨line'', column'', others, stays'⟩ := ih more.length (by simp; omega) line' column'
        (index + (word.flatMap escape).length + (c :: gap).length) kept.of_append.of_append
        (by rwa [ahead]) fuel (by omega) rfl
      rw [quotedScalar_gap _ _ _ carried solid (sorted c (List.mem_cons_self ..)) unmarked folded read, ← ahead,
        others]
      refine ⟨line'', column'', ?_, fun none => ?_⟩
      · simp only [Option.map_some, List.length_append, Nat.add_assoc]
      · rw [stays' fun e found => none e (by simp [found]), stays fun e found => none e ?_]
        exact List.mem_append_right _ (List.mem_append_left _ found)

/-! ## Words -/

/-- What JSON puts between signs. -/
def IsLayout (t : Text) : Prop := ∀ c ∈ t, c = ' ' ∨ c = '\n'

/-- A sign that ends a value inside of brackets. -/
def Ends (c : Char) : Prop := c = ',' ∨ c = ']' ∨ c = '\x7d'

theorem ne_of_isAlphanum {c d : Char} (letter : c.isAlphanum = true) (sign : d.isAlphanum = false) : c ≠ d := by
  rintro rfl
  cases letter.symm.trans sign

/-- Letters and digits go on with a word, and everything that ends a value ends it. -/
theorem plainWord_solid {word gap : Text} {c : Char} (letters : ∀ d ∈ word, d.isAlphanum = true)
    (layout : IsLayout gap) (ends : Ends c) (rest : Text) (fuel : Nat) (enough : word.length < fuel) :
    plainWord true fuel ⟨word ++ (gap ++ c :: rest), line, column, index⟩ =
      some (word, ⟨gap ++ c :: rest, line, column + word.length, index + word.length⟩) := by
  induction word generalizing fuel column index with
  | nil =>
    obtain ⟨fuel, rfl⟩ := Nat.exists_eq_add_one_of_ne_zero (Nat.ne_of_gt enough)
    cases gap with
    | nil => obtain rfl | rfl | rfl := ends <;> rfl
    | cons d gap => obtain rfl | rfl := layout d (List.mem_cons_self ..) <;> rfl
  | cons d word ih =>
    obtain ⟨fuel, rfl⟩ := Nat.exists_eq_add_one_of_ne_zero (Nat.ne_of_gt (Nat.zero_lt_of_lt enough))
    have other (e : Char) := ne_of_isAlphanum (d := e) (letters d (List.mem_cons_self ..))
    have next := ih (column + 1) (index + 1)
      (fun e found => letters e (List.mem_cons_of_mem _ found)) fuel (by simpa using enough)
    have blank : (isSpace d || isBreak d) = false := by
      simp [isSpace, isBreak, other]
    simp [plainWord, Reader.peek?, blank, brokenColon, endsPlain, Reader.sees, Reader.meets, other,
      Reader.skip, next]
    omega

/-- Layout is read up to what follows it. -/
theorem read_layout {gap : Text} {c : Char} (layout : IsLayout gap) (ends : Ends c) (rest : Text)
    (margin : Option Nat) (g : Gap) (fuel : Nat) (enough : gap.length < fuel) :
    ∃ g' line' column' index', Gap.read margin fuel g ⟨gap ++ c :: rest, line, column, index⟩ =
      some (g', ⟨c :: rest, line', column', index'⟩) := by
  induction gap generalizing fuel g line column index with
  | nil =>
    obtain ⟨fuel, rfl⟩ := Nat.exists_eq_add_one_of_ne_zero (Nat.ne_of_gt enough)
    obtain rfl | rfl | rfl := ends <;> exact ⟨g, line, column, index, rfl⟩
  | cons d gap ih =>
    obtain ⟨fuel, rfl⟩ := Nat.exists_eq_add_one_of_ne_zero (Nat.ne_of_gt (Nat.zero_lt_of_lt enough))
    have next (line column index : Nat) (g : Gap) := ih line column index
      (fun e found => layout e (List.mem_cons_of_mem _ found)) g fuel (by simpa using enough)
    obtain rfl | rfl := layout d (List.mem_cons_self ..)
    · cases broken : g.broken <;> simpa [Gap.read, Reader.peek?, isSpace, broken, Reader.skip] using next ..
    · cases broken : g.broken <;>
        simpa [Gap.read, Reader.peek?, isSpace, isBreak, broken, Reader.skipLine] using next ..

theorem plainScalar_of_ends {c : Char} (ends : Ends c) (rest : Text) (margin fuel : Nat) (g : Gap) :
    plainScalar true margin (fuel + 1) g ⟨c :: rest, line, column, index⟩ =
      some ([], g.broken, ⟨c :: rest, line, column, index⟩) := by
  have read : plainWord true ((c :: rest).length + 1) ⟨c :: rest, line, column, index⟩ =
      some ([], ⟨c :: rest, line, column, index⟩) := by
    obtain rfl | rfl | rfl := ends <;> rfl
  rw [plainScalar, read]
  obtain rfl | rfl | rfl := ends <;>
    simp [atDocumentMarker_eq_false, Reader.sees, Reader.meets, Reader.peek?, isSpace, isBreak]

/-- A word between brackets is read with the layout behind it. -/
theorem plainScalar_word {word gap : Text} {c : Char} (letters : ∀ d ∈ word, d.isAlphanum = true)
    (nonempty : word ≠ []) (layout : IsLayout gap) (ends : Ends c) (rest : Text) (margin fuel : Nat)
    (enough : 1 < fuel) :
    ∃ broken line' column' index',
      plainScalar true margin fuel .none ⟨word ++ (gap ++ c :: rest), line, column, index⟩ =
        some (word, broken, ⟨c :: rest, line', column', index'⟩) := by
  obtain ⟨fuel, rfl⟩ : ∃ n, fuel = n + 2 := ⟨fuel - 2, by omega⟩
  have read := plainWord_solid line column index letters layout ends rest
    ((word ++ (gap ++ c :: rest)).length + 1) (Nat.lt_succ_of_le (List.prefix_append ..).length_le)
  have starts : (⟨word ++ (gap ++ c :: rest), line, column, index⟩ : Reader).atDocumentMarker = false ∧
      (⟨word ++ (gap ++ c :: rest), line, column, index⟩ : Reader).sees 0 '#' = false := by
    obtain ⟨d, word, rfl⟩ := List.exists_cons_of_ne_nil nonempty
    have other (e : Char) := ne_of_isAlphanum (d := e) (letters d (List.mem_cons_self ..))
    exact ⟨atDocumentMarker_eq_false _ _ _ (other _ rfl) (other _ rfl) _,
      by simp [Reader.sees, Reader.peek?, other]⟩
  have stays : word.isEmpty = false := by simpa using nonempty
  rw [plainScalar]
  simp only [starts, read, Option.bind_some, stays, Bool.or_self, Bool.false_eq_true, if_false]
  cases gap with
  | nil =>
    have done : (⟨c :: rest, line, column + word.length, index + word.length⟩ : Reader).meets 0
        (fun c => isSpace c || isBreak c) = false := by
      obtain rfl | rfl | rfl := ends <;> rfl
    simp [done, Gap.fold, Gap.none]
  | cons d gap =>
    have more : (⟨d :: gap ++ c :: rest, line, column + word.length, index + word.length⟩ : Reader).meets 0
        (fun c => isSpace c || isBreak c) = true := by
      obtain rfl | rfl := layout d (List.mem_cons_self ..) <;> rfl
    obtain ⟨g, line', column', index', next⟩ := read_layout line (column + word.length)
      (index + word.length) layout ends rest (some margin) .none ((d :: gap ++ c :: rest).length + 1)
      (Nat.lt_succ_of_le (List.prefix_append ..).length_le)
    refine ⟨g.broken, line', column', index', ?_⟩
    rw [more, if_neg (by decide), next]
    simp [plainScalar_of_ends _ _ _ ends, Gap.fold, Gap.none]

end

end ClassNav.Yaml
