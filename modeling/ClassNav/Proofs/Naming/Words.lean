import ClassNav.Proofs.Naming.Kinds

/-!
Words end at every boundary, so the words of a text that a boundary cuts in two are the words of its
halves.
-/

namespace ClassNav.Naming

open Character

/-- The text is empty or begins with a character that belongs to no word. -/
def OpensWithBoundary (t : Text) : Prop := ∀ c ∈ t.head?, kind c = .boundary

theorem isAlpha_of_toLower {c : Char} (h : c.toLower.isAlpha = true) : c.isAlpha = true := by
  by_cases upper : c.isUpper = true
  · exact isAlpha_iff.2 (.inl upper)
  · have same : c.toLower = c := dif_neg (mt isUpper_iff.2 upper)
    rwa [same] at h

theorem isAlpha_ordinalLetters (last : Char) : ∀ c ∈ ordinalLetters last, c.isAlpha = true := by
  unfold ordinalLetters
  rw [← List.all_eq_true]
  split
  · decide
  split
  · decide
  split <;> decide

/-- Only letters spell the ending of an ordinal. -/
theorem isAlpha_of_lowerAscii {t : Text} {last : Char}
    (h : Text.lowerAscii t = ordinalLetters last) : ∀ c ∈ t, c.isAlpha = true := by
  intro c found
  have lower : c.toLower ∈ ordinalLetters last := h ▸ List.mem_map_of_mem found
  exact isAlpha_of_toLower (isAlpha_ordinalLetters last _ lower)

theorem ordinalSuffix_prefix (last : Char) (t : Text) : ordinalSuffix last t <+: t := by
  unfold ordinalSuffix
  split
  next a b rest =>
    dsimp only
    split
    · exact ⟨rest, rfl⟩
    · exact List.nil_prefix
  next => exact List.nil_prefix

/-- A word is cut from the front of the text. -/
theorem firstWord_prefix (t : Text) : firstWord t <+: t := by
  cases t with
  | nil => exact List.nil_prefix
  | cons c r =>
    have whole (k : Kind) := run_append_afterRun k (c :: r)
    simp only [firstWord]
    cases kind c with
    | boundary => exact List.nil_prefix
    | digit =>
      have suffix := ordinalSuffix_prefix ((run .digit (c :: r)).getLastD c) (afterRun .digit (c :: r))
      have kept := (List.prefix_append_right_inj (run .digit (c :: r))).2 suffix
      rwa [whole .digit] at kept
    | lower => exact List.takeWhile_prefix _
    | upper =>
      dsimp only
      split
      · exact List.takeWhile_prefix _
      split
      · have small : run .lower (afterRun .upper (c :: r)) <+: afterRun .upper (c :: r) :=
          List.takeWhile_prefix _
        have kept := (List.prefix_append_right_inj (run .upper (c :: r))).2 small
        rwa [whole .upper] at kept
      · exact (List.dropLast_prefix _).trans (List.takeWhile_prefix _)

section
variable {b : Text} (opens : OpensWithBoundary b)
include opens

theorem run_append {k : Kind} (inner : k ≠ .boundary) (a : Text) : run k (a ++ b) = run k a := by
  induction a with
  | nil =>
    cases b with
    | nil => rfl
    | cons c r => simp [run, opens c rfl, inner.symm]
  | cons c a ih =>
    by_cases same : kind c = k
    · simpa [run, same] using ih
    · simp [run, same]

theorem afterRun_append {k : Kind} (inner : k ≠ .boundary) (a : Text) :
    afterRun k (a ++ b) = afterRun k a ++ b := by
  induction a with
  | nil =>
    cases b with
    | nil => rfl
    | cons c r => simp [afterRun, opens c rfl, inner.symm]
  | cons c a ih =>
    by_cases same : kind c = k
    · simpa [afterRun, same] using ih
    · simp [afterRun, same]

theorem endsOrdinal_append (capital : Bool) (a : Text) :
    endsOrdinal capital (a ++ b) = endsOrdinal capital a := by
  cases a with
  | nil =>
    cases b with
    | nil => rfl
    | cons c r => simp [endsOrdinal, opens c rfl]
  | cons c a => rfl

/-- An ordinal's ending lies before the boundary or nowhere. -/
theorem ordinalSuffix_append (last : Char) (a : Text) :
    ordinalSuffix last (a ++ b) = ordinalSuffix last a := by
  cases b with
  | nil => simp
  | cons c r =>
    have boundary := opens c rfl
    have spoiled (x y : Char) (at_boundary : c = x ∨ c = y) :
        Text.lowerAscii [x, y] ≠ ordinalLetters last := by
      intro spelled
      have letters := isAlpha_of_lowerAscii spelled
      have letter : c.isAlpha = true := letters c (by simpa using at_boundary)
      exact kind_of_isAlphanum (by simp [Char.isAlphanum, letter]) boundary
    cases a with
    | nil =>
      cases r with
      | nil => rfl
      | cons d r => simp [ordinalSuffix, spoiled c d (.inl rfl)]
    | cons x a =>
      cases a with
      | nil => simp [ordinalSuffix, spoiled x c (.inr rfl)]
      | cons y rest => simp only [List.cons_append, ordinalSuffix, endsOrdinal_append opens]

theorem firstWord_append (c : Char) (a : Text) (inner : kind c ≠ .boundary) :
    firstWord (c :: a ++ b) = firstWord (c :: a) := by
  simp only [List.cons_append, firstWord]
  simp only [← List.cons_append]
  cases same : kind c with
  | boundary => exact absurd same inner
  | digit =>
    simp only [run_append opens (k := .digit) (by decide), afterRun_append opens (k := .digit) (by decide),
      ordinalSuffix_append opens]
  | lower => exact run_append opens (by decide) _
  | upper =>
    simp only [run_append opens (k := .upper) (by decide), afterRun_append opens (k := .upper) (by decide),
      run_append opens (k := .lower) (by decide)]

/-- **A boundary between two texts keeps their words apart.** -/
theorem words_append (a : Text) : words (a ++ b) = words a ++ words b := by
  fun_induction words a with
  | case1 => rfl
  | case2 c r boundary ih => simp [words, boundary, ih]
  | case3 c r inner ih =>
    have begins := firstWord_prefix (c :: r)
    have short := begins.length_le
    have rest : (r ++ b).drop ((firstWord (c :: r)).length - 1) =
        r.drop ((firstWord (c :: r)).length - 1) ++ b := by
      apply List.drop_append_of_le_length
      simp only [List.length_cons] at short
      omega
    have first := firstWord_append opens c r inner
    simp only [List.cons_append] at first ⊢
    rw [words, if_neg inner, first, rest, ih]

end

/-- Boundaries in front of a text add no word. -/
theorem words_boundaries_append {s : Text} (boundaries : ∀ c ∈ s, kind c = .boundary) (t : Text) :
    words (s ++ t) = words t := by
  induction s with
  | nil => rfl
  | cons c s ih =>
    have first := boundaries c (List.mem_cons_self ..)
    rw [List.cons_append, words, if_pos first]
    exact ih fun d found => boundaries d (List.mem_cons_of_mem _ found)

end ClassNav.Naming
