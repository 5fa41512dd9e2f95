import ClassNav.Naming.Camel
import ClassNav.Proofs.Naming.Words

/-!
Camel case of a text that boundaries cut into parts. The first part with a word keeps its own camel
case, a later one has its initial raised.
-/

namespace ClassNav.Naming

open Character

/-- A character that cuts words apart: a boundary that is not passed over in silence. -/
def isCut (c : Char) : Bool := decide (kind c = .boundary) && !isSilent c

/-- A text without any word: boundaries, and marks that leave no trace. -/
def Wordless (t : Text) : Prop := ∀ c ∈ t, kind c = .boundary ∨ isSilent c = true

theorem simplify_append (a b : Text) : simplify (a ++ b) = simplify a ++ simplify b := by
  simp [simplify]

theorem simplify_cons (c : Char) (r : Text) :
    simplify (c :: r) = (if isSilent c then [] else basicSpelling c) ++ simplify r := by
  by_cases silent : isSilent c = true <;> simp [simplify, silent]

/-- No boundary is a letter of Latin-1, so none is respelled. -/
theorem basicSpelling_of_boundary {c : Char} (boundary : kind c = .boundary) :
    basicSpelling c = [c] := by
  by_cases outside : c.toNat < 0xC0 ∨ 0xFF < c.toNat
  · rw [basicSpelling, if_pos outside]
  · obtain (latin | rfl | rfl | mark) | ⟨ascii, -⟩ := kind_eq_boundary_iff.1 boundary
    · omega
    · decide
    · decide
    · omega
    · omega

theorem simplify_of_wordless {t : Text} (wordless : Wordless t) :
    ∀ c ∈ simplify t, kind c = .boundary := by
  induction t with
  | nil => simp [simplify]
  | cons c r ih =>
    have rest := ih fun d found => wordless d (List.mem_cons_of_mem _ found)
    intro d found
    rw [simplify_cons, List.mem_append] at found
    obtain found | found := found
    · split at found
      · cases found
      next heard =>
        have boundary := (wordless c (List.mem_cons_self ..)).resolve_right heard
        rw [basicSpelling_of_boundary boundary, List.mem_singleton] at found
        exact found ▸ boundary
    · exact rest d found

theorem opensWithBoundary_simplify {t : Text} (cut : ∀ c ∈ t.head?, isCut c = true) :
    OpensWithBoundary (simplify t) := by
  cases t with
  | nil => simp [OpensWithBoundary, simplify]
  | cons c r =>
    have first := cut c rfl
    simp only [isCut, Bool.and_eq_true, decide_eq_true_eq, Bool.not_eq_true'] at first
    rw [simplify_cons, first.2, basicSpelling_of_boundary first.1]
    simpa [OpensWithBoundary] using first.1

/-- The words of a text that a cut divides. -/
theorem words_simplify_append (a : Text) {b : Text} (cut : ∀ c ∈ b.head?, isCut c = true) :
    words (simplify (a ++ b)) = words (simplify a) ++ words (simplify b) := by
  rw [simplify_append, words_append (opensWithBoundary_simplify cut)]

theorem words_simplify_wordless_append {s : Text} (wordless : Wordless s) (t : Text) :
    words (simplify (s ++ t)) = words (simplify t) := by
  rw [simplify_append, words_boundaries_append (simplify_of_wordless wordless)]

/-- The form that a text has behind another word: every initial raised, the first too. -/
def raisedCase (t : Text) : Text := (words (simplify t)).flatMap Text.capitalize

theorem joinWords_append {first : List Text} (some_word : first ≠ []) (rest : List Text) :
    joinWords (first ++ rest) = joinWords first ++ rest.flatMap Text.capitalize := by
  obtain ⟨word, others, rfl⟩ := List.exists_cons_of_ne_nil some_word
  simp [joinWords]

/-- Camel case of what stands before a cut is the beginning of the whole text's. -/
theorem camelCase_prefix (a : Text) {b : Text} (cut : ∀ c ∈ b.head?, isCut c = true) :
    camelCase a <+: camelCase (a ++ b) := by
  rw [camelCase, camelCase, words_simplify_append a cut]
  by_cases empty : words (simplify a) = []
  · rw [empty]
    exact List.nil_prefix
  · rw [joinWords_append empty]
    exact List.prefix_append _ _

/-- Behind a word and a cut, what stands up to the next cut shows in its raised form. -/
theorem raisedCase_infix {a b c : Text} (worded : words (simplify a) ≠ [])
    (first : ∀ d ∈ (b ++ c).head?, isCut d = true) (next : ∀ d ∈ c.head?, isCut d = true) :
    raisedCase b <:+: camelCase (a ++ (b ++ c)) := by
  rw [camelCase, words_simplify_append a first, joinWords_append worded,
    words_simplify_append b next, List.flatMap_append]
  exact ⟨joinWords (words (simplify a)), (words (simplify c)).flatMap Text.capitalize, by
    simp [raisedCase]⟩

theorem toUpper_of_isDigit {c : Char} (digit : c.isDigit = true) : toUpper c = [c] := by
  have range := toNat_of_isDigit digit
  have kept : c.toUpper = c := by
    apply dif_neg
    simp only [UInt32.le_iff_toNat_le, Char.toNat_val]
    have first : 'a'.toNat = 97 := rfl
    omega
  rw [toUpper_of_ascii (by omega), kept]

theorem capitalize_eq_lowercase {w : Text} (initial : ∀ c ∈ (Text.lowercase w).head?, c.isDigit) :
    Text.capitalize w = Text.lowercase w := by
  unfold Text.capitalize
  split
  next none_left => exact none_left.symm
  next c r lower =>
    have digit : c.isDigit = true := initial c (by rw [lower]; rfl)
    rw [toUpper_of_isDigit digit, lower]
    rfl

/-- Raising changes nothing where a digit opens the camel case. -/
theorem raisedCase_eq_camelCase {t : Text} (initial : ∀ c ∈ (camelCase t).head?, c.isDigit) :
    raisedCase t = camelCase t := by
  rw [raisedCase, camelCase] at *
  cases split : words (simplify t) with
  | nil => rfl
  | cons word others =>
    rw [split] at initial
    have same : Text.capitalize word = Text.lowercase word := by
      apply capitalize_eq_lowercase
      intro c found
      apply initial
      simp only [joinWords, List.head?_append]
      simp [Option.mem_def.1 found]
    simp [joinWords, same]

end ClassNav.Naming
