import ClassNav.Document.Imports
import ClassNav.Proofs.Text.LineEnds

/-!
Imports in a text with both kinds of line ends. No reader stops at a carriage return in another way than
at a line feed, so the same imports are read, and what follows each of them is converted.
-/

namespace ClassNav.Import

open Character Text

/-- Two readers one after the other, each of which gives what follows it converted. -/
theorem bind_withReturns {α : Type} {read : Text → Option α} {convert : α → α} {rest rest' : Option Text}
    (first : rest' = rest.map withReturns) (next : ∀ t, read (withReturns t) = (read t).map convert) :
    rest'.bind read = (rest.bind read).map convert := by
  subst first
  cases rest with
  | none => rfl
  | some t => exact next t

theorem isBlank_lineEnds : isBlank '\r' = true ∧ isBlank '\n' = true := by decide

theorem skipBlanks?_withReturns (t : Text) :
    skipBlanks? (withReturns t) = (skipBlanks? t).map withReturns := by
  have drops := dropWhile_withReturns (p := isBlank) (by decide) t
  cases t using newlineInduction with
  | nil => rfl
  | newline r => simpa [skipBlanks?, isBlank_lineEnds] using drops
  | other c r plain =>
    rw [withReturns_cons_of_ne plain] at drops ⊢
    simp only [skipBlanks?, drops]
    split <;> rfl

theorem stripPrefix?_getD_withReturns {lead : Text} (inline : IsInline lead) (t : Text) :
    (stripPrefix? lead (withReturns t)).getD (withReturns t) =
      withReturns ((stripPrefix? lead t).getD t) := by
  rw [stripPrefix?_withReturns inline]
  cases stripPrefix? lead t <;> rfl

theorem skipKeyword?_withReturns (t : Text) :
    skipKeyword? (withReturns t) = (skipKeyword? t).map withReturns := by
  unfold skipKeyword?
  rw [stripPrefix?_withReturns (by decide)]
  cases stripPrefix? "from" t with
  | some rest => exact skipBlanks?_withReturns rest
  | none =>
    refine bind_withReturns (stripPrefix?_withReturns (by decide) t) fun a => ?_
    refine bind_withReturns (skipBlanks?_withReturns a) fun b => ?_
    refine bind_withReturns (stripPrefix?_withReturns (by decide) b) fun c => ?_
    rw [stripPrefix?_getD_withReturns (by decide), stripPrefix?_withReturns (by decide)]

/-- What follows one character of a class. -/
def skip? (p : Char → Bool) : Text → Option Text
  | [] => none
  | c :: r => if p c then some r else none

theorem skip?_withReturns {p : Char → Bool} (noNewline : p '\n' = false) (noReturn : p '\r' = false)
    (t : Text) : skip? p (withReturns t) = (skip? p t).map withReturns := by
  cases t using newlineInduction with
  | nil => rfl
  | newline r => simp [skip?, noNewline, noReturn]
  | other c r plain =>
    rw [withReturns_cons_of_ne plain, skip?, skip?]
    split <;> rfl

theorem closing?_eq (t : Text) :
    closing? t = (skip? (· == 's') t).bind fun r => (skip? (· == 's') r).bind (skip? isQuote) := by
  obtain _ | ⟨a, _ | ⟨b, _ | ⟨q, rest⟩⟩⟩ := t
  · rfl
  · by_cases first : a = 's' <;> simp [closing?, skip?, first]
  · by_cases first : a = 's' <;> by_cases second : b = 's' <;> simp [closing?, skip?, first, second]
  · by_cases first : a = 's' <;> by_cases second : b = 's' <;> simp [closing?, skip?, first, second]

theorem closing?_withReturns (t : Text) :
    closing? (withReturns t) = (closing? t).map withReturns := by
  rw [closing?_eq, closing?_eq]
  refine bind_withReturns (skip?_withReturns (by decide) (by decide) t) fun a => ?_
  refine bind_withReturns (skip?_withReturns (by decide) (by decide) a) fun b => ?_
  exact skip?_withReturns (by decide) (by decide) b

/-- What a reader gives with the text that follows, the text converted. -/
abbrev Converted {α : Type} : α × Text → α × Text := Prod.map id withReturns

theorem extension?_of_blank {dot a : Char} (blank : isBlank a = true) (r : Text) :
    extension? (dot :: a :: r) = none := by
  simp [extension?, blank]

theorem extension?_withReturns (t : Text) :
    extension? (withReturns t) = (extension? t).map Converted := by
  cases t using newlineInduction with
  | nil => rfl
  | newline r =>
    rw [withReturns_newline, extension?_of_blank isBlank_lineEnds.2]
    cases r <;> simp [extension?]
  | other dot r plain =>
    rw [withReturns_cons_of_ne plain]
    cases r using newlineInduction with
    | nil => rfl
    | newline r =>
      rw [withReturns_newline, extension?_of_blank isBlank_lineEnds.1,
        extension?_of_blank isBlank_lineEnds.2]
      rfl
    | other a r plain =>
      rw [withReturns_cons_of_ne plain]
      simp only [extension?, closing?_withReturns]
      split
      next =>
        cases closing? r with
        | some after => rfl
        | none =>
          cases r using newlineInduction with
          | nil => rfl
          | newline r => rfl
          | other b r plain =>
            rw [withReturns_cons_of_ne plain]
            simp only [Option.map_none, closing?_withReturns]
            split
            · cases closing? r <;> rfl
            · rfl
      next => rfl

theorem lastExtension?_newline (r : Text) : lastExtension? ('\n' :: r) = none := by
  simp [lastExtension?]

theorem lastExtension?_withReturns (t : Text) :
    lastExtension? (withReturns t) = (lastExtension? t).map Converted := by
  induction t using newlineInduction with
  | nil => rfl
  | newline r =>
    rw [withReturns_newline, lastExtension?_newline, lastExtension?, if_neg (by decide),
      lastExtension?_newline]
    simp [extension?]
  | other c r plain ih =>
    have here := extension?_withReturns (c :: r)
    rw [withReturns_cons_of_ne plain] at here ⊢
    simp only [lastExtension?, if_neg plain, ih, here]
    cases lastExtension? r <;> rfl

theorem stylesheetName?_withReturns (t : Text) :
    stylesheetName? (withReturns t) = (stylesheetName? t).map Converted := by
  cases t using newlineInduction with
  | nil => rfl
  | newline r => simp [stylesheetName?, lastExtension?_newline]
  | other c r plain =>
    rw [withReturns_cons_of_ne plain]
    simp only [stylesheetName?, if_neg plain, lastExtension?_withReturns]
    cases lastExtension? r <;> rfl

theorem afterKey?_withReturns (t : Text) :
    afterKey? (withReturns t) = (afterKey? t).map Converted := by
  unfold afterKey?
  refine bind_withReturns (skipBlanks?_withReturns t) fun a => ?_
  refine bind_withReturns (skipKeyword?_withReturns a) fun b => ?_
  cases b using newlineInduction with
  | nil => rfl
  | newline r => rfl
  | other q quoted plain =>
    rw [withReturns_cons_of_ne plain]
    simp only [stylesheetName?_withReturns]
    split
    · cases stylesheetName? quoted with
      | none => rfl
      | some found => simp [stripPrefix?_getD_withReturns (show IsInline [')'] by decide)]
    · rfl

/-- Blanks before a keyword do not count, a carriage return among them. -/
theorem afterKey?_return (t : Text) : afterKey? ('\r' :: '\n' :: t) = afterKey? ('\n' :: t) := by
  simp [afterKey?, skipBlanks?, isBlank_lineEnds]

section
variable {key : Text} (inline : IsInline key)
include inline

theorem stripPrefix?_afterKey?_return (t : Text) :
    (stripPrefix? key ('\r' :: '\n' :: t)).bind afterKey? =
      (stripPrefix? key ('\n' :: t)).bind afterKey? := by
  cases key with
  | nil => exact afterKey?_return t
  | cons c key =>
    obtain ⟨⟨noNewline, noReturn⟩, -⟩ := isInline_cons.1 inline
    simp [stripPrefix?, List.isPrefixOf?, noNewline, noReturn]

/-- The same import is found, though a key that is empty is tried at the carriage returns too. -/
theorem specifierOf?_withReturns (t : Text) : specifierOf? key (withReturns t) = specifierOf? key t := by
  have here (t : Text) : (stripPrefix? key (withReturns t)).bind afterKey? =
      ((stripPrefix? key t).bind afterKey?).map Converted :=
    bind_withReturns (stripPrefix?_withReturns inline t) afterKey?_withReturns
  induction t using newlineInduction with
  | nil => rfl
  | newline r ih =>
    -- The key is tried before both characters of the line end, with one outcome.
    have found := here ('\n' :: r)
    have again := stripPrefix?_afterKey?_return inline (withReturns r)
    rw [withReturns_newline] at found ⊢
    rw [specifierOf?, specifierOf?, ← again, found, ih]
    conv_rhs => rw [specifierOf?]
    cases (stripPrefix? key ('\n' :: r)).bind afterKey? <;> rfl
  | other c r plain ih =>
    have found := here (c :: r)
    rw [withReturns_cons_of_ne plain] at found ⊢
    rw [specifierOf?, found, specifierOf?, ih]
    cases (stripPrefix? key (c :: r)).bind afterKey? <;> rfl

end

theorem here?_withReturns (t : Text) : here? (withReturns t) = (here? t).map Converted := by
  have key := takeWhile_withReturns (p := fun c => !isBlank c) (by decide) (by decide) t
  have rest := dropWhile_withReturns (p := fun c => !isBlank c) (by decide) t
  simp only [here?, key, rest, afterKey?_withReturns]
  split
  · rfl
  · cases afterKey? (t.dropWhile fun c => !isBlank c) <;> rfl

theorem here?_of_blank {c : Char} (blank : isBlank c = true) (r : Text) : here? (c :: r) = none := by
  simp [here?, blank]

theorem first?_withReturns (t : Text) : first? (withReturns t) = (first? t).map Converted := by
  induction t using newlineInduction with
  | nil => rfl
  | newline r ih =>
    simp only [withReturns_newline, first?, here?_of_blank isBlank_lineEnds.1,
      here?_of_blank isBlank_lineEnds.2, ih]
  | other c r plain ih =>
    have here := here?_withReturns (c :: r)
    rw [withReturns_cons_of_ne plain] at here ⊢
    rw [first?, first?, here, ih]
    cases here? (c :: r) <;> rfl

theorem anyKey_withReturns (t : Text) : anyKey (withReturns t) = anyKey t := by
  fun_induction anyKey t with
  | case1 t absent =>
    rw [anyKey]
    split
    next => rfl
    next found => simp [first?_withReturns, absent] at found
  | case2 t i rest found ih =>
    rw [anyKey]
    split
    next absent => simp [first?_withReturns, found] at absent
    next j after found' =>
      obtain ⟨rfl, rfl⟩ : i = j ∧ withReturns rest = after := by
        simpa [first?_withReturns, found] using found'
      rw [ih]

theorem all_withReturns (t : Text) : all (withReturns t) = all t := by
  rw [all, all, anyKey_withReturns]

end ClassNav.Import
