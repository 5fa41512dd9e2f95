import ClassNav.Proofs.Text.Inert
import ClassNav.Proofs.Text.Occurrence
import ClassNav.Terminal.Style
import Mathlib.Data.Option.Basic

/-!
Color put into text and taken out again. Whatever is styled, from parts that may be styled themselves, comes
to the plain text once the sequences that select colors and weights are erased.
-/

namespace ClassNav.Terminal

open Text

/-- What follows the numbers of a sequence and the letter that ends it. -/
def afterNumbers? : Text → Option Text
  | [] => none
  | c :: r => if c = 'm' then some r else if c.isDigit || c == ';' then afterNumbers? r else none

/-- What follows a sequence that selects how text is rendered. -/
def afterSequence? (t : Text) : Option Text := (stripPrefix? ['\x1b', '['] t).bind afterNumbers?

theorem afterNumbers?_length {t r : Text} (h : afterNumbers? t = some r) : r.length < t.length := by
  fun_induction afterNumbers? t with
  | case1 => cases h
  | case2 t =>
    obtain rfl := Option.some.inj h
    exact Nat.lt_succ_self _
  | case3 c t _ _ ih => exact Nat.lt_succ_of_lt (ih h)
  | case4 => cases h

theorem afterSequence?_length {t r : Text} (h : afterSequence? t = some r) : r.length < t.length := by
  obtain ⟨rest, begins, ends⟩ := Option.bind_eq_some_iff.1 h
  have shorter := afterNumbers?_length ends
  rw [stripPrefix?_eq_some_iff.1 begins, List.length_append]
  omega

/-- The text without the sequences that select how it is rendered. -/
def erase : Text → Text
  | [] => []
  | c :: r =>
    match _found : afterSequence? (c :: r) with
    | some rest => erase rest
    | none => c :: erase r
termination_by t => t.length
decreasing_by
  · exact afterSequence?_length _found
  · exact Nat.lt_succ_self _

theorem afterNumbers?_append {t r : Text} (h : afterNumbers? t = some r) (more : Text) :
    afterNumbers? (t ++ more) = some (r ++ more) := by
  fun_induction afterNumbers? t with
  | case1 => cases h
  | case2 t =>
    obtain rfl := Option.some.inj h
    simp [afterNumbers?]
  | case3 c t other number ih => simpa [afterNumbers?, other, number] using ih h
  | case4 => cases h

theorem afterSequence?_append {t r : Text} (h : afterSequence? t = some r) (more : Text) :
    afterSequence? (t ++ more) = some (r ++ more) := by
  obtain ⟨rest, begins, ends⟩ := Option.bind_eq_some_iff.1 h
  have begins' : stripPrefix? ['\x1b', '['] (t ++ more) = some (rest ++ more) := by
    rw [stripPrefix?_eq_some_iff, stripPrefix?_eq_some_iff.1 begins, List.append_assoc]
  rw [afterSequence?, begins', Option.bind_some, afterNumbers?_append ends]

theorem afterSequence?_of_ne {c : Char} (other : c ≠ '\x1b') (r : Text) : afterSequence? (c :: r) = none := by
  simp [afterSequence?, stripPrefix?, List.isPrefixOf?, other.symm]

theorem erase_of_sequence {t rest : Text} (h : afterSequence? t = some rest) : erase t = erase rest := by
  cases t with
  | nil => cases h
  | cons c r =>
    rw [erase]
    split
    next other found => rw [Option.some.inj (found.symm.trans h)]
    next none_found => cases none_found.symm.trans h

theorem erase_cons {c : Char} {r : Text} (h : afterSequence? (c :: r) = none) :
    erase (c :: r) = c :: erase r := by
  rw [erase]
  split
  next found => cases found.symm.trans h
  next => rfl

/-- A text of which nothing is left that could open a sequence is erased apart from what follows it. -/
theorem erase_append {a : Text} (inert : Inert (erase a)) (b : Text) :
    erase (a ++ b) = erase a ++ erase b := by
  fun_induction erase a with
  | case1 => rfl
  | case2 c r rest found ih =>
    rw [erase_of_sequence (afterSequence?_append found b)]
    exact ih inert
  | case3 c r none_found ih =>
    obtain ⟨other, inert⟩ := inert_cons_iff.1 inert
    rw [List.cons_append, erase_cons (afterSequence?_of_ne other _), ih inert, List.cons_append]

/-- The same text plain and with color in it. -/
structure Painted (plain colored : Text) : Prop where
  inert : Inert plain
  erased : erase colored = plain

namespace Painted

theorem nil : Painted [] [] := ⟨inert_nil, by rw [erase]⟩

theorem append {a a' b b' : Text} (first : Painted a a') (second : Painted b b') :
    Painted (a ++ b) (a' ++ b') where
  inert := Inert.append first.inert second.inert
  erased := by
    have inert : Inert (erase a') := first.erased ▸ first.inert
    rw [erase_append inert, first.erased, second.erased]

theorem cons {c : Char} (solid : c ≠ '\x1b') {t t' : Text} (rest : Painted t t') :
    Painted (c :: t) (c :: t') where
  inert := inert_cons_iff.2 ⟨solid, rest.inert⟩
  erased := by rw [erase_cons (afterSequence?_of_ne solid _), rest.erased]

/-- Text that a terminal only shows has no color in it. -/
theorem of_inert {t : Text} (inert : Inert t) : Painted t t := by
  induction t with
  | nil => exact nil
  | cons c r ih =>
    obtain ⟨solid, rest⟩ := inert_cons_iff.1 inert
    exact cons solid (ih rest)

/-- Of a switch of the pen nothing is left. -/
theorem sequence (p : Pen) : Painted [] p.sequence := by
  have whole : afterSequence? p.sequence = some [] := by
    cases p with
    | color c => cases c <;> rfl
    | _ => rfl
  exact ⟨inert_nil, by rw [erase_of_sequence whole, erase]⟩

theorem flatMap {α : Type} {f g : α → Text} {items : List α} (each : ∀ a ∈ items, Painted (f a) (g a)) :
    Painted (items.flatMap f) (items.flatMap g) := by
  induction items with
  | nil => exact nil
  | cons a items ih =>
    have first := each a (List.mem_cons_self ..)
    exact first.append (ih fun other found => each other (List.mem_cons_of_mem _ found))

section
variable {t t' : Text} (painted : Painted t t')
include painted

theorem between (first last : Pen) :
    Painted (Style.between ⟨false⟩ first last t) (Style.between ⟨true⟩ first last t') := by
  have whole := ((sequence first).append painted).append (sequence last)
  rwa [List.nil_append, List.append_nil] at whole

theorem message (severity : Severity) :
    Painted (Style.message ⟨false⟩ severity t) (Style.message ⟨true⟩ severity t') := by
  have label : Inert severity.label := by cases severity <;> decide
  exact ((of_inert label).between _ _).append (cons (by decide) painted)

theorem heading : Painted (Style.heading ⟨false⟩ t) (Style.heading ⟨true⟩ t') := painted.between _ _

theorem filePath : Painted (Style.filePath ⟨false⟩ t) (Style.filePath ⟨true⟩ t') := painted.between _ _

theorem location (line column : Nat) :
    Painted (Style.location ⟨false⟩ t line column) (Style.location ⟨true⟩ t' line column) := by
  have place : Inert (':' :: decimal line ++ ':' :: decimal column) := by simp
  simpa [Style.location] using painted.filePath.append (of_inert place)

theorem keyValue {value value' : Text} (told : Painted value value') :
    Painted (Style.keyValue ⟨false⟩ t value) (Style.keyValue ⟨true⟩ t' value') :=
  ((painted.between _ _).append (of_inert (by decide))).append told

/-- The lines below an error are there or not for both alike. -/
theorem failure {cause cause' hint hint' : Option Text} (because : Option.Rel Painted cause cause')
    (hinted : Option.Rel Painted hint hint') :
    Painted (Style.failure ⟨false⟩ t cause hint) (Style.failure ⟨true⟩ t' cause' hint') := by
  have detail {label : Text} {d d' : Text} (inert : Inert label) (told : Painted d d') :
      Painted ("\n      ".toList ++ label ++ ": ".toList ++ d)
        ("\n      ".toList ++ label ++ ": ".toList ++ d') :=
    (of_inert (by simpa using inert)).append told
  refine ((painted.message .err).append ?_).append ?_
  · cases because with
    | none => exact nil
    | some told => exact detail (by decide) told
  · cases hinted with
    | none => exact nil
    | some told => exact detail (by decide) told

end

end Painted

/-- Text made by the calls of a style, one within another. -/
inductive Markup
  | text (t : Text)
  | join (first second : Markup)
  | message (severity : Severity) (told : Markup)
  | failure (told : Markup) (cause hint : Option Markup)
  | heading (title : Markup)
  | keyValue (key value : Markup)
  | filePath (path : Markup)
  | location (path : Markup) (line column : Nat)

namespace Markup

mutual

def render (s : Style) : Markup → Text
  | text t => t
  | join first second => first.render s ++ second.render s
  | message severity told => s.message severity (told.render s)
  | failure told cause hint => s.failure (told.render s) (renderDetail s cause) (renderDetail s hint)
  | heading title => s.heading (title.render s)
  | keyValue key value => s.keyValue (key.render s) (value.render s)
  | filePath path => s.filePath (path.render s)
  | location path line column => s.location (path.render s) line column

def renderDetail (s : Style) : Option Markup → Option Text
  | none => none
  | some m => some (m.render s)

end

mutual

/-- The texts at the leaves. -/
def texts : Markup → List Text
  | text t => [t]
  | join first second => first.texts ++ second.texts
  | message _ told | heading told | filePath told | location told _ _ => told.texts
  | failure told cause hint => told.texts ++ textsOfDetail cause ++ textsOfDetail hint
  | keyValue key value => key.texts ++ value.texts

def textsOfDetail : Option Markup → List Text
  | none => []
  | some m => m.texts

end

mutual

theorem painted : (m : Markup) → (∀ t ∈ m.texts, Inert t) → Painted (m.render ⟨false⟩) (m.render ⟨true⟩)
  | text t, inert => .of_inert (inert t (List.mem_singleton_self t))
  | join first second, inert =>
    have both := List.forall_mem_append.1 inert
    (first.painted both.1).append (second.painted both.2)
  | message severity told, inert => (told.painted inert).message severity
  | failure told cause hint, inert => by
    obtain ⟨both, hinted⟩ := List.forall_mem_append.1 inert
    obtain ⟨inert, because⟩ := List.forall_mem_append.1 both
    exact (told.painted inert).failure (painted_detail cause because) (painted_detail hint hinted)
  | heading title, inert => (title.painted inert).heading
  | keyValue key value, inert =>
    have both := List.forall_mem_append.1 inert
    (key.painted both.1).keyValue (value.painted both.2)
  | filePath path, inert => (path.painted inert).filePath
  | location path line column, inert => (path.painted inert).location line column

theorem painted_detail : (m : Option Markup) → (∀ t ∈ textsOfDetail m, Inert t) →
    Option.Rel Painted (renderDetail ⟨false⟩ m) (renderDetail ⟨true⟩ m)
  | none, _ => .none
  | some m, inert => .some (m.painted inert)

end

end Markup

end ClassNav.Terminal
