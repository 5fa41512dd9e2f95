import ClassNav.Document.ImportExpression
import ClassNav.Proofs.Document.ImportPlaces

/-!
The readers of imports beside the expression that imports are written by. A run in the expression can end
in one way only wherever what follows it cannot begin with a character of the run, so there is nothing to
go back to; the one run left, that of the module path, ends as late as it can.
-/

namespace ClassNav

namespace Expression

variable {α : Type} {holds : Char → Bool} {next : Text → Option α}

/-- Nothing is read where such a character stands. -/
def Refuses (holds : Char → Bool) (next : Text → Option α) : Prop :=
  ∀ c r, holds c = true → next (c :: r) = none

/-- A run ends where it must if what follows refuses its characters. -/
theorem readRun_of_refuses (refuses : Refuses holds next) (t : Text) :
    readRun holds next t =
      if t.takeWhile holds = [] then none else next (t.dropWhile holds) := by
  induction t with
  | nil => rfl
  | cons c r ih =>
    cases inside : holds c with
    | false => simp [readRun, inside]
    | true =>
      rw [readRun, inside, if_pos rfl, ih, List.takeWhile_cons_of_pos inside,
        List.dropWhile_cons_of_pos inside, if_neg (List.cons_ne_nil _ _)]
      cases r with
      | nil => rfl
      | cons d r =>
        cases goes_on : holds d with
        | false => simp [goes_on]
        | true => simp [goes_on, refuses d r goes_on]

end Expression

namespace Import

open Character Expression

theorem stripPrefix?_of_isBlank {w r : Text} {c d : Char} (solid : isBlank c = false)
    (blank : isBlank d = true) : Text.stripPrefix? (c :: w) (d :: r) = none := by
  have other : c ≠ d := by
    rintro rfl
    rw [blank] at solid
    cases solid
  simp [Text.stripPrefix?, List.isPrefixOf?, other]

section
variable {α : Type} {next : List Text → Text → Option α} {groups : List Text}

/-- Blanks before something that is not one. -/
theorem read_blanks (refuses : Refuses isBlank (next groups)) (t : Text) :
    blanks.read next groups t = (skipBlanks? t).bind (next groups) := by
  rw [blanks, Expression.read, readRun_of_refuses refuses]
  cases t with
  | nil => rfl
  | cons c r => cases blank : isBlank c <;> simp [skipBlanks?, blank]

theorem read_call (t : Text) :
    call.read next groups t =
      ((Text.stripPrefix? "require" t).bind fun rest =>
        Text.stripPrefix? ['('] ((Text.stripPrefix? "<any>" rest).getD rest)).bind (next groups) := by
  simp only [call, Expression.read, Option.bind_assoc]
  congr 1
  funext rest
  cases typed : Text.stripPrefix? "<any>" rest with
  | none => rfl
  | some behind =>
    obtain rfl := Text.stripPrefix?_eq_some_iff.1 typed
    have other : Text.stripPrefix? ['('] ("<any>".toList ++ behind) = none := rfl
    rw [other, Option.bind_none, Option.or_none, Option.bind_some, Option.getD_some]

theorem call_refuses : Refuses isBlank (call.read next groups) := by
  intro c r blank
  have other : Text.stripPrefix? "require" (c :: r) = none := stripPrefix?_of_isBlank (by decide) blank
  rw [read_call, other, Option.bind_none, Option.bind_none]

theorem read_fromOrRequire (refuses : Refuses isBlank (next groups)) (t : Text) :
    fromOrRequire.read next groups t = (skipKeyword? t).bind (next groups) := by
  have assigned (rest : Text) : (both blanks call).read next groups rest =
      (skipBlanks? rest).bind (call.read next groups) := read_blanks call_refuses rest
  simp only [fromOrRequire, Expression.read, skipKeyword?]
  cases named : Text.stripPrefix? "from" t with
  | some rest =>
    obtain rfl := Text.stripPrefix?_eq_some_iff.1 named
    have other : Text.stripPrefix? ['='] ("from".toList ++ rest) = none := rfl
    rw [other, Option.bind_none, Option.or_none, Option.bind_some]
    exact read_blanks refuses rest
  | none =>
    rw [Option.bind_none, Option.none_or, Option.bind_assoc]
    congr 1
    funext rest
    rw [Option.bind_assoc]
    exact (assigned rest).trans (congrArg _ (funext fun rest => read_call rest))

/-- The text goes on with a quote. -/
def atQuote (found : Text → α) : Text → Option α
  | [] => none
  | q :: after => if isQuote q then some (found after) else none

section
variable {found : Text → α} (quoted : ∀ t, next groups t = atQuote found t)
include quoted

theorem read_closing (t : Text) : (word "ss").read next groups t = (closing? t).map found := by
  rw [Expression.read, funext quoted]
  apply Option.ext
  intro a
  simp only [Option.bind_eq_some_iff, Option.map_eq_some_iff, Text.stripPrefix?_eq_some_iff,
    closing?_eq_some_iff]
  constructor
  · rintro ⟨rest, rfl, goes_on⟩
    cases rest with
    | nil => cases goes_on
    | cons q after =>
      rw [atQuote, Option.ite_none_right_eq_some] at goes_on
      exact ⟨after, ⟨q, goes_on.1, rfl⟩, Option.some.inj goes_on.2⟩
  · rintro ⟨after, ⟨q, quote, rfl⟩, rfl⟩
    exact ⟨q :: after, rfl, by rw [atQuote, if_pos quote]⟩

/-- With one character before it or with two, no text has both ends. -/
theorem read_kind (t : Text) :
    (both (optional (one isSolid)) (word "ss")).read next groups t =
      ((closing? t).or
        (match t with
        | b :: r => if isBlank b = false then closing? r else none
        | [] => none)).map found := by
  have optional_read : (both (optional (one isSolid)) (word "ss")).read next groups t =
      ((one isSolid).read ((word "ss").read next) groups t).or ((word "ss").read next groups t) := rfl
  rw [optional_read, read_closing quoted]
  rcases t with _ | ⟨b, r⟩
  · rfl
  · have solid_read : (one isSolid).read ((word "ss").read next) groups (b :: r) =
        if isSolid b then (closing? r).map found else none := by
      rw [Expression.read, read_closing quoted]
    rw [solid_read]
    cases closed : closing? (b :: r) with
    | none => cases solid : isBlank b <;> simp [isSolid, solid]
    | some after =>
      obtain ⟨q, quote, whole⟩ := closing?_eq_some_iff.1 closed
      obtain ⟨rfl, rfl⟩ := List.cons.inj whole
      -- The quote behind `ss` cannot be the second of two more.
      have open_end : closing? ('s' :: q :: after) = none := by
        rw [Option.eq_none_iff_forall_not_mem]
        intro behind again
        obtain ⟨p, -, twice⟩ := closing?_eq_some_iff.1 again
        obtain ⟨rfl, -⟩ := List.cons.inj (List.cons.inj twice).2
        exact absurd quote (by decide)
      simp [open_end]

theorem read_extension (t : Text) :
    extension.read next groups t = (extension? t).map fun parts => found parts.2 := by
  rcases t with _ | ⟨dot, _ | ⟨a, rest⟩⟩
  · rfl
  · simp [extension, Expression.read, Text.stripPrefix?, extension?]
  · have dotted : extension.read next groups (dot :: a :: rest) =
        if '.' = dot then
          if isSolid a then (both (optional (one isSolid)) (word "ss")).read next groups rest else none
        else none := by
      rw [extension, Expression.read, Expression.read, Text.stripPrefix?]
      simp only [List.isPrefixOf?, beq_iff_eq]
      split <;> rfl
    rw [dotted, read_kind quoted]
    unfold extension?
    by_cases begins : dot = '.' ∧ isBlank a = false
    · obtain ⟨rfl, solid⟩ := begins
      simp only [isSolid, solid, Bool.not_false, if_true, and_self]
      cases closing? rest with
      | some after => rfl
      | none =>
        rcases rest with _ | ⟨b, rest⟩
        · rfl
        · by_cases solid' : isBlank b = false <;> simp [solid', Function.comp_def]
    · simp only [if_neg begins]
      split
      next dot =>
        rw [if_neg]
        · rfl
        · simpa [isSolid, dot.symm] using begins
      next => rfl

theorem readRun_extension (t : Text) :
    (readRun (· != '\n') (extension.read next groups) t).or (extension.read next groups t) =
      (lastExtension? t).map fun parts => found parts.2 := by
  induction t with
  | nil => simp [readRun, lastExtension?, read_extension quoted, extension?]
  | cons c r ih =>
    rw [readRun, lastExtension?, ih]
    by_cases newline : c = '\n'
    · subst newline
      rfl
    · rw [if_pos (by simpa using newline), if_neg newline, read_extension quoted]
      cases lastExtension? r <;> rfl

theorem read_name (t : Text) :
    readRun (· != '\n') (extension.read next groups) t =
      (stylesheetName? t).map fun parts => found parts.2 := by
  cases t with
  | nil => rfl
  | cons c r =>
    rw [readRun, stylesheetName?, readRun_extension quoted]
    by_cases newline : c = '\n'
    · simp [newline]
    · simp [newline, Function.comp_def]

end

end

/-- The expression, once all of it has been read. -/
def finished (groups : List Text) (rest : Text) : Option (List Text × Text) := some (groups, rest)

theorem read_closing_quote (groups : List Text) (t : Text) :
    closing.read finished groups t =
      atQuote (fun after => (groups, (Text.stripPrefix? [')'] after).getD after)) t := by
  cases t with
  | nil => rfl
  | cons q after =>
    simp only [closing, Expression.read, atQuote]
    cases Text.stripPrefix? [')'] after <;> rfl

theorem read_file (groups : List Text) (t : Text) :
    (both file closing).read finished groups t =
      (stylesheetName? t).map fun (name, after) =>
        (groups ++ [name], (Text.stripPrefix? [')'] after).getD after) := by
  -- How much of the text is left tells the group, and its end stands one quote before what follows.
  have quoted (rest : Text) :
      closing.read finished (groups ++ [t.take (t.length - rest.length)]) rest =
        atQuote (fun after => (groups ++ [t.take (t.length - (after.length + 1))],
          (Text.stripPrefix? [')'] after).getD after)) rest := by
    rw [read_closing_quote]
    cases rest <;> rfl
  have named := @read_name _ (fun inner rest => closing.read finished
    (inner ++ [t.take (t.length - rest.length)]) rest) _ _ quoted t
  refine named.trans (Option.map_congr fun ⟨name, after⟩ found => ?_)
  obtain ⟨⟨q, -, whole⟩, -⟩ := named_of_stylesheetName? found
  have taken : t.take (t.length - (after.length + 1)) = name := by simp [whole]
  simp only [taken]

theorem quotation_refuses (groups : List Text) :
    Refuses isBlank (quotation.read finished groups) := by
  intro c r blank
  rw [quotation, Expression.read, Expression.read, if_neg (by simp [isQuote_of_isBlank blank])]

theorem worded_refuses (groups : List Text) :
    Refuses isBlank ((both fromOrRequire quotation).read finished groups) := by
  intro c r blank
  have unnamed : Text.stripPrefix? "from" (c :: r) = none := stripPrefix?_of_isBlank (by decide) blank
  have unassigned : Text.stripPrefix? ['='] (c :: r) = none := stripPrefix?_of_isBlank (by decide) blank
  rw [Expression.read, read_fromOrRequire (quotation_refuses groups), skipKeyword?, unnamed, unassigned]
  rfl

/-- **What stands behind a key is read as the expression has it.** -/
theorem read_tail (groups : List Text) (t : Text) :
    tail.read finished groups t =
      (afterKey? t).map fun (name, after) => (groups ++ [name], after) := by
  rw [tail, Expression.read, read_blanks (worded_refuses groups), afterKey?, Option.map_bind]
  congr 1
  funext rest
  rw [Expression.read, read_fromOrRequire (quotation_refuses groups), Function.comp_apply, Option.map_bind]
  congr 1
  funext rest
  cases rest with
  | nil => rfl
  | cons q quoted =>
    have entered : quotation.read finished groups (q :: quoted) =
        if isQuote q then (both file closing).read finished groups quoted else none := rfl
    rw [entered, read_file]
    cases quote : isQuote q <;> simp [quote, Function.comp_def]

theorem tail_refuses (groups : List Text) : Refuses isSolid (tail.read finished groups) := by
  intro c r solid
  rw [read_tail, Option.map_eq_none_iff, Option.eq_none_iff_forall_not_mem]
  intro found goes_on
  obtain ⟨d, rest, same, blank⟩ := exists_blank_of_afterKey? goes_on
  obtain ⟨rfl, -⟩ := List.cons.inj same
  simp [isSolid, blank] at solid

theorem atStart?_word (key t : Text) :
    (expression (word key)).atStart? t =
      ((Text.stripPrefix? key t).bind afterKey?).map fun (path, after) => ([path], after) := by
  have entered : (expression (word key)).atStart? t =
      (Text.stripPrefix? key t).bind (tail.read finished []) := rfl
  rw [entered, Option.map_bind]
  congr 1
  funext rest
  rw [read_tail]
  rfl

/-- The search for one key finds what the expression does. -/
theorem search?_word (key text : Text) :
    ((expression (word key)).search? text).map Prod.fst =
      (specifierOf? key text).map fun path => [path] := by
  induction text with
  | nil => simp [search?, specifierOf?, atStart?_word, Function.comp_def]
  | cons c r ih =>
    rw [search?, specifierOf?, atStart?_word]
    cases (Text.stripPrefix? key (c :: r)).bind afterKey? with
    | some found => rfl
    | none => exact ih

theorem atStart?_run (t : Text) :
    (expression (group (run isSolid))).atStart? t =
      (here? t).map fun (i, after) => ([i.binding, i.modulePath], after) := by
  have entered : (expression (group (run isSolid))).atStart? t =
      readRun isSolid (fun rest => tail.read finished [t.take (t.length - rest.length)] rest) t := rfl
  have refuses : Refuses isSolid fun rest =>
      tail.read finished [t.take (t.length - rest.length)] rest := fun c r => tail_refuses _ c r
  have taken : t.take (t.length - (t.dropWhile isSolid).length) = t.takeWhile isSolid := by
    have counted := congrArg List.length (List.takeWhile_append_dropWhile (p := isSolid) (l := t))
    rw [List.length_append] at counted
    rw [List.prefix_iff_eq_take.1 (List.takeWhile_prefix isSolid)]
    congr 1
    omega
  have solid : (fun c => !isBlank c) = isSolid := rfl
  rw [entered, readRun_of_refuses refuses, taken, read_tail, here?, solid]
  simp only [List.isEmpty_iff]
  split
  next => rfl
  next => rw [Option.map_map]; rfl

theorem search?_run (text : Text) :
    (expression (group (run isSolid))).search? text =
      (first? text).map fun (i, after) => ([i.binding, i.modulePath], after) := by
  induction text with
  | nil => rfl
  | cons c r ih =>
    rw [search?, first?, atStart?_run]
    cases here? (c :: r) with
    | some found => rfl
    | none => exact ih

/-- **What the expression finds is what the search for the key does.** -/
theorem sought?_eq (key text : Text) : sought? key text = specifierOf? key text := by
  have found : sought? key text =
      (((expression (word key)).search? text).map Prod.fst).bind fun groups => groups[0]? := by
    rw [Option.bind_map]
    rfl
  rw [found, search?_word]
  cases specifierOf? key text <;> rfl

/-- **The first import of a line is what the expression captures.** -/
theorem captured?_eq (line : Text) : captured? line = onLine? line := by
  rw [captured?, search?_run, onLine?]
  cases first? line <;> rfl

end Import

end ClassNav
