import ClassNav.Proofs.Naming.FirstWord
import Mathlib.Data.Bool.AllAny

/-!
Where words end. Within an attached ordinal none does; behind one, between a digit and a letter, and at a
hump of case one does, and nowhere else. Each rule looks at a few characters, however the text is read.
-/

namespace ClassNav.Naming

/-- An ordinal stands in a text after all of `front`: its number is not the end of a longer one. -/
structure Standing (front ordinal rest : Text) : Prop where
  whole : ∀ c ∈ front.getLast?, kind c ≠ .digit
  parts : ∃ digits ending, ordinal = digits ++ ending ∧ Ordinal digits ending rest

/-- Both characters lie in one attached ordinal. -/
def InOrdinal (before : Text) (x y : Char) (back : Text) : Prop :=
  ∃ front u v rest, before = front ++ u ∧ back = v ++ rest ∧ Standing front (u ++ x :: y :: v) rest

/-- The first of two characters is the last one of an attached ordinal. -/
def EndsOrdinal (before : Text) (x y : Char) (back : Text) : Prop :=
  ∃ front u, before = front ++ u ∧ Standing front (u ++ [x]) (y :: back)

/-- A digit beside a letter, or a hump of case: a capital behind a small letter, or the last capital of
several before a small letter. -/
def Hump (x y : Char) (back : Text) : Prop :=
  ¬ (kind x = .digit ↔ kind y = .digit) ∨ (kind x = .lower ∧ kind y = .upper) ∨
    (kind x = .upper ∧ kind y = .upper ∧ ∃ z ∈ back.head?, kind z = .lower)

/-- The rules that put the end of a word between two characters. -/
def Due (before : Text) (x y : Char) (back : Text) : Prop :=
  ¬ InOrdinal before x y back ∧ (EndsOrdinal before x y back ∨ Hump x y back)

/-- Of the words, some spell what a text holds before a place, and the others what is behind it. -/
def PartedBehind (ws : List Text) (before : Text) : Prop :=
  ∃ us vs, ws = us ++ vs ∧ us.flatten = innerPart before

theorem Standing.exists_digit {front ordinal rest : Text} (standing : Standing front ordinal rest) :
    ∃ d r, ordinal = d :: r ∧ kind d = .digit := by
  obtain ⟨digits, ending, rfl, attached⟩ := standing.parts
  obtain ⟨d, r, rfl⟩ := List.exists_cons_of_ne_nil attached.digits_ne_nil
  exact ⟨d, r ++ ending, rfl, attached.each d (List.mem_cons_self ..)⟩

/-- A piece of a text that no ordinal of the text reaches over: one that begins in it is the piece. -/
structure Apart (piece t : Text) : Prop where
  beyond : ∀ front ordinal rest, Standing front ordinal rest → front ++ (ordinal ++ rest) = piece ++ t →
    (front = [] ∧ ordinal = piece) ∨ ∃ more, front = piece ++ more
  closed : (∃ d ∈ t.head?, kind d = .digit) → ∀ c ∈ piece.getLast?, kind c ≠ .digit

/-- A number with all of its digits is read off a text in one way. -/
theorem digits_unique {a b r s : Text} (digits : ∀ c ∈ a, kind c = .digit)
    (digits' : ∀ c ∈ b, kind c = .digit) (stops : ∀ c ∈ r.head?, kind c ≠ .digit)
    (stops' : ∀ c ∈ s.head?, kind c ≠ .digit) (same : a ++ r = b ++ s) : a = b ∧ r = s := by
  have run (a r : Text) (digits : ∀ c ∈ a, kind c = .digit) (stops : ∀ c ∈ r.head?, kind c ≠ .digit) :
      (a ++ r).takeWhile (fun c => decide (kind c = .digit)) = a :=
    Text.takeWhile_append_stop (by simpa using digits) (by simpa using stops)
  have first : a = b := by rw [← run a r digits stops, same, run b s digits' stops']
  subst first
  exact ⟨rfl, List.append_cancel_left same⟩

/-- Digits and what is no digit behind them keep every other ordinal away, as long as they are an ordinal
themselves when their number begins one. -/
theorem apart_of_digits (digits others : Text) {t : Text} (each : ∀ c ∈ digits, kind c = .digit)
    (letters : ∀ c ∈ others, kind c ≠ .digit)
    (stops : others = [] → ∀ c ∈ t.head?, kind c ≠ .digit)
    (own : ∀ ending rest, Ordinal digits ending rest → others ++ t = ending ++ rest → ending = others) :
    Apart (digits ++ others) t where
  beyond := by
    intro front ordinal rest standing whole
    obtain ⟨digits', ending, rfl, attached⟩ := standing.parts
    obtain ⟨d, r, first, digit⟩ := standing.exists_digit
    obtain ⟨inside, split, behind⟩ | ⟨more, rfl, -⟩ := List.append_eq_append_iff.1 whole
    case inr => exact .inr ⟨more, rfl⟩
    cases inside with
    | nil => exact .inr ⟨[], by simpa using split.symm⟩
    | cons e inside =>
      -- the ordinal begins in the piece, and so with the first of its digits
      rw [first] at behind
      obtain ⟨rfl, -⟩ := List.cons.inj behind
      obtain ⟨between, -, within⟩ | ⟨later, number, -⟩ := List.append_eq_append_iff.1 split
      · exact absurd digit (letters d (by simp [within]))
      · obtain rfl : front = [] := by
          by_contra some
          have last := List.getLast_mem some
          have digit' := each _ (number ▸ List.mem_append_left later last)
          exact standing.whole _ (List.getLast?_eq_some_getLast some) digit'
        have ending_stops : ∀ c ∈ (ending ++ rest).head?, kind c ≠ .digit := by
          obtain ⟨a, b, rfl⟩ := List.length_eq_two.1 attached.ending_length
          rintro c ⟨⟩
          obtain upper | lower := attached.letters a (by simp) <;> simp [*]
        have others_stop : ∀ c ∈ (others ++ t).head?, kind c ≠ .digit := by
          cases others with
          | nil => exact stops rfl
          | cons b others =>
            rintro c ⟨⟩
            exact letters b (by simp)
        obtain ⟨rfl, rest_same⟩ := digits_unique attached.each each ending_stops others_stop
          (by simpa using whole)
        exact .inl ⟨rfl, by rw [own ending rest attached rest_same.symm]⟩
  closed := by
    rintro ⟨d, opens, digit⟩ c found
    cases others with
    | nil => exact absurd digit (stops rfl d opens)
    | cons b others =>
      apply letters c
      rw [List.getLast?_append_of_ne_nil _ (List.cons_ne_nil b others)] at found
      exact List.mem_of_getLast? found

theorem apart_of_letters {w t : Text} (some : w ≠ []) (letters : ∀ c ∈ w, kind c ≠ .digit) :
    Apart w t := by
  apply apart_of_digits [] w (by simp) letters (fun none => absurd none some)
  intro ending rest ordinal
  exact absurd rfl ordinal.digits_ne_nil

theorem Leads.apart {w t : Text} (leads : Leads w t) : Apart w t := by
  cases leads with
  | number _ each whole plain =>
    have apart := apart_of_digits _ [] (t := t) each (by simp) (fun _ => whole)
      (fun ending rest ordinal split => absurd ordinal (plain ending rest split))
    rwa [List.append_nil] at apart
  | ordinal attached =>
    apply apart_of_digits _ _ attached.each
    · intro c found
      obtain upper | lower := attached.letters c found <;> simp [*]
    · intro none
      have two := attached.ending_length
      simp [none] at two
    · intro ending rest ordinal split
      have same : ending.length = _ := ordinal.ending_length.trans attached.ending_length.symm
      exact (List.append_inj split same.symm).1.symm
  | small some each | capitals some each | initials some each =>
    exact apart_of_letters some fun c found => by simp [each c found]
  | capitalized capital _ each =>
    apply apart_of_letters (List.cons_ne_nil _ _)
    intro c found
    obtain rfl | small := List.mem_cons.1 found
    · simp [capital]
    · simp [each c small]

theorem Standing.of_append {piece front ordinal rest : Text}
    (standing : Standing (piece ++ front) ordinal rest) : Standing front ordinal rest := by
  refine ⟨?_, standing.parts⟩
  have whole := standing.whole
  cases front with
  | nil => simp
  | cons c front =>
    rwa [List.getLast?_append_of_ne_nil _ (List.cons_ne_nil c front)] at whole

section
variable {piece t : Text} (apart : Apart piece t)
include apart

/-- What an ordinal is does not depend on the pieces before it. -/
theorem Apart.standing {front ordinal rest : Text} (standing : Standing front ordinal rest)
    (split : t = front ++ (ordinal ++ rest)) : Standing (piece ++ front) ordinal rest := by
  refine ⟨?_, standing.parts⟩
  cases front with
  | nil =>
    obtain ⟨d, r, first, digit⟩ := standing.exists_digit
    rw [List.append_nil]
    exact apart.closed ⟨d, by simp [split, first], digit⟩
  | cons c front =>
    rw [List.getLast?_append_of_ne_nil _ (List.cons_ne_nil c front)]
    exact standing.whole

theorem Apart.exists_beyond {front ordinal rest : Text} (standing : Standing front ordinal rest)
    (whole : front ++ (ordinal ++ rest) = piece ++ t)
    (longer : piece.length < front.length + ordinal.length) :
    ∃ more, front = piece ++ more ∧ Standing more ordinal rest := by
  obtain ⟨rfl, rfl⟩ | ⟨more, rfl⟩ := apart.beyond _ _ _ standing whole
  · simp at longer
  · exact ⟨more, rfl, standing.of_append⟩

/-- Behind a piece the rules are those of the text that begins there. -/
theorem Apart.due_iff {before back : Text} {x y : Char} (split : t = before ++ x :: y :: back) :
    Due (piece ++ before) x y back ↔ Due before x y back := by
  have inside : InOrdinal (piece ++ before) x y back ↔ InOrdinal before x y back := by
    constructor
    · rintro ⟨front, u, v, rest, first, rfl, standing⟩
      have lengths := congrArg List.length first
      have whole : front ++ ((u ++ x :: y :: v) ++ rest) = piece ++ t := by
        rw [split, ← List.append_assoc piece, first]
        simp
      obtain ⟨more, rfl, later⟩ := apart.exists_beyond standing whole (by simp at lengths ⊢; omega)
      rw [List.append_assoc] at first
      exact ⟨more, u, v, rest, List.append_cancel_left first, rfl, later⟩
    · rintro ⟨front, u, v, rest, rfl, rfl, standing⟩
      exact ⟨piece ++ front, u, v, rest, by simp, rfl, apart.standing standing (by simp [split])⟩
  have behind : EndsOrdinal (piece ++ before) x y back ↔ EndsOrdinal before x y back := by
    constructor
    · rintro ⟨front, u, first, standing⟩
      have lengths := congrArg List.length first
      have whole : front ++ ((u ++ [x]) ++ y :: back) = piece ++ t := by
        rw [split, ← List.append_assoc piece, first]
        simp
      obtain ⟨more, rfl, later⟩ := apart.exists_beyond standing whole (by simp at lengths ⊢; omega)
      rw [List.append_assoc] at first
      exact ⟨more, u, List.append_cancel_left first, later⟩
    · rintro ⟨front, u, rfl, standing⟩
      exact ⟨piece ++ front, u, by simp, apart.standing standing (by simp [split])⟩
  rw [Due, Due, inside, behind]

/-- No ordinal goes on across the end of a piece. -/
theorem Apart.not_inOrdinal {before back : Text} {x y : Char} (last : piece = before ++ [x])
    (next : t = y :: back) : ¬ InOrdinal before x y back := by
  rintro ⟨front, u, v, rest, rfl, rfl, standing⟩
  obtain ⟨more, first, -⟩ := apart.exists_beyond standing (by simp [last, next]) (by simp [last])
  have lengths := congrArg List.length first
  simp [last] at lengths

/-- No ordinal ends within a piece. -/
theorem Apart.not_endsOrdinal {before within : Text} {x y : Char}
    (whole : piece = before ++ x :: y :: within) : ¬ EndsOrdinal before x y (within ++ t) := by
  rintro ⟨front, u, rfl, standing⟩
  obtain ⟨rfl, same⟩ | ⟨more, same⟩ := apart.beyond _ _ _ standing (by simp [whole])
  · simp [whole] at same
  · have lengths := congrArg List.length same
    simp [whole] at lengths

end

theorem hump_of_small {x y : Char} (small : kind x = .lower) (stops : kind y ≠ .lower)
    (inner : kind y ≠ .boundary) (back : Text) : Hump x y back := by
  cases same : kind y with
  | upper => exact .inr (.inl ⟨small, same⟩)
  | digit => exact .inl (by simp [small, same])
  | lower => exact absurd same stops
  | boundary => exact absurd same inner

/-- Where a word ends before another, the rules put its end. -/
theorem Leads.due {before back : Text} {x y : Char} (leads : Leads (before ++ [x]) (y :: back))
    (inner : kind y ≠ .boundary) : Due before x y back := by
  refine ⟨leads.apart.not_inOrdinal rfl rfl, ?_⟩
  generalize word : before ++ [x] = w at leads
  generalize next : y :: back = rest at leads
  have last : x ∈ w := word ▸ List.mem_append_right _ (List.mem_singleton_self x)
  cases leads with
  | number _ each whole =>
    subst next
    exact .inr (.inl (by simp [each x last, whole y rfl]))
  | ordinal attached =>
    subst next
    exact .inl ⟨[], before, rfl, by simp, _, _, word, attached⟩
  | small _ each whole =>
    subst next
    exact .inr (hump_of_small (each x last) (whole y rfl) inner back)
  | capitals _ each whole =>
    subst next
    obtain ⟨upper, lower⟩ := whole y rfl
    have digit : kind y = .digit := by cases same : kind y <;> simp_all
    exact .inr (.inl (by simp [each x last, digit]))
  | @capitalized c w _ _ some each whole =>
    subst next
    have last : w.getLast? = Option.some x := by
      have same := congrArg List.getLast? word
      rwa [List.getLast?_concat, List.getLast?_cons_of_ne_nil some, eq_comm] at same
    exact .inr (hump_of_small (each x (List.mem_of_getLast? last)) (whole y rfl) inner back)
  | initials _ each capital small =>
    obtain ⟨rfl, rfl⟩ := List.cons.inj next
    exact .inr (.inr (.inr ⟨each x last, capital, _, rfl, small⟩))

/-- Several capitals are one word as long as no small letter follows the second of two. -/
theorem not_hump_of_capitals {x y : Char} {within t : Text}
    (each : ∀ c ∈ x :: y :: within, kind c = .upper) (stops : ∀ c ∈ t.head?, kind c ≠ .lower) :
    ¬ Hump x y (within ++ t) := by
  have first := each x (by simp)
  have second := each y (by simp)
  rintro (beside | ⟨small, -⟩ | ⟨-, -, z, next, small⟩)
  · simp [first, second] at beside
  · simp [first] at small
  · cases within with
    | nil => exact stops z next small
    | cons c within =>
      obtain rfl : c = z := by simpa using next
      simp [each c (by simp)] at small

/-- Within a word the rules put no end. -/
theorem Leads.not_due {before within t : Text} {x y : Char}
    (leads : Leads (before ++ x :: y :: within) t) : ¬ Due before x y (within ++ t) := by
  rintro ⟨outside, ends | hump⟩
  · exact leads.apart.not_endsOrdinal rfl ends
  generalize word : before ++ x :: y :: within = w at leads
  have part : ∀ c ∈ x :: y :: within, c ∈ w := fun c found => word ▸ List.mem_append_right _ found
  have first := part x (by simp)
  have second := part y (by simp)
  cases leads with
  | number _ each => simp [Hump, each x first, each y second] at hump
  | ordinal attached =>
    exact outside ⟨[], before, within, t, rfl, rfl, by simp, _, _, word, attached⟩
  | small _ each => simp [Hump, each x first, each y second] at hump
  | capitals _ each whole =>
    exact not_hump_of_capitals (fun c found => each c (part c found)) (fun c next => (whole c next).2) hump
  | @capitalized c w _ capital _ each =>
    -- only the first character is a capital, so the second of two is not
    have small : kind y = .lower := by
      cases before with
      | nil =>
        obtain ⟨-, rfl⟩ := List.cons.inj word
        exact each y (by simp)
      | cons d before =>
        obtain ⟨-, rfl⟩ := List.cons.inj word
        exact each y (by simp)
    have letter : kind x ≠ .digit := by
      obtain rfl | small := List.mem_cons.1 first
      · simp [capital]
      · simp [each x small]
    simp [Hump, small, letter] at hump
  | initials _ each capital =>
    apply not_hump_of_capitals (fun c found => each c (part c found)) _ hump
    rintro c ⟨⟩
    simp [capital]

/-! ## The words of a text -/

theorem partedBehind_boundary {c : Char} (outer : kind c = .boundary) {ws : List Text} {before : Text} :
    PartedBehind ws (c :: before) ↔ PartedBehind ws before := by
  rw [PartedBehind, PartedBehind, innerPart_boundary outer]

section
variable {w : Text} {ws : List Text} (some : w ≠ []) (inner : ∀ c ∈ w, kind c ≠ .boundary)
include inner

theorem partedBehind_word : PartedBehind (w :: ws) w :=
  ⟨[w], ws, rfl, by simp [innerPart_of_inner inner]⟩

/-- The words are not parted within the first of them. -/
theorem not_partedBehind_within {before within : Text} (word : w = before ++ within)
    (front : before ≠ []) (back : within ≠ []) : ¬ PartedBehind (w :: ws) before := by
  have inner_front : ∀ c ∈ before, kind c ≠ .boundary := fun c found => inner c (by simp [word, found])
  rw [PartedBehind, innerPart_of_inner inner_front]
  rintro ⟨us, vs, split, spelled⟩
  cases us with
  | nil => exact front spelled.symm
  | cons u us =>
    obtain ⟨rfl, -⟩ := List.cons.inj split
    have lengths := congrArg List.length spelled
    have longer := congrArg List.length word
    have some_back := List.length_pos_of_ne_nil back
    simp only [List.flatten_cons, List.length_append] at lengths longer
    omega

include some

theorem partedBehind_append_iff {before : Text} :
    PartedBehind (w :: ws) (w ++ before) ↔ PartedBehind ws before := by
  rw [PartedBehind, PartedBehind, innerPart_append, innerPart_of_inner inner]
  constructor
  · rintro ⟨us, vs, split, spelled⟩
    cases us with
    | nil => simp [some] at spelled
    | cons u us =>
      obtain ⟨rfl, rfl⟩ := List.cons.inj split
      exact ⟨us, vs, rfl, List.append_cancel_left spelled⟩
  · rintro ⟨us, vs, rfl, spelled⟩
    exact ⟨w :: us, vs, rfl, by simp [spelled]⟩

end

/-- Between two characters that are no boundaries a word ends exactly where the rules say so. -/
theorem Split.parted_iff {t : Text} {ws : List Text} (split : Split t ws) {before back : Text}
    {x y : Char} (whole : t = before ++ x :: y :: back) (left : kind x ≠ .boundary)
    (right : kind y ≠ .boundary) : PartedBehind ws (before ++ [x]) ↔ Due before x y back := by
  induction split generalizing before with
  | done => simp at whole
  | @boundary c t ws outer rest ih =>
    cases before with
    | nil =>
      obtain ⟨rfl, -⟩ := List.cons.inj whole
      exact absurd outer left
    | cons d before =>
      obtain ⟨rfl, later⟩ := List.cons.inj whole
      have apart : Apart [c] t := apart_of_letters (by simp) (by simp [outer])
      rw [List.cons_append, partedBehind_boundary outer, ih later]
      exact (apart.due_iff later).symm
  | @word w t ws leads rest ih =>
    have inner := leads.inner
    have beyond (later : Text) (behind : t = later ++ x :: y :: back) :
        PartedBehind (w :: ws) (w ++ later ++ [x]) ↔ Due (w ++ later) x y back := by
      rw [List.append_assoc, partedBehind_append_iff leads.ne_nil inner, ih behind,
        leads.apart.due_iff behind]
    obtain ⟨later, rfl, behind⟩ | ⟨within, word, behind⟩ := List.append_eq_append_iff.1 whole
    · exact beyond later behind
    · match within, behind with
      | [], behind =>
        obtain rfl : w = before := by simpa using word
        simpa using beyond [] behind.symm
      | [_], behind =>
        obtain ⟨rfl, rfl⟩ := List.cons.inj behind
        subst word
        exact ⟨fun _ => leads.due right, fun _ => partedBehind_word inner⟩
      | _ :: _ :: within, behind =>
        obtain ⟨rfl, rest⟩ := List.cons.inj behind
        obtain ⟨rfl, rfl⟩ := List.cons.inj rest
        subst word
        have inside : ¬PartedBehind ((before ++ x :: y :: within) :: ws) (before ++ [x]) :=
          not_partedBehind_within inner (List.append_cons before x (y :: within)) (by simp) (by simp)
        exact ⟨fun parted => absurd parted inside, fun due => absurd due leads.not_due⟩

/-- **Words end exactly at the boundaries that the rules name.** They are not empty, and put together they
are the text without its boundary characters. Boundary characters divide them. Elsewhere an ordinal is never
divided, it is divided from what follows it, and all other ends are between a digit and a letter or at a
hump of case. -/
theorem words_end_where_due (t : Text) :
    (∀ w ∈ words t, w ≠ []) ∧
    (words t).flatten = t.filter (fun c => decide (kind c ≠ .boundary)) ∧
    (∀ before back, t = before ++ back → OpensWithBoundary back → PartedBehind (words t) before) ∧
    ∀ before x y back, t = before ++ x :: y :: back → kind x ≠ .boundary → kind y ≠ .boundary →
      (InOrdinal before x y back → ¬ PartedBehind (words t) (before ++ [x])) ∧
      (¬ InOrdinal before x y back → EndsOrdinal before x y back →
        PartedBehind (words t) (before ++ [x])) ∧
      (¬ InOrdinal before x y back → ¬ EndsOrdinal before x y back →
        (PartedBehind (words t) (before ++ [x]) ↔ Hump x y back)) := by
  have split := split_words t
  refine ⟨split.ne_nil, split.flatten, ?_, ?_⟩
  · rintro before back rfl opens
    exact ⟨words before, words back, words_append opens before, (split_words before).flatten⟩
  · intro before x y back whole left right
    rw [split.parted_iff whole left right, Due]
    refine ⟨fun inside due => due.1 inside, fun outside ends => ⟨outside, .inl ends⟩, fun outside more => ?_⟩
    simp [outside, more]

/-- A blank, and then an ordinal: it is not divided between its letters. -/
theorem words_end_where_due_at_ordinal :
    kind 's' ≠ .boundary ∧ kind 't' ≠ .boundary ∧ OpensWithBoundary " 1stItem" ∧
    PartedBehind (words "the 1stItem") "the" ∧ InOrdinal "the 1" 's' 't' "Item" ∧
    ¬ PartedBehind (words "the 1stItem") "the 1s" := by
  have opens : OpensWithBoundary " 1stItem" := by
    rintro c ⟨⟩
    decide
  have suffix : Suffix false '1' "st" "Item" := by
    refine ⟨by decide, List.all_iff_forall_prop.1 (by decide), ?_⟩
    rintro c ⟨⟩
    decide
  have standing : Standing "the " "1st" "Item" := by
    refine ⟨?_, "1", "st", rfl, ⟨List.all_iff_forall_prop.1 (by decide), false, '1', rfl, suffix⟩⟩
    rintro c ⟨⟩
    decide
  have inside : InOrdinal "the 1" 's' 't' "Item" := ⟨"the ", "1", [], "Item", rfl, rfl, standing⟩
  have left : kind 's' ≠ .boundary := by decide
  have right : kind 't' ≠ .boundary := by decide
  obtain ⟨-, -, boundaries, rules⟩ := words_end_where_due "the 1stItem"
  exact ⟨left, right, opens, boundaries "the" " 1stItem" rfl opens, inside,
    (rules "the 1" 's' 't' "Item" rfl left right).1 inside⟩

end ClassNav.Naming
