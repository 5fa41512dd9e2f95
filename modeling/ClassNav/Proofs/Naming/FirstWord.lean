import ClassNav.Proofs.Naming.Words
import ClassNav.Proofs.Text.Runs
import Mathlib.Data.List.Basic

/-!
What the first word of a text can be and what stands behind it then: one rule for each kind of word. A
text is split by passing over boundaries and taking such words, so a fact about its words is proved rule
by rule.
-/

namespace ClassNav.Naming

open Character

/-- The letters behind a number that make it an ordinal: they are spelled in one case, and no more of that
case follows. -/
structure Suffix (capital : Bool) (last : Char) (ending rest : Text) : Prop where
  spelled : Text.lowerAscii ending = ordinalLetters last
  oneCase : ∀ c ∈ ending, if capital then c.isUpper = true else c.isLower = true
  closed : ∀ c ∈ rest.head?, kind c = .boundary ∨ kind c = if capital then .lower else .upper

/-- Digits and the letters behind them are an ordinal before `rest`. -/
structure Ordinal (digits ending rest : Text) : Prop where
  each : ∀ c ∈ digits, kind c = .digit
  attached : ∃ capital, ∃ last ∈ digits.getLast?, Suffix capital last ending rest

/-- A word that can be taken from the front of a text, and what it leaves. -/
inductive Leads : Text → Text → Prop
  | number {digits rest : Text} (some : digits ≠ []) (each : ∀ c ∈ digits, kind c = .digit)
      (whole : ∀ c ∈ rest.head?, kind c ≠ .digit)
      (plain : ∀ ending behind, rest = ending ++ behind → ¬ Ordinal digits ending behind) :
      Leads digits rest
  | ordinal {digits ending rest : Text} (attached : Ordinal digits ending rest) :
      Leads (digits ++ ending) rest
  | small {w rest : Text} (some : w ≠ []) (each : ∀ c ∈ w, kind c = .lower)
      (whole : ∀ c ∈ rest.head?, kind c ≠ .lower) : Leads w rest
  | capitals {w rest : Text} (some : w ≠ []) (each : ∀ c ∈ w, kind c = .upper)
      (whole : ∀ c ∈ rest.head?, kind c ≠ .upper ∧ kind c ≠ .lower) : Leads w rest
  | capitalized {c : Char} {w rest : Text} (capital : kind c = .upper) (some : w ≠ [])
      (each : ∀ d ∈ w, kind d = .lower) (whole : ∀ d ∈ rest.head?, kind d ≠ .lower) :
      Leads (c :: w) rest
  | initials {w rest : Text} {c d : Char} (some : w ≠ []) (each : ∀ x ∈ w, kind x = .upper)
      (capital : kind c = .upper) (small : kind d = .lower) : Leads w (c :: d :: rest)

theorem Suffix.kind_eq {capital : Bool} {last : Char} {ending rest : Text}
    (suffix : Suffix capital last ending rest) :
    ∀ c ∈ ending, kind c = if capital then .upper else .lower := by
  intro c found
  have letter := suffix.oneCase c found
  cases capital with
  | true => exact kind_of_isUpper letter
  | false => exact kind_of_isLower letter

theorem Suffix.length_eq {capital : Bool} {last : Char} {ending rest : Text}
    (suffix : Suffix capital last ending rest) : ending.length = 2 := by
  have same := congrArg List.length suffix.spelled
  have two : (ordinalLetters last).length = 2 := by
    unfold ordinalLetters
    split
    · rfl
    split
    · rfl
    split <;> rfl
  simpa [Text.lowerAscii, two] using same

theorem Ordinal.digits_ne_nil {digits ending rest : Text} (ordinal : Ordinal digits ending rest) :
    digits ≠ [] := by
  obtain ⟨-, last, found, -⟩ := ordinal.attached
  rintro rfl
  cases found

theorem Ordinal.ending_length {digits ending rest : Text} (ordinal : Ordinal digits ending rest) :
    ending.length = 2 := by
  obtain ⟨capital, last, -, suffix⟩ := ordinal.attached
  exact suffix.length_eq

theorem Ordinal.letters {digits ending rest : Text} (ordinal : Ordinal digits ending rest) :
    ∀ c ∈ ending, kind c = .upper ∨ kind c = .lower := by
  obtain ⟨capital, last, -, suffix⟩ := ordinal.attached
  intro c found
  have letter := suffix.kind_eq c found
  cases capital with
  | true => exact .inl letter
  | false => exact .inr letter

theorem endsOrdinal_iff {capital : Bool} {rest : Text} : endsOrdinal capital rest = true ↔
    ∀ c ∈ rest.head?, kind c = .boundary ∨ kind c = if capital then .lower else .upper := by
  cases rest with
  | nil => simp [endsOrdinal]
  | cons c r => cases capital <;> cases same : kind c <;> simp [endsOrdinal, same]

/-- The letters behind a number are taken exactly if they make it an ordinal. -/
theorem ordinalSuffix_cases (last : Char) (t : Text) :
    (∃ capital ending rest, t = ending ++ rest ∧ ordinalSuffix last t = ending ∧
      Suffix capital last ending rest) ∨
    (ordinalSuffix last t = [] ∧
      ∀ capital ending rest, t = ending ++ rest → ¬ Suffix capital last ending rest) := by
  unfold ordinalSuffix
  split
  next a b rest =>
    dsimp only
    split
    next taken =>
      obtain ⟨spelled, oneCase, closed⟩ := taken
      refine .inl ⟨a.isUpper && b.isUpper, [a, b], rest, rfl, rfl, spelled, ?_, endsOrdinal_iff.1 closed⟩
      cases capital : a.isUpper && b.isUpper with
      | true => simpa using capital
      | false => simpa [capital] using oneCase
    next refused =>
      refine .inr ⟨rfl, ?_⟩
      intro capital ending behind split suffix
      obtain ⟨x, y, rfl⟩ := List.length_eq_two.1 suffix.length_eq
      obtain ⟨rfl, rfl, rfl⟩ : a = x ∧ b = y ∧ rest = behind := by simpa using split
      have capitals : (a.isUpper && b.isUpper) = capital := by
        have letters := suffix.kind_eq
        have oneCase := suffix.oneCase
        cases capital with
        | true => simpa using oneCase
        | false =>
          rw [Bool.and_eq_false_iff]
          left
          have small : kind a = .lower := letters a (by simp)
          rw [← Bool.not_eq_true]
          intro upper
          simp [kind_of_isUpper upper] at small
      apply refused
      rw [capitals]
      refine ⟨suffix.spelled, ?_, endsOrdinal_iff.2 suffix.closed⟩
      have oneCase := suffix.oneCase
      cases capital with
      | true => exact .inl rfl
      | false => exact .inr (by simpa using oneCase)
  next short =>
    refine .inr ⟨rfl, ?_⟩
    rintro capital ending rest rfl suffix
    obtain ⟨x, y, rfl⟩ := List.length_eq_two.1 suffix.length_eq
    exact short x y rest rfl

section
variable {k : Kind} {t : Text}

theorem kind_of_mem_run : ∀ c ∈ run k t, kind c = k := by
  intro c found
  simpa using List.mem_takeWhile_imp found

theorem kind_of_head_afterRun : ∀ c ∈ (afterRun k t).head?, kind c ≠ k :=
  fun c found => of_decide_eq_false (Text.stops_dropWhile _ t c found)

theorem run_ne_nil {c : Char} {r : Text} (same : kind c = k) : run k (c :: r) ≠ [] := by
  simp [run, same]

end

theorem leads_number {t : Text} {c : Char} (some : run .digit t ≠ []) :
    ∃ rest, t = run .digit t ++
        ordinalSuffix ((run .digit t).getLastD c) (afterRun .digit t) ++ rest ∧
      Leads (run .digit t ++ ordinalSuffix ((run .digit t).getLastD c) (afterRun .digit t)) rest := by
  have whole := run_append_afterRun .digit t
  have last : (run .digit t).getLast? = Option.some ((run .digit t).getLastD c) := by
    simp [List.getLastD_eq_getLast?, List.getLast?_eq_some_getLast some]
  obtain ⟨capital, ending, rest, split, taken, suffix⟩ | ⟨none, refused⟩ :=
    ordinalSuffix_cases ((run .digit t).getLastD c) (afterRun .digit t)
  · rw [taken]
    refine ⟨rest, by rw [List.append_assoc, ← split, whole], .ordinal ⟨kind_of_mem_run, ?_⟩⟩
    exact ⟨capital, _, last, suffix⟩
  · rw [none, List.append_nil]
    refine ⟨afterRun .digit t, whole.symm, .number some kind_of_mem_run kind_of_head_afterRun ?_⟩
    rintro ending behind split ⟨-, capital, d, found, suffix⟩
    obtain rfl := Option.some.inj (last.symm.trans found)
    exact refused capital ending behind split suffix

theorem leads_capitals {t : Text} (some : run .upper t ≠ []) :
    let capitals := run .upper t
    let small := run .lower (afterRun .upper t)
    let word := if small.isEmpty then capitals
      else if capitals.length = 1 then capitals ++ small
      else capitals.dropLast
    ∃ rest, t = word ++ rest ∧ Leads word rest := by
  have whole := run_append_afterRun .upper t
  have inner := run_append_afterRun .lower (afterRun .upper t)
  have upper : ∀ c ∈ run .upper t, kind c = .upper := kind_of_mem_run
  have lower : ∀ c ∈ run .lower (afterRun .upper t), kind c = .lower := kind_of_mem_run
  dsimp only
  split
  next none =>
    rw [List.isEmpty_iff] at none
    refine ⟨afterRun .upper t, whole.symm, .capitals some upper ?_⟩
    intro c found
    refine ⟨kind_of_head_afterRun c found, ?_⟩
    obtain ⟨r, behind⟩ : ∃ r, afterRun .upper t = c :: r := List.head?_eq_some_iff.1 found
    intro small
    rw [behind] at none
    exact run_ne_nil small none
  next small =>
    rw [List.isEmpty_iff] at small
    split
    next one =>
      obtain ⟨c, single⟩ := List.length_eq_one_iff.1 one
      refine ⟨afterRun .lower (afterRun .upper t), by rw [List.append_assoc, inner, whole], ?_⟩
      rw [single] at upper ⊢
      exact .capitalized (upper c (by simp)) small lower kind_of_head_afterRun
    next several =>
      -- the last capital opens the next word
      obtain ⟨d, r, behind⟩ := List.exists_cons_of_ne_nil small
      have last := List.dropLast_append_getLast some
      have more : (run .upper t).dropLast ≠ [] := by
        intro none
        rw [none] at last
        exact several (by rw [← last]; rfl)
      refine ⟨(run .upper t).getLast some :: d :: (r ++ afterRun .lower (afterRun .upper t)), ?_, ?_⟩
      · rw [behind] at inner
        rw [List.append_cons, last, ← List.cons_append, inner, whole]
      · exact .initials more (fun c found => upper c (List.dropLast_subset _ found))
          (upper _ (List.getLast_mem some)) (lower d (by simp [behind]))

theorem leads_firstWord {c : Char} {r : Text} (inner : kind c ≠ .boundary) :
    ∃ rest, c :: r = firstWord (c :: r) ++ rest ∧ Leads (firstWord (c :: r)) rest := by
  simp only [firstWord]
  cases same : kind c with
  | boundary => exact absurd same inner
  | digit => exact leads_number (run_ne_nil same)
  | lower =>
    exact ⟨afterRun .lower (c :: r), (run_append_afterRun ..).symm,
      .small (run_ne_nil same) kind_of_mem_run kind_of_head_afterRun⟩
  | upper => exact leads_capitals (run_ne_nil same)

theorem Leads.ne_nil {w rest : Text} (leads : Leads w rest) : w ≠ [] := by
  cases leads with
  | number some | small some | capitals some | initials some => exact some
  | ordinal attached => simp [attached.digits_ne_nil]
  | capitalized => exact List.cons_ne_nil _ _

/-- No word holds a boundary. -/
theorem Leads.inner {w rest : Text} (leads : Leads w rest) : ∀ c ∈ w, kind c ≠ .boundary := by
  cases leads with
  | number _ each | small _ each | capitals _ each | initials _ each =>
    intro c found
    simp [each c found]
  | @ordinal digits ending _ attached =>
    intro c found
    obtain digit | letter := List.mem_append.1 found
    · simp [attached.each c digit]
    · obtain upper | lower := attached.letters c letter <;> simp [*]
  | capitalized capital _ each =>
    intro c found
    obtain rfl | small := List.mem_cons.1 found
    · simp [capital]
    · simp [each c small]

/-- Texts and their words. -/
inductive Split : Text → List Text → Prop
  | done : Split [] []
  | boundary {c : Char} {t : Text} {ws : List Text} (outer : kind c = .boundary) (rest : Split t ws) :
      Split (c :: t) ws
  | word {w t : Text} {ws : List Text} (leads : Leads w t) (rest : Split t ws) : Split (w ++ t) (w :: ws)

theorem split_words (t : Text) : Split t (words t) := by
  fun_induction words t with
  | case1 => exact .done
  | case2 c r outer ih => exact .boundary outer ih
  | case3 c r inner ih =>
    obtain ⟨rest, whole, leads⟩ := leads_firstWord (r := r) inner
    have dropped : r.drop ((firstWord (c :: r)).length - 1) = rest := by
      obtain ⟨d, w, first⟩ := List.exists_cons_of_ne_nil leads.ne_nil
      rw [first] at whole ⊢
      obtain ⟨-, rfl⟩ := List.cons.inj whole
      simp
    rw [dropped] at ih ⊢
    have word := Split.word leads ih
    rwa [← whole] at word

/-- What a text holds beside its boundaries. -/
def innerPart (t : Text) : Text := t.filter fun c => decide (kind c ≠ .boundary)

theorem innerPart_append (a b : Text) : innerPart (a ++ b) = innerPart a ++ innerPart b :=
  List.filter_append ..

theorem innerPart_boundary {c : Char} (outer : kind c = .boundary) (t : Text) :
    innerPart (c :: t) = innerPart t := by
  simp [innerPart, outer]

theorem innerPart_of_inner {w : Text} (inner : ∀ c ∈ w, kind c ≠ .boundary) : innerPart w = w := by
  simpa [innerPart] using inner

/-- Nothing but boundaries is lost, and nothing is added or moved. -/
theorem Split.flatten {t : Text} {ws : List Text} (split : Split t ws) : ws.flatten = innerPart t := by
  induction split with
  | done => rfl
  | boundary outer _ ih => rw [innerPart_boundary outer, ih]
  | word leads _ ih =>
    rw [List.flatten_cons, ih, innerPart_append, innerPart_of_inner leads.inner]

theorem Split.ne_nil {t : Text} {ws : List Text} (split : Split t ws) : ∀ w ∈ ws, w ≠ [] := by
  induction split with
  | done => simp
  | boundary _ _ ih => exact ih
  | word leads _ ih =>
    intro w found
    obtain rfl | later := List.mem_cons.1 found
    · exact leads.ne_nil
    · exact ih w later

end ClassNav.Naming
