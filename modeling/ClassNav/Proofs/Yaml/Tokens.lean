import ClassNav.Proofs.Yaml.Scalars
import ClassNav.Yaml.Tokens

/-!
Tokens between brackets. What the tokenizer keeps about blocks and possible keys stands still there, so each
sign and each scalar adds its own token and leaves the rest as it is.
-/

namespace ClassNav.Yaml.Tokenizer

/-- A character that may follow layout without being part of it. -/
def Visible (c : Char) : Prop := c ≠ ' ' ∧ c ≠ '\t' ∧ c ≠ '#' ∧ c ≠ '\ufeff' ∧ isBreak c = false

instance (c : Char) : Decidable (Visible c) := inferInstanceAs (Decidable (_ ∧ _))

/-- Wherever a key may have begun, none is required. -/
def Lenient (keys : List (Option KeyMark)) : Prop := ∀ k ∈ keys, ∀ mark ∈ k, mark.required = false

/-- The tokenizer has read these tokens and stands before `rest`, with layout perhaps still to pass, inside of
so many brackets and outside of all blocks. -/
structure Before (rest : Text) (depth : Nat) (tokens : List Token) (s : Tokenizer) : Prop where
  ahead : ∃ gap, IsLayout gap ∧ s.reader.rest = gap ++ rest
  tokens : s.tokens.toList = tokens
  indent : s.indent = -1
  depth : s.keys.length = depth + 1
  lenient : Lenient s.keys

theorem Before.pass {gap rest : Text} {depth : Nat} {tokens : List Token} {s : Tokenizer}
    (layout : IsLayout gap) (before : Before (gap ++ rest) depth tokens s) : Before rest depth tokens s := by
  obtain ⟨first, layout', ahead⟩ := before.ahead
  refine { before with ahead := ⟨first ++ gap, fun c found => ?_, by simp [ahead]⟩ }
  exact (List.mem_append.1 found).elim (layout' c) (layout c)

/-- One token further on. -/
def Leads (n : Nat) (s s' : Tokenizer) : Prop := ∀ fuel, run (fuel + n) s = run fuel s'

theorem Leads.refl (s : Tokenizer) : Leads 0 s s := fun _ => rfl

theorem Leads.trans {n m : Nat} {s s' s'' : Tokenizer} (first : Leads n s s') (more : Leads m s' s'') :
    Leads (n + m) s s'' := by
  intro fuel
  rw [Nat.add_comm n, ← Nat.add_assoc, first, more]

/-- Layout is blanks on one line, or blanks before a line feed and more layout. -/
theorem layout_cases {gap : Text} (layout : IsLayout gap) :
    ∃ n, gap = List.replicate n ' ' ∨
      ∃ more, gap = List.replicate n ' ' ++ '\n' :: more ∧ IsLayout more ∧ more.length < gap.length := by
  induction gap with
  | nil => exact ⟨0, .inl rfl⟩
  | cons c gap ih =>
    have rest : IsLayout gap := fun d found => layout d (List.mem_cons_of_mem _ found)
    obtain rfl | rfl := layout c (List.mem_cons_self ..)
    · obtain ⟨n, rfl | ⟨more, rfl, further, shorter⟩⟩ := ih rest
      · exact ⟨n + 1, .inl rfl⟩
      · exact ⟨n + 1, .inr ⟨more, rfl, further, by simp; omega⟩⟩
    · exact ⟨0, .inr ⟨gap, rfl, rest, Nat.lt_succ_self _⟩⟩

section
variable (line column index : Nat)

theorem skipRun_blanks (tabs : Bool) (n : Nat) (rest : Text)
    (stops : ∀ c ∈ rest.head?, c ≠ ' ' ∧ c ≠ '\t') :
    (⟨List.replicate n ' ' ++ rest, line, column, index⟩ : Reader).skipRun
        (fun c => c == ' ' || (tabs && c == '\t')) = ⟨rest, line, column + n, index + n⟩ := by
  have run : (List.replicate n ' ' ++ rest).takeWhile (fun c => c == ' ' || (tabs && c == '\t')) =
      List.replicate n ' ' :=
    Text.takeWhile_append_stop (by simp) (fun c found => by simp [stops c found])
  have skipped := Reader.skip_append line column index (List.replicate n ' ') rest
  rw [Reader.skipRun, Reader.run, run, skipped, List.length_replicate]

theorem sees_blanks (n : Nat) (rest : Text) (c : Char) (other : ' ' ≠ c) (ahead : ∀ d ∈ rest.head?, d ≠ c) :
    (⟨List.replicate n ' ' ++ rest, line, column, index⟩ : Reader).sees 0 c = false := by
  cases n with
  | zero => cases rest <;> simp_all [Reader.sees, Reader.peek?]
  | succ n => simpa [Reader.sees, Reader.peek?, List.replicate_succ] using other

/-- Layout is passed over, and nothing else changes, but that a key may begin after it. -/
theorem skipBlanks_layout {gap rest : Text} (layout : IsLayout gap) (visible : ∀ c ∈ rest.head?, Visible c)
    (tokens : Array Token) (indent : Int) (outer : List Int) (allowed : Bool) (keys : List (Option KeyMark))
    (fuel : Nat) (enough : gap.length < fuel) :
    ∃ r allowed', skipBlanks fuel ⟨⟨gap ++ rest, line, column, index⟩, tokens, indent, outer, allowed, keys⟩ =
        ⟨r, tokens, indent, outer, allowed', keys⟩ ∧ r.rest = rest ∧ (allowed = true → allowed' = true) ∧
      (gap = [] → r = ⟨rest, line, column, index⟩) := by
  induction fuel generalizing gap line column index allowed with
  | zero => exact absurd enough (Nat.not_lt_zero _)
  | succ fuel ih =>
    -- one line at a time, and the last one ends at `rest`
    obtain ⟨n, rfl | ⟨more, rfl, further, shorter⟩⟩ := layout_cases layout
    · have skipped (tabs : Bool) := skipRun_blanks line column index tabs n rest
        (fun c found => ⟨(visible c found).1, (visible c found).2.1⟩)
      have mark := sees_blanks line column index n rest '\ufeff' (by decide)
        (fun c found => (visible c found).2.2.2.1)
      have hash : (⟨rest, line, column + n, index + n⟩ : Reader).sees 0 '#' = false :=
        sees_blanks _ _ _ 0 rest '#' (by decide) (fun c found => (visible c found).2.2.1)
      have stays : (⟨rest, line, column + n, index + n⟩ : Reader).meets 0 isBreak = false := by
        cases rest with
        | nil => rfl
        | cons c rest => simpa [Reader.meets, Reader.peek?] using (visible c rfl).2.2.2.2
      refine ⟨⟨rest, line, column + n, index + n⟩, allowed, ?_, rfl, id, fun none => by simp_all⟩
      simp only [skipBlanks, mark, Bool.false_eq_true, and_false, if_false, skipped, hash, stays]
    · have skipped (tabs : Bool) := skipRun_blanks line column index tabs n
        ('\n' :: (more ++ rest)) (by simp)
      have mark := sees_blanks line column index n ('\n' :: (more ++ rest)) '\ufeff' (by decide) (by simp)
      obtain ⟨r, allowed', passed, there, key, -⟩ := ih (line + 1) 0 (index + n + 1) further
        (allowed || !decide (1 < keys.length)) (by omega)
      refine ⟨r, allowed', ?_, there, fun able => key (by simp [able]), by simp⟩
      simp only [skipBlanks, List.append_assoc, List.cons_append, mark, Bool.false_eq_true, and_false, if_false,
        skipped]
      exact passed

end

/-- The tokenizer stands right before `rest`. -/
structure At (rest : Text) (depth : Nat) (tokens : List Token) (s : Tokenizer) : Prop
    extends Before rest depth tokens s where
  here : s.reader.rest = rest

section
variable {rest : Text} {depth : Nat} {tokens : List Token} {s : Tokenizer}

theorem dropKey_of_lenient (lenient : Lenient s.keys) :
    s.dropKey = some (s.setKey none) := by
  rw [dropKey, if_neg]
  cases keys : s.keys with
  | nil => simp [key?, keys]
  | cons k keys =>
    cases k with
    | none => simp [key?, keys]
    | some mark => simp [key?, keys, lenient (some mark) (keys ▸ List.mem_cons_self ..) mark rfl]

theorem dropStale_of_lenient (lenient : Lenient s.keys) :
    s.dropStale = some { s with keys := s.keys.map fun k => k.filter fun k => !isStale s.reader k } := by
  rw [dropStale, if_neg]
  simp only [List.any_eq_true, not_exists, not_and, Bool.not_eq_true]
  intro k listed
  cases k with
  | none => rfl
  | some mark => simp [lenient (some mark) listed mark rfl]

theorem unroll_of_outside (outside : s.indent = -1) (column : Int) (right : -1 ≤ column) :
    s.unroll column = s := by
  rw [unroll, closeBlocks, if_neg (by simp [outside]; omega)]

/-- The next token is looked for past the layout. -/
theorem Before.look (before : Before rest depth tokens s) (visible : ∀ c ∈ rest.head?, Visible c) :
    ∃ s', At rest depth tokens s' ∧ (s.keyAllowed = true → s'.keyAllowed = true) ∧
      (s.reader.rest = rest → s'.reader = s.reader ∧
        s'.keys = s.keys.map fun k => k.filter fun k => !isStale s.reader k) ∧
      ∀ fuel, Tokenizer.run (fuel + 1) s =
        match rest.head? with
        | none => (s'.unroll (-1)).dropKey
        | some c => (s'.next c).bind (Tokenizer.run fuel) := by
  obtain ⟨gap, layout, ahead⟩ := before.ahead
  obtain ⟨⟨_, line, column, index⟩, array, indent, outer, allowed, keys⟩ := s
  obtain rfl := ahead
  obtain ⟨reader, allowed', skipped, here, key, stays⟩ := skipBlanks_layout line column index layout
    visible array indent outer allowed keys ((gap ++ rest).length + 1)
    (Nat.lt_succ_of_le (List.prefix_append ..).length_le)
  let s' : Tokenizer :=
    ⟨reader, array, indent, outer, allowed', keys.map fun k => k.filter fun k => !isStale reader k⟩
  have outside : s'.indent = -1 := before.indent
  refine ⟨s', ⟨⟨⟨[], by simp [IsLayout], by simpa using here⟩, before.tokens, outside, ?_, ?_⟩, here⟩, key,
    ?_, ?_⟩
  · simpa [s'] using before.depth
  · intro k listed mark found
    obtain ⟨k, kept, rfl⟩ := List.mem_map.1 listed
    exact before.lenient k kept mark (Option.mem_filter_iff.1 found).1
  · intro exact
    obtain rfl : gap = [] := by simpa using exact
    obtain rfl := stays rfl
    exact ⟨rfl, rfl⟩
  · intro fuel
    have unrolled := unroll_of_outside outside s'.reader.column (by omega)
    have fresh : (⟨reader, array, indent, outer, allowed', keys⟩ : Tokenizer).dropStale = some s' :=
      dropStale_of_lenient before.lenient
    rw [Tokenizer.run, skipped, fresh]
    show (match (s'.unroll s'.reader.column).reader.peek? 0 with | none => _ | some c => _) = _
    rw [unrolled, Reader.peek?, here, ← List.head?_eq_getElem?]

theorem Before.run {c : Char} {r : Text} (before : Before (c :: r) depth tokens s) (visible : Visible c) :
    ∃ s', At (c :: r) depth tokens s' ∧ (s.keyAllowed = true → s'.keyAllowed = true) ∧
      (s.reader.rest = c :: r → s'.reader = s.reader ∧
        s'.keys = s.keys.map fun k => k.filter fun k => !isStale s.reader k) ∧
      ∀ fuel, Tokenizer.run (fuel + 1) s = (s'.next c).bind (Tokenizer.run fuel) :=
  before.look (by simpa using visible)

/-- Nothing is left to read. -/
theorem Before.done (before : Before [] depth tokens s) (fuel : Nat) :
    (Tokenizer.run (fuel + 1) s).map (fun s => s.tokens.toList) = some tokens := by
  obtain ⟨s', found, -, -, next⟩ := before.look (by simp)
  rw [next]
  show ((s'.unroll (-1)).dropKey).map _ = _
  rw [unroll_of_outside found.indent _ (Int.le_refl _), dropKey_of_lenient found.lenient]
  exact congrArg some found.tokens

theorem lenient_setKey (lenient : Lenient s.keys) {k : Option KeyMark}
    (plain : ∀ mark ∈ k, mark.required = false) : Lenient (s.setKey k).keys := by
  intro k' listed
  obtain rfl | others := List.mem_cons.1 listed
  · exact plain
  · exact lenient k' (List.mem_of_mem_drop others)

theorem length_setKey (k : Option KeyMark) (count : s.keys.length = depth + 1) :
    (s.setKey k).keys.length = depth + 1 := by
  simp [setKey, count]

/-- Outside of blocks a key is never required. -/
theorem At.markKey (found : At rest depth tokens s) :
    ∃ s', s.markKey = some s' ∧ At rest depth tokens s' ∧ s'.reader = s.reader ∧
      (s.keyAllowed = true → ∃ mark, s'.key? = some mark ∧ mark.token = tokens.length ∧
        mark.line = s.reader.line ∧ mark.index = s.reader.index) := by
  rw [Tokenizer.markKey]
  cases allowed : s.keyAllowed with
  | false => exact ⟨s, rfl, found, rfl, by simp⟩
  | true =>
    rw [if_pos rfl, dropKey_of_lenient found.lenient]
    refine ⟨_, rfl, ?_, rfl, fun _ => ⟨_, rfl, ?_, rfl, rfl⟩⟩
    · refine ⟨⟨found.ahead, found.tokens, found.indent, ?_, ?_⟩, found.here⟩
      · exact length_setKey _ (length_setKey _ found.depth)
      · refine lenient_setKey (lenient_setKey found.lenient (by simp)) ?_
        rintro mark ⟨rfl⟩
        simp [setKey, found.indent]
    · simp [← found.tokens, setKey]

/-- A bracket opens. -/
theorem Before.opens {c : Char} {t : Token} {r : Text}
    (sign : c = '[' ∧ t = .flowSequenceStart ∨ c = '\x7b' ∧ t = .flowMappingStart)
    (before : Before (c :: r) depth tokens s) :
    ∃ s', Leads 1 s s' ∧ Before r (depth + 1) (tokens ++ [t]) s' ∧ s'.keyAllowed = true := by
  obtain ⟨s₀, found, -, -, next⟩ := before.run (by obtain ⟨rfl, -⟩ | ⟨rfl, -⟩ := sign <;> decide)
  obtain ⟨s₁, marked, found', -, -⟩ := found.markKey
  have taken : s₀.next c = s₀.openBracket t := by
    obtain ⟨rfl, rfl⟩ | ⟨rfl, rfl⟩ := sign <;>
      simp [Tokenizer.next, Reader.atMarker, Reader.sees, Reader.peek?, found.here]
  refine ⟨_, fun fuel => by rw [next, taken, openBracket, marked]; rfl, ⟨⟨[], ?_⟩, ?_, ?_, ?_, ?_⟩, rfl⟩
  · simp [IsLayout, take, Reader.skip, found'.here]
  · simp [take, found'.tokens]
  · exact found'.indent
  · simp [take, found'.depth]
  · simpa [take, Lenient] using found'.lenient

theorem Before.closes {c : Char} {t : Token} {r : Text}
    (sign : c = ']' ∧ t = .flowSequenceEnd ∨ c = '\x7d' ∧ t = .flowMappingEnd)
    (before : Before (c :: r) (depth + 1) tokens s) :
    ∃ s', Leads 1 s s' ∧ Before r depth (tokens ++ [t]) s' := by
  obtain ⟨s₀, found, -, -, next⟩ := before.run (by obtain ⟨rfl, -⟩ | ⟨rfl, -⟩ := sign <;> decide)
  have taken : s₀.next c = s₀.closeBracket t := by
    obtain ⟨rfl, rfl⟩ | ⟨rfl, rfl⟩ := sign <;>
      simp [Tokenizer.next, Reader.atMarker, Reader.sees, Reader.peek?, found.here]
  have inside : (s₀.setKey none).inFlow = true := by simp [inFlow, setKey, found.depth]
  refine ⟨_, fun fuel => by rw [next, taken, closeBracket, dropKey_of_lenient found.lenient]; rfl,
    ⟨⟨[], ?_⟩, ?_, ?_, ?_, ?_⟩⟩
  · simp [IsLayout, take, Reader.skip, setKey, found.here]
  · simp [take, setKey, found.tokens]
  · exact found.indent
  · simp only [take, inside, if_true]
    simp [setKey, found.depth]
  · intro k listed
    simp only [take, inside, if_true] at listed
    exact found.lenient k (List.mem_of_mem_drop listed)

theorem Before.comma {r : Text} (before : Before (',' :: r) depth tokens s) :
    ∃ s', Leads 1 s s' ∧ Before r depth (tokens ++ [.flowEntry]) s' ∧ s'.keyAllowed = true := by
  obtain ⟨s₀, found, -, -, next⟩ := before.run (by decide)
  have taken : s₀.next ',' =
      s₀.dropKey.map fun s => Tokenizer.take { s with keyAllowed := true } 1 .flowEntry := by
    simp [Tokenizer.next, Reader.atMarker, Reader.sees, Reader.peek?, found.here]
  refine ⟨_, fun fuel => by rw [next, taken, dropKey_of_lenient found.lenient]; rfl,
    ⟨⟨[], ?_⟩, ?_, ?_, ?_, ?_⟩, rfl⟩
  · simp [IsLayout, take, Reader.skip, setKey, found.here]
  · simp [take, setKey, found.tokens]
  · exact found.indent
  · exact length_setKey none found.depth
  · exact lenient_setKey found.lenient (by simp)

/-- Quoted text is one scalar. The tokenizer remembers where it began, as it may be a key if it ends on the same
line. -/
theorem Before.quoted {t r : Text} (kept : Kept t) (before : Before (Json.quote t ++ r) depth tokens s) :
    ∃ s', Leads 1 s s' ∧ At r depth (tokens ++ [.scalar false t]) s' ∧
      (s.keyAllowed = true → (∀ c ∈ t, ¬IsSeparator c) → ∃ mark, s'.key? = some mark ∧
        mark.token = tokens.length ∧ mark.line = s'.reader.line ∧
        s'.reader.index = mark.index + (Json.quote t).length) := by
  have text : Json.quote t ++ r = '"' :: (t.flatMap Json.escape ++ '"' :: r) := by simp [Json.quote]
  rw [text] at before
  obtain ⟨s₀, found, key, -, next⟩ := before.run (by decide)
  obtain ⟨s₁, marked, found', stays, mark⟩ := found.markKey
  have taken : s₀.next '"' = s₀.leaf (Tokenizer.quoted false) := by
    simp [Tokenizer.next, Reader.atMarker, Reader.sees, Reader.peek?, found.here]
  obtain ⟨⟨_, line, column, index⟩, array, indent, outer, allowed, keys⟩ := s₁
  obtain rfl := found'.here
  obtain ⟨line', column', read, onLine'⟩ := quotedScalar_escaped line (column + 1) (index + 1) kept r
    (atDocumentMarker_of_inside _ _ _ (Nat.succ_pos _) _)
    (('"' :: (t.flatMap Json.escape ++ '"' :: r)).length + 1)
    (by have := length_le_escaped t; rw [List.length_cons, List.length_append]; omega)
  have token : Tokenizer.quoted false ⟨'"' :: (t.flatMap Json.escape ++ '"' :: r), line, column, index⟩ =
      some (.scalar false t, ⟨r, line', column', index + 1 + ((t.flatMap Json.escape).length + 1)⟩) := by
    show (quotedScalar false _ ⟨t.flatMap Json.escape ++ '"' :: r, line, column + 1, index + 1⟩).map _ = _
    rw [read]
    rfl
  refine ⟨_, fun fuel => by rw [next, taken, leaf, marked, Option.bind_some, token]; rfl,
    ⟨⟨⟨[], ?_⟩, ?_, ?_, ?_, ?_⟩, ?_⟩, fun allowed whole => ?_⟩
  · simp [IsLayout]
  · simpa [push] using found'.tokens
  · exact found'.indent
  · exact found'.depth
  · exact found'.lenient
  · rfl
  · obtain ⟨mark, held, place, onLine, start⟩ := mark (key allowed)
    refine ⟨mark, held, place, by rw [onLine, ← stays]; exact (onLine' whole).symm, ?_⟩
    rw [start, ← stays, Json.quote]
    simp only [List.length_append, List.length_cons, List.length_nil]
    omega

theorem insertIdxIfInBounds_eq {array : Array Token} {before after : List Token}
    (parts : array.toList = before ++ after) (t : Token) :
    (array.insertIdxIfInBounds before.length t).toList = before ++ t :: after := by
  have inside : before.length ≤ array.size := by
    rw [← Array.length_toList, parts, List.length_append]
    omega
  rw [Array.insertIdxIfInBounds, dif_pos inside, Array.toList_insertIdx, parts]
  clear parts inside
  induction before with
  | nil => rfl
  | cons u before ih => exact congrArg (u :: ·) ih

/-- A colon makes a key of the scalar in front of it. -/
theorem Before.colon {t : Token} {r : Text} {mark : KeyMark}
    (before : Before (':' :: r) (depth + 1) (tokens ++ [t]) s) (here : s.reader.rest = ':' :: r)
    (held : s.key? = some mark) (place : mark.token = tokens.length) (fresh : isStale s.reader mark = false) :
    ∃ s', Leads 1 s s' ∧ Before r (depth + 1) (tokens ++ [.key, t, .value]) s' := by
  obtain ⟨s₀, found, -, same, next⟩ := before.run (by decide)
  obtain ⟨-, keys⟩ := same here
  have inside : s₀.inFlow = true := by simp [inFlow, found.depth]
  have held' : s₀.key? = some mark := by
    cases marks : s.keys with
    | nil => simp [key?, marks] at held
    | cons k others =>
      obtain rfl : k = some mark := by simpa [key?, marks] using held
      simp [key?, keys, marks, fresh]
  have taken : s₀.next ':' = s₀.colon := by
    simp [Tokenizer.next, Reader.atMarker, Reader.sees, Reader.peek?, found.here, inside]
  -- the key token goes in front of the scalar, and inside of brackets no block opens for it
  let keyed : Tokenizer := { s₀ with tokens := s₀.tokens.insertIdxIfInBounds tokens.length .key }
  have inserted : keyed.tokens.toList = tokens ++ [.key, t] := insertIdxIfInBounds_eq found.tokens .key
  have flat : keyed.openBlock mark.column tokens.length .blockMappingStart = keyed := by
    have inside' : keyed.inFlow = true := inside
    rw [openBlock, inside']
    rfl
  have made : s₀.colon = some (Tokenizer.take { keyed.setKey none with keyAllowed := false } 1 .value) := by
    rw [Tokenizer.colon, held']
    show some (Tokenizer.take { (openBlock _ _ _ _).setKey none with keyAllowed := false } 1 .value) = _
    rw [place, flat]
  refine ⟨_, fun fuel => by rw [next, taken, made]; rfl, ⟨⟨[], ?_⟩, ?_, ?_, ?_, ?_⟩⟩
  · simp [IsLayout, take, Reader.skip, setKey, keyed, found.here]
  · simp [take, setKey, inserted]
  · exact found.indent
  · exact length_setKey (s := s₀) none found.depth
  · exact lenient_setKey (s := s₀) found.lenient (by simp)

/-- Short text in front of a colon is a key. -/
theorem Before.key {t r : Text} (carried : ∀ c ∈ t, Carried c) (short : (Json.quote t).length ≤ 1024)
    (allowed : s.keyAllowed = true) (before : Before (Json.quote t ++ ':' :: r) (depth + 1) tokens s) :
    ∃ s', Leads 2 s s' ∧ Before r (depth + 1) (tokens ++ [.key, .scalar false t, .value]) s' := by
  obtain ⟨s₁, first, found, mark⟩ := before.quoted (.of_carried carried)
  obtain ⟨mark, held, place, onLine, start⟩ := mark allowed fun c listed =>
    not_isSeparator_of_carried (carried c listed)
  obtain ⟨s₂, second, found'⟩ := found.toBefore.colon found.here held place
    (by simp [isStale, onLine, start]; omega)
  exact ⟨s₂, first.trans second, found'⟩

/-- A word is one scalar. -/
theorem Before.word {word gap r : Text} {c : Char} (letters : ∀ d ∈ word, d.isAlphanum = true)
    (nonempty : word ≠ []) (layout : IsLayout gap) (ends : Ends c)
    (before : Before (word ++ (gap ++ c :: r)) (depth + 1) tokens s) :
    ∃ s', Leads 1 s s' ∧ Before (c :: r) (depth + 1) (tokens ++ [.scalar true word]) s' := by
  obtain ⟨d, word, rfl⟩ := List.exists_cons_of_ne_nil nonempty
  rw [List.cons_append] at before
  have other (e : Char) := ne_of_isAlphanum (d := e) (letters d (List.mem_cons_self ..))
  obtain ⟨s₀, found, -, -, next⟩ := before.run
    ⟨other _ rfl, other _ rfl, other _ rfl, other _ (by decide), by simp [isBreak, other]⟩
  obtain ⟨s₁, marked, found', stays, -⟩ := found.markKey
  have taken : s₀.next d = s₀.plain := by
    simp [Tokenizer.next, Reader.atMarker, Reader.sees, Reader.peek?, found.here, beginsPlain, isIndicator,
      isSpace, isBreak, other]
  have inside : s₁.inFlow = true := by simp [inFlow, found'.depth]
  obtain ⟨⟨_, line, column, index⟩, array, indent, outer, allowed, keys⟩ := s₁
  obtain rfl := found'.here
  obtain ⟨broken, line', column', index', read⟩ := plainScalar_word line column index letters nonempty
    layout ends r (indent + 1).toNat ((d :: (word ++ (gap ++ c :: r))).length + 1) (by simp)
  rw [List.cons_append] at read
  refine ⟨_, fun fuel => by rw [next, taken, plain, marked, Option.bind_some, inside, read]; rfl,
    ⟨⟨[], ?_⟩, ?_, ?_, ?_, ?_⟩⟩
  · simp [IsLayout]
  · simpa [push] using found'.tokens
  · exact found'.indent
  · exact found'.depth
  · exact found'.lenient

end

end ClassNav.Yaml.Tokenizer
