import ClassNav.Proofs.Document.TokenScan

/-!
Tokens at byte offsets. A line has a token at an offset if a run of token characters touches the offset and
has a dot before it. The run is the same for all offsets from there to its end, and so is the reference.
-/

namespace ClassNav

open Text

/-- Between `left` and `right` the line has a whole run of token characters. The offset touches it, and
before the offset it has a dot. -/
structure TokenAt (line : Text) (offset : Nat) (left token right : Text) : Prop where
  whole : line = left ++ (token ++ right)
  lower : byteLength left ≤ offset
  upper : offset ≤ byteLength left + byteLength token
  chars : ∀ c ∈ token, Reference.isTokenChar c = true
  opens : ∀ c ∈ left.getLast?, Reference.isTokenChar c = false
  closes : ∀ c ∈ right.head?, Reference.isTokenChar c = false
  dotted : ∃ part, slice? token 0 (offset - byteLength left) = some part ∧ '.' ∈ part

/-- Token characters take one byte each. -/
theorem byteLength_token {token : Text} (chars : ∀ c ∈ token, Reference.isTokenChar c = true) :
    byteLength token = token.length := by
  induction token with
  | nil => rfl
  | cons c r ih =>
    have narrow : c.utf8Size = 1 := by
      rw [Char.utf8Size_eq_one_iff, UInt32.le_iff_toNat_le]
      exact Nat.le_of_lt_succ (Character.toNat_of_isTokenChar (chars c (List.mem_cons_self ..)))
    rw [byteLength_cons, narrow, ih fun d found => chars d (List.mem_cons_of_mem c found),
      List.length_cons, Nat.add_comm]

theorem byteLength_take_token {token : Text} (chars : ∀ c ∈ token, Reference.isTokenChar c = true)
    {n : Nat} (within : n ≤ byteLength token) : byteLength (token.take n) = n := by
  rw [byteLength_token chars] at within
  rw [byteLength_token fun c found => chars c (List.mem_of_mem_take found),
    List.length_take_of_le within]

theorem slice?_token {token : Text} (chars : ∀ c ∈ token, Reference.isTokenChar c = true) {n : Nat}
    (within : n ≤ byteLength token) : slice? token 0 n = some (token.take n) :=
  slice?_eq_some_iff.2
    ⟨[], token.drop n, by simp, rfl, by rw [byteLength_take_token chars within, Nat.zero_add]⟩

namespace TokenAt

section
variable {line left token right : Text} {offset : Nat} (at_offset : TokenAt line offset left token right)
include at_offset

/-- The offset cuts the token behind a dot. -/
theorem exists_parts :
    ∃ part rest, token = part ++ rest ∧ '.' ∈ part ∧
      Cursor.atOffset? line offset = some ⟨left ++ part, rest ++ right⟩ := by
  obtain ⟨whole, lower, upper, chars, -, -, part, cut, dot⟩ := at_offset
  have within : offset - byteLength left ≤ byteLength token := by omega
  rw [slice?_token chars within] at cut
  obtain rfl := Option.some.inj cut
  refine ⟨_, token.drop (offset - byteLength left), (List.take_append_drop ..).symm, dot,
    Cursor.atOffset?_eq_some_iff.2 ⟨?_, ?_⟩⟩
  · rw [whole, Cursor.line, List.append_assoc, ← List.append_assoc (token.take _),
      List.take_append_drop]
  · rw [Cursor.offset, byteLength_append, byteLength_take_token chars within]
    omega

/-- The cursor at the offset shows all of the split. -/
theorem exists_cursor :
    ∃ c, Cursor.atOffset? line offset = some c ∧ c.token? = some token ∧ c.before = left ++ c.tokenBefore ∧
      c.after = c.after.takeWhile Reference.isTokenChar ++ right := by
  obtain ⟨part, rest, rfl, dot, cut⟩ := at_offset.exists_parts
  have before : (Cursor.mk (left ++ part) (rest ++ right)).tokenBefore = part :=
    Cursor.tokenBefore_of_run (fun c found => at_offset.chars c (by simp [found])) at_offset.opens
  have after : (rest ++ right).takeWhile Reference.isTokenChar = rest :=
    takeWhile_append_stop (fun c found => at_offset.chars c (by simp [found])) at_offset.closes
  refine ⟨_, cut, ?_, ?_, ?_⟩
  · rw [Cursor.token?, before, if_pos dot, after]
  · rw [before]
  · rw [after]

/-- A later offset that still touches the token has the same one. -/
theorem later {offset' : Nat} (behind : offset ≤ offset')
    (within : offset' ≤ byteLength left + byteLength token) : TokenAt line offset' left token right := by
  obtain ⟨whole, lower, upper, chars, opens, closes, part, cut, dot⟩ := at_offset
  refine ⟨whole, lower.trans behind, within, chars, opens, closes, _, slice?_token chars (by omega), ?_⟩
  rw [slice?_token chars (by omega)] at cut
  obtain rfl := Option.some.inj cut
  exact List.take_subset_take_left token (Nat.sub_le_sub_right behind _) dot

end

/-- Two splits at one offset are the same. -/
theorem unique {line left token right left' token' right' : Text} {offset : Nat}
    (one : TokenAt line offset left token right) (other : TokenAt line offset left' token' right') :
    left = left' ∧ token = token' ∧ right = right' := by
  obtain ⟨c, here, tokened, before, after⟩ := one.exists_cursor
  obtain ⟨c', here', tokened', before', after'⟩ := other.exists_cursor
  obtain rfl := Option.some.inj (here.symm.trans here')
  exact ⟨List.append_cancel_right (before.symm.trans before'),
    Option.some.inj (tokened.symm.trans tokened'), List.append_cancel_left (after.symm.trans after')⟩

/-- The run around a cursor, if a dot stands before the cursor in it. -/
theorem of_token? {c : Cursor} {token : Text} (tokened : c.token? = some token) :
    ∃ left right, TokenAt c.line c.offset left token right := by
  have chars := Cursor.isTokenChar_of_token? tokened
  obtain ⟨left, before, opens⟩ := c.exists_front
  unfold Cursor.token? at tokened
  split at tokened
  next dot =>
    obtain rfl := Option.some.inj tokened
    have reached : c.offset = byteLength left + byteLength c.tokenBefore := by
      rw [Cursor.offset, ← byteLength_append, ← before]
    refine ⟨left, c.after.dropWhile Reference.isTokenChar, ?_, ?_, ?_, chars, opens,
      stops_dropWhile _ _, c.tokenBefore, slice?_eq_some_iff.2 ⟨[], _, rfl, rfl, ?_⟩, dot⟩
    · rw [List.append_assoc, List.takeWhile_append_dropWhile, ← List.append_assoc, ← before, Cursor.line]
    · omega
    · rw [byteLength_append]
      omega
    · omega
  next => cases tokened

end TokenAt

theorem Cursor.token?_atOffset_iff {line token : Text} {offset : Nat} :
    (Cursor.atOffset? line offset).bind Cursor.token? = some token ↔
      (splitAt? line offset).isSome ∧ ∃ left right, TokenAt line offset left token right := by
  constructor
  · intro found
    obtain ⟨c, here, tokened⟩ := Option.bind_eq_some_iff.1 found
    obtain ⟨rfl, rfl⟩ := Cursor.atOffset?_eq_some_iff.1 here
    exact ⟨by rw [Cursor.line, Cursor.offset, splitAt?_append]; rfl, TokenAt.of_token? tokened⟩
  · rintro ⟨-, left, right, at_offset⟩
    obtain ⟨c, here, tokened, -⟩ := at_offset.exists_cursor
    rw [here, Option.bind_some, tokened]

namespace TokenAt

variable {line left token right : Text} {offset : Nat} (at_offset : TokenAt line offset left token right)
include at_offset

theorem reference?_eq : TokenScan.reference? line offset = some (Reference.ofToken? token) := by
  obtain ⟨c, here, tokened, -⟩ := at_offset.exists_cursor
  rw [TokenScan.reference?_eq, here, Option.bind_some, Cursor.reference?, tokened, Option.bind_some]

/-- A token with a dot is cut in one way only. -/
theorem exists_reference :
    ∃ r, Reference.ofToken? token = some r ∧
      ∀ object field, '.' ∉ object ∧ object ++ '.' :: field = token ↔ r = ⟨object, field⟩ := by
  obtain ⟨part, rest, rfl, dot, -⟩ := at_offset.exists_parts
  obtain ⟨r, split⟩ := Reference.exists_of_dotted (List.mem_append_left rest dot)
  refine ⟨r, split, fun object field => ?_⟩
  have cut : Reference.ofToken? (part ++ rest) = some ⟨object, field⟩ ↔
      '.' ∉ object ∧ object ++ '.' :: field = part ++ rest := Reference.ofToken?_eq_some_iff
  rw [← cut, split, Option.some_inj]

end TokenAt

/-- **A token is the whole run of its characters around the offset.** No cut of the scan fails, wherever the
offset is. There is a token exactly if the line can be cut at the offset and has one there, in one way only.
Its reference is the one way to cut the token at its first dot, and every later offset up to the token's end
has the same. -/
theorem tokens_are_runs (line : Text) (offset : Nat) :
    TokenScan.token? line offset = some ((Cursor.atOffset? line offset).bind Cursor.token?) ∧
    TokenScan.reference? line offset = some ((Cursor.atOffset? line offset).bind Cursor.reference?) ∧
    (∀ token, TokenScan.token? line offset = some (some token) ↔
      (splitAt? line offset).isSome ∧ ∃ left right, TokenAt line offset left token right) ∧
    (∀ left token right left' token' right', TokenAt line offset left token right →
      TokenAt line offset left' token' right' → left = left' ∧ token = token' ∧ right = right') ∧
    ∀ left token right, TokenAt line offset left token right →
      (∃ r, TokenScan.reference? line offset = some (some r) ∧
        ∀ object field, '.' ∉ object ∧ object ++ '.' :: field = token ↔ r = ⟨object, field⟩) ∧
      ∀ offset', offset ≤ offset' → offset' ≤ byteLength left + byteLength token →
        TokenScan.reference? line offset' = TokenScan.reference? line offset := by
  have token_iff (token : Text) : TokenScan.token? line offset = some (some token) ↔
      (splitAt? line offset).isSome ∧ ∃ left right, TokenAt line offset left token right := by
    rw [TokenScan.token?_eq, Option.some_inj, Cursor.token?_atOffset_iff]
  refine ⟨TokenScan.token?_eq line offset, TokenScan.reference?_eq line offset, token_iff,
    fun _ _ _ _ _ _ one other => one.unique other, fun left token right at_offset => ⟨?_, ?_⟩⟩
  · obtain ⟨r, split, only⟩ := at_offset.exists_reference
    exact ⟨r, by rw [at_offset.reference?_eq, split], only⟩
  · intro offset' behind within
    rw [at_offset.reference?_eq, (at_offset.later behind within).reference?_eq]

/-- A letter of two bytes before the token, and the offset between its two dots. -/
theorem tokens_are_runs_behind_letter :
    TokenAt "é(s.ab.c)" 6 "é(" "s.ab.c" ")" ∧
      TokenScan.reference? "é(s.ab.c)" 9 = some (some ⟨"s", "ab.c"⟩) := by
  have at_offset : TokenAt "é(s.ab.c)" 6 "é(" "s.ab.c" ")" := by
    refine ⟨rfl, by decide, by decide, List.all_eq_true.1 (by decide), ?_, ?_, "s.a", by decide, by decide⟩
    · rintro c ⟨⟩
      decide
    · rintro c ⟨⟩
      decide
  obtain ⟨-, -, -, -, tokens⟩ := tokens_are_runs "é(s.ab.c)" 6
  obtain ⟨⟨r, reads, only⟩, later⟩ := tokens _ _ _ at_offset
  obtain rfl : r = ⟨"s", "ab.c"⟩ := (only "s" "ab.c").1 (by decide)
  exact ⟨at_offset, (later 9 (by decide) (by decide)).trans reads⟩

end ClassNav
