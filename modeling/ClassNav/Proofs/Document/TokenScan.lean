import ClassNav.Document.TokenScan
import ClassNav.Proofs.Character.Ascii
import ClassNav.Proofs.Document.LineIndex
import ClassNav.Proofs.Document.Token

/-!
The scan among the bytes finds what the cursor shows. A character beyond ASCII has no token byte in it, so a
run of token bytes begins and ends between two characters, and every cut of the scan is one of the text.
-/

namespace ClassNav

namespace Text

/-- What each character of a text is written as lies in a class of bytes or, all of it, outside. -/
theorem takeWhile_flatMap {written : Char → List UInt8} {p : UInt8 → Bool} {q : Char → Bool}
    (same : ∀ c, ∀ b ∈ written c, p b = q c) (nonempty : ∀ c, written c ≠ []) (t : Text) :
    (t.flatMap written).takeWhile p = (t.takeWhile q).flatMap written := by
  induction t with
  | nil => rfl
  | cons c r ih =>
    rw [List.flatMap_cons]
    by_cases inside : q c = true
    · rw [List.takeWhile_cons_of_pos inside, List.flatMap_cons, ← ih]
      exact List.takeWhile_append_of_pos fun b found => (same c b found).trans inside
    · obtain ⟨b, rest, split⟩ := List.exists_cons_of_ne_nil (nonempty c)
      have outside : ¬ p b = true := by rwa [same c b (by simp [split])]
      rw [List.takeWhile_cons_of_neg inside, split, List.cons_append,
        List.takeWhile_cons_of_neg outside]
      rfl

theorem toList_encode (t : Text) : (encode t).data.toList = t.flatMap String.utf8EncodeChar := by
  rw [encode_eq, List.utf8Encode]
  simp

theorem length_flatMap_utf8EncodeChar (t : Text) :
    (t.flatMap String.utf8EncodeChar).length = byteLength t := by
  induction t with
  | nil => rfl
  | cons c r ih => simp [ih]

theorem size_encode (t : Text) : (encode t).size = byteLength t := by
  have whole : (encode t).size = (encode t).data.toList.length := rfl
  rw [whole, toList_encode, length_flatMap_utf8EncodeChar]

end Text

namespace Cursor

theorem atOffset?_eq_some_iff {line : Text} {offset : Nat} {c : Cursor} :
    atOffset? line offset = some c ↔ c.line = line ∧ c.offset = offset := by
  constructor
  · intro here
    obtain ⟨⟨before, after⟩, cut, rfl⟩ := Option.map_eq_some_iff.1 here
    obtain ⟨rfl, rfl⟩ := Text.splitAt?_eq_some_iff.1 cut
    exact ⟨rfl, rfl⟩
  · rintro ⟨rfl, rfl⟩
    exact c.atOffset?_line

theorem isTokenChar_of_mem_tokenBefore {c : Cursor} :
    ∀ d ∈ c.tokenBefore, Reference.isTokenChar d = true :=
  fun _ found => List.mem_takeWhile_imp (List.mem_reverse.1 found)

/-- The run before the cursor begins behind a character of another class, or with the line. -/
theorem exists_front (c : Cursor) :
    ∃ front, c.before = front ++ c.tokenBefore ∧ ∀ d ∈ front.getLast?, Reference.isTokenChar d = false := by
  refine ⟨(c.before.reverse.dropWhile Reference.isTokenChar).reverse, ?_, ?_⟩
  · rw [tokenBefore, ← List.reverse_append, List.takeWhile_append_dropWhile, List.reverse_reverse]
  · rw [List.getLast?_reverse]
    exact Text.stops_dropWhile Reference.isTokenChar c.before.reverse

theorem tokenBefore_of_run {front part after : Text}
    (chars : ∀ d ∈ part, Reference.isTokenChar d = true)
    (opens : ∀ d ∈ front.getLast?, Reference.isTokenChar d = false) :
    (Cursor.mk (front ++ part) after).tokenBefore = part := by
  rw [tokenBefore, List.reverse_append, Text.takeWhile_append_stop, List.reverse_reverse]
  · exact fun d found => chars d (List.mem_reverse.1 found)
  · rwa [List.head?_reverse]

end Cursor

namespace TokenScan

open Text

theorem toNat_of_isTokenByte {b : UInt8} (h : isTokenByte b = true) : b.toNat < 128 := by
  simp only [isTokenByte, Bool.or_eq_true, decide_eq_true_eq, beq_iff_eq, UInt8.le_iff_toNat_le] at h
  obtain (((h | h) | h) | rfl) | rfl := h
  · exact Nat.lt_of_le_of_lt h.2 (by decide)
  · exact Nat.lt_of_le_of_lt h.2 (by decide)
  · exact Nat.lt_of_le_of_lt h.2 (by decide)
  · decide
  · decide

/-- Characters beyond ASCII are written with bytes beyond ASCII only. -/
theorem toNat_of_mem_utf8EncodeChar {c : Char} {b : UInt8} (found : b ∈ String.utf8EncodeChar c)
    (wide : 128 ≤ c.toNat) : 128 ≤ b.toNat := by
  have wide : ¬ c.val.toNat ≤ 127 := Nat.not_le_of_lt wide
  dsimp only [String.utf8EncodeChar] at found
  rw [if_neg wide] at found
  split at found <;> [skip; split at found] <;>
    simp only [List.mem_cons, List.not_mem_nil, or_false] at found
  · obtain rfl | rfl := found <;> rw [UInt8.toNat_ofNat'] <;> omega
  · obtain rfl | rfl | rfl := found <;> rw [UInt8.toNat_ofNat'] <;> omega
  · obtain rfl | rfl | rfl | rfl := found <;> rw [UInt8.toNat_ofNat'] <;> omega

/-- The bytes of a character are token bytes if it is a token character, and otherwise none of them is. -/
theorem isTokenByte_eq {c : Char} {b : UInt8} (found : b ∈ String.utf8EncodeChar c) :
    isTokenByte b = Reference.isTokenChar c := by
  by_cases ascii : c.toNat < 128
  · have checked : ∀ n < 128, isTokenByte (UInt8.ofNat n) = Reference.isTokenChar (Char.ofNat n) := by
      decide
    have small : c.val.toNat ≤ 127 := Nat.le_of_lt_succ ascii
    dsimp only [String.utf8EncodeChar] at found
    rw [if_pos small, List.mem_singleton] at found
    rw [found]
    exact (checked _ ascii).trans (by rw [Char.ofNat_toNat])
  · have wide := toNat_of_mem_utf8EncodeChar found (Nat.le_of_not_lt ascii)
    have no_byte : isTokenByte b = false := by
      rw [← Bool.not_eq_true]
      exact fun inside => absurd (toNat_of_isTokenByte inside) (Nat.not_lt_of_le wide)
    have no_char : Reference.isTokenChar c = false := by
      rw [← Bool.not_eq_true]
      exact fun inside => ascii (Character.toNat_of_isTokenChar inside)
    rw [no_byte, no_char]

/-- Going back takes the run of token bytes at the end of what stands before the offset. -/
theorem first_eq (bytes : ByteArray) (offset : Nat) (inside : offset ≤ bytes.size) :
    first bytes offset inside =
      offset - ((bytes.data.toList.take offset).reverse.takeWhile isTokenByte).length := by
  induction offset with
  | zero => rfl
  | succ n ih =>
    have listed : bytes.data.toList.take (n + 1) = bytes.data.toList.take n ++ [bytes[n]] := by
      rw [List.take_succ_eq_append_getElem inside]
      rfl
    rw [first, listed, List.reverse_concat]
    split
    next token =>
      rw [List.takeWhile_cons_of_pos token, ih, List.length_cons, Nat.add_sub_add_right]
    next other => simp [List.takeWhile_cons_of_neg other]

theorem utf8EncodeChar_ne_nil (c : Char) : String.utf8EncodeChar c ≠ [] := by
  rw [← List.length_pos_iff, String.length_utf8EncodeChar]
  exact c.utf8Size_pos

/-- Among the bytes the way back stops where the run of token characters begins. -/
theorem first_encode (c : Cursor) (inside : c.offset ≤ (encode c.line).size) :
    ∃ front, c.before = front ++ c.tokenBefore ∧
      first (encode c.line) c.offset inside = byteLength front := by
  obtain ⟨front, split, -⟩ := c.exists_front
  refine ⟨front, split, ?_⟩
  have taken : ((encode c.line).data.toList.take c.offset).reverse =
      c.before.reverse.flatMap fun d => (String.utf8EncodeChar d).reverse := by
    rw [toList_encode, Cursor.line, Cursor.offset, List.flatMap_append,
      ← length_flatMap_utf8EncodeChar, List.take_left, List.reverse_flatMap]
    rfl
  have run : (c.before.reverse.flatMap fun d => (String.utf8EncodeChar d).reverse).takeWhile isTokenByte =
      c.tokenBefore.reverse.flatMap fun d => (String.utf8EncodeChar d).reverse := by
    rw [Cursor.tokenBefore, List.reverse_reverse]
    exact takeWhile_flatMap (fun d b found => isTokenByte_eq (List.mem_reverse.1 found))
      (fun d => by simp) _
  have counted (t : Text) :
      (t.flatMap fun d => (String.utf8EncodeChar d).reverse).length = byteLength t := by
    rw [← length_flatMap_utf8EncodeChar, List.length_flatMap, List.length_flatMap]
    simp
  have whole : c.offset = byteLength front + byteLength c.tokenBefore := by
    rw [← byteLength_append, ← split, Cursor.offset]
  rw [first_eq, taken, run, counted, byteLength_reverse]
  omega

theorem last_encode (front rest : Text) :
    last (encode (front ++ rest)) (byteLength front) =
      byteLength front + byteLength (rest.takeWhile Reference.isTokenChar) := by
  have dropped : (encode (front ++ rest)).data.toList.drop (byteLength front) =
      rest.flatMap String.utf8EncodeChar := by
    rw [toList_encode, List.flatMap_append, ← length_flatMap_utf8EncodeChar, List.drop_left]
  rw [last, dropped, takeWhile_flatMap (fun _ _ => isTokenByte_eq) utf8EncodeChar_ne_nil,
    length_flatMap_utf8EncodeChar]

/-- No cut of the scan fails, and it finds the token of the cursor. -/
theorem token?_of_cursor (c : Cursor) : token? c.line c.offset = some c.token? := by
  have inside : c.offset ≤ (encode c.line).size ∧ (splitAt? c.line c.offset).isSome := by
    rw [size_encode, Cursor.line, Cursor.offset, byteLength_append, splitAt?_append]
    exact ⟨Nat.le_add_right .., rfl⟩
  obtain ⟨front, split, reached⟩ := first_encode c inside.1
  have line : c.line = front ++ (c.tokenBefore ++ c.after) := by
    rw [Cursor.line, ← List.append_assoc, ← split]
  have shown : slice? c.line (byteLength front) c.offset = some c.tokenBefore :=
    slice?_eq_some_iff.2 ⟨front, c.after, line, rfl, by rw [Cursor.offset, split, byteLength_append]⟩
  let token := c.tokenBefore ++ c.after.takeWhile Reference.isTokenChar
  have ended : last (encode c.line) (byteLength front) = byteLength front + byteLength token := by
    rw [line, last_encode, List.takeWhile_append_of_pos Cursor.isTokenChar_of_mem_tokenBefore]
  have cut : slice? c.line (byteLength front) (byteLength front + byteLength token) = some token := by
    refine slice?_eq_some_iff.2 ⟨front, c.after.dropWhile Reference.isTokenChar, ?_, rfl, rfl⟩
    rw [line, List.append_assoc, List.takeWhile_append_dropWhile]
  rw [TokenScan.token?, dif_pos inside]
  dsimp only
  rw [reached, shown, Option.bind_some, ended, cut, Cursor.token?]
  split <;> rfl

theorem token?_eq (line : Text) (offset : Nat) :
    token? line offset = some ((Cursor.atOffset? line offset).bind Cursor.token?) := by
  cases here : Cursor.atOffset? line offset with
  | none =>
    have uncut : splitAt? line offset = none := Option.map_eq_none_iff.1 here
    have outside : ¬ (offset ≤ (encode line).size ∧ (splitAt? line offset).isSome = true) := by
      simp [uncut]
    rw [token?, dif_neg outside]
    rfl
  | some c =>
    obtain ⟨rfl, rfl⟩ := Cursor.atOffset?_eq_some_iff.1 here
    exact token?_of_cursor c

/-- Nor does one when the token is taken apart. -/
theorem reference?_eq (line : Text) (offset : Nat) :
    reference? line offset = some ((Cursor.atOffset? line offset).bind Cursor.reference?) := by
  rw [reference?, token?_eq, Option.map_some, Option.bind_assoc]
  rfl

end TokenScan

end ClassNav
