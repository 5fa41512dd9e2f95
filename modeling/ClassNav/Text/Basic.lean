/-!
Text as a list of characters. Offsets into a text count the bytes of its UTF-8 form, so `find?` and
`splitAt?` speak in bytes while the data stay characters.
-/

namespace ClassNav

abbrev Text := List Char

instance : Coe String Text := ⟨String.toList⟩

namespace Text

def byteLength : Text → Nat
  | [] => 0
  | c :: r => c.utf8Size + byteLength r

@[simp] theorem byteLength_nil : byteLength [] = 0 := rfl

@[simp] theorem byteLength_cons (c : Char) (r : Text) :
    byteLength (c :: r) = c.utf8Size + byteLength r := rfl

@[simp] theorem byteLength_append (a b : Text) :
    byteLength (a ++ b) = byteLength a + byteLength b := by
  induction a with
  | nil => simp
  | cons c r ih => simp [ih, Nat.add_assoc]

/-- The two sides of a byte offset. There are none past the end or inside a character. -/
def splitAt? : Text → Nat → Option (Text × Text)
  | t, 0 => some ([], t)
  | [], _ + 1 => none
  | c :: r, n + 1 =>
    if c.utf8Size ≤ n + 1 then
      (splitAt? r (n + 1 - c.utf8Size)).map fun (before, after) => (c :: before, after)
    else none

theorem splitAt?_append (a b : Text) : splitAt? (a ++ b) (byteLength a) = some (a, b) := by
  induction a with
  | nil => cases b <;> rfl
  | cons c r ih =>
    have positive := c.utf8Size_pos
    obtain ⟨n, hn⟩ : ∃ n, byteLength (c :: r) = n + 1 :=
      ⟨c.utf8Size + byteLength r - 1, by simp; omega⟩
    have rest : n + 1 - c.utf8Size = byteLength r := by simp at hn; omega
    have fits : c.utf8Size ≤ n + 1 := by simp at hn; omega
    rw [hn, List.cons_append, splitAt?, if_pos fits, rest, ih]
    rfl

theorem append_of_splitAt? {t a b : Text} {n : Nat} (h : splitAt? t n = some (a, b)) :
    t = a ++ b ∧ n = byteLength a := by
  fun_induction splitAt? t n generalizing a b with
  | case1 t => simp_all
  | case2 n => simp at h
  | case3 c r n fits ih =>
    obtain ⟨⟨x, y⟩, hxy, he⟩ := Option.map_eq_some_iff.1 h
    obtain ⟨rfl, hn⟩ := ih hxy
    simp only [Prod.mk.injEq] at he
    obtain ⟨rfl, rfl⟩ := he
    exact ⟨rfl, by simp; omega⟩
  | case4 => simp at h

/-- Byte offset of the first occurrence of `key`. -/
def find? (key : Text) : Text → Option Nat
  | [] => if key.isEmpty then some 0 else none
  | c :: r => if key.isPrefixOf (c :: r) then some 0 else (find? key r).map (c.utf8Size + ·)

def contains (t key : Text) : Bool := (find? key t).isSome

/-- What follows `lead`, when the text begins with it. -/
def stripPrefix? (lead t : Text) : Option Text := lead.isPrefixOf? t

def lines (t : Text) : List Text := t.splitOn '\n'

theorem lines_ne_nil (t : Text) : lines t ≠ [] := List.splitOn_ne_nil _ _

/-- A line as an editor shows it: one carriage return before the line feed is not part of it. -/
def dropCarriageReturn (line : Text) : Text :=
  if line.getLast? = some '\r' then line.dropLast else line

def lowerAscii (t : Text) : Text := t.map Char.toLower

/-- Equality up to the case of ASCII letters. -/
def sameAscii (a b : Text) : Bool := lowerAscii a == lowerAscii b

/-- The number that decimal digits write. -/
def ofDigits (digits : Text) : Nat := digits.foldl (fun n c => n * 10 + (c.toNat - '0'.toNat)) 0

def decimal (n : Nat) : Text := Nat.toDigits 10 n

def joinWith (separator : Text) (parts : List Text) : Text := separator.intercalate parts

end Text

end ClassNav
