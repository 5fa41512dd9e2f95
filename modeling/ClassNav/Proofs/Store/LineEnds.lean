import ClassNav.Proofs.Store.Kinds
import ClassNav.Proofs.Text.LineEnds

/-!
A tree in which some of the text files have both kinds of line ends.
-/

namespace ClassNav

/-- A text file with a carriage return before each line feed. Other entries stay as they are. -/
def Entry.withReturns : Entry → Entry
  | .directory => .directory
  | .file bytes =>
    match Text.decode? bytes with
    | some content => .file (Text.encode (Text.withReturns content))
    | none => .file bytes

namespace Store

/-- The tree with the chosen ones of its text files converted. -/
def withReturns (chosen : Location → Bool) (s : Store) : Store :=
  s.mapEntries fun l e => if chosen l then e.withReturns else e

variable (chosen : Location → Bool) (s : Store)

theorem entry?_withReturns (l : Location) :
    Store.entry? (s.withReturns chosen) l = (s.entry? l).map fun e => if chosen l then e.withReturns else e :=
  entry?_mapEntries (by split <;> rfl) s l

theorem sameKinds_withReturns : SameKinds s (s.withReturns chosen) where
  cwd := rfl
  kinds := by
    intro l
    rw [entry?_withReturns, Option.map_map]
    congr 1
    funext e
    obtain _ | bytes := e
    · cases chosen l <;> rfl
    · cases chosen l
      · rfl
      · simp only [Function.comp_apply, if_true, Entry.withReturns]
        cases Text.decode? bytes <;> rfl

/-- A file reads as before, or as before with its line ends converted. -/
theorem readText_withReturns (p : Path) :
    (s.withReturns chosen).readText p = s.readText p ∨
      ∃ content, s.readText p = .ok content ∧
        (s.withReturns chosen).readText p = .ok (Text.withReturns content) := by
  simp only [readText, Store.read, find, (sameKinds_withReturns chosen s).locate]
  cases s.locate p with
  | error cause => exact .inl rfl
  | ok l =>
    simp only [entry?_withReturns]
    obtain _ | _ | bytes := s.entry? l
    · exact .inl rfl
    · left
      cases chosen l <;> rfl
    · cases chosen l with
      | false => exact .inl rfl
      | true => cases decoded : Text.decode? bytes <;> simp [Entry.withReturns, decoded]

end Store

end ClassNav
