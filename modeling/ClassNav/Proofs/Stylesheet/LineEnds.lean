import ClassNav.Proofs.Stylesheet.Appended
import ClassNav.Proofs.Text.LineEnds

/-!
A stylesheet with both kinds of line ends. A carriage return at the end of a line is no part of a selector
and of no name, so the same names are declared, and each is found in the same place.
-/

namespace ClassNav.Stylesheet

open Text

theorem classNames_withReturns (content : Text) :
    classNames (withReturns content) = classNames content := by
  have same := map_lines_withReturns (t := content) (f := fun line => dottedNames (selectorPart line))
    fun line _ => by rw [selectorPart_append_plain line (by simp [isSelectorEnd])]
  simp only [classNames, List.flatMap_def, same]

theorem classNamesWith_withReturns (content part : Text) :
    classNamesWith (withReturns content) part = classNamesWith content part := by
  rw [classNamesWith, classNames_withReturns, classNamesWith]

/-- A position is a matter of what is hit on which line. -/
theorem locate?_eq (content name : Text) (policy : Naming.Policy) :
    locate? content name policy =
      ((lines content).map (lineHit? policy (searchKey policy name))).zipIdx.findSome?
        fun (hit, index) => hit.map fun offset => ⟨index, offset + 1⟩ := by
  rw [locate?, List.zipIdx_map, List.findSome?_map]
  rfl

theorem locate?_withReturns {name : Text} (unreturned : '\r' ∉ name) (content : Text)
    (policy : Naming.Policy) : locate? (withReturns content) name policy = locate? content name policy := by
  have lacks : '\r' ∉ searchKey policy name := not_mem_searchKey unreturned (by decide)
  have same := map_lines_withReturns (t := content) (f := lineHit? policy (searchKey policy name))
    fun line _ => lineHit?_concat_return lacks line
  rw [locate?_eq, locate?_eq, same]

end ClassNav.Stylesheet
