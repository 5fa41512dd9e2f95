import ClassNav.Document.Reference
import ClassNav.Proofs.Text.Runs

/-!
What the two parts of a reference are made of.
-/

namespace ClassNav

/-- The object ends at the first dot of the token. -/
theorem Reference.ofToken?_eq_some_iff {token : Text} {r : Reference} :
    ofToken? token = some r ↔ '.' ∉ r.object ∧ r.object ++ '.' :: r.field = token := by
  constructor
  · intro split
    unfold ofToken? at split
    split at split
    next => cases split
    next dot field behind =>
      obtain rfl := Option.some.inj split
      have stops := Text.stops_dropWhile (· ≠ '.') token
      rw [behind] at stops
      obtain rfl : dot = '.' := by simpa using stops dot rfl
      refine ⟨fun dotted => ?_, ?_⟩
      · simpa using List.mem_takeWhile_imp dotted
      · rw [← behind, List.takeWhile_append_dropWhile]
  · rintro ⟨undotted, rfl⟩
    have inside : ∀ c ∈ r.object, decide (c ≠ '.') = true := by
      intro c found
      simpa using ne_of_mem_of_not_mem found undotted
    have stops : ∀ c ∈ ('.' :: r.field).head?, decide (c ≠ '.') = false := by
      rintro c ⟨⟩
      decide
    rw [ofToken?, Text.dropWhile_append_stop inside stops, Text.takeWhile_append_stop inside stops]

theorem Reference.exists_of_dotted {token : Text} (dot : '.' ∈ token) : ∃ r, ofToken? token = some r := by
  unfold ofToken?
  split
  next undotted =>
    have absent := List.dropWhile_eq_nil_iff.1 undotted '.' dot
    simp at absent
  next => exact ⟨_, rfl⟩

namespace Cursor

theorem atOffset?_line (c : Cursor) : atOffset? c.line c.offset = some c := by
  simp [atOffset?, line, offset, Text.splitAt?_append]

theorem isTokenChar_of_token? {c : Cursor} {token : Text} (tokened : c.token? = some token) :
    ∀ d ∈ token, Reference.isTokenChar d = true := by
  unfold token? at tokened
  split at tokened
  next =>
    obtain rfl := Option.some.inj tokened
    intro d found
    obtain before | after := List.mem_append.1 found
    · exact List.mem_takeWhile_imp (List.mem_reverse.1 before)
    · exact List.mem_takeWhile_imp after
  next => cases tokened

/-- A reference is a token, cut at its first dot. -/
theorem chars_of_reference? {c : Cursor} {r : Reference} (reads : c.reference? = some r) :
    (∀ d ∈ r.object, Reference.isTokenChar d = true) ∧ '.' ∉ r.object ∧
      ∀ d ∈ r.field, Reference.isTokenChar d = true := by
  obtain ⟨token, tokened, split⟩ := Option.bind_eq_some_iff.1 reads
  have chars := isTokenChar_of_token? tokened
  obtain ⟨undotted, rfl⟩ := Reference.ofToken?_eq_some_iff.1 split
  exact ⟨fun d found => chars d (by simp [found]), undotted, fun d found => chars d (by simp [found])⟩

end Cursor

end ClassNav
