import ClassNav.Text.Bytes

/-!
Which bytes are text, with text behind them or without.
-/

namespace ClassNav.Text

theorem decode?_isSome_iff {bytes : ByteArray} : (decode? bytes).isSome ↔ bytes.IsValidUTF8 := by
  rw [decode?, Option.isSome_map, ByteArray.isSome_utf8Decode?_iff]

/-- Text that follows cannot finish a character, so it does not make text of bytes that are none. -/
theorem decode?_append_encode_isSome_iff {bytes : ByteArray} {more : Text} :
    (decode? (bytes ++ encode more)).isSome ↔ (decode? bytes).isSome := by
  simp only [decode?_isSome_iff]
  have text : (encode more).IsValidUTF8 := (String.ofList more).isValidUTF8
  refine ⟨fun whole => ?_, fun valid => valid.append text⟩
  let joined : String := ⟨bytes ++ encode more, whole⟩
  -- A place is between two characters when what lies behind it is text; so is then what lies before.
  have cut : String.Pos.Raw.IsValid joined ⟨bytes.size⟩ := by
    refine String.Pos.Raw.isValid_iff_isValidUTF8_extract_utf8ByteSize.2 ⟨?_, ?_⟩
    · simp [String.Pos.Raw.le_iff, joined, String.utf8ByteSize]
    · show ((bytes ++ encode more).extract bytes.size (bytes ++ encode more).size).IsValidUTF8
      rwa [ByteArray.extract_append_eq_right rfl ByteArray.size_append]
  have front : joined.toByteArray.extract 0 bytes.size = bytes := ByteArray.extract_append_eq_left rfl
  exact front ▸ cut.isValidUTF8_extract_zero

end ClassNav.Text
