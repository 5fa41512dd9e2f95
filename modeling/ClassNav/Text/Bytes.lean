import ClassNav.Text.Basic

/-!
Text as UTF-8 bytes.
-/

namespace ClassNav.Text

def encode (t : Text) : ByteArray := (String.ofList t).toByteArray

theorem encode_eq (t : Text) : encode t = t.utf8Encode := rfl

def decode? (bytes : ByteArray) : Option Text := bytes.utf8Decode?.map Array.toList

@[simp] theorem decode?_encode (t : Text) : decode? (encode t) = some t := by
  simp [decode?, encode_eq]

theorem encode_of_decode? {bytes : ByteArray} {t : Text} (h : decode? bytes = some t) :
    encode t = bytes := by
  obtain ⟨chars, found, rfl⟩ := Option.map_eq_some_iff.1 h
  have valid : bytes.utf8Decode?.isSome = true := by simp [found]
  have whole := ByteArray.utf8Encode_get_utf8Decode? (b := bytes) (h := valid)
  simpa [encode_eq, found] using whole

@[simp] theorem encode_append (a b : Text) : encode (a ++ b) = encode a ++ encode b := by
  simp only [encode_eq, List.utf8Encode_append]

theorem decode?_append_encode {bytes : ByteArray} {t : Text} (h : decode? bytes = some t)
    (more : Text) : decode? (bytes ++ encode more) = some (t ++ more) := by
  rw [← encode_of_decode? h, ← encode_append, decode?_encode]

end ClassNav.Text
