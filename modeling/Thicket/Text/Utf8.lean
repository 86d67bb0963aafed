import Thicket.Text.Basic

/-!
# Text as bytes

`encode` writes a text in UTF-8 and `decode?` reads it back; bytes that are no UTF-8 give nothing.
Reading accepts exactly what writing produces.
-/

namespace Thicket.Text

/-- The bytes of a text in UTF-8. -/
def encode (t : Text) : List UInt8 := t.flatMap String.utf8EncodeChar

/-- The text that some bytes write in UTF-8. -/
def decode? (bytes : List UInt8) : Option Text :=
  bytes.toByteArray.utf8Decode?.map Array.toList

theorem toByteArray_encode (t : Text) : t.encode.toByteArray = t.utf8Encode := rfl

theorem decode?_encode (t : Text) : decode? t.encode = some t := by
  rw [decode?, toByteArray_encode, List.utf8Decode?_utf8Encode]
  rfl

theorem eq_encode_of_decode? {bytes : List UInt8} {t : Text} (h : decode? bytes = some t) :
    bytes = t.encode := by
  obtain ⟨chars, hchars, rfl⟩ := Option.map_eq_some_iff.1 h
  have hsome : bytes.toByteArray.utf8Decode?.isSome = true := by simp [hchars]
  have hbytes := ByteArray.utf8Encode_get_utf8Decode? (h := hsome)
  simp only [hchars, Option.get_some] at hbytes
  have hdata := congrArg (·.data.toList) hbytes
  simpa [List.utf8Encode, encode] using hdata.symm

theorem length_le_length_encode (t : Text) : t.length ≤ t.encode.length := by
  induction t with
  | nil => simp
  | cons c rest ih =>
    have := c.utf8Size_pos
    simp only [encode, List.flatMap_cons, List.length_append, String.length_utf8EncodeChar,
      List.length_cons] at ih ⊢
    omega

end Thicket.Text
