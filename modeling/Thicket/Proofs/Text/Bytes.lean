import Mathlib.Data.List.Basic
import Thicket.Proofs.Text.Slices
import Thicket.Text.Utf8

/-!
# Texts among bytes

The bytes of a text may be searched for in those of another one without regard to characters: a text
stands at an offset if its bytes stand there (`StandsAt`). What is found so is found between characters
all the same. UTF-8 tells the first byte of a character from the bytes that follow it, and writes no
character as the beginning of another one; so a text that is not empty stands at an offset just if the
characters do (`standsAt_iff`).
-/

namespace Thicket.Text

variable {w t : Text}

/-! ## Bytes of characters -/

theorem encode_cons (c : Char) (t : Text) : encode (c :: t) = String.utf8EncodeChar c ++ encode t :=
  List.flatMap_cons

theorem encode_append (u v : Text) : encode (u ++ v) = encode u ++ encode v := List.flatMap_append

theorem length_encode (t : Text) : t.encode.length = byteSize t := by
  induction t with
  | nil => rfl
  | cons c t ih => rw [encode_cons, List.length_append, String.length_utf8EncodeChar, ih, byteSize]

/-- Bytes begin with those of one character at most. -/
theorem eq_of_utf8EncodeChar_append {c d : Char} {p q : List UInt8}
    (h : String.utf8EncodeChar c ++ p = String.utf8EncodeChar d ++ q) : c = d ∧ p = q := by
  have hdecode : ∀ (c : Char) (p : List UInt8),
      (String.utf8EncodeChar c ++ p).toByteArray.utf8DecodeChar? 0 = some c := by
    intro c p
    rw [List.toByteArray_append]
    exact ByteArray.utf8DecodeChar?_utf8EncodeChar_append
  have hchar := hdecode c p
  rw [h, hdecode d q] at hchar
  obtain rfl := Option.some.inj hchar
  exact ⟨rfl, List.append_cancel_left h⟩

/-- Where the bytes of a text begin those of another one, the text begins the other one. -/
theorem encode_prefix_iff : w.encode <+: t.encode ↔ w <+: t := by
  constructor
  · intro h
    induction w generalizing t with
    | nil => exact List.nil_prefix
    | cons c w ih =>
      obtain ⟨more, hmore⟩ := h
      rw [encode_cons, List.append_assoc] at hmore
      cases t with
      | nil =>
        have hnil := (List.append_eq_nil_iff.1 hmore).1
        exact absurd hnil (by simp)
      | cons d t =>
        rw [encode_cons] at hmore
        obtain ⟨rfl, hrest⟩ := eq_of_utf8EncodeChar_append hmore
        exact List.cons_prefix_cons.2 ⟨rfl, ih ⟨more, hrest⟩⟩
  · rintro ⟨v, rfl⟩
    rw [encode_append]
    exact List.prefix_append _ _

/-- Within a character no text begins. -/
theorem not_encode_prefix_drop {c : Char} {k : Nat} {rest : List UInt8} (hw : w ≠ []) (hpos : 0 < k)
    (hlt : k < c.utf8Size) : ¬ w.encode <+: (String.utf8EncodeChar c ++ rest).drop k := by
  obtain ⟨d, w, rfl⟩ := List.exists_cons_of_ne_nil hw
  rintro ⟨more, hmore⟩
  have hk : k < (String.utf8EncodeChar c).length := by rwa [String.length_utf8EncodeChar]
  have hzero : 0 < (String.utf8EncodeChar d).length := by
    rw [String.length_utf8EncodeChar]
    exact d.utf8Size_pos
  -- the byte at the offset would be the first one of a character and one that follows it
  have hbyte : (String.utf8EncodeChar d)[0] = (String.utf8EncodeChar c)[k] := by
    have hhead := congrArg (·[0]?) hmore
    simp only [encode_cons, List.append_assoc, List.getElem?_drop, Nat.add_zero,
      List.getElem?_append_left hzero, List.getElem?_append_left hk,
      List.getElem?_eq_getElem hzero, List.getElem?_eq_getElem hk] at hhead
    exact Option.some.inj hhead
  have hfirst : (String.utf8EncodeChar d)[0].IsUTF8FirstByte :=
    UInt8.isUTF8FirstByte_getElem_utf8EncodeChar.2 rfl
  rw [hbyte, UInt8.isUTF8FirstByte_getElem_utf8EncodeChar] at hfirst
  omega

/-! ## Texts at offsets -/

/-- The bytes of a text stand in those of another one from an offset on. -/
def StandsAt (w t : Text) (offset : Nat) : Prop := w.encode <+: t.encode.drop offset

instance (w t : Text) (offset : Nat) : Decidable (w.StandsAt t offset) :=
  inferInstanceAs (Decidable (_ <+: _))

/-- A text stands at an offset just if some characters take as many bytes and it stands behind them. -/
theorem standsAt_iff {offset : Nat} (hw : w ≠ []) :
    w.StandsAt t offset ↔ ∃ u v, t = u ++ v ∧ offset = byteSize u ∧ w <+: v := by
  constructor
  · intro h
    unfold StandsAt at h
    induction t generalizing offset with
    | nil =>
      have hnil : w.encode = [] := by simpa [encode] using h
      have hsize := length_encode w
      have hpos := byteSize_pos hw
      rw [hnil, List.length_nil] at hsize
      omega
    | cons c t ih =>
      by_cases hzero : offset = 0
      · rw [hzero, List.drop_zero, encode_prefix_iff] at h
        exact ⟨[], c :: t, rfl, hzero, h⟩
      · rw [encode_cons] at h
        by_cases hlt : offset < c.utf8Size
        · exact absurd h (not_encode_prefix_drop hw (Nat.pos_of_ne_zero hzero) hlt)
        · rw [List.drop_append, List.drop_eq_nil_of_le, List.nil_append,
            String.length_utf8EncodeChar] at h
          · obtain ⟨u, v, rfl, hsize, hv⟩ := ih h
            refine ⟨c :: u, v, rfl, ?_, hv⟩
            rw [byteSize]
            omega
          · rw [String.length_utf8EncodeChar]
            omega
  · rintro ⟨u, v, rfl, rfl, hv⟩
    unfold StandsAt
    rw [encode_append, ← length_encode u, List.drop_left]
    exact encode_prefix_iff.2 hv

end Thicket.Text
