import Mathlib.Data.List.Basic
import Thicket.Proofs.Text.Places

/-!
# Slices of a text

The boundaries of a text are the byte offsets between its characters, its beginning and its end. Between
two boundaries stands a part of the text, and anywhere else there is nothing to take: `slice?` gives the
part if there is one. So whoever has got a slice has kept to the bounds of the text and has cut no
character (`slice?_eq_some_iff`).
-/

namespace Thicket.Text

/-- A byte offset at which a text can be cut in two. -/
def IsBoundary (t : Text) (n : Nat) : Prop := ∃ u v, t = u ++ v ∧ n = byteSize u

/-- The part of a text in the bytes from `start` to `stop`, if these are boundaries in this order. -/
def slice? (start stop : Nat) (t : Text) : Option Text :=
  let (before, rest) := splitBytes start t
  let (part, _) := splitBytes (stop - start) rest
  if byteSize before = start ∧ start + byteSize part = stop then some part else none

theorem byteSize_pos {t : Text} (h : t ≠ []) : 0 < byteSize t := by
  cases t with
  | nil => exact absurd rfl h
  | cons c rest =>
    have hpos := c.utf8Size_pos
    rw [byteSize]
    omega

/-- Slices are the parts of a text. -/
theorem slice?_eq_some_iff {start stop : Nat} {t part : Text} :
    slice? start stop t = some part ↔
      ∃ u v, t = u ++ (part ++ v) ∧ start = byteSize u ∧ stop = byteSize u + byteSize part := by
  constructor
  · intro h
    have hfront := splitBytes_append start t
    have hback := splitBytes_append (stop - start) (splitBytes start t).2
    simp only [slice?] at h
    split at h
    · next hsizes =>
      cases h
      refine ⟨(splitBytes start t).1, (splitBytes (stop - start) (splitBytes start t).2).2, ?_, ?_, ?_⟩
      · rw [hback, hfront]
      · exact hsizes.1.symm
      · omega
    · cases h
  · rintro ⟨u, v, rfl, rfl, rfl⟩
    simp [slice?, splitBytes_byteSize]

/-- The rest of a text is a slice up to its end. -/
theorem slice?_rest (u v : Text) : slice? (byteSize u) (byteSize (u ++ v)) (u ++ v) = some v := by
  refine slice?_eq_some_iff.2 ⟨u, [], ?_, rfl, byteSize_append u v⟩
  rw [List.append_nil]

theorem isBoundary_iff {t : Text} {n : Nat} : t.IsBoundary n ↔ byteSize (splitBytes n t).1 = n := by
  constructor
  · rintro ⟨u, v, rfl, rfl⟩
    rw [splitBytes_byteSize]
  · intro h
    exact ⟨_, _, (splitBytes_append n t).symm, h.symm⟩

instance (t : Text) (n : Nat) : Decidable (t.IsBoundary n) := decidable_of_iff _ isBoundary_iff.symm

/-- Nothing can be cut out of a text between an offset and one that is not behind it. -/
theorem cut?_of_le {start stop : Nat} (h : stop ≤ start) (t : Text) : cut? start stop t = none := by
  have hzero : ∀ rest : Text, splitBytes 0 rest = ([], rest) := by
    intro rest
    cases rest <;> simp [splitBytes]
  simp only [cut?, Nat.sub_eq_zero_of_le h, hzero, ↓reduceDIte]

/-- Two boundaries cut a text into three parts. -/
theorem exists_parts {t : Text} {start stop : Nat} (hstart : t.IsBoundary start)
    (hstop : t.IsBoundary stop) (hle : start ≤ stop) :
    ∃ u part v, t = u ++ (part ++ v) ∧ start = byteSize u ∧ stop = byteSize u + byteSize part := by
  obtain ⟨u, rest, ht, hu⟩ := hstart
  obtain ⟨front, v, ht', hfront⟩ := hstop
  have hsplit : u ++ rest = front ++ v := ht.symm.trans ht'
  rcases List.append_eq_append_iff.1 hsplit with ⟨part, hpart, hrest⟩ | ⟨part, hpart, -⟩
  · refine ⟨u, part, v, by rw [ht, hrest], hu, ?_⟩
    rw [hfront, hpart, byteSize_append]
  · -- the second boundary does not stand before the first one, so that nothing is between them
    have hsize : byteSize u = byteSize front + byteSize part := by rw [hpart, byteSize_append]
    have hnil : part = [] := by
      by_contra hne
      have hpos := byteSize_pos hne
      omega
    rw [hnil, List.append_nil] at hpart
    refine ⟨u, [], rest, ht, hu, ?_⟩
    rw [hfront, hpart]
    rfl

end Thicket.Text
