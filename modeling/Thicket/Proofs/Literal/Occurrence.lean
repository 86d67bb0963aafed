import Mathlib.Data.List.Basic
import Thicket.Matcher.Literal
import Thicket.Proofs.Text.Places

/-!
# Where a literal occurs

`Text.Clear literal u w` says that no occurrence of the literal in the text `u ++ w` begins in `u`; the
empty literal does not occur. The answers of `Text.findLiteral` are put in these terms: a full match is
the leftmost occurrence, a begun match tells that there is none, and no answer tells that there will be
none, whatever text is to follow.
-/

namespace Thicket.Text

/-! ## Occurrences -/

/-- No occurrence of a literal in `u ++ w` begins in `u`. The empty literal does not occur. -/
def Clear (literal u w : Text) : Prop :=
  literal ≠ [] → ∀ a b, u ++ w = a ++ (literal ++ b) → u.length ≤ a.length

theorem Clear.of_append_right {literal u w w' : Text} (h : Clear literal u (w ++ w')) :
    Clear literal u w := by
  intro hne a b heq
  exact h hne a (b ++ w') (by rw [← List.append_assoc, heq]; simp only [List.append_assoc])

theorem Clear.alone {literal u w : Text} (h : Clear literal u w) : Clear literal u [] :=
  Clear.of_append_right (w := []) h

theorem Clear.left {literal u v w : Text} (h : Clear literal (u ++ v) w) :
    Clear literal u (v ++ w) := by
  intro hne a b heq
  have := h hne a b (by rw [List.append_assoc, heq])
  rw [List.length_append] at this
  omega

theorem Clear.right {literal u v w : Text} (h : Clear literal (u ++ v) w) : Clear literal v w := by
  intro hne a b heq
  have := h hne (u ++ a) b (by simp only [List.append_assoc, heq])
  simp only [List.length_append] at this
  omega

/-- An occurrence that does not begin in `u` is one in what follows. -/
theorem Clear.exists_append {literal u w a b : Text} (h : Clear literal u w) (hne : literal ≠ [])
    (heq : u ++ w = a ++ (literal ++ b)) : ∃ a', a = u ++ a' ∧ w = a' ++ (literal ++ b) := by
  have hle := h hne a b heq
  obtain ⟨a', rfl⟩ : u <+: a :=
    List.prefix_of_prefix_length_le ⟨w, heq⟩ ⟨literal ++ b, rfl⟩ hle
  rw [List.append_assoc] at heq
  exact ⟨a', rfl, List.append_cancel_left heq⟩

/-- An occurrence that is the leftmost one stays so, whatever follows it. -/
theorem Clear.extend {literal u : Text} (h : Clear literal u literal) (w : Text) :
    Clear literal u (literal ++ w) := by
  intro hne a b heq
  by_contra hlt
  -- an earlier occurrence would end before this one does
  have hlen : (a ++ literal).length ≤ (u ++ literal).length := by
    simp only [List.length_append]
    omega
  have ha : a ++ literal <+: u ++ (literal ++ w) := ⟨b, by rw [heq, List.append_assoc]⟩
  have hu : u ++ literal <+: u ++ (literal ++ w) := ⟨w, by rw [List.append_assoc]⟩
  obtain ⟨b', hb'⟩ := List.prefix_of_prefix_length_le ha hu hlen
  exact hlt (h hne a b' (by rw [← hb', List.append_assoc]))

/-- A full match is the leftmost occurrence of a literal. -/
theorem findLiteral_full {literal t : Text} {start stop : Nat}
    (h : findLiteral literal t = some (.full start stop)) :
    literal ≠ [] ∧ ∃ u v, t = u ++ (literal ++ v) ∧ start = byteSize u ∧
      stop = byteSize u + byteSize literal ∧ Clear literal u (literal ++ v) := by
  unfold findLiteral at h
  split at h
  · cases h
  · next hne =>
    rw [List.isEmpty_iff] at hne
    split at h
    · next place hplace =>
      cases h
      obtain ⟨u, w, hfirst, rfl⟩ := firstPlace_of_find?_places hplace
      obtain ⟨v, rfl⟩ := List.isPrefixOf_iff_prefix.1 hfirst.holds
      refine ⟨hne, u, v, hfirst.split, rfl, rfl, ?_⟩
      intro _ a b heq
      by_contra hlt
      -- an occurrence further left would be found first
      apply hfirst.first a (literal ++ b)
      · rw [hfirst.split, heq]
      · omega
      · exact List.isPrefixOf_iff_prefix.2 ⟨b, rfl⟩
    · obtain ⟨_, -, heq⟩ := Option.map_eq_some_iff.1 h
      cases heq

/-- If no place has the literal before it, the literal does not occur. -/
theorem clear_of_find?_places {literal t : Text}
    (h : t.places.find? (literal.isPrefixOf ·.rest) = none) : Clear literal t [] := by
  intro hne a b heq
  rw [List.append_nil] at heq
  have hfalse := eq_false_of_find?_places h heq (by simp [hne])
  have htrue : literal.isPrefixOf (literal ++ b) = true := List.isPrefixOf_iff_prefix.2 ⟨b, rfl⟩
  exact absurd (htrue.symm.trans hfalse) (by decide)

/-- A begun match tells that the literal does not occur. -/
theorem findLiteral_begun {literal t : Text} {start : Nat}
    (h : findLiteral literal t = some (.begun start)) : Clear literal t [] := by
  unfold findLiteral at h
  split at h
  · cases h
  · split at h
    · cases h
    · next hfull => exact clear_of_find?_places hfull

/-- If nothing is found, no occurrence of the literal will begin in the text, whatever follows. -/
theorem findLiteral_none {literal t : Text} (h : findLiteral literal t = none) (w : Text) :
    Clear literal t w := by
  intro hne a b heq
  unfold findLiteral at h
  rw [if_neg (by simpa [List.isEmpty_iff] using hne)] at h
  split at h
  · cases h
  · next hfull =>
    rw [Option.map_eq_none_iff] at h
    by_contra hlt
    -- what is left of the text where the occurrence begins is shorter than the literal, or not
    obtain ⟨v, rfl, hv⟩ : ∃ v, t = a ++ v ∧ v ++ w = literal ++ b := by
      obtain ⟨v, rfl, hv⟩ | ⟨v, rfl, hv⟩ := List.append_eq_append_iff.1 heq
      · rw [List.length_append] at hlt
        omega
      · exact ⟨v, rfl, hv.symm⟩
    have hvne : v ≠ [] := by
      rintro rfl
      simp at hlt
    rcases List.prefix_or_prefix_of_prefix ⟨w, hv⟩ ⟨b, rfl⟩ with hsub | hsub
    · have hfalse := eq_false_of_find?_places h rfl hvne
      have htrue : v.isPrefixOf literal = true := List.isPrefixOf_iff_prefix.2 hsub
      exact absurd (htrue.symm.trans hfalse) (by decide)
    · have hfalse := eq_false_of_find?_places hfull rfl hvne
      have htrue : literal.isPrefixOf v = true := List.isPrefixOf_iff_prefix.2 hsub
      exact absurd (htrue.symm.trans hfalse) (by decide)

end Thicket.Text
