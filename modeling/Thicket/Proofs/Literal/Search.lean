import Mathlib.Order.Bounds.Basic
import Thicket.Proofs.Matcher.Lawful
import Thicket.Proofs.Text.Bytes

/-!
# Literals are found where they stand

The search for a literal goes by the characters of a text. What it says of the bytes is put here without
the search: a literal stands in a text at an offset if its bytes do, and it may come to stand at an offset
inside the text if some text behind makes it stand there (`Text.MayStandAt`).

The search is exact for both (`Matcher.literal_exact`). It answers with the least offset at which the
literal stands; failing that, with the least one at which it may come to stand; and with nothing only if it
will stand at no offset inside the text, whatever is to follow.
-/

namespace Thicket

namespace Text

/-- Inside a text, a literal stands at an offset, or would if the right text were to follow. -/
def MayStandAt (w t : Text) (offset : Nat) : Prop :=
  offset < byteSize t ∧ ∃ s, w.StandsAt (t ++ s) offset

/-! ## The least offset -/

theorem byteSize_le_of_length_le {u v u' v' : Text} (h : u ++ v = u' ++ v') (hle : u.length ≤ u'.length) :
    byteSize u ≤ byteSize u' := by
  obtain ⟨a, rfl⟩ : u <+: u' := List.prefix_of_prefix_length_le ⟨v, h⟩ ⟨v', rfl⟩ hle
  rw [byteSize_append]
  omega

/-- The offset of the first place with a property is the least offset of all places with it. -/
theorem FirstPlace.isLeast {P : Text → Text → Prop} {t u v : Text} (h : FirstPlace P t u v)
    {offsets : Set Nat}
    (hoffsets : ∀ k, k ∈ offsets ↔ ∃ u v, t = u ++ v ∧ v ≠ [] ∧ k = byteSize u ∧ P u v) :
    IsLeast offsets (byteSize u) := by
  refine ⟨(hoffsets _).2 ⟨u, v, h.split, h.inside, rfl, h.holds⟩, ?_⟩
  intro k hk
  obtain ⟨u', v', hsplit, -, rfl, hholds⟩ := (hoffsets k).1 hk
  apply byteSize_le_of_length_le (h.split.symm.trans hsplit)
  by_contra hlt
  exact h.first u' v' hsplit (Nat.lt_of_not_le hlt) hholds

/-! ## Places and offsets -/

section Literal

variable {w t : Text} {offset : Nat}

/-- A literal stands at the places at which the rest of the text begins with it. -/
theorem standsAt_iff_place (hw : w ≠ []) :
    w.StandsAt t offset ↔ ∃ u v, t = u ++ v ∧ v ≠ [] ∧ offset = byteSize u ∧ w <+: v := by
  rw [standsAt_iff hw]
  constructor
  · rintro ⟨u, v, hsplit, hoffset, hprefix⟩
    refine ⟨u, v, hsplit, ?_, hoffset, hprefix⟩
    rintro rfl
    exact hw (List.prefix_nil.1 hprefix)
  · rintro ⟨u, v, hsplit, -, hoffset, hprefix⟩
    exact ⟨u, v, hsplit, hoffset, hprefix⟩

/-- Where a literal stands, it may stand. -/
theorem StandsAt.mayStandAt (hw : w ≠ []) (h : w.StandsAt t offset) : w.MayStandAt t offset := by
  obtain ⟨u, v, rfl, hv, rfl, -⟩ := (standsAt_iff_place hw).1 h
  refine ⟨?_, [], by rwa [List.append_nil]⟩
  have hpos := byteSize_pos hv
  rw [byteSize_append]
  omega

/-- In a text in which it does not stand, a literal may come to stand at the places at which the rest of the
text is the beginning of it. -/
theorem mayStandAt_iff_place (hw : w ≠ []) (hno : ∀ k, ¬ w.StandsAt t k) :
    w.MayStandAt t offset ↔ ∃ u v, t = u ++ v ∧ v ≠ [] ∧ offset = byteSize u ∧ v <+: w := by
  constructor
  · rintro ⟨hlt, s, hstands⟩
    obtain ⟨a, b, hsplit, rfl, hprefix⟩ := (standsAt_iff hw).1 hstands
    -- the place is inside the text, so that what follows begins behind it
    obtain ⟨v, rfl, rfl⟩ : ∃ v, t = a ++ v ∧ b = v ++ s := by
      rcases List.append_eq_append_iff.1 hsplit with ⟨c, rfl, -⟩ | ⟨v, rfl, rfl⟩
      · rw [byteSize_append] at hlt
        omega
      · exact ⟨v, rfl, rfl⟩
    have hv : v ≠ [] := by
      rintro rfl
      rw [List.append_nil] at hlt
      exact Nat.lt_irrefl _ hlt
    refine ⟨a, v, rfl, hv, rfl, ?_⟩
    -- the literal does not stand there yet, so it is longer than the rest of the text
    refine (List.prefix_or_prefix_of_prefix (List.prefix_append v s) hprefix).resolve_right ?_
    intro hshort
    exact hno _ ((standsAt_iff hw).2 ⟨a, v, rfl, rfl, hshort⟩)
  · rintro ⟨u, v, rfl, hv, rfl, s, rfl⟩
    refine ⟨?_, s, (standsAt_iff hw).2 ⟨u, v ++ s, ?_, rfl, List.prefix_refl _⟩⟩
    · have hpos := byteSize_pos hv
      rw [byteSize_append]
      omega
    · rw [List.append_assoc]

/-! ## The search -/

/-- What the search for a literal finds: the least offset at which it stands, or else the least one at which
it may come to stand, or nothing if there is none. -/
theorem findLiteral_cases (hw : w ≠ []) (t : Text) :
    (∃ k, IsLeast {k | w.StandsAt t k} k ∧ findLiteral w t = some (.full k (k + byteSize w))) ∨
    (∀ k, ¬ w.StandsAt t k) ∧
      ((∃ k, IsLeast {k | w.MayStandAt t k} k ∧ findLiteral w t = some (.begun k)) ∨
        (∀ k, ¬ w.MayStandAt t k) ∧ findLiteral w t = none) := by
  unfold findLiteral
  rw [if_neg (by simpa using hw)]
  rcases find?_places (w.isPrefixOf ·.rest) t with ⟨u, v, hfirst, hfind⟩ | ⟨hnone, hfind⟩
  · left
    rw [hfind]
    refine ⟨byteSize u, hfirst.isLeast fun k => ?_, rfl⟩
    simp only [Set.mem_ofPred_eq, standsAt_iff_place hw, placeAt, List.isPrefixOf_iff_prefix]
  · right
    have hno : ∀ k, ¬ w.StandsAt t k := by
      intro k hk
      obtain ⟨u, v, hsplit, hv, -, hprefix⟩ := (standsAt_iff_place hw).1 hk
      have hfalse : w.isPrefixOf v = false := hnone u v hsplit hv
      rw [List.isPrefixOf_iff_prefix.2 hprefix] at hfalse
      cases hfalse
    refine ⟨hno, ?_⟩
    rw [hfind]
    rcases find?_places (·.rest.isPrefixOf w) t with ⟨u, v, hfirst, hfind⟩ | ⟨hnone, hfind⟩
    · left
      refine ⟨byteSize u, hfirst.isLeast fun k => ?_, ?_⟩
      · simp only [Set.mem_ofPred_eq, mayStandAt_iff_place hw hno, placeAt, List.isPrefixOf_iff_prefix]
      · simp only [hfind]
        rfl
    · right
      refine ⟨?_, by simp only [hfind, Option.map_none]⟩
      intro k hk
      obtain ⟨u, v, hsplit, hv, -, hprefix⟩ := (mayStandAt_iff_place hw hno).1 hk
      have hfalse : v.isPrefixOf w = false := hnone u v hsplit hv
      rw [List.isPrefixOf_iff_prefix.2 hprefix] at hfalse
      cases hfalse

/-- A literal is found just at the least offset at which it stands. -/
theorem findLiteral_eq_full_iff (hw : w ≠ []) {start stop : Nat} :
    findLiteral w t = some (.full start stop) ↔
      IsLeast {k | w.StandsAt t k} start ∧ stop = start + byteSize w := by
  rcases findLiteral_cases hw t with ⟨k, hleast, hfind⟩ | ⟨hno, ⟨k, -, hfind⟩ | ⟨-, hfind⟩⟩ <;> rw [hfind]
  · constructor
    · intro heq
      cases heq
      exact ⟨hleast, rfl⟩
    · rintro ⟨hleast', rfl⟩
      rw [hleast.unique hleast']
  · exact iff_of_false nofun fun ⟨hleast, _⟩ => hno start hleast.1
  · exact iff_of_false nofun fun ⟨hleast, _⟩ => hno start hleast.1

/-- A literal may have begun just at the least offset at which it may come to stand, if it stands nowhere. -/
theorem findLiteral_eq_begun_iff (hw : w ≠ []) {start : Nat} :
    findLiteral w t = some (.begun start) ↔
      (∀ k, ¬ w.StandsAt t k) ∧ IsLeast {k | w.MayStandAt t k} start := by
  rcases findLiteral_cases hw t with ⟨k, hleast, hfind⟩ | ⟨hno, ⟨k, hleast, hfind⟩ | ⟨hnever, hfind⟩⟩ <;>
    rw [hfind]
  · exact iff_of_false nofun fun ⟨hno, _⟩ => hno k hleast.1
  · constructor
    · intro heq
      cases heq
      exact ⟨hno, hleast⟩
    · rintro ⟨-, hleast'⟩
      rw [hleast.unique hleast']
  · exact iff_of_false nofun fun ⟨_, hleast⟩ => hnever start hleast.1

/-- Nothing is found just if the literal comes to stand at no offset inside the text, whatever follows. -/
theorem findLiteral_eq_none_iff (hw : w ≠ []) :
    findLiteral w t = none ↔ ∀ k, ¬ w.MayStandAt t k := by
  rcases findLiteral_cases hw t with ⟨k, hleast, hfind⟩ | ⟨-, ⟨k, hleast, hfind⟩ | ⟨hnever, hfind⟩⟩ <;>
    rw [hfind]
  · exact iff_of_false nofun fun hnever => hnever k (StandsAt.mayStandAt hw hleast.1)
  · exact iff_of_false nofun fun hnever => hnever k hleast.1
  · exact iff_of_true rfl hnever

end Literal

end Text

namespace Matcher

/-- A search for a literal that is not empty is exact, in bytes and for all texts that may follow. It
answers with a full match just if the literal stands in the text, from the least offset at which it does.
Else it answers with the least offset inside the text at which some text to follow makes the literal stand,
and with nothing just if there is no such offset. All the offsets are boundaries of the text. -/
theorem literal_exact {w : Text} (hw : w ≠ []) (t : Text) :
    (∀ start stop, (literal w).search t = some (.full start stop) ↔
      IsLeast {k | w.StandsAt t k} start ∧ stop = start + w.encode.length) ∧
    (∀ start, (literal w).search t = some (.begun start) ↔
      (∀ k, ¬ w.StandsAt t k) ∧ IsLeast {k | w.MayStandAt t k} start) ∧
    ((literal w).search t = none ↔ ∀ k, ¬ w.MayStandAt t k) ∧
    (∀ start stop, (literal w).search t = some (.full start stop) →
      t.IsBoundary start ∧ t.IsBoundary stop) ∧
    ∀ start, (literal w).search t = some (.begun start) → t.IsBoundary start := by
  have hlawful := lawful_literal w
  refine ⟨?_, ?_, ?_, hlawful.full t, hlawful.begun t⟩
  · intro start stop
    rw [Text.length_encode]
    exact Text.findLiteral_eq_full_iff hw
  · intro start
    exact Text.findLiteral_eq_begun_iff hw
  · exact Text.findLiteral_eq_none_iff hw

/-- In `xñañañ` the literal `ñañ` stands at the offsets 1 and 4, and the first one is found although the two
overlap. In `xñaxña` it stands nowhere, but may come to stand at the last two letters; behind `ñax` it is too
late for that. -/
theorem literal_exact_overlapping :
    let w : Text := "ñañ".toList
    w ≠ [] ∧ IsLeast {k | w.StandsAt "xñañañ".toList k} 1 ∧ w.StandsAt "xñañañ".toList 4 ∧
      (∀ k, ¬ w.StandsAt "xñaxña".toList k) ∧ IsLeast {k | w.MayStandAt "xñaxña".toList k} 5 ∧
      ∀ k, ¬ w.MayStandAt "ñax".toList k := by
  intro w
  have hw : w ≠ [] := by decide
  obtain ⟨hfull, -⟩ := literal_exact hw "xñañañ".toList
  obtain ⟨-, hbegun, -⟩ := literal_exact hw "xñaxña".toList
  obtain ⟨-, -, hnone, -⟩ := literal_exact hw "ñax".toList
  have hleast := (hfull 1 6).1 (by decide +kernel)
  obtain ⟨hno, hmay⟩ := (hbegun 5).1 (by decide +kernel)
  refine ⟨hw, hleast.1, by decide +kernel, hno, hmay, hnone.1 (by decide +kernel)⟩

end Matcher

end Thicket
