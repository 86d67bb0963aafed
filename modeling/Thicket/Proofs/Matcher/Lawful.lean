import Thicket.Matcher.Literal
import Thicket.Matcher.Regular
import Thicket.Proofs.Literal.Occurrence
import Thicket.Proofs.Pattern.Exactness
import Thicket.Proofs.Text.Slices

/-!
# Lawful matchers

A matcher may be any function of the text. What a tokenizer has to be able to rely on is that the places
a matcher speaks of are places in the text that it was asked about, between two characters. The matchers
of literals, of patterns and of single characters keep to this.
-/

namespace Thicket.Matcher

/-- A matcher whose answers keep to the boundaries of the text. -/
structure Lawful (m : Matcher) : Prop where
  full : ∀ t start stop, m.search t = some (.full start stop) →
    t.IsBoundary start ∧ t.IsBoundary stop
  begun : ∀ t start, m.search t = some (.begun start) → t.IsBoundary start

/-- A place that is found in a text is a boundary of it. -/
theorem isBoundary_of_find?_places {q : Place → Bool} {t : Text} {place : Place}
    (h : t.places.find? q = some place) : t.IsBoundary place.offset := by
  obtain ⟨u, v, hfirst, rfl⟩ := Text.firstPlace_of_find?_places h
  exact ⟨u, v, hfirst.split, rfl⟩

theorem lawful_literal (literal : Text) : (Matcher.literal literal).Lawful where
  full := by
    intro t start stop h
    obtain ⟨-, u, v, rfl, rfl, rfl, -⟩ := Text.findLiteral_full h
    refine ⟨⟨u, literal ++ v, rfl, rfl⟩, ⟨u ++ literal, v, ?_, ?_⟩⟩
    · rw [List.append_assoc]
    · rw [Text.byteSize_append]
  begun := by
    intro t start h
    replace h : Text.findLiteral literal t = some (.begun start) := h
    unfold Text.findLiteral at h
    split at h
    · cases h
    · split at h
      · cases h
      · obtain ⟨place, hplace, heq⟩ := Option.map_eq_some_iff.1 h
        cases heq
        exact isBoundary_of_find?_places hplace

theorem lawful_pattern (p : Pattern) : (Matcher.pattern p).Lawful where
  full := by
    intro t start stop h
    have hfind := Pattern.find?_eq_some_iff.1 (Pattern.search_eq_full_iff.1 h)
    obtain ⟨u, m, v, hfirst, -, rfl, rfl⟩ := hfind
    refine ⟨⟨u, m ++ v, hfirst.split, rfl⟩, ⟨u ++ m, v, ?_, ?_⟩⟩
    · rw [hfirst.split, List.append_assoc]
    · rw [Text.byteSize_append]
  begun := by
    intro t start h
    replace h : p.search t = some (.begun start) := h
    unfold Pattern.search at h
    split at h
    · cases h
    · obtain ⟨place, hplace, heq⟩ := Option.map_eq_some_iff.1 h
      cases heq
      exact isBoundary_of_find?_places hplace

/-- The first of some characters is found behind those that are none of them. -/
theorem oneOf_go {chars t : Text} {offset : Nat} {found : Match}
    (h : oneOf.go chars offset t = some found) :
    ∃ u c v, t = u ++ c :: v ∧
      found = .full (offset + Text.byteSize u) (offset + Text.byteSize u + c.utf8Size) := by
  induction t generalizing offset with
  | nil => cases h
  | cons c rest ih =>
    unfold oneOf.go at h
    split at h
    · cases h
      exact ⟨[], c, rest, rfl, rfl⟩
    · obtain ⟨u, c', v, hrest, hfound⟩ := ih h
      refine ⟨c :: u, c', v, ?_, ?_⟩
      · rw [hrest, List.cons_append]
      · rw [hfound, Text.byteSize, ← Nat.add_assoc]

theorem lawful_oneOf (chars : Text) : (oneOf chars).Lawful where
  full := by
    intro t start stop h
    obtain ⟨u, c, v, rfl, hfound⟩ := oneOf_go h
    rw [Nat.zero_add] at hfound
    cases hfound
    refine ⟨⟨u, c :: v, rfl, rfl⟩, ⟨u ++ [c], v, ?_, ?_⟩⟩
    · rw [List.append_assoc, List.singleton_append]
    · rw [Text.byteSize_append]
      rfl
  begun := by
    intro t start h
    obtain ⟨u, c, v, -, hfound⟩ := oneOf_go h
    cases hfound

end Thicket.Matcher
