import Thicket.Source.Basic

/-!
# A source of characters

The source hands out the characters of a text in order.
-/

namespace Thicket

/-- The characters that have not been handed out. -/
structure CharSource where
  rest : Text

namespace CharSource

def pull (s : CharSource) (most : Nat) : Pulled CharSource :=
  let text := s.rest.take most
  ⟨text, .ok text.length, ⟨s.rest.drop most⟩⟩

instance : FiniteSource CharSource where
  pull := pull
  supply s := s.rest.length
  supply_lt s most count h := by
    have h : min most s.rest.length = count + 1 := by
      simpa [pull] using h
    simp only [pull, List.length_drop]
    omega

instance : LawfulSource CharSource where
  length_text_le s most := List.length_take_le most s.rest
  length_text_of_ok s most count h := by
    cases h
    rfl
  text_of_error s most e h := by cases h

end CharSource

end Thicket
