import Thicket.Text.Basic

/-!
# Places in a text

The places of a text are the positions at which a character begins, each with its byte offset, the
character before it and the text from it on.
-/

namespace Thicket

/-- A position of a text at which a character begins. -/
structure Place where
  offset : Nat
  before : Option Char
  rest : Text

namespace Text

/-- The places of a text that itself begins at an offset. -/
def placesFrom (offset : Nat) (before : Option Char) : Text → List Place
  | [] => []
  | c :: rest => ⟨offset, before, c :: rest⟩ :: placesFrom (offset + c.utf8Size) (some c) rest

/-- The places of a text, in order. -/
def places (t : Text) : List Place := placesFrom 0 none t

end Text

end Thicket
