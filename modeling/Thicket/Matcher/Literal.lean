import Thicket.Matcher.Basic
import Thicket.Text.Place

/-!
# Literal matchers

A literal is found where the text itself stands. If it stands nowhere in a text, the first place from
which the rest of the text is the beginning of the literal is where it may have begun. The empty
literal is never found.
-/

namespace Thicket

/-- Where a literal stands in a text, or may have begun. -/
def Text.findLiteral (literal t : Text) : Option Match :=
  if literal.isEmpty then none
  else
    match t.places.find? (literal.isPrefixOf ·.rest) with
    | some place => some (.full place.offset (place.offset + literal.byteSize))
    | none => (t.places.find? (·.rest.isPrefixOf literal)).map fun place => .begun place.offset

/-- The matcher of a literal. -/
def Matcher.literal (literal : Text) : Matcher := ⟨literal.findLiteral⟩

end Thicket
