import Thicket.Matcher.Basic
import Thicket.Pattern.Footprint
import Thicket.Pattern.Match
import Thicket.Pattern.Reader
import Thicket.Fault

/-!
# Pattern matchers

A pattern is found at the first place where its preferred match is not empty. If there is none, it
may have begun at the first place from which more text would complete a match.
-/

namespace Thicket

/-- Where a pattern stands in a text, or may have begun. -/
def Pattern.search (p : Pattern) (t : Text) : Option Match :=
  match p.find? t with
  | some (start, stop) => some (.full start stop)
  | none => (t.places.find? p.mayGrow).map fun place => .begun place.offset

namespace Matcher

/-- The matcher of a pattern. -/
def pattern (p : Pattern) : Matcher := ⟨p.search⟩

/-- The matcher of a written pattern, with an engine that may refuse the pattern. -/
def ofPatternBy? (engine : Engine) (written : Text) : Except Fault Matcher :=
  match Pattern.ofText? written with
  | none => .error (Cause.invalidPattern written)
  | some p =>
    if !engine.finds p then .error (Cause.invalidPattern written)
    else if !engine.pursues p then .error (Cause.unpursuedPattern written)
    else .ok (.pattern p)

/-- The matcher of a written pattern, with the engine that counts bytes. -/
def ofPattern? (written : Text) : Except Fault Matcher := ofPatternBy? .counting written

end Matcher

end Thicket
