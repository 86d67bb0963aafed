import Thicket.Pattern.Basic

/-!
# Engines for patterns

A matcher leaves its pattern to an engine, which has to make two things of it: one that looks for the pattern,
and one that pursues it to the end of a text. An engine refuses a pattern if either would become too large.
What that means is for the engine to say, so a matcher is built with a given engine, and what it finds does
not depend on it.
-/

namespace Thicket

/-- What an engine says of the patterns that it is given. -/
structure Engine where
  /-- Whether the engine will look for a pattern. -/
  finds : Pattern → Bool
  /-- Whether the engine will pursue a pattern. -/
  pursues : Pattern → Bool

/-- The engine refuses the pattern for neither purpose. -/
structure Engine.Accepts (engine : Engine) (p : Pattern) : Prop where
  finds : engine.finds p = true
  pursues : engine.pursues p = true

end Thicket
