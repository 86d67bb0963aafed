import Thicket.Text.Basic

/-!
# Matchers

A matcher answers where in a text its token stands: a full match takes a byte range of the text, a
begun match says that the text from an offset on is the beginning of one that more text may complete.
A full match anywhere is preferred to a begun one. Any function of the text is a matcher.
-/

namespace Thicket

/-- What a search finds. -/
inductive Match where
  /-- A match in the bytes from `start` to `stop`. -/
  | full (start stop : Nat)
  /-- The beginning of a match, from `start` to the end of the text. -/
  | begun (start : Nat)
deriving DecidableEq, Repr

/-- Something that can be searched for in texts. -/
structure Matcher where
  search : Text → Option Match

namespace Matcher

/-- Finds the first character that is one of the given ones. -/
def oneOf (chars : Text) : Matcher where
  search t := go 0 t
where
  go (offset : Nat) : Text → Option Match
    | [] => none
    | c :: rest =>
      if c ∈ chars then some (.full offset (offset + c.utf8Size)) else go (offset + c.utf8Size) rest

/-- Answers as the first row for the very text says, and with the default for any other text. -/
def tabulated (rows : List (Text × Option Match)) (default : Option Match) : Matcher where
  search t :=
    match rows.find? (·.1 = t) with
    | some row => row.2
    | none => default

end Matcher

end Thicket
