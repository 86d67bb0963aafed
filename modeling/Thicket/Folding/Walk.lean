import Thicket.Grammar.Table
import Thicket.Node.Basic

/-!
# Walking a sequence over roots

A walk follows a sequence over a list of roots. Each step takes as many roots of its id as it may and
never gives one back; it fails if these are too few. A walk that takes no root is no match. A walk is
open if some step could have taken one more root but there was none left, so that a root to come
might still belong to it.
-/

namespace Thicket

/-- A successful walk. -/
structure Walk where
  /-- How many roots it takes. -/
  length : Nat
  isOpen : Bool
deriving DecidableEq, Repr

/-- How many of the first roots a step takes. -/
def Step.takes (s : Step) (roots : Forest) : Nat :=
  ((roots.take s.most).takeWhile (·.id = s.id)).length

namespace Sequence

/-- Follows a sequence from the first root on. -/
def follow : Sequence → Forest → Option Walk
  | [], _ => some ⟨0, false⟩
  | s :: steps, roots =>
    let count := s.takes roots
    let rest := roots.drop count
    if count < s.least then none
    else (follow steps rest).map fun w =>
      ⟨count + w.length, (count < s.most && rest.isEmpty) || w.isOpen⟩

/-- The match of a sequence that begins at the first root. -/
def walk? (s : Sequence) (roots : Forest) : Option Walk :=
  (s.follow roots).filter (0 < ·.length)

/-- The leftmost match of a sequence, with the number of roots before it. -/
def firstWalk? (s : Sequence) : Forest → Option (Nat × Walk)
  | [] => none
  | root :: rest =>
    match s.walk? (root :: rest) with
    | some w => some (0, w)
    | none => (firstWalk? s rest).map fun (start, w) => (start + 1, w)

end Sequence

end Thicket
