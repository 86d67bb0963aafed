import Thicket.Pattern.Basic

/-!
# Building patterns in canonical form

These functions put patterns together and keep them canonical, so that a pattern does not depend on
how it was bracketed: sequences and choices lean to the right, neighbouring literals are one literal,
a choice between single characters is a set and so is a choice between sets, and factors that all
branches of a choice begin with stand before it.

The last rule decides priority as well: the ways through the shared factors are tried first, and the
branches come after each of them.
-/

namespace Thicket.Pattern

/-! ## Sets and sequences -/

/-- One character of a set. A set of one member is a literal, and all sets without a member are the
same pattern. -/
def ofSet (alphabet : Alphabet) (s : CharSet) : Pattern :=
  match s.only? with
  | some c => .literal [c]
  | none => if s.spans.isEmpty then .set .ascii .none else .set alphabet s

/-- The parts of a right-leaning sequence. -/
def factors : Pattern → List Pattern
  | .empty => []
  | .seq a b => a :: b.factors
  | p => [p]

/-- Drops empty patterns from a list of factors and joins neighbouring literals. -/
def joinLiterals : List Pattern → List Pattern
  | [] => []
  | p :: rest =>
    match p, joinLiterals rest with
    | .empty, more => more
    | .literal s, .literal t :: more => .literal (s ++ t) :: more
    | p, more => p :: more

/-- The right-leaning sequence of some factors. -/
def chain : List Pattern → Pattern
  | [] => .empty
  | [p] => p
  | p :: q :: rest => .seq p (chain (q :: rest))

/-- The patterns one after the other. -/
def sequence (ps : List Pattern) : Pattern := chain (joinLiterals (ps.flatMap factors))

/-! ## Choices -/

/-- The branches of a right-leaning choice. -/
def branches : Pattern → List Pattern
  | .alt a b => a :: b.branches
  | p => [p]

/-- The right-leaning choice between some branches; without a branch nothing matches. -/
def choose : List Pattern → Pattern
  | [] => .set .ascii .none
  | [p] => p
  | p :: q :: rest => .alt p (choose (q :: rest))

/-- The character that a pattern consists of. -/
def character? : Pattern → Option CharSet
  | .literal [c] => some (.single c)
  | _ => none

/-- The members of a pattern that is a set. -/
def members? : Pattern → Option CharSet
  | .set _ s => some s
  | _ => none

/-- What some branches describe, if each is a single character or each is a set. -/
def merged? (branches : List Pattern) : Option CharSet := do
  let sets ← branches.mapM character? <|> branches.mapM members?
  return sets.foldl CharSet.union .none

/-- The longest list that both lists begin with. -/
def sharedFront : List Pattern → List Pattern → List Pattern
  | p :: ps, q :: qs => if p = q then p :: sharedFront ps qs else []
  | _, _ => []

/-- The factors that all branches begin with; none unless every branch has at least two. -/
def sharedFactors : List Pattern → List Pattern
  | p :: q :: rest =>
    let parts := (p :: q :: rest).map factors
    if parts.all (2 ≤ ·.length) then
      parts.tail.foldl sharedFront p.factors
    else []
  | _ => []

/-- `choice` with a bound on how often shared factors are taken out. -/
def choiceWithin : Nat → List Pattern → Pattern
  | 0, ps => choose ps
  | fuel + 1, ps =>
    let all := ps.flatMap branches
    match all with
    | [p] => p
    | _ =>
      match merged? all with
      | some s => ofSet .unicode s
      | none =>
        match sharedFactors all with
        | [] => choose all
        | shared =>
          let rests := all.map fun p => sequence (p.factors.drop shared.length)
          sequence (shared ++ [choiceWithin fuel rests])

/-- A choice between patterns, the earlier ones preferred. Taking shared factors out makes the
branches smaller, so it ends within the number of constructors. -/
def choice (ps : List Pattern) : Pattern := choiceWithin ((ps.map size).foldr (· + ·) 1) ps

/-! ## Repetitions -/

/-- Between `least` and `most` rounds of a pattern. More than one round of a pattern that only
describes the empty text says no more than one round. -/
def repeated (p : Pattern) (least : Nat) (most : Option Nat) (greedy : Bool) : Pattern :=
  let (least, most) :=
    if p.isWeightless then (min least 1, some (min (most.getD 1) 1)) else (least, most)
  match least, most with
  | 0, some 0 => .empty
  | 1, some 1 => p
  | least, most => .rounds p least most greedy

end Thicket.Pattern
