import Thicket.Tokenizer.Basic

/-!
# Resolving text

Text is resolved by a stack of segments, the leftmost on top. A token is emitted. For open text the
rules are asked in order of priority: the first full match cuts the text into what stands before it,
the token and what stands after it. A begun match counts only for the rightmost segment, since
anything else is followed by a token and cannot grow; the whole segment is then carried over to be
resolved with the text to come. Text for which no rule answers is dropped.
-/

namespace Thicket

/-- A part of the text that is being resolved. -/
inductive Segment where
  | unresolved (text : Text)
  | token (symbol : Symbol)

/-- What the rules make of a text. -/
inductive Answer where
  /-- A token of the given id stands in the text. -/
  | full (cut : Text.Cut) (id : SymbolId)
  /-- The text may be the beginning of one. -/
  | begun

/-- The answer of one rule; a match of no character is none, and a begun match counts only if the
text is the last. -/
def Rule.answer? (r : Rule) (last : Bool) (t : Text) : Option Answer :=
  match r.matcher.search t with
  | some (.full start stop) => (t.cut? start stop).map (.full · r.id)
  | some (.begun _) => if last then some .begun else none
  | none => none

/-- The answer of the first rule that gives one. -/
def Rule.firstAnswer? (rules : List Rule) (last : Bool) (t : Text) : Option Answer :=
  rules.findSome? (·.answer? last t)

/-- A full answer cuts its token out of the text. -/
theorem Rule.firstAnswer?_length_lt {rules : List Rule} {last : Bool} {t : Text} {cut : Text.Cut}
    {id : SymbolId} (h : Rule.firstAnswer? rules last t = some (.full cut id)) :
    cut.before.length + cut.after.length < t.length := by
  obtain ⟨rule, _, hrule⟩ := List.exists_of_findSome?_eq_some h
  unfold Rule.answer? at hrule
  split at hrule
  · obtain ⟨cut', hcut, heq⟩ := Option.map_eq_some_iff.1 hrule
    cases heq
    exact Text.cut?_length_lt hcut
  · split at hrule <;> cases hrule
  · cases hrule

/-- What resolving has come to: the pieces in order, and the text to be carried over, unless it is too
long to be carried. -/
structure Resolution where
  pieces : List Piece
  carried : Except Fault Text

namespace Resolution

/-- A piece before what the rest has come to. -/
def cons (p : Piece) (r : Resolution) : Resolution := { r with pieces := p :: r.pieces }

end Resolution

namespace Segment

/-- A measure of the work that a segment takes. -/
def weight : Segment → Nat
  | .unresolved t => 3 * t.length + 1
  | .token _ => 1

end Segment

/-- Works a stack of segments off. Carried text is the last segment, so nothing follows it. -/
def resolveSegments (capacity : Nat) (rules : List Rule) (work : List Segment) : Resolution :=
  match work with
  | [] => ⟨[], .ok []⟩
  | .token s :: work => (resolveSegments capacity rules work).cons (.token s)
  | .unresolved [] :: work => resolveSegments capacity rules work
  | .unresolved (c :: rest) :: work =>
    match _answer : Rule.firstAnswer? rules work.isEmpty (c :: rest) with
    | some (.full cut id) =>
      resolveSegments capacity rules
        (.unresolved cut.before :: .token ⟨id, cut.part⟩ :: .unresolved cut.after :: work)
    | some .begun =>
      if capacity ≤ (c :: rest).length then ⟨[], .error (Cause.longPartial capacity)⟩
      else ⟨[], .ok (c :: rest)⟩
    | none => (resolveSegments capacity rules work).cons (.dropped (c :: rest))
termination_by (work.map Segment.weight).foldr (· + ·) 0
decreasing_by
  · simp [Segment.weight]
  · simp [Segment.weight]
  · have := Rule.firstAnswer?_length_lt _answer
    simp only [List.map_cons, List.foldr_cons, Segment.weight]
    omega
  · simp [Segment.weight]

/-- Resolves a text. -/
def resolveText (capacity : Nat) (rules : List Rule) (t : Text) : Resolution :=
  resolveSegments capacity rules [.unresolved t]

end Thicket
