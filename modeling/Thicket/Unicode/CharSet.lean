/-!
# Sets of characters

A set of characters is a list of spans of code points in ascending order. Forming a union makes the
list canonical: spans do not overlap and do not touch, so two unions with the same members are equal.
A complement is kept as it comes out of its gaps.

Characters on the two sides of the surrogates follow each other. A gap that holds nothing but
surrogates is taken as the two characters around it.
-/

namespace Thicket

/-- An inclusive span of code points. -/
abbrev Span := Nat × Nat

/-- A set of characters, as spans of code points. -/
structure CharSet where
  spans : List Span
deriving DecidableEq, Repr

namespace CharSet

/-- The greatest code point. -/
def lastCode : Nat := 0x10FFFF

/-- The code point after that of a character, which skips the surrogates. -/
def nextCode (n : Nat) : Nat := if n = 0xD7FF then 0xE000 else n + 1

/-- The code point before that of a character, which skips the surrogates. -/
def prevCode (n : Nat) : Nat := if n = 0xE000 then 0xD7FF else n - 1

/-- Whether a code point lies in one of the spans. -/
def containsCode (s : CharSet) (n : Nat) : Bool :=
  s.spans.any fun span => span.1 ≤ n && n ≤ span.2

/-- Whether a character lies in one of the spans. -/
def contains (s : CharSet) (c : Char) : Bool := s.containsCode c.toNat

/-! ## Canonical form -/

/-- Joins a span with those after it that it overlaps or touches; the spans come in ascending order
of their first code points. -/
def joinSpans (span : Span) : List Span → List Span
  | [] => [span]
  | next :: rest =>
    if next.1 ≤ span.2 + 1 then joinSpans (span.1, max span.2 next.2) rest
    else span :: joinSpans next rest

/-- The canonical set with the members of the given spans. -/
def ofSpans (spans : List Span) : CharSet :=
  match spans.mergeSort fun a b => a.1 ≤ b.1 with
  | [] => ⟨[]⟩
  | span :: rest => ⟨joinSpans span rest⟩

/-! ## Operations -/

/-- No character. -/
def none : CharSet := ⟨[]⟩

/-- Every character. -/
def all : CharSet := ⟨[(0, lastCode)]⟩

/-- One character. -/
def single (c : Char) : CharSet := ⟨[(c.toNat, c.toNat)]⟩

/-- The characters from the first to the last. -/
def range (first last : Char) : CharSet := ⟨[(first.toNat, last.toNat)]⟩

def union (a b : CharSet) : CharSet := ofSpans (a.spans ++ b.spans)

/-- The gaps behind a span that ends at `last`. -/
def gaps (last : Nat) : List Span → List Span
  | [] => if last < lastCode then [(nextCode last, lastCode)] else []
  | (lo, hi) :: rest =>
    let (a, b) := (nextCode last, prevCode lo)
    (min a b, max a b) :: gaps hi rest

def complement (s : CharSet) : CharSet :=
  match s.spans with
  | [] => all
  | (lo, hi) :: rest => ⟨(if 0 < lo then [(0, prevCode lo)] else []) ++ gaps hi rest⟩

/-- What two ascending lists of spans have in common. -/
def common : List Span → List Span → List Span
  | a :: as, b :: bs =>
    let rest := if a.2 < b.2 then common as (b :: bs) else common (a :: as) bs
    let (lo, hi) := (max a.1 b.1, min a.2 b.2)
    if lo ≤ hi then (lo, hi) :: rest else rest
  | _, _ => []
termination_by as bs => as.length + bs.length

def inter (a b : CharSet) : CharSet := ⟨common a.spans b.spans⟩

/-- What is left of a span without the members of another one. -/
def cutSpan (a b : Span) : List Span :=
  if a.2 < b.1 ∨ b.2 < a.1 then [a]
  else
    (if a.1 < b.1 then [(a.1, prevCode b.1)] else []) ++
      if b.2 < a.2 then [(nextCode b.2, a.2)] else []

def diff (a b : CharSet) : CharSet :=
  ⟨b.spans.foldl (fun left span => left.flatMap (cutSpan · span)) a.spans⟩

def symmDiff (a b : CharSet) : CharSet := (a.union b).diff (a.inter b)

/-- The one member of a set that has exactly one. -/
def only? (s : CharSet) : Option Char :=
  match s.spans with
  | [(lo, hi)] => if lo = hi then some (Char.ofNat lo) else Option.none
  | _ => Option.none

/-- Whether every member is an ASCII character. -/
def isAscii (s : CharSet) : Bool := s.spans.all fun span => span.2 < 0x80

/-- The spans' parts outside ASCII. -/
def beyondAscii (s : CharSet) : List Span :=
  s.spans.filterMap fun (lo, hi) => if hi < 0x80 then Option.none else some (max lo 0x80, hi)

end CharSet

end Thicket
