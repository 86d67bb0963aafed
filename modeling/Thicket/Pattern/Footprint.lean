import Thicket.Pattern.Engine

/-!
# An engine that counts bytes

Written out as an automaton over bytes, a counted repetition takes a copy of its body for each round.
`footprint` is the number of bytes such an automaton takes: a fixed number for each state, and some
more for each range a state reads and for each way a state forks. It is counted for the automaton
that reads forwards, which also keeps track of the groups, and for the one that reads backwards. The
engine `Engine.counting` looks for a pattern if neither takes more than ten mebibytes.

A character outside ASCII is several bytes, so a set is cut into sequences of byte ranges. Forwards,
sequences that begin alike share their beginnings, and equal ends are shared too; backwards only the
beginnings are.

What an automaton takes differs from engine to engine. This one is plugged in where matchers are built
without saying which; what is proved of matchers holds for every engine.
-/

namespace Thicket

/-! ## Sequences of byte ranges -/

/-- A range of bytes. -/
abbrev ByteRange := Nat × Nat

namespace ByteRange

/-- The sequences for the numbers from `lo` to `hi`, written as a byte that starts at `base` and
`more` further bytes of six bits. -/
def sequences (base lo hi : Nat) : (more : Nat) → List (List ByteRange)
  | 0 => [[(base + lo, base + hi)]]
  | more + 1 =>
    let block := 64 ^ (more + 1)
    let (first, last) := (lo / block, hi / block)
    let within (n lo hi : Nat) : List (List ByteRange) :=
      (sequences 0x80 lo hi more).map ((base + n, base + n) :: ·)
    if first = last then within first (lo % block) (hi % block)
    else
      let (front, first) :=
        if lo % block = 0 then ([], first) else (within first (lo % block) (block - 1), first + 1)
      let (back, stop) :=
        if hi % block + 1 = block then ([], last + 1) else (within last 0 (hi % block), last)
      let middle :=
        if first < stop then
          [(base + first, base + stop - 1) :: List.replicate (more + 1) (0x80, 0xBF)]
        else []
      front ++ middle ++ back

/-- The code points that are written alike: the first and the last, the base of the first byte, and
the number of further bytes. -/
def layouts : List (Nat × Nat × Nat × Nat) :=
  [(0, 0x7F, 0, 0), (0x80, 0x7FF, 0xC0, 1), (0x800, 0xD7FF, 0xE0, 2), (0xE000, 0xFFFF, 0xE0, 2),
    (0x10000, 0x10FFFF, 0xF0, 3)]

/-- The sequences for the members of a set, in ascending order. -/
def ofSet (s : CharSet) : List (List ByteRange) :=
  s.spans.flatMap fun (lo, hi) => layouts.flatMap fun (first, last, base, more) =>
    let (lo, hi) := (max lo first, min hi last)
    if lo ≤ hi then sequences base lo hi more else []

/-- The sequences by their first range, each range with what follows it. -/
def branches : List (List ByteRange) → List (ByteRange × List (List ByteRange))
  | [] => []
  | [] :: rest => branches rest
  | (range :: tail) :: rest =>
    match branches rest with
    | (next, tails) :: more =>
      if next = range then (range, tail :: tails) :: more else (range, [tail]) :: (next, tails) :: more
    | [] => [(range, [tail])]

/-- The states that read some sequences of at most the given length, each as the sequences that lead
on from it. -/
def states : Nat → List (List ByteRange) → List (List (List ByteRange))
  | 0, _ => []
  | length + 1, sequences =>
    match branches sequences with
    | [] => []
    | next => sequences :: next.flatMap fun (_, tails) => states length tails

end ByteRange

namespace Pattern

/-! ## Footprints -/

/-- What a state takes by itself. -/
def stateBytes : Nat := 32

/-- What a range that a state reads takes. -/
def rangeBytes : Nat := 8

/-- What one of the ways that a state forks into takes. -/
def forkBytes : Nat := 4

/-- What a set takes when it is read forwards. -/
def setBytes (s : CharSet) : Nat :=
  if s.isAscii then 2 * stateBytes + rangeBytes * s.spans.length
  else
    let states := (ByteRange.states 4 (ByteRange.ofSet s)).eraseDups
    let sizes := states.map fun state => stateBytes + rangeBytes * (ByteRange.branches state).length
    stateBytes + sizes.foldr (· + ·) 0

/-- What a set takes when it is read backwards. -/
def setBytesBack (s : CharSet) : Nat :=
  if s.isAscii then 2 * stateBytes + rangeBytes * s.spans.length
  else
    let sequences := ByteRange.ofSet s
    let ranges := (ByteRange.states 4 sequences).map fun state => (ByteRange.branches state).length
    2 * stateBytes + forkBytes * sequences.length + stateBytes * ranges.foldr (· + ·) 0

/-- Whether the pattern is a choice at the top. -/
def isChoice : Pattern → Bool
  | .alt _ _ => true
  | _ => false

/-- What a pattern takes, given what sets and the two ends of a group take. -/
def footprint (ofSet : CharSet → Nat) (ofGroup : Nat) : Pattern → Nat
  | .empty | .assert _ => stateBytes
  | .literal text => stateBytes * text.byteSize
  | .set _ s => ofSet s
  | .seq a b => a.footprint ofSet ofGroup + b.footprint ofSet ofGroup
  | .alt a b =>
    let fork := if b.isChoice then forkBytes else 2 * (stateBytes + forkBytes)
    fork + a.footprint ofSet ofGroup + b.footprint ofSet ofGroup
  | .group _ body => ofGroup + body.footprint ofSet ofGroup
  | .further body _ => stateBytes + 2 * forkBytes + body.footprint ofSet ofGroup
  | .rounds body least most _ =>
    let once := body.footprint ofSet ofGroup
    let fork := stateBytes + 2 * forkBytes
    match least, most with
    | 0, none => if body.alwaysConsumes then fork + once else 2 * fork + stateBytes + once
    | least, none => least * once + fork
    | 0, some 1 => fork + stateBytes + once
    | least, some most =>
      if least = most then least * once
      else
        let counted := if least = 0 then stateBytes else least * once
        counted + stateBytes + (most - least) * (fork + once)

/-- The most bytes a pattern may take. -/
def footprintLimit : Nat := 10 * 1024 * 1024

/-- What a pattern takes besides itself, to be looked for at every place. -/
def overhead : Nat := 4 * stateBytes + 2 * forkBytes + rangeBytes

/-- Whether a pattern is small enough to be looked for. -/
def fits (p : Pattern) : Bool :=
  overhead + 2 * stateBytes + p.footprint setBytes (2 * stateBytes) ≤ footprintLimit &&
    overhead + p.footprint setBytesBack 0 ≤ footprintLimit

end Pattern

/-- The engine that looks for the patterns that fit, and pursues every pattern. -/
def Engine.counting : Engine := ⟨Pattern.fits, fun _ => true⟩

end Thicket
