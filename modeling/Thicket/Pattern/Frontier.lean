import Thicket.Pattern.Basic

/-!
# The frontier of a match in progress

A thread of a match is the list of patterns that are still to be matched, in order. A thread moves
without reading a character until it has to read one or has nothing left; the frontier of an ordered
list of threads is what they come to that way, most preferred first. Of two ways to come to the same
thread the first one counts, so a repetition whose body matched nothing does not go round again.

A thread that has nothing left accepts, and everything less preferred than it is dropped: it could
only lead to matches that are not wanted.
-/

namespace Thicket.Pattern

/-- What is still to be matched, in order. -/
abbrev Thread := List Pattern

instance : LawfulBEq Thread := inferInstance

/-- What a thread does next. -/
inductive Move where
  /-- It has nothing left to match. -/
  | accept
  /-- It needs a character of the set, and goes on as another thread after it. -/
  | read (chars : CharSet) (rest : Thread)
  /-- It goes on as these threads, the earlier preferred, without reading; as none if it fails. -/
  | fork (threads : List Thread)

/-- Another round or no more rounds, in the order that the greed of the repetition asks for. -/
def inOrder (greedy : Bool) (again stop : Thread) : Move :=
  .fork (if greedy then [again, stop] else [stop, again])

/-- The next move of a thread between two neighbours. A repetition from zero on begins as it goes on,
unless its body may match nothing: then the first round is told apart from the further ones, so that
matching nothing once is a match of the repetition. -/
def move (n : Neighbours) : Thread → Move
  | [] => .accept
  | .empty :: k => .fork [k]
  | .literal [] :: k => .fork [k]
  | .literal [c] :: k => .read (.single c) k
  | .literal (c :: d :: text) :: k => .read (.single c) (.literal (d :: text) :: k)
  | .set _ s :: k => .read s k
  | .assert a :: k => .fork (if a.holds n then [k] else [])
  | .seq p q :: k => .fork [p :: q :: k]
  | .alt p q :: k => .fork [p :: k, q :: k]
  | .group _ p :: k => .fork [p :: k]
  | .further p greedy :: k => inOrder greedy (p :: .further p greedy :: k) k
  | .rounds p least most greedy :: k =>
    match least, most with
    | 0, none =>
      if p.alwaysConsumes then .fork [.further p greedy :: k]
      else inOrder greedy (p :: .further p greedy :: k) k
    | 0, some 0 => .fork [k]
    | 0, some (most + 1) => inOrder greedy (p :: .rounds p 0 (some most) greedy :: k) k
    | 1, none => .fork [p :: .further p greedy :: k]
    | least + 1, most => .fork [p :: .rounds p least (most.map (· - 1)) greedy :: k]

/-! ## The frontier -/

/-- How many threads can be met between starting on a pattern and being done with it. -/
def stageCount : Pattern → Nat
  | .empty | .literal _ | .set .. | .assert _ => 1
  | .seq p q | .alt p q => p.stageCount + q.stageCount + 1
  | .group _ p | .further p _ => p.stageCount + 1
  | .rounds p least (some most) _ => (max least most + 1) * (p.stageCount + 1)
  | .rounds p least none _ => (least + 2) * (p.stageCount + 1)

/-- How many threads a thread can come to without reading a character, itself included. -/
def threadCount : Thread → Nat
  | [] => 1
  | p :: k => p.stageCount + threadCount k

/-- The reads that come before any acceptance, in order, and whether there is an acceptance. -/
structure Frontier where
  reads : List (CharSet × Thread)
  accepts : Bool

/-- Follows the threads of `todo` in order, leaving out those in `seen`; `fuel` bounds the number of
threads that are looked at. -/
def explore (n : Neighbours) (seen : List Thread) : (fuel : Nat) → (todo : List Thread) → Frontier
  | 0, _ | _, [] => ⟨[], false⟩
  | fuel + 1, t :: todo =>
    if t ∈ seen then explore n seen fuel todo
    else
      match move n t with
      | .accept => ⟨[], true⟩
      | .read chars rest =>
        let later := explore n (t :: seen) fuel todo
        { later with reads := (chars, rest) :: later.reads }
      | .fork threads => explore n (t :: seen) fuel (threads ++ todo)

/-- Enough fuel for some threads: none of those that can be met is followed twice, and following one
puts at most two others on the list. -/
def fuelFor (threads : List Thread) : Nat :=
  threads.length + 2 * (threads.map threadCount).foldr (· + ·) 0

/-- Where an ordered list of threads stands before the next character is read. -/
def frontier (n : Neighbours) (threads : List Thread) : Frontier :=
  explore n [] (fuelFor threads) threads

/-- The threads that go on after a character, in order. -/
def Frontier.after (f : Frontier) (c : Char) : List Thread :=
  (f.reads.filterMap fun (chars, rest) => if chars.contains c then some rest else none).eraseDups

end Thicket.Pattern
