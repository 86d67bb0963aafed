import Thicket.Text.Basic
import Thicket.Unicode.Word

/-!
# Patterns

A pattern describes texts: literal runs and sets of characters, put together by sequence, choice and
repetition, with assertions about the place they stand at. Choices and repetitions are ordered: of
two ways to match, the one through the earlier alternative is preferred, a greedy repetition prefers
another round and a lazy one prefers to stop.
-/

namespace Thicket

/-! ## Assertions -/

/-- The characters that a part of a pattern knows. -/
inductive Alphabet where
  | unicode
  | ascii
deriving DecidableEq, Repr

/-- What a word test asks of the characters on its two sides. -/
inductive WordTest where
  /-- One side is a word character and the other is not. -/
  | boundary
  /-- Both sides are word characters or neither is. -/
  | interior
  /-- A word character follows one that is none. -/
  | start
  /-- A word character is followed by one that is none. -/
  | finish
  /-- No word character stands before. -/
  | startHalf
  /-- No word character stands after. -/
  | finishHalf
deriving DecidableEq, Repr

/-- A condition on a place in a text. -/
inductive Assertion where
  | textStart
  | textEnd
  | lineStart
  | lineEnd
  /-- The start of a line, where a carriage return with or without a line feed ends a line too. -/
  | anyLineStart
  /-- The end of a line, where a carriage return with or without a line feed ends a line too. -/
  | anyLineEnd
  | word (alphabet : Alphabet) (test : WordTest)
deriving DecidableEq, Repr

/-- The characters next to a place in a text; none at the ends of the text. -/
structure Neighbours where
  before : Option Char
  after : Option Char

/-- Whether a character is a word character of the alphabet. -/
def Alphabet.hasWord : Alphabet → Char → Bool
  | .unicode, c => Unicode.word.contains c
  | .ascii, c => c.isAlphanum || c == '_'

/-- Whether a test holds, given whether word characters stand before and after. -/
def WordTest.holds : WordTest → (before after : Bool) → Bool
  | .boundary, before, after => before != after
  | .interior, before, after => before == after
  | .start, before, after => !before && after
  | .finish, before, after => before && !after
  | .startHalf, before, _ => !before
  | .finishHalf, _, after => !after

/-- Whether an assertion holds between two neighbours. -/
def Assertion.holds : Assertion → Neighbours → Bool
  | .textStart, n => n.before.isNone
  | .textEnd, n => n.after.isNone
  | .lineStart, n => n.before.all (· == '\n')
  | .lineEnd, n => n.after.all (· == '\n')
  | .anyLineStart, n =>
    n.before.all (· == '\n') || (n.before == some '\r' && n.after != some '\n')
  | .anyLineEnd, n =>
    n.after.all (· == '\r') || (n.after == some '\n' && n.before != some '\r')
  | .word alphabet test, n =>
    test.holds (n.before.any alphabet.hasWord) (n.after.any alphabet.hasWord)

/-! ## Patterns -/

/-- An ordered description of texts. -/
inductive Pattern where
  /-- The empty text. -/
  | empty
  /-- The text itself. -/
  | literal (text : Text)
  /-- One character of the set. A set of the one alphabet is a different pattern than a set of the
  other, even if they have the same members. -/
  | set (alphabet : Alphabet) (chars : CharSet)
  /-- The empty text, at a place where the assertion holds. -/
  | assert (assertion : Assertion)
  | seq (first second : Pattern)
  /-- Either pattern; the first is preferred. -/
  | alt (first second : Pattern)
  /-- Between `least` and `most` rounds of the body, or any number from `least` on. -/
  | rounds (body : Pattern) (least : Nat) (most : Option Nat) (greedy : Bool)
  /-- Any number of further rounds of a body that has been through its last counted round. -/
  | further (body : Pattern) (greedy : Bool)
  /-- What the body describes; the number only tells the groups of one pattern apart. -/
  | group (number : Nat) (body : Pattern)
deriving DecidableEq, Repr

namespace Pattern

/-- The number of constructors of a pattern. -/
def size : Pattern → Nat
  | .empty | .literal _ | .set .. | .assert _ => 1
  | .seq a b | .alt a b => a.size + b.size + 1
  | .rounds body _ _ _ | .further body _ | .group _ body => body.size + 1

/-- Whether every text that the pattern describes is empty. -/
def isWeightless : Pattern → Bool
  | .empty | .assert _ => true
  | .literal text => text.isEmpty
  | .set .. | .further _ _ => false
  | .seq a b | .alt a b => a.isWeightless && b.isWeightless
  | .rounds body _ most _ => most.isSome && body.isWeightless
  | .group _ body => body.isWeightless

/-- The length of the shortest text that the pattern describes; none if a part of it describes no
text at all. -/
def leastLength? : Pattern → Option Nat
  | .empty | .assert _ | .further _ _ => some 0
  | .literal text => some text.length
  | .set _ s => if s.spans.isEmpty then none else some 1
  | .seq a b => do return (← a.leastLength?) + (← b.leastLength?)
  | .alt a b => do return min (← a.leastLength?) (← b.leastLength?)
  | .rounds body least _ _ => body.leastLength?.map (least * ·)
  | .group _ body => body.leastLength?

/-- Whether every round of the pattern takes a character. -/
def alwaysConsumes (p : Pattern) : Bool := p.leastLength?.any (0 < ·)

/-- Whether the pattern asks about word characters beyond ASCII. -/
def asksUnicodeWords : Pattern → Bool
  | .assert (.word .unicode _) => true
  | .empty | .literal _ | .set .. | .assert _ => false
  | .seq a b | .alt a b => a.asksUnicodeWords || b.asksUnicodeWords
  | .rounds body _ _ _ | .further body _ | .group _ body => body.asksUnicodeWords

end Pattern

end Thicket
