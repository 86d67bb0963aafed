import Thicket.Pattern.Canonical
import Thicket.Unicode.Blank
import Thicket.Unicode.Digit
import Thicket.Unicode.CaseFold

/-!
# Flags and what they decide

Seven flags decide what the elements of a written pattern stand for. With the flag `unicode` off,
classes and word tests know ASCII only, and whatever could match a byte that is no character is
refused; such an element is given as nothing.
-/

namespace Thicket.Pattern

/-- The flags that are on at a point of a written pattern. -/
structure Flags where
  ignoreCase : Bool := false
  multiLine : Bool := false
  dotAll : Bool := false
  swapGreed : Bool := false
  unicode : Bool := true
  anyLineEnd : Bool := false
  verbose : Bool := false

/-- The flags by their letters. -/
inductive Flag where
  | ignoreCase | multiLine | dotAll | swapGreed | unicode | anyLineEnd | verbose
deriving DecidableEq

def Flag.ofLetter? : Char → Option Flag
  | 'i' => some .ignoreCase
  | 'm' => some .multiLine
  | 's' => some .dotAll
  | 'U' => some .swapGreed
  | 'u' => some .unicode
  | 'R' => some .anyLineEnd
  | 'x' => some .verbose
  | _ => none

namespace Flags

def set (f : Flags) : Flag → Bool → Flags
  | .ignoreCase, on => { f with ignoreCase := on }
  | .multiLine, on => { f with multiLine := on }
  | .dotAll, on => { f with dotAll := on }
  | .swapGreed, on => { f with swapGreed := on }
  | .unicode, on => { f with unicode := on }
  | .anyLineEnd, on => { f with anyLineEnd := on }
  | .verbose, on => { f with verbose := on }

/-! ## Sets -/

/-- The alphabet that sets and word tests are drawn from. -/
def alphabet (f : Flags) : Alphabet := if f.unicode then .unicode else .ascii

/-- The characters of a single byte, as a set. -/
def ascii : CharSet := ⟨[(0, 0x7F)]⟩

/-- A set with the case variants of its members, if case is ignored. -/
def fold (f : Flags) (s : CharSet) : CharSet :=
  if !f.ignoreCase then s
  else if f.unicode then Unicode.closeUnderCase s
  else (Unicode.closeUnderCase s).inter ascii

/-- The complement of a set, if asked for; outside Unicode it would hold bytes that are no
characters. -/
def negateIf? (f : Flags) (negated : Bool) (s : CharSet) : Option CharSet :=
  if !negated then some s else if f.unicode then some s.complement else none

/-- The set of a class, with case variants and negation. -/
def close? (f : Flags) (negated : Bool) (s : CharSet) : Option CharSet :=
  f.negateIf? negated (f.fold s)

/-- Digits, white space and word characters, as `\d`, `\s` and `\w` name them. -/
def shorthand? (f : Flags) (letter : Char) : Option CharSet :=
  match letter, f.unicode with
  | 'd', true => some Unicode.digit
  | 's', true => some Unicode.blank
  | 'w', true => some Unicode.word
  | 'd', false => some (.range '0' '9')
  | 's', false => some (.ofSpans [(0x09, 0x0D), (0x20, 0x20)])
  | 'w', false => some (.ofSpans [(0x30, 0x39), (0x41, 0x5A), (0x5F, 0x5F), (0x61, 0x7A)])
  | _, _ => none

/-- The ASCII classes that may stand in brackets, by name. -/
def asciiClass? (name : Text) : Option CharSet :=
  match String.ofList name with
  | "alnum" => some (.ofSpans [(0x30, 0x39), (0x41, 0x5A), (0x61, 0x7A)])
  | "alpha" => some (.ofSpans [(0x41, 0x5A), (0x61, 0x7A)])
  | "ascii" => some ascii
  | "blank" => some (.ofSpans [(0x09, 0x09), (0x20, 0x20)])
  | "cntrl" => some (.ofSpans [(0x00, 0x1F), (0x7F, 0x7F)])
  | "digit" => some (.range '0' '9')
  | "graph" => some (.range '!' '~')
  | "lower" => some (.range 'a' 'z')
  | "print" => some (.range ' ' '~')
  | "punct" => some (.ofSpans [(0x21, 0x2F), (0x3A, 0x40), (0x5B, 0x60), (0x7B, 0x7E)])
  | "space" => some (.ofSpans [(0x09, 0x0D), (0x20, 0x20)])
  | "upper" => some (.range 'A' 'Z')
  | "word" => some (.ofSpans [(0x30, 0x39), (0x41, 0x5A), (0x5F, 0x5F), (0x61, 0x7A)])
  | "xdigit" => some (.ofSpans [(0x30, 0x39), (0x41, 0x46), (0x61, 0x66)])
  | _ => none

/-! ## Elements -/

/-- A character that stands for itself, or for its case variants too. -/
def character (f : Flags) (c : Char) : Pattern :=
  if f.ignoreCase && (f.unicode || c.isAlpha) then ofSet f.alphabet (f.fold (.single c))
  else .literal [c]

/-- What a dot stands for. -/
def dot? (f : Flags) : Option Pattern :=
  if !f.unicode then none
  else if f.dotAll then some (.set .unicode .all)
  else
    let ends := CharSet.ofSpans (if f.anyLineEnd then [(0x0A, 0x0A), (0x0D, 0x0D)] else [(0x0A, 0x0A)])
    some (.set .unicode ends.complement)

/-- What `^` stands for. -/
def caret (f : Flags) : Assertion :=
  if !f.multiLine then .textStart else if f.anyLineEnd then .anyLineStart else .lineStart

/-- What `$` stands for. -/
def dollar (f : Flags) : Assertion :=
  if !f.multiLine then .textEnd else if f.anyLineEnd then .anyLineEnd else .lineEnd

/-- A word test over the alphabet of the flags. -/
def wordTest (f : Flags) (test : WordTest) : Assertion :=
  .word f.alphabet test

end Flags

end Thicket.Pattern
