import Thicket.Pattern.Frontier
import Thicket.Text.Place

/-!
# Matches and prospects

`matchLength?` is the preferred match of a pattern from a given place on. `find?` is the first place
of a text where that match is not empty.

`mayGrow` tells whether the text from a place on can be the beginning of a match that more text
would complete. It follows the threads to the end of the text. Assertions about what comes next stay
open there, and an acceptance shows only once the next byte is read, so three rules decide the cases
in which the threads alone do not:

* the text is given up when no thread is left, unless an acceptance lies just before its last
  character and that character is a single byte;
* if an acceptance lies there, some further byte must lead past it;
* a pattern that asks about word characters beyond ASCII is not followed over any character outside
  ASCII, and counts as open after an acceptance.
-/

namespace Thicket

namespace Pattern

/-! ## Complete matches -/

/-- The number of characters that the preferred match of the threads takes. An acceptance met later
is preferred to one met earlier, since only what is preferred to an acceptance goes on after it. -/
def runLength? (before : Option Char) (threads : List Thread) : Text → Option Nat
  | [] => if (frontier ⟨before, none⟩ threads).accepts then some 0 else none
  | c :: rest =>
    let f := frontier ⟨before, some c⟩ threads
    let next := f.after c
    match if next.isEmpty then none else runLength? (some c) next rest with
    | some n => some (n + 1)
    | none => if f.accepts then some 0 else none

/-- The number of characters of the preferred match of a pattern at a place. -/
def matchLength? (p : Pattern) (place : Place) : Option Nat :=
  runLength? place.before [[p]] place.rest

/-- The bytes of the first match of a pattern that is not empty. -/
def find? (p : Pattern) (t : Text) : Option (Nat × Nat) :=
  t.places.findSome? fun place =>
    match p.matchLength? place with
    | none | some 0 => none
    | some n => some (place.offset, place.offset + Text.byteSize (place.rest.take n))

/-! ## Matches that more text would complete -/

/-- Whether a character takes a single byte. -/
def isSingleByte (c : Char) : Bool := c.toNat < 0x80

/-- The characters of a single byte. -/
def singleBytes : List Char := (List.range 0x80).map Char.ofNat

/-- Whether some next byte leads the threads on without an acceptance before it. All bytes above
ASCII look alike to the assertions that can be asked here. -/
def leadsOn (before : Option Char) (threads : List Thread) : Bool :=
  let beyond := frontier ⟨before, some (Char.ofNat 0x80)⟩ threads
  (!beyond.accepts && beyond.reads.any fun (chars, _) => !chars.beyondAscii.isEmpty) ||
    singleBytes.any fun c =>
      let f := frontier ⟨before, some c⟩ threads
      !f.accepts && !(f.after c).isEmpty

/-- Follows the threads to the end of a text. `accepted` tells whether an acceptance lies just before
the last byte, `asciiOnly` whether characters outside ASCII end the pursuit. -/
def pursue (asciiOnly : Bool) (before : Option Char) (threads : List Thread) (accepted : Bool) :
    Text → Bool
  | [] => if accepted then asciiOnly || leadsOn before threads else !threads.isEmpty
  | c :: rest =>
    if asciiOnly && !isSingleByte c then false
    else
      let f := frontier ⟨before, some c⟩ threads
      let next := f.after c
      let accepted := f.accepts && isSingleByte c
      if next.isEmpty && !accepted then false
      else pursue asciiOnly (some c) next accepted rest

/-- Whether the text from a place on may be the beginning of a longer match. -/
def mayGrow (p : Pattern) (place : Place) : Bool :=
  let asciiOnly := p.asksUnicodeWords
  if asciiOnly && !place.before.all isSingleByte then false
  else pursue asciiOnly place.before [[p]] false place.rest

end Pattern

end Thicket
