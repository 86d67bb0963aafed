import Thicket.Fault

/-!
# Sources

A source hands out text bit by bit. One pull appends some text to the caller's buffer and then either
tells how many characters it has handed out or fails; a failing pull may have appended text. Handing
out no character means that the input has ended.

A lawful source keeps to what it is asked for, counts what it hands out, and hands out nothing when it
fails. Not every source does.

A finite source comes with a measure of what it still holds, which falls with every pull that hands
out a character. So whoever pulls until the end is done after finitely many pulls.
-/

namespace Thicket

/-- What one pull does: the text that it appends, its result, and the source after it. -/
structure Pulled (σ : Type) where
  text : Text
  result : Except Fault Nat
  source : σ

/-- Something that hands out text, at most `most` characters a pull. -/
class Source (σ : Type) where
  pull : (source : σ) → (most : Nat) → Pulled σ

/-- A source that appends at most as much as it is asked for, tells how much that was, and appends
nothing when it fails. -/
class LawfulSource (σ : Type) [Source σ] : Prop where
  length_text_le : ∀ (source : σ) (most : Nat), (Source.pull source most).text.length ≤ most
  length_text_of_ok : ∀ (source : σ) (most count : Nat),
    (Source.pull source most).result = .ok count → (Source.pull source most).text.length = count
  text_of_error : ∀ (source : σ) (most : Nat) (e : Fault),
    (Source.pull source most).result = .error e → (Source.pull source most).text = []

/-- A source that holds finitely much. -/
class FiniteSource (σ : Type) extends Source σ where
  /-- How much the source still holds, at most. -/
  supply : σ → Nat
  supply_lt : ∀ (source : σ) (most count : Nat),
    (pull source most).result = .ok (count + 1) → supply (pull source most).source < supply source

end Thicket
