import Thicket.Source.Characters
import Thicket.Source.Either
import Thicket.Source.Lines

/-!
# Sources that count what they hand out

A counting source keeps to what it is asked for and counts right when a pull succeeds. What a failing
pull appends nobody counts: this is all that it lacks to be lawful. An input source fails only because
reading its input does. Characters and lines are sources of both kinds, and so is one or the other of
them.
-/

namespace Thicket

/-- A source that appends at most as much as it is asked for, and tells how much that was when it
succeeds. -/
class CountingSource (σ : Type) [Source σ] : Prop where
  length_text_le : ∀ (source : σ) (most : Nat), (Source.pull source most).text.length ≤ most
  length_text_of_ok : ∀ (source : σ) (most count : Nat),
    (Source.pull source most).result = .ok count → (Source.pull source most).text.length = count

/-- A source that fails only because reading its input does. -/
class InputSource (σ : Type) [Source σ] : Prop where
  category_of_error : ∀ (source : σ) (most : Nat) (e : Fault),
    (Source.pull source most).result = .error e → e.category = .input

instance {σ : Type} [Source σ] [LawfulSource σ] : CountingSource σ where
  length_text_le := LawfulSource.length_text_le
  length_text_of_ok := LawfulSource.length_text_of_ok

instance : InputSource CharSource where
  category_of_error source most e h := by cases h

namespace LineSource

theorem length_text_le (s : LineSource) (most : Nat) : (s.pull most).text.length ≤ most := by
  fun_induction pull s most with
  | case1 => simp
  | case2 => simp
  | case3 => simp
  | case4 s most _ s' hrefill c rest hunread part later ih =>
    have hpart : part.length ≤ most := List.length_take_le most (c :: rest)
    have hlater : later.text.length ≤ most - part.length := ih
    show (part ++ later.text).length ≤ most
    rw [List.length_append]
    omega

theorem category_of_error (s : LineSource) (most : Nat) (e : Fault)
    (h : (s.pull most).result = .error e) : e.category = .input := by
  fun_induction pull s most generalizing e with
  | case1 => cases h
  | case2 =>
    cases h
    rfl
  | case3 => cases h
  | case4 s most _ s' hrefill c rest hunread part later ih =>
    apply ih
    cases hlater : later.result with
    | ok n =>
      rw [hlater] at h
      cases h
    | error e' =>
      rw [hlater] at h
      cases h
      rfl

end LineSource

instance : CountingSource LineSource where
  length_text_le := LineSource.length_text_le
  length_text_of_ok := LineSource.length_text_of_ok

instance : InputSource LineSource where
  category_of_error := LineSource.category_of_error

section Either

variable {σ τ : Type} [FiniteSource σ] [FiniteSource τ]

instance [CountingSource σ] [CountingSource τ] : CountingSource (σ ⊕ τ) where
  length_text_le
    | .inl s, most => CountingSource.length_text_le s most
    | .inr s, most => CountingSource.length_text_le s most
  length_text_of_ok
    | .inl s, most => CountingSource.length_text_of_ok s most
    | .inr s, most => CountingSource.length_text_of_ok s most

instance [InputSource σ] [InputSource τ] : InputSource (σ ⊕ τ) where
  category_of_error
    | .inl s, most => InputSource.category_of_error s most
    | .inr s, most => InputSource.category_of_error s most

end Either

end Thicket
