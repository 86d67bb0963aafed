import Thicket.Source.Basic

/-!
# Played-back input

A source that gives a fixed list of answers, one a pull, whatever it is asked for. After the last
answer the input has ended.
-/

namespace Thicket

/-- An answer that is played back. -/
inductive Take where
  | give (text : Text)
  | fail (failure : InputFailure)

/-- The answers that are to come. -/
structure Playback where
  takes : List Take

namespace Playback

def pull (s : Playback) (_most : Nat) : Pulled Playback :=
  match s.takes with
  | [] => ⟨[], .ok 0, s⟩
  | .give text :: later => ⟨text, .ok text.length, ⟨later⟩⟩
  | .fail failure :: later => ⟨[], .error (Cause.input failure), ⟨later⟩⟩

instance : FiniteSource Playback where
  pull := pull
  supply s := s.takes.length
  supply_lt s most count h := by
    unfold pull at h ⊢
    split at h
    · cases h
    · next hnext => simp [hnext]
    · cases h

end Playback

end Thicket
