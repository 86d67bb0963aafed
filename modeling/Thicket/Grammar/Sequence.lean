import Thicket.Fault
import Thicket.Symbol

/-!
# Sequences and definitions

A sequence describes a run of symbols step by step: each step takes a number of symbols of one id,
between a least and a most. A definition is a list of sequences, any of which will do, the earlier
ones preferred; it has at least one, and none of them is empty.
-/

namespace Thicket

/-- Between `least` and `most` symbols of one id. -/
structure Step where
  id : SymbolId
  least : Nat
  most : Nat
  least_le_most : least ≤ most
deriving DecidableEq, Repr

namespace Step

/-- Exactly one symbol. -/
def one (id : SymbolId) : Step := ⟨id, 1, 1, Nat.le_refl 1⟩

/-- The step with the given bounds, if they do not cross. -/
def make? (id : SymbolId) (least most : Nat) : Except Fault Step :=
  if h : least ≤ most then .ok ⟨id, least, most, h⟩ else .error (Cause.crossedBounds id least most)

end Step

/-- Steps one after the other. -/
abbrev Sequence := List Step

/-- The alternatives for a nonterminal, in order of preference. -/
@[ext]
structure Definition where
  alternatives : List Sequence
  alternatives_ne_nil : alternatives ≠ []
  sequences_ne_nil : ∀ s ∈ alternatives, s ≠ []
deriving DecidableEq

namespace Definition

/-- The definition with the given alternatives, if there are any and none is empty. -/
def make? (alternatives : List Sequence) : Except Fault Definition :=
  if hne : alternatives = [] then .error Cause.noSequences
  else
    match hempty : alternatives.findIdx? List.isEmpty with
    | some index => .error (Cause.emptySequence index)
    | none => .ok ⟨alternatives, hne, fun s hs hnil => by
        have := List.findIdx?_eq_none_iff.1 hempty s hs
        simp [hnil] at this⟩

end Definition

end Thicket
