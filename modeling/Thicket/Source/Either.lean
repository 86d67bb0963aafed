import Thicket.Source.Basic

/-!
# One source or another

A source of either of two kinds is a source of both, so that whoever pulls need not know the kind.
-/

namespace Thicket

namespace Pulled

/-- What a pull does, with the source after it seen as one of another kind. -/
def mapSource {σ τ : Type} (f : σ → τ) (p : Pulled σ) : Pulled τ := ⟨p.text, p.result, f p.source⟩

end Pulled

instance {σ τ : Type} [FiniteSource σ] [FiniteSource τ] : FiniteSource (σ ⊕ τ) where
  pull
    | .inl s, most => (Source.pull s most).mapSource .inl
    | .inr s, most => (Source.pull s most).mapSource .inr
  supply
    | .inl s => FiniteSource.supply s
    | .inr s => FiniteSource.supply s
  supply_lt
    | .inl s, most, count, h => FiniteSource.supply_lt s most count h
    | .inr s, most, count, h => FiniteSource.supply_lt s most count h

end Thicket
