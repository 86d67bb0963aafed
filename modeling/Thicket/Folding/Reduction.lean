import Thicket.Folding.Walk

/-!
# Folding roots once

The match to fold is the first one by production, then by alternative, then by place. Its roots
become the children of one new root. As long as more roots are to come, an open match is left to
grow, and nothing else is folded in its stead.
-/

namespace Thicket

/-- A match to fold: the nonterminal, the number of roots before the match, and the match. -/
structure Reduction where
  id : SymbolId
  start : Nat
  walk : Walk

/-- The match of a grammar that comes first. -/
def Grammar.firstReduction? (g : Grammar) (roots : Forest) : Option Reduction :=
  g.productions.findSome? fun (id, d) =>
    d.alternatives.findSome? fun s =>
      (s.firstWalk? roots).map fun (start, walk) => ⟨id, start, walk⟩

/-- The root that a match is folded into. -/
def Reduction.node (r : Reduction) (roots : Forest) : Node :=
  .branch r.id ((roots.drop r.start).take r.walk.length)

/-- The roots with a match folded into one. -/
def Reduction.apply (r : Reduction) (roots : Forest) : Forest :=
  roots.take r.start ++ r.node roots :: (roots.drop r.start).drop r.walk.length

/-- The match to fold now: the one that comes first, unless it is open and more roots are to come. -/
def Grammar.due? (g : Grammar) (more : Bool) (roots : Forest) : Option Reduction :=
  (g.firstReduction? roots).filter fun r => !(more && r.walk.isOpen)

/-- What folding has come to: the roots, the nodes that were made, in order, and whether nothing more
is due. -/
structure Folded where
  roots : Forest
  made : List Node
  finished : Bool

/-- Folds until nothing is due or one fold more than the budget was made. -/
def Grammar.foldAll (g : Grammar) (more : Bool) (budget : Nat) (roots : Forest) : Folded :=
  match g.due? more roots with
  | none => ⟨roots, [], true⟩
  | some r =>
    match budget with
    | 0 => ⟨r.apply roots, [r.node roots], false⟩
    | budget + 1 =>
      let later := foldAll g more budget (r.apply roots)
      { later with made := r.node roots :: later.made }

end Thicket
