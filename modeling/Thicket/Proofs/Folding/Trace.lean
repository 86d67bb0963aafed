import Thicket.Proofs.Folding.Extension
import Thicket.Proofs.Folding.Growth

/-!
# The folds of a run

A trace lists the folds that a run makes, each with the roots it was made in and with whether tokens of
the run were still to come. The nodes that the run makes are those of the folds in its trace, and what
each fold takes is the match that was due. Since an open match has to wait while tokens are to come, a
fold that was made before the last token took a match that no root behind it could have changed
(`open_iff_extended`).
-/

namespace Thicket

/-- A fold: whether more roots were to come, the roots before it, and the match that was folded. -/
structure Fold where
  more : Bool
  roots : Forest
  reduction : Reduction

/-- The node that a fold makes. -/
def Fold.node (f : Fold) : Node := f.reduction.node f.roots

namespace Grammar

/-- The folds that are made until nothing is due, or one more than the budget. -/
def folds (g : Grammar) (more : Bool) (budget : Nat) (roots : Forest) : List Fold :=
  match g.due? more roots with
  | none => []
  | some r =>
    ⟨more, roots, r⟩ ::
      match budget with
      | 0 => []
      | budget + 1 => folds g more budget (r.apply roots)

theorem made_foldAll (g : Grammar) (more : Bool) (budget : Nat) (roots : Forest) :
    (g.foldAll more budget roots).made = (g.folds more budget roots).map Fold.node := by
  induction budget generalizing roots with
  | zero =>
    rw [foldAll, folds]
    cases g.due? more roots <;> rfl
  | succ budget ih =>
    rw [foldAll, folds]
    cases g.due? more roots with
    | none => rfl
    | some r =>
      dsimp only
      rw [ih (r.apply roots)]
      rfl

/-- Each fold takes the match that was due, and the leaves of the roots are the same before all of them. -/
theorem due_of_mem_folds {g : Grammar} {more : Bool} {budget : Nat} {roots : Forest} {f : Fold}
    (h : f ∈ g.folds more budget roots) :
    f.more = more ∧ g.due? more f.roots = some f.reduction ∧
      Forest.leaves f.roots = Forest.leaves roots := by
  induction budget generalizing roots with
  | zero =>
    rw [folds] at h
    split at h
    · cases h
    · next r hdue =>
      rw [List.mem_singleton] at h
      subst h
      exact ⟨rfl, hdue, rfl⟩
  | succ budget ih =>
    rw [folds] at h
    split at h
    · cases h
    · next r hdue =>
      rcases List.mem_cons.1 h with rfl | hlater
      · exact ⟨rfl, hdue, rfl⟩
      · have hmakes := makes_of_firstReduction? (firstReduction?_of_due? hdue)
        rw [← r.leaves_apply roots hmakes.children_ne_nil]
        exact ih hlater

/-- A match that is folded while more roots are to come is that of the alternative in use whatever comes. -/
theorem walk?_of_due? {g : Grammar} {roots : Forest} {r : Reduction}
    (h : g.due? true roots = some r) :
    ∃ d s, g.lookup r.id = .ok d ∧ d.used? roots = some s ∧
      ∀ ext, s.walk? ((roots ++ ext).drop r.start) = some r.walk := by
  obtain ⟨hfirst, hclosed⟩ := Option.filter_eq_some_iff.1 h
  rw [Bool.true_and, Bool.not_eq_true'] at hclosed
  obtain ⟨d, s, hd, hs, hwalk⟩ := exists_used_of_firstReduction? hfirst
  obtain ⟨-, hsame, -⟩ := Sequence.walk?_append (Sequence.walk?_of_firstWalk? hwalk)
  exact ⟨d, s, hd, hs, hsame hclosed⟩

end Grammar

namespace Parser

variable {κ : Type} [TokenQueue κ]

/-- The folds that are made when a number of tokens is taken from a queue. -/
def folds (limit : Nat) (grammar : Grammar) (roots : Forest) (queue : κ) : Nat → List Fold
  | 0 => []
  | left + 1 =>
    match TokenQueue.pop queue with
    | ⟨.error _, _⟩ => []
    | ⟨.ok token, queue⟩ =>
      let f := grammar.foldAll (left != 0) limit (roots ++ [.leaf token])
      grammar.folds (left != 0) limit (roots ++ [.leaf token]) ++
        if f.finished then folds limit grammar f.roots queue left else []

theorem made_consume (limit : Nat) (grammar : Grammar) (roots : Forest) (queue : κ) (n : Nat) :
    (consume limit grammar roots queue n).made =
      (folds limit grammar roots queue n).map Fold.node := by
  induction n generalizing roots queue with
  | zero => rfl
  | succ left ih =>
    rw [consume, folds]
    rcases TokenQueue.pop queue with ⟨_ | token, queue'⟩
    · rfl
    · dsimp only
      rw [List.map_append, ← Grammar.made_foldAll]
      split
      · rw [← ih]
        rfl
      · rw [List.map_nil, List.append_nil]

/-- Each fold takes the match that was due. Tokens are to come as long as the roots have fewer leaves than
they had before, with one more for each token that was ready. -/
theorem due_of_mem_folds {limit : Nat} {grammar : Grammar} {roots : Forest} {queue : κ} {n : Nat}
    {f : Fold} (h : f ∈ folds limit grammar roots queue n) :
    grammar.due? f.more f.roots = some f.reduction ∧
      (f.more = true ↔ (Forest.leaves f.roots).length < (Forest.leaves roots).length + n) := by
  induction n generalizing roots queue with
  | zero => cases h
  | succ left ih =>
    rw [folds] at h
    split at h
    · cases h
    · next token queue' hpop =>
      have hleaves : (Forest.leaves (roots ++ [.leaf token])).length =
          (Forest.leaves roots).length + 1 := by
        rw [Forest.leaves_append, Forest.leaves_leaf, List.length_append, List.length_singleton]
      rcases List.mem_append.1 h with hnow | hlater
      · obtain ⟨hmore, hdue, hsame⟩ := Grammar.due_of_mem_folds hnow
        rw [hmore, hsame, hleaves, bne_iff_ne]
        exact ⟨hdue, by omega⟩
      · split at hlater
        · obtain ⟨hdue, hmore⟩ := ih hlater
          have hgrowth := grammar.foldAll_growth (left != 0) limit (roots ++ [.leaf token])
          rw [hgrowth.leaves_eq, List.append_nil, hleaves] at hmore
          refine ⟨hdue, hmore.trans ?_⟩
          omega
        · cases hlater

/-- The folds of a run over the tokens that are ready in a queue. -/
def readyFolds (p : Parser κ) (queue : κ) : List Fold :=
  folds p.limit.most p.grammar p.roots queue (TokenQueue.pending queue)

/-- When more roots come, a match is still one, and takes no fewer of them. If it is not open, it stays the
same match whatever comes; it is open exactly if some roots would make it longer, and it ends at the last
root then. So a fold that a run makes while tokens are still to come takes what the alternative in use
would take from the same place whatever comes. -/
theorem open_iff_extended (p : Parser κ) (queue : κ) :
    (∀ (s : Sequence) (roots : Forest) (start : Nat) (w : Walk),
      s.walk? (roots.drop start) = some w →
        (∀ ext, ∃ w', s.walk? ((roots ++ ext).drop start) = some w' ∧ w.length ≤ w'.length) ∧
        (w.isOpen = false → ∀ ext, s.walk? ((roots ++ ext).drop start) = some w) ∧
        (w.isOpen = true ↔
          ∃ ext w', s.walk? ((roots ++ ext).drop start) = some w' ∧ w.length < w'.length) ∧
        (w.isOpen = true → start + w.length = roots.length)) ∧
    (p.consumeReady queue).made = (p.readyFolds queue).map Fold.node ∧
    ∀ f ∈ p.readyFolds queue,
      p.grammar.due? f.more f.roots = some f.reduction ∧
      (f.more = true ↔ (Forest.leaves f.roots).length <
        (Forest.leaves p.roots).length + TokenQueue.pending queue) ∧
      (f.more = true → ∃ d s, p.grammar.lookup f.reduction.id = .ok d ∧ d.used? f.roots = some s ∧
        ∀ ext, s.walk? ((f.roots ++ ext).drop f.reduction.start) = some f.reduction.walk) := by
  refine ⟨?_, made_consume _ _ _ _ _, ?_⟩
  · intro s roots start w hw
    obtain ⟨hmore, hclosed, hopen⟩ := Sequence.walk?_append hw
    refine ⟨hmore, hclosed, ⟨?_, ?_⟩, fun h => (hopen h).1⟩
    · intro h
      obtain ⟨-, n, w', hw', hlt⟩ := hopen h
      exact ⟨[n], w', hw', hlt⟩
    · rintro ⟨ext, w', hw', hlt⟩
      by_contra hnot
      -- a match that is not open would have stayed the same
      have hsame := hclosed (Bool.eq_false_iff.2 hnot) ext
      obtain rfl : w = w' := Option.some.inj (hsame.symm.trans hw')
      omega
  · intro f hf
    obtain ⟨hdue, hcount⟩ := due_of_mem_folds hf
    refine ⟨hdue, hcount, ?_⟩
    intro hmore
    rw [hmore] at hdue
    exact Grammar.walk?_of_due? hdue

/-- A step that takes up to two roots waits for the second one, and does not care for the third. -/
theorem open_iff_extended_pair :
    let s : Sequence := [⟨1, 1, 2, by decide⟩]
    let grammar := ({} : Grammar).put 5 (by decide) ⟨[s], by decide, by decide⟩
    let p : Parser (List Symbol) := { grammar }
    let queue : List Symbol := [⟨1, "a".toList⟩, ⟨1, "b".toList⟩, ⟨2, "c".toList⟩]
    (∃ ext w', s.walk? ([.leaf ⟨1, "a".toList⟩] ++ ext) = some w' ∧ 1 < w'.length) ∧
      ∃ f ∈ p.readyFolds queue, f.more = true ∧ f.reduction.walk = ⟨2, false⟩ ∧
        ∃ d, p.grammar.lookup 5 = .ok d ∧ d.used? f.roots = some s ∧
          ∀ ext, s.walk? (f.roots ++ ext) = some ⟨2, false⟩ := by
  intro s grammar p queue
  obtain ⟨hwalks, -, hfolds⟩ := open_iff_extended p queue
  obtain ⟨-, -, hopen, -⟩ := hwalks s [.leaf ⟨1, "a".toList⟩] 0 ⟨1, true⟩ (by decide)
  let f : Fold := ⟨true, [.leaf ⟨1, "a".toList⟩, .leaf ⟨1, "b".toList⟩], ⟨5, 0, ⟨2, false⟩⟩⟩
  have hf : f ∈ p.readyFolds queue := by
    have hall : p.readyFolds queue = [f] := rfl
    rw [hall]
    exact List.mem_singleton_self f
  obtain ⟨-, -, hkept⟩ := hfolds f hf
  obtain ⟨d, s', hd, hs, hext⟩ := hkept rfl
  have hused : d.used? f.roots = some s := by
    obtain rfl : d = ⟨[s], by decide, by decide⟩ := by
      have hlookup : p.grammar.lookup 5 = .ok ⟨[s], by decide, by decide⟩ := rfl
      exact Except.ok.inj (hd.symm.trans hlookup)
    decide
  obtain rfl : s' = s := Option.some.inj (hs.symm.trans hused)
  exact ⟨hopen.1 rfl, f, hf, rfl, rfl, d, hd, hused, hext⟩

end Parser

end Thicket
