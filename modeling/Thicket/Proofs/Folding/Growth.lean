import Mathlib.Data.List.Perm.Basic
import Thicket.Folding.Run
import Thicket.Proofs.Folding.Derivation

/-!
# How roots grow

`Growth g roots taken made roots'` says that the roots become `roots'` when the tokens of `taken` come
last as new roots, one after the other, and in between the nodes of `made` are made, each by folding
the match of the grammar that comes first. Reducing once and running a parser are growths. A growth
adds the tokens to the leaves on the right; every node stays as it is, whole and in its order, and the
nodes that are new are those of the tokens and those that were made.
-/

namespace Thicket

/-! ## One fold -/

/-- The roots before a match, those of the match and those after it are the roots. -/
theorem Reduction.split_roots (r : Reduction) (roots : Forest) :
    roots.take r.start ++
      ((r.node roots).children ++ (roots.drop r.start).drop r.walk.length) = roots := by
  rw [node, Node.children_branch, List.take_append_drop, List.take_append_drop]

/-- Folding a match leaves the leaves as they are. -/
theorem Reduction.leaves_apply (r : Reduction) (roots : Forest) (h : (r.node roots).children ≠ []) :
    Forest.leaves (r.apply roots) = Forest.leaves roots := by
  have hbetween := Forest.leaves_branch_between r.id h (roots.take r.start)
    ((roots.drop r.start).drop r.walk.length)
  rw [r.split_roots] at hbetween
  exact hbetween

/-- Folding a match puts the node that is made among the others, which stay as they are. -/
theorem Reduction.subtrees_apply (r : Reduction) (roots : Forest) :
    ∃ before after, Forest.subtrees roots = before ++ after ∧
      Forest.subtrees (r.apply roots) = before ++ r.node roots :: after := by
  have hroots := congrArg Forest.subtrees (r.split_roots roots)
  rw [Forest.subtrees_append, Forest.subtrees_append] at hroots
  exact ⟨_, _, hroots.symm, Forest.subtrees_branch_between r.id _ _ _⟩

/-- Folding a match never makes the roots more. -/
theorem Reduction.length_apply_le (r : Reduction) (roots : Forest) (h : (r.node roots).children ≠ []) :
    (r.apply roots).length ≤ roots.length := by
  have hsplit := congrArg List.length (r.split_roots roots)
  have hpos := List.length_pos_of_ne_nil h
  rw [List.length_append, List.length_append] at hsplit
  rw [apply, List.length_append, List.length_cons]
  omega

/-! ## Growth -/

/-- The roots become others by taking tokens and making nodes, each listed in order. -/
inductive Growth (g : Grammar) : Forest → List Symbol → List Node → Forest → Prop
  | refl (roots : Forest) : Growth g roots [] [] roots
  | token {roots roots' : Forest} {token : Symbol} {taken : List Symbol} {made : List Node} :
      Growth g (roots ++ [.leaf token]) taken made roots' →
      Growth g roots (token :: taken) made roots'
  | fold {roots roots' : Forest} {r : Reduction} {taken : List Symbol} {made : List Node} :
      g.firstReduction? roots = some r → Growth g (r.apply roots) taken made roots' →
      Growth g roots taken (r.node roots :: made) roots'

namespace Growth

variable {g : Grammar} {roots roots' : Forest} {taken : List Symbol} {made : List Node}

theorem trans {roots'' : Forest} {taken' : List Symbol} {made' : List Node}
    (h : Growth g roots taken made roots') (h' : Growth g roots' taken' made' roots'') :
    Growth g roots (taken ++ taken') (made ++ made') roots'' := by
  induction h with
  | refl => exact h'
  | token _ ih => exact .token (ih h')
  | fold hfirst _ ih => exact .fold hfirst (ih h')

/-- Every node that was made is one that the grammar may make. -/
theorem makes (h : Growth g roots taken made roots') : ∀ n ∈ made, g.Makes n := by
  induction h with
  | refl =>
    intro n hn
    cases hn
  | token _ ih => exact ih
  | fold hfirst _ ih =>
    intro n hn
    rcases List.mem_cons.1 hn with rfl | hn
    · exact Grammar.makes_of_firstReduction? hfirst
    · exact ih n hn

/-- The tokens that were taken are new leaves, behind the others. -/
theorem leaves_eq (h : Growth g roots taken made roots') :
    Forest.leaves roots' = Forest.leaves roots ++ taken := by
  induction h with
  | refl => rw [List.append_nil]
  | @token roots _ token taken _ _ ih =>
    rw [ih, Forest.leaves_append, Forest.leaves_leaf, List.append_assoc, List.singleton_append]
  | @fold roots _ r _ _ hfirst _ ih =>
    have hmakes := Grammar.makes_of_firstReduction? hfirst
    rw [ih, r.leaves_apply roots hmakes.children_ne_nil]

/-- There are no more roots than there were before, with one more for each token. -/
theorem length_le (h : Growth g roots taken made roots') : roots'.length ≤ roots.length + taken.length := by
  induction h with
  | refl => omega
  | token _ ih =>
    rw [List.length_append, List.length_singleton] at ih
    rw [List.length_cons]
    omega
  | @fold roots _ r _ _ hfirst _ ih =>
    have hmakes := Grammar.makes_of_firstReduction? hfirst
    have hle := r.length_apply_le roots hmakes.children_ne_nil
    omega

/-- All nodes stay as they are, in their order. -/
theorem subtrees_sublist (h : Growth g roots taken made roots') :
    (Forest.subtrees roots).Sublist (Forest.subtrees roots') := by
  induction h with
  | refl => exact List.Sublist.refl _
  | @token roots _ token _ _ _ ih =>
    rw [Forest.subtrees_append] at ih
    exact (List.sublist_append_left _ _).trans ih
  | @fold roots _ r _ _ _ _ ih =>
    obtain ⟨before, after, hroots, happly⟩ := r.subtrees_apply roots
    rw [happly] at ih
    rw [hroots]
    exact ((List.Sublist.refl before).append (List.sublist_cons_self _ after)).trans ih

/-- The nodes that are new are those of the tokens that were taken and those that were made. -/
theorem subtrees_perm (h : Growth g roots taken made roots') :
    (Forest.subtrees roots').Perm (Forest.subtrees roots ++ (taken.map Node.leaf ++ made)) := by
  induction h with
  | refl => rw [List.map_nil, List.nil_append, List.append_nil]
  | @token roots _ token taken made _ ih =>
    rw [Forest.subtrees_append, Forest.subtrees_leaf, List.append_assoc] at ih
    exact ih
  | @fold roots _ r taken made _ _ ih =>
    obtain ⟨before, after, hroots, happly⟩ := r.subtrees_apply roots
    have hmiddle : (Forest.subtrees (r.apply roots)).Perm (r.node roots :: Forest.subtrees roots) := by
      rw [hroots, happly]
      exact List.perm_middle
    -- the node that was made moves behind the nodes of the tokens
    refine ih.trans ((hmiddle.append_right _).trans ?_)
    rw [List.cons_append, ← List.append_assoc, ← List.append_assoc]
    exact List.perm_middle.symm

end Growth

/-! ## Folding and taking tokens -/

theorem Grammar.firstReduction?_of_due? {g : Grammar} {more : Bool} {roots : Forest} {r : Reduction}
    (h : g.due? more roots = some r) : g.firstReduction? roots = some r :=
  (Option.filter_eq_some_iff.1 h).1

/-- Folding until nothing is due takes no token, and makes the nodes it lists. -/
theorem Grammar.foldAll_growth (g : Grammar) (more : Bool) (budget : Nat) (roots : Forest) :
    Growth g roots [] (g.foldAll more budget roots).made (g.foldAll more budget roots).roots := by
  induction budget generalizing roots with
  | zero =>
    rw [foldAll]
    split
    · exact .refl roots
    · next r hdue => exact .fold (firstReduction?_of_due? hdue) (.refl _)
  | succ budget ih =>
    rw [foldAll]
    split
    · exact .refl roots
    · next r hdue => exact .fold (firstReduction?_of_due? hdue) (ih _)

namespace TokenQueue

variable {κ : Type} [TokenQueue κ]

/-- A queue hands out some tokens, one after the other, and then possibly fails to. -/
inductive Hands : κ → List Symbol → κ → Prop
  | refl (queue : κ) : Hands queue [] queue
  | refused {queue queue' : κ} {e : Fault} : pop queue = ⟨.error e, queue'⟩ → Hands queue [] queue'
  | token {queue queue' queue'' : κ} {token : Symbol} {taken : List Symbol} :
      pop queue = ⟨.ok token, queue'⟩ → Hands queue' taken queue'' →
      Hands queue (token :: taken) queue''

end TokenQueue

namespace Parser

variable {κ : Type} [TokenQueue κ]

/-- The tokens that were taken are what the queue has handed out, whatever ended the taking. -/
theorem hands_consume (limit : Nat) (grammar : Grammar) (roots : Forest) (queue : κ) (n : Nat) :
    TokenQueue.Hands queue (consume limit grammar roots queue n).taken
      (consume limit grammar roots queue n).queue := by
  induction n generalizing roots queue with
  | zero => exact .refl queue
  | succ left ih =>
    rw [consume]
    split
    · next hpop => exact .refused hpop
    · next token queue' hpop =>
      dsimp only
      split
      · exact .token hpop (ih _ queue')
      · exact .token hpop (.refl queue')

/-- Taking tokens lets the roots grow by the tokens it lists and the nodes it lists. -/
theorem growth_consume (limit : Nat) (grammar : Grammar) (roots : Forest) (queue : κ) (n : Nat) :
    Growth grammar roots (consume limit grammar roots queue n).taken
      (consume limit grammar roots queue n).made (consume limit grammar roots queue n).roots := by
  induction n generalizing roots queue with
  | zero => exact .refl roots
  | succ left ih =>
    rw [consume]
    split
    · exact .refl roots
    · next token queue' hpop =>
      have hfolded := grammar.foldAll_growth (left != 0) limit (roots ++ [.leaf token])
      dsimp only
      split
      · exact .token (hfolded.trans (ih _ queue'))
      · exact .token hfolded

end Parser

end Thicket
