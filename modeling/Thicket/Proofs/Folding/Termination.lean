import Thicket.Proofs.Folding.Growth
import Thicket.Proofs.Folding.Renaming

/-!
# How often roots can be folded

On a grammar whose renamings never lead back, folding comes to an end, and how soon it does can be told
from the length of the longest chain of renamings. A root weighs this length, its own height, and one
more. Folding a single root renames it, which lowers its height; folding several makes one root of them,
which weighs less than any two do. So every fold takes something of the weight (`weight_apply_lt`), and
since no root weighs more than `2 * depth + 1`, there are no more folds than that for each root
(`Parser.folds_bounded`).
-/

namespace Thicket

namespace Grammar

variable {g : Grammar}

/-! ## Weights -/

/-- What a node weighs as a root. -/
noncomputable def rootWeight (g : Grammar) (n : Node) : Nat := g.depth + g.height n.id + 1

/-- What some roots weigh together. -/
noncomputable def weight (g : Grammar) (roots : Forest) : Nat := (roots.map g.rootWeight).sum

theorem weight_append (g : Grammar) (roots later : Forest) :
    g.weight (roots ++ later) = g.weight roots + g.weight later := by
  rw [weight, List.map_append, List.sum_append]
  rfl

theorem weight_cons (g : Grammar) (n : Node) (roots : Forest) :
    g.weight (n :: roots) = g.rootWeight n + g.weight roots := by
  rw [weight, List.map_cons, List.sum_cons]
  rfl

/-- No root weighs more than one of the greatest height. -/
theorem weight_le (hg : g.Acyclic) (roots : Forest) :
    g.weight roots ≤ (2 * g.depth + 1) * roots.length := by
  induction roots with
  | nil => exact Nat.zero_le _
  | cons n roots ih =>
    have hheight := height_le_depth hg n.id
    rw [weight_cons, rootWeight, List.length_cons, Nat.mul_succ]
    omega

/-- A node that a grammar makes weighs less than its children do. -/
theorem Makes.weight_lt (hg : g.Acyclic) {n : Node} (h : g.Makes n) :
    g.rootWeight n < g.weight n.children := by
  obtain ⟨hne, -, hderives⟩ := h
  obtain ⟨first, others, hchildren⟩ := List.exists_cons_of_ne_nil hne
  rw [hchildren] at hderives ⊢
  rw [weight_cons]
  cases others with
  | nil =>
    -- a single root has been renamed
    have hrenames : g.Renames first.id n.id := renames_iff_derives.2 hderives
    have hheight := hrenames.height_lt hg
    unfold rootWeight
    omega
  | cons second others =>
    -- two roots already weigh more than any one can
    have hheight := height_le_depth hg n.id
    rw [weight_cons]
    unfold rootWeight
    omega

/-- Every fold takes something of the weight. -/
theorem weight_apply_lt (hg : g.Acyclic) {roots : Forest} {r : Reduction}
    (h : g.firstReduction? roots = some r) : g.weight (r.apply roots) < g.weight roots := by
  have hnode := (makes_of_firstReduction? h).weight_lt hg
  have hroots := congrArg g.weight (r.split_roots roots)
  rw [weight_append, weight_append] at hroots
  rw [Reduction.apply, weight_append, weight_cons]
  omega

/-- Folding until nothing is due comes to its end if the budget is at least the weight of the roots. -/
theorem finished_foldAll (hg : g.Acyclic) (more : Bool) {budget : Nat} {roots : Forest}
    (h : g.weight roots ≤ budget) : (g.foldAll more budget roots).finished = true := by
  induction budget generalizing roots with
  | zero =>
    rw [foldAll]
    split
    · rfl
    · next r hdue =>
      have hlt := weight_apply_lt hg (firstReduction?_of_due? hdue)
      omega
  | succ budget ih =>
    rw [foldAll]
    split
    · rfl
    · next r hdue =>
      have hlt := weight_apply_lt hg (firstReduction?_of_due? hdue)
      exact ih (by omega)

end Grammar

/-! ## Queues -/

/-- Taking a token never fails because a limit was reached. -/
class TokenQueue.Limitless (κ : Type) [TokenQueue κ] : Prop where
  category_ne (queue : κ) (e : Fault) : (pop queue).result = .error e → e.category ≠ .exhausted

namespace TokenQueue

instance : Limitless (List Symbol) where
  category_ne queue e h := by
    cases queue with
    | nil =>
      cases h
      decide
    | cons s rest => cases h

instance {σ : Type} : Limitless (Tokenizer σ) where
  category_ne t e h := by
    cases hqueue : t.queue with
    | nil =>
      have hpop : pop t = ⟨.error Cause.emptyQueue, t⟩ := by simp [pop, Tokenizer.pop, hqueue]
      rw [hpop] at h
      cases h
      decide
    | cons s rest =>
      have hpop : (pop t).result = .ok s := by simp [pop, Tokenizer.pop, hqueue]
      rw [hpop] at h
      cases h

instance {κ μ : Type} [TokenQueue κ] [TokenQueue μ] [Limitless κ] [Limitless μ] : Limitless (κ ⊕ μ) where
  category_ne
    | .inl queue, e, h => Limitless.category_ne queue e h
    | .inr queue, e, h => Limitless.category_ne queue e h

instance {κ : Type} [TokenQueue κ] [Limitless κ] : Limitless (Overstated κ) where
  category_ne queue e h := Limitless.category_ne queue.queue e h

end TokenQueue

/-! ## Parsers -/

namespace Parser

variable {κ : Type}

/-- What a number of calls of `reduce` answer, one after the other. -/
def answers : Nat → Parser κ → List Bool
  | 0, _ => []
  | calls + 1, p => p.reduce.1 :: answers calls p.reduce.2

/-- No more calls find something to fold than the roots weigh. -/
theorem count_answers_le {p : Parser κ} (hg : p.grammar.Acyclic) (calls : Nat) :
    (p.answers calls).count true ≤ p.grammar.weight p.roots := by
  induction calls generalizing p with
  | zero => exact Nat.zero_le _
  | succ calls ih =>
    rw [answers, reduce]
    cases hdue : p.grammar.due? false p.roots with
    | none =>
      rw [List.count_cons_of_ne Bool.false_ne_true]
      exact ih hg
    | some r =>
      have hlt := Grammar.weight_apply_lt hg (Grammar.firstReduction?_of_due? hdue)
      have hlater := @ih { p with roots := r.apply p.roots } hg
      rw [List.count_cons_self]
      exact Nat.succ_le_of_lt (Nat.lt_of_le_of_lt hlater hlt)

variable [TokenQueue κ]

/-- If the limit is enough for the roots there will be, taking tokens fails only where the queue does. -/
theorem exists_pop_of_fault {limit : Nat} {grammar : Grammar} (hg : grammar.Acyclic) {roots : Forest}
    {queue : κ} {n : Nat} {e : Fault} (hlimit : (2 * grammar.depth + 1) * (roots.length + n) ≤ limit)
    (h : (consume limit grammar roots queue n).fault = some e) :
    ∃ q : κ, (TokenQueue.pop q).result = .error e := by
  induction n generalizing roots queue with
  | zero => cases h
  | succ left ih =>
    rw [consume] at h
    split at h
    · next e' queue' hpop =>
      cases h
      exact ⟨queue, by rw [hpop]⟩
    · next token queue' hpop =>
      dsimp only at h
      -- the roots with the token weigh no more than the limit, so that all folds are made
      have hweight : grammar.weight (roots ++ [.leaf token]) ≤ limit := by
        refine Nat.le_trans (Grammar.weight_le hg _) (Nat.le_trans (Nat.mul_le_mul_left _ ?_) hlimit)
        rw [List.length_append, List.length_singleton]
        omega
      rw [if_pos (Grammar.finished_foldAll hg (left != 0) hweight)] at h
      have hlength := (grammar.foldAll_growth (left != 0) limit (roots ++ [.leaf token])).length_le
      rw [List.length_append, List.length_singleton, List.length_nil] at hlength
      refine ih (Nat.le_trans (Nat.mul_le_mul_left _ ?_) hlimit) h
      omega

/-- On a grammar whose renamings never lead back, no more than `2 * depth + 1` calls of `reduce` for each
root find something to fold, where `depth` is the length of the longest chain of renamings. If the limit
is so many folds for each root and each token that is ready, a run fails only where the queue does, and
never because of the limit. -/
theorem folds_bounded (p : Parser κ) (hg : p.grammar.Acyclic) :
    (∀ id id', p.grammar.Renames id id' ↔ p.grammar.Derives id' [id]) ∧
    IsGreatest {n | ∃ id, p.grammar.ChainFrom id n} p.grammar.depth ∧
    p.grammar.depth ≤ p.grammar.size ∧
    (∀ calls, (p.answers calls).count true ≤ (2 * p.grammar.depth + 1) * p.roots.length) ∧
    ∀ queue, p.queue = some queue →
      (2 * p.grammar.depth + 1) * (p.roots.length + TokenQueue.pending queue) ≤ p.limit.most →
      ∀ e, p.run.1 = .error e → (∃ q : κ, (TokenQueue.pop q).result = .error e) ∧
        (TokenQueue.Limitless κ → e.category ≠ .exhausted) := by
  refine ⟨fun _ _ => Grammar.renames_iff_derives, Grammar.isGreatest_depth hg, Grammar.depth_le_size hg,
    fun calls => Nat.le_trans (count_answers_le hg calls) (Grammar.weight_le hg _), ?_⟩
  intro queue hqueue hlimit e he
  have hpop : ∃ q : κ, (TokenQueue.pop q).result = .error e := by
    rw [run, hqueue] at he
    dsimp only at he
    split at he
    · next e' hfault =>
      cases he
      exact exists_pop_of_fault hg hlimit hfault
    · cases he
  refine ⟨hpop, ?_⟩
  intro hlimitless
  obtain ⟨q, hq⟩ := hpop
  exact TokenQueue.Limitless.category_ne q e hq

/-- Two renamings follow one another here, so five folds for each root and token are enough. The queue has
a token less than it promises, and that is what the run fails with. -/
theorem folds_bounded_two_renamings :
    let grammar := (({} : Grammar).put 2 (by decide) ⟨[[.one 1]], by decide, by decide⟩).put 3
      (by decide) ⟨[[⟨2, 1, 2, by decide⟩]], by decide, by decide⟩
    let queue : Overstated (List Symbol) := ⟨[⟨1, "b".toList⟩], 1⟩
    let p : Parser (Overstated (List Symbol)) :=
      { limit := ⟨15, by decide⟩, grammar, queue := some queue, roots := [.leaf ⟨1, "a".toList⟩] }
    grammar.Acyclic ∧ grammar.depth = 2 ∧ (∀ calls, (p.answers calls).count true ≤ 5) ∧
      ∃ e, p.run.1 = .error e ∧ e.category ≠ .exhausted := by
  intro grammar queue p
  have hacyclic : grammar.Acyclic := by
    apply Grammar.acyclic_of_lt
    decide
  obtain ⟨-, hgreatest, hsize, hcalls, hrun⟩ := folds_bounded p hacyclic
  have hdepth : grammar.depth = 2 := by
    apply Nat.le_antisymm hsize
    have hlast : grammar.ChainFrom 2 1 := (grammar.chainFrom_zero 3).cons
      ⟨_, rfl, _, List.mem_singleton_self _, [], _, [], rfl, rfl, by decide, by decide, by simp⟩
    have hboth : grammar.ChainFrom 1 2 := hlast.cons
      ⟨_, rfl, _, List.mem_singleton_self _, [], _, [], rfl, rfl, by decide, by decide, by simp⟩
    exact hgreatest.2 ⟨1, hboth⟩
  refine ⟨hacyclic, hdepth, ?_, Cause.emptyQueue, rfl, ?_⟩
  · intro calls
    have hle := hcalls calls
    rw [hdepth] at hle
    exact hle
  · have hlimit : (2 * grammar.depth + 1) * (1 + 2) ≤ 15 := by
      rw [hdepth]
    exact (hrun queue rfl hlimit _ rfl).2 inferInstance

end Parser

end Thicket
