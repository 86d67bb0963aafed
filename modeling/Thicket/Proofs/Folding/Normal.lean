import Thicket.Proofs.Folding.Extension
import Thicket.Proofs.Folding.Outcome
import Thicket.Proofs.Folding.Priority

/-!
# Roots that a run leaves

Roots are in normal form if there is nothing to fold in them. Folding stops only where nothing is due, so
what it stops at does not depend on the roots it was begun with: if no more tokens are to come, they are in
normal form; otherwise there may still be matches in them, but the first of these is open
(`due?_false_eq_none_iff`, `due?_true_eq_none_iff`).

A run that succeeds pauses before each of its tokens but the first. It does so only where folding has
stopped, whatever roots an earlier run has left unfolded, and after the last token the roots are in normal
form (`Parser.run_normal`).
-/

namespace Thicket

/-! ## Where folding stops -/

namespace Grammar

variable {g : Grammar} {more : Bool} {budget : ℕ} {roots : Forest}

/-- Roots in normal form: no alternative of any production matches them from any place on. -/
def IsNormal (g : Grammar) (roots : Forest) : Prop :=
  ∀ production alternative r, ¬ g.Finds roots production alternative r

/-- Roots that wait for more: they are in normal form, or their first match is open and ends at the last
root. -/
def IsWaiting (g : Grammar) (roots : Forest) : Prop :=
  g.IsNormal roots ∨
    ∃ r, g.IsFirst roots r ∧ r.walk.isOpen = true ∧ r.start + r.walk.length = roots.length

/-- When no more roots are to come, nothing is due just if the roots are in normal form. -/
theorem due?_false_eq_none_iff : g.due? false roots = none ↔ g.IsNormal roots := by
  rw [due?_false]
  exact firstReduction?_eq_none_iff

/-- An open match ends at the last root. -/
theorem IsFirst.end_eq {r : Reduction} (h : g.IsFirst roots r) (hopen : r.walk.isOpen = true) :
    r.start + r.walk.length = roots.length := by
  obtain ⟨production, alternative, ⟨d, s, -, -, hwalk⟩, -⟩ := h
  obtain ⟨-, -, hends⟩ := Sequence.walk?_append hwalk
  exact (hends hopen).1

/-- When more roots are to come, nothing is due just if the roots wait for them. -/
theorem due?_true_eq_none_iff : g.due? true roots = none ↔ g.IsWaiting roots := by
  rw [due?, Option.filter_eq_none_iff]
  constructor
  · intro h
    cases hfound : g.firstReduction? roots with
    | none => exact .inl (firstReduction?_eq_none_iff.1 hfound)
    | some r =>
      have hfirst := firstReduction?_eq_some_iff.1 hfound
      have hopen : r.walk.isOpen = true := by simpa using h r hfound
      exact .inr ⟨r, hfirst, hopen, hfirst.end_eq hopen⟩
  · intro h r hfound
    obtain hnormal | ⟨r', hfirst, hopen, -⟩ := h
    · rw [firstReduction?_eq_none_iff.2 hnormal] at hfound
      cases hfound
    · rw [(firstReduction?_eq_some_iff.1 hfound).unique hfirst, hopen]
      exact Bool.false_ne_true

/-- Where folding has finished, nothing is due. -/
theorem due?_foldAll (h : (g.foldAll more budget roots).finished = true) :
    g.due? more (g.foldAll more budget roots).roots = none := by
  obtain ⟨roots', hsettles⟩ | ⟨roots', hfolds⟩ := g.settlesTo_or_overruns more budget roots
  · rw [hsettles.foldAll.2]
    obtain ⟨n, -, -, hnone⟩ := hsettles
    exact hnone
  · rw [hfolds.foldAll.1] at h
    cases h

end Grammar

/-! ## Where a run pauses -/

namespace Parser

variable {κ : Type} [TokenQueue κ]

/-- The roots and the queue with which taking a number of tokens goes on after each token but the last. -/
def pauses (limit : ℕ) (grammar : Grammar) (roots : Forest) (queue : κ) : ℕ → List (Forest × κ)
  | 0 => []
  | left + 1 =>
    match TokenQueue.pop queue with
    | ⟨.error _, _⟩ => []
    | ⟨.ok token, queue⟩ =>
      let f := grammar.foldAll (left != 0) limit (roots ++ [.leaf token])
      if f.finished && left != 0 then (f.roots, queue) :: pauses limit grammar f.roots queue left else []

/-- The pauses of a run over the tokens that are ready in a queue. -/
def readyPauses (p : Parser κ) (queue : κ) : List (Forest × κ) :=
  pauses p.limit.most p.grammar p.roots queue (TokenQueue.pending queue)

variable {limit n : ℕ} {grammar : Grammar} {roots : Forest} {queue : κ}

/-- If tokens are taken without a fault, then folding stops after the first of them, and the others are taken
from the roots that it stops at; there is a pause if there are others. -/
theorem exists_stop_of_consume {left : ℕ} (h : (consume limit grammar roots queue (left + 1)).fault = none) :
    ∃ roots' queue', grammar.due? (left != 0) roots' = none ∧
      (consume limit grammar roots queue (left + 1)).ending =
        (consume limit grammar roots' queue' left).ending ∧
      pauses limit grammar roots queue (left + 1) =
        if left != 0 then (roots', queue') :: pauses limit grammar roots' queue' left else [] := by
  rw [consume] at h
  rw [consume, pauses]
  rcases hpop : TokenQueue.pop queue with ⟨_ | token, queue'⟩
  · rw [hpop] at h
    cases h
  · rw [hpop] at h
    dsimp only at h ⊢
    split at h
    · next hfinished =>
      rw [if_pos hfinished, hfinished, Bool.true_and]
      exact ⟨_, queue', Grammar.due?_foldAll hfinished, rfl, rfl⟩
    · cases h

/-- If some tokens are taken without a fault, the roots are in normal form at last. -/
theorem isNormal_of_consume (h : (consume limit grammar roots queue (n + 1)).fault = none) :
    grammar.IsNormal (consume limit grammar roots queue (n + 1)).roots := by
  induction n generalizing roots queue with
  | zero =>
    obtain ⟨roots', queue', hdue, hending, -⟩ := exists_stop_of_consume h
    have hroots : (consume limit grammar roots queue 1).roots = roots' :=
      congrArg (fun ending => ending.2.1) hending
    -- no token is left, so open matches have not waited
    rw [hroots, ← Grammar.due?_false_eq_none_iff]
    exact hdue
  | succ n ih =>
    obtain ⟨roots', queue', -, hending, -⟩ := exists_stop_of_consume h
    have hfault : (consume limit grammar roots queue (n + 1 + 1)).fault =
        (consume limit grammar roots' queue' (n + 1)).fault := congrArg Prod.fst hending
    have hroots : (consume limit grammar roots queue (n + 1 + 1)).roots =
        (consume limit grammar roots' queue' (n + 1)).roots :=
      congrArg (fun ending => ending.2.1) hending
    rw [hroots]
    exact ih (hfault.symm.trans h)

/-- If tokens are taken without a fault, there is a pause after each of them but the last. The roots wait for
more then, and the other tokens are taken from there. -/
theorem pauses_of_consume (h : (consume limit grammar roots queue n).fault = none) :
    (pauses limit grammar roots queue n).length = n - 1 ∧
      ∀ k roots' queue', (pauses limit grammar roots queue n)[k]? = some (roots', queue') →
        (consume limit grammar roots queue n).ending =
          (consume limit grammar roots' queue' (n - (k + 1))).ending ∧
        grammar.IsWaiting roots' := by
  induction n generalizing roots queue with
  | zero => exact ⟨rfl, nofun⟩
  | succ left ih =>
    obtain ⟨next, rest, hdue, hending, hpauses⟩ := exists_stop_of_consume h
    have hfault : (consume limit grammar roots queue (left + 1)).fault =
        (consume limit grammar next rest left).fault := congrArg Prod.fst hending
    obtain ⟨hlength, hlater⟩ := ih (hfault.symm.trans h)
    rw [hpauses, hending]
    split
    · next hmore =>
      -- tokens are left: this is the first pause, and the others come later
      have hpos : left ≠ 0 := bne_iff_ne.1 hmore
      rw [hmore, Grammar.due?_true_eq_none_iff] at hdue
      constructor
      · rw [List.length_cons, hlength]
        omega
      · intro k roots' queue' hk
        cases k with
        | zero =>
          rw [List.getElem?_cons_zero] at hk
          cases hk
          exact ⟨rfl, hdue⟩
        | succ k =>
          rw [List.getElem?_cons_succ] at hk
          rw [Nat.add_sub_add_right]
          exact hlater k roots' queue' hk
    · next hlast =>
      have hzero : left = 0 := by simpa using hlast
      subst hzero
      exact ⟨rfl, nofun⟩

/-- A run that succeeds has taken all the tokens that were ready. -/
theorem consumeReady_of_run_ok {p : Parser κ} (hqueue : p.queue = some queue) (h : p.run.1 = .ok n) :
    TokenQueue.pending queue = n ∧ (p.consumeReady queue).fault = none := by
  rw [run, hqueue] at h
  dsimp only at h
  split at h
  · cases h
  · next hfault => exact ⟨Except.ok.inj h, hfault⟩

/-- A run that succeeds with some tokens ends with roots in normal form, whatever roots it was begun with. So
there is nothing to reduce after it, and a run over a queue without tokens changes nothing.

It has paused after each token but the last, with the roots and the queue from which the other tokens were
then taken; and there the roots were in normal form, or their first match was open and ended at the last
root. -/
theorem run_normal {p : Parser κ} (hqueue : p.queue = some queue) (hok : p.run.1 = .ok n) (hpos : 0 < n) :
    p.grammar.IsNormal p.run.2.roots ∧
    p.run.2.reduce = (false, p.run.2) ∧
    (∀ empty : κ, TokenQueue.pending empty = 0 →
      (p.run.2.bind empty).run = (.ok 0, p.run.2.bind empty)) ∧
    (p.readyPauses queue).length = n - 1 ∧
    ∀ k roots queue', (p.readyPauses queue)[k]? = some (roots, queue') →
      (p.consumeReady queue).ending =
        (consume p.limit.most p.grammar roots queue' (n - (k + 1))).ending ∧
      p.grammar.IsWaiting roots := by
  obtain ⟨hready, hfault⟩ := consumeReady_of_run_ok hqueue hok
  have hnormal : p.grammar.IsNormal (p.consumeReady queue).roots := by
    obtain ⟨m, rfl⟩ : ∃ m, n = m + 1 := ⟨n - 1, by omega⟩
    rw [consumeReady, hready] at hfault ⊢
    exact isNormal_of_consume hfault
  have hpauses := pauses_of_consume hfault
  rw [hready] at hpauses
  refine ⟨?_, ?_, ?_, ?_⟩
  · rw [run_bound hqueue]
    exact hnormal
  · have hidle : p.run.2.grammar.due? false p.run.2.roots = none := by
      rw [run_bound hqueue]
      exact Grammar.due?_false_eq_none_iff.2 hnormal
    rw [reduce, hidle]
  · intro empty hempty
    have hnothing : ((p.run.2.bind empty).consumeReady empty).ending =
        (none, p.run.2.roots, empty) := by
      rw [consumeReady, hempty]
      rfl
    rw [run_of_ending rfl hnothing, hempty]
    rfl
  · rw [readyPauses, consumeReady, hready]
    exact hpauses

/-- The roots that the run begins with have not been folded, but it pauses only after it has folded them: the
first time nothing is left to fold, the second time a match could still grow. -/
theorem run_normal_unfolded :
    let grammar := ({} : Grammar).put 5 (by decide) ⟨[[⟨1, 1, 2, by decide⟩]], by decide, by decide⟩
    let leaves (ids : List SymbolId) : Forest := ids.map fun id => .leaf ⟨id, id.text⟩
    let queue : List Symbol := [1, 1, 7].map fun id => ⟨id, id.text⟩
    let p : Parser (List Symbol) :=
      { limit := ⟨2, by decide⟩, grammar, roots := leaves [1, 9, 1], queue := some queue }
    p.run.1 = .ok 3 ∧ p.run.2.roots.map Node.id = [5, 9, 5, 5, 7] ∧ grammar.IsNormal p.run.2.roots ∧
      p.run.2.reduce = (false, p.run.2) ∧ (p.run.2.bind []).run = (.ok 0, p.run.2.bind []) ∧
      (p.readyPauses queue).map (fun pause => pause.1.map Node.id) = [[5, 9, 5], [5, 9, 5, 1]] ∧
      ∀ pause ∈ p.readyPauses queue, grammar.IsWaiting pause.1 := by
  intro grammar leaves queue p
  have hok : p.run.1 = .ok 3 := rfl
  obtain ⟨hnormal, hreduce, hempty, -, hpauses⟩ := run_normal (p := p) rfl hok (by decide)
  refine ⟨hok, by decide, hnormal, hreduce, hempty [] rfl, by decide, ?_⟩
  rintro ⟨roots, queue'⟩ hpause
  obtain ⟨k, hk⟩ := List.mem_iff_getElem?.1 hpause
  exact (hpauses k roots queue' hk).2

end Parser

end Thicket
