import Thicket.Proofs.Folding.Normal

/-!
# Runs in batches

A grammar has fixed counts if each step of its sequences takes as many symbols as it needs, and no more. A
step that runs out of roots then has fewer than it needs, so no match is ever open (`isOpen_eq_false`), and
what is due does not depend on whether more tokens are to come (`due?_eq`). So the last token of a run is
folded like any other, and tokens that come batch by batch, with a run over each, are folded just as in one
run over all of them (`Parser.batches_agree`).
-/

namespace Thicket

/-! ## Steps that take a fixed number -/

/-- A step takes as many symbols as it needs, and no more. -/
def Step.IsFixed (s : Step) : Prop := s.least = s.most

instance (s : Step) : Decidable s.IsFixed := inferInstanceAs (Decidable (_ = _))

/-- A step that gets as many roots as it needs is not left with a wish for more. -/
theorem Step.IsFixed.not_runsOut {s : Step} {roots : Forest} (h : s.IsFixed)
    (hleast : s.least ≤ s.takes roots) : ¬ s.RunsOut roots := by
  rintro ⟨hall, hmore⟩
  rw [IsFixed] at h
  omega

theorem Sequence.isOpen_of_follow {s : Sequence} {roots : Forest} {w : Walk}
    (hfixed : ∀ step ∈ s, step.IsFixed) (h : s.follow roots = some w) : w.isOpen = false := by
  induction s generalizing roots w with
  | nil =>
    rw [follow] at h
    cases h
    rfl
  | cons step s ih =>
    rw [List.forall_mem_cons] at hfixed
    obtain ⟨hleast, rest, hrest, rfl⟩ := follow_cons_eq_some_iff.1 h
    show (decide (step.RunsOut roots) || rest.isOpen) = false
    rw [decide_eq_false (hfixed.1.not_runsOut hleast), ih hfixed.2 hrest, Bool.or_false]

/-! ## Grammars of such steps -/

namespace Grammar

variable {g : Grammar} {more more' : Bool} {limit n : ℕ} {roots roots' : Forest}

/-- Each step of each sequence takes a fixed number of symbols. -/
def FixedCounts (g : Grammar) : Prop :=
  ∀ production ∈ g.productions, ∀ s ∈ production.2.alternatives, ∀ step ∈ s, step.IsFixed

instance (g : Grammar) : Decidable g.FixedCounts :=
  inferInstanceAs (Decidable (∀ production ∈ g.productions, _))

namespace FixedCounts

/-- The first match is not open. -/
theorem isOpen_eq_false {r : Reduction} (h : g.FixedCounts) (hr : g.firstReduction? roots = some r) :
    r.walk.isOpen = false := by
  obtain ⟨d, s, hd, hs, hwalk⟩ := exists_used_of_firstReduction? hr
  have hfixed : ∀ step ∈ s, step.IsFixed := h _ (mem_of_lookup hd) s (List.mem_of_find?_eq_some hs)
  obtain ⟨hfollow, -⟩ := Sequence.walk?_eq_some_iff.1 (Sequence.walk?_of_firstWalk? hwalk)
  exact Sequence.isOpen_of_follow hfixed hfollow

/-- The first match is due, whether more tokens are to come or not. -/
theorem due?_eq (h : g.FixedCounts) (more : Bool) (roots : Forest) :
    g.due? more roots = g.firstReduction? roots := by
  rw [due?]
  cases hr : g.firstReduction? roots with
  | none => rfl
  | some r =>
    refine Option.filter_some_pos ?_
    rw [h.isOpen_eq_false hr, Bool.and_false, Bool.not_false]

theorem foldsTo (h : g.FixedCounts) (hfolds : g.FoldsTo more n roots roots') :
    g.FoldsTo more' n roots roots' := by
  induction hfolds with
  | refl roots => exact .refl roots
  | fold hdue _ ih =>
    rw [h.due?_eq] at hdue
    exact .fold ((h.due?_eq more' _).trans hdue) ih

theorem settlesTo (h : g.FixedCounts) (hsettles : g.SettlesTo more limit roots roots') :
    g.SettlesTo more' limit roots roots' := by
  obtain ⟨n, hle, hfolds, hnone⟩ := hsettles
  rw [h.due?_eq] at hnone
  exact ⟨n, hle, h.foldsTo hfolds, (h.due?_eq more' _).trans hnone⟩

end FixedCounts

/-! ## The last token of a batch -/

variable {tokens later : List Symbol}

/-- Tokens that come one after the other come in parts. -/
theorem advancesTo_append_iff : g.AdvancesTo limit roots (tokens ++ later) roots' ↔
    ∃ between, g.AdvancesTo limit roots tokens between ∧ g.AdvancesTo limit between later roots' := by
  induction tokens generalizing roots with
  | nil =>
    refine ⟨fun h => ⟨roots, .refl roots, h⟩, ?_⟩
    rintro ⟨between, hnone, hlater⟩
    cases hnone
    exact hlater
  | cons token tokens ih =>
    constructor
    · intro h
      cases h with
      | token hsettles hrest =>
        obtain ⟨between, htokens, hlater⟩ := ih.1 hrest
        exact ⟨between, .token hsettles htokens, hlater⟩
    · rintro ⟨between, htokens, hlater⟩
      cases htokens with
      | token hsettles hrest => exact .token hsettles (ih.2 ⟨between, hrest, hlater⟩)

/-- The last token is folded as if more were to come. -/
theorem FixedCounts.finishesTo_iff (h : g.FixedCounts) :
    g.FinishesTo limit roots tokens roots' ↔ g.AdvancesTo limit roots tokens roots' := by
  constructor
  · intro hfinishes
    cases hfinishes with
    | refl => exact .refl roots
    | last hadvances hsettles =>
      exact advancesTo_append_iff.2 ⟨_, hadvances, .token (h.settlesTo hsettles) (.refl _)⟩
  · intro hadvances
    rcases List.eq_nil_or_concat' tokens with rfl | ⟨tokens, last, rfl⟩
    · cases hadvances
      exact .refl roots
    · obtain ⟨between, hbefore, hlast⟩ := advancesTo_append_iff.1 hadvances
      cases hlast with
      | token hsettles hnone =>
        cases hnone
        exact .last hbefore (h.settlesTo hsettles)

end Grammar

/-! ## Batches -/

/-- The tokens that are ready in a queue, all of which it delivers. -/
def TokenQueue.Offers {κ : Type} [TokenQueue κ] (queue : κ) (tokens : List Symbol) : Prop :=
  ∃ left, Delivers queue tokens left ∧ tokens.length = pending queue

/-- A list offers its symbols. -/
theorem TokenQueue.offers_list (tokens : List Symbol) : Offers tokens tokens := by
  have hall := delivers_list tokens []
  rw [List.append_nil] at hall
  exact ⟨[], hall, rfl⟩

namespace Parser

variable {κ : Type} [TokenQueue κ] {p : Parser κ} {queue whole : κ} {queues : List κ} {tokens : List Symbol}
  {parts : List (List Symbol)} {roots : Forest} {n : ℕ}

/-- Runs over one queue after the other: what each of the runs has come to, and the parser after them. -/
def runEach (p : Parser κ) : List κ → List (Except Fault ℕ) × Parser κ
  | [] => ([], p)
  | queue :: queues =>
    let first := (p.bind queue).run
    let rest := runEach first.2 queues
    (first.1 :: rest.1, rest.2)

/-- A run takes the tokens that a queue offers as if more were to come. -/
theorem run_bind_of_advancesTo (hfixed : p.grammar.FixedCounts) (hqueue : TokenQueue.Offers queue tokens)
    (h : p.grammar.AdvancesTo p.limit.most p.roots tokens roots) :
    ∃ left, (p.bind queue).run = (.ok tokens.length, { p with roots, queue := some left }) := by
  obtain ⟨left, htokens, hready⟩ := hqueue
  exact ⟨left, run_of_finishesTo (p := p.bind queue) rfl htokens hready (hfixed.finishesTo_iff.2 h)⟩

/-- Where a run over a queue succeeds, folding settles after each token that the queue offers. -/
theorem exists_advancesTo_of_run_ok (hfixed : p.grammar.FixedCounts)
    (hqueue : TokenQueue.Offers queue tokens) (hok : (p.bind queue).run.1 = .ok n) :
    ∃ roots, p.grammar.AdvancesTo p.limit.most p.roots tokens roots := by
  obtain ⟨left, htokens, hready⟩ := hqueue
  obtain ⟨hn, -⟩ := consumeReady_of_run_ok rfl hok
  rw [← hn, ← hready] at hok
  obtain ⟨roots, hfinishes⟩ := (run_eq_ok_iff (p := p.bind queue) rfl htokens hready).1.1 hok
  exact ⟨roots, hfixed.finishesTo_iff.1 hfinishes⟩

/-- If folding settles after each token, the runs over all queues succeed, and they end with the roots that
folding comes to. -/
theorem runEach_of_advancesTo (hfixed : p.grammar.FixedCounts)
    (hqueues : List.Forall₂ TokenQueue.Offers queues parts)
    (h : p.grammar.AdvancesTo p.limit.most p.roots parts.flatten roots) :
    (p.runEach queues).1 = parts.map (fun part => .ok part.length) ∧
      (p.runEach queues).2.roots = roots := by
  induction hqueues generalizing p with
  | nil =>
    cases h
    exact ⟨rfl, rfl⟩
  | @cons queue part queues parts hqueue _ ih =>
    obtain ⟨between, hpart, hlater⟩ := Grammar.advancesTo_append_iff.1 h
    obtain ⟨left, hrun⟩ := run_bind_of_advancesTo hfixed hqueue hpart
    -- the next run goes on from the roots that this one has left
    obtain ⟨hresults, hroots⟩ := ih (p := { p with roots := between, queue := some left }) hfixed hlater
    rw [runEach, hrun]
    exact ⟨congrArg (_ :: ·) hresults, hroots⟩

/-- If the runs over all queues succeed, folding settles after each token. -/
theorem exists_advancesTo_of_runEach_ok (hfixed : p.grammar.FixedCounts)
    (hqueues : List.Forall₂ TokenQueue.Offers queues parts)
    (hok : ∀ result ∈ (p.runEach queues).1, ∃ n, result = .ok n) :
    ∃ roots, p.grammar.AdvancesTo p.limit.most p.roots parts.flatten roots := by
  induction hqueues generalizing p with
  | nil => exact ⟨p.roots, .refl p.roots⟩
  | @cons queue part queues parts hqueue _ ih =>
    rw [runEach, List.forall_mem_cons] at hok
    obtain ⟨⟨n, hfirst⟩, hrest⟩ := hok
    obtain ⟨between, hpart⟩ := exists_advancesTo_of_run_ok hfixed hqueue hfirst
    obtain ⟨left, hrun⟩ := run_bind_of_advancesTo hfixed hqueue hpart
    rw [hrun] at hrest
    obtain ⟨roots, hlater⟩ := ih (p := { p with roots := between, queue := some left }) hfixed hrest
    exact ⟨roots, Grammar.advancesTo_append_iff.2 ⟨between, hpart, hlater⟩⟩

/-- Tokens are cut into parts, one queue offers all of them, and other queues offer one part each. If the
grammar has fixed counts and a run over all tokens succeeds, then so does the run over each part, one after
the other: each takes the tokens of its part, and the last leaves the roots that the single run leaves. And
if each of these runs succeeds, so does the single run. -/
theorem batches_agree (hfixed : p.grammar.FixedCounts) (hcut : parts.flatten = tokens)
    (hwhole : TokenQueue.Offers whole tokens) (hparts : List.Forall₂ TokenQueue.Offers queues parts) :
    (∀ n, (p.bind whole).run.1 = .ok n →
      (p.runEach queues).1 = parts.map (fun part => .ok part.length) ∧
      (p.runEach queues).2.roots = (p.bind whole).run.2.roots) ∧
    ((∀ result ∈ (p.runEach queues).1, ∃ n, result = .ok n) → ∃ n, (p.bind whole).run.1 = .ok n) := by
  subst hcut
  constructor
  · intro n hok
    obtain ⟨roots, hadvances⟩ := exists_advancesTo_of_run_ok hfixed hwhole hok
    obtain ⟨left, hrun⟩ := run_bind_of_advancesTo hfixed hwhole hadvances
    rw [hrun]
    exact runEach_of_advancesTo hfixed hparts hadvances
  · intro hok
    obtain ⟨roots, hadvances⟩ := exists_advancesTo_of_runEach_ok hfixed hparts hok
    obtain ⟨left, hrun⟩ := run_bind_of_advancesTo hfixed hwhole hadvances
    exact ⟨parts.flatten.length, congrArg Prod.fst hrun⟩

/-- The grammar has a step that takes nothing, a pair and a renaming of it; a pair stands among the first roots
already, and one falls on both sides of a cut. With a limit of two folds after each token, one run over four
tokens and three runs over two, none and two of them leave the same roots. -/
theorem batches_agree_across_pair :
    let grammar := (({} : Grammar).put 5 (by decide)
        ⟨[[.one 1, ⟨3, 0, 0, by decide⟩, ⟨2, 2, 2, by decide⟩]], by decide, by decide⟩).put 6 (by decide)
      ⟨[[.one 5]], by decide, by decide⟩
    let leaves (ids : List SymbolId) : Forest := ids.map fun id => .leaf ⟨id, id.text⟩
    let tokens (ids : List SymbolId) : List Symbol := ids.map fun id => ⟨id, id.text⟩
    let p : Parser (List Symbol) := { limit := ⟨2, by decide⟩, grammar, roots := leaves [1, 2, 2, 9] }
    let whole := tokens [1, 2, 2, 1]
    let parts := [tokens [1, 2], [], tokens [2, 1]]
    (p.bind whole).run.1 = .ok 4 ∧ (p.runEach parts).1 = [.ok 2, .ok 0, .ok 2] ∧
      (p.runEach parts).2.roots = (p.bind whole).run.2.roots ∧
      (p.runEach parts).2.roots.map Node.id = [6, 9, 6, 1] := by
  intro grammar leaves tokens p whole parts
  have hfixed : p.grammar.FixedCounts := by decide
  have hcut : parts.flatten = whole := rfl
  have hwhole : TokenQueue.Offers whole whole := TokenQueue.offers_list whole
  have hparts : List.Forall₂ TokenQueue.Offers parts parts :=
    List.forall₂_same.2 fun part _ => TokenQueue.offers_list part
  have hok : (p.bind whole).run.1 = .ok 4 := by decide
  obtain ⟨hagree, -⟩ := batches_agree hfixed hcut hwhole hparts
  obtain ⟨hresults, hroots⟩ := hagree 4 hok
  exact ⟨hok, hresults, hroots, by decide⟩

/-- Where a step may take one more, a cut can come too early for a match. -/
example :
    let grammar := ({} : Grammar).put 5 (by decide) ⟨[[⟨1, 1, 2, by decide⟩]], by decide, by decide⟩
    let p : Parser (List Symbol) := { grammar }
    let a : Symbol := ⟨1, "a".toList⟩
    (p.bind [a, a]).run.2.roots.map Node.id = [5] ∧
      (p.runEach [[a], [a]]).2.roots.map Node.id = [5, 5] := by
  decide

end Parser

end Thicket
