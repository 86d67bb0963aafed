import Thicket.Proofs.Folding.Session

/-!
# How a run ends

What a run does is said here without the loops that do it. Folding is a chain of folds, each of the match
that is due (`FoldsTo`); it settles if no more is due after as many folds as the limit allows, and it
overruns the limit otherwise (`settlesTo_or_overruns`). A run advances from token to token as long as the
folding after each of them settles, and open matches wait for the tokens to come (`AdvancesTo`); after the
last token nothing waits (`FinishesTo`).

So there are three ways for a run to end (`Parser.run_outcome`). It finishes; or a token comes after which
the limit is overrun, and the run fails there; or the queue has promised more tokens than it has, and the
run fails as the queue does. Each way leaves the roots as they are then and the queue with the tokens that
were not taken, and a later run goes on from there.
-/

namespace Thicket

/-! ## Tokens in a queue -/

namespace TokenQueue

variable {κ : Type} [TokenQueue κ]

/-- A queue delivers some tokens, one after the other. -/
inductive Delivers : κ → List Symbol → κ → Prop
  | refl (queue : κ) : Delivers queue [] queue
  | token {queue queue' queue'' : κ} {token : Symbol} {tokens : List Symbol} :
      pop queue = ⟨.ok token, queue'⟩ → Delivers queue' tokens queue'' →
      Delivers queue (token :: tokens) queue''

/-- What is delivered is delivered in parts. -/
theorem Delivers.split {queue queue'' : κ} {tokens later : List Symbol}
    (h : Delivers queue (tokens ++ later) queue'') :
    ∃ queue', Delivers queue tokens queue' ∧ Delivers queue' later queue'' := by
  induction tokens generalizing queue with
  | nil => exact ⟨queue, .refl queue, h⟩
  | cons token tokens ih =>
    cases h with
    | token hpop hrest =>
      obtain ⟨queue', htokens, hlater⟩ := ih hrest
      exact ⟨queue', .token hpop htokens, hlater⟩

/-- A list delivers its symbols in order. -/
theorem delivers_list (tokens later : List Symbol) : Delivers (tokens ++ later) tokens later := by
  induction tokens with
  | nil => exact .refl later
  | cons token tokens ih => exact .token rfl ih

end TokenQueue

/-! ## Folding after a token -/

namespace Grammar

variable {g : Grammar} {more : Bool} {limit : ℕ} {roots roots' : Forest}

/-- So many folds lead from some roots to others, each of the match that is due. -/
inductive FoldsTo (g : Grammar) (more : Bool) : ℕ → Forest → Forest → Prop
  | refl (roots : Forest) : FoldsTo g more 0 roots roots
  | fold {n : ℕ} {roots roots' : Forest} {r : Reduction} :
      g.due? more roots = some r → FoldsTo g more n (r.apply roots) roots' →
      FoldsTo g more (n + 1) roots roots'

/-- After no more folds than the limit, nothing is due. -/
def SettlesTo (g : Grammar) (more : Bool) (limit : ℕ) (roots roots' : Forest) : Prop :=
  ∃ n ≤ limit, g.FoldsTo more n roots roots' ∧ g.due? more roots' = none

/-- Folding settles, or there is a fold more than the limit. -/
theorem settlesTo_or_overruns (g : Grammar) (more : Bool) (limit : ℕ) (roots : Forest) :
    (∃ roots', g.SettlesTo more limit roots roots') ∨ ∃ roots', g.FoldsTo more (limit + 1) roots roots' := by
  cases hdue : g.due? more roots with
  | none => exact .inl ⟨roots, 0, Nat.zero_le limit, .refl roots, hdue⟩
  | some r =>
    -- a fold is made in any case, and then one may be made fewer
    induction limit generalizing roots r with
    | zero => exact .inr ⟨r.apply roots, .fold hdue (.refl _)⟩
    | succ limit ih =>
      cases hnext : g.due? more (r.apply roots) with
      | none => exact .inl ⟨r.apply roots, 1, by omega, .fold hdue (.refl _), hnext⟩
      | some r' =>
        obtain ⟨roots', n, hle, hfolds, hnone⟩ | ⟨roots', hfolds⟩ := ih (r.apply roots) r' hnext
        · exact .inl ⟨roots', n + 1, by omega, .fold hdue hfolds, hnone⟩
        · exact .inr ⟨roots', .fold hdue hfolds⟩

/-- Where folding settles, it is finished within its budget. -/
theorem SettlesTo.foldAll (h : g.SettlesTo more limit roots roots') :
    (g.foldAll more limit roots).finished = true ∧ (g.foldAll more limit roots).roots = roots' := by
  obtain ⟨n, hle, hfolds, hnone⟩ := h
  induction hfolds generalizing limit with
  | refl roots =>
    cases limit <;> rw [Grammar.foldAll, hnone] <;> exact ⟨rfl, rfl⟩
  | @fold n roots roots' r hdue _ ih =>
    -- there is a fold to come, so the budget is not used up
    obtain ⟨budget, rfl⟩ : ∃ budget, limit = budget + 1 := ⟨limit - 1, by omega⟩
    rw [Grammar.foldAll, hdue]
    exact ih (by omega) hnone

/-- Where the limit is overrun, folding is broken off with the fold that is too many. -/
theorem FoldsTo.foldAll (h : g.FoldsTo more (limit + 1) roots roots') :
    (g.foldAll more limit roots).finished = false ∧ (g.foldAll more limit roots).roots = roots' := by
  induction limit generalizing roots with
  | zero =>
    cases h with
    | fold hdue hrest =>
      cases hrest
      rw [Grammar.foldAll, hdue]
      exact ⟨rfl, rfl⟩
  | succ limit ih =>
    cases h with
    | fold hdue hrest =>
      rw [Grammar.foldAll, hdue]
      exact ih hrest

/-! ## From token to token -/

/-- Tokens come as new roots, with more to come after each of them, and each time folding settles. -/
inductive AdvancesTo (g : Grammar) (limit : ℕ) : Forest → List Symbol → Forest → Prop
  | refl (roots : Forest) : AdvancesTo g limit roots [] roots
  | token {roots between roots' : Forest} {token : Symbol} {tokens : List Symbol} :
      g.SettlesTo true limit (roots ++ [.leaf token]) between →
      AdvancesTo g limit between tokens roots' → AdvancesTo g limit roots (token :: tokens) roots'

/-- Tokens come as new roots, with none to come after the last of them, and each time folding settles. -/
inductive FinishesTo (g : Grammar) (limit : ℕ) : Forest → List Symbol → Forest → Prop
  | refl (roots : Forest) : FinishesTo g limit roots [] roots
  | last {roots between roots' : Forest} {tokens : List Symbol} {token : Symbol} :
      g.AdvancesTo limit roots tokens between →
      g.SettlesTo false limit (between ++ [.leaf token]) roots' →
      FinishesTo g limit roots (tokens ++ [token]) roots'

/-- Tokens come as new roots, and each time folding settles until the last token comes: then there is a fold
more than the limit. Whether more tokens are to come is said of the last one. -/
def OverrunsTo (g : Grammar) (limit : ℕ) (more : Bool) (roots : Forest) (tokens : List Symbol)
    (token : Symbol) (roots' : Forest) : Prop :=
  ∃ between, g.AdvancesTo limit roots tokens between ∧
    g.FoldsTo more (limit + 1) (between ++ [.leaf token]) roots'

/-- Either folding settles after each of the tokens, or there is a first one after which the limit is
overrun. -/
theorem advancesTo_or_overruns (g : Grammar) (limit : ℕ) (roots : Forest) (tokens : List Symbol) :
    (∃ roots', g.AdvancesTo limit roots tokens roots') ∨
      ∃ before token after roots', tokens = before ++ token :: after ∧
        g.OverrunsTo limit true roots before token roots' := by
  induction tokens generalizing roots with
  | nil => exact .inl ⟨roots, .refl roots⟩
  | cons token tokens ih =>
    obtain ⟨between, hsettles⟩ | ⟨roots', hfolds⟩ :=
      g.settlesTo_or_overruns true limit (roots ++ [.leaf token])
    · obtain ⟨roots', hrest⟩ | ⟨before, later, after, roots', rfl, between', hrest, hfolds⟩ := ih between
      · exact .inl ⟨roots', .token hsettles hrest⟩
      · exact .inr ⟨token :: before, later, after, roots', rfl, between', .token hsettles hrest, hfolds⟩
    · exact .inr ⟨[], token, tokens, roots', rfl, roots, .refl roots, hfolds⟩

/-- Either folding settles after each of the tokens, the last of them included, or there is a first one after
which the limit is overrun. -/
theorem finishesTo_or_overruns (g : Grammar) (limit : ℕ) (roots : Forest) (tokens : List Symbol) :
    (∃ roots', g.FinishesTo limit roots tokens roots') ∨
      ∃ before token after roots', tokens = before ++ token :: after ∧
        g.OverrunsTo limit (before.length + 1 != tokens.length) roots before token roots' := by
  rcases List.eq_nil_or_concat' tokens with rfl | ⟨tokens, last, rfl⟩
  · exact .inl ⟨roots, .refl roots⟩
  obtain ⟨between, hadvances⟩ | ⟨before, token, after, roots', rfl, hoverruns⟩ :=
    g.advancesTo_or_overruns limit roots tokens
  · obtain ⟨roots', hsettles⟩ | ⟨roots', hfolds⟩ :=
      g.settlesTo_or_overruns false limit (between ++ [.leaf last])
    · exact .inl ⟨roots', .last hadvances hsettles⟩
    · refine .inr ⟨tokens, last, [], roots', rfl, between, hadvances, ?_⟩
      rw [List.length_append, List.length_singleton, bne_self_eq_false]
      exact hfolds
  · refine .inr ⟨before, token, after ++ [last], roots', ?_, ?_⟩
    · rw [List.append_assoc, List.cons_append]
    · have hmore : (before.length + 1 != (before ++ token :: after ++ [last]).length) = true := by
        rw [bne_iff_ne, List.length_append, List.length_append, List.length_cons, List.length_singleton]
        omega
      rw [hmore]
      exact hoverruns

end Grammar

/-! ## Runs -/

namespace Parser

variable {κ : Type}

/-- How taking tokens has ended: the fault if there was one, the roots and the queue. -/
def Consumed.ending (c : Consumed κ) : Option Fault × Forest × κ := (c.fault, c.roots, c.queue)

variable [TokenQueue κ] {limit : ℕ} {grammar : Grammar} {roots between roots' : Forest}
  {queue queue' : κ} {token : Symbol} {tokens : List Symbol}

/-- If folding settles after a token, the rest goes on from where it has settled. -/
theorem ending_consume_settled {left : ℕ} (hpop : TokenQueue.pop queue = ⟨.ok token, queue'⟩)
    (h : grammar.SettlesTo (left != 0) limit (roots ++ [.leaf token]) roots') :
    (consume limit grammar roots queue (left + 1)).ending =
      (consume limit grammar roots' queue' left).ending := by
  obtain ⟨hfinished, hroots⟩ := h.foldAll
  rw [consume, hpop]
  dsimp only
  rw [if_pos hfinished, hroots]
  rfl

/-- If the limit is overrun after a token, taking tokens ends there. -/
theorem ending_consume_overrun {left : ℕ} (hpop : TokenQueue.pop queue = ⟨.ok token, queue'⟩)
    (h : grammar.FoldsTo (left != 0) (limit + 1) (roots ++ [.leaf token]) roots') :
    (consume limit grammar roots queue (left + 1)).ending =
      (some (Cause.reductionLimit limit : Fault), roots', queue') := by
  obtain ⟨hfinished, hroots⟩ := h.foldAll
  rw [consume, hpop]
  dsimp only
  rw [if_neg (Bool.eq_false_iff.1 hfinished), hroots]
  rfl

/-- If there is no token, taking tokens ends with what the queue says. -/
theorem ending_consume_refused {left : ℕ} {e : Fault}
    (hpop : TokenQueue.pop queue = ⟨.error e, queue'⟩) :
    (consume limit grammar roots queue (left + 1)).ending = (some e, roots, queue') := by
  rw [consume, hpop]
  rfl

/-- As long as folding settles, taking tokens goes on. -/
theorem ending_consume_advances {left : ℕ} (htokens : TokenQueue.Delivers queue tokens queue')
    (h : grammar.AdvancesTo limit roots tokens roots') (hleft : 0 < left) :
    (consume limit grammar roots queue (tokens.length + left)).ending =
      (consume limit grammar roots' queue' left).ending := by
  induction h generalizing queue with
  | refl roots =>
    cases htokens
    rw [List.length_nil, Nat.zero_add]
  | @token roots between roots' token tokens hsettles _ ih =>
    cases htokens with
    | token hpop hrest =>
      -- tokens are left, so open matches wait
      have hmore : (tokens.length + left != 0) = true := bne_iff_ne.2 (by omega)
      rw [← hmore] at hsettles
      rw [List.length_cons, Nat.add_right_comm, ending_consume_settled hpop hsettles]
      exact ih hrest

/-- Where folding settles after all tokens, the last of them included, taking them ends without a fault. -/
theorem ending_consume_finishes (htokens : TokenQueue.Delivers queue tokens queue')
    (h : grammar.FinishesTo limit roots tokens roots') :
    (consume limit grammar roots queue tokens.length).ending = (none, roots', queue') := by
  cases h with
  | refl =>
    cases htokens
    rfl
  | last hadvances hsettles =>
    obtain ⟨queue₁, hbefore, hlast⟩ := htokens.split
    cases hlast with
    | token hpop hnil =>
      cases hnil
      rw [List.length_append, List.length_singleton, ending_consume_advances hbefore hadvances (by omega)]
      exact ending_consume_settled hpop hsettles

/-- Where the limit is overrun after a token, taking tokens ends with a fault, and the other tokens are still
in the queue. -/
theorem ending_consume_overruns {left : ℕ}
    (htokens : TokenQueue.Delivers queue (tokens ++ [token]) queue')
    (h : grammar.OverrunsTo limit (left != 0) roots tokens token roots') :
    (consume limit grammar roots queue (tokens.length + (left + 1))).ending =
      (some (Cause.reductionLimit limit : Fault), roots', queue') := by
  obtain ⟨between, hadvances, hfolds⟩ := h
  obtain ⟨queue₁, hbefore, hlast⟩ := htokens.split
  cases hlast with
  | token hpop hnil =>
    cases hnil
    rw [ending_consume_advances hbefore hadvances (by omega)]
    exact ending_consume_overrun hpop hfolds

/-- A run ends as taking the tokens that are ready has ended. -/
theorem run_of_ending {p : Parser κ} {fault : Option Fault} (hqueue : p.queue = some queue)
    (h : (p.consumeReady queue).ending = (fault, roots, queue')) :
    p.run = (fault.elim (.ok (TokenQueue.pending queue)) .error,
      { p with roots, queue := some queue' }) := by
  obtain ⟨hfault, hrest⟩ := Prod.mk.inj h
  obtain ⟨hroots, hleft⟩ := Prod.mk.inj hrest
  rw [run, hqueue]
  dsimp only
  rw [hfault, hroots, hleft]
  cases fault <;> rfl

/-- A run is broken off after one of the tokens that the queue delivers: folding has settled after each of
those before it, and after it there is a fold more than the limit. This token and those before it have been
taken, and the others are still in the queue. -/
def BreaksOff (p : Parser κ) (queue : κ) (tokens : List Symbol) (left : κ) : Prop :=
  ∃ before token after roots queue', tokens = before ++ token :: after ∧
    p.grammar.OverrunsTo p.limit.most (before.length + 1 != TokenQueue.pending queue) p.roots before token
      roots ∧
    TokenQueue.Delivers queue (before ++ [token]) queue' ∧ TokenQueue.Delivers queue' after left ∧
    p.run = (.error (Cause.reductionLimit p.limit.most), { p with roots, queue := some queue' })

variable {p : Parser κ} {left : κ}

theorem run_of_finishesTo (hqueue : p.queue = some queue)
    (htokens : TokenQueue.Delivers queue tokens left) (hready : tokens.length = TokenQueue.pending queue)
    (h : p.grammar.FinishesTo p.limit.most p.roots tokens roots) :
    p.run = (.ok tokens.length, { p with roots, queue := some left }) := by
  have hending := ending_consume_finishes htokens h
  rw [hready] at hending ⊢
  exact run_of_ending hqueue hending

theorem run_of_advancesTo {e : Fault} {left' : κ} (hqueue : p.queue = some queue)
    (htokens : TokenQueue.Delivers queue tokens left) (hready : tokens.length < TokenQueue.pending queue)
    (hpop : TokenQueue.pop left = ⟨.error e, left'⟩)
    (h : p.grammar.AdvancesTo p.limit.most p.roots tokens roots) :
    p.run = (.error e, { p with roots, queue := some left' }) := by
  obtain ⟨more, hmore⟩ : ∃ more, TokenQueue.pending queue = tokens.length + (more + 1) :=
    ⟨TokenQueue.pending queue - tokens.length - 1, by omega⟩
  have hending : (p.consumeReady queue).ending = (some e, roots, left') := by
    rw [consumeReady, hmore, ending_consume_advances htokens h (by omega)]
    exact ending_consume_refused hpop
  exact run_of_ending hqueue hending

theorem breaksOff_of_overrunsTo {before after : List Symbol} (hqueue : p.queue = some queue)
    (htokens : TokenQueue.Delivers queue (before ++ token :: after) left)
    (hready : (before ++ token :: after).length ≤ TokenQueue.pending queue)
    (h : p.grammar.OverrunsTo p.limit.most (before.length + 1 != TokenQueue.pending queue) p.roots before
      token roots) :
    p.BreaksOff queue (before ++ token :: after) left := by
  -- the queue has delivered the tokens up to this one, and holds the others
  rw [List.append_cons] at htokens
  obtain ⟨queue', htaken, hafter⟩ := htokens.split
  refine ⟨before, token, after, roots, queue', rfl, h, htaken, hafter, ?_⟩
  rw [List.length_append, List.length_cons] at hready
  obtain ⟨more, hmore⟩ : ∃ more, TokenQueue.pending queue = before.length + (more + 1) :=
    ⟨TokenQueue.pending queue - before.length - 1, by omega⟩
  have hwaits : (before.length + 1 != TokenQueue.pending queue) = (more != 0) := by
    rw [hmore, Bool.eq_iff_iff, bne_iff_ne, bne_iff_ne]
    omega
  rw [hwaits] at h
  have hending := ending_consume_overruns htaken h
  rw [← hmore] at hending
  exact run_of_ending hqueue hending

/-- A run over a queue that has as many tokens as it promises succeeds exactly if folding settles within the
limit after each of them, with open matches waiting after all but the last. Otherwise it is broken off after
the first token for which the limit is overrun. -/
theorem run_eq_ok_iff (hqueue : p.queue = some queue) (htokens : TokenQueue.Delivers queue tokens left)
    (hready : tokens.length = TokenQueue.pending queue) :
    (p.run.1 = .ok tokens.length ↔ ∃ roots, p.grammar.FinishesTo p.limit.most p.roots tokens roots) ∧
      (p.run.1 ≠ .ok tokens.length → p.BreaksOff queue tokens left) := by
  obtain ⟨roots, hfinishes⟩ | ⟨before, token, after, roots, rfl, hoverruns⟩ :=
    p.grammar.finishesTo_or_overruns p.limit.most p.roots tokens
  · have hrun := run_of_finishesTo hqueue htokens hready hfinishes
    rw [hrun]
    exact ⟨iff_of_true rfl ⟨roots, hfinishes⟩, fun h => absurd rfl h⟩
  · rw [hready] at hoverruns
    have hbreaks := breaksOff_of_overrunsTo hqueue htokens (Nat.le_of_eq hready) hoverruns
    refine ⟨⟨fun hok => ?_, ?_⟩, fun _ => hbreaks⟩
    · obtain ⟨_, _, _, _, _, -, -, -, -, hrun⟩ := hbreaks
      rw [hrun] at hok
      cases hok
    · rintro ⟨roots', hfinishes⟩
      rw [run_of_finishesTo hqueue htokens hready hfinishes]

/-- What a run over a bound queue comes to, for the tokens that the queue delivers and what is left of it then.

If the queue has as many tokens as it promises, the run succeeds just if folding settles within the limit
after each of them, with open matches waiting after all but the last; all tokens are taken then. Otherwise
it is broken off after the first token for which there is a fold more than the limit.

If the queue promises more, then all tokens are taken as if others were to come, and the run fails with
what the queue says, unless the limit is overrun before that.

The queue stays bound however the run ends, and of a later run the same holds, from the roots and the queue
as they are then and with the whole limit for each token. -/
theorem run_outcome (hqueue : p.queue = some queue) (htokens : TokenQueue.Delivers queue tokens left) :
    (tokens.length = TokenQueue.pending queue →
      (p.run.1 = .ok tokens.length ↔
        ∃ roots, p.grammar.FinishesTo p.limit.most p.roots tokens roots) ∧
      (∀ roots, p.grammar.FinishesTo p.limit.most p.roots tokens roots →
        p.run = (.ok tokens.length, { p with roots, queue := some left })) ∧
      (p.run.1 ≠ .ok tokens.length → p.BreaksOff queue tokens left)) ∧
    (tokens.length < TokenQueue.pending queue →
      ∀ e left', TokenQueue.pop left = ⟨.error e, left'⟩ →
        (∀ roots, p.grammar.AdvancesTo p.limit.most p.roots tokens roots →
          p.run = (.error e, { p with roots, queue := some left' })) ∧
        ((¬ ∃ roots, p.grammar.AdvancesTo p.limit.most p.roots tokens roots) →
          p.BreaksOff queue tokens left)) ∧
    ∃ queue', p.run.2 = { p with roots := p.run.2.roots, queue := some queue' } ∧
      ∀ later left', TokenQueue.Delivers queue' later left' → later.length = TokenQueue.pending queue' →
        (p.run.2.run.1 = .ok later.length ↔
          ∃ roots, p.grammar.FinishesTo p.limit.most p.run.2.roots later roots) ∧
        (p.run.2.run.1 ≠ .ok later.length → p.run.2.BreaksOff queue' later left') := by
  refine ⟨?_, ?_, ?_⟩
  · intro hready
    obtain ⟨hok, hbreaks⟩ := run_eq_ok_iff hqueue htokens hready
    exact ⟨hok, fun roots h => run_of_finishesTo hqueue htokens hready h, hbreaks⟩
  · intro hready e left' hpop
    refine ⟨fun roots h => run_of_advancesTo hqueue htokens hready hpop h, fun hnot => ?_⟩
    obtain hadvances | ⟨before, token, after, roots, rfl, hoverruns⟩ :=
      p.grammar.advancesTo_or_overruns p.limit.most p.roots tokens
    · exact absurd hadvances hnot
    · -- more tokens were promised than there are, so this one was not taken for the last
      have hmore : (before.length + 1 != TokenQueue.pending queue) = true := by
        rw [bne_iff_ne]
        rw [List.length_append, List.length_cons] at hready
        omega
      rw [← hmore] at hoverruns
      exact breaksOff_of_overrunsTo hqueue htokens (Nat.le_of_lt hready) hoverruns
  · have hbound := run_bound hqueue
    refine ⟨(p.consumeReady queue).queue, ?_, ?_⟩
    · rw [hbound]
    · intro later left' hlater hready
      -- limit and grammar are kept, and the fold count begins anew with each token
      have hqueue' : p.run.2.queue = some (p.consumeReady queue).queue := by rw [hbound]
      have hlimit : p.run.2.limit = p.limit := by rw [hbound]
      have hgrammar : p.run.2.grammar = p.grammar := by rw [hbound]
      rw [← hlimit, ← hgrammar]
      exact run_eq_ok_iff hqueue' hlater hready

/-- Two productions that rename each other are folded without an end: the run is broken off after the second
token, with the third one still in the queue, and so is the next run after that one. Where the queue has a
token less than it promises, a match that could grow is not folded. -/
theorem run_outcome_cycle :
    let cyclic := (({} : Grammar).put 2 (by decide) ⟨[[.one 1], [.one 3]], by decide, by decide⟩).put 3
      (by decide) ⟨[[.one 2]], by decide, by decide⟩
    let tokens : List Symbol := [9, 1, 9].map fun id => ⟨id, id.text⟩
    let p : Parser (List Symbol) := { limit := ⟨4, by decide⟩, grammar := cyclic, queue := some tokens }
    let growing := ({} : Grammar).put 2 (by decide) ⟨[[⟨1, 1, 2, by decide⟩]], by decide, by decide⟩
    let promising : Overstated (List Symbol) := ⟨[⟨1, "a".toList⟩], 1⟩
    let q : Parser (Overstated (List Symbol)) := { grammar := growing, queue := some promising }
    p.BreaksOff tokens tokens [] ∧ p.run.2.queue = some [⟨9, "9".toList⟩] ∧
      p.run.2.roots.map Node.id = [9, 2] ∧
      p.run.2.BreaksOff [⟨9, "9".toList⟩] [⟨9, "9".toList⟩] [] ∧
      q.run = (.error Cause.emptyQueue,
        { q with roots := [.leaf ⟨1, "a".toList⟩], queue := some ⟨[], 1⟩ }) := by
  intro cyclic tokens p growing promising q
  have hall : TokenQueue.Delivers tokens tokens [] := TokenQueue.delivers_list tokens []
  obtain ⟨hready, -, queue', hbound, hlater⟩ := run_outcome (p := p) rfl hall
  have hleft : p.run.2.queue = some [⟨9, "9".toList⟩] := by decide
  obtain rfl : [⟨9, "9".toList⟩] = queue' := by
    rw [hbound] at hleft
    exact (Option.some.inj hleft).symm
  obtain ⟨-, hbreaks⟩ := hlater _ _ (TokenQueue.delivers_list [⟨9, "9".toList⟩] []) rfl
  have htoken : TokenQueue.Delivers promising [⟨1, "a".toList⟩] ⟨[], 1⟩ := .token rfl (.refl _)
  obtain ⟨-, hpromised, -⟩ := run_outcome (p := q) rfl htoken
  have hwaits : growing.SettlesTo true 10000 [.leaf ⟨1, "a".toList⟩] [.leaf ⟨1, "a".toList⟩] :=
    ⟨0, by decide, .refl _, by decide⟩
  refine ⟨(hready rfl).2.2 (by decide), hleft, by decide, hbreaks (by decide), ?_⟩
  exact (hpromised (by decide) _ _ rfl).1 _ (.token hwaits (.refl _))

end Parser

end Thicket
