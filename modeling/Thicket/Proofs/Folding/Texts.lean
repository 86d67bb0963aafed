import Mathlib.Data.Option.Basic
import Mathlib.Logic.Function.Iterate
import Thicket.Proofs.Folding.Session
import Thicket.Proofs.Node.Blank

/-!
# The texts of tokens

A sequence looks at the ids of roots and at nothing else, so folding does the same to the blank form of some
roots as to the roots (`Grammar.foldAll_blank`). Two queues are alike if they promise and deliver the same,
up to the texts of the tokens, and two parsers if they differ in the texts of their leaves and in queues that
are alike. Calls that are alike keep parsers alike, with the same results (`Parser.texts_ignored`).
-/

namespace Thicket

/-! ## Folding blank roots -/

theorem Step.takes_blank (s : Step) (roots : Forest) : s.takes (Forest.blank roots) = s.takes roots := by
  have hids : (fun n : Node => decide (n.id = s.id)) ∘ Node.blank = fun n => decide (n.id = s.id) := by
    funext n
    rw [Function.comp_apply, Node.id_blank]
  rw [takes, takes, ← Forest.blank_take, Forest.blank_eq_map, List.takeWhile_map, List.length_map, hids]

namespace Sequence

theorem follow_blank (s : Sequence) (roots : Forest) : s.follow (Forest.blank roots) = s.follow roots := by
  induction s generalizing roots with
  | nil => rw [follow, follow]
  | cons step s ih =>
    rw [follow, follow, step.takes_blank, ← Forest.blank_drop, Forest.isEmpty_blank, ih]

theorem firstWalk?_blank (s : Sequence) (roots : Forest) :
    s.firstWalk? (Forest.blank roots) = s.firstWalk? roots := by
  induction roots with
  | nil => rw [Forest.blank]
  | cons root rest ih =>
    have hwalk : s.walk? (Forest.blank (root :: rest)) = s.walk? (root :: rest) := by
      rw [walk?, walk?, follow_blank]
    rw [Forest.blank] at hwalk ⊢
    rw [firstWalk?, firstWalk?, hwalk, ih]

end Sequence

namespace Grammar

variable {g : Grammar} {more : Bool} {roots roots' : Forest} {r : Reduction}

theorem firstReduction?_blank (g : Grammar) (roots : Forest) :
    g.firstReduction? (Forest.blank roots) = g.firstReduction? roots := by
  simp only [firstReduction?, Sequence.firstWalk?_blank]

theorem due?_blank (g : Grammar) (more : Bool) (roots : Forest) :
    g.due? more (Forest.blank roots) = g.due? more roots := by
  rw [due?, due?, firstReduction?_blank]

/-- What is due does not depend on the texts of leaves. -/
theorem due?_eq_of_blank_eq (h : Forest.blank roots = Forest.blank roots') :
    g.due? more roots = g.due? more roots' := by
  rw [← due?_blank, h, due?_blank]

/-- A fold of the first match makes a node with children, so no text is left out of the node itself. -/
theorem blank_apply_of_due? (h : g.due? more roots = some r) :
    Forest.blank (r.apply roots) = r.apply (Forest.blank roots) := by
  have hspan : (roots.drop r.start).take r.walk.length ≠ [] :=
    (makes_of_firstReduction? (firstReduction?_of_due? h)).children_ne_nil
  have hnode : (r.node roots).blank = r.node (Forest.blank roots) := by
    rw [Reduction.node, Node.blank_branch r.id hspan, Forest.blank_take, Forest.blank_drop, Reduction.node]
  rw [Reduction.apply, Reduction.apply, Forest.blank_append, Forest.blank, hnode, Forest.blank_take,
    Forest.blank_drop, Forest.blank_drop]

/-- Folding blank roots ends when folding the roots does, and with what they are then. -/
theorem foldAll_blank (g : Grammar) (more : Bool) (budget : Nat) (roots : Forest) :
    (g.foldAll more budget (Forest.blank roots)).finished = (g.foldAll more budget roots).finished ∧
      (g.foldAll more budget (Forest.blank roots)).roots =
        Forest.blank (g.foldAll more budget roots).roots := by
  induction budget generalizing roots with
  | zero =>
    rw [foldAll, foldAll, due?_blank]
    split
    · exact ⟨rfl, rfl⟩
    · next r hdue => exact ⟨rfl, (blank_apply_of_due? hdue).symm⟩
  | succ budget ih =>
    rw [foldAll, foldAll, due?_blank]
    split
    · exact ⟨rfl, rfl⟩
    · next r hdue =>
      rw [← blank_apply_of_due? hdue]
      exact ih (r.apply roots)

end Grammar

/-! ## Queues that are alike -/

namespace TokenQueue

/-- What is seen of a queue when a token is taken: how many were ready, and the id of the token or the fault. -/
def glimpse {κ : Type} [TokenQueue κ] (queue : κ) : Nat × Except Fault SymbolId :=
  (pending queue, (pop queue).result.map Symbol.id)

/-- The queue after some tokens were taken. -/
def popped {κ : Type} [TokenQueue κ] (queue : κ) (count : Nat) : κ :=
  (fun queue => (pop queue).queue)^[count] queue

variable {κ κ' : Type} [TokenQueue κ] [TokenQueue κ']

/-- Only the texts of their tokens tell the queues apart, however many tokens are taken. -/
def Alike (queue : κ) (queue' : κ') : Prop :=
  ∀ count, glimpse (popped queue count) = glimpse (popped queue' count)

variable {queue : κ} {queue' : κ'}

theorem Alike.pending_eq (h : Alike queue queue') : pending queue = pending queue' :=
  (Prod.mk.inj (h 0)).1

/-- Queues that are alike fail with one fault or deliver tokens of one id, and are alike after that. -/
theorem Alike.pop_cases (h : Alike queue queue') :
    ∃ rest rest', Alike rest rest' ∧
      ((∃ e, pop queue = ⟨.error e, rest⟩ ∧ pop queue' = ⟨.error e, rest'⟩) ∨
        ∃ token token', token.id = token'.id ∧
          pop queue = ⟨.ok token, rest⟩ ∧ pop queue' = ⟨.ok token', rest'⟩) := by
  have hresult : (pop queue).result.map Symbol.id = (pop queue').result.map Symbol.id :=
    (Prod.mk.inj (h 0)).2
  refine ⟨(pop queue).queue, (pop queue').queue, fun count => h (count + 1), ?_⟩
  rcases hpop : pop queue with ⟨e | token, rest⟩ <;> rcases hpop' : pop queue' with ⟨e' | token', rest'⟩
  all_goals rw [hpop, hpop'] at hresult
  · cases hresult
    exact .inl ⟨e, rfl, rfl⟩
  · cases hresult
  · cases hresult
  · exact .inr ⟨token, token', Except.ok.inj hresult, rfl, rfl⟩

/-- Lists are alike exactly if their symbols have the same ids. -/
theorem alike_list_iff {tokens tokens' : List Symbol} :
    Alike tokens tokens' ↔ tokens.map Symbol.id = tokens'.map Symbol.id := by
  constructor
  · intro h
    induction tokens generalizing tokens' with
    | nil => rw [List.eq_nil_of_length_eq_zero h.pending_eq.symm]
    | cons token tokens ih =>
      obtain ⟨token', tokens', rfl⟩ := List.exists_cons_of_length_eq_add_one h.pending_eq.symm
      have hid : token.id = token'.id := Except.ok.inj (Prod.mk.inj (h 0)).2
      have hlater : tokens.map Symbol.id = tokens'.map Symbol.id := ih fun count => h (count + 1)
      rw [List.map_cons, List.map_cons, hid, hlater]
  · intro h count
    induction tokens generalizing tokens' count with
    | nil => rw [List.map_eq_nil_iff.1 h.symm]
    | cons token tokens ih =>
      obtain ⟨token', tokens', rfl, hid, hlater⟩ := List.map_eq_cons_iff.1 h.symm
      cases count with
      | zero =>
        have hlength := congrArg List.length hlater
        rw [List.length_map, List.length_map] at hlength
        show (tokens.length + 1, Except.ok token.id) = (tokens'.length + 1, Except.ok token'.id)
        rw [hlength, hid]
      | succ count => exact ih hlater.symm count

end TokenQueue

/-! ## Runs -/

namespace Parser

variable {κ κ' : Type} [TokenQueue κ] [TokenQueue κ'] {limit : ℕ} {grammar : Grammar}
  {roots roots' : Forest} {queue : κ} {queue' : κ'}

/-- What taking tokens has come to is the same up to the texts of the tokens. -/
structure Consumed.Alike (c : Consumed κ) (c' : Consumed κ') : Prop where
  taken_eq : c.taken.map Symbol.id = c'.taken.map Symbol.id
  fault_eq : c.fault = c'.fault
  roots_eq : Forest.blank c.roots = Forest.blank c'.roots
  queue : TokenQueue.Alike c.queue c'.queue

/-- After tokens of one id, folding goes the same way. -/
theorem foldAll_token (grammar : Grammar) (more : Bool) (limit : ℕ) {token token' : Symbol}
    (hroots : Forest.blank roots = Forest.blank roots') (hid : token.id = token'.id) :
    (grammar.foldAll more limit (roots ++ [.leaf token])).finished =
        (grammar.foldAll more limit (roots' ++ [.leaf token'])).finished ∧
      Forest.blank (grammar.foldAll more limit (roots ++ [.leaf token])).roots =
        Forest.blank (grammar.foldAll more limit (roots' ++ [.leaf token'])).roots := by
  have hblank : Forest.blank (roots ++ [.leaf token]) = Forest.blank (roots' ++ [.leaf token']) := by
    rw [Forest.blank_append, Forest.blank_append, hroots, Forest.blank_leaf, Forest.blank_leaf,
      Symbol.blank, Symbol.blank, hid]
  obtain ⟨hfinished, hfolded⟩ := grammar.foldAll_blank more limit (roots ++ [.leaf token])
  obtain ⟨hfinished', hfolded'⟩ := grammar.foldAll_blank more limit (roots' ++ [.leaf token'])
  rw [hblank] at hfinished hfolded
  exact ⟨hfinished.symm.trans hfinished', hfolded.symm.trans hfolded'⟩

/-- Tokens of the same ids are taken in the same way. -/
theorem consume_alike (hqueue : TokenQueue.Alike queue queue')
    (hroots : Forest.blank roots = Forest.blank roots') (n : ℕ) :
    (consume limit grammar roots queue n).Alike (consume limit grammar roots' queue' n) := by
  induction n generalizing roots roots' queue queue' with
  | zero => exact ⟨rfl, rfl, hroots, hqueue⟩
  | succ left ih =>
    obtain ⟨rest, rest', hrest, ⟨e, hpop, hpop'⟩ | ⟨token, token', hid, hpop, hpop'⟩⟩ := hqueue.pop_cases
    · rw [consume, consume, hpop, hpop']
      exact ⟨rfl, rfl, hroots, hrest⟩
    · obtain ⟨hfinished, hfolded⟩ := foldAll_token grammar (left != 0) limit hroots hid
      rw [consume, consume, hpop, hpop']
      dsimp only
      rw [hfinished]
      split
      · have hlater := ih hrest hfolded
        exact ⟨congrArg₂ List.cons hid hlater.taken_eq, hlater.fault_eq, hlater.roots_eq, hlater.queue⟩
      · exact ⟨congrArg (· :: []) hid, rfl, hfolded, hrest⟩

/-- Only the texts of leaves and queues that are alike tell the parsers apart. -/
structure Alike (p : Parser κ) (p' : Parser κ') : Prop where
  limit_eq : p.limit = p'.limit
  grammar_eq : p.grammar = p'.grammar
  queue : Option.Rel TokenQueue.Alike p.queue p'.queue
  roots_eq : Forest.blank p.roots = Forest.blank p'.roots

variable {p : Parser κ} {p' : Parser κ'}

/-- Parsers that are alike have no queue both, or queues that are alike. -/
theorem Alike.queue_cases (h : p.Alike p') :
    (p.queue = none ∧ p'.queue = none) ∨
      ∃ queue queue', TokenQueue.Alike queue queue' ∧ p.queue = some queue ∧ p'.queue = some queue' := by
  have hqueue := h.queue
  generalize p.queue = bound at hqueue ⊢
  generalize p'.queue = bound' at hqueue ⊢
  cases hqueue with
  | none => exact .inl ⟨rfl, rfl⟩
  | some halike => exact .inr ⟨_, _, halike, rfl, rfl⟩

theorem Alike.consumeReady (h : p.Alike p') (hqueue : TokenQueue.Alike queue queue') :
    (p.consumeReady queue).Alike (p'.consumeReady queue') := by
  rw [Parser.consumeReady, Parser.consumeReady, ← h.limit_eq, ← h.grammar_eq, ← hqueue.pending_eq]
  exact consume_alike hqueue h.roots_eq (TokenQueue.pending queue)

/-- Parsers that are alike come to the same result by a run, and are alike after it. -/
theorem Alike.run (h : p.Alike p') : p.run.1 = p'.run.1 ∧ p.run.2.Alike p'.run.2 := by
  obtain ⟨hqueue, hqueue'⟩ | ⟨queue, queue', halike, hqueue, hqueue'⟩ := h.queue_cases
  · rw [Parser.run, Parser.run, hqueue, hqueue']
    exact ⟨rfl, h⟩
  · have hconsumed := h.consumeReady halike
    rw [Parser.run, Parser.run, hqueue, hqueue']
    dsimp only
    rw [hconsumed.fault_eq, halike.pending_eq]
    exact ⟨rfl, h.limit_eq, h.grammar_eq, .some hconsumed.queue, hconsumed.roots_eq⟩

/-- Parsers that are alike reduce both or neither, and are alike after that. -/
theorem Alike.reduce (h : p.Alike p') : p.reduce.1 = p'.reduce.1 ∧ p.reduce.2.Alike p'.reduce.2 := by
  have hdue : p.grammar.due? false p.roots = p'.grammar.due? false p'.roots := by
    rw [h.grammar_eq, Grammar.due?_eq_of_blank_eq h.roots_eq]
  cases hp : p.grammar.due? false p.roots with
  | none =>
    rw [hp] at hdue
    rw [Parser.reduce, Parser.reduce, hp, ← hdue]
    exact ⟨rfl, h⟩
  | some r =>
    rw [hp] at hdue
    rw [Parser.reduce, Parser.reduce, hp, ← hdue]
    refine ⟨rfl, h.limit_eq, h.grammar_eq, h.queue, ?_⟩
    show Forest.blank (r.apply p.roots) = Forest.blank (r.apply p'.roots)
    rw [Grammar.blank_apply_of_due? hp, Grammar.blank_apply_of_due? hdue.symm, h.roots_eq]

/-- Parsers that are alike take a production both or neither, and are alike after that. -/
theorem Alike.addProduction (h : p.Alike p') (id : SymbolId) (alternatives : List Sequence) :
    (∃ e, p.addProduction id alternatives = .error e ∧ p'.addProduction id alternatives = .error e) ∨
      ∃ q q', q.Alike q' ∧ p.addProduction id alternatives = .ok q ∧
        p'.addProduction id alternatives = .ok q' := by
  rw [Parser.addProduction, Parser.addProduction, ← h.grammar_eq]
  cases p.grammar.add id alternatives with
  | error e => exact .inl ⟨e, rfl, rfl⟩
  | ok grammar =>
    exact .inr ⟨p.withGrammar grammar, p'.withGrammar grammar,
      ⟨h.limit_eq, rfl, h.queue, h.roots_eq⟩, rfl, rfl⟩

/-! ## Parsers in use -/

/-- The same is done with both parsers, with queues that are alike. -/
inductive Call.Alike : Call κ → Call κ' → Prop
  | addProduction (id : SymbolId) (alternatives : List Sequence) :
      Alike (.addProduction id alternatives) (.addProduction id alternatives)
  | withGrammar (grammar : Grammar) : Alike (.withGrammar grammar) (.withGrammar grammar)
  | bind {queue : κ} {queue' : κ'} : TokenQueue.Alike queue queue' → Alike (.bind queue) (.bind queue')
  | run : Alike .run .run
  | reduce : Alike .reduce .reduce

namespace Session

/-- The parsers are alike, and the tokens that were taken have the same ids. -/
structure Alike (s : Session κ) (s' : Session κ') : Prop where
  parser : s.parser.Alike s'.parser
  taken_eq : s.taken.map Symbol.id = s'.taken.map Symbol.id

variable {s : Session κ} {s' : Session κ'} {call : Call κ} {call' : Call κ'} {calls : List (Call κ)}
  {calls' : List (Call κ')}

/-- A call of `reduce` leaves the parser that it returns, and takes no token. -/
theorem perform_reduce (s : Session κ) :
    (s.perform .reduce).parser = s.parser.reduce.2 ∧ (s.perform .reduce).taken = s.taken := by
  rw [perform]
  split
  · exact ⟨rfl, rfl⟩
  · exact ⟨rfl, List.append_nil _⟩

/-- A run leaves the parser that it returns, and takes tokens of a queue if there is one. -/
theorem perform_run (s : Session κ) :
    (s.perform .run).parser = s.parser.run.2 ∧ (s.perform .run).taken =
      s.taken ++ s.parser.queue.elim [] fun queue => (s.parser.consumeReady queue).taken := by
  rw [perform]
  split
  · next hqueue =>
    rw [hqueue]
    exact ⟨rfl, (List.append_nil _).symm⟩
  · next queue hqueue =>
    rw [hqueue]
    exact ⟨rfl, rfl⟩

theorem Alike.run (h : s.Alike s') : (s.perform .run).Alike (s'.perform .run) := by
  obtain ⟨hparser, htaken⟩ := s.perform_run
  obtain ⟨hparser', htaken'⟩ := s'.perform_run
  refine ⟨?_, ?_⟩
  · rw [hparser, hparser']
    exact h.parser.run.2
  · rw [htaken, htaken', List.map_append, List.map_append, h.taken_eq]
    obtain ⟨hqueue, hqueue'⟩ | ⟨queue, queue', halike, hqueue, hqueue'⟩ := h.parser.queue_cases
    · rw [hqueue, hqueue']
      rfl
    · rw [hqueue, hqueue', Option.elim_some, Option.elim_some, (h.parser.consumeReady halike).taken_eq]

theorem Alike.reduce (h : s.Alike s') : (s.perform .reduce).Alike (s'.perform .reduce) := by
  obtain ⟨hparser, htaken⟩ := s.perform_reduce
  obtain ⟨hparser', htaken'⟩ := s'.perform_reduce
  refine ⟨?_, ?_⟩
  · rw [hparser, hparser']
    exact h.parser.reduce.2
  · rw [htaken, htaken', h.taken_eq]

theorem Alike.perform (h : s.Alike s') (hcall : call.Alike call') :
    (s.perform call).Alike (s'.perform call') := by
  cases hcall with
  | addProduction id alternatives =>
    obtain ⟨e, hadd, hadd'⟩ | ⟨q, q', hq, hadd, hadd'⟩ := h.parser.addProduction id alternatives
    · rw [Session.perform, Session.perform, hadd, hadd']
      exact h
    · rw [Session.perform, Session.perform, hadd, hadd']
      exact ⟨hq, h.taken_eq⟩
  | withGrammar grammar =>
    exact ⟨⟨h.parser.limit_eq, rfl, h.parser.queue, h.parser.roots_eq⟩, h.taken_eq⟩
  | bind hqueue =>
    exact ⟨⟨h.parser.limit_eq, h.parser.grammar_eq, .some hqueue, h.parser.roots_eq⟩, h.taken_eq⟩
  | run => exact h.run
  | reduce => exact h.reduce

theorem Alike.after (h : s.Alike s') (hcalls : List.Forall₂ Call.Alike calls calls') :
    (s.after calls).Alike (s'.after calls') := by
  induction hcalls generalizing s s' with
  | nil => exact h
  | cons hcall _ ih => exact ih (h.perform hcall)

/-- The tokens that are taken become leaves, behind those that there were. -/
theorem leaves_after (s : Session κ) (calls : List (Call κ)) :
    ∃ taken, (s.after calls).taken = s.taken ++ taken ∧
      Forest.leaves (s.after calls).parser.roots = Forest.leaves s.parser.roots ++ taken := by
  induction calls generalizing s with
  | nil => exact ⟨[], (List.append_nil _).symm, (List.append_nil _).symm⟩
  | cons call calls ih =>
    obtain ⟨taken, made, htaken, -, hgrowth⟩ := s.perform_growth call
    obtain ⟨later, hlater, hleaves⟩ := ih (s.perform call)
    refine ⟨taken ++ later, ?_, ?_⟩
    · rw [← List.append_assoc, ← htaken]
      exact hlater
    · rw [← List.append_assoc, ← hgrowth.leaves_eq]
      exact hleaves

/-- Two parsers have the same limit and the same grammar, roots that differ in the texts of leaves at most, and
queues that are alike; and the same calls are made with both, with queues that are alike. Then a run and a
call of `reduce` come to the same result in both. The roots differ in the texts of leaves only, and these are,
from left to right, the leaves that each parser had at first and then the tokens that it has taken, of the
same ids in both. -/
theorem texts_ignored (hp : p.Alike p') (hcalls : List.Forall₂ Call.Alike calls calls') :
    let s := ({ parser := p } : Session κ).after calls
    let s' := ({ parser := p' } : Session κ').after calls'
    s.parser.run.1 = s'.parser.run.1 ∧ s.parser.reduce.1 = s'.parser.reduce.1 ∧
      Forest.blank s.parser.roots = Forest.blank s'.parser.roots ∧
      Forest.leaves s.parser.roots = Forest.leaves p.roots ++ s.taken ∧
      Forest.leaves s'.parser.roots = Forest.leaves p'.roots ++ s'.taken ∧
      s.taken.map Symbol.id = s'.taken.map Symbol.id := by
  intro s s'
  have hstart : ({ parser := p } : Session κ).Alike ({ parser := p' } : Session κ') := ⟨hp, rfl⟩
  obtain ⟨hparser, htaken⟩ : s.Alike s' := hstart.after hcalls
  obtain ⟨taken, hs, hleaves⟩ := leaves_after { parser := p } calls
  obtain ⟨taken', hs', hleaves'⟩ := leaves_after { parser := p' } calls'
  rw [List.nil_append] at hs hs'
  rw [← hs] at hleaves
  rw [← hs'] at hleaves'
  exact ⟨hparser.run.1, hparser.reduce.1, hparser.roots_eq, hleaves, hleaves', htaken⟩

/-- A token with the id of a nonterminal is folded like a root of it, pairs are folded under other nodes, and a
nonterminal that two productions turn into each other is folded until the limit is overrun, which ends the
first run before its last token. The same happens whatever the texts of the roots and tokens are. -/
theorem texts_ignored_past_limit :
    let grammar := (((({} : Grammar).put 5 (by decide) ⟨[[⟨1, 1, 2, by decide⟩]], by decide, by decide⟩).put 6
      (by decide) ⟨[[.one 5, .one 5]], by decide, by decide⟩).put 8 (by decide)
        ⟨[[.one 7]], by decide, by decide⟩).put 7 (by decide) ⟨[[.one 8]], by decide, by decide⟩
    let parser (first second : String) : Parser (List Symbol) := { limit := ⟨3, by decide⟩, grammar, roots :=
      [.leaf ⟨1, first.toList⟩, .branch 5 [.leaf ⟨1, second.toList⟩]] }
    let tokens (texts : List String) : List Symbol :=
      List.zipWith (fun id text => ⟨id, text.toList⟩) [1, 1, 5, 7, 1] texts
    let texts := ["a", "b", "c", "d", "e"]
    let texts' := ["", "b", "5", "1", "longer"]
    let calls (texts : List String) : List (Call (List Symbol)) := [.bind (tokens texts), .run, .reduce, .run]
    let s := ({ parser := parser "x" "y" } : Session (List Symbol)).after (calls texts)
    let s' := ({ parser := parser "" "x" } : Session (List Symbol)).after (calls texts')
    s.parser.roots.map Node.id = [6, 6, 7, 5] ∧ s.parser.run.1 = s'.parser.run.1 ∧
      s.parser.reduce.1 = s'.parser.reduce.1 ∧ Forest.blank s.parser.roots = Forest.blank s'.parser.roots ∧
      Forest.leaves s'.parser.roots = Forest.leaves (parser "" "x").roots ++ tokens texts' := by
  intro grammar parser tokens texts texts' calls s s'
  have hp : (parser "x" "y").Alike (parser "" "x") := ⟨rfl, rfl, .none, rfl⟩
  have htokens : TokenQueue.Alike (tokens texts) (tokens texts') :=
    TokenQueue.alike_list_iff.2 (by decide)
  have hcalls : List.Forall₂ Call.Alike (calls texts) (calls texts') :=
    .cons (.bind htokens) (.cons .run (.cons .reduce (.cons .run .nil)))
  obtain ⟨hrun, hreduce, hroots, -, hleaves, -⟩ := texts_ignored hp hcalls
  have hids : s.parser.roots.map Node.id = [6, 6, 7, 5] := by decide +kernel
  have htaken : s'.taken = tokens texts' := by decide +kernel
  rw [htaken] at hleaves
  -- nothing is to be computed here
  with_reducible exact ⟨hids, hrun, hreduce, hroots, hleaves⟩

end Session

end Parser

end Thicket
