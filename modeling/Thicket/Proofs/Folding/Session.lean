import Thicket.Proofs.Folding.Growth

/-!
# Parsers in use

A session is a parser in use, with a record of the tokens that it has taken from its queues and of the
folds that it has made, each with the grammar that was in force. Whatever calls were made and however
the runs among them ended, the leaves of the roots are the tokens that were taken
(`tokens_conserved`), every other node is derived by the grammar under which it was made, and no node
is ever altered (`nodes_derived`). Both rest on what one call can do, `perform_growth`.
-/

namespace Thicket.Parser

variable {κ : Type}

/-- What can be done with a parser. -/
inductive Call (κ : Type) where
  | addProduction (id : SymbolId) (alternatives : List Sequence)
  | withGrammar (grammar : Grammar)
  | bind (queue : κ)
  | run
  | reduce

/-- A parser in use. -/
structure Session (κ : Type) where
  parser : Parser κ
  /-- The tokens that were taken from queues, in order. -/
  taken : List Symbol := []
  /-- The nodes that were made, in order, each with the grammar that was in force. -/
  folds : List (Grammar × Node) := []

namespace Session

/-- The session when the parser has taken some tokens and made some nodes, and is another one now. -/
def grow (s : Session κ) (parser : Parser κ) (taken : List Symbol) (made : List Node) : Session κ :=
  ⟨parser, s.taken ++ taken, s.folds ++ made.map (s.parser.grammar, ·)⟩

/-- The session after a call. -/
def perform [TokenQueue κ] (s : Session κ) : Call κ → Session κ
  | .addProduction id alternatives =>
    match s.parser.addProduction id alternatives with
    | .ok parser => { s with parser }
    | .error _ => s
  | .withGrammar grammar => { s with parser := s.parser.withGrammar grammar }
  | .bind queue => { s with parser := s.parser.bind queue }
  | .run =>
    match s.parser.queue with
    | none => { s with parser := s.parser.run.2 }
    | some queue =>
      let c := s.parser.consumeReady queue
      s.grow s.parser.run.2 c.taken c.made
  | .reduce =>
    match s.parser.grammar.due? false s.parser.roots with
    | none => { s with parser := s.parser.reduce.2 }
    | some r => s.grow s.parser.reduce.2 [] [r.node s.parser.roots]

/-- The session after some calls, one after the other. -/
def after [TokenQueue κ] (s : Session κ) (calls : List (Call κ)) : Session κ :=
  calls.foldl perform s

/-! ## What is kept -/

/-- The leaves are the tokens, the nodes are those of the tokens and of the folds, and each fold was one
that its grammar may make. -/
structure Accounted (s : Session κ) : Prop where
  leaves_eq : Forest.leaves s.parser.roots = s.taken
  subtrees_perm :
    (Forest.subtrees s.parser.roots).Perm (s.taken.map Node.leaf ++ s.folds.map Prod.snd)
  makes : ∀ f ∈ s.folds, f.1.Makes f.2

theorem accounted_mk (limit : FoldLimit) (grammar : Grammar) :
    ({ parser := { limit, grammar } } : Session κ).Accounted where
  leaves_eq := Forest.leaves_nil
  subtrees_perm := List.Perm.refl []
  makes := by
    intro f hf
    cases hf

/-- A node with children was made by a fold. -/
theorem Accounted.exists_fold {s : Session κ} (hs : s.Accounted) {n : Node}
    (hn : n ∈ Forest.subtrees s.parser.roots) (hchildren : n.children ≠ []) :
    ∃ grammar, (grammar, n) ∈ s.folds := by
  have hmem := hs.subtrees_perm.mem_iff.1 hn
  rcases List.mem_append.1 hmem with hleaf | hfold
  · obtain ⟨token, -, rfl⟩ := List.mem_map.1 hleaf
    exact absurd rfl hchildren
  · obtain ⟨⟨grammar, n⟩, hmade, rfl⟩ := List.mem_map.1 hfold
    exact ⟨grammar, hmade⟩

end Session

/-! ## What a call can do -/

theorem roots_of_addProduction {p p' : Parser κ} {id : SymbolId} {alternatives : List Sequence}
    (h : p.addProduction id alternatives = .ok p') : p'.roots = p.roots := by
  rw [addProduction] at h
  cases hadd : p.grammar.add id alternatives with
  | error e =>
    rw [hadd] at h
    cases h
  | ok grammar =>
    rw [hadd] at h
    cases h
    rfl

theorem reduce_due {p : Parser κ} {r : Reduction} (h : p.grammar.due? false p.roots = some r) :
    p.reduce.2 = { p with roots := r.apply p.roots } := by
  rw [reduce, h]

theorem reduce_idle {p : Parser κ} (h : p.grammar.due? false p.roots = none) : p.reduce.2 = p := by
  rw [reduce, h]

section Queue

variable [TokenQueue κ]

/-- A run with a bound queue leaves the roots and the queue that taking the tokens has come to. -/
theorem run_bound {p : Parser κ} {queue : κ} (h : p.queue = some queue) :
    p.run.2 = { p with roots := (p.consumeReady queue).roots,
                       queue := some (p.consumeReady queue).queue } := by
  rw [run, h]

theorem run_unbound {p : Parser κ} (h : p.queue = none) : p.run.2 = p := by
  rw [run, h]

namespace Session

/-- Any call lets the roots grow under the grammar that is in force, by the tokens and the nodes that it
adds to the record. -/
theorem perform_growth (s : Session κ) (call : Call κ) :
    ∃ taken made, (s.perform call).taken = s.taken ++ taken ∧
      (s.perform call).folds = s.folds ++ made.map (s.parser.grammar, ·) ∧
      Growth s.parser.grammar s.parser.roots taken made (s.perform call).parser.roots := by
  -- where the roots stay as they are, nothing is recorded
  have hidle : ∀ parser : Parser κ, parser.roots = s.parser.roots →
      ∃ taken made, s.taken = s.taken ++ taken ∧
        s.folds = s.folds ++ made.map (s.parser.grammar, ·) ∧
        Growth s.parser.grammar s.parser.roots taken made parser.roots := by
    intro parser hroots
    rw [hroots]
    exact ⟨[], [], (List.append_nil _).symm, (List.append_nil _).symm, .refl _⟩
  cases call with
  | addProduction id alternatives =>
    rw [perform]
    split
    · next parser hadd => exact hidle parser (roots_of_addProduction hadd)
    · exact hidle s.parser rfl
  | withGrammar grammar => exact hidle (s.parser.withGrammar grammar) rfl
  | bind queue => exact hidle (s.parser.bind queue) rfl
  | run =>
    rw [perform]
    split
    · next hqueue => exact hidle s.parser.run.2 (by rw [run_unbound hqueue])
    · next queue hqueue =>
      refine ⟨_, _, rfl, rfl, ?_⟩
      show Growth _ _ _ _ s.parser.run.2.roots
      rw [run_bound hqueue]
      exact growth_consume _ _ _ _ _
  | reduce =>
    rw [perform]
    split
    · next hdue => exact hidle s.parser.reduce.2 (by rw [reduce_idle hdue])
    · next r hdue =>
      refine ⟨_, _, rfl, rfl, ?_⟩
      show Growth _ _ _ _ s.parser.reduce.2.roots
      rw [reduce_due hdue]
      exact .fold (Grammar.firstReduction?_of_due? hdue) (.refl _)

/-- What a run adds to the tokens is what the bound queue has handed out. -/
theorem perform_run_hands {s : Session κ} {queue : κ} (h : s.parser.queue = some queue) :
    ∃ taken rest, (s.perform .run).taken = s.taken ++ taken ∧
      (s.perform .run).parser.queue = some rest ∧ TokenQueue.Hands queue taken rest := by
  have hperform : s.perform .run = s.grow s.parser.run.2 (s.parser.consumeReady queue).taken
      (s.parser.consumeReady queue).made := by
    rw [perform, h]
  rw [hperform, run_bound h]
  exact ⟨_, _, rfl, rfl, hands_consume _ _ _ _ _⟩

/-! ## What holds after all calls -/

theorem Accounted.perform {s : Session κ} (hs : s.Accounted) (call : Call κ) :
    (s.perform call).Accounted := by
  obtain ⟨taken, made, htaken, hfolds, hgrowth⟩ := s.perform_growth call
  refine ⟨?_, ?_, ?_⟩
  · rw [hgrowth.leaves_eq, hs.leaves_eq, htaken]
  · have hmade : (made.map (s.parser.grammar, ·)).map Prod.snd = made := by
      rw [List.map_map]
      exact List.map_id made
    rw [htaken, hfolds, List.map_append, List.map_append, hmade]
    refine hgrowth.subtrees_perm.trans ((hs.subtrees_perm.append_right _).trans ?_)
    -- the new tokens move before the older folds
    rw [List.append_assoc, List.append_assoc, ← List.append_assoc (List.map Prod.snd s.folds),
      ← List.append_assoc (List.map Node.leaf taken)]
    exact (List.perm_append_comm.append_right made).append_left _
  · intro f hf
    rw [hfolds] at hf
    rcases List.mem_append.1 hf with hf | hf
    · exact hs.makes f hf
    · obtain ⟨n, hn, rfl⟩ := List.mem_map.1 hf
      exact hgrowth.makes n hn

theorem Accounted.after {s : Session κ} (hs : s.Accounted) (calls : List (Call κ)) :
    (s.after calls).Accounted := by
  induction calls generalizing s with
  | nil => exact hs
  | cons call calls ih => exact ih (hs.perform call)

/-- No call alters a node or moves it before another one. -/
theorem subtrees_sublist_after (s : Session κ) (calls : List (Call κ)) :
    (Forest.subtrees s.parser.roots).Sublist (Forest.subtrees (s.after calls).parser.roots) := by
  induction calls generalizing s with
  | nil => exact List.Sublist.refl _
  | cons call calls ih =>
    obtain ⟨_, _, -, -, hgrowth⟩ := s.perform_growth call
    exact hgrowth.subtrees_sublist.trans (ih (s.perform call))

/-- After any calls: the leaves of the roots, left to right, are the tokens that were taken, in order. The
nodes are one for each token and one for each fold, so that every node with children was made by a
fold; such a node has a child and its id in decimal as its text. What a call adds to the record is what
the roots grow by, and the tokens that a run adds are what the bound queue has handed out, however the
run ends. -/
theorem tokens_conserved (limit : FoldLimit) (grammar : Grammar) (calls : List (Call κ)) :
    let s := ({ parser := { limit, grammar } } : Session κ).after calls
    s.parser.roots.flatMap Node.leaves = s.taken ∧
    (Forest.subtrees s.parser.roots).Perm (s.taken.map Node.leaf ++ s.folds.map Prod.snd) ∧
    (∀ f ∈ s.folds, f.2.children ≠ [] ∧ f.2.text = f.2.id.text) ∧
    (∀ n ∈ Forest.subtrees s.parser.roots, n.children ≠ [] → n ∈ s.folds.map Prod.snd) ∧
    Forest.size s.parser.roots = s.taken.length + s.folds.length ∧
    (∀ call, ∃ taken made, (s.perform call).taken = s.taken ++ taken ∧
      (s.perform call).folds = s.folds ++ made.map (s.parser.grammar, ·) ∧
      Growth s.parser.grammar s.parser.roots taken made (s.perform call).parser.roots) ∧
    ∀ queue, s.parser.queue = some queue →
      ∃ taken rest, (s.perform .run).taken = s.taken ++ taken ∧
        (s.perform .run).parser.queue = some rest ∧ TokenQueue.Hands queue taken rest := by
  intro s
  have hs : s.Accounted := (accounted_mk limit grammar).after calls
  refine ⟨?_, hs.subtrees_perm, ?_, ?_, ?_, s.perform_growth, fun queue => perform_run_hands⟩
  · rw [← Forest.leaves_eq_flatMap, hs.leaves_eq]
  · intro f hf
    exact ⟨(hs.makes f hf).children_ne_nil, (hs.makes f hf).text_eq⟩
  · intro n hn hchildren
    obtain ⟨grammar, hfold⟩ := hs.exists_fold hn hchildren
    exact List.mem_map.2 ⟨(grammar, n), hfold, rfl⟩
  · have hlength := hs.subtrees_perm.length_eq
    rw [Forest.length_subtrees, List.length_append, List.length_map, List.length_map] at hlength
    exact hlength

/-- A run that folds once more than the limit keeps the token it has taken and both of its folds. -/
theorem tokens_conserved_past_limit :
    let limit : FoldLimit := ⟨1, by decide⟩
    let calls : List (Call (List Symbol)) := [.addProduction 2 [[.one 1]],
      .addProduction 1 [[.one 2]], .bind [⟨1, "a".toList⟩, ⟨1, "b".toList⟩], .run]
    let s := ({ parser := { limit } } : Session (List Symbol)).after calls
    s.taken = [⟨1, "a".toList⟩] ∧ s.folds.length = 2 ∧
      s.parser.roots.flatMap Node.leaves = [⟨1, "a".toList⟩] ∧ Forest.size s.parser.roots = 3 := by
  intro limit calls s
  obtain ⟨hleaves, -, -, -, hsize, -, -⟩ := tokens_conserved limit {} calls
  have htaken : s.taken = [⟨1, "a".toList⟩] := by decide +kernel
  have hfolds : s.folds.length = 2 := by decide +kernel
  refine ⟨htaken, hfolds, hleaves.trans htaken, ?_⟩
  rw [hsize, htaken, hfolds]
  rfl

/-- After any calls: every node with children was made by a fold, and whatever grammar was in force when
it was made, an alternative that this grammar has for the id of the node spells the ids of its
children. All nodes stay as they are and in their order, whatever calls are to follow. -/
theorem nodes_derived (limit : FoldLimit) (grammar : Grammar) (calls : List (Call κ)) :
    let s := ({ parser := { limit, grammar } } : Session κ).after calls
    (∀ n ∈ Forest.subtrees s.parser.roots, n.children ≠ [] →
      (∃ g, (g, n) ∈ s.folds) ∧ ∀ g, (g, n) ∈ s.folds → g.Derives n.id (n.children.map Node.id)) ∧
    ∀ later, (Forest.subtrees s.parser.roots).Sublist
      (Forest.subtrees (s.after later).parser.roots) := by
  intro s
  have hs : s.Accounted := (accounted_mk limit grammar).after calls
  refine ⟨?_, s.subtrees_sublist_after⟩
  intro n hn hchildren
  exact ⟨hs.exists_fold hn hchildren, fun g hfold => (hs.makes (g, n) hfold).derives⟩

/-- A node that stands below another one is as the grammar had it that was in force when it was made, also
if its nonterminal is not defined any more. -/
theorem nodes_derived_below_root :
    let calls : List (Call (List Symbol)) := [.addProduction 5 [[⟨1, 1, 2, by decide⟩]],
      .bind [⟨1, "a".toList⟩, ⟨1, "b".toList⟩], .run, .withGrammar {}, .addProduction 6 [[.one 5]],
      .reduce]
    let s := ({ parser := {} } : Session (List Symbol)).after calls
    let inner := Node.branch 5 [.leaf ⟨1, "a".toList⟩, .leaf ⟨1, "b".toList⟩]
    s.parser.roots = [.branch 6 [inner]] ∧ s.parser.grammar.ids = [6] ∧
      ∃ g, (g, inner) ∈ s.folds ∧ g.Derives 5 [1, 1] := by
  intro calls s inner
  have hroots : s.parser.roots = [.branch 6 [inner]] := rfl
  have hinner : inner ∈ Forest.subtrees s.parser.roots := by
    rw [hroots, Forest.subtrees_branch_cons]
    exact List.mem_cons_of_mem _ List.mem_cons_self
  obtain ⟨⟨g, hfold⟩, hderives⟩ := (nodes_derived {} {} calls).1 inner hinner (List.cons_ne_nil _ _)
  exact ⟨hroots, rfl, g, hfold, hderives g hfold⟩

end Session

end Queue

end Thicket.Parser
