import Thicket.Grammar.Sequence

/-!
# Grammars

A grammar is a table of definitions by nonterminal, in order of priority. A nonterminal that is
defined again keeps its priority; a new one comes last. Beside the table stands an index, which tells
where in the table a nonterminal is defined: it leads to a place exactly when the production at that
place is one of the nonterminal. So no id stands twice in the table, and what the index leads to is
always there. Id zero is never defined.
-/

namespace Thicket

/-- A nonterminal and its definition. -/
abbrev Production := SymbolId × Definition

/-- Where nothing is defined, no index leads anywhere. -/
theorem Production.index_nil_iff (id : SymbolId) (slot : Nat) :
    (none : Option Nat) = some slot ↔ ([] : List Production)[slot]?.map Prod.fst = some id := by
  simp

/-- Productions in order of priority, and where each nonterminal stands among them. -/
@[ext]
structure Grammar where
  productions : List Production := []
  index : SymbolId → Option Nat := fun _ => none
  index_eq_some_iff : ∀ id slot,
    index id = some slot ↔ productions[slot]?.map Prod.fst = some id := by
      exact Production.index_nil_iff
  resolved_ids : ∀ p ∈ productions, p.1 ≠ SymbolId.unresolved := by exact List.forall_mem_nil _

namespace Grammar

/-- The nonterminals in order of priority. -/
def ids (g : Grammar) : List SymbolId := g.productions.map Prod.fst

def size (g : Grammar) : Nat := g.productions.length

def isEmpty (g : Grammar) : Bool := g.productions.isEmpty

/-- The index leads to a production. -/
theorem lt_of_index {g : Grammar} {id : SymbolId} {slot : Nat} (h : g.index id = some slot) :
    slot < g.productions.length := by
  have hslot := (g.index_eq_some_iff id slot).1 h
  obtain ⟨p, hp, -⟩ := Option.map_eq_some_iff.1 hslot
  exact (List.getElem?_eq_some_iff.1 hp).1

/-- Gives a nonterminal another definition, at the place where it stands. -/
def redefine (g : Grammar) (slot : Nat) (d : Definition) : Grammar where
  productions := g.productions.modify slot fun p => (p.1, d)
  index := g.index
  index_eq_some_iff := fun id i => by
    rw [g.index_eq_some_iff, List.getElem?_modify]
    cases g.productions[i]? with
    | none => rfl
    | some p => by_cases h : slot = i <;> simp [h]
  resolved_ids := fun p hp => by
    obtain ⟨i, hi⟩ := List.mem_iff_getElem?.1 hp
    rw [List.getElem?_modify] at hi
    obtain ⟨q, hq, rfl⟩ := Option.map_eq_some_iff.1 hi
    have hmem : q.1 ≠ SymbolId.unresolved := g.resolved_ids q (List.mem_of_getElem? hq)
    split <;> exact hmem

/-- Defines a nonterminal that is not in the table yet. -/
def append (g : Grammar) (id : SymbolId) (hid : id ≠ SymbolId.unresolved) (d : Definition)
    (hnew : g.index id = none) : Grammar where
  productions := g.productions ++ [(id, d)]
  index := fun k => if k = id then some g.productions.length else g.index k
  index_eq_some_iff := fun k i => by
    have hindex := g.index_eq_some_iff k i
    rw [List.getElem?_append]
    split
    · next hk =>
      -- the new nonterminal stands at no former place
      subst hk
      rw [hnew] at hindex
      split
      · next hi =>
        refine iff_of_false (fun h => ?_) (fun h => ?_)
        · exact Nat.ne_of_gt hi (Option.some.inj h)
        · cases hindex.2 h
      · next hi => grind
    · next hk =>
      split
      · exact hindex
      · next hi => grind
  resolved_ids := fun p hp => by
    rcases List.mem_append.1 hp with hp | hp
    · exact g.resolved_ids p hp
    · rw [List.mem_singleton.1 hp]
      exact hid

/-- Defines a nonterminal, in place of its former definition if it has one. -/
def put (g : Grammar) (id : SymbolId) (hid : id ≠ SymbolId.unresolved) (d : Definition) : Grammar :=
  match hindex : g.index id with
  | some slot => g.redefine slot d
  | none => g.append id hid d hindex

/-- Defines a nonterminal by its alternatives; on a fault the table stays as it is. -/
def add (g : Grammar) (id : SymbolId) (alternatives : List Sequence) : Except Fault Grammar :=
  if hid : id = SymbolId.unresolved then .error (Cause.reservedNonterminal id)
  else
    match Definition.make? alternatives with
    | .ok d => .ok (g.put id hid d)
    | .error e => .error (e.within ("in production for ".toList ++ id.text))

/-- The definition of a nonterminal. -/
def lookup (g : Grammar) (id : SymbolId) : Except Fault Definition :=
  match hindex : g.index id with
  | some slot => .ok (g.productions.get ⟨slot, lt_of_index hindex⟩).2
  | none => .error (Cause.undefinedProduction id)

theorem lookup_of_index {g : Grammar} {id : SymbolId} {slot : Nat} (h : g.index id = some slot) :
    ∃ p, g.productions[slot]? = some p ∧ p.1 = id ∧ g.lookup id = .ok p.2 := by
  obtain ⟨p, hp, hid⟩ := Option.map_eq_some_iff.1 ((g.index_eq_some_iff id slot).1 h)
  refine ⟨p, hp, hid, ?_⟩
  unfold lookup
  split
  · next slot' h' =>
    obtain rfl : slot = slot' := Option.some.inj (h.symm.trans h')
    obtain ⟨_, hget⟩ := List.getElem?_eq_some_iff.1 hp
    rw [← hget]
    rfl
  · next h' => simp [h] at h'

theorem lookup_of_index_none {g : Grammar} {id : SymbolId} (h : g.index id = none) :
    g.lookup id = .error (Cause.undefinedProduction id) := by
  unfold lookup
  split
  · next h' => simp [h] at h'
  · rfl

/-- A production of the table is the definition of its nonterminal. -/
theorem lookup_of_mem {g : Grammar} {id : SymbolId} {d : Definition} (h : (id, d) ∈ g.productions) :
    g.lookup id = .ok d := by
  obtain ⟨slot, hslot⟩ := List.mem_iff_getElem?.1 h
  have hindex : g.index id = some slot := by rw [g.index_eq_some_iff, hslot, Option.map_some]
  obtain ⟨p, hp, -, hlookup⟩ := lookup_of_index hindex
  have hsame : p = (id, d) := Option.some.inj (hp.symm.trans hslot)
  rw [hlookup, hsame]

/-- What a nonterminal is looked up to be is its production in the table. -/
theorem mem_of_lookup {g : Grammar} {id : SymbolId} {d : Definition} (h : g.lookup id = .ok d) :
    (id, d) ∈ g.productions := by
  cases hindex : g.index id with
  | none =>
    rw [lookup_of_index_none hindex] at h
    cases h
  | some slot =>
    obtain ⟨p, hp, rfl, hlookup⟩ := lookup_of_index hindex
    rw [hlookup] at h
    rw [← Except.ok.inj h]
    exact List.mem_of_getElem? hp

/-- A nonterminal has no place in the index exactly when it is not in the table. -/
theorem index_eq_none_iff {g : Grammar} {id : SymbolId} : g.index id = none ↔ id ∉ g.ids := by
  rw [Option.eq_none_iff_forall_ne_some, ids, List.mem_iff_getElem?, not_exists]
  simp only [ne_eq, g.index_eq_some_iff, List.getElem?_map]

/-- The grammar with the given productions, added in order up to the first fault. -/
def ofProductions (productions : List (SymbolId × List Sequence)) : Except Fault Grammar :=
  productions.foldlM (fun g p => g.add p.1 p.2) {}

end Grammar

end Thicket
