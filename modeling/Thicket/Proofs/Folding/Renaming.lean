import Mathlib.Data.List.Chain
import Mathlib.Data.List.Perm.Subperm
import Mathlib.Logic.Relation
import Mathlib.Order.Bounds.Basic
import Mathlib.Order.Lattice.Nat
import Thicket.Proofs.Folding.Derivation

/-!
# Renaming

A grammar renames one id to another if the other is a nonterminal that a single root of the first may be
folded into. Renamings can follow one another, and as long as they never lead back there is a longest
chain of them: no nonterminal comes twice in a chain, so that none is longer than the grammar
(`isGreatest_depth`). The longest chain from an id is its height, which every renaming lowers.
-/

namespace Thicket

/-! ## One root -/

/-- A sequence takes a single root of an id: one of its steps is for this id and may take just one, and no
other step needs any. -/
def Sequence.TakesOne (s : Sequence) (id : SymbolId) : Prop :=
  ∃ before step after, s = before ++ step :: after ∧ step.id = id ∧ step.least ≤ 1 ∧ 1 ≤ step.most ∧
    ∀ other ∈ before ++ after, other.least = 0

namespace Sequence

/-- Steps that need no root may stand before what is spelled. -/
theorem Spells.exists_append {before s : Sequence} {counts : List Nat} {ids : List SymbolId}
    (h : s.Spells counts ids) (hbefore : ∀ b ∈ before, b.least = 0) :
    ∃ counts', Spells (before ++ s) counts' ids := by
  induction before with
  | nil => exact ⟨counts, h⟩
  | cons step before ih =>
    obtain ⟨counts', hrest⟩ := ih fun b hb => hbefore b (List.mem_cons_of_mem _ hb)
    have hnone : step.Allows 0 := by
      rw [Step.Allows, hbefore step List.mem_cons_self]
      omega
    exact ⟨0 :: counts', hrest.cons hnone⟩

/-- To take a single root of an id is to derive this id alone. -/
theorem takesOne_iff_derives {s : Sequence} {id : SymbolId} : s.TakesOne id ↔ s.Derives [id] := by
  constructor
  · rintro ⟨before, step, after, rfl, rfl, hleast, hmost, hothers⟩
    obtain ⟨hbefore, hafter⟩ := List.forall_mem_append.1 hothers
    obtain ⟨counts, hnil⟩ := spells_nil.exists_append hafter
    rw [List.append_nil] at hnil
    have hone : Spells (step :: after) (1 :: counts) [step.id] := hnil.cons ⟨hleast, hmost⟩
    obtain ⟨counts', hspells⟩ := hone.exists_append hbefore
    have hsum := hspells.length_eq
    exact ⟨counts', hspells, Nat.le_of_eq hsum⟩
  · rintro ⟨counts, hspells, -⟩
    obtain ⟨before, step, after, count, counts', ids, rfl, hbefore, hallows, hafter, hids⟩ :=
      hspells.exists_step
    -- the block of the step is all there is, so it is a block of one
    rw [List.replicate_succ, List.cons_append, List.cons.injEq] at hids
    obtain ⟨hid, hnil⟩ := hids
    obtain ⟨hblock, hrest⟩ := List.append_eq_nil_iff.1 hnil.symm
    obtain rfl : count = 0 := by simpa using hblock
    rw [hrest] at hafter
    exact ⟨before, step, after, rfl, hid.symm, hallows.1, hallows.2,
      List.forall_mem_append.2 ⟨hbefore, hafter.least_eq_zero⟩⟩

end Sequence

/-! ## Chains -/

namespace Grammar

/-- A grammar renames an id to a nonterminal if an alternative of its definition takes a single root of the
id. -/
def Renames (g : Grammar) (id id' : SymbolId) : Prop :=
  ∃ d, g.lookup id' = .ok d ∧ ∃ s ∈ d.alternatives, s.TakesOne id

theorem renames_iff_derives {g : Grammar} {id id' : SymbolId} :
    g.Renames id id' ↔ g.Derives id' [id] := by
  simp only [Renames, Derives, Sequence.takesOne_iff_derives]

/-- No renamings lead from an id back to itself. -/
def Acyclic (g : Grammar) : Prop := ∀ id, ¬ Relation.TransGen g.Renames id id

/-- So many renamings can follow one another from an id on. -/
def ChainFrom (g : Grammar) (id : SymbolId) (n : Nat) : Prop :=
  ∃ later, List.IsChain g.Renames (id :: later) ∧ later.length = n

/-- The length of the longest chain of renamings from an id on. -/
noncomputable def height (g : Grammar) (id : SymbolId) : Nat := sSup {n | g.ChainFrom id n}

/-- The length of the longest chain of renamings. -/
noncomputable def depth (g : Grammar) : Nat := sSup {n | ∃ id, g.ChainFrom id n}

variable {g : Grammar} {id id' : SymbolId} {n : Nat}

theorem mem_ids_of_renames (h : g.Renames id id') : id' ∈ g.ids := by
  obtain ⟨d, hd, -⟩ := h
  exact List.mem_map.2 ⟨_, mem_of_lookup hd, rfl⟩

/-- If each nonterminal is larger than the ids in its alternatives, renamings never lead back. -/
theorem acyclic_of_lt (h : ∀ p ∈ g.productions, ∀ s ∈ p.2.alternatives, ∀ step ∈ s, step.id < p.1) :
    g.Acyclic := by
  have hlt : g.Renames ≤ (· < ·) := by
    rintro id id' ⟨d, hd, s, hs, before, step, after, rfl, rfl, -⟩
    exact h (id', d) (mem_of_lookup hd) _ hs step (by simp)
  intro id hcycle
  have hless : id < id := Relation.transGen_minimal hlt id id hcycle
  exact Nat.lt_irrefl id hless

theorem chainFrom_zero (g : Grammar) (id : SymbolId) : g.ChainFrom id 0 :=
  ⟨[], List.isChain_singleton id, rfl⟩

/-- A renaming may come before a chain. -/
theorem ChainFrom.cons (h : g.ChainFrom id' n) (hid : g.Renames id id') : g.ChainFrom id (n + 1) := by
  obtain ⟨later, hchain, hlength⟩ := h
  refine ⟨id' :: later, List.isChain_cons_cons.2 ⟨hid, hchain⟩, ?_⟩
  rw [List.length_cons, hlength]

/-- Without cycles no nonterminal comes twice in a chain, which is therefore not longer than the grammar. -/
theorem ChainFrom.le_size (hg : g.Acyclic) (h : g.ChainFrom id n) : n ≤ g.size := by
  obtain ⟨later, hchain, rfl⟩ := h
  -- what comes later in the chain is reached from what comes earlier
  have hreach : (id :: later).Pairwise (Relation.TransGen g.Renames) :=
    List.isChain_iff_pairwise.1 (hchain.imp fun _ _ => Relation.TransGen.single)
  obtain ⟨hfirst, hlater⟩ := List.pairwise_cons.1 hreach
  have hnodup : later.Nodup := by
    refine hlater.imp ?_
    rintro a b hab rfl
    exact hg a hab
  have hsubset : later ⊆ g.ids := by
    intro b hb
    obtain ⟨a, -, hab⟩ := Relation.TransGen.tail'_iff.1 (hfirst b hb)
    exact mem_ids_of_renames hab
  have hlength := (List.subperm_of_subset hnodup hsubset).length_le
  rwa [ids, List.length_map] at hlength

theorem isGreatest_height (hg : g.Acyclic) (id : SymbolId) :
    IsGreatest {n | g.ChainFrom id n} (g.height id) := by
  have hbound : BddAbove {n | g.ChainFrom id n} := ⟨g.size, fun _ => ChainFrom.le_size hg⟩
  exact ⟨Nat.sSup_mem ⟨0, g.chainFrom_zero id⟩ hbound, fun _ => le_csSup hbound⟩

theorem isGreatest_depth (hg : g.Acyclic) : IsGreatest {n | ∃ id, g.ChainFrom id n} g.depth := by
  have hbound : BddAbove {n | ∃ id, g.ChainFrom id n} := ⟨g.size, fun _ ⟨_, h⟩ => h.le_size hg⟩
  exact ⟨Nat.sSup_mem ⟨0, 0, g.chainFrom_zero 0⟩ hbound, fun _ => le_csSup hbound⟩

theorem depth_le_size (hg : g.Acyclic) : g.depth ≤ g.size := by
  obtain ⟨_, h⟩ := (isGreatest_depth hg).1
  exact h.le_size hg

theorem height_le_depth (hg : g.Acyclic) (id : SymbolId) : g.height id ≤ g.depth :=
  (isGreatest_depth hg).2 ⟨id, (isGreatest_height hg id).1⟩

/-- A renaming lowers the height. -/
theorem Renames.height_lt (hg : g.Acyclic) (h : g.Renames id id') : g.height id' < g.height id := by
  have hchain : g.ChainFrom id' (g.height id') := (isGreatest_height hg id').1
  exact (isGreatest_height hg id).2 (hchain.cons h)

end Grammar

end Thicket
