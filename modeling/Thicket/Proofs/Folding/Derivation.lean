import Mathlib.Algebra.GroupWithZero.Nat
import Mathlib.Data.List.Forall2
import Mathlib.Data.List.Nodup
import Mathlib.Data.List.TakeWhile
import Thicket.Folding.Reduction
import Thicket.Proofs.Node.Subtrees

/-!
# What a match spells

A sequence spells a list of ids if the list falls into one block for each step: so many times the id of
the step as the step allows. A grammar derives a list of ids from a nonterminal if an alternative of
its definition spells the list, and the list is not empty. Whatever match a grammar finds, it derives
the ids of the matched roots from the nonterminal of the match: `Grammar.makes_of_firstReduction?`.
-/

namespace Thicket

/-! ## Sequences -/

/-- Whether a step may take a number of symbols. -/
def Step.Allows (s : Step) (count : Nat) : Prop := s.least ≤ count ∧ count ≤ s.most

namespace Sequence

/-- A sequence spells a list of ids when each step takes a number of symbols that it allows. -/
def Spells (s : Sequence) (counts : List Nat) (ids : List SymbolId) : Prop :=
  List.Forall₂ Step.Allows s counts ∧
    ids = (List.zipWith (fun step count => List.replicate count step.id) s counts).flatten

/-- A sequence derives a list of ids when it spells the list and takes at least one symbol. -/
def Derives (s : Sequence) (ids : List SymbolId) : Prop :=
  ∃ counts, s.Spells counts ids ∧ 1 ≤ counts.sum

theorem spells_nil : Spells [] [] [] := ⟨.nil, rfl⟩

theorem Spells.cons {s : Sequence} {counts : List Nat} {ids : List SymbolId} (h : s.Spells counts ids)
    {step : Step} {count : Nat} (hcount : step.Allows count) :
    Spells (step :: s) (count :: counts) (List.replicate count step.id ++ ids) := by
  obtain ⟨hcounts, rfl⟩ := h
  exact ⟨.cons hcount hcounts, rfl⟩

/-- What a sequence spells begins with the block of its first step. -/
theorem Spells.exists_block {step : Step} {s : Sequence} {counts : List Nat} {ids : List SymbolId}
    (h : Spells (step :: s) counts ids) :
    ∃ count counts' ids', step.Allows count ∧ s.Spells counts' ids' ∧
      counts = count :: counts' ∧ ids = List.replicate count step.id ++ ids' := by
  obtain ⟨hcounts, rfl⟩ := h
  obtain ⟨count, counts', hcount, hrest, rfl⟩ := List.forall₂_cons_left_iff.1 hcounts
  exact ⟨count, counts', _, hcount, ⟨hrest, rfl⟩, rfl, rfl⟩

/-- There are as many ids as the steps take. -/
theorem Spells.length_eq {s : Sequence} {counts : List Nat} {ids : List SymbolId}
    (h : s.Spells counts ids) : ids.length = counts.sum := by
  induction s generalizing counts ids with
  | nil =>
    obtain ⟨hcounts, rfl⟩ := h
    rw [List.forall₂_nil_left_iff.1 hcounts]
    rfl
  | cons step s ih =>
    obtain ⟨count, counts, ids, -, hrest, rfl, rfl⟩ := h.exists_block
    rw [List.length_append, List.length_replicate, ih hrest, List.sum_cons]

/-- What a sequence spells begins with the block of its first step that takes any; the steps before it
need none. -/
theorem Spells.exists_step {s : Sequence} {counts : List Nat} {id : SymbolId} {ids : List SymbolId}
    (h : s.Spells counts (id :: ids)) :
    ∃ before a after count counts' ids', s = before ++ a :: after ∧ (∀ b ∈ before, b.least = 0) ∧
      a.Allows (count + 1) ∧ Spells after counts' ids' ∧
      id :: ids = List.replicate (count + 1) a.id ++ ids' := by
  induction s generalizing counts with
  | nil => cases h.2
  | cons step s ih =>
    obtain ⟨count, counts, ids', hcount, hrest, -, hids⟩ := h.exists_block
    by_cases hzero : count = 0
    · -- the step takes nothing, so the rest spells all of it
      rw [hzero, List.replicate_zero, List.nil_append] at hids
      rw [← hids] at hrest
      obtain ⟨before, a, after, count', counts', ids', hs, hbefore, hafter⟩ := ih hrest
      have hleast : step.least = 0 := by
        have := hcount.1
        omega
      refine ⟨step :: before, a, after, count', counts', ids', ?_, ?_, hafter⟩
      · rw [hs, List.cons_append]
      · intro b hb
        rcases List.mem_cons.1 hb with rfl | hb
        · exact hleast
        · exact hbefore b hb
    · obtain ⟨n, rfl⟩ := Nat.exists_eq_succ_of_ne_zero hzero
      exact ⟨[], step, s, n, counts, ids', rfl, by simp, hcount, hrest, hids⟩

/-- A sequence that spells nothing needs no root at any step. -/
theorem Spells.least_eq_zero {s : Sequence} {counts : List Nat} (h : s.Spells counts []) :
    ∀ b ∈ s, b.least = 0 := by
  induction s generalizing counts with
  | nil => simp
  | cons step s ih =>
    obtain ⟨count, counts, ids, hcount, hrest, -, hids⟩ := h.exists_block
    obtain ⟨hblock, hnil⟩ := List.append_eq_nil_iff.1 hids.symm
    have hzero : count = 0 := by simpa using hblock
    rw [hnil] at hrest
    intro b hb
    rcases List.mem_cons.1 hb with rfl | hb
    · have := hcount.1
      omega
    · exact ih hrest b hb

end Sequence

/-! ## Walks -/

theorem Step.takes_le_most (s : Step) (roots : Forest) : s.takes roots ≤ s.most := by
  have htake := (List.takeWhile_sublist (p := fun n : Node => decide (n.id = s.id))
    (l := roots.take s.most)).length_le
  have hmost := List.length_take_le s.most roots
  exact Nat.le_trans htake hmost

/-- What a step takes are the first roots, and they have its id. -/
theorem Step.take_takes (s : Step) (roots : Forest) :
    (roots.take (s.takes roots)).map Node.id = List.replicate (s.takes roots) s.id := by
  have hprefix : (roots.take s.most).takeWhile (·.id = s.id) <+: roots :=
    (List.takeWhile_prefix _).trans (List.take_prefix _ _)
  have htake : roots.take (s.takes roots) = (roots.take s.most).takeWhile (·.id = s.id) :=
    (List.prefix_iff_eq_take.1 hprefix).symm
  rw [htake, List.eq_replicate_iff]
  refine ⟨List.length_map _, ?_⟩
  intro id hid
  obtain ⟨n, hn, rfl⟩ := List.mem_map.1 hid
  exact of_decide_eq_true (List.mem_takeWhile_imp (p := fun n : Node => n.id = s.id) hn)

theorem Step.takes_le_length (s : Step) (roots : Forest) : s.takes roots ≤ roots.length := by
  have htakes := congrArg List.length (s.take_takes roots)
  rw [List.length_map, List.length_take, List.length_replicate] at htakes
  omega

/-- A step runs out of roots when it has taken the last one and may take more. -/
def Step.RunsOut (s : Step) (roots : Forest) : Prop :=
  s.takes roots = roots.length ∧ roots.length < s.most

instance (s : Step) (roots : Forest) : Decidable (s.RunsOut roots) :=
  inferInstanceAs (Decidable (_ ∧ _))

theorem Step.runsOut_iff_drop {s : Step} {roots : Forest} :
    s.RunsOut roots ↔ s.takes roots < s.most ∧ roots.drop (s.takes roots) = [] := by
  have hle := s.takes_le_length roots
  rw [RunsOut, List.drop_eq_nil_iff]
  omega

namespace Sequence

/-- Following a sequence is to take the roots of the first step, if these are enough, and to follow the
other steps over what is left; the walk is open if the first step runs out or the rest of it is open. -/
theorem follow_cons_eq_some_iff {step : Step} {s : Sequence} {roots : Forest} {w : Walk} :
    follow (step :: s) roots = some w ↔ step.least ≤ step.takes roots ∧
      ∃ rest, s.follow (roots.drop (step.takes roots)) = some rest ∧
        w = ⟨step.takes roots + rest.length, decide (step.RunsOut roots) || rest.isOpen⟩ := by
  have hout : (decide (step.takes roots < step.most) && (roots.drop (step.takes roots)).isEmpty) =
      decide (step.RunsOut roots) := by
    rw [Bool.eq_iff_iff, decide_eq_true_eq, Step.runsOut_iff_drop, Bool.and_eq_true, decide_eq_true_eq,
      List.isEmpty_iff]
  rw [follow, hout]
  split
  · next hless =>
    refine iff_of_false nofun ?_
    rintro ⟨hleast, -⟩
    omega
  · next hleast =>
    rw [Option.map_eq_some_iff]
    constructor
    · rintro ⟨rest, hrest, rfl⟩
      exact ⟨Nat.le_of_not_lt hleast, rest, hrest, rfl⟩
    · rintro ⟨-, rest, hrest, rfl⟩
      exact ⟨rest, hrest, rfl⟩

/-- What a sequence takes when it is followed is spelled by it. -/
theorem spells_of_follow {s : Sequence} {roots : Forest} {w : Walk} (h : s.follow roots = some w) :
    ∃ counts, s.Spells counts ((roots.take w.length).map Node.id) := by
  induction s generalizing roots w with
  | nil =>
    rw [follow] at h
    cases h
    exact ⟨[], spells_nil⟩
  | cons step s ih =>
    obtain ⟨hleast, rest, hrest, rfl⟩ := follow_cons_eq_some_iff.1 h
    obtain ⟨counts, hspells⟩ := ih hrest
    have hcount : step.Allows (step.takes roots) := ⟨hleast, step.takes_le_most roots⟩
    refine ⟨step.takes roots :: counts, ?_⟩
    -- the roots of the step come first, then those of the other steps
    rw [List.take_add, List.map_append, step.take_takes]
    exact hspells.cons hcount

/-- A walk does not take more roots than there are. -/
theorem length_le_of_follow {s : Sequence} {roots : Forest} {w : Walk}
    (h : s.follow roots = some w) : w.length ≤ roots.length := by
  induction s generalizing roots w with
  | nil =>
    rw [follow] at h
    cases h
    exact Nat.zero_le _
  | cons step s ih =>
    obtain ⟨-, rest, hrest, rfl⟩ := follow_cons_eq_some_iff.1 h
    have hlength := ih hrest
    have htakes := step.takes_le_length roots
    rw [List.length_drop] at hlength
    show step.takes roots + rest.length ≤ roots.length
    omega

/-- A match is a walk that takes at least one root. -/
theorem walk?_eq_some_iff {s : Sequence} {roots : Forest} {w : Walk} :
    s.walk? roots = some w ↔ s.follow roots = some w ∧ 0 < w.length := by
  rw [walk?, Option.filter_eq_some_iff, decide_eq_true_eq]

/-- A match takes some roots, and the sequence derives their ids. -/
theorem derives_of_walk? {s : Sequence} {roots : Forest} {w : Walk} (h : s.walk? roots = some w) :
    roots.take w.length ≠ [] ∧ s.Derives ((roots.take w.length).map Node.id) := by
  obtain ⟨hfollow, hpos⟩ := walk?_eq_some_iff.1 h
  have hle := length_le_of_follow hfollow
  have hlength : (roots.take w.length).length = w.length := List.length_take_of_le hle
  obtain ⟨counts, hspells⟩ := spells_of_follow hfollow
  refine ⟨List.ne_nil_of_length_pos (by omega), counts, hspells, ?_⟩
  have hsum := hspells.length_eq
  rw [List.length_map] at hsum
  omega

/-- The leftmost match is one from the place on where it begins. -/
theorem walk?_of_firstWalk? {s : Sequence} {roots : Forest} {start : Nat} {w : Walk}
    (h : s.firstWalk? roots = some (start, w)) : s.walk? (roots.drop start) = some w := by
  induction roots generalizing start with
  | nil =>
    rw [firstWalk?] at h
    cases h
  | cons root rest ih =>
    rw [firstWalk?] at h
    split at h
    · next hwalk =>
      cases h
      exact hwalk
    · obtain ⟨⟨start, _⟩, hrest, heq⟩ := Option.map_eq_some_iff.1 h
      cases heq
      rw [List.drop_succ_cons]
      exact ih hrest

end Sequence

/-! ## Grammars -/

/-- The alternative of a definition that is used over some roots: the first one that matches anywhere. -/
def Definition.used? (d : Definition) (roots : Forest) : Option Sequence :=
  d.alternatives.find? fun s => (s.firstWalk? roots).isSome

namespace Grammar

/-- A grammar derives a list of ids from a nonterminal when an alternative of its definition does. -/
def Derives (g : Grammar) (id : SymbolId) (ids : List SymbolId) : Prop :=
  ∃ d, g.lookup id = .ok d ∧ ∃ s ∈ d.alternatives, s.Derives ids

/-- A node that a grammar may make: it has children, its text is its id in decimal, and the grammar
derives the ids of the children from it. -/
structure Makes (g : Grammar) (n : Node) : Prop where
  children_ne_nil : n.children ≠ []
  text_eq : n.text = n.id.text
  derives : g.Derives n.id (n.children.map Node.id)

/-- The first match is the leftmost one of the alternative that is used. -/
theorem exists_used_of_firstReduction? {g : Grammar} {roots : Forest} {r : Reduction}
    (h : g.firstReduction? roots = some r) :
    ∃ d s, g.lookup r.id = .ok d ∧ d.used? roots = some s ∧ s.firstWalk? roots = some (r.start, r.walk) := by
  obtain ⟨⟨id, d⟩, hmem, hproduction⟩ := List.exists_of_findSome?_eq_some h
  obtain ⟨before, s, after, halternatives, hsequence, hbefore⟩ := List.findSome?_eq_some_iff.1 hproduction
  obtain ⟨⟨start, w⟩, hwalk, rfl⟩ := Option.map_eq_some_iff.1 hsequence
  refine ⟨d, s, lookup_of_mem hmem, ?_, hwalk⟩
  rw [Definition.used?, List.find?_eq_some_iff_append]
  refine ⟨by rw [hwalk, Option.isSome_some], before, after, halternatives, ?_⟩
  intro t ht
  rw [Option.map_eq_none_iff.1 (hbefore t ht)]
  rfl

/-- The node that the first match is folded into is one that the grammar may make. -/
theorem makes_of_firstReduction? {g : Grammar} {roots : Forest} {r : Reduction}
    (h : g.firstReduction? roots = some r) : g.Makes (r.node roots) := by
  obtain ⟨d, s, hd, hs, hwalk⟩ := exists_used_of_firstReduction? h
  obtain ⟨hspan, hderives⟩ := Sequence.derives_of_walk? (Sequence.walk?_of_firstWalk? hwalk)
  exact ⟨hspan, rfl, d, hd, s, List.mem_of_find?_eq_some hs, hderives⟩

end Grammar

end Thicket
