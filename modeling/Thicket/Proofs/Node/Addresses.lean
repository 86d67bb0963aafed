import Mathlib.Data.List.Nodup
import Thicket.Proofs.Node.Subtrees

/-!
# Addresses of nodes

A tree may have equal nodes in different places. What tells them apart is the address: it says, from the
root on, which child to go to. `Node.located` lists the nodes of a tree in preorder with their addresses.
It holds every node that an address leads to (`Node.mem_located_iff`), and no address twice
(`Node.nodup_located`), so each node of the tree has just one place in it (`Node.existsUnique_located_iff`).
-/

namespace Thicket

/-- The node that an address leads to, if the tree has one there. -/
def Node.descend? (n : Node) : List Nat → Option Node
  | [] => some n
  | i :: rest => n.children[i]?.bind (·.descend? rest)

mutual

/-- All nodes of a tree in preorder with their addresses, as those of a tree whose root has the given
address. -/
def Node.located (address : List Nat) : Node → List (List Nat × Node)
  | .mk s cs => (address, .mk s cs) :: Forest.located address 0 cs

/-- All nodes of a forest in preorder with their addresses, as those of the children, counted from `first`,
of the node with the given address. -/
def Forest.located (address : List Nat) (first : Nat) : Forest → List (List Nat × Node)
  | [] => []
  | n :: ns => Node.located (address ++ [first]) n ++ Forest.located address (first + 1) ns

end

/-! ## Which addresses there are -/

mutual

theorem Node.mem_located_iff {address q : List Nat} {n m : Node} :
    (q, m) ∈ n.located address ↔ ∃ p, q = address ++ p ∧ n.descend? p = some m := by
  cases n with
  | mk s cs =>
    rw [Node.located, List.mem_cons, Prod.mk.injEq, Forest.mem_located_iff]
    constructor
    · rintro (⟨rfl, rfl⟩ | ⟨i, c, p, hc, rfl, hm⟩)
      · exact ⟨[], (List.append_nil q).symm, rfl⟩
      · refine ⟨i :: p, by rw [Nat.zero_add], ?_⟩
        rw [Node.descend?, Node.children, hc, Option.bind_some, hm]
    · rintro ⟨p, rfl, hm⟩
      cases p with
      | nil =>
        cases hm
        exact .inl ⟨List.append_nil address, rfl⟩
      | cons i p =>
        obtain ⟨c, hc, hm⟩ := Option.bind_eq_some_iff.1 hm
        exact .inr ⟨i, c, p, hc, by rw [Nat.zero_add], hm⟩

theorem Forest.mem_located_iff {address q : List Nat} {first : Nat} {forest : Forest} {m : Node} :
    (q, m) ∈ Forest.located address first forest ↔
      ∃ i c p, forest[i]? = some c ∧ q = address ++ (first + i) :: p ∧ c.descend? p = some m := by
  cases forest with
  | nil => simp [Forest.located]
  | cons n ns =>
    rw [Forest.located, List.mem_append, Node.mem_located_iff, Forest.mem_located_iff]
    constructor
    · rintro (⟨p, rfl, hm⟩ | ⟨i, c, p, hc, rfl, hm⟩)
      · exact ⟨0, n, p, rfl, List.append_assoc address [first] p, hm⟩
      · exact ⟨i + 1, c, p, hc, by rw [Nat.add_assoc, Nat.add_comm 1], hm⟩
    · rintro ⟨i, c, p, hc, rfl, hm⟩
      cases i with
      | zero =>
        cases hc
        exact .inl ⟨p, (List.append_assoc address [first] p).symm, hm⟩
      | succ i => exact .inr ⟨i, c, p, hc, by rw [Nat.add_assoc, Nat.add_comm 1], hm⟩

end

/-! ## Every address once -/

mutual

theorem Node.nodup_located (address : List Nat) (n : Node) :
    ((n.located address).map Prod.fst).Nodup := by
  cases n with
  | mk s cs =>
    rw [Node.located, List.map_cons, List.nodup_cons]
    refine ⟨?_, Forest.nodup_located address 0 cs⟩
    intro hmem
    obtain ⟨⟨q, m⟩, hm, hq⟩ := List.mem_map.1 hmem
    obtain ⟨i, c, p, -, rfl, -⟩ := Forest.mem_located_iff.1 hm
    -- the address of what stands below the root is longer
    have hlength := congrArg List.length hq
    simp at hlength

theorem Forest.nodup_located (address : List Nat) (first : Nat) (forest : Forest) :
    ((Forest.located address first forest).map Prod.fst).Nodup := by
  cases forest with
  | nil => exact List.nodup_nil
  | cons n ns =>
    rw [Forest.located, List.map_append]
    refine List.Nodup.append (Node.nodup_located _ n) (Forest.nodup_located address (first + 1) ns) ?_
    intro q hn hns
    obtain ⟨⟨_, m⟩, hm, rfl⟩ := List.mem_map.1 hn
    obtain ⟨⟨_, m'⟩, hm', hq⟩ := List.mem_map.1 hns
    obtain ⟨p, rfl, -⟩ := Node.mem_located_iff.1 hm
    obtain ⟨i, c, p', -, rfl, -⟩ := Forest.mem_located_iff.1 hm'
    -- behind the common address the numbers of the children differ
    rw [List.append_assoc] at hq
    have hchild := (List.cons.inj (List.append_cancel_left hq)).1
    omega

end

/-- An address leads to a node just if the node has one place in preorder under that address. -/
theorem Node.existsUnique_located_iff {n m : Node} {p : List Nat} :
    n.descend? p = some m ↔ ∃! k : Nat, (n.located [])[k]? = some (p, m) := by
  have hmem : (p, m) ∈ n.located [] ↔ n.descend? p = some m := by
    simp only [Node.mem_located_iff, List.nil_append, exists_eq_left']
  rw [← hmem, List.mem_iff_getElem?]
  constructor
  · rintro ⟨k, hk⟩
    refine ⟨k, hk, fun j hj => ?_⟩
    have hbound : j < (n.located []).length := (List.getElem?_eq_some_iff.1 hj).1
    have hnodup : (n.located []).Nodup := (n.nodup_located []).of_map
    exact (List.getElem?_inj hbound hnodup).1 (hj.trans hk.symm)
  · rintro ⟨k, hk, -⟩
    exact ⟨k, hk⟩

/-! ## Preorder -/

mutual

theorem Node.map_snd_located (address : List Nat) (n : Node) :
    (n.located address).map Prod.snd = n.subtrees := by
  cases n with
  | mk s cs => rw [Node.located, Node.subtrees, List.map_cons, Forest.map_snd_located]

/-- Without their addresses, the nodes are listed as the subtrees are. -/
theorem Forest.map_snd_located (address : List Nat) (first : Nat) (forest : Forest) :
    (Forest.located address first forest).map Prod.snd = Forest.subtrees forest := by
  cases forest with
  | nil => rfl
  | cons n ns =>
    rw [Forest.located, Forest.subtrees, List.map_append, Node.map_snd_located, Forest.map_snd_located]

end

theorem Node.length_located (address : List Nat) (n : Node) : (n.located address).length = n.size := by
  rw [← List.length_map Prod.snd, Node.map_snd_located, Forest.length_subtrees_node]

/-! ## Children -/

/-- The trees of a forest with their addresses, as the children, counted from `first`, of the node with the
given address. -/
def Forest.placed (address : List Nat) (first : Nat) (forest : Forest) : List (List Nat × Node) :=
  (forest.zipIdx first).map fun (n, i) => (address ++ [i], n)

theorem Forest.map_snd_placed (address : List Nat) (first : Nat) (forest : Forest) :
    (placed address first forest).map Prod.snd = forest := by
  rw [placed, List.map_map]
  exact List.zipIdx_map_fst first forest

/-- The nodes of a forest are those of its trees, one after the other. -/
theorem Forest.located_eq_flatMap (address : List Nat) (first : Nat) (forest : Forest) :
    located address first forest = (placed address first forest).flatMap fun (p, n) => n.located p := by
  induction forest generalizing first with
  | nil => rfl
  | cons n ns ih =>
    rw [located, ih (first + 1), placed, placed, List.zipIdx_cons, List.map_cons, List.flatMap_cons]

end Thicket
